import RadarAim.Daemon

/-! Whom a stop flag stops. The daemon does not remove a flag that it finds when it starts, so one that was left
    by a daemon that was killed before its next check stops the next daemon. -/

namespace RadarAim.Daemon
namespace StopFlag

/-- Every instance that a flag has stopped was running when that flag was written. -/
def OnlyMeant (s : System) : Prop := ∀ p ∈ s.stopped, p.2.running p.1 = true

/-- No flag file exists. -/
def NoFlag (s : System) : Prop := s.flag = none

/-- Whoever runs while a flag exists ran when it was written. -/
structure Inv (s : System) : Prop where
  flag : ∀ f, s.flag = some f → ∀ i d, s.instances i = some d → f.running i = true
  meant : OnlyMeant s

/-- What the elementary updates keep is kept by every step. -/
theorem step_keeps {P : System → Prop}
    (setInstance : ∀ {s i e}, P s → s.instances i = some e → ∀ d, P (s.setInstance i d))
    (kill : ∀ {s}, P s → ∀ i, P (s.setInstance i none))
    (killAll : ∀ {s}, P s → P { s with instances := fun _ => none })
    (writeFlag : ∀ {s}, P s → P s.writeFlag) (unlinkFlag : ∀ {s}, P s → P s.unlinkFlag)
    (senders : ∀ {s}, P s → ∀ overlayStopping app, P { s with overlayStopping := overlayStopping, app := app })
    (foundFlag : ∀ {s i e f}, P s → s.instances i = some e → s.flag = some f → ∀ d, P (s.foundFlag i f d))
    {s t : System} (h : P s) (hs : Step s t) : P t := by
  cases hs with
  | overlayFlag _ => exact senders (writeFlag h) true s.app
  | overlayNoFlag _ => exact senders h true s.app
  | overlayKill _ => exact senders (killAll h) false s.app
  | appFlag _ => exact senders (writeFlag h) s.overlayStopping .terminating
  | appNoFlag _ => exact senders h s.overlayStopping .terminating
  | appNoDaemon _ => exact senders h s.overlayStopping .idle
  | appTerm _ hi => exact senders (setInstance h hi _) s.overlayStopping _
  | appKill _ => exact senders (kill h _) s.overlayStopping .idle
  | appSpare _ => exact senders h s.overlayStopping .idle
  | appClear => exact unlinkFlag h
  | term hi => exact setInstance h hi _
  | kill => exact kill h _
  | mainGoes hi _ _ => exact setInstance h hi _
  | mainEnds hi _ _ => exact setInstance h hi _
  | mainFound hi _ hf => exact foundFlag h hi hf _
  | mainNotFound hi _ _ => exact setInstance h hi _
  | mainUnlinks hi _ => exact setInstance (unlinkFlag h) hi _
  | mainTarget hi _ => exact setInstance h hi _
  | mainNoTarget hi _ => exact setInstance h hi _
  | mainSlept hi _ => exact setInstance h hi _
  | radarGoes hi _ _ => exact setInstance h hi _
  | radarEnds hi _ _ => exact setInstance h hi _
  | radarFound hi _ hf => exact foundFlag h hi hf _
  | radarNotFound hi _ _ => exact setInstance h hi _
  | radarUnlinks hi _ => exact setInstance (unlinkFlag h) hi _
  | radarTicked hi _ => exact setInstance h hi _
  | radarLeft hi _ => exact setInstance h hi _
  | radarDestroyed hi _ => exact setInstance h hi _
  | exits hi _ => exact setInstance h hi _

section
variable {s : System}

theorem inv_boot : Inv System.boot :=
  ⟨fun f hf => (by cases hf), fun p hp => (by cases hp)⟩

/-- A running instance makes a step, or ends. -/
theorem Inv.setInstance (h : Inv s) {i : Nat} {e : Instance} (hi : s.instances i = some e) (d : Option Instance) :
    Inv (s.setInstance i d) := by
  refine ⟨fun f hf j e' hj => ?_, h.meant⟩
  by_cases hij : j = i
  · exact h.flag f hf j e (hij ▸ hi)
  · rw [System.instances_setInstance, Function.update_of_ne hij] at hj
    exact h.flag f hf j e' hj

theorem Inv.kill (h : Inv s) (i : Nat) : Inv (s.setInstance i none) := by
  refine ⟨fun f hf j e hj => ?_, h.meant⟩
  by_cases hij : j = i
  · rw [System.instances_setInstance, hij, Function.update_self] at hj
    cases hj
  · rw [System.instances_setInstance, Function.update_of_ne hij] at hj
    exact h.flag f hf j e hj

theorem Inv.writeFlag (h : Inv s) : Inv s.writeFlag := by
  refine ⟨fun f hf i d hi => ?_, h.meant⟩
  cases hf
  show (s.instances i).isSome = true
  rw [show s.instances i = some d from hi]
  rfl

theorem Inv.unlinkFlag (h : Inv s) : Inv s.unlinkFlag :=
  ⟨fun f hf => (by cases hf), h.meant⟩

/-- The senders' own variables do not matter. -/
theorem Inv.senders (h : Inv s) (overlayStopping : Bool) (app : App) :
    Inv { s with overlayStopping := overlayStopping, app := app } := ⟨h.flag, h.meant⟩

theorem Inv.foundFlag (h : Inv s) {i : Nat} {e : Instance} {f : Flag} (hi : s.instances i = some e)
    (hf : s.flag = some f) (d : Instance) : Inv (s.foundFlag i f d) := by
  refine ⟨(h.setInstance hi (some d)).flag, fun p hp => ?_⟩
  rcases List.mem_append.mp hp with hp | hp
  · exact h.meant p hp
  · rw [List.mem_singleton.mp hp]
    exact h.flag f hf i e hi

theorem Inv.start (h : Inv s) (hno : NoFlag s) : Inv s.start := by
  refine ⟨fun f hf => ?_, h.meant⟩
  have hnone : s.flag = some f := hf
  rw [hno] at hnone
  cases hnone

theorem Inv.killAll (h : Inv s) : Inv { s with instances := fun _ => none } :=
  ⟨fun f hf i d hi => (by cases hi), h.meant⟩

theorem Inv.step {t : System} (h : Inv s) (hs : Step s t) : Inv t :=
  step_keeps (P := Inv) (fun h hi d => h.setInstance hi d) Inv.kill Inv.killAll Inv.writeFlag Inv.unlinkFlag Inv.senders
    (fun h hi hf d => h.foundFlag hi hf d) h hs

/-- No instance beyond those started runs, or ran when the flag was written. -/
structure Numbered (s : System) : Prop where
  instances : ∀ i, s.started ≤ i → s.instances i = none
  flag : ∀ f, s.flag = some f → ∀ i, s.started ≤ i → f.running i = false

theorem numbered_boot : Numbered System.boot := ⟨fun _ _ => rfl, fun f hf => (by cases hf)⟩

theorem Numbered.setInstance (h : Numbered s) {i : Nat} {e : Instance} (hi : s.instances i = some e)
    (d : Option Instance) : Numbered (s.setInstance i d) := by
  refine ⟨fun j hj => ?_, h.flag⟩
  have hij : j ≠ i := by
    rintro rfl
    have hnone := h.instances j hj
    rw [hi] at hnone
    cases hnone
  rw [System.instances_setInstance, Function.update_of_ne hij]
  exact h.instances j hj

theorem Numbered.kill (h : Numbered s) (i : Nat) : Numbered (s.setInstance i none) := by
  refine ⟨fun j hj => ?_, h.flag⟩
  by_cases hij : j = i
  · rw [System.instances_setInstance, hij, Function.update_self]
  · rw [System.instances_setInstance, Function.update_of_ne hij]
    exact h.instances j hj

theorem Numbered.writeFlag (h : Numbered s) : Numbered s.writeFlag := by
  refine ⟨h.instances, fun f hf i hi => ?_⟩
  cases hf
  show (s.instances i).isSome = false
  rw [h.instances i hi]
  rfl

theorem Numbered.unlinkFlag (h : Numbered s) : Numbered s.unlinkFlag := ⟨h.instances, fun f hf => (by cases hf)⟩

theorem Numbered.senders (h : Numbered s) (overlayStopping : Bool) (app : App) :
    Numbered { s with overlayStopping := overlayStopping, app := app } := ⟨h.instances, h.flag⟩

theorem Numbered.start (h : Numbered s) : Numbered s.start := by
  refine ⟨fun j hj => ?_, fun f hf j hj => h.flag f hf j (Nat.le_of_succ_le hj)⟩
  show Function.update s.instances s.started _ j = none
  rw [Function.update_of_ne (Nat.ne_of_gt hj)]
  exact h.instances j (Nat.le_of_succ_le hj)

theorem Numbered.step {t : System} (h : Numbered s) (hs : Step s t) : Numbered t :=
  step_keeps (P := Numbered) (fun h hi d => h.setInstance hi d) Numbered.kill (fun h => ⟨fun _ _ => rfl, h.flag⟩)
    Numbered.writeFlag Numbered.unlinkFlag Numbered.senders
    (fun h hi _ d => ⟨(h.setInstance hi (some d)).instances, h.flag⟩) h hs

end

/-! ### Runs -/

section
variable {mayStart : System → Prop} {s : System}

theorem run_inv (clean : ∀ s, Run mayStart s → mayStart s → NoFlag s) (h : Run mayStart s) : Inv s := by
  induction h with
  | boot => exact inv_boot
  | step hrun hs ih => exact ih.step hs
  | start hrun hmay ih => exact ih.start (clean _ hrun hmay)

theorem run_numbered (h : Run mayStart s) : Numbered s := by
  induction h with
  | boot => exact numbered_boot
  | step hrun hs ih => exact ih.step hs
  | start hrun hmay ih => exact ih.start

/-- A daemon that is started while a flag exists may go on to find it. -/
theorem start_found (h : Run mayStart s) (hmay : mayStart s) {f : Flag} (hf : s.flag = some f) :
    Run mayStart ((s.start.setInstance s.started (some ⟨.mainAccess, true⟩)).foundFlag s.started f
      ⟨.mainUnlink, true⟩) := by
  have hstart : s.start.instances s.started = some ⟨.mainTest, true⟩ := Function.update_self _ _ _
  have hgoes :
      (s.start.setInstance s.started (some ⟨.mainAccess, true⟩)).instances s.started = some ⟨.mainAccess, true⟩ :=
    Function.update_self _ _ _
  exact .step (.step (.start h hmay) (.mainGoes hstart rfl rfl)) (.mainFound hgoes rfl hf)

/-- The flag stops only those for whom it was meant if and only if no daemon is started while a flag exists. -/
theorem onlyMeant_iff (mayStart : System → Prop) :
    (∀ s, Run mayStart s → OnlyMeant s) ↔ ∀ s, Run mayStart s → mayStart s → NoFlag s := by
  refine ⟨fun hmeant s h hmay => ?_, fun clean s h => (run_inv clean h).meant⟩
  cases hf : s.flag with
  | none => exact hf
  | some f =>
    have hrunning := hmeant _ (start_found h hmay hf) (s.started, f)
      (List.mem_append_right _ (List.mem_singleton.mpr rfl))
    rw [(run_numbered h).flag f hf s.started (Nat.le_refl _)] at hrunning
    cases hrunning

end

/-! ### A flag that is left -/

/-- The first daemon runs, and finds no flag. -/
def one : System := System.boot.start

/-- The overlay has written the flag and killed the daemon before its next check. -/
def killed : System := { one.writeFlag with instances := fun _ => none, overlayStopping := false }

theorem killed_run (mayStart : System → Prop) (h : mayStart System.boot) : Run mayStart killed :=
  .step (.step (.start .boot h) (.overlayFlag rfl)) (.overlayKill rfl)

/-- The second daemon was not running when the flag that stops it was written. -/
theorem left_flag_stops : ¬∀ s, Run (fun _ => True) s → OnlyMeant s := by
  intro hmeant
  have hrunning := hmeant _ (start_found (killed_run _ trivial) trivial rfl) (1, ⟨fun i => (one.instances i).isSome⟩)
    (List.mem_append_right _ (List.mem_singleton.mpr rfl))
  cases hrunning

end StopFlag
end RadarAim.Daemon
