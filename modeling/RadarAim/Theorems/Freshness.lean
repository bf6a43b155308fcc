import RadarAim.Theorems.Touch

/-! Touch events on a snapshot that is out of date. Both drawing routines look at the age of the snapshot, the
    gate of the aim engine does not: it steers on the last snapshot for as long as that one shows a target. -/

namespace RadarAim.Overlay
namespace Freshness
open Ieee Touch

section
variable {D : Type} [Double D]

/-- The test of `esp_drawRect`: the tick counter of the snapshot has not changed for more than two seconds. -/
def Stale (t : Tick D) : Prop := (2.0 : D) < t.input.now - t.gate.changedAt

instance (t : Tick D) : Decidable (Stale t) := inferInstanceAs (Decidable (_ < _))

/-- The snapshot is stale, or the radar was stopped and no snapshot has been accepted since. -/
def Dead (t : Tick D) : Prop := Stale t ∨ t.gate.stopped = true

end

section
variable {D : Type}

/-- The events that a tick has sent. -/
def events (t : Tick D) : List TouchState := (states t.finish.sim).drop (states t.start.sim).length

/-- Neither `Down` nor `Move` is sent, and `Up` if a contact was held. -/
def Quiet (t : Tick D) : Prop :=
  (∀ e ∈ events t, e = .up) ∧ (t.start.sim.touchDown = true → .up ∈ events t)

end

/-! ### What the aim engine sends -/

section
variable {D : Type} [Double D]

/-- The stroke of the locked target ends in this tick. -/
def StrokeEnds (i : TickInput D) (s : State D) (best : Best D) : Prop :=
  Sim.strokeEnds s.zone (s.sim.strokeFrames + 1) (s.sim.normX + (s.aimStep i best.pos s.sim.strokeFrames).1)
    (s.sim.normY + (s.aimStep i best.pos s.sim.strokeFrames).2)

instance (i : TickInput D) (s : State D) (best : Best D) : Decidable (StrokeEnds i s best) :=
  inferInstanceAs (Decidable (Sim.strokeEnds _ _ _ _))

/-- The target is off the centre. -/
def OffCentre (i : TickInput D) (s : State D) (best : Best D) : Prop := (2.5 : D) < (s.aimDelta i best.pos).2.2

instance (i : TickInput D) (s : State D) (best : Best D) : Decidable (OffCentre i s best) :=
  inferInstanceAs (Decidable ((2.5 : D) < _))

def liftEvents (touchDown : Bool) : List TouchState := if touchDown then [.up] else []

/-- What is sent for the locked target when no pause is running. -/
def lockedEvents (i : TickInput D) (s : State D) (best : Best D) : List TouchState :=
  if OffCentre i s best then
    if s.sim.touchDown then if StrokeEnds i s best then [.up] else [.move] else [.down]
  else liftEvents s.sim.touchDown

/-- What is sent for the target `best`, and without a target. -/
def targetEvents (i : TickInput D) (s : State D) (best : Best D) : List TouchState :=
  if best.idx < 0 then liftEvents s.sim.touchDown
  else if best.idx ≠ s.sim.lockedPlayerIdx then liftEvents s.sim.touchDown ++ [.down]
  else if s.sim.recenterPause ≠ 0 then [.down]
  else lockedEvents i s best

variable {i : TickInput D} {s : State D} {best : Best D}

theorem states_lift {D : Type} (zone : Zone D) (sim : Sim D) :
    states (sim.lift zone) = states sim ++ liftEvents sim.touchDown := by
  cases hdown : sim.touchDown <;> simp [Sim.lift, states, liftEvents, Sim.hidTouchEvent, hdown]

theorem states_release {D : Type} (zone : Zone D) (sim : Sim D) :
    states (sim.release zone) = states sim ++ liftEvents sim.touchDown := by
  cases hdown : sim.touchDown <;> simp [Sim.release, Sim.recenter, states, liftEvents, Sim.hidTouchEvent, hdown]

theorem states_touchDownAt {D : Type} (zone : Zone D) (sim : Sim D) :
    states (sim.touchDownAt zone) = states sim ++ [.down] := by
  simp [Sim.touchDownAt, Sim.recenter, states, Sim.hidTouchEvent]

theorem states_stroke (zone : Zone D) (sim : Sim D) (stepX stepY : D) :
    states (sim.stroke zone stepX stepY) = states sim ++
      if Sim.strokeEnds zone (sim.strokeFrames + 1) (sim.normX + stepX) (sim.normY + stepY) then [.up]
      else [.move] := by
  unfold Sim.stroke
  dsimp only
  split <;> simp [Sim.recenter, states, Sim.hidTouchEvent]

/-- Only the finger's own variables and the place of the target tell one steering from another. -/
theorem states_steer_locked (zone : Zone D) (dist stepX stepY : D) (sim : Sim D) (pos : CGPoint D)
    (hpause : sim.recenterPause = 0) :
    states (Sim.steer zone dist stepX stepY { sim with lockedScreenPos := pos }) = states sim ++
      if (2.5 : D) < dist then
        if sim.touchDown then
          if Sim.strokeEnds zone (sim.strokeFrames + 1) (sim.normX + stepX) (sim.normY + stepY) then [.up] else [.move]
        else [.down]
      else liftEvents sim.touchDown := by
  unfold Sim.steer
  rw [if_neg (show ¬0 < sim.recenterPause by omega)]
  split
  · dsimp only
    split
    · exact states_stroke zone _ stepX stepY
    · exact states_touchDownAt zone _
  · exact states_release zone _

theorem states_steer_paused (zone : Zone D) (dist stepX stepY : D) (sim : Sim D) (hpause : sim.recenterPause = 1) :
    states (Sim.steer zone dist stepX stepY sim) = states sim ++ [.down] := by
  unfold Sim.steer Sim.pause
  rw [if_pos (show 0 < sim.recenterPause by omega), if_pos (show sim.recenterPause - 1 = 0 by omega)]
  exact states_touchDownAt zone _

theorem states_switchTarget {D : Type} (zone : Zone D) (sim : Sim D) (bestIdx : Int)
    (hne : bestIdx ≠ sim.lockedPlayerIdx) :
    states (sim.switchTarget zone bestIdx) = states sim ++ liftEvents sim.touchDown := by
  unfold Sim.switchTarget
  rw [if_neg hne]
  cases hdown : sim.touchDown <;> simp [Sim.recenter, states, liftEvents, Sim.hidTouchEvent]

theorem touchDown_switchTarget {D : Type} (zone : Zone D) (sim : Sim D) (bestIdx : Int)
    (hne : bestIdx ≠ sim.lockedPlayerIdx) : (sim.switchTarget zone bestIdx).touchDown = false := by
  unfold Sim.switchTarget
  rw [if_neg hne]
  cases hdown : sim.touchDown
  · exact hdown
  · rfl

theorem recenterPause_switchTarget {D : Type} (zone : Zone D) (sim : Sim D) (bestIdx : Int)
    (hne : bestIdx ≠ sim.lockedPlayerIdx) : (sim.switchTarget zone bestIdx).recenterPause = 1 := by
  unfold Sim.switchTarget
  rw [if_neg hne]

/-- The pause that a switch of the target begins is over in the same tick. -/
theorem states_steerTo (h : Sound s.sim) : states (s.steerTo i best) = states s.sim ++ targetEvents i s best := by
  unfold State.steerTo targetEvents
  dsimp only
  by_cases hnone : best.idx < 0
  · rw [if_neg (show ¬0 ≤ best.idx by omega), if_pos hnone, states_lift]
    by_cases hswitch : best.idx = s.sim.lockedPlayerIdx
    · rw [Sim.switchTarget, if_pos hswitch]
    · rw [states_switchTarget _ _ _ hswitch, touchDown_switchTarget _ _ _ hswitch]
      simp [liftEvents]
  · rw [if_pos (show 0 ≤ best.idx by omega), if_neg hnone]
    by_cases hswitch : best.idx = s.sim.lockedPlayerIdx
    · rw [if_neg (not_not_intro hswitch), Sim.switchTarget, if_pos hswitch]
      by_cases hpause : s.sim.recenterPause = 0
      · rw [if_neg (not_not_intro hpause)]
        exact states_steer_locked _ _ _ _ _ _ hpause
      · rw [if_pos hpause]
        exact states_steer_paused _ _ _ _ { s.sim with lockedScreenPos := best.pos } (h.paused hpause).1
    · rw [if_pos hswitch, ← List.append_assoc, ← states_switchTarget s.zone s.sim best.idx hswitch]
      exact states_steer_paused _ _ _ _ { s.sim.switchTarget s.zone best.idx with lockedScreenPos := best.pos }
        (recenterPause_switchTarget s.zone s.sim best.idx hswitch)

/-! ### When it is quiet -/

def QuietEvents (touchDown : Bool) (l : List TouchState) : Prop :=
  (∀ e ∈ l, e = .up) ∧ (touchDown = true → .up ∈ l)

theorem quiet_lift (touchDown : Bool) : QuietEvents touchDown (liftEvents touchDown) := by
  cases touchDown <;> simp [QuietEvents, liftEvents]

theorem not_quiet_of_mem {touchDown : Bool} {l : List TouchState} {e : TouchState} (he : e ∈ l) (hne : e ≠ .up) :
    ¬QuietEvents touchDown l := fun h => hne (h.1 e he)

/-- No target was found, or the locked one with no pause running, and it is centred or its stroke ends. -/
def IdleOn (i : TickInput D) (s : State D) (best : Best D) : Prop :=
  0 ≤ best.idx → best.idx = s.sim.lockedPlayerIdx ∧ s.sim.recenterPause = 0 ∧
    (OffCentre i s best → s.sim.touchDown = true ∧ StrokeEnds i s best)

/-- The gate of the aim engine is closed, or the engine is idle on the target that it finds. -/
def Idle (ar : Arith) (t : Tick D) : Prop :=
  let s := t.gate.trackPlayers ar t.input.now
  t.gate.aimGate = true → IdleOn t.input s (s.bestTarget ar t.input)

theorem quiet_targetEvents_iff :
    QuietEvents s.sim.touchDown (targetEvents i s best) ↔ IdleOn i s best := by
  unfold targetEvents
  split
  · -- Without a target a contact is lifted, if there is one.
    rename_i hnone
    exact ⟨fun _ hidx => absurd hidx (by omega), fun _ => quiet_lift _⟩
  · rename_i hidx
    split
    · -- A switch of the target sends a Down.
      rename_i hswitch
      refine ⟨fun h => absurd h (not_quiet_of_mem (e := .down) ?_ ?_), fun h => absurd (h (by omega)).1 hswitch⟩
      · exact List.mem_append_right _ (List.mem_singleton.mpr rfl)
      · exact TouchState.noConfusion
    · rename_i hswitch
      split
      · rename_i hpause
        exact ⟨fun h => absurd h (not_quiet_of_mem (List.mem_singleton.mpr rfl) TouchState.noConfusion),
          fun h => absurd (h (by omega)).2.1 hpause⟩
      · rename_i hpause
        have hlocked := not_not.mp hswitch
        have hzero := not_not.mp hpause
        unfold lockedEvents
        by_cases hoff : OffCentre i s best
        · cases hdown : s.sim.touchDown with
          | false =>
            -- A target off the centre needs a contact.
            refine ⟨fun h => absurd h (not_quiet_of_mem (e := .down) ?_ TouchState.noConfusion), fun h => ?_⟩
            · simp [hoff]
            · have htrue := ((h (by omega)).2.2 hoff).1
              rw [hdown] at htrue
              cases htrue
          | true =>
            by_cases hends : StrokeEnds i s best
            · -- The stroke is over, so the contact is lifted.
              refine ⟨fun _ _ => ⟨hlocked, hzero, fun _ => ⟨hdown, hends⟩⟩, fun _ => ?_⟩
              simp [hoff, hends, QuietEvents]
            · refine ⟨fun h => absurd h (not_quiet_of_mem (e := .move) ?_ TouchState.noConfusion), fun h => ?_⟩
              · simp [hoff, hends]
              · exact absurd ((h (by omega)).2.2 hoff).2 hends
        · -- A target in the centre needs no contact.
          rw [if_neg hoff]
          exact ⟨fun _ _ => ⟨hlocked, hzero, fun h => absurd h hoff⟩, fun _ => quiet_lift _⟩

end

/-! ### Ticks and runs -/

section
variable {D : Type} [Double D] {ar : Arith} {s : State D}

/-- What a tick sends. -/
def tickEvents (ar : Arith) (t : Tick D) : List TouchState :=
  let s := t.gate.trackPlayers ar t.input.now
  if t.gate.aimGate then targetEvents t.input s (s.bestTarget ar t.input) else liftEvents t.start.sim.touchDown

theorem events_tickOf (h : Nat → Handler Kernel) (i : TickInput D) (hs : Sound s.sim) :
    events (tickOf ar h i s) = tickEvents ar (tickOf ar h i s) := by
  have hgate : (tickOf ar h i s).gate.sim = s.sim := sim_gate h i
  have hfinish : states (tickOf ar h i s).finish.sim = states s.sim ++ tickEvents ar (tickOf ar h i s) := by
    rw [finish_tickOf, State.aimEngine, tickEvents, ← hgate]
    split
    · exact states_steerTo (s := (tickOf ar h i s).gate.trackPlayers ar i.now) (hgate ▸ hs)
    · have hstart : (tickOf ar h i s).start.sim.touchDown = (tickOf ar h i s).gate.sim.touchDown := by
        rw [hgate]
        rfl
      rw [hstart]
      exact states_lift _ _
  rw [events, hfinish]
  exact List.drop_left

/-- A tick is quiet exactly when the engine is idle, however old the snapshot is. -/
theorem quiet_iff (h : Nat → Handler Kernel) (i : TickInput D) (hs : Sound s.sim) :
    Quiet (tickOf ar h i s) ↔ Idle ar (tickOf ar h i s) := by
  have hgate : (tickOf ar h i s).gate.sim = s.sim := sim_gate h i
  have hquiet : Quiet (tickOf ar h i s) ↔
      QuietEvents (tickOf ar h i s).start.sim.touchDown (tickEvents ar (tickOf ar h i s)) := by
    rw [← events_tickOf h i hs]
    exact Iff.rfl
  rw [hquiet, tickEvents]
  by_cases hopen : (tickOf ar h i s).gate.aimGate = true
  · have hdown : (tickOf ar h i s).start.sim.touchDown =
        ((tickOf ar h i s).gate.trackPlayers ar i.now).sim.touchDown := by
      show s.sim.touchDown = (tickOf ar h i s).gate.sim.touchDown
      rw [hgate]
    rw [if_pos hopen, hdown]
    exact quiet_targetEvents_iff.trans ⟨fun hidle _ => hidle, fun hidle => hidle hopen⟩
  · rw [if_neg hopen]
    exact ⟨fun _ hopen' => absurd hopen' hopen, fun _ => quiet_lift _⟩

theorem run_quiet_iff {ticks : List (Tick D)} (h : Run ar ticks s) : ∀ t ∈ ticks, (Quiet t ↔ Idle ar t) := by
  induction h with
  | init files h hstart => intro t ht; cases ht
  | @tick ticks s h i hrun ih =>
    intro t ht
    rcases List.mem_append.mp ht with ht | ht
    · exact ih t ht
    · rw [List.mem_singleton.mp ht]
      exact quiet_iff h i (run_sound hrun)
  | callback c hrun ih => exact ih

/-- Every tick on dead telemetry is quiet. -/
def NoContact (ticks : List (Tick D)) : Prop := ∀ t ∈ ticks, Dead t → Quiet t

/-- The aim engine is idle in every tick on dead telemetry. -/
def IdleWhenDead (ar : Arith) (ticks : List (Tick D)) : Prop := ∀ t ∈ ticks, Dead t → Idle ar t

/-- In every run: there is no contact on dead telemetry if and only if the aim engine is idle there. -/
theorem noContact_iff {ticks : List (Tick D)} (h : Run ar ticks s) : NoContact ticks ↔ IdleWhenDead ar ticks :=
  forall₂_congr fun t ht => imp_congr_right fun _ => run_quiet_iff h t ht

end

/-! ### A file that nobody writes any more -/

attribute [local instance] exact

theorem lateTick_dead : Dead lateTick := Or.inl (by decide +kernel)

theorem lateTick_not_quiet : ¬Quiet lateTick := not_quiet_of_mem (e := .down) (by decide +kernel) TouchState.noConfusion

theorem noContact_iff_late : ¬IdleWhenDead exactArith [firstTick, lateTick] := fun h =>
  lateTick_not_quiet ((noContact_iff lateRun).mpr h lateTick (by simp) lateTick_dead)

/-- The frame of a daemon that has died is three seconds old when the aim is switched on; the finger goes down. -/
theorem stale_contact : ¬∀ (D : Type) [Double D] (ar : Arith) (ticks : List (Tick D)) (s : State D),
    Run ar ticks s → NoContact ticks := fun h =>
  lateTick_not_quiet (h Rat exactArith [firstTick, lateTick] lateTick.finish lateRun lateTick (by simp) lateTick_dead)

end Freshness
end RadarAim.Overlay
