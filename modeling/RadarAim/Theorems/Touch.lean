import RadarAim.Overlay.Tick

/-! The stream of touch events. The finger goes down only when it is up, and moves and goes up only when it is
    down. One place of the aim engine puts it down without a look at the flag, at the end of a pause; it can,
    because the finger is up whenever a pause has begun. -/

namespace RadarAim.Overlay
namespace Touch
open Ieee

/-! ### Streams of events -/

/-- `(Down Move* Up)*`. -/
inductive Strokes : List TouchState → Prop
  | nil : Strokes []
  | stroke {l : List TouchState} (n : Nat) : Strokes l → Strokes (l ++ .down :: (List.replicate n .move ++ [.up]))

/-- The last event was `Down` or `Move`. -/
def held (l : List TouchState) : Bool := l.getLast? = some .down ∨ l.getLast? = some .move

/-- A prefix of `(Down Move* Up)*`, in which `Down` is sent when no contact is held, and the others while one is. -/
structure Disciplined (l : List TouchState) : Prop where
  strokes : ∃ rest, Strokes (l ++ rest)
  down : ∀ before e after, l = before ++ e :: after → (e = .down ↔ held before = false)

/-- The streams that leave the contact held, or not, event by event. -/
inductive Contact : Bool → List TouchState → Prop
  | none : Contact false []
  | down {l : List TouchState} : Contact false l → Contact true (l ++ [.down])
  | move {l : List TouchState} : Contact true l → Contact true (l ++ [.move])
  | up {l : List TouchState} : Contact true l → Contact false (l ++ [.up])

theorem held_append (l : List TouchState) (e : TouchState) : held (l ++ [e]) = decide (e ≠ .up) := by
  cases e <;> simp [held]

namespace Contact
variable {b : Bool} {l : List TouchState}

theorem held_eq (h : Contact b l) : held l = b := by
  cases h with
  | none => rfl
  | down h => exact held_append _ _
  | move h => exact held_append _ _
  | up h => exact held_append _ _

/-- What is left to be sent for the last stroke to be whole. -/
theorem strokes (h : Contact b l) :
    if b then ∃ done n, Strokes done ∧ l = done ++ .down :: List.replicate n .move else Strokes l := by
  induction h with
  | none => exact Strokes.nil
  | @down l h ih => exact ⟨l, 0, ih, rfl⟩
  | move h ih =>
    obtain ⟨done, n, hdone, rfl⟩ := ih
    refine ⟨done, n + 1, hdone, ?_⟩
    rw [List.replicate_succ', List.append_assoc, List.cons_append]
  | up h ih =>
    obtain ⟨done, n, hdone, rfl⟩ := ih
    simpa using Strokes.stroke n hdone

theorem extends_strokes (h : Contact b l) : ∃ rest, Strokes (l ++ rest) := by
  cases b with
  | false => exact ⟨[], by simpa using h.strokes⟩
  | true =>
    obtain ⟨done, n, hdone, rfl⟩ := h.strokes
    refine ⟨[.up], ?_⟩
    simpa using Strokes.stroke n hdone

/-- The last event of a stream, or an earlier one. -/
theorem split_last {α : Type} {l before after : List α} {x e : α} (h : l ++ [x] = before ++ e :: after) :
    (e = x ∧ before = l) ∨ ∃ after', l = before ++ e :: after' := by
  rcases List.eq_nil_or_concat after with rfl | ⟨after', y, rfl⟩
  · obtain ⟨rfl, hx⟩ := List.append_inj' h rfl
    exact Or.inl ⟨(List.cons.inj hx).1.symm, rfl⟩
  · rw [List.concat_eq_append, ← List.cons_append, ← List.append_assoc] at h
    exact Or.inr ⟨after', (List.append_inj' h rfl).1⟩

theorem down_iff (h : Contact b l) (before : List TouchState) (e : TouchState) (after : List TouchState)
    (hl : l = before ++ e :: after) : e = .down ↔ held before = false := by
  induction h generalizing after with
  | none => simp at hl
  | down h ih =>
    rcases split_last hl with ⟨rfl, rfl⟩ | ⟨after', hl⟩
    · simp [h.held_eq]
    · exact ih after' hl
  | move h ih =>
    rcases split_last hl with ⟨rfl, rfl⟩ | ⟨after', hl⟩
    · simp [h.held_eq]
    · exact ih after' hl
  | up h ih =>
    rcases split_last hl with ⟨rfl, rfl⟩ | ⟨after', hl⟩
    · simp [h.held_eq]
    · exact ih after' hl

theorem disciplined (h : Contact b l) : Disciplined l := ⟨h.extends_strokes, h.down_iff⟩

end Contact

/-! ### The simulated finger -/

section Sim
variable {D : Type}

def states (s : Sim D) : List TouchState := s.touches.map TouchEvent.state

/-- The flag says what the events say, and the finger is up during a pause, which is of one frame. -/
structure Sound (s : Sim D) : Prop where
  contact : Contact s.touchDown (states s)
  paused : s.recenterPause ≠ 0 → s.recenterPause = 1 ∧ s.touchDown = false

/-- Only the events, the flag and the pause matter. -/
theorem Sound.of_eq {s t : Sim D} (h : Sound s) (htouches : t.touches = s.touches) (hdown : t.touchDown = s.touchDown)
    (hpause : t.recenterPause = s.recenterPause) : Sound t := by
  refine ⟨?_, ?_⟩
  · rw [hdown, states, htouches]
    exact h.contact
  · rw [hpause, hdown]
    exact h.paused

variable {s : Sim D} (x y : D)

theorem states_hidTouchEvent (e : TouchState) : states (s.hidTouchEvent x y e) = states s ++ [e] := by
  simp [states, Sim.hidTouchEvent]

theorem contact_down (h : Contact s.touchDown (states s)) (hup : s.touchDown = false) :
    Contact true (states (s.hidTouchEvent x y .down)) := by
  rw [states_hidTouchEvent]
  rw [hup] at h
  exact h.down

theorem contact_move (h : Contact s.touchDown (states s)) (hdown : s.touchDown = true) :
    Contact true (states (s.hidTouchEvent x y .move)) := by
  rw [states_hidTouchEvent]
  rw [hdown] at h
  exact h.move

theorem contact_up (h : Contact s.touchDown (states s)) (hdown : s.touchDown = true) :
    Contact false (states (s.hidTouchEvent x y .up)) := by
  rw [states_hidTouchEvent]
  rw [hdown] at h
  exact h.up

section Engine
variable (zone : Zone D)

theorem sound_switchTarget (h : Sound s) (bestIdx : Int) : Sound (s.switchTarget zone bestIdx) := by
  unfold Sim.switchTarget
  split
  · exact h
  · cases hdown : s.touchDown with
    | false =>
      have hcontact := h.contact
      rw [hdown] at hcontact
      refine ⟨?_, fun _ => ⟨rfl, hdown⟩⟩
      simpa [Sim.recenter, states, hdown] using hcontact
    | true => exact ⟨contact_up _ _ h.contact hdown, fun _ => ⟨rfl, rfl⟩⟩

theorem sound_touchDownAt (h : Contact s.touchDown (states s)) (hup : s.touchDown = false)
    (hpause : s.recenterPause = 0) :
    Sound (s.touchDownAt zone) :=
  ⟨contact_down (s := s.recenter zone) _ _ h hup, fun hne => absurd hpause hne⟩

theorem sound_pause (h : Sound s) (hpause : 0 < s.recenterPause) : Sound (s.pause zone) := by
  obtain ⟨hone, hup⟩ := h.paused (by omega)
  unfold Sim.pause
  rw [if_pos (show s.recenterPause - 1 = 0 by omega)]
  refine sound_touchDownAt zone h.contact hup ?_
  show s.recenterPause - 1 = 0
  omega

theorem sound_release (h : Sound s) : Sound (s.release zone) := by
  unfold Sim.release
  split
  · rename_i hdown
    refine ⟨contact_up _ _ h.contact hdown, fun hne => ?_⟩
    have hup := (h.paused hne).2
    rw [hdown] at hup
    cases hup
  · exact h

theorem sound_lift (h : Sound s) : Sound (s.lift zone) := by
  unfold Sim.lift
  cases hdown : s.touchDown with
  | false =>
    have hcontact := h.contact
    rw [hdown] at hcontact
    refine ⟨?_, fun hne => absurd rfl hne⟩
    simpa [states, hdown] using hcontact
  | true => exact ⟨contact_up _ _ h.contact hdown, fun hne => absurd rfl hne⟩

section Arithmetic
variable [Double D]

theorem sound_initial : Sound (Sim.initial : Sim D) := ⟨Contact.none, fun h => absurd rfl h⟩

theorem sound_stroke (h : Sound s) (hdown : s.touchDown = true) (stepX stepY : D) :
    Sound (s.stroke zone stepX stepY) := by
  have hpause : s.recenterPause = 0 := by
    by_contra hne
    have hup := (h.paused hne).2
    rw [hdown] at hup
    cases hup
  unfold Sim.stroke
  dsimp only
  split
  · exact ⟨contact_up (s := { s with strokeFrames := s.strokeFrames + 1 }) _ _ h.contact hdown, fun _ => ⟨rfl, rfl⟩⟩
  · exact ⟨contact_move (s := { s with
      strokeFrames := s.strokeFrames + 1, normX := s.normX + stepX, normY := s.normY + stepY }) _ _ h.contact hdown,
      fun hne => absurd hpause hne⟩

theorem sound_steer (h : Sound s) (dist stepX stepY : D) : Sound (s.steer zone dist stepX stepY) := by
  unfold Sim.steer
  split
  · rename_i hpause
    exact sound_pause zone h hpause
  · rename_i hpause
    have hzero : s.recenterPause = 0 := by
      by_contra hne
      have hone := (h.paused hne).1
      omega
    split
    · split
      · rename_i hdown
        exact sound_stroke zone h hdown stepX stepY
      · rename_i hup
        exact sound_touchDownAt zone h.contact (by simpa using hup) hzero
    · exact sound_release zone h

theorem sound_buttonReleased (h : Sound s) (aimTouchZone : Nat) : Sound (s.buttonReleased aimTouchZone) := by
  unfold Sim.buttonReleased
  dsimp only
  cases hdown : s.touchDown with
  | false => exact h.of_eq rfl rfl rfl
  | true =>
    refine ⟨contact_up _ _ h.contact hdown, fun hne => ?_⟩
    have hup := (h.paused hne).2
    rw [hdown] at hup
    cases hup

end Arithmetic
end Engine
end Sim

/-! ### The overlay -/

section Overlay
variable {D : Type} [Double D] {ar : Arith} {s : State D}

theorem sound_steerTo (i : TickInput D) (best : Best D) (h : Sound s.sim) : Sound (s.steerTo i best) := by
  have hswitch := sound_switchTarget s.zone h best.idx
  unfold State.steerTo
  dsimp only
  split
  · apply sound_steer
    exact hswitch.of_eq rfl rfl rfl
  · exact sound_lift _ hswitch

theorem sound_aimEngine (i : TickInput D) (h : Sound s.sim) : Sound (s.aimEngine ar i).sim := by
  unfold State.aimEngine
  split
  · exact sound_steerTo (s := s.trackPlayers ar i.now) i _ h
  · exact sound_lift _ h

theorem sim_layoutScreen (i : TickInput D) : (s.layoutScreen i).sim = s.sim := by
  unfold State.layoutScreen
  dsimp only
  split <;> rfl

omit [Double D] in
theorem sim_noteTick (readAt : D) : (s.noteTick readAt).sim = s.sim := by
  unfold State.noteTick
  split <;> rfl

omit [Double D] in
theorem sim_accept (readAt : D) (snapshot : Option RadarFrame) : (s.accept readAt snapshot).sim = s.sim := by
  cases snapshot with
  | none => rfl
  | some f => exact sim_noteTick readAt

/-- Reading the snapshot sends no event. -/
theorem sim_gate (h : Nat → Handler Kernel) (i : TickInput D) : (tickOf ar h i s).gate.sim = s.sim := by
  rw [gate_tickOf, sim_layoutScreen, sim_accept]

theorem sound_callback (c : Callback D) (h : Sound s.sim) : Sound (s.callback c).sim := by
  cases c with
  | aimTouchesBegan touch => cases touch <;> exact h
  | aimTouchesMoved touch => cases touch <;> exact h
  | aimTouchesEnded => exact sound_buttonReleased h _
  | aimTouchesCancelled => exact sound_buttonReleased h _
  | toggleMenu => exact h
  | toggle t => exact h
  | stopRadar => exact h

theorem run_sound {ticks : List (Tick D)} (h : Run ar ticks s) : Sound s.sim := by
  induction h with
  | init files h hstart =>
    have hsim : ((State.initOverlay files).eval h 0).1.sim = (Sim.initial : Sim D) := by
      simp [State.initOverlay, State.initial]
    rw [hsim]
    exact sound_initial
  | tick h i hrun ih =>
    rw [finish_tickOf]
    refine sound_aimEngine i ?_
    rw [sim_gate]
    exact ih
  | callback c hrun ih => exact sound_callback c ih

/-- In every run the events given to `hid_touch_event` are a prefix of `(Down Move* Up)*`, and the flag of the
    overlay says whether the last one was `Down` or `Move`. -/
theorem run_disciplined {ticks : List (Tick D)} (h : Run ar ticks s) :
    Disciplined (states s.sim) ∧ s.sim.touchDown = held (states s.sim) := by
  have hsound := run_sound h
  exact ⟨hsound.contact.disciplined, hsound.contact.held_eq.symm⟩

end Overlay

/-! ### A run -/

/-- Exact arithmetic, with the functions as they are at the arguments of the run below. -/
@[reducible] def exact : Double Rat where
  decidableLt := inferInstance
  decidableLe := inferInstance
  fabs x := if x < 0 then -x else x
  fmin x y := if x ≤ y then x else y
  fmax x y := if x ≤ y then y else x
  sin x := x
  cos _ := 1
  tan _ := 1
  hypot x y := if x = 0 then y else x
  isfinite _ := true
  hypotf x _ := x
  ofFloat x := if x = 0x447a0000 then 1000 else if x = 0x42b40000 then 90 else 0
  toFloat _ := 0
  ofInt x := x

def exactArith : Arith where
  add a b := if a = 0 then b else a
  sub a b := if b = 0 then a else 0
  mul a b := if a = 0x3f800000 then b else a
  div a _ := a
  sqrtf a := a
  sinf a := a
  cosf _ := 0x3f800000
  addDouble a _ := a

def enemy : RadarPlayer where
  pos := .zero
  health := 0
  healthMax := 0
  yaw := 0
  teamId := 2
  isBot := 0
  healthStatus := 0
  hasBones := false
  name := []
  distance := 0
  headPos := ⟨0x447a0000, 0, 0⟩
  feetPos := .zero
  bones := []

def lastFrame : RadarFrame :=
  { RadarFrame.zero with
    header := { RadarFrame.zero.header with
      magic := radarMagic, version := radarVersion, tick := 1, status := 2, cameraValid := true,
      cameraFov := 0x42b40000 }
    players := [enemy] }

/-- The file stays, with the same frame in it. -/
def quietKernel : Handler Kernel
  | .between => ([] : List FileAction)
  | .fails => false
  | .fresh => (7 : Nat)
  | .sequence => (2 : UInt32)
  | .copy => lastFrame

def files : Files where
  path := some 1
  size := fun _ => radarSharedSize
  nextIno := 2
  descriptors := []
  mappings := []
  maxDescriptors := 0
  maxMappings := 0
  sightings := []
  statFailed := false
  callFailed := false

def inputAt (now : Rat) : TickInput Rat where
  readAt := now
  now := now
  appOri := 3
  sceneOri := 3
  devOri := 3
  boundsW := 1024
  boundsH := 768
  sceneIsPortrait := false
  randX := 0
  randY := 0

attribute [local instance] exact

def started : State Rat := ((State.initOverlay files).eval (fun _ => quietKernel) 0).1

/-- The aim is switched off before the first tick. -/
def firstTick : Tick Rat := tickOf exactArith (fun _ => quietKernel) (inputAt 1) (started.callback (.toggle .touchAim))

/-- Three seconds later it has been switched on again. -/
def lateTick : Tick Rat :=
  tickOf exactArith (fun _ => quietKernel) (inputAt 4)
    ((firstTick.finish.callback (.toggle .touchAim)).callback (.toggle .touchAim))

theorem files_atStart : files.AtStart :=
  ⟨rfl, rfl, rfl, rfl, by decide, fun ino h => by cases h; exact ⟨by decide, by decide⟩⟩

theorem lateRun : Run exactArith [firstTick, lateTick] lateTick.finish :=
  .tick _ _ (.callback _ (.callback _ (.tick _ _ (.callback _ (.init files _ files_atStart)))))

theorem run_disciplined_late :
    Disciplined (states lateTick.finish.sim) ∧ lateTick.finish.sim.touchDown = held (states lateTick.finish.sim) :=
  run_disciplined lateRun

end Touch
end RadarAim.Overlay
