import Mathlib.Data.List.Infix
import RadarAim.Theorems.Touch

/-! The strokes of the simulated finger are short and stay in their zone: a contact is lifted before its twentieth move,
    and a move that would leave the zone is not made. -/

namespace RadarAim.Overlay
namespace Sweeps
open Ieee Touch

/-! ### The moves of a stroke -/

/-- The moves that a stream ends with. -/
def moves (l : List TouchState) : Nat := (l.reverse.takeWhile (· = .move)).length

/-- The streams in which a contact makes at most 19 moves before something else happens to it. -/
def Short (l : List TouchState) : Prop := ∀ before, before <+: l → moves before ≤ 19

theorem moves_move (l : List TouchState) : moves (l ++ [.move]) = moves l + 1 := by
  simp [moves]

theorem moves_of_ne (l : List TouchState) {e : TouchState} (he : e ≠ .move) : moves (l ++ [e]) = 0 := by
  simp [moves, he]

theorem Short.concat {l : List TouchState} (h : Short l) {e : TouchState} (he : moves (l ++ [e]) ≤ 19) :
    Short (l ++ [e]) := by
  intro before hbefore
  rcases List.prefix_concat_iff.mp hbefore with rfl | hbefore
  · exact he
  · exact h before hbefore

theorem le_moves (before : List TouchState) (n : Nat) : n ≤ moves (before ++ List.replicate n .move) := by
  induction n with
  | zero => exact Nat.zero_le _
  | succ n ih =>
    rw [List.replicate_succ', ← List.append_assoc, moves_move]
    exact Nat.succ_le_succ ih

theorem Short.replicate {before after : List TouchState} {n : Nat}
    (h : Short (before ++ List.replicate n .move ++ after)) : n ≤ 19 :=
  (le_moves before n).trans (h _ (List.prefix_append _ _))

/-! ### The finger -/

section Sim
variable {D : Type}

/-- While the finger is down the frames of its stroke are counted right. -/
structure Swept (s : Sim D) : Prop where
  frames : s.touchDown = true → (moves (states s) : Int) = s.strokeFrames
  short : Short (states s)

def Outside [LT D] (zone : Zone D) (x y : D) : Prop :=
  x < zone.minX ∨ zone.maxX < x ∨ y < zone.minY ∨ zone.maxY < y

/-- A contact begins at the base of the zone and does not move out of it; it may be lifted anywhere. -/
structure Zoned [LT D] (zone : Zone D) (e : TouchEvent D) : Prop where
  down : e.state = .down → e.normX = zone.baseX ∧ e.normY = zone.baseY
  move : e.state = .move → ¬Outside zone e.normX e.normY

theorem Zoned.up [LT D] {zone : Zone D} {e : TouchEvent D} (h : e.state = .up) : Zoned zone e :=
  ⟨fun hdown => (by cases h.symm.trans hdown), fun hmove => (by cases h.symm.trans hmove)⟩

/-- `t` has sent what `s` had, and then events that keep to the zone. -/
def Sends [LT D] (zone : Zone D) (s t : Sim D) : Prop := ∃ l, t.touches = s.touches ++ l ∧ ∀ e ∈ l, Zoned zone e

theorem Sends.refl [LT D] (zone : Zone D) (s : Sim D) : Sends zone s s := ⟨[], by simp, by simp⟩

theorem Sends.trans [LT D] {zone : Zone D} {s t u : Sim D} (h : Sends zone s t) (h' : Sends zone t u) :
    Sends zone s u := by
  obtain ⟨l, hl, hin⟩ := h
  obtain ⟨l', hl', hin'⟩ := h'
  refine ⟨l ++ l', by rw [hl', hl, List.append_assoc], fun e he => ?_⟩
  rcases List.mem_append.mp he with he | he
  · exact hin e he
  · exact hin' e he

theorem sends_of_eq [LT D] {zone : Zone D} {s t : Sim D} (h : t.touches = s.touches) : Sends zone s t :=
  ⟨[], by simp [h], by simp⟩

theorem sends_event [LT D] {zone : Zone D} {s t : Sim D} {e : TouchEvent D} (h : t.touches = s.touches ++ [e])
    (he : Zoned zone e) : Sends zone s t := by
  refine ⟨[e], h, fun e' he' => ?_⟩
  obtain rfl := List.mem_singleton.mp he'
  exact he

variable {s t : Sim D}

theorem Swept.of_eq (h : Swept s) (htouches : t.touches = s.touches) (hdown : t.touchDown = s.touchDown)
    (hframes : t.strokeFrames = s.strokeFrames) : Swept t := by
  have hstates : states t = states s := by rw [states, states, htouches]
  refine ⟨fun hd => ?_, ?_⟩
  · rw [hstates, hframes]
    exact h.frames (hdown ▸ hd)
  · rw [hstates]
    exact h.short

/-- A lift, after which the finger is up. -/
theorem Swept.up (h : Swept s) {x y : D} (htouches : t.touches = s.touches ++ [⟨x, y, .up⟩])
    (hup : t.touchDown = false) :
    Swept t := by
  have hstates : states t = states s ++ [.up] := by simp [states, htouches]
  refine ⟨fun hd => ?_, ?_⟩
  · rw [hup] at hd
    cases hd
  · rw [hstates]
    refine h.short.concat ?_
    rw [moves_of_ne _ (by decide)]
    omega

theorem Swept.down (h : Swept s) {x y : D} (htouches : t.touches = s.touches ++ [⟨x, y, .down⟩])
    (hframes : t.strokeFrames = 0) : Swept t := by
  have hstates : states t = states s ++ [.down] := by simp [states, htouches]
  have hmoves : moves (states s ++ [.down]) = 0 := moves_of_ne _ (by decide)
  refine ⟨fun _ => ?_, ?_⟩
  · rw [hstates, hmoves, hframes]
    rfl
  · rw [hstates]
    refine h.short.concat ?_
    omega

theorem Swept.move (h : Swept s) (hdown : s.touchDown = true) {x y : D}
    (htouches : t.touches = s.touches ++ [⟨x, y, .move⟩]) (hframes : t.strokeFrames = s.strokeFrames + 1)
    (hfew : t.strokeFrames < 20) : Swept t := by
  have hstates : states t = states s ++ [.move] := by simp [states, htouches]
  have hcount := h.frames hdown
  refine ⟨fun _ => ?_, ?_⟩
  · rw [hstates, moves_move, hframes]
    omega
  · rw [hstates]
    refine h.short.concat ?_
    rw [moves_move]
    omega

/-! ### The engine -/

section Engine
variable (zone : Zone D)

theorem swept_lift (h : Swept s) : Swept (s.lift zone) := by
  unfold Sim.lift
  cases hdown : s.touchDown with
  | false => exact h.of_eq rfl rfl rfl
  | true => exact h.up rfl rfl

theorem swept_switchTarget (h : Swept s) (bestIdx : Int) : Swept (s.switchTarget zone bestIdx) := by
  unfold Sim.switchTarget
  split
  · exact h
  · cases hdown : s.touchDown with
    | false =>
      refine ⟨fun hd => ?_, h.short⟩
      have hup : s.touchDown = true := hd
      rw [hdown] at hup
      cases hup
    | true => exact h.up rfl rfl

theorem swept_touchDownAt (h : Swept s) : Swept (s.touchDownAt zone) := h.down rfl rfl

theorem swept_release (h : Swept s) : Swept (s.release zone) := by
  unfold Sim.release
  split
  · exact h.up rfl rfl
  · exact h

theorem swept_buttonReleased [Double D] (h : Swept s) (aimTouchZone : Nat) : Swept (s.buttonReleased aimTouchZone) := by
  unfold Sim.buttonReleased
  cases hdown : s.touchDown with
  | false => exact h.of_eq rfl rfl rfl
  | true => exact h.up rfl rfl

section Sends
variable [LT D]

theorem sends_lift : Sends zone s (s.lift zone) := by
  unfold Sim.lift
  cases hdown : s.touchDown with
  | false => exact sends_of_eq rfl
  | true => exact sends_event rfl (.up rfl)

theorem sends_switchTarget (bestIdx : Int) : Sends zone s (s.switchTarget zone bestIdx) := by
  unfold Sim.switchTarget
  split
  · exact .refl zone s
  · cases hdown : s.touchDown with
    | false => exact sends_of_eq rfl
    | true => exact sends_event rfl (.up rfl)

theorem sends_touchDownAt : Sends zone s (s.touchDownAt zone) :=
  sends_event rfl ⟨fun _ => ⟨rfl, rfl⟩, fun hmove => (by cases hmove)⟩

theorem sends_release : Sends zone s (s.release zone) := by
  unfold Sim.release
  split
  · exact sends_event rfl (.up rfl)
  · exact .refl zone s

end Sends

section Steer
variable [Double D] (stepX stepY : D)

theorem swept_stroke (h : Swept s) (hdown : s.touchDown = true) : Swept (s.stroke zone stepX stepY) := by
  unfold Sim.stroke
  dsimp only
  split
  · exact h.up rfl rfl
  · rename_i hends
    refine h.move hdown rfl rfl ?_
    by_contra hmany
    exact hends (Or.inl (by simpa [Sim.hidTouchEvent] using hmany))

theorem sends_stroke : Sends zone s (s.stroke zone stepX stepY) := by
  unfold Sim.stroke
  dsimp only
  split
  · exact sends_event rfl (.up rfl)
  · rename_i hends
    exact sends_event rfl ⟨fun hdown => (by cases hdown), fun _ hout => hends (Or.inr hout)⟩

theorem swept_steer (h : Swept s) (dist : D) : Swept (s.steer zone dist stepX stepY) := by
  unfold Sim.steer
  split
  · unfold Sim.pause
    dsimp only
    split
    · exact swept_touchDownAt zone (h.of_eq rfl rfl rfl)
    · exact h.of_eq rfl rfl rfl
  · split
    · split
      · rename_i hdown
        exact swept_stroke zone stepX stepY h hdown
      · exact swept_touchDownAt zone h
    · exact swept_release zone h

theorem sends_steer (dist : D) : Sends zone s (s.steer zone dist stepX stepY) := by
  unfold Sim.steer
  split
  · unfold Sim.pause
    dsimp only
    split
    · exact (sends_of_eq rfl).trans (sends_touchDownAt zone)
    · exact sends_of_eq rfl
  · split
    · split
      · exact sends_stroke zone stepX stepY
      · exact sends_touchDownAt zone
    · exact sends_release zone

end Steer
end Engine
end Sim

/-! ### The overlay -/

section Overlay
variable {D : Type} [Double D] {ar : Arith} {i : TickInput D} {s : State D}

theorem swept_steerTo (best : Best D) (h : Swept s.sim) : Swept (s.steerTo i best) := by
  have hswitch := swept_switchTarget s.zone h best.idx
  unfold State.steerTo
  dsimp only
  split
  · refine swept_steer _ _ _ ?_ _
    exact hswitch.of_eq rfl rfl rfl
  · exact swept_lift _ hswitch

theorem sends_steerTo (best : Best D) : Sends s.zone s.sim (s.steerTo i best) := by
  unfold State.steerTo
  dsimp only
  split
  · exact (sends_switchTarget s.zone best.idx).trans ((sends_of_eq rfl).trans (sends_steer _ _ _ _))
  · exact (sends_switchTarget s.zone best.idx).trans (sends_lift s.zone)

theorem swept_aimEngine (h : Swept s.sim) : Swept (s.aimEngine ar i).sim := by
  unfold State.aimEngine
  split
  · exact swept_steerTo (s := s.trackPlayers ar i.now) _ h
  · exact swept_lift _ h

theorem sends_aimEngine : Sends s.zone s.sim (s.aimEngine ar i).sim := by
  unfold State.aimEngine
  split
  · exact sends_steerTo (s := s.trackPlayers ar i.now) _
  · exact sends_lift s.zone

theorem swept_callback (c : Callback D) (h : Swept s.sim) : Swept (s.callback c).sim := by
  cases c with
  | aimTouchesBegan touch => cases touch <;> exact h
  | aimTouchesMoved touch => cases touch <;> exact h
  | aimTouchesEnded => exact swept_buttonReleased h _
  | aimTouchesCancelled => exact swept_buttonReleased h _
  | toggleMenu => exact h
  | toggle t => exact h
  | stopRadar => exact h

/-- No contact makes twenty moves, and what a tick does with a contact it does in the zone that is chosen then. -/
structure Bounded (ticks : List (Tick D)) (s : State D) : Prop where
  swept : Swept s.sim
  zoned : ∀ t ∈ ticks, Sends t.gate.zone t.start.sim t.finish.sim

theorem run_bounded {ticks : List (Tick D)} (h : Run ar ticks s) : Bounded ticks s := by
  induction h with
  | init files h hstart =>
    have hsim : ((State.initOverlay files).eval h 0).1.sim = (Sim.initial : Sim D) := by
      simp [State.initOverlay, State.initial]
    refine ⟨?_, by simp⟩
    rw [hsim]
    refine ⟨fun hdown => absurd hdown Bool.false_ne_true, fun before hbefore => ?_⟩
    obtain rfl := List.prefix_nil.mp hbefore
    exact Nat.zero_le _
  | @tick ticks s h i hrun ih =>
    refine ⟨?_, fun t ht => ?_⟩
    · rw [finish_tickOf]
      refine swept_aimEngine ?_
      rw [sim_gate]
      exact ih.swept
    · rcases List.mem_append.mp ht with ht | ht
      · exact ih.zoned t ht
      · obtain rfl := List.mem_singleton.mp ht
        have hsends : Sends (tickOf ar h i s).gate.zone (tickOf ar h i s).gate.sim
            ((tickOf ar h i s).gate.aimEngine ar i).sim := sends_aimEngine
        rw [sim_gate] at hsends
        rw [finish_tickOf]
        exact hsends
  | callback c hrun ih => exact ⟨swept_callback c ih.swept, ih.zoned⟩

/-- In every run a contact is lifted before its twentieth move, and of the events that a tick sends, a Down is at the
    base of the zone chosen at that time and a Move is not outside of that zone. -/
theorem run_sweeps {ticks : List (Tick D)} (h : Run ar ticks s) :
    (∀ before n after, states s.sim = before ++ List.replicate n .move ++ after → n ≤ 19) ∧
      ∀ t ∈ ticks, ∃ sent, t.finish.sim.touches = t.start.sim.touches ++ sent ∧
        (∀ e ∈ sent, e.state = .down → e.normX = t.gate.zone.baseX ∧ e.normY = t.gate.zone.baseY) ∧
        ∀ e ∈ sent, e.state = .move → ¬Outside t.gate.zone e.normX e.normY := by
  have hbounded := run_bounded h
  refine ⟨fun before n after hstates => ?_, fun t ht => ?_⟩
  · have hshort := hbounded.swept.short
    rw [hstates] at hshort
    exact hshort.replicate
  · obtain ⟨sent, hsent, hzoned⟩ := hbounded.zoned t ht
    exact ⟨sent, hsent, fun e he => (hzoned e he).down, fun e he => (hzoned e he).move⟩

end Overlay

section Witness
attribute [local instance] exact

theorem run_sweeps_late :
    (∀ before n after, states lateTick.finish.sim = before ++ List.replicate n .move ++ after → n ≤ 19) ∧
      ∀ t ∈ [firstTick, lateTick], ∃ sent, t.finish.sim.touches = t.start.sim.touches ++ sent ∧
        (∀ e ∈ sent, e.state = .down → e.normX = t.gate.zone.baseX ∧ e.normY = t.gate.zone.baseY) ∧
        ∀ e ∈ sent, e.state = .move → ¬Outside t.gate.zone e.normX e.normY :=
  run_sweeps lateRun

end Witness

end Sweeps
end RadarAim.Overlay
