import RadarAim.Lib.Nearest
import RadarAim.Theorems.Touch

/-! The target of the aim engine. With the gate open a tick locks the first of the nearest candidates, and none if there
    is none; so a contact is only ever held on a live enemy of the snapshot. What is assumed of the numbers is their
    order. -/

namespace RadarAim.Overlay
namespace Targets
open Ieee Touch

/-- The comparisons of `double`. -/
abbrev Ordered (D : Type) [Double D] : Prop := PartOrdered (fun x y : D => x < y) fun x y => x ≤ y

/-! ### The search -/

section Search
variable {D : Type} [Double D]

/-- What a player offers to the search: its index, the square of its distance from the centre and its place on the
    screen, if it is not passed over, is on the screen and in the circle. -/
def offer (ar : Arith) (i : TickInput D) (s : State D) (candidate : RadarPlayer × Nat) : Option (Best D) :=
  let screen := s.aimScreen i
  let fovRadius := s.aimFovRadius screen.1 screen.2
  if s.passedOver candidate.1 then none
  else (s.worldToScreen ar i (s.targetPoint ar candidate.2 candidate.1) screen.1 screen.2).bind fun sp =>
    let dx := sp.1.x - screen.1 / (2.0 : D)
    let dy := sp.1.y - screen.2 / (2.0 : D)
    if dx * dx + dy * dy ≤ fovRadius * fovRadius then some ⟨candidate.2, dx * dx + dy * dy, sp.1⟩ else none

variable {ar : Arith} {i : TickInput D} {s : State D} {b : Best D} {k : Nat} {p : RadarPlayer}

theorem consider_eq (best : Best D) (candidate : RadarPlayer × Nat) :
    s.consider ar i (s.aimScreen i) (s.aimFovRadius (s.aimScreen i).1 (s.aimScreen i).2) best candidate =
      Nearest.better (· < ·) Best.distSq (offer ar i s) best candidate := by
  unfold State.consider Nearest.better offer
  dsimp only
  split
  · rfl
  · cases s.worldToScreen ar i (s.targetPoint ar candidate.2 candidate.1) (s.aimScreen i).1 (s.aimScreen i).2 with
    | none => rfl
    | some sp =>
      dsimp only [Option.bind]
      split_ifs <;> simp_all

theorem bestTarget_eq : s.bestTarget ar i =
    s.aimPlayers.zipIdx.foldl (Nearest.better (· < ·) Best.distSq (offer ar i s)) Best.none := by
  unfold State.bestTarget
  dsimp only
  congr 1
  funext best candidate
  exact consider_eq best candidate

theorem idx_offer (h : offer ar i s (p, k) = some b) : b.idx = k := by
  unfold offer at h
  dsimp only at h
  split at h
  · cases h
  · obtain ⟨sp, -, hsp⟩ := Option.bind_eq_some_iff.mp h
    split at hsp
    · cases hsp
      rfl
    · cases hsp

theorem passedOver_offer (h : offer ar i s (p, k) = some b) : s.passedOver p = false := by
  unfold offer at h
  dsimp only at h
  split at h
  · cases h
  · rename_i hpassed
    simpa using hpassed

theorem distSq_offer (h : offer ar i s (p, k) = some b) : ∃ r, b.distSq ≤ r := by
  unfold offer at h
  dsimp only at h
  split at h
  · cases h
  · obtain ⟨sp, -, hsp⟩ := Option.bind_eq_some_iff.mp h
    split at hsp
    · rename_i hle
      cases hsp
      exact ⟨_, hle⟩
    · cases hsp

omit [Double D] in
theorem mem_zipIdx {x : RadarPlayer × Nat} (h : x ∈ s.aimPlayers.zipIdx) : s.aimPlayers[x.2]? = some x.1 :=
  List.mem_zipIdx_iff_getElem?.mp h

/-- Player `k` is locked: no candidate is nearer, and those before it are farther. -/
structure LockedOn (ar : Arith) (i : TickInput D) (s : State D) (k : Nat) (p : RadarPlayer) (b : Best D) : Prop where
  player : s.aimPlayers[k]? = some p
  offered : offer ar i s (p, k) = some b
  near : b.distSq < (1e12 : D)
  nearest : ∀ j q c, s.aimPlayers[j]? = some q → offer ar i s (q, j) = some c → ¬c.distSq < b.distSq
  first : ∀ j < k, ∀ q c, s.aimPlayers[j]? = some q → offer ar i s (q, j) = some c → c.distSq < (1e12 : D) →
    b.distSq < c.distSq

/-- There is no candidate. -/
def NoCandidate (ar : Arith) (i : TickInput D) (s : State D) : Prop :=
  ∀ j q c, s.aimPlayers[j]? = some q → offer ar i s (q, j) = some c → ¬c.distSq < (1e12 : D)

theorem lockedOn_of_first
    (h : Nearest.First (· < ·) Best.distSq (offer ar i s) (Best.none : Best D).distSq s.aimPlayers.zipIdx b) :
    ∃ (k : Nat) (p : RadarPlayer), b.idx = k ∧ LockedOn ar i s k p b := by
  obtain ⟨before, ⟨p, k⟩, after, hlist, hoffer, hbefore⟩ := h.first
  have hlen : before.length = k := by
    have hget : s.aimPlayers.zipIdx[before.length]? = some (p, k) := by simp [hlist]
    rw [List.getElem?_zipIdx] at hget
    obtain ⟨q, -, hq⟩ := Option.map_eq_some_iff.mp hget
    have hk := congrArg Prod.snd hq
    simpa using hk
  have hmem : (p, k) ∈ s.aimPlayers.zipIdx := by simp [hlist]
  refine ⟨k, p, idx_offer hoffer, mem_zipIdx hmem, hoffer, h.near, ?_, ?_⟩
  · intro j q c hq hc
    exact h.nearest (q, j) (List.mem_zipIdx_iff_getElem?.mpr hq) c hc
  · intro j hj q c hq hc hnear
    refine hbefore (q, j) ?_ c hc hnear
    have hget : s.aimPlayers.zipIdx[j]? = some (q, j) := by simp [List.getElem?_zipIdx, hq]
    rw [hlist, List.getElem?_append_left (hlen ▸ hj)] at hget
    exact List.mem_of_getElem? hget

theorem bestTarget_spec (ar : Arith) (i : TickInput D) (s : State D) (hord : Ordered D) :
    (NoCandidate ar i s ∧ s.bestTarget ar i = Best.none) ∨
      ∃ (k : Nat) (p : RadarPlayer), (s.bestTarget ar i).idx = k ∧ LockedOn ar i s k p (s.bestTarget ar i) := by
  have hfold := Nearest.foldl_better hord Best.none s.aimPlayers.zipIdx fun x _ e (he : offer ar i s x = some e) =>
    distSq_offer he
  rw [bestTarget_eq]
  rcases hfold with ⟨hfar, heq⟩ | hfirst
  · refine Or.inl ⟨?_, heq⟩
    intro j q c hq hc
    exact hfar (q, j) (List.mem_zipIdx_iff_getElem?.mpr hq) c hc
  · exact Or.inr (lockedOn_of_first hfirst)

/-- The target that is found, whatever the order of the numbers is. -/
theorem bestTarget_enemy (h : 0 ≤ (s.bestTarget ar i).idx) :
    ∃ k p, (s.bestTarget ar i).idx = (k : Nat) ∧ s.aimPlayers[k]? = some p ∧ s.passedOver p = false := by
  rw [bestTarget_eq] at h ⊢
  rcases Nearest.foldl_better_mem (· < ·) Best.distSq (offer ar i s) Best.none s.aimPlayers.zipIdx with
    heq | ⟨⟨p, k⟩, hmem, hoffer⟩
  · rw [heq] at h
    cases h
  · exact ⟨k, p, idx_offer hoffer, mem_zipIdx hmem, passedOver_offer hoffer⟩

end Search

/-! ### What a tick locks -/

section Locks
variable {D : Type} [Double D] {sim : Sim D} {zone : Zone D}

theorem locked_steer (sim : Sim D) (zone : Zone D) (dist stepX stepY : D) :
    (sim.steer zone dist stepX stepY).lockedPlayerIdx = sim.lockedPlayerIdx ∧
      (sim.steer zone dist stepX stepY).lockedScreenPos = sim.lockedScreenPos := by
  unfold Sim.steer Sim.pause Sim.stroke Sim.release
  dsimp only
  split_ifs <;> exact ⟨rfl, rfl⟩

omit [Double D] in
theorem locked_switchTarget (bestIdx : Int) : (sim.switchTarget zone bestIdx).lockedPlayerIdx = bestIdx := by
  unfold Sim.switchTarget
  split
  · rename_i heq
    exact heq.symm
  · rfl

omit [Double D] in
theorem lift_up (sim : Sim D) (zone : Zone D) :
    (sim.lift zone).touchDown = false ∧ (sim.lift zone).lockedPlayerIdx = -1 := by
  unfold Sim.lift
  cases hdown : sim.touchDown <;> simp [Sim.hidTouchEvent, hdown]

variable {ar : Arith} {i : TickInput D} {s : State D}

theorem locked_steerTo {best : Best D} (h : 0 ≤ best.idx) :
    (s.steerTo i best).lockedPlayerIdx = best.idx ∧ (s.steerTo i best).lockedScreenPos = best.pos := by
  unfold State.steerTo
  dsimp only
  rw [if_pos h]
  obtain ⟨hidx, hpos⟩ := locked_steer { s.sim.switchTarget s.zone best.idx with lockedScreenPos := best.pos } s.zone
    (s.aimDelta i best.pos).2.2 (s.aimStep i best.pos (s.sim.switchTarget s.zone best.idx).strokeFrames).1
    (s.aimStep i best.pos (s.sim.switchTarget s.zone best.idx).strokeFrames).2
  exact ⟨hidx.trans (locked_switchTarget best.idx), hpos⟩

theorem lifted_steerTo {best : Best D} (h : best.idx < 0) :
    (s.steerTo i best).touchDown = false ∧ (s.steerTo i best).lockedPlayerIdx = -1 := by
  unfold State.steerTo
  dsimp only
  rw [if_neg (show ¬0 ≤ best.idx by omega)]
  exact lift_up _ _

/-- What a tick locks. -/
structure Locks (ar : Arith) (t : Tick D) : Prop where
  closed : t.gate.aimGate = false → t.finish.sim.lockedPlayerIdx = -1 ∧ t.finish.sim.touchDown = false
  opened : t.gate.aimGate = true →
    (NoCandidate ar t.input (t.gate.trackPlayers ar t.input.now) ∧ t.finish.sim.lockedPlayerIdx = -1 ∧
      t.finish.sim.touchDown = false) ∨
    ∃ k p b, t.finish.sim.lockedPlayerIdx = (k : Nat) ∧ t.finish.sim.lockedScreenPos = b.pos ∧
      LockedOn ar t.input (t.gate.trackPlayers ar t.input.now) k p b

theorem locks_tick (hord : Ordered D) (h : Nat → Handler Kernel) :
    Locks ar (tickOf ar h i s) := by
  refine ⟨fun hgate => ?_, fun hgate => ?_⟩
  · rw [finish_tickOf, State.aimEngine, if_neg (by simp [hgate])]
    exact (lift_up _ _).symm
  · rw [finish_tickOf, State.aimEngine, if_pos hgate]
    have hinput : (tickOf ar h i s).input = i := rfl
    rw [hinput]
    generalize (tickOf ar h i s).gate.trackPlayers ar i.now = u
    rcases bestTarget_spec ar i u hord with ⟨hnone, hbest⟩ | ⟨k, p, hidx, hlocked⟩
    · have hneg : (u.bestTarget ar i).idx < 0 := by
        rw [hbest]
        exact Int.negSucc_lt_zero 0
      obtain ⟨hup, hidx⟩ := lifted_steerTo hneg
      exact Or.inl ⟨hnone, hidx, hup⟩
    · have hsome : 0 ≤ (u.bestTarget ar i).idx := by
        rw [hidx]
        exact Int.natCast_nonneg k
      obtain ⟨hlock, hpos⟩ := locked_steerTo hsome
      exact Or.inr ⟨k, p, _, hlock.trans hidx, hpos, hlocked⟩

/-- In every run, each tick with the gate open locks the first of the nearest players that are alive, no teammates,
    on the screen and in the circle, and none if there is none; with the gate closed nothing is locked or touched. -/
theorem run_locks (hord : Ordered D) {ticks : List (Tick D)} (h : Run ar ticks s) :
    ∀ t ∈ ticks, Locks ar t := by
  induction h with
  | init => simp
  | tick h i hrun ih =>
    intro t ht
    rcases List.mem_append.mp ht with ht | ht
    · exact ih t ht
    · obtain rfl := List.mem_singleton.mp ht
      exact locks_tick hord h
  | callback c hrun ih => exact ih

/-! ### What a contact is held on -/

/-- A finger that is down rests on a locked player of a live snapshot, who is alive and no teammate. -/
structure OnTarget (s : State D) : Prop where
  live : s.snapshot.header.status = 2 ∧ s.snapshot.header.cameraValid = true
  enemy : ∃ k p, s.sim.lockedPlayerIdx = (k : Nat) ∧ s.aimPlayers[k]? = some p ∧ s.passedOver p = false

theorem onTarget_aimEngine (hdown : (s.aimEngine ar i).sim.touchDown = true) : OnTarget (s.aimEngine ar i) := by
  cases hgate : s.aimGate with
  | false =>
    rw [State.aimEngine, if_neg (by simp [hgate])] at hdown
    rw [(lift_up s.sim s.zone).1] at hdown
    cases hdown
  | true =>
    rw [State.aimEngine, if_pos hgate] at hdown ⊢
    have hlive : s.snapshot.header.status = 2 ∧ s.snapshot.header.cameraValid = true := by
      simp only [State.aimGate, decide_eq_true_eq] at hgate
      exact hgate.2.2
    rcases Int.lt_or_le ((s.trackPlayers ar i.now).bestTarget ar i).idx 0 with hneg | hpos
    · have hup := (lifted_steerTo (s := s.trackPlayers ar i.now) (i := i) hneg).1
      rw [hup] at hdown
      cases hdown
    · obtain ⟨k, p, hidx, hp, hpassed⟩ := bestTarget_enemy hpos
      exact ⟨hlive, k, p, (locked_steerTo hpos).1.trans hidx, hp, hpassed⟩

omit [Double D] in
/-- The target of a contact is not lost when the user does something. -/
theorem OnTarget.of_eq {s t : State D} (h : OnTarget s) (hsnapshot : t.snapshot = s.snapshot)
    (hteam : t.overlayLocalTeam = s.overlayLocalTeam) (hlocked : t.sim.lockedPlayerIdx = s.sim.lockedPlayerIdx) :
    OnTarget t := by
  obtain ⟨hlive, k, p, hidx, hp, hpassed⟩ := h
  have hmyTeam : t.myTeam = s.myTeam := by rw [State.myTeam, State.myTeam, hsnapshot, hteam]
  refine ⟨by rwa [hsnapshot], k, p, hlocked.trans hidx, ?_, ?_⟩
  · rwa [State.aimPlayers, hsnapshot]
  · rwa [State.passedOver, hmyTeam]

theorem onTarget_callback (c : Callback D) (h : s.sim.touchDown = true → OnTarget s)
    (hdown : (s.callback c).sim.touchDown = true) : OnTarget (s.callback c) := by
  have released : s.aimTouchesEnded.sim.touchDown = false := by
    show (s.sim.buttonReleased s.settings.aimTouchZone).touchDown = false
    unfold Sim.buttonReleased
    cases hdown : s.sim.touchDown <;> simp [Sim.hidTouchEvent, hdown]
  cases c with
  | aimTouchesBegan touch => cases touch <;> exact (h hdown).of_eq rfl rfl rfl
  | aimTouchesMoved touch => cases touch <;> exact (h hdown).of_eq rfl rfl rfl
  | aimTouchesEnded =>
    rw [State.callback, released] at hdown
    cases hdown
  | aimTouchesCancelled =>
    rw [State.callback, released] at hdown
    cases hdown
  | toggleMenu => exact (h hdown).of_eq rfl rfl rfl
  | toggle t => exact (h hdown).of_eq rfl rfl rfl
  | stopRadar => exact (h hdown).of_eq rfl rfl rfl

/-- In every run, whatever the user does between the ticks, a contact is held only on a target. -/
theorem run_onTarget {ticks : List (Tick D)} (h : Run ar ticks s) : s.sim.touchDown = true → OnTarget s := by
  induction h with
  | init files h hstart =>
    have hsim : ((State.initOverlay files).eval h 0).1.sim = (Sim.initial : Sim D) := by
      simp [State.initOverlay, State.initial]
    rw [hsim]
    intro hdown
    cases hdown
  | tick h i hrun ih =>
    rw [finish_tickOf]
    exact onTarget_aimEngine
  | callback c hrun ih => exact onTarget_callback c ih

end Locks

/-! ### A run -/

section Witness
attribute [local instance] exact

theorem ordered_exact : Ordered Rat where
  irrefl _ := Rat.lt_irrefl
  trans hxy hyz := Std.lt_trans hxy hyz
  lt_of_not_lt hxz hyz _ := Std.lt_of_lt_of_le hxz (Rat.not_lt.mp hyz)

theorem run_locks_late : Locks exactArith lateTick := run_locks ordered_exact lateRun lateTick (by simp)

theorem run_onTarget_late : OnTarget lateTick.finish := run_onTarget lateRun (by decide +kernel)

end Witness
end Targets
end RadarAim.Overlay
