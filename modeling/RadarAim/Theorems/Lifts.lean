import RadarAim.Theorems.Freshness

/-! The pause between two strokes. A stroke that ends keeps the contact up until the next tick; a switch of the target
    sets the pause before the place that counts it down, and the finger is down again when the tick is over. -/

namespace RadarAim.Overlay
namespace Lifts
open Ieee Touch Freshness

section
variable {D : Type}

/-- No `Down` follows an `Up` in the tick. -/
def StaysLifted (t : Tick D) : Prop := ¬[TouchState.up, .down].Sublist (events t)

variable [Double D]

/-- The target of the tick; -1 when no enemy is in the field of view. -/
def target (ar : Arith) (t : Tick D) : Int := ((t.gate.trackPlayers ar t.input.now).bestTarget ar t.input).idx

/-- The aim engine is on, the finger is down, and the target is an enemy that was not the target before. -/
structure Switches (ar : Arith) (t : Tick D) : Prop where
  gate : t.gate.aimGate = true
  held : t.start.sim.touchDown = true
  found : 0 ≤ target ar t
  other : target ar t ≠ t.start.sim.lockedPlayerIdx

variable {ar : Arith} {s : State D} {i : TickInput D} {best : Best D}

/-- Only a switch sends two events. -/
theorem length_targetEvents (h : ¬(s.sim.touchDown = true ∧ 0 ≤ best.idx ∧ best.idx ≠ s.sim.lockedPlayerIdx)) :
    (targetEvents i s best).length ≤ 1 := by
  have hlift : (liftEvents s.sim.touchDown).length ≤ 1 := by cases s.sim.touchDown <;> decide
  unfold targetEvents
  split
  · exact hlift
  · rename_i hfound
    split
    · rename_i hother
      have hup : s.sim.touchDown = false := by
        rw [← Bool.not_eq_true]
        exact fun hdown => h ⟨hdown, by omega, hother⟩
      rw [hup]
      exact le_rfl
    · split
      · exact le_rfl
      · unfold lockedEvents
        split
        · split
          · split <;> exact le_rfl
          · exact le_rfl
        · exact hlift

theorem targetEvents_of_switch (hdown : s.sim.touchDown = true) (hfound : 0 ≤ best.idx)
    (hother : best.idx ≠ s.sim.lockedPlayerIdx) : targetEvents i s best = [.up, .down] := by
  rw [targetEvents, if_neg (Int.not_lt.mpr hfound), if_pos hother, hdown]
  rfl

theorem staysLifted_iff (h : Nat → Handler Kernel) (i : TickInput D) (hs : Sound s.sim) :
    StaysLifted (tickOf ar h i s) ↔ ¬Switches ar (tickOf ar h i s) := by
  have hsim : ((tickOf ar h i s).gate.trackPlayers ar (tickOf ar h i s).input.now).sim = s.sim := sim_gate h i
  have hstart : (tickOf ar h i s).start.sim = s.sim := rfl
  rw [StaysLifted, events_tickOf h i hs, tickEvents, not_iff_not]
  constructor
  · intro htwo
    have hlen := htwo.length_le
    by_cases hopen : (tickOf ar h i s).gate.aimGate = true
    · rw [if_pos hopen] at hlen
      by_contra hno
      refine absurd (length_targetEvents fun hswitch => hno ?_) (Nat.not_le.mpr hlen)
      obtain ⟨hdown, hfound, hother⟩ := hswitch
      rw [hsim] at hdown hother
      exact ⟨hopen, hdown, hfound, hother⟩
    · rw [if_neg hopen] at hlen
      exact absurd hlen (by cases (tickOf ar h i s).start.sim.touchDown <;> decide)
  · rintro ⟨hopen, hdown, hfound, hother⟩
    rw [hstart, ← hsim] at hdown hother
    rw [if_pos hopen, targetEvents_of_switch hdown hfound hother]

/-- In every run: a tick emits no `Down` after an `Up` exactly when it does not switch the target under the finger. -/
theorem run_staysLifted_iff {ticks : List (Tick D)} (h : Run ar ticks s) :
    ∀ t ∈ ticks, (StaysLifted t ↔ ¬Switches ar t) := by
  induction h with
  | init files h hstart =>
    intro t ht
    cases ht
  | @tick ticks s h i hrun ih =>
    intro t ht
    rcases List.mem_append.mp ht with ht | ht
    · exact ih t ht
    · rw [List.mem_singleton.mp ht]
      exact staysLifted_iff h i (run_sound hrun)
  | callback c hrun ih => exact ih

end

/-! ### A second enemy -/

attribute [local instance] exact

/-- The target of the first frame is dead, and another enemy is in its place. -/
def nextFrame : RadarFrame :=
  { lastFrame with
    header := { lastFrame.header with tick := 2 }
    players := [{ enemy with healthStatus := 2 }, enemy] }

/-- The file has the next frame in it. -/
def nextKernel : Handler Kernel
  | .between => ([] : List FileAction)
  | .fails => false
  | .fresh => (7 : Nat)
  | .sequence => (4 : UInt32)
  | .copy => nextFrame

def contactTick : Tick Rat := tickOf exactArith (fun _ => quietKernel) (inputAt 1) started

def switchTick : Tick Rat := tickOf exactArith (fun _ => nextKernel) (inputAt 2) contactTick.finish

theorem switchRun : Run exactArith [contactTick, switchTick] switchTick.finish :=
  .tick _ _ (.tick _ _ (.init files _ files_atStart))

theorem contactTick_events : events contactTick = [.down] := by decide +kernel

theorem switchTick_events : events switchTick = [.up, .down] := by decide +kernel

theorem run_staysLifted_iff_contact : StaysLifted contactTick ∧ ¬Switches exactArith contactTick := by
  have hlifted : StaysLifted contactTick := by
    rw [StaysLifted, contactTick_events]
    decide
  exact ⟨hlifted, (run_staysLifted_iff switchRun contactTick (by simp)).mp hlifted⟩

/-- When the target dies and another enemy is in view, the finger goes up and down in one tick. -/
theorem lift_within_tick : ¬∀ (D : Type) [Double D] (ar : Arith) (ticks : List (Tick D)) (s : State D),
    Run ar ticks s → ∀ t ∈ ticks, StaysLifted t := by
  intro h
  have hlifted := h Rat exactArith [contactTick, switchTick] switchTick.finish switchRun switchTick (by simp)
  rw [StaysLifted, switchTick_events] at hlifted
  exact hlifted (List.Sublist.refl _)

end Lifts
end RadarAim.Overlay
