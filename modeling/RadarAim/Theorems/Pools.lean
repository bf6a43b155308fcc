import RadarAim.Overlay.DrawRect
import RadarAim.Theorems.Touch

/-! The autorelease pools of the drawing routines. `esp_drawRect` pops what it pushes on each of its paths;
    `radar_drawRect` returns from a stale radar without the pop. -/

namespace RadarAim.Overlay
namespace Pools
open Ieee PoolCall

/-- Both functions of the runtime are there. A token that the runtime returns is not `NULL`. -/
structure Available (rt : PoolRuntime) : Prop where
  push : ∃ pool, rt.push = some pool ∧ pool ≠ 0
  pop : rt.pop

section Runtime
variable {A : Type} {rt : PoolRuntime}

theorem Available.calls (h : Available rt) :
    rt.pushed (A := A) = [.push rt.pool] ∧ rt.popped (A := A) = [.pop rt.pool] := by
  obtain ⟨pool, hpush, hpool⟩ := h.push
  have heq : rt.pool = pool := by simp [PoolRuntime.pool, hpush]
  refine ⟨?_, ?_⟩
  · simp [PoolRuntime.pushed, hpush, heq]
  · simp [PoolRuntime.popped, h.pop, heq, hpool]

theorem Available.balanced (h : Available rt) (acts : List A) :
    Balanced (rt.pushed ++ (acts.map .act ++ rt.popped)) := by
  rw [h.calls.1, h.calls.2]
  exact (balanced_acts acts).scope rt.pool

theorem Available.balanced_nil (h : Available rt) : Balanced (rt.pushed (A := A) ++ rt.popped) :=
  h.balanced []

end Runtime

section Routines
variable {D : Type} [Double D] (ar : Arith) (settings : DrawSettings) (i : Redraw D) (s : State D)

/-- What the radar shows is up to date. -/
def Fresh : Prop := s.snapshot.header.status = 2 ∧ i.now - s.changedAt < (2.0 : D)

instance : Decidable (Fresh i s) := inferInstanceAs (Decidable (_ ∧ _))

variable {i} in
theorem esp_balanced {A : Type} (picture : D → D → List A) (h : Available i.pools) :
    Balanced (s.espDrawRect picture i) := by
  unfold State.espDrawRect
  split
  · exact PoolCall.balanced_nil
  · split
    · exact PoolCall.balanced_nil
    · split
      · exact h.balanced_nil
      · dsimp only
        split
        · exact h.balanced_nil
        · exact h.balanced _

/-- The redraw that leaves its pool behind. -/
def Leaks : Prop := settings.radar ∧ i.context ∧ ¬Fresh i s

instance : Decidable (Leaks settings i s) := inferInstanceAs (Decidable (_ ∧ _))

variable {i} {settings} {s}

theorem radar_balanced (h : Available i.pools) (hleak : ¬Leaks settings i s) :
    Balanced (s.radarDrawRect ar settings i) := by
  unfold State.radarDrawRect
  split
  · exact PoolCall.balanced_nil
  · rename_i hradar
    split
    · exact h.balanced_nil
    · rename_i hcontext
      have hfresh : s.radarFresh i = true := by
        by_contra hstale
        exact hleak ⟨by simpa using hradar, by simpa using hcontext, by simpa [State.radarFresh, Fresh] using hstale⟩
      rw [hfresh, Bool.not_true, if_neg Bool.false_ne_true, ← List.append_assoc (List.map _ _), ← List.map_append]
      exact h.balanced _

theorem radar_leaks (h : Available i.pools) (hleak : Leaks settings i s) :
    s.radarDrawRect ar settings i =
      .push i.pools.pool :: (RadarView.card ar ++ RadarView.cone ar).map .act := by
  obtain ⟨hradar, hcontext, hstale⟩ := hleak
  have hfresh : s.radarFresh i = false := by simpa [State.radarFresh, Fresh] using hstale
  simp only [State.radarDrawRect, hradar, hcontext, hfresh, h.calls.1, Bool.not_true, Bool.not_false,
    Bool.false_eq_true, if_true, if_false, List.append_nil, List.singleton_append]

theorem radar_balanced_iff (h : Available i.pools) :
    Balanced (s.radarDrawRect ar settings i) ↔ ¬Leaks settings i s := by
  refine ⟨?_, radar_balanced ar h⟩
  intro hbal hleak
  rw [radar_leaks ar h hleak] at hbal
  exact (balanced_acts _).not_balanced_push _ hbal

/-- Both routines are balanced exactly when the radar is off, has no context to draw in, or is up to date. -/
theorem drawRect_balanced_iff {A : Type} (picture : D → D → List A) (h : Available i.pools) :
    Balanced (s.espDrawRect picture i) ∧ Balanced (s.radarDrawRect ar settings i) ↔
      settings.radar = false ∨ i.context = false ∨
        s.snapshot.header.status = 2 ∧ i.now - s.changedAt < (2.0 : D) := by
  rw [radar_balanced_iff ar h, and_iff_right (esp_balanced s picture h)]
  simp only [Leaks, not_and_or, not_not, Bool.not_eq_true]
  rfl

/-! ### Redraw after redraw -/

/-- A call of the routine: the settings, what the system says and the state. -/
abbrev RadarCall (D : Type) := DrawSettings × Redraw D × State D

/-- The pools that are left behind, the first one first. -/
def leaked (calls : List (RadarCall D)) : List UInt64 :=
  (calls.filter fun c => decide (Leaks c.1 c.2.1 c.2.2)).map fun c => c.2.1.pools.pool

theorem unwind_radar {c : RadarCall D} (h : Available c.2.1.pools) (stack : List UInt64) :
    unwind stack (c.2.2.radarDrawRect ar c.1 c.2.1) = some ((leaked [c]).reverse ++ stack) := by
  by_cases hleak : Leaks c.1 c.2.1 c.2.2
  · rw [radar_leaks ar h hleak, (balanced_acts _).leak]
    simp [leaked, hleak]
  · rw [radar_balanced ar h hleak stack]
    simp [leaked, hleak]

/-- Nothing ever pops a pool that a redraw has left behind. -/
theorem unwind_radars {calls : List (RadarCall D)} (h : ∀ c ∈ calls, Available c.2.1.pools) (stack : List UInt64) :
    unwind stack (calls.flatMap fun c => c.2.2.radarDrawRect ar c.1 c.2.1) =
      some ((leaked calls).reverse ++ stack) := by
  induction calls generalizing stack with
  | nil => rfl
  | cons c calls ih =>
    have hc := unwind_radar ar (h c List.mem_cons_self) stack
    have hcalls := ih (fun d hd => h d (List.mem_cons_of_mem c hd)) ((leaked [c]).reverse ++ stack)
    have hsplit : leaked (c :: calls) = leaked [c] ++ leaked calls := by
      rw [leaked, ← List.singleton_append, List.filter_append, List.map_append]
      rfl
    rw [List.flatMap_cons, unwind_append, hc, Option.bind_some, hcalls, hsplit, List.reverse_append, List.append_assoc]

end Routines

/-! ### The radar before there is a frame -/

attribute [local instance] Touch.exact

def radarOn : DrawSettings := ⟨true, 200, false, false, false, false⟩

def firstRedraw : Redraw Rat := ⟨1, ⟨some 16, true⟩, true, ⟨180, 180⟩, some ⟨812, 375⟩⟩

theorem firstRedraw_available : Available firstRedraw.pools := ⟨⟨16, rfl, by decide⟩, rfl⟩

/-- The radar is switched on while the overlay waits for the daemon. -/
theorem radar_unbalanced : ¬∀ (D : Type) [Double D] (ar : Arith) (settings : DrawSettings) (i : Redraw D) (s : State D)
    (picture : D → D → List (Paint D)), Available i.pools →
      Balanced (s.espDrawRect picture i) ∧ Balanced (s.radarDrawRect ar settings i) := by
  intro h
  have hbal := (h Rat Touch.exactArith radarOn firstRedraw Touch.started (fun _ _ => []) firstRedraw_available).2
  have hleak : Leaks radarOn firstRedraw Touch.started := by decide
  rw [radar_leaks Touch.exactArith firstRedraw_available hleak] at hbal
  exact (balanced_acts _).not_balanced_push _ hbal

theorem drawRect_balanced_iff_waiting :
    ¬(Balanced (Touch.started.espDrawRect (fun _ _ => ([] : List (Paint Rat))) firstRedraw) ∧
      Balanced (Touch.started.radarDrawRect Touch.exactArith radarOn firstRedraw)) :=
  (drawRect_balanced_iff Touch.exactArith (fun _ _ => []) firstRedraw_available).not.mpr (by decide)

end Pools
end RadarAim.Overlay
