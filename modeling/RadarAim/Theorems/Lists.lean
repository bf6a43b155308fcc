import RadarAim.Reflection.Lists

/-! The list walks. `read_functions` counts every child it visits; `read_properties` counts only properties,
    so a list with fields of another kind can keep it for longer than its counter says, and for ever when
    the list is a cycle of them. -/

namespace RadarAim
namespace Lists

/-- The walk `p` ends, after at most `maxListWalk` nodes, however many rounds it is allowed beyond that. -/
def Bounded {α : Type} (m : Memory) (c : Ue4rCtx) (p : Nat → Walker (Option (ListWalk α))) : Prop :=
  ∃ w, w.visits ≤ maxListWalk ∧ ∃ rounds, ∀ fuel > rounds, (m.exec (p fuel) c).1 = some w

/-! ### A loop over a list -/

/-- `loop` goes over a list: `node` reads a node and the next one, `add` takes up what was read. -/
structure GoesOver {α : Type} (m : Memory) (node : UInt64 → Walker (Option α × UInt64))
    (add : ListWalk α → Option α → ListWalk α) (loop : Nat → UInt64 → ListWalk α → Walker (Option (ListWalk α))) :
    Prop where
  zero : ∀ ptr w c, (m.exec (loop 0 ptr w) c).1 = none
  succ : ∀ fuel ptr w c, m.exec (loop (fuel + 1) ptr w) c =
    if rmValidatePtr ptr ∧ w.count < maxListWalk then
      m.exec (loop fuel (m.exec (node ptr) c).1.2 (add w (m.exec (node ptr) c).1.1)) (m.exec (node ptr) c).2
    else (some w, c)

section Loop
variable {α : Type} {m : Memory} {node : UInt64 → Walker (Option α × UInt64)} {add : ListWalk α → Option α → ListWalk α}
  {loop : Nat → UInt64 → ListWalk α → Walker (Option (ListWalk α))}

theorem GoesOver.stop (h : GoesOver m node add loop) {fuel : Nat} (hfuel : fuel ≠ 0) {ptr : UInt64} {w : ListWalk α}
    (hgo : ¬(rmValidatePtr ptr = true ∧ w.count < maxListWalk)) (c : Ue4rCtx) :
    (m.exec (loop fuel ptr w) c).1 = some w := by
  obtain ⟨fuel, rfl⟩ := Nat.exists_eq_succ_of_ne_zero hfuel
  rw [h.succ, if_neg hgo]

/-- A loop that is `k` nodes from its end ends within `k` nodes, where a node that is read brings it one node closer. -/
theorem GoesOver.ends (h : GoesOver m node add loop) (hvisits : ∀ w x, (add w x).visits = w.visits + 1)
    {P : Nat → UInt64 → ListWalk α → Ue4rCtx → Prop}
    (hstop : ∀ ptr w c, P 0 ptr w c → ¬(rmValidatePtr ptr = true ∧ w.count < maxListWalk))
    (hnext : ∀ k ptr w c, P (k + 1) ptr w c →
      P k (m.exec (node ptr) c).1.2 (add w (m.exec (node ptr) c).1.1) (m.exec (node ptr) c).2)
    {k : Nat} {ptr : UInt64} {w : ListWalk α} {c : Ue4rCtx} (hP : P k ptr w c) :
    ∃ w', w'.visits ≤ w.visits + k ∧ ∀ fuel > k, (m.exec (loop fuel ptr w) c).1 = some w' := by
  induction k generalizing ptr w c with
  | zero => exact ⟨w, Nat.le_refl _, fun fuel hfuel => h.stop (Nat.ne_of_gt hfuel) (hstop ptr w c hP) c⟩
  | succ k ih =>
    by_cases hgo : rmValidatePtr ptr = true ∧ w.count < maxListWalk
    · obtain ⟨w', hle, hends⟩ := ih (hnext k ptr w c hP)
      rw [hvisits] at hle
      refine ⟨w', by omega, fun fuel hfuel => ?_⟩
      obtain ⟨fuel, rfl⟩ := Nat.exists_eq_succ_of_ne_zero (Nat.ne_of_gt (Nat.zero_lt_of_lt hfuel))
      rw [h.succ, if_pos hgo]
      exact hends fuel (Nat.lt_of_succ_lt_succ hfuel)
    · exact ⟨w, Nat.le_add_right _ _, fun fuel hfuel => h.stop (Nat.ne_of_gt (Nat.zero_lt_of_lt hfuel)) hgo c⟩

end Loop

section Walks
variable (m : Memory)

/-! ### Functions -/

theorem exec_readFunctionsLoop (fuel : Nat) (child : UInt64) (w : ListWalk Ue4Function) (c : Ue4rCtx) :
    m.exec (readFunctionsLoop (fuel + 1) child w) c =
      if rmValidatePtr child ∧ w.count < maxListWalk then
        m.exec (readFunctionsLoop fuel (m.exec (readFunctionNode child) c).1.2
          (w.addFunction (m.exec (readFunctionNode child) c).1.1)) (m.exec (readFunctionNode child) c).2
      else (some w, c) := by
  rw [readFunctionsLoop, Memory.exec_ite, Memory.exec_bind, Memory.exec_pure]

theorem readFunctionsLoop_goesOver : GoesOver m readFunctionNode ListWalk.addFunction readFunctionsLoop :=
  ⟨fun _ _ _ => rfl, exec_readFunctionsLoop m⟩

theorem readFunctionsLoop_ends (left : Nat) (child : UInt64) (w : ListWalk Ue4Function) (c : Ue4rCtx)
    (hleft : w.count + left = maxListWalk) :
    ∃ w', w'.visits ≤ w.visits + left ∧ ∀ fuel > left, (m.exec (readFunctionsLoop fuel child w) c).1 = some w' := by
  refine (readFunctionsLoop_goesOver m).ends (P := fun k _ w _ => w.count + k = maxListWalk)
    ListWalk.visits_addFunction ?_ ?_ hleft
  · intro ptr w c hfull hgo
    omega
  · intro k ptr w c hleft
    rw [ListWalk.count_addFunction]
    omega

theorem readFunctions_bounded (c : Ue4rCtx) (classAddr : UInt64) :
    Bounded m c fun fuel => readFunctions fuel classAddr := by
  let child := (validOr (m.ptr (classAddr + offUstructChildren)) (classAddr + offUstructChildren425)).run m.host
  have hexec : ∀ fuel, m.exec (readFunctions fuel classAddr) c = m.exec (readFunctionsLoop fuel child .start) c :=
    fun fuel => by
      simp only [readFunctions, Memory.exec_bind, Memory.exec_lift, Memory.run_rmReadPtr, child]
  obtain ⟨w, hvisits, hends⟩ := readFunctionsLoop_ends m maxListWalk child .start c (Nat.zero_add _)
  exact ⟨w, by simpa [ListWalk.start] using hvisits, maxListWalk, fun fuel hfuel => by rw [hexec, hends fuel hfuel]⟩

/-! ### Properties -/

theorem exec_readPropertiesLoop (fuel : Nat) (propPtr : UInt64) (w : ListWalk Ue4Property) (c : Ue4rCtx) :
    m.exec (readPropertiesLoop (fuel + 1) propPtr w) c =
      if rmValidatePtr propPtr ∧ w.count < maxListWalk then
        m.exec (readPropertiesLoop fuel (m.exec (readPropertyNode propPtr) c).1.2
          (w.addProperty (m.exec (readPropertyNode propPtr) c).1.1)) (m.exec (readPropertyNode propPtr) c).2
      else (some w, c) := by
  rw [readPropertiesLoop, Memory.exec_ite, Memory.exec_bind, Memory.exec_pure]

theorem readPropertiesLoop_goesOver : GoesOver m readPropertyNode ListWalk.addProperty readPropertiesLoop :=
  ⟨fun _ _ _ => rfl, exec_readPropertiesLoop m⟩

/-- The node that the list leads to after `k` nodes, and the context by then. -/
def nodeAt : (k : Nat) → UInt64 → Ue4rCtx → UInt64 × Ue4rCtx
  | 0, propPtr, c => (propPtr, c)
  | k + 1, propPtr, c => nodeAt k (m.exec (readPropertyNode propPtr) c).1.2 (m.exec (readPropertyNode propPtr) c).2

/-- Node `k` of the list is read as a property, and not skipped. -/
def IsProperty (k : Nat) (propPtr : UInt64) (c : Ue4rCtx) : Prop :=
  (m.exec (readPropertyNode (nodeAt m k propPtr c).1) (nodeAt m k propPtr c).2).1.1.isSome

/-- The list ends within `maxListWalk` nodes, or its first `maxListWalk` nodes are all properties. -/
def EndsOrCounts (propPtr : UInt64) (c : Ue4rCtx) : Prop :=
  (∃ k ≤ maxListWalk, ¬rmValidatePtr (nodeAt m k propPtr c).1) ∨ ∀ k < maxListWalk, IsProperty m k propPtr c

theorem readPropertiesLoop_of_end (k : Nat) (propPtr : UInt64) (w : ListWalk Ue4Property) (c : Ue4rCtx)
    (hend : ¬rmValidatePtr (nodeAt m k propPtr c).1) :
    ∃ w', w'.visits ≤ w.visits + k ∧ ∀ fuel > k, (m.exec (readPropertiesLoop fuel propPtr w) c).1 = some w' := by
  refine (readPropertiesLoop_goesOver m).ends (P := fun k ptr _ c => ¬rmValidatePtr (nodeAt m k ptr c).1)
    (fun w p => w.visits_addProperty p) ?_ ?_ hend
  · exact fun ptr w c hend hgo => hend hgo.1
  · exact fun k ptr w c hend => hend

/-- Properties move the counter on, and end the walk when it is full. -/
theorem readPropertiesLoop_of_properties (left : Nat) (propPtr : UInt64) (w : ListWalk Ue4Property) (c : Ue4rCtx)
    (hleft : w.count + left = maxListWalk) (hprops : ∀ k < left, IsProperty m k propPtr c) :
    ∃ w', w'.visits ≤ w.visits + left ∧
      ∀ fuel > left, (m.exec (readPropertiesLoop fuel propPtr w) c).1 = some w' := by
  refine (readPropertiesLoop_goesOver m).ends
    (P := fun k ptr w c => w.count + k = maxListWalk ∧ ∀ j < k, IsProperty m j ptr c)
    (fun w p => w.visits_addProperty p) ?_ ?_ ⟨hleft, hprops⟩
  · rintro ptr w c ⟨hfull, -⟩ hgo
    omega
  · rintro k ptr w c ⟨hleft, hprops⟩
    obtain ⟨p, hp⟩ : ∃ p, (m.exec (readPropertyNode ptr) c).1.1 = some p :=
      Option.isSome_iff_exists.mp (hprops 0 (Nat.succ_pos k))
    refine ⟨?_, fun j hj => hprops (j + 1) (Nat.succ_lt_succ hj)⟩
    rw [hp, ListWalk.count_addProperty_some]
    omega

/-- A walk that has ended after `k` nodes met the end of the list there, or filled its counter; it filled it
    with no more than `k` nodes only if all of them were properties. -/
theorem readPropertiesLoop_ended {fuel : Nat} {propPtr : UInt64} {w w' : ListWalk Ue4Property} {c : Ue4rCtx}
    (h : (m.exec (readPropertiesLoop fuel propPtr w) c).1 = some w') :
    ∃ k, w'.visits = w.visits + k ∧ (¬rmValidatePtr (nodeAt m k propPtr c).1 ∨ maxListWalk < w.count + k ∨
      (maxListWalk ≤ w.count + k ∧ ∀ j < k, IsProperty m j propPtr c)) := by
  induction fuel generalizing propPtr w c with
  | zero => cases h
  | succ fuel ih =>
    rw [exec_readPropertiesLoop] at h
    by_cases hgo : rmValidatePtr propPtr = true ∧ w.count < maxListWalk
    · rw [if_pos hgo] at h
      obtain ⟨k, hvisits, hk⟩ := ih h
      refine ⟨k + 1, ?_⟩
      cases hp : (m.exec (readPropertyNode propPtr) c).1.1 with
      | none =>
        -- A node that is skipped is visited and not counted.
        simp only [hp, ListWalk.visits_addProperty, ListWalk.count_addProperty_none] at hvisits hk
        refine ⟨by omega, ?_⟩
        rcases hk with hk | hk | ⟨hk, -⟩
        · exact Or.inl hk
        · exact Or.inr (Or.inl (by omega))
        · exact Or.inr (Or.inl (by omega))
      | some p =>
        -- A property is visited and counted.
        simp only [hp, ListWalk.visits_addProperty, ListWalk.count_addProperty_some] at hvisits hk
        refine ⟨by omega, ?_⟩
        rcases hk with hk | hk | ⟨hk, hall⟩
        · exact Or.inl hk
        · exact Or.inr (Or.inl (by omega))
        · refine Or.inr (Or.inr ⟨by omega, fun j hj => ?_⟩)
          cases j with
          | zero => exact Option.isSome_iff_exists.mpr ⟨p, hp⟩
          | succ j => exact hall j (Nat.lt_of_succ_lt_succ hj)
    · -- The walk stops at this node.
      rw [if_neg hgo] at h
      cases h
      refine ⟨0, rfl, ?_⟩
      by_cases hvalid : rmValidatePtr propPtr = true
      · exact Or.inr (Or.inr ⟨Nat.le_of_not_lt fun hlt => hgo ⟨hvalid, hlt⟩, fun j hj => absurd hj (Nat.not_lt_zero j)⟩)
      · exact Or.inl hvalid

end Walks

/-- The walks of both lists are bounded exactly when the property list ends within `maxListWalk` nodes, or
    begins with `maxListWalk` properties. -/
theorem walks_bounded_iff (m : Memory) (c c' : Ue4rCtx) (classAddr : UInt64) :
    (Bounded m c fun fuel => readProperties fuel classAddr) ∧ (Bounded m c' fun fuel => readFunctions fuel classAddr) ↔
      EndsOrCounts m (m.exec (firstProperty classAddr) c).1 (m.exec (firstProperty classAddr) c).2 := by
  have hexec : ∀ fuel, m.exec (readProperties fuel classAddr) c =
      m.exec (readPropertiesLoop fuel (m.exec (firstProperty classAddr) c).1 .start)
        (m.exec (firstProperty classAddr) c).2 := fun fuel => Memory.exec_bind m c _ _
  rw [and_iff_left (readFunctions_bounded m c' classAddr)]
  constructor
  · rintro ⟨w, hvisits, rounds, hends⟩
    have h := hends (rounds + 1) (Nat.lt_succ_self rounds)
    rw [hexec] at h
    obtain ⟨k, hk, hwhy⟩ := readPropertiesLoop_ended m h
    simp only [ListWalk.start, Nat.zero_add] at hk hwhy
    rcases hwhy with hend | hlt | ⟨hle, hall⟩
    · exact Or.inl ⟨k, by omega, hend⟩
    · omega
    · exact Or.inr fun j hj => hall j (by omega)
  · rintro (⟨k, hk, hend⟩ | hprops)
    · obtain ⟨w, hvisits, hends⟩ := readPropertiesLoop_of_end m k _ .start _ hend
      exact ⟨w, by simp only [ListWalk.start] at hvisits; omega, k, fun fuel hfuel => by rw [hexec, hends fuel hfuel]⟩
    · obtain ⟨w, hvisits, hends⟩ := readPropertiesLoop_of_properties m maxListWalk _ .start _ (Nat.zero_add _) hprops
      exact ⟨w, by simpa [ListWalk.start] using hvisits, maxListWalk,
        fun fuel hfuel => by rw [hexec, hends fuel hfuel]⟩

/-- A class whose only child is a function that is its own successor. -/
def cycleMemory : Memory := .ofSegments
  [(0x10000, leBytes 56 0 ++ leBytes 8 0x20000),
   (0x20000, leBytes 16 0 ++ leBytes 8 0x30000 ++ leBytes 16 0 ++ leBytes 8 0x20000)]

theorem cycle_never_ends : ¬∀ (m : Memory) (c c' : Ue4rCtx) (classAddr : UInt64),
    (Bounded m c fun fuel => readProperties fuel classAddr) ∧
      (Bounded m c' fun fuel => readFunctions fuel classAddr) := by
  intro h
  obtain ⟨⟨w, hvisits, rounds, hends⟩, -⟩ := h cycleMemory (.initial 0 0 0) (.initial 0 0 0) 0x10000
  have hnode : ∀ c, cycleMemory.exec (readPropertyNode 0x20000) c = ((none, 0x20000), c) := fun c => rfl
  have hnodes : ∀ k c, nodeAt cycleMemory k 0x20000 c = (0x20000, c) := by
    intro k c
    induction k with
    | zero => rfl
    | succ k ih => rw [nodeAt, hnode, ih]
  have hrun : cycleMemory.exec (readProperties (rounds + 1) 0x10000) (.initial 0 0 0) =
      cycleMemory.exec (readPropertiesLoop (rounds + 1) 0x20000 .start) (.initial 0 0 0) := rfl
  have hended := hends (rounds + 1) (Nat.lt_succ_self rounds)
  rw [hrun] at hended
  obtain ⟨k, hk, hwhy⟩ := readPropertiesLoop_ended cycleMemory hended
  simp only [ListWalk.start, Nat.zero_add, hnodes] at hk hwhy
  rcases hwhy with hend | hlt | ⟨hle, hall⟩
  · exact hend rfl
  · omega
  · have hprop := hall 0 (Nat.lt_of_lt_of_le (by decide) hle)
    rw [IsProperty, hnodes, hnode] at hprop
    cases hprop

end Lists
end RadarAim
