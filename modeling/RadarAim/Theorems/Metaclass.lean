import RadarAim.Theorems.Children
import RadarAim.Theorems.Instances
import RadarAim.Theorems.Walkers

/-! The classes that `ue4r_iterate_classes` passes on. An object is a class when the name of its class is `Class`; the
    walker compares names until it knows a metaclass, and pointers with that metaclass from then on. A name that the
    cache has cut short can look like `Class`, and its class is then taken for a metaclass. -/

namespace RadarAim
namespace Metaclass
open Names Objects Contexts FailedLookup Instances Children

/-! ### The metaclass -/

/-- The object at `cls` is named `Class`. -/
def isMetaclass (m : Memory) (t : NameTables) (cls : UInt64) : Bool :=
  rmValidatePtr cls && uncached m t (cls + offUobjectName) 256 = (true, lit "Class")

/-- The object at `obj` is a class. -/
def isClassObject (m : Memory) (t : NameTables) (obj : UInt64) : Bool := isMetaclass m t (m.ptr (obj + offUobjectClass))

/-- The class of `obj` is known to be the metaclass, or no object, or the cache tells rightly whether it is named
    `Class`. -/
def Tested (m : Memory) (c : Ue4rCtx) (obj : UInt64) : Prop :=
  ¬(c.uclassClass ≠ 0 ∧ m.ptr (obj + offUobjectClass) = c.uclassClass) →
    rmValidatePtr (m.ptr (obj + offUobjectClass)) = true →
      Tells m c (m.ptr (obj + offUobjectClass) + offUobjectName) (lit "Class")

/-- The texts in the name cache are in `P`, and the metaclass is right, if the context has one. -/
structure Knows (m : Memory) (P : NameTables → Nat → Str → Prop) (t : NameTables) (c : Ue4rCtx) : Prop where
  holds : Holds m P t c
  uclass : c.uclassClass = 0 ∨ isMetaclass m t c.uclassClass = true

section Lookups
variable {m : Memory} {P : NameTables → Nat → Str → Prop} {t : NameTables} {c : Ue4rCtx}
  (hstore : ∀ t compIndex s, nameText m t compIndex 256 = some s → P t compIndex (s.take 59))

/-- What the walker itself stores of a name does not make a `Class` of another name, nor another name of `Class`. -/
theorem tells_of_stored (h : CacheOk m (Stored m) c) (fnameAddr : UInt64) : Tells m c fnameAddr (lit "Class") := by
  intro compIndex hindex hhit
  obtain ⟨full, hfull, hslot⟩ := h.cache _ compIndex hhit.1 hhit.2
  have hcut := snprintf_cut_iff full (length_numberSuffix_le (nameNumber_lt m fnameAddr))
    (by decide : (lit "Class").length < 59)
  rw [hslot, uncached_of_index m (by decide) hindex, answer_of_some m _ hfull, Prod.mk.injEq, eq_self, true_and]
  exact hcut

theorem classNamed_iff (h : ChunksOk m c) (cls : UInt64) (htells : rmValidatePtr cls = true →
    Tells m c (cls + offUobjectName) (lit "Class")) :
    (m.exec (resolveObjectName cls 256) c).1 = (true, lit "Class") ↔ isMetaclass m (tables c) cls = true := by
  unfold isMetaclass
  by_cases hcls : rmValidatePtr cls = true
  · rw [resolveObjectName, if_pos hcls, hcls, Bool.true_and, decide_eq_true_iff]
    exact (tells_iff h).mp (htells hcls)
  · rw [resolveObjectName, if_neg hcls]
    simp [hcls]

/-- What the test of an object answers, and the metaclass that it leaves. -/
theorem isUclass_cases (m : Memory) (c : Ue4rCtx) (obj : UInt64) :
    let cls := m.ptr (obj + offUobjectClass)
    if c.uclassClass ≠ 0 ∧ cls = c.uclassClass then m.exec (isUclass obj) c = (true, c)
    else if rmValidatePtr cls then
      (m.exec (isUclass obj) c).1 = decide ((m.exec (resolveObjectName cls 256) c).1 = (true, lit "Class")) ∧
        ∃ uclass,
          (m.exec (isUclass obj) c).2 = { (m.exec (resolveObjectName cls 256) c).2 with uclassClass := uclass } ∧
          (uclass = (m.exec (resolveObjectName cls 256) c).2.uclassClass ∨
            (m.exec (isUclass obj) c).1 = true ∧ uclass = cls)
    else m.exec (isUclass obj) c = (false, c) := by
  intro cls
  have hcls : (rmReadPtr (obj + offUobjectClass)).run m.host = cls := Memory.run_rmReadPtr m _
  rw [isUclass, Memory.exec_bind, Memory.exec_lift, hcls, Memory.exec_bind, Memory.exec_get]
  dsimp only
  split
  · rfl
  split
  · rw [Memory.exec_bind]
    generalize m.exec (resolveObjectName cls 256) c = r
    obtain ⟨⟨resolved, clsName⟩, c'⟩ := r
    by_cases hname : resolved = true ∧ clsName = lit "Class"
    · obtain ⟨rfl, rfl⟩ := hname
      simp only [and_self, if_true, Memory.exec_bind, Memory.exec_modify, Memory.exec_pure, decide_true, true_and]
      split
      · exact ⟨cls, rfl, Or.inr rfl⟩
      · exact ⟨c'.uclassClass, rfl, Or.inl rfl⟩
    · simp only [if_neg hname, Memory.exec_pure, Prod.mk.injEq, decide_eq_false hname, true_and]
      exact ⟨c'.uclassClass, rfl, Or.inl rfl⟩
  · rfl

/-- The test is right about an object exactly when the metaclass or the cache is. -/
theorem isUclass_right_iff (h : Knows m P t c) (obj : UInt64) :
    (m.exec (isUclass obj) c).1 = isClassObject m t obj ↔ Tested m c obj := by
  obtain rfl := h.holds.2
  have hcases := isUclass_cases m c obj
  unfold isClassObject Tested
  generalize m.ptr (obj + offUobjectClass) = cls at hcases ⊢
  dsimp only at hcases
  by_cases hfast : c.uclassClass ≠ 0 ∧ cls = c.uclassClass
  · have hmeta := h.uclass.resolve_left hfast.1
    rw [if_pos hfast] at hcases
    rw [hcases, hfast.2, hmeta]
    simp [hfast.1]
  rw [if_neg hfast] at hcases
  by_cases hcls : rmValidatePtr cls = true
  · rw [if_pos hcls] at hcases
    have htells : Tells m c (cls + offUobjectName) (lit "Class") ↔
        ((m.exec (resolveObjectName cls 256) c).1 = (true, lit "Class") ↔ isMetaclass m (tables c) cls = true) := by
      rw [tells_iff h.holds.1.chunks, resolveObjectName, if_pos hcls, isMetaclass, hcls, Bool.true_and,
        decide_eq_true_iff]
    rw [hcases.1]
    simp only [hfast, hcls, not_false_eq_true, true_imp_iff]
    rw [htells, Bool.eq_iff_iff, decide_eq_true_iff]
  · rw [if_neg hcls] at hcases
    rw [hcases, isMetaclass, Bool.eq_false_iff.mpr hcls]
    simp

include hstore

theorem Knows.resolve (fnameAddr : UInt64) : Stays m (Knows m P t) (ue4rResolveName fnameAddr 256) := by
  intro c h
  have hkept := exec_resolveName_kept h.holds.1 hstore fnameAddr
  have hholds := resolveName_stays hstore t fnameAddr c h.holds
  generalize (m.exec (ue4rResolveName fnameAddr 256) c).2 = c' at hkept hholds ⊢
  obtain ⟨chunks, cache, rfl⟩ := hkept.same
  exact ⟨hholds, h.uclass⟩

/-- An object that is tested rightly leaves no metaclass but a right one. -/
theorem exec_isUclass (h : Knows m P t c) {obj : UInt64} (htested : Tested m c obj) :
    Knows m P t (m.exec (isUclass obj) c).2 ∧ (m.exec (isUclass obj) c).1 = isClassObject m t obj := by
  have hright := (isUclass_right_iff h obj).mpr htested
  refine ⟨?_, hright⟩
  have hcases := isUclass_cases m c obj
  dsimp only at hcases
  split at hcases
  · rw [hcases]
    exact h
  split at hcases
  · obtain ⟨-, uclass, hsame, hmeta⟩ := hcases
    have hknows := resolveObjectName_stays (Knows.resolve hstore) (m.ptr (obj + offUobjectClass)) c h
    rw [hsame]
    refine ⟨hknows.holds.meta uclass, ?_⟩
    rcases hmeta with rfl | ⟨hyes, rfl⟩
    · exact hknows.uclass
    · rw [hyes] at hright
      exact Or.inr hright.symm
  · rw [hcases]
    exact h

end Lookups

/-! ### Rounds -/

/-- More rounds make no difference to a program that has ended. -/
def Settles {α : Type} (m : Memory) (p : Nat → Walker (Option α)) : Prop :=
  ∀ fuel fuel' c a, fuel ≤ fuel' → (m.exec (p fuel) c).1 = some a → m.exec (p fuel') c = m.exec (p fuel) c

section Rounds
variable {m : Memory}

theorem settles_of_loop {α : Type} {node : UInt64 → Walker (Option α × UInt64)}
    {add : ListWalk α → Option α → ListWalk α} {loop : Nat → UInt64 → ListWalk α → Walker (Option (ListWalk α))}
    (hloop : Lists.GoesOver m node add loop) (ptr : UInt64) (w : ListWalk α) :
    Settles m fun fuel => loop fuel ptr w := by
  intro fuel fuel' c a hle h
  induction fuel generalizing ptr w c fuel' with
  | zero =>
    rw [hloop.zero] at h
    cases h
  | succ fuel ih =>
    obtain ⟨fuel', rfl⟩ := Nat.exists_eq_add_of_le' (Nat.le_trans (Nat.le_add_left 1 fuel) hle)
    simp only [hloop.succ] at h ⊢
    split
    · rename_i hgo
      rw [if_pos hgo] at h
      exact ih _ _ _ _ (Nat.le_of_succ_le_succ hle) h
    · rfl

theorem Settles.bind {α β : Type} {p : Walker α} {q : α → Nat → Walker (Option β)}
    (hq : ∀ a, Settles m (q a)) : Settles m fun fuel => p >>= fun a => q a fuel := by
  intro fuel fuel' c b hle h
  simp only [Memory.exec_bind] at h ⊢
  exact hq _ fuel fuel' _ b hle h

theorem readProperties_settles (classAddr : UInt64) : Settles m fun fuel => readProperties fuel classAddr :=
  .bind fun propPtr => settles_of_loop (Lists.readPropertiesLoop_goesOver m) propPtr _

theorem readFunctions_settles (classAddr : UInt64) : Settles m fun fuel => readFunctions fuel classAddr :=
  .bind fun _ => .bind fun child =>
    settles_of_loop (Lists.readFunctionsLoop_goesOver m) child _

/-- One program after another: the second begins when the first has ended. -/
theorem Settles.andThen {α β : Type} {p : Nat → Walker (Option α)} {q : Nat → Option α → Walker (Option β)}
    (hp : Settles m p) (hnone : ∀ fuel, q fuel none = pure none) (hsome : ∀ a, Settles m fun fuel => q fuel (some a)) :
    Settles m fun fuel => p fuel >>= q fuel := by
  intro fuel fuel' c b hle h
  simp only [Memory.exec_bind] at h ⊢
  cases hr : (m.exec (p fuel) c).1 with
  | none =>
    rw [hr, hnone] at h
    cases h
  | some a =>
    rw [hr] at h
    rw [hp fuel fuel' c a hle hr, hr]
    exact hsome a fuel fuel' _ b hle h

theorem Settles.const {α : Type} (p : Walker (Option α)) : Settles m fun _ => p := fun _ _ _ _ _ _ => rfl

theorem readClass_settles (obj : UInt64) : Settles m fun fuel => readClass fuel obj := by
  refine .bind fun name => .bind fun _ => .bind fun superPtr => .bind fun superName => .bind fun structSize => ?_
  refine .andThen (readProperties_settles obj) (fun _ => rfl) fun properties => ?_
  exact .andThen (readFunctions_settles obj) (fun _ => rfl) fun functions => .const _

section Iterate
variable {ω : Type} (cb : ω → Ue4Class → ω)

theorem iterateBody_settles (obj : UInt64) (s : ω × Int) : Settles m fun fuel => iterateBody fuel cb obj s := by
  refine .bind fun isClass => ?_
  cases isClass with
  | false => exact .const _
  | true => exact .andThen (readClass_settles obj) (fun _ => rfl) fun c => .const _

theorem visitAll_settles (objs : List UInt64) (s : ω × Int) :
    Settles m fun fuel => visitAll (iterateBody fuel cb) objs s := by
  induction objs generalizing s with
  | nil => exact .const _
  | cons obj objs ih => exact .andThen (iterateBody_settles cb obj s) (fun _ => rfl) fun s => ih s

/-- What the body does with an object: a class is read and given to the callback, anything else passed over. -/
theorem exec_iterateBody (fuel : Nat) (obj : UInt64) (s : ω × Int) (c : Ue4rCtx) :
    m.exec (iterateBody fuel cb obj s) c =
      if (m.exec (isUclass obj) c).1 then
        ((m.exec (readClass fuel obj) (m.exec (isUclass obj) c).2).1.map fun r => (cb s.1 r, s.2 + 1),
          (m.exec (readClass fuel obj) (m.exec (isUclass obj) c).2).2)
      else (some s, (m.exec (isUclass obj) c).2) := by
  rw [iterateBody, Memory.exec_bind]
  split
  · rw [Memory.exec_bind]
    cases (m.exec (readClass fuel obj) (m.exec (isUclass obj) c).2).1 <;> rfl
  · rfl

end Iterate
end Rounds

/-! ### The objects of a table -/

section Table
variable (m : Memory) (objects : UInt64) (numElems : Nat)

/-- The pointer that the walker takes for item `i` of the table: its window has been read in one batch, or not. -/
def slotPtr (i : Nat) : UInt64 :=
  let b := i / batchSize * batchSize
  (batchObject objects b ((readBatch objects b (min (numElems - b) batchSize)).run m.host) (i % batchSize)).run m.host

/-- The objects that the walker visits, in the order of their items. -/
def visited : List UInt64 := validAt (slotPtr m objects numElems) 0 numElems

theorem validAt_add (f : Nat → UInt64) (k n n' : Nat) :
    validAt f k (n + n') = validAt f k n ++ validAt f (k + n) n' := by
  rw [validAt, ← List.range'_append_1, List.map_append, List.filter_append]
  rfl

theorem exec_visitAll_append {σ : Type} (body : UInt64 → σ → Walker (Option σ)) (objs objs' : List UInt64) (s : σ)
    (c : Ue4rCtx) :
    m.exec (visitAll body (objs ++ objs') s) c =
      match m.exec (visitAll body objs s) c with
      | (none, c') => (none, c')
      | (some s', c') => m.exec (visitAll body objs' s') c' := by
  induction objs generalizing s c with
  | nil => rfl
  | cons obj objs ih =>
    simp only [List.cons_append, visitAll, Memory.exec_bind]
    cases (m.exec (body obj s) c).1 with
    | none => rfl
    | some s' => exact ih s' _

/-- On a memory that does not change, the loop over the windows runs its body on the objects in them. -/
theorem exec_forWindows {σ : Type} (body : UInt64 → σ → Walker (Option σ)) (windows j : Nat)
    (hwindows : numElems ≤ (j + windows) * batchSize) (s : σ) (c : Ue4rCtx) :
    m.exec (forWindows objects body windows numElems (j * batchSize) s) c =
      m.exec (visitAll body (validAt (slotPtr m objects numElems) (j * batchSize) (numElems - j * batchSize)) s) c := by
  induction windows generalizing j s c with
  | zero =>
    have hend : numElems - j * batchSize = 0 := Nat.sub_eq_zero_of_le hwindows
    rw [hend]
    rfl
  | succ windows ih =>
    obtain ⟨n, hn⟩ : ∃ n, n = min (numElems - j * batchSize) batchSize := ⟨_, rfl⟩
    have hpos : 0 < batchSize := by decide
    have hnext : (j + 1) * batchSize = j * batchSize + batchSize := Nat.succ_mul j batchSize
    -- The objects of this window come before those of the windows left.
    have hsplit : validAt (slotPtr m objects numElems) (j * batchSize) (numElems - j * batchSize) =
        validAt (slotPtr m objects numElems) (j * batchSize) n ++
          validAt (slotPtr m objects numElems) ((j + 1) * batchSize) (numElems - (j + 1) * batchSize) := by
      rw [hnext]
      rcases Nat.le_total (numElems - j * batchSize) batchSize with hlast | hfull
      · rw [show numElems - (j * batchSize + batchSize) = 0 by omega, hn, min_eq_left hlast]
        exact (List.append_nil _).symm
      · have hrest : batchSize + (numElems - (j * batchSize + batchSize)) = numElems - j * batchSize := by omega
        rw [hn, min_eq_right hfull, ← validAt_add, hrest]
    -- Within the window, what the batch has of a slot is what the reference reads.
    have hwindow : validAt (fun k => (batchObject objects (j * batchSize)
          ((readBatch objects (j * batchSize) n).run m.host) k).run m.host) 0 n =
        validAt (slotPtr m objects numElems) (j * batchSize) n := by
      refine validAt_congr fun k hk => ?_
      have hlt : k < batchSize := by omega
      have hdiv : (j * batchSize + k) / batchSize = j := by
        rw [Nat.mul_comm, Nat.mul_add_div hpos, Nat.div_eq_of_lt hlt, Nat.add_zero]
      have hmod : (j * batchSize + k) % batchSize = k := by
        rw [Nat.mul_comm, Nat.mul_add_mod, Nat.mod_eq_of_lt hlt]
      rw [slotPtr, hdiv, hmod, Nat.zero_add, ← hn]
    rw [forWindows, Memory.exec_bind, Memory.exec_lift, Memory.exec_bind, exec_forWindow, ← hn, hwindow, hsplit,
      exec_visitAll_append]
    cases hr : m.exec (visitAll body (validAt (slotPtr m objects numElems) (j * batchSize) n) s) c with
    | mk r c' =>
      cases r with
      | none => rfl
      | some s' =>
        have hrest := ih (j + 1) (by rwa [Nat.add_assoc, Nat.add_comm 1]) s' c'
        simp only [hnext] at hrest ⊢
        exact hrest

theorem exec_allWindows {σ : Type} (body : UInt64 → σ → Walker (Option σ)) (s : σ) (c : Ue4rCtx) :
    m.exec (forWindows objects body (windowCount numElems) numElems 0 s) c =
      m.exec (visitAll body (visited m objects numElems) s) c := by
  have hwindows : numElems ≤ (0 + windowCount numElems) * batchSize := by
    unfold windowCount batchSize
    omega
  have hall := exec_forWindows m objects numElems body (windowCount numElems) 0 hwindows s c
  rw [Nat.zero_mul, Nat.sub_zero] at hall
  exact hall

end Table

/-! ### The walker -/

/-- The objects that the walker comes to among `objs`, each with the context before it. -/
def visits (m : Memory) (fuel : Nat) : List UInt64 → Ue4rCtx → List (UInt64 × Ue4rCtx)
  | [], _ => []
  | obj :: objs, c =>
    (obj, c) ::
      if (m.exec (isUclass obj) c).1 then
        match m.exec (readClass fuel obj) (m.exec (isUclass obj) c).2 with
        | (none, _) => []
        | (some _, c') => visits m fuel objs c'
      else visits m fuel objs (m.exec (isUclass obj) c).2

/-- The classes among `objs`. -/
def classObjects (m : Memory) (t : NameTables) (objs : List UInt64) : List UInt64 := objs.filter (isClassObject m t)

section Records
variable (m : Memory) (P : NameTables → Nat → Str → Prop) (t : NameTables)

/-- `r` is the record of the class `obj`, read with some context of the run. -/
def RecordOf (fuel : Nat) (obj : UInt64) (r : Ue4Class) : Prop :=
  ∃ c, Knows m P t c ∧ (m.exec (readClass fuel obj) c).1 = some r

/-- A list of the class `obj` does not end. -/
def Endless (obj : UInt64) : Prop := ∃ c, Knows m P t c ∧ ∀ fuel, (m.exec (readClass fuel obj) c).1 = none

/-- The callback was given the records of the classes among `objs`, one for each and in their order, and these are
    counted; or a list of one of them has not ended. The metaclass, if one is known, is named `Class`. -/
structure Passed {ω : Type} (fuel : Nat) (cb : ω → Ue4Class → ω) (s : ω × Int) (objs : List UInt64)
    (r : Option (ω × Int) × Ue4rCtx) : Prop where
  knows : Knows m P t r.2
  given : ∀ s', r.1 = some s' → ∃ records, List.Forall₂ (RecordOf m P t fuel) (classObjects m t objs) records ∧
    s' = (records.foldl cb s.1, s.2 + records.length)
  waiting : r.1 = none → ∃ obj ∈ classObjects m t objs, ∃ c, Knows m P t c ∧ (m.exec (readClass fuel obj) c).1 = none

end Records

section Visits
variable {m : Memory} {c : Ue4rCtx} {v : UInt64 × Ue4rCtx}

theorem visits_take (fuel n : Nat) (objs : List UInt64) (h : v ∈ visits m fuel (objs.take n) c) :
    v ∈ visits m fuel objs c := by
  induction objs generalizing n c with
  | nil =>
    rw [List.take_nil] at h
    exact h
  | cons obj objs ih =>
    cases n with
    | zero => cases h
    | succ n =>
      rw [List.take_succ_cons] at h
      unfold visits at h ⊢
      rcases List.mem_cons.mp h with rfl | h
      · exact List.mem_cons_self
      · refine List.mem_cons_of_mem _ ?_
        split
        · rename_i hyes
          rw [if_pos hyes] at h
          cases hread : m.exec (readClass fuel obj) (m.exec (isUclass obj) c).2 with
          | mk r c' =>
            rw [hread] at h
            cases r with
            | none => exact h
            | some r => exact ih n h
        · rename_i hno
          rw [if_neg hno] at h
          exact ih n h

/-- More rounds let the walker come to more objects. -/
theorem visits_mono {fuel fuel' : Nat} (hle : fuel ≤ fuel') (objs : List UInt64) (h : v ∈ visits m fuel objs c) :
    v ∈ visits m fuel' objs c := by
  induction objs generalizing c with
  | nil => exact h
  | cons obj objs ih =>
    unfold visits at h ⊢
    rcases List.mem_cons.mp h with rfl | h
    · exact List.mem_cons_self
    · refine List.mem_cons_of_mem _ ?_
      split
      · rename_i hyes
        rw [if_pos hyes] at h
        cases hread : m.exec (readClass fuel obj) (m.exec (isUclass obj) c).2 with
        | mk r c' =>
          rw [hread] at h
          cases r with
          | none => exact absurd h List.not_mem_nil
          | some r =>
            rw [readClass_settles obj fuel fuel' _ r hle (by rw [hread]), hread]
            exact ih h
      · rename_i hno
        rw [if_neg hno] at h
        exact ih h

/-- Where the walker alone has filled the cache, every object is tested rightly. -/
theorem visits_tested (h : CacheOk m (Stored m) c) (fuel : Nat) (objs : List UInt64) :
    ∀ v ∈ visits m fuel objs c, Tested m v.2 v.1 := by
  have hstays : ∀ a, Stays m (CacheOk m (Stored m)) (ue4rResolveName a 256) := fun a c hc =>
    (exec_resolveName_kept hc stored_of_text a).ok
  induction objs generalizing c with
  | nil => exact fun v hv => absurd hv List.not_mem_nil
  | cons obj objs ih =>
    have htest := isUclass_stays hstays (fun c cls hc => ⟨hc.chunks, hc.cache⟩) obj c h
    rw [visits]
    refine List.forall_mem_cons.mpr ⟨fun _ _ => tells_of_stored h _, ?_⟩
    split
    · have hread := readClass_stays hstays fuel obj _ htest
      generalize m.exec (readClass fuel obj) (m.exec (isUclass obj) c).2 = r at hread ⊢
      obtain ⟨r, c'⟩ := r
      cases r with
      | none => exact fun v hv => absurd hv List.not_mem_nil
      | some r => exact ih hread
    · exact ih htest

end Visits

section Walker
variable {m : Memory} {P : NameTables → Nat → Str → Prop} {t : NameTables} {ω : Type}
  {cb : ω → Ue4Class → ω} {c : Ue4rCtx}
  (hstore : ∀ t compIndex s, nameText m t compIndex 256 = some s → P t compIndex (s.take 59))

theorem classObjects_cons (obj : UInt64) (objs : List UInt64) :
    classObjects m t (obj :: objs) =
      if isClassObject m t obj then obj :: classObjects m t objs else classObjects m t objs :=
  List.filter_cons

include hstore

theorem passed_visitAll (fuel : Nat) (objs : List UInt64) (h : Knows m P t c)
    (htested : ∀ v ∈ visits m fuel objs c, Tested m v.2 v.1) (s : ω × Int) :
    Passed m P t fuel cb s objs (m.exec (visitAll (iterateBody fuel cb) objs s) c) := by
  induction objs generalizing s c with
  | nil =>
    refine ⟨h, ?_, fun hnone => by cases hnone⟩
    rintro s' hs'
    obtain rfl := Option.some.inj hs'
    exact ⟨[], .nil, by simp⟩
  | cons obj objs ih =>
    rw [visits] at htested
    obtain ⟨hhere, hrest⟩ := List.forall_mem_cons.mp htested
    obtain ⟨hknows, hclass⟩ := exec_isUclass hstore h hhere
    rw [visitAll, Memory.exec_bind, exec_iterateBody]
    rw [hclass] at hrest ⊢
    cases hobj : isClassObject m t obj with
    | false =>
      -- It is no class, so the callback is not called.
      rw [hobj, if_neg Bool.false_ne_true] at hrest
      have hpassed := ih hknows hrest s
      have hsame : classObjects m t (obj :: objs) = classObjects m t objs := by
        rw [classObjects_cons, hobj, if_neg Bool.false_ne_true]
      exact ⟨hpassed.knows, hsame ▸ hpassed.given, hsame ▸ hpassed.waiting⟩
    | true =>
      rw [hobj, if_pos rfl] at hrest
      have hread := readClass_stays (Knows.resolve hstore) fuel obj _ hknows
      have hmore : classObjects m t (obj :: objs) = obj :: classObjects m t objs := by
        rw [classObjects_cons, hobj, if_pos rfl]
      simp only [if_true]
      cases hr : m.exec (readClass fuel obj) (m.exec (isUclass obj) c).2 with
      | mk r c' =>
      rw [hr] at hread hrest
      cases r with
      | none =>
        -- The rounds do not suffice for a list of this class, and the walk waits there.
        refine ⟨hread, (fun s' hs' => by cases hs'), fun _ => ⟨obj, ?_, _, hknows, by rw [hr]⟩⟩
        rw [hmore]
        exact List.mem_cons_self
      | some r =>
        have hpassed := ih hread hrest (cb s.1 r, s.2 + 1)
        refine ⟨hpassed.knows, fun s' hs' => ?_, fun hnone => ?_⟩
        · -- The record of this class comes before those of the rest.
          obtain ⟨records, hrecords, rfl⟩ := hpassed.given s' hs'
          refine ⟨r :: records, ?_, ?_⟩
          · rw [hmore]
            exact .cons ⟨_, hknows, by rw [hr]⟩ hrecords
          · simp only [List.foldl_cons, List.length_cons, Nat.cast_add, Nat.cast_one]
            rw [add_assoc, add_comm 1]
        · obtain ⟨obj', hmem, hwait⟩ := hpassed.waiting hnone
          exact ⟨obj', hmore ▸ List.mem_cons_of_mem obj hmem, hwait⟩

/-- With enough rounds the walk is over, unless a list of one of the classes does not end. -/
theorem visitAll_returns (objs : List UInt64) (h : Knows m P t c)
    (htested : ∀ fuel, ∀ v ∈ visits m fuel objs c, Tested m v.2 v.1) (s : ω × Int) :
    (∃ fuel, (m.exec (visitAll (iterateBody fuel cb) objs s) c).1.isSome) ∨
      ∃ obj ∈ classObjects m t objs, Endless m P t obj := by
  induction objs generalizing s c with
  | nil => exact Or.inl ⟨0, rfl⟩
  | cons obj objs ih =>
    simp only [visits, List.forall_mem_cons] at htested
    obtain ⟨hknows, hclass⟩ := exec_isUclass hstore h (htested 0).1
    simp only [visitAll, Memory.exec_bind, exec_iterateBody]
    rw [hclass] at htested ⊢
    cases hobj : isClassObject m t obj with
    | false =>
      rw [classObjects_cons, hobj, if_neg Bool.false_ne_true]
      refine ih hknows (fun fuel => ?_) s
      have hrest := (htested fuel).2
      rwa [hobj, if_neg Bool.false_ne_true] at hrest
    | true =>
      rw [classObjects_cons, hobj, if_pos rfl]
      by_cases hends : ∃ fuel r, (m.exec (readClass fuel obj) (m.exec (isUclass obj) c).2).1 = some r
      · obtain ⟨fuel, r, hr⟩ := hends
        have hlater : ∀ fuel', ∀ v ∈ visits m fuel' objs (m.exec (readClass fuel obj) (m.exec (isUclass obj) c).2).2,
            Tested m v.2 v.1 := by
          intro fuel' v hv
          -- With the more rounds of the two, the walker comes to the rest of the objects with the same context.
          have hrest := (htested (max fuel fuel')).2
          rw [hobj, if_pos rfl, readClass_settles obj fuel _ _ r (Nat.le_max_left _ _) hr] at hrest
          generalize m.exec (readClass fuel obj) (m.exec (isUclass obj) c).2 = res at hr hv hrest
          obtain ⟨r', c'⟩ := res
          obtain rfl : r' = some r := hr
          exact hrest v (visits_mono (Nat.le_max_right _ _) objs hv)
        rcases ih (readClass_stays (Knows.resolve hstore) fuel obj _ hknows) hlater (cb s.1 r, s.2 + 1) with
          ⟨fuel', hrest⟩ | ⟨obj', hmem, hendless⟩
        · obtain ⟨s', hs'⟩ := Option.isSome_iff_exists.mp hrest
          have hclass := readClass_settles obj fuel (max fuel fuel') _ r (Nat.le_max_left _ _) hr
          have hobjs := visitAll_settles cb objs _ fuel' (max fuel fuel') _ s' (Nat.le_max_right _ _) hs'
          refine Or.inl ⟨max fuel fuel', ?_⟩
          simp only [if_true, hclass, hr, Option.map_some, hobjs, hs', Option.isSome_some]
        · exact Or.inr ⟨obj', List.mem_cons_of_mem obj hmem, hendless⟩
      · -- However many rounds it gets, this class is not read to its end.
        refine Or.inr ⟨obj, List.mem_cons_self, _, hknows, fun fuel => ?_⟩
        cases hr : (m.exec (readClass fuel obj) (m.exec (isUclass obj) c).2).1 with
        | none => rfl
        | some r => exact absurd ⟨fuel, r, hr⟩ hends

end Walker

/-! ### The context of `ue4r_init` -/

section Init
variable {m : Memory} {t : NameTables} {c : Ue4rCtx}

/-- What `find_uclass_class` returns is a metaclass, on both ways out of its loop. -/
theorem exec_findUclassClassLoop (objectsPtr : UInt64) (todo i : Nat) (h : Holds m (Stored m) t c) :
    (m.exec (findUclassClassLoop objectsPtr todo i) c).1 = 0 ∨
      isMetaclass m t (m.exec (findUclassClassLoop objectsPtr todo i) c).1 = true := by
  have hstays := resolveObjectName_stays (m := m) (resolveName_stays stored_of_text t)
  -- The cache has at least the first 59 bytes of a name, so a lookup that gives `Class` is right.
  have hnamed : ∀ {c}, Holds m (Stored m) t c → ∀ cls, (m.exec (resolveObjectName cls 256) c).1.1 = true ∧
      (m.exec (resolveObjectName cls 256) c).1.2 = lit "Class" → isMetaclass m t cls = true := by
    rintro c ⟨hok, rfl⟩ cls ⟨hresolved, hname⟩
    exact (classNamed_iff hok.chunks cls fun _ => tells_of_stored hok _).mp (Prod.ext hresolved hname)
  induction todo generalizing i c with
  | zero => exact Or.inl rfl
  | succ todo ih =>
    rw [findUclassClassLoop, Memory.exec_bind, Memory.exec_lift]
    generalize (readObjectFromArray objectsPtr i).run m.host = obj
    split
    · rw [Memory.exec_bind, Memory.exec_lift, Memory.run_rmReadPtr, Memory.exec_bind]
      have hobj := hnamed h obj
      have hholds := hstays obj c h
      generalize m.exec (resolveObjectName obj 256) c = r at hobj hholds ⊢
      obtain ⟨⟨resolved, name⟩, c'⟩ := r
      dsimp only at hobj hholds ⊢
      split
      · rename_i hname
        split
        · exact Or.inr (hobj hname)
        · rw [Memory.exec_bind]
          have hcls := hnamed hholds (m.ptr (obj + offUobjectClass))
          have hholds' := hstays (m.ptr (obj + offUobjectClass)) c' hholds
          generalize m.exec (resolveObjectName (m.ptr (obj + offUobjectClass)) 256) c' = r at hcls hholds' ⊢
          obtain ⟨⟨resolved', clsName⟩, c''⟩ := r
          dsimp only at hcls hholds' ⊢
          split
          · rename_i hname'
            exact Or.inr (hcls hname')
          · exact ih (i + 1) hholds'
      · exact ih (i + 1) hholds
    · exact ih (i + 1) h

theorem exec_findUclassClass (h : Holds m (Stored m) t c) :
    (m.exec findUclassClass c).1 = 0 ∨ isMetaclass m t (m.exec findUclassClass c).1 = true := by
  rw [findUclassClass, Memory.exec_bind, Memory.exec_get, Memory.exec_bind, Memory.exec_lift]
  split
  · exact Or.inl rfl
  · exact exec_findUclassClassLoop _ _ _ h

/-- On a context of `ue4r_init` the walker alone has filled the cache, and the metaclass is right. -/
theorem knows_of_init {imageBase slide guobjOff gnamesOff : UInt64}
    (h : (ue4rInit imageBase slide guobjOff gnamesOff).run m.host = some c) : Knows m (Stored m) (tables c) c := by
  refine ⟨⟨(run_ue4rInit stored_of_text h).1, rfl⟩, ?_⟩
  simp only [ue4rInit, Prog.run_bind, Prog.run_ite] at h
  split at h
  · cases h
  · generalize addressOr 0x0aad3898 _ _ _ = objects at h
    generalize addressOr 0x0a898170 _ _ _ = pool at h
    generalize (derefChunkTable _ _).run m.host = table at h
    have hinitial : Holds m (Stored m) (tables (.initial objects pool table)) (.initial objects pool table) :=
      ⟨⟨fun _ => Or.inl rfl, fun _ _ _ hname => absurd rfl hname⟩, rfl⟩
    have hfound := exec_findUclassClass hinitial
    have hkept := (Names.exec_findUclassClass stored_of_text hinitial.1).same
    rw [Memory.exec] at hfound hkept
    generalize (findUclassClass.run (.initial objects pool table)).run m.host = found at h hfound hkept
    obtain ⟨uclass, c'⟩ := found
    cases h
    obtain ⟨chunks, cache, rfl⟩ := hkept
    exact hfound

end Init

/-- What the walker has when it has visited `objs`: the userdata and the number of classes, and the context. -/
def afterVisits {ω : Type} (m : Memory) (fuel : Nat) (cb : ω → Ue4Class → ω) (userdata : ω) (objs : List UInt64)
    (c : Ue4rCtx) : Option (ω × Int) × Ue4rCtx :=
  m.exec (visitAll (iterateBody fuel cb) objs (userdata, 0)) c

theorem exec_ue4rIterateClasses {ω : Type} (m : Memory) (fuel : Nat) (cb : ω → Ue4Class → ω)
    (userdata : ω) (c : Ue4rCtx) :
    m.exec (ue4rIterateClasses fuel cb userdata) c =
      match (getObjectsInfo c.guobjectarray).run m.host with
      | none => (some (userdata, -1), c)
      | some (objects, count) =>
        afterVisits m fuel cb userdata (visited m objects (min count maxObjects)) c := by
  rw [ue4rIterateClasses, Memory.exec_bind, Memory.exec_get, Memory.exec_bind, Memory.exec_lift]
  dsimp only
  cases (getObjectsInfo c.guobjectarray).run m.host with
  | none => rfl
  | some info => exact exec_allWindows m info.1 _ _ _ c

/-- The objects that the walker visits with the context `c`. -/
def tableObjects (m : Memory) (c : Ue4rCtx) : List UInt64 :=
  match (getObjectsInfo c.guobjectarray).run m.host with
  | none => []
  | some (objects, count) => visited m objects (min count maxObjects)

/-- Whatever metaclass the walker begins with, none or one that is named `Class`, and whatever the context has been used
    for: as long as every object is tested rightly when the walker comes to it, the callback is passed, after any
    number of visits, a record of each class visited, once and in the order of the table. The walker holds no
    metaclass but one that is named `Class`, and it returns unless a list of a class is endless. -/
theorem iterateClasses_passes {m : Memory} {c : Ue4rCtx} (h : Left m c) {uclass : UInt64}
    (huclass : uclass = 0 ∨ isMetaclass m (tables c) uclass = true)
    (htested : ∀ fuel, ∀ v ∈ visits m fuel (tableObjects m c) { c with uclassClass := uclass }, Tested m v.2 v.1)
    {ω : Type} (cb : ω → Ue4Class → ω) (userdata : ω) :
    let start := { c with uclassClass := uclass }
    let run := fun fuel => m.exec (ue4rIterateClasses fuel cb userdata) start
    let objs := tableObjects m c
    match (getObjectsInfo c.guobjectarray).run m.host with
    | none => ∀ fuel, run fuel = (some (userdata, -1), start)
    | some _ =>
      (∀ fuel, run fuel = afterVisits m fuel cb userdata objs start ∧
        ∀ n, Passed m (Cut m) (tables c) fuel cb (userdata, 0) (objs.take n)
          (afterVisits m fuel cb userdata (objs.take n) start)) ∧
      ((∃ fuel, (run fuel).1.isSome) ∨ ∃ obj ∈ classObjects m (tables c) objs, Endless m (Cut m) (tables c) obj) := by
  intro start run objs
  have hok := (lookupOk_of_left h).names
  have hknows : Knows m (Cut m) (tables c) start := ⟨⟨⟨hok.chunks, hok.cache⟩, rfl⟩, huclass⟩
  have hrun : ∀ fuel, run fuel = _ := fun fuel => exec_ue4rIterateClasses m fuel cb userdata start
  have hsame : start.guobjectarray = c.guobjectarray := rfl
  simp only [hsame] at hrun
  rcases hinfo : (getObjectsInfo c.guobjectarray).run m.host with _ | ⟨objects, count⟩
  · intro fuel
    rw [hrun, hinfo]
  · have hobjs : objs = visited m objects (min count maxObjects) := by
      rw [show objs = tableObjects m c from rfl, tableObjects, hinfo]
    simp only [hinfo, ← hobjs] at hrun
    refine ⟨fun fuel => ⟨hrun fuel, fun n => ?_⟩, ?_⟩
    · exact passed_visitAll cut_of_text fuel _ hknows (fun v hv => htested fuel v (visits_take fuel n objs hv)) _
    · simp only [hrun]
      exact visitAll_returns cut_of_text _ hknows htested _

theorem longName_objects : tableObjects longName longNameCtx = [0x80000, 0x81000, 0x82000] := by
  rw [tableObjects, longName_info]
  rw [longName, Memory.ofSegments_eq]
  decide +kernel

theorem iterateClasses_passes_longName :
    classObjects longName (tables longNameCtx) [0x80000, 0x81000, 0x82000] = [0x80000, 0x81000] ∧
      Passed longName (Cut longName) (tables longNameCtx) 1 (fun (names : List Str) r => names ++ [r.name]) ([], 0)
        [0x80000, 0x81000, 0x82000]
        (longName.exec (ue4rIterateClasses 1 (fun (names : List Str) r => names ++ [r.name]) [])
          { longNameCtx with uclassClass := 0 }) := by
  have hclasses : classObjects longName (tables longNameCtx) [0x80000, 0x81000, 0x82000] = [0x80000, 0x81000] := by
    rw [longName, Memory.ofSegments_eq]
    decide +kernel
  have hstored : CacheOk longName (Stored longName) { longNameCtx with uclassClass := 0 } :=
    ⟨(knows_of_init longName_init).holds.1.chunks, (knows_of_init longName_init).holds.1.cache⟩
  have hpasses := iterateClasses_passes (.init longName_init) (Or.inl rfl)
    (fun fuel => visits_tested hstored fuel _) (fun (names : List Str) r => names ++ [r.name]) []
  rw [longName_info] at hpasses
  obtain ⟨hrun, hpassed⟩ := hpasses.1 1
  have hall := hpassed 3
  rw [longName_objects, List.take_of_length_le (by decide)] at hall
  rw [longName_objects] at hrun
  rw [← hrun] at hall
  exact ⟨hclasses, hall⟩

/-! An FNamePool with one name, `ClassFoo`, which is that of the class at 0x81000. The object table has one object, of
    that class. -/

def cutClass : Memory := .ofSegments
  [(0x10000, leBytes 16 0 ++ leBytes 8 0x70000 ++ leBytes 12 0 ++ leBytes 4 1),
   (0x20000, leBytes 64 0 ++ leBytes 8 0x50000), (0x50000, leBytes 4 0 ++ leBytes 2 0x200 ++ lit "ClassFoo"),
   (0x70000, leBytes 24 0x80000),
   (0x80000, leBytes 16 0 ++ leBytes 8 0x81000 ++ leBytes 8 9 ++ leBytes 64 0),
   (0x81000, leBytes 16 0 ++ leBytes 8 0x82000 ++ leBytes 8 2 ++ leBytes 64 0)]

def cutClassCtx : Ue4rCtx := .initial 0x10000 0x20000 0

theorem cutClass_init : (ue4rInit 0 0 0x10000 0x20000).run cutClass.host = some cutClassCtx := by
  rw [cutClass, Memory.ofSegments_eq]
  rfl

/-- After one `ue4r_resolve_name` with a buffer of 6 bytes the cache has `Class` for the name of the class: its
    instance is taken for a class, and it for a metaclass. -/
theorem cut_name_passed :
    ¬∀ (m : Memory) (c : Ue4rCtx), Left m c → ∀ uclass, uclass = 0 ∨ uclass = (m.exec findUclassClass c).1 →
      ∀ fuel, Passed m (Cut m) (tables c) fuel (fun (n : Nat) _ => n + 1) (0, 0) (tableObjects m c)
        (m.exec (ue4rIterateClasses fuel (fun (n : Nat) _ => n + 1) 0) { c with uclassClass := uclass }) := by
  intro h
  have hpassed := h cutClass _ (.resolve (.init cutClass_init) (0x81000 + offUobjectName) 6) 0 (Or.inl rfl) 1
  have hgiven : (cutClass.exec (ue4rIterateClasses 1 (fun (n : Nat) _ => n + 1) 0)
      { (cutClass.exec (ue4rResolveName (0x81000 + offUobjectName) 6) cutClassCtx).2 with uclassClass := 0 }).1 =
        some (1, 1) := by
    rw [cutClass, Memory.ofSegments_eq]
    decide +kernel
  have hnone :
      classObjects cutClass (tables (cutClass.exec (ue4rResolveName (0x81000 + offUobjectName) 6) cutClassCtx).2)
        (tableObjects cutClass (cutClass.exec (ue4rResolveName (0x81000 + offUobjectName) 6) cutClassCtx).2) = [] := by
    rw [cutClass, Memory.ofSegments_eq]
    decide +kernel
  obtain ⟨records, hrecords, heq⟩ := hpassed.given _ hgiven
  rw [hnone] at hrecords
  cases hrecords
  cases heq

end Metaclass
end RadarAim
