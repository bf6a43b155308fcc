import RadarAim.Lib.Cursor
import RadarAim.Theorems.Contexts
import RadarAim.Theorems.Objects

/-! The search for the instances of a class. Called again and again with the cursor that it returned, it finds every
    instance once and in order, provided that its calls meet nothing that is left of other lookups: the name and the
    class of another search, a cached name that is not whole, the match bit of the null class pointer. -/

namespace RadarAim
namespace Instances
open Names Objects Contexts

/-! ### What is looked for -/

/-- A table of objects and the name of the class to look for in it. -/
structure Search where
  tables : NameTables
  uclass : UInt64
  objects : UInt64
  count : Nat
  name : Str

def header (m : Memory) (obj : UInt64) : Option (UInt32 × UInt64) := (m.bytes obj 24).map fun b => (le32 b 8, le64 b 16)

namespace Search
variable (m : Memory) (q : Search)

abbrev object (i : Nat) : UInt64 := guess m q.objects i

/-- Item `i` is an object whose flags and class satisfy `p`. -/
def holds (p : UInt32 → UInt64 → Bool) (i : Nat) : Bool :=
  rmValidatePtr (q.object m i) && (header m (q.object m i)).any fun h => p h.1 h.2

def isClass (i : Nat) : Bool := q.holds m (fun _ cls => cls = q.uclass) i

def isNamed (i : Nat) : Bool :=
  q.isClass m i && uncached m q.tables (q.object m i + offUobjectName) 256 = (true, q.name)

def classIndex : Option Nat := (List.range q.count).find? (q.isNamed m)

def isInstance (lookupClass : UInt64) (i : Nat) : Bool :=
  q.holds m (fun flags cls => flags &&& 0x10 = 0 && (superChain lookupClass 32 cls).run m.host) i

def instancesFrom (lookupClass : UInt64) (k : Nat) : List UInt64 :=
  ((List.range' k (q.count - k)).filter (q.isInstance m lookupClass)).map (q.object m)

def instances : List UInt64 :=
  match q.classIndex m with
  | none => []
  | some i => q.instancesFrom m (q.object m i) 0

end Search

/-! ### One object -/

/-- The match bit of slot 0, where the null class pointer is looked up, is set, and no class has claimed the slot. -/
abbrev Stale (c : Ue4rCtx) : Prop := c.lookupKeys 0 = 0 ∧ c.lookupMatches 0 = true

/-- Nothing misleads the search for `name` at the object `obj`: while it looks for the class, no cached name of a class;
    once it has the class, no match bit for an object without one. -/
structure Clear (m : Memory) (name : Str) (obj : UInt64) (c : Ue4rCtx) : Prop where
  slot : c.lookupClass = 0 → (header m obj).any (fun h => h.2 = c.uclassClass) → Tells m c (obj + offUobjectName) name
  bit : c.lookupClass ≠ 0 → (header m obj).any (fun h => h.1 &&& 0x10 = 0 && h.2 = 0) → ¬Stale c

instance (m : Memory) (name : Str) (obj : UInt64) (c : Ue4rCtx) : Decidable (Clear m name obj c) :=
  decidable_of_iff ((c.lookupClass = 0 → (header m obj).any (fun h => h.2 = c.uclassClass) →
      Tells m c (obj + offUobjectName) name) ∧
    (c.lookupClass ≠ 0 → (header m obj).any (fun h => h.1 &&& 0x10 = 0 && h.2 = 0) → ¬Stale c))
    ⟨fun h => ⟨h.1, h.2⟩, fun h => ⟨h.slot, h.bit⟩⟩

structure LookupOk (m : Memory) (c : Ue4rCtx) : Prop where
  names : CacheOk m (Cut m) c
  bits : ∀ slot, c.lookupKeys slot ≠ 0 →
    c.lookupMatches slot = (superChain c.lookupClass 32 (c.lookupKeys slot)).run m.host
  unfound : c.lookupClass = 0 → ∀ slot, c.lookupKeys slot = 0
  name : c.lookupName.length ≤ 63

section Body
variable {m : Memory} {c : Ue4rCtx}

theorem superChain_null (lookupClass : UInt64) (depth : Nat) : (superChain lookupClass depth 0).run m.host = false := by
  cases depth with
  | zero => rfl
  | succ depth => rfl

/-- The answer for a class is the right one, unless it is the null class and its slot is stale. -/
theorem exec_classMatches (h : LookupOk m c) (hfound : c.lookupClass ≠ 0) (cls : UInt64) :
    (∃ keys bits, (m.exec (classMatches cls) c).2 = { c with lookupKeys := keys, lookupMatches := bits }) ∧
      LookupOk m (m.exec (classMatches cls) c).2 ∧
      (cls ≠ 0 ∨ ¬Stale c → (m.exec (classMatches cls) c).1 = (superChain c.lookupClass 32 cls).run m.host) := by
  rw [classMatches, Memory.exec_bind, Memory.exec_get]
  by_cases hmiss : c.lookupKeys (lookupSlot cls) ≠ cls
  · rw [if_pos hmiss]
    simp only [Memory.exec_bind, Memory.exec_lift, Memory.exec_modify, Memory.exec_pure, setLookup]
    refine ⟨⟨_, _, rfl⟩, ⟨⟨h.names.chunks, h.names.cache⟩, fun slot hkey => ?_, fun hzero => absurd hzero hfound,
      h.name⟩, fun _ => trivial⟩
    by_cases hslot : slot = lookupSlot cls
    · subst hslot
      simp only [Function.update_self]
    · simp only [Function.update_of_ne hslot] at hkey ⊢
      exact h.bits slot hkey
  · have hhit := not_not.mp hmiss
    rw [if_neg hmiss, Memory.exec_pure]
    refine ⟨⟨_, _, rfl⟩, h, fun hsure => ?_⟩
    by_cases hnull : cls = 0
    · -- The key of an empty slot is null too, so this is a hit, and the bit is whatever was there.
      subst hnull
      have hfresh := hsure.resolve_left fun hne => hne rfl
      rw [superChain_null]
      cases hbit : c.lookupMatches (lookupSlot 0) with
      | false => rfl
      | true => exact absurd ⟨hhit, hbit⟩ hfresh
    · have hkey : c.lookupKeys (lookupSlot cls) ≠ 0 := by rwa [hhit]
      rw [h.bits _ hkey, hhit]

theorem exec_resolveClassName (h : CacheOk m (Cut m) c) {obj : UInt64} (hobj : rmValidatePtr obj = true) (name : Str) :
    CachesKept m (Cut m) c (m.exec (resolveObjectName obj 256) c).2 ∧
      (Tells m c (obj + offUobjectName) name → ((m.exec (resolveObjectName obj 256) c).1 = (true, name) ↔
        uncached m (tables c) (obj + offUobjectName) 256 = (true, name))) := by
  rw [resolveObjectName, if_pos hobj]
  exact ⟨exec_resolveName_kept h cut_of_text _, (tells_iff h.chunks).mp⟩

inductive BodyCase (m : Memory) (c : Ue4rCtx) (name : Str) (obj : UInt64) : FindStep × Ue4rCtx → Prop where
  | unread (h : header m obj = none) : BodyCase m c name obj (.next, c)
  | other {flags cls} (h : header m obj = some (flags, cls)) (hfound : c.lookupClass = 0)
      (hcls : cls ≠ c.uclassClass) : BodyCase m c name obj (.next, c)
  | candidate {flags c' answer} (h : header m obj = some (flags, c.uclassClass)) (hfound : c.lookupClass = 0)
      (hkept : CachesKept m (Cut m) c c')
      (hanswer : Tells m c (obj + offUobjectName) name →
        (answer = (true, name) ↔ uncached m (tables c) (obj + offUobjectName) 256 = (true, name))) :
      BodyCase m c name obj (if answer = (true, name) then (.rewind, { c' with lookupClass := obj }) else (.next, c'))
  | dying {flags cls} (h : header m obj = some (flags, cls)) (hfound : c.lookupClass ≠ 0)
      (hflags : flags &&& 0x10 ≠ 0) : BodyCase m c name obj (.next, c)
  | live {flags cls} (h : header m obj = some (flags, cls)) (hfound : c.lookupClass ≠ 0)
      (hflags : flags &&& 0x10 = 0) :
      BodyCase m c name obj
        (if (m.exec (classMatches cls) c).1 then .found else .next, (m.exec (classMatches cls) c).2)

theorem findBody_cases (h : CacheOk m (Cut m) c) {obj : UInt64} (hobj : rmValidatePtr obj = true) (name : Str) :
    BodyCase m c name obj (m.exec (findBody name obj) c) := by
  rw [findBody, Memory.exec_bind, Memory.exec_lift, Memory.run_rmRead]
  cases hread : m.bytes obj 24 with
  | none => exact .unread (by rw [header, hread]; rfl)
  | some b =>
    have hheader : header m obj = some (le32 b 8, le64 b 16) := by rw [header, hread]; rfl
    dsimp only
    rw [Memory.exec_bind, Memory.exec_get]
    split
    · rename_i hfound
      split
      · rename_i hcls
        exact .other hheader hfound hcls
      · rename_i hcls
        obtain ⟨hkept, hanswer⟩ := exec_resolveClassName h hobj name
        have hcase : BodyCase m c name obj _ :=
          .candidate (not_not.mp hcls ▸ hheader) hfound hkept hanswer
        rw [Memory.exec_bind]
        generalize m.exec (resolveObjectName obj 256) c = r at hcase ⊢
        obtain ⟨⟨resolved, candidate⟩, c'⟩ := r
        simp only [Prod.mk.injEq] at hcase
        split
        · rename_i hname
          rw [if_pos hname] at hcase
          exact hcase
        · rename_i hname
          rw [if_neg hname] at hcase
          exact hcase
    · rename_i hfound
      split
      · rename_i hflags
        rw [Memory.exec_bind]
        exact .live hheader hfound hflags
      · rename_i hflags
        exact .dying hheader hfound hflags

end Body

/-! ### A search under way -/

section Search
variable {m : Memory} {q : Search} {c : Ue4rCtx} {k : Nat}

/-- The search `q` has examined the items before `k`: none of them is the class, or the class is known and
    these items have been looked at for instances. -/
structure Looking (m : Memory) (q : Search) (c : Ue4rCtx) (k : Nat) : Prop where
  ok : LookupOk m c
  tables : Names.tables c = q.tables
  uclass : c.uclassClass = q.uclass
  info : (getObjectsInfo c.guobjectarray).run m.host = some (q.objects, q.count)
  name : c.lookupName = snprintf 64 q.name
  phase : (c.lookupClass = 0 ∧ ∀ i < k, q.isNamed m i = false) ∨
    (∃ i, q.classIndex m = some i ∧ c.lookupClass = q.object m i ∧ c.lookupClass ≠ 0)

def remaining (m : Memory) (q : Search) (c : Ue4rCtx) (k : Nat) : List UInt64 :=
  if c.lookupClass = 0 then q.instances m else q.instancesFrom m c.lookupClass k

def work (q : Search) (c : Ue4rCtx) (k : Nat) : Nat :=
  if c.lookupClass = 0 then q.count + 1 + (q.count - k) else q.count - k

theorem instancesFrom_succ (lookupClass : UInt64) (hk : k < q.count) :
    q.instancesFrom m lookupClass k =
      if q.isInstance m lookupClass k then q.object m k :: q.instancesFrom m lookupClass (k + 1)
      else q.instancesFrom m lookupClass (k + 1) := by
  have hcount : q.count - k = q.count - (k + 1) + 1 := by omega
  rw [Search.instancesFrom, hcount, List.range'_succ, List.filter_cons]
  split
  · rw [List.map_cons]
    rfl
  · rfl

theorem classIndex_eq (hbefore : ∀ i < k, q.isNamed m i = false) (hk : k < q.count) (hnamed : q.isNamed m k = true) :
    q.classIndex m = some k := by
  rw [Search.classIndex, List.find?_range_eq_some]
  exact ⟨hnamed, List.mem_range.mpr hk, fun j hj => by rw [hbefore j hj]; rfl⟩

theorem classIndex_none (hall : ∀ i < q.count, q.isNamed m i = false) : q.classIndex m = none := by
  rw [Search.classIndex, List.find?_eq_none]
  intro i hi
  rw [hall i (List.mem_range.mp hi)]
  exact Bool.false_ne_true

theorem Looking.finished (h : Looking m q c k) (hk : q.count ≤ k) : remaining m q c k = [] := by
  rw [remaining]
  rcases h.phase with ⟨hzero, hnone⟩ | ⟨i, -, -, hne⟩
  · rw [if_pos hzero, Search.instances, classIndex_none fun i hi => hnone i (Nat.lt_of_lt_of_le hi hk)]
  · rw [if_neg hne, Search.instancesFrom, Nat.sub_eq_zero_of_le hk]
    rfl

theorem Looking.all (h : Looking m q c 0) : remaining m q c 0 = q.instances m := by
  rw [remaining]
  rcases h.phase with ⟨hzero, -⟩ | ⟨i, hi, hclass, hne⟩
  · exact if_pos hzero
  · rw [if_neg hne, Search.instances, hi, hclass]

/-- What an item leaves: the search goes on after it, with nothing found but `found`. -/
structure Examined (m : Memory) (q : Search) (c : Ue4rCtx) (k : Nat) (found : Option UInt64) (c' : Ue4rCtx) (k' : Nat) :
    Prop where
  looking : Looking m q c' k'
  remaining : remaining m q c k = found.toList ++ remaining m q c' k'
  work : work q c' k' < work q c k

theorem Looking.pass (h : Looking m q c k) (hk : k < q.count) {c' : Ue4rCtx} (hkept : CachesKept m (Cut m) c c')
    (hnamed : c.lookupClass = 0 → q.isNamed m k = false)
    (hinstance : c.lookupClass ≠ 0 → q.isInstance m c.lookupClass k = false) :
    Examined m q c k none c' (k + 1) := by
  obtain ⟨chunks, cache, rfl⟩ := hkept.same
  have hok : LookupOk m { c with cachedChunks := chunks, nameCache := cache } :=
    ⟨hkept.ok, h.ok.bits, h.ok.unfound, h.ok.name⟩
  rcases h.phase with ⟨hzero, hnone⟩ | ⟨i, hi, hclass, hne⟩
  · refine ⟨⟨hok, h.tables, h.uclass, h.info, h.name, Or.inl ⟨hzero, fun i hi => ?_⟩⟩, ?_, ?_⟩
    · rcases Nat.lt_succ_iff_lt_or_eq.mp hi with hlt | rfl
      · exact hnone i hlt
      · exact hnamed hzero
    · simp only [Instances.remaining, if_pos hzero, Option.toList_none, List.nil_append]
    · simp only [Instances.work, if_pos hzero]
      omega
  · refine ⟨⟨hok, h.tables, h.uclass, h.info, h.name, Or.inr ⟨i, hi, hclass, hne⟩⟩, ?_, ?_⟩
    · simp only [Instances.remaining, if_neg hne, Option.toList_none, List.nil_append]
      rw [instancesFrom_succ _ hk, hinstance hne, if_neg Bool.false_ne_true]
    · simp only [Instances.work, if_neg hne]
      omega

section Holds
variable (p : UInt32 → UInt64 → Bool) {i : Nat}

theorem holds_of_invalid (h : rmValidatePtr (q.object m i) = false) : q.holds m p i = false := by
  rw [Search.holds, h, Bool.false_and]

theorem holds_of_unread (h : header m (q.object m i) = none) : q.holds m p i = false := by
  rw [Search.holds, h, Option.any_none, Bool.and_false]

theorem holds_of_header (hobj : rmValidatePtr (q.object m i) = true) {flags : UInt32} {cls : UInt64}
    (h : header m (q.object m i) = some (flags, cls)) : q.holds m p i = p flags cls := by
  rw [Search.holds, hobj, h, Option.any_some, Bool.true_and]

end Holds

theorem isNamed_of_not_isClass {i : Nat} (h : q.isClass m i = false) : q.isNamed m i = false := by
  rw [Search.isNamed, h, Bool.false_and]

theorem rmValidatePtr_ne_zero {p : UInt64} (h : rmValidatePtr p = true) : p ≠ 0 := by
  rintro rfl
  cases h

theorem Looking.rewind (h : Looking m q c k) (hk : k < q.count) (hzero : c.lookupClass = 0)
    (hobj : rmValidatePtr (q.object m k) = true) (hnamed : q.isNamed m k = true) {c' : Ue4rCtx}
    (hkept : CachesKept m (Cut m) c c') :
    Examined m q c k none { c' with lookupClass := q.object m k } 0 := by
  obtain ⟨chunks, cache, rfl⟩ := hkept.same
  have hne := rmValidatePtr_ne_zero hobj
  rcases h.phase with ⟨-, hnone⟩ | ⟨-, -, -, hfound⟩
  · have hindex := classIndex_eq hnone hk hnamed
    refine ⟨⟨⟨⟨hkept.ok.chunks, hkept.ok.cache⟩, fun slot hkey => ?_, fun hno => absurd hno hne, h.ok.name⟩, h.tables,
      h.uclass, h.info, h.name, Or.inr ⟨k, hindex, rfl, hne⟩⟩, ?_, ?_⟩
    · exact absurd (h.ok.unfound hzero slot) hkey
    · simp only [Instances.remaining, if_pos hzero, if_neg hne, Search.instances, hindex, Option.toList_none,
        List.nil_append]
    · simp only [Instances.work, if_pos hzero, if_neg hne]
      omega
  · exact absurd hzero hfound

/-- The item is live and the class is known: it is found, or passed over, as its class says. -/
theorem Looking.live (h : Looking m q c k) (hclear : Clear m q.name (q.object m k) c) (hk : k < q.count)
    (hfound : c.lookupClass ≠ 0) (hobj : rmValidatePtr (q.object m k) = true) {flags : UInt32} {cls : UInt64}
    (hheader : header m (q.object m k) = some (flags, cls)) (hflags : flags &&& 0x10 = 0) :
    Examined m q c k (if (m.exec (classMatches cls) c).1 then some (q.object m k) else none)
      (m.exec (classMatches cls) c).2 (k + 1) := by
  obtain ⟨⟨keys, bits, hsame⟩, hok, hbit⟩ := exec_classMatches h.ok hfound cls
  rcases h.phase with ⟨hzero, -⟩ | ⟨i, hi, hclass, -⟩
  · exact absurd hzero hfound
  have hinstance : (m.exec (classMatches cls) c).1 = q.isInstance m c.lookupClass k := by
    rw [Search.isInstance, holds_of_header _ hobj hheader, decide_eq_true hflags, Bool.true_and]
    refine hbit ?_
    by_cases hnull : cls = 0
    · refine Or.inr (hclear.bit hfound ?_)
      rw [hheader]
      simp [hflags, hnull]
    · exact Or.inl hnull
  rw [hinstance]
  rw [hsame] at hok ⊢
  refine ⟨⟨hok, h.tables, h.uclass, h.info, h.name, Or.inr ⟨i, hi, hclass, hfound⟩⟩, ?_, ?_⟩
  · simp only [Instances.remaining, if_neg hfound]
    rw [instancesFrom_succ _ hk]
    cases q.isInstance m c.lookupClass k with
    | true => rfl
    | false => rfl
  · simp only [Instances.work, if_neg hfound]
    omega

/-- Item `k` is examined: what the result of the body of the loop leaves to be done. -/
def Stepped (m : Memory) (q : Search) (c : Ue4rCtx) (k : Nat) : FindStep × Ue4rCtx → Prop
  | (.next, c') => Examined m q c k none c' (k + 1)
  | (.rewind, c') => Examined m q c k none c' 0
  | (.found, c') => Examined m q c k (some (q.object m k)) c' (k + 1)

theorem Looking.item (h : Looking m q c k) (hclear : Clear m q.name (q.object m k) c) (hk : k < q.count)
    (hobj : rmValidatePtr (q.object m k) = true) : Stepped m q c k (m.exec (findBody q.name (q.object m k)) c) := by
  have hcase := findBody_cases h.ok.names hobj q.name
  generalize m.exec (findBody q.name (q.object m k)) c = r at hcase ⊢
  cases hcase with
  | unread hheader =>
    -- Without a header it is neither a class nor an instance.
    exact h.pass hk (.refl h.ok.names) (fun _ => isNamed_of_not_isClass (holds_of_unread _ hheader)) fun _ =>
      holds_of_unread _ hheader
  | other hheader hfound hcls =>
    refine h.pass hk (.refl h.ok.names) (fun _ => isNamed_of_not_isClass ?_) fun hne => absurd hfound hne
    rw [Search.isClass, holds_of_header _ hobj hheader, ← h.uclass]
    exact decide_eq_false hcls
  | candidate hheader hfound hkept hanswer =>
    rename_i flags c' answer
    have hclass : q.isClass m k = true := by
      rw [Search.isClass, holds_of_header _ hobj hheader, ← h.uclass]
      exact decide_eq_true rfl
    -- The cache tells the name rightly, so the comparison is that of the reference.
    have hnamed : answer = (true, q.name) ↔ q.isNamed m k = true := by
      rw [Search.isNamed, hclass, Bool.true_and, decide_eq_true_iff, ← h.tables]
      refine hanswer (hclear.slot hfound ?_)
      rw [hheader]
      simp
    by_cases hname : answer = (true, q.name)
    · rw [if_pos hname]
      exact h.rewind hk hfound hobj (hnamed.mp hname) hkept
    · rw [if_neg hname]
      refine h.pass hk hkept (fun _ => ?_) fun hne => absurd hfound hne
      exact Bool.eq_false_iff.mpr fun hyes => hname (hnamed.mpr hyes)
  | dying hheader hfound hflags =>
    -- Its flags exclude it, whatever its class.
    refine h.pass hk (.refl h.ok.names) (fun hzero => absurd hzero hfound) fun _ => ?_
    rw [Search.isInstance, holds_of_header _ hobj hheader, decide_eq_false hflags, Bool.false_and]
  | live hheader hfound hflags =>
    rename_i flags cls
    have hlive := h.live hclear hk hfound hobj hheader hflags
    cases hbit : (m.exec (classMatches cls) c).1 with
    | true => simpa only [hbit, if_true, Stepped] using hlive
    | false => simpa only [hbit, Bool.false_eq_true, if_false, Stepped] using hlive

theorem Examined.trans {c' c'' : Ue4rCtx} {k' k'' : Nat} {found : Option UInt64} (h : Examined m q c k none c' k')
    (h' : Examined m q c' k' found c'' k'') : Examined m q c k found c'' k'' where
  looking := h'.looking
  remaining := h.remaining.trans h'.remaining
  work := Nat.lt_trans h'.work h.work

abbrev searchBody (name : Str) (obj : UInt64) (u : Unit) : Walker (FindStep × Unit) :=
  do return (← findBody name obj, u)

/-- The objects that the loop comes to, each with the context before it. -/
def loopVisits (m : Memory) (q : Search) : (budget k : Nat) → Ue4rCtx → List (UInt64 × Ue4rCtx)
  | 0, _, _ => []
  | budget + 1, k, c =>
    if k < q.count then
      if rmValidatePtr (q.object m k) then
        (q.object m k, c) ::
          match m.exec (findBody q.name (q.object m k)) c with
          | (.next, c') => loopVisits m q budget (k + 1) c'
          | (.rewind, c') => loopVisits m q budget 0 c'
          | (.found, _) => []
      else loopVisits m q budget (k + 1) c
    else []

theorem Looking.loop {fetch : Nat → Read UInt64} (hfetch : ∀ i, (fetch i).run m.host = q.object m i) (budget : Nat)
    (h : Looking m q c k) (hk : k ≤ q.count) (hclear : ∀ v ∈ loopVisits m q budget k c, Clear m q.name v.1 v.2) :
    ∃ found c' k', m.exec (findLoop fetch q.count (searchBody q.name) budget k ()) c =
        ((Option.getD found 0, k', ()), c') ∧ (∀ obj, found = some obj → obj ≠ 0) ∧ k' ≤ q.count ∧
      (found = none ∧ c' = c ∧ k' = k ∧ (budget = 0 ∨ q.count ≤ k) ∨ Examined m q c k found c' k') := by
  induction budget generalizing c k with
  | zero => exact ⟨none, c, k, rfl, fun _ hno => (nomatch hno), hk, Or.inl ⟨rfl, rfl, rfl, Or.inl rfl⟩⟩
  | succ budget ih =>
    -- After a slot that ends nothing, the loop goes on with the rest of its budget.
    have goOn : ∀ {c' k'}, Examined m q c k none c' k' → k' ≤ q.count →
        (∀ v ∈ loopVisits m q budget k' c', Clear m q.name v.1 v.2) →
        ∃ found c'' k'', m.exec (findLoop fetch q.count (searchBody q.name) budget k' ()) c' =
            ((Option.getD found 0, k'', ()), c'') ∧ (∀ obj, found = some obj → obj ≠ 0) ∧ k'' ≤ q.count ∧
          (found = none ∧ c'' = c ∧ k'' = k ∧ (budget + 1 = 0 ∨ q.count ≤ k) ∨ Examined m q c k found c'' k'') := by
      intro c' k' hexam hle hclear'
      obtain ⟨found, c'', k'', hexec, hne, hle', hend⟩ := ih hexam.looking hle hclear'
      refine ⟨found, c'', k'', hexec, hne, hle', Or.inr ?_⟩
      rcases hend with ⟨rfl, rfl, rfl, -⟩ | hrest
      · exact hexam
      · exact hexam.trans hrest
    by_cases hlt : k < q.count
    · rw [findLoop, if_pos hlt, Memory.exec_bind, Memory.exec_lift, hfetch]
      rw [loopVisits, if_pos hlt] at hclear
      dsimp only
      by_cases hobj : rmValidatePtr (q.object m k) = true
      · rw [if_pos hobj]
        rw [if_pos hobj] at hclear
        obtain ⟨hhere, hrest⟩ := List.forall_mem_cons.mp hclear
        have hitem := h.item hhere hlt hobj
        simp only [Memory.exec_bind, Memory.exec_pure]
        generalize m.exec (findBody q.name (q.object m k)) c = r at hitem hrest ⊢
        rcases r with ⟨_ | _ | _, c'⟩
        · exact goOn hitem (Nat.succ_le_of_lt hlt) hrest
        · -- The class was found just now, so the search begins again at slot 0.
          exact goOn hitem (Nat.zero_le _) hrest
        · refine ⟨some (q.object m k), c', k + 1, rfl, ?_, Nat.succ_le_of_lt hlt, Or.inr hitem⟩
          rintro obj ⟨⟩
          exact rmValidatePtr_ne_zero hobj
      · -- A slot without an object is passed over.
        rw [if_neg hobj]
        rw [if_neg hobj] at hclear
        have hinvalid : ∀ p, q.holds m p k = false := fun p => holds_of_invalid p (Bool.eq_false_iff.mpr hobj)
        exact goOn (h.pass hlt (.refl h.ok.names) (fun _ => isNamed_of_not_isClass (hinvalid _)) fun _ => hinvalid _)
          (Nat.succ_le_of_lt hlt) hclear
    · rw [findLoop, if_neg hlt]
      exact ⟨none, c, k, rfl, fun _ hno => (nomatch hno), hk, Or.inl ⟨rfl, rfl, rfl, Or.inr (Nat.le_of_not_lt hlt)⟩⟩

/-- Where no context of the search can mislead it, none that it comes to does. -/
theorem Looking.clear_all (hall : ∀ c, ∀ k < q.count, Looking m q c k → Clear m q.name (q.object m k) c) (budget : Nat)
    (h : Looking m q c k) : ∀ v ∈ loopVisits m q budget k c, Clear m q.name v.1 v.2 := by
  induction budget generalizing c k with
  | zero => exact fun v hv => absurd hv List.not_mem_nil
  | succ budget ih =>
    rw [loopVisits]
    split
    · rename_i hlt
      split
      · rename_i hobj
        have hitem := h.item (hall c k hlt h) hlt hobj
        refine List.forall_mem_cons.mpr ⟨hall c k hlt h, ?_⟩
        generalize m.exec (findBody q.name (q.object m k)) c = r at hitem ⊢
        rcases r with ⟨_ | _ | _, c'⟩
        · exact ih hitem.looking
        · exact ih hitem.looking
        · exact fun v hv => absurd hv List.not_mem_nil
      · rename_i hobj
        have hinvalid : ∀ p, q.holds m p k = false := fun p => holds_of_invalid p (Bool.eq_false_iff.mpr hobj)
        exact ih (h.pass hlt (.refl h.ok.names) (fun _ => isNamed_of_not_isClass (hinvalid _)) fun _ =>
          hinvalid _).looking
    · exact fun v hv => absurd hv List.not_mem_nil

end Search

/-! ### The calls -/

section Calls
variable (m : Memory)

/-- One call with the cursor and on the context that the last one left; 0 is no result. -/
def findCall (name : Str) (s : Int × Ue4rCtx) : Option UInt64 × Int × Ue4rCtx :=
  let r := m.exec (ue4rFindInstance name s.1) s.2
  (if r.1.1 = 0 then none else some r.1.1, r.1.2, r.2)

def cursorDone (s : Int × Ue4rCtx) : Bool := s.1 = -1

variable {m} {q : Search} {c : Ue4rCtx} {k : Nat}

def lookupStart (name : Str) (k : Nat) (c : Ue4rCtx) : Nat × Ue4rCtx :=
  if c.lookupName ≠ name then (0, setLookupName name c) else (k, c)

theorem exec_startLookup (name : Str) (k : Nat) (c : Ue4rCtx) :
    m.exec (startLookup name k) c = lookupStart name k c := by
  rw [startLookup, lookupStart, Memory.exec_bind, Memory.exec_get]
  split <;> rfl

/-- What the calls of a search leave, the first `n` of them. -/
def afterCalls (m : Memory) (name : Str) (n : Nat) (c : Ue4rCtx) : Int × Ue4rCtx :=
  (Cursor.collect (findCall m name) cursorDone n (0, c)).2

theorem afterCalls_succ (name : Str) (n : Nat) (c : Ue4rCtx) : afterCalls m name (n + 1) c =
    if cursorDone (afterCalls m name n c) then afterCalls m name n c else (findCall m name (afterCalls m name n c)).2 :=
  Cursor.collect_succ n (0, c)

/-- The objects that a call comes to, each with the context before it. -/
def callVisits (m : Memory) (q : Search) (s : Int × Ue4rCtx) : List (UInt64 × Ue4rCtx) :=
  loopVisits m q batchSize (lookupStart q.name s.1.toNat s.2).1 (lookupStart q.name s.1.toNat s.2).2

/-- Call `n` of the search `q` meets nothing that is left of other lookups: the first one no other class that is kept
    for its name, a later one no other name than its own. -/
structure CallClear (m : Memory) (q : Search) (n : Nat) (s : Int × Ue4rCtx) : Prop where
  first : n = 0 → s.2.lookupName = q.name → s.2.lookupClass ≠ 0 →
    ∃ i, q.classIndex m = some i ∧ s.2.lookupClass = q.object m i
  kept : n ≠ 0 → s.2.lookupName = q.name
  visits : ∀ v ∈ callVisits m q s, Clear m q.name v.1 v.2

structure Resumes (m : Memory) (q : Search) (s : Int × Ue4rCtx) (k : Nat) : Prop where
  cursor : s.1 = k
  le : k ≤ q.count
  info : (getObjectsInfo s.2.guobjectarray).run m.host = some (q.objects, q.count)
  ready : ue4rReady s.2 = true
  looking : Looking m q (lookupStart q.name k s.2).2 (lookupStart q.name k s.2).1

theorem Resumes.call {s : Int × Ue4rCtx} (h : Resumes m q s k) (hclear : ∀ v ∈ callVisits m q s, Clear m q.name v.1 v.2)
    (hcount : q.count ≤ maxObjects) :
    ∃ found c' k', findCall m q.name s = (found, if found = none ∧ q.count ≤ k' then -1 else (k' : Int), c') ∧
      k' ≤ q.count ∧ Looking m q c' k' ∧
      (found = none ∧ q.count ≤ k' ∧ remaining m q (lookupStart q.name k s.2).2 (lookupStart q.name k s.2).1 = [] ∨
        Examined m q (lookupStart q.name k s.2).2 (lookupStart q.name k s.2).1 found c' k') := by
  obtain ⟨cursor, c⟩ := s
  obtain rfl : cursor = k := h.cursor
  have hstart : (lookupStart q.name k c).1 ≤ q.count := by
    rw [lookupStart]
    split
    · exact Nat.zero_le _
    · exact h.le
  rw [callVisits, Int.toNat_natCast] at hclear
  obtain ⟨found, c', k', hloop, hne, hle, hend⟩ := h.looking.loop
    (run_instanceObject m q.objects (Or.inr rfl : BatchReply m q.objects (lookupStart q.name k c).1
      (min (q.count - (lookupStart q.name k c).1) batchSize) _)) batchSize hstart hclear
  have hcall : m.exec (ue4rFindInstance q.name k) c =
      (if found.getD 0 ≠ 0 then (found.getD 0, (k' : Int)) else (0, if k' ≥ q.count then -1 else (k' : Int)),
        c') := by
    -- The context is ready and the cursor is not the end, so the call searches.
    have hgo : ¬((!ue4rReady c) = true ∨ (k : Int) < 0) := by
      have hready := h.ready
      simp only at hready
      simp [hready]
    rw [ue4rFindInstance, Memory.exec_bind, Memory.exec_get, if_neg hgo, Memory.exec_bind, Memory.exec_lift, h.info]
    dsimp only
    rw [if_neg (Nat.not_lt.mpr hcount), Memory.exec_bind, exec_startLookup, Memory.exec_bind, Memory.exec_lift,
      Memory.exec_bind, Int.toNat_natCast, hloop]
    rfl
  refine ⟨found, c', k', ?_, hle, ?_⟩
  · rw [findCall]
    simp only [hcall]
    cases found with
    | none => simp
    | some obj => simp [hne obj rfl]
  · rcases hend with ⟨rfl, rfl, rfl, hzero | hall⟩ | hexam
    · cases hzero
    · exact ⟨h.looking, Or.inl ⟨rfl, hall, h.looking.finished hall⟩⟩
    · exact ⟨hexam.looking, Or.inr hexam⟩

theorem setLookupName_ok (h : LookupOk m c) (name : Str) : LookupOk m (setLookupName name c) where
  names := ⟨h.names.chunks, h.names.cache⟩
  bits _ hkey := absurd rfl hkey
  unfound _ _ := rfl
  name := by
    rw [setLookupName, snprintf, List.length_take]
    exact Nat.min_le_left _ _

theorem Looking.resumes (h : Looking m q c k) (hready : q.uclass ≠ 0) (hk : k ≤ q.count)
    (hstart : Looking m q (lookupStart q.name k c).2 (lookupStart q.name k c).1) : Resumes m q (k, c) k :=
  ⟨rfl, hk, h.info, by rw [ue4rReady, h.uclass]; exact bne_iff_ne.mpr hready, hstart⟩

section Clear
variable (hready : q.uclass ≠ 0) (hcount : q.count ≤ maxObjects)
  (hclear : ∀ n, cursorDone (afterCalls m q.name n c) = false → CallClear m q n (afterCalls m q.name n c))
include hready hcount hclear

/-- The calls go through the table once. -/
theorem findCall_accounts : Cursor.Accounts (findCall m q.name) cursorDone
    (fun s => ∃ n, s = afterCalls m q.name n c ∧ (s.1 = -1 ∨ ∃ k, Resumes m q s k))
    (fun s => if s.1 = -1 then []
      else remaining m q (lookupStart q.name s.1.toNat s.2).2 (lookupStart q.name s.1.toNat s.2).1)
    (fun s => if s.1 = -1 then 0
      else work q (lookupStart q.name s.1.toNat s.2).2 (lookupStart q.name s.1.toNat s.2).1 + 1) := by
  have nonneg : ∀ k : Nat, ¬(k : Int) = -1 := fun k => by omega
  have call : ∀ {s : Int × Ue4rCtx} {n}, s = afterCalls m q.name n c → (s.1 = -1 ∨ ∃ k, Resumes m q s k) →
      cursorDone s = false → ∃ k found c' k', Resumes m q s k ∧
        findCall m q.name s = (found, if found = none ∧ q.count ≤ k' then -1 else (k' : Int), c') ∧
        (if found = none ∧ q.count ≤ k' then -1 else (k' : Int), c') = afterCalls m q.name (n + 1) c ∧
        k' ≤ q.count ∧ Looking m q c' k' ∧
        (found = none ∧ q.count ≤ k' ∧ remaining m q (lookupStart q.name k s.2).2 (lookupStart q.name k s.2).1 = [] ∨
          Examined m q (lookupStart q.name k s.2).2 (lookupStart q.name k s.2).1 found c' k') := by
    rintro s n rfl hs hgo
    obtain ⟨k, h⟩ := hs.resolve_left (of_decide_eq_false hgo)
    obtain ⟨found, c', k', hcall, hrest⟩ := h.call (hclear n hgo).visits hcount
    refine ⟨k, found, c', k', h, hcall, ?_, hrest⟩
    rw [afterCalls_succ, hgo, if_neg Bool.false_ne_true, hcall]
  -- A call that is not the last leaves its name, so that the next one goes on where it stopped.
  have same : ∀ {k : Nat} {c' : Ue4rCtx} {n}, ((k : Int), c') = afterCalls m q.name (n + 1) c →
      lookupStart q.name k c' = (k, c') := by
    intro k c' n heq
    have hgo : cursorDone (afterCalls m q.name (n + 1) c) = false := by
      rw [← heq]
      exact decide_eq_false (nonneg k)
    have hkept := (hclear (n + 1) hgo).kept (Nat.succ_ne_zero n)
    rw [← heq] at hkept
    exact if_neg (not_not.mpr hkept)
  constructor
  · -- The next call, if there is one, resumes where this one stopped.
    rintro s ⟨n, hn, hs⟩ hgo
    obtain ⟨k, found, c', k', -, hcall, hnext, hle, hlook, -⟩ := call hn hs hgo
    rw [hcall]
    refine ⟨n + 1, hnext, ?_⟩
    by_cases hend : found = none ∧ q.count ≤ k'
    · exact Or.inl (if_pos hend)
    · refine Or.inr ⟨k', ?_⟩
      simp only [if_neg hend] at hnext ⊢
      exact hlook.resumes hready hle (by rw [same hnext]; exact hlook)
  · -- What this call returns and what it leaves are together what was left before it.
    rintro s ⟨n, hn, hs⟩ hgo
    obtain ⟨k, found, c', k', h, hcall, hnext, -, hlook, hend⟩ := call hn hs hgo
    rw [hcall]
    simp only [h.cursor, if_neg (nonneg k), Int.toNat_natCast]
    by_cases hover : found = none ∧ q.count ≤ k'
    · obtain ⟨rfl, hall⟩ := hover
      simp only [if_pos (And.intro trivial hall), if_true, Option.toList_none, List.nil_append]
      rcases hend with ⟨-, -, hnil⟩ | hexam
      · exact hnil
      · rw [hexam.remaining, hlook.finished hall]
        rfl
    · simp only [if_neg hover] at hnext ⊢
      simp only [if_neg (nonneg k'), Int.toNat_natCast, same hnext]
      rcases hend with ⟨hnone, hall, -⟩ | hexam
      · exact absurd ⟨hnone, hall⟩ hover
      · exact hexam.remaining
  · rintro s hs hgo
    exact if_pos (of_decide_eq_true hgo)
  · -- A call that does not end the search examines a slot, so fewer are left.
    rintro s ⟨n, hn, hs⟩ hgo
    obtain ⟨k, found, c', k', h, hcall, hnext, -, hlook, hend⟩ := call hn hs hgo
    rw [hcall]
    simp only [h.cursor, if_neg (nonneg k), Int.toNat_natCast]
    by_cases hover : found = none ∧ q.count ≤ k'
    · simp only [if_pos hover, if_true]
      omega
    · simp only [if_neg hover] at hnext ⊢
      simp only [if_neg (nonneg k'), Int.toNat_natCast, same hnext]
      rcases hend with ⟨hnone, hall, -⟩ | hexam
      · exact absurd ⟨hnone, hall⟩ hover
      · exact Nat.succ_lt_succ hexam.work

end Clear

/-- A name that is not kept whole: every call starts over, and none of them can be the last one. -/
theorem findCall_unfinished (hready : q.uclass ≠ 0) (hcount : q.count ≤ maxObjects) (hlen : 64 ≤ q.name.length)
    (hall : ∀ c, ∀ k < q.count, Looking m q c k → Clear m q.name (q.object m k) c) (hinstances : q.instances m ≠ [])
    {s : Int × Ue4rCtx} (h : Resumes m q s k) (hname : s.2.lookupName.length ≤ 63) (n : Nat) :
    cursorDone (Cursor.collect (findCall m q.name) cursorDone n s).2 = false := by
  refine Cursor.collect_unfinished (fun s => s.2.lookupName.length ≤ 63 ∧ ∃ k, Resumes m q s k) ?_ ?_ ⟨hname, k, h⟩ n
  · rintro s ⟨hname, k, h⟩
    -- The name that is kept is shorter than the one searched for, so each call begins anew.
    have restart : ∀ {c : Ue4rCtx}, c.lookupName.length ≤ 63 → ∀ k,
        lookupStart q.name k c = (0, setLookupName q.name c) :=
      fun {c} hname k => by
        refine if_pos fun hsame => ?_
        rw [hsame] at hname
        omega
    have hvisits : ∀ v ∈ callVisits m q s, Clear m q.name v.1 v.2 := by
      rw [callVisits, h.cursor, Int.toNat_natCast]
      exact h.looking.clear_all hall batchSize
    obtain ⟨found, c', k', hcall, hle, hlook, hend⟩ := h.call hvisits hcount
    have hwhole : remaining m q (setLookupName q.name s.2) 0 = q.instances m := if_pos rfl
    simp only [restart hname] at hend
    rw [hwhole] at hend
    have hexam := hend.resolve_left fun hover => hinstances hover.2.2
    have hover : ¬(found = none ∧ q.count ≤ k') := by
      rintro ⟨rfl, hdone⟩
      have hrest := hexam.remaining
      rw [hwhole, hlook.finished hdone] at hrest
      exact hinstances hrest
    rw [hcall]
    simp only [if_neg hover]
    refine ⟨hlook.ok.name, k', hlook.resumes hready hle ?_⟩
    rw [restart hlook.ok.name]
    exact ⟨setLookupName_ok hlook.ok _, hlook.tables, hlook.uclass, hlook.info, rfl,
      Or.inl ⟨rfl, fun i hi => absurd hi (Nat.not_lt_zero i)⟩⟩
  · rintro s ⟨-, k, h⟩
    rw [cursorDone, h.cursor]
    exact decide_eq_false (by omega)

/-! ### Contexts -/

theorem findBody_ok (h : LookupOk m c) {obj : UInt64} (hobj : rmValidatePtr obj = true) (name : Str) :
    LookupOk m (m.exec (findBody name obj) c).2 := by
  have hcase := findBody_cases h.names hobj name
  generalize m.exec (findBody name obj) c = r at hcase ⊢
  cases hcase with
  | unread | other | dying => exact h
  | live hheader hfound hflags => exact (exec_classMatches h hfound _).2.1
  | candidate hheader hfound hkept hanswer =>
    obtain ⟨chunks, cache, rfl⟩ := hkept.same
    split
    · refine ⟨⟨hkept.ok.chunks, hkept.ok.cache⟩, fun slot hkey => absurd (h.unfound hfound slot) hkey, ?_, h.name⟩
      exact fun hzero => absurd hzero (rmValidatePtr_ne_zero hobj)
    · exact ⟨hkept.ok, h.bits, h.unfound, h.name⟩

theorem findLoop_ok (fetch : Nat → Read UInt64) (count : Nat) (name : Str) (budget k : Nat) (h : LookupOk m c) :
    LookupOk m (m.exec (findLoop fetch count (searchBody name) budget k ()) c).2 := by
  induction budget generalizing k c with
  | zero => exact h
  | succ budget ih =>
    rw [findLoop]
    split
    · rw [Memory.exec_bind, Memory.exec_lift]
      dsimp only
      split
      · rename_i hobj
        have hbody := findBody_ok h hobj name
        simp only [Memory.exec_bind, Memory.exec_pure]
        split
        · exact ih _ hbody
        · exact ih _ hbody
        · exact hbody
      · exact ih _ h
    · exact h

theorem ue4rFindInstance_ok (h : LookupOk m c) (name : Str) (cursor : Int) :
    LookupOk m (m.exec (ue4rFindInstance name cursor) c).2 := by
  rw [ue4rFindInstance, Memory.exec_bind, Memory.exec_get]
  split
  · exact h
  rw [Memory.exec_bind, Memory.exec_lift]
  split
  · exact h
  split
  · exact h
  rw [Memory.exec_bind, exec_startLookup, Memory.exec_bind, Memory.exec_lift, Memory.exec_bind]
  refine findLoop_ok _ _ _ _ _ ?_
  rw [lookupStart]
  split
  · exact setLookupName_ok h name
  · exact h

/-- Lookups of names, and of the metaclass, do not touch the search. -/
theorem lookupOk_stays {max : Nat} (fnameAddr : UInt64) : Stays m (LookupOk m) (ue4rResolveName fnameAddr max) := by
  intro c h
  have hkept : CachesKept m (Cut m) c (m.exec (ue4rResolveName fnameAddr max) c).2 :=
    exec_resolveName_kept h.names cut_of_text fnameAddr
  generalize (m.exec (ue4rResolveName fnameAddr max) c).2 = c' at hkept ⊢
  obtain ⟨chunks, cache, rfl⟩ := hkept.same
  exact ⟨hkept.ok, h.bits, h.unfound, h.name⟩

theorem LookupOk.meta (c : Ue4rCtx) (cls : UInt64) (h : LookupOk m c) : LookupOk m { c with uclassClass := cls } :=
  ⟨⟨h.names.chunks, h.names.cache⟩, h.bits, h.unfound, h.name⟩

theorem lookupOk_of_left (h : Left m c) : LookupOk m c := by
  induction h with
  | init h =>
    obtain ⟨hcache, _, _, _, _, _, _, rfl⟩ := run_ue4rInit cut_of_text h
    exact ⟨hcache, fun slot hkey => absurd rfl hkey, fun _ _ => rfl, Nat.zero_le 63⟩
  | resolve _ fnameAddr max ih => exact lookupOk_stays fnameAddr _ ih
  | find _ name cursor ih => exact ue4rFindInstance_ok ih name cursor
  | walk _ fuel ih => exact ue4rWalkClasses_stays lookupOk_stays LookupOk.meta fuel _ ih
  | iterate _ fuel cb userdata ih => exact ue4rIterateClasses_stays lookupOk_stays LookupOk.meta fuel cb userdata _ ih

abbrev searchOf (c : Ue4rCtx) (objects : UInt64) (count : Nat) (name : Str) : Search :=
  ⟨tables c, c.uclassClass, objects, count, name⟩

variable {objects : UInt64} {count : Nat} {name : Str}

theorem resumes_start (hok : LookupOk m c) (hready : ue4rReady c = true)
    (hinfo : (getObjectsInfo c.guobjectarray).run m.host = some (objects, count))
    (hfirst : c.lookupName = name → c.lookupClass ≠ 0 → ∃ i, (searchOf c objects count name).classIndex m = some i ∧
      c.lookupClass = (searchOf c objects count name).object m i) :
    Resumes m (searchOf c objects count name) (0, c) 0 := by
  refine ⟨rfl, Nat.zero_le _, hinfo, hready, ?_⟩
  have nothing : ∀ i < 0, (searchOf c objects count name).isNamed m i = false :=
    fun i hi => absurd hi (Nat.not_lt_zero i)
  by_cases hname : c.lookupName = name
  · have hstart : lookupStart name 0 c = (0, c) := if_neg (not_not.mpr hname)
    have hkept : c.lookupName = snprintf 64 name := by
      rw [snprintf, List.take_of_length_le (hname ▸ hok.name), hname]
    simp only [hstart]
    refine ⟨hok, rfl, rfl, hinfo, hkept, ?_⟩
    by_cases hzero : c.lookupClass = 0
    · exact Or.inl ⟨hzero, nothing⟩
    · obtain ⟨i, hi, hclass⟩ := hfirst hname hzero
      exact Or.inr ⟨i, hi, hclass, hzero⟩
  · have hstart : lookupStart name 0 c = (0, setLookupName name c) := if_pos hname
    simp only [hstart]
    exact ⟨setLookupName_ok hok name, rfl, rfl, hinfo, rfl, Or.inl ⟨rfl, nothing⟩⟩

end Calls

def longName : Memory := .ofSegments
  [(0x10000, leBytes 16 0 ++ leBytes 8 0x70000 ++ leBytes 12 0 ++ leBytes 4 3),
   (0x20000, leBytes 8 0 ++ leBytes 8 0x30000), (0x30000, leBytes 8 0x40000),
   (0x40000, leBytes 8 0 ++ leBytes 8 0x50000 ++ leBytes 8 0x51000),
   (0x50000, leBytes 12 0 ++ lit "Class" ++ leBytes 60 0),
   (0x51000, leBytes 12 0 ++ List.replicate 58 0x61 ++ leBytes 60 0),
   (0x70000, leBytes 24 0x80000 ++ leBytes 24 0x81000 ++ leBytes 24 0x82000),
   (0x80000, leBytes 16 0 ++ leBytes 8 0x80000 ++ leBytes 8 1 ++ leBytes 64 0),
   (0x81000, leBytes 16 0 ++ leBytes 8 0x80000 ++ leBytes 4 2 ++ leBytes 4 12346 ++ leBytes 64 0),
   (0x82000, leBytes 16 0 ++ leBytes 8 0x81000 ++ leBytes 72 0)]

def longNameCtx : Ue4rCtx :=
  { Ue4rCtx.initial 0x10000 0x20000 0x30000 with
    uclassClass := 0x80000
    cachedChunks := Function.update (fun _ => 0) 0 0x40000
    nameCache := Function.update emptyNameCache 1 ⟨1, lit "Class"⟩ }

theorem longName_init : (ue4rInit 0 0 0x10000 0x20000).run longName.host = some longNameCtx := by
  rw [longName, Memory.ofSegments_eq]
  rfl

theorem longName_info :
    (getObjectsInfo longNameCtx.guobjectarray).run longName.host = some (0x70000, 3) := by
  rw [longName, Memory.ofSegments_eq]
  decide +kernel

/-- The names of the two classes are short enough for the cache. -/
theorem longName_clear (c : Ue4rCtx) (k : Nat) (hk : k < 3)
    (h : Looking longName (searchOf longNameCtx 0x70000 3 (List.replicate 58 0x61 ++ lit "_12345")) c k) :
    Clear longName (List.replicate 58 0x61 ++ lit "_12345") (guess longName 0x70000 k) c := by
  have hobjects : ∀ k < 3, guess longName 0x70000 k = [0x80000, 0x81000, 0x82000].getD k 0 := by
    rw [longName, Memory.ofSegments_eq]
    decide +kernel
  have hheaders : [0x80000, 0x81000, 0x82000].map (fun obj => (header longName obj).map Prod.snd) =
      [some 0x80000, some 0x80000, some 0x81000] := by
    rw [longName, Memory.ofSegments_eq]
    decide +kernel
  have hindexes : [0x80000, 0x81000].map (fun obj => nameIndex longName (obj + offUobjectName)) = [some 1, some 2] := by
    rw [longName, Memory.ofSegments_eq]
    decide +kernel
  have htexts : [1, 2].map (tableText longName (tables longNameCtx)) =
      [some (lit "Class"), some (List.replicate 58 0x61)] := by
    rw [longName, Memory.ofSegments_eq]
    decide +kernel
  have htells : ∀ i : Nat, ∀ (obj : UInt64) (text : Str), nameIndex longName (obj + offUobjectName) = some i →
      tableText longName (tables longNameCtx) i = some text → text.length ≤ 59 →
      Tells longName c (obj + offUobjectName) (List.replicate 58 0x61 ++ lit "_12345") :=
        fun i obj text hindex htext hlen =>
    tells_of_whole h.ok.names hindex (by rw [h.tables]; exact htext) hlen
  have hclassed : ∀ {obj cls : UInt64} {p : UInt32 × UInt64 → Bool}, (header longName obj).map Prod.snd = some cls →
      (header longName obj).any p = true → ∃ flags, p (flags, cls) = true := by
    intro obj cls p hheader hany
    obtain ⟨⟨flags, cls'⟩, hsome, rfl⟩ := Option.map_eq_some_iff.mp hheader
    rw [hsome] at hany
    exact ⟨flags, hany⟩
  simp only [List.map_cons, List.map_nil, List.cons.injEq, and_true] at hheaders hindexes htexts
  rw [hobjects k hk]
  refine ⟨fun _ hclass => ?_, fun _ hnull => ?_⟩
  · -- The first two objects are classes whose names the cache has whole, and the third is no class.
    rw [h.uclass] at hclass
    obtain rfl | rfl | rfl : k = 0 ∨ k = 1 ∨ k = 2 := by omega
    · exact htells 1 _ _ hindexes.1 htexts.1 (by decide)
    · exact htells 2 _ _ hindexes.2 htexts.2 (by decide)
    · obtain ⟨flags, hno⟩ := hclassed hheaders.2.2 hclass
      exact absurd (of_decide_eq_true hno) (show ¬(0x81000 : UInt64) = 0x80000 by decide)
  · -- No header has a null class.
    exfalso
    obtain rfl | rfl | rfl : k = 0 ∨ k = 1 ∨ k = 2 := by omega
    · obtain ⟨flags, hno⟩ := hclassed hheaders.1 hnull
      simp at hno
    · obtain ⟨flags, hno⟩ := hclassed hheaders.2.1 hnull
      simp at hno
    · obtain ⟨flags, hno⟩ := hclassed hheaders.2.2 hnull
      simp at hno

end Instances
end RadarAim
