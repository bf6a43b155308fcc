import Mathlib.Algebra.Group.Int.Defs
import RadarAim.Reflection.Objects

/-! The name cache. A lookup on a memory that does not change answers as it would without the cache, as long
    as the name is no longer than a slot holds and the caller's buffer did not cut it short. -/

namespace RadarAim
namespace Names

/-! ### The uncached answer -/

/-- The two places of a context that lead to the names. -/
structure NameTables where
  gnamepool : UInt64
  gnameChunkTable : UInt64

abbrev tables (c : Ue4rCtx) : NameTables := ⟨c.gnamepool, c.gnameChunkTable⟩

section Text
variable (m : Memory) (t : NameTables)

def chunkedText (compIndex : Nat) : Option Str :=
  if rmValidatePtr t.gnameChunkTable ∧ compIndex / 16384 < 32 then
    (readChunkEntry (m.ptr (t.gnameChunkTable + .ofNat (compIndex / 16384) * 8)) (compIndex % 16384)).run m.host
  else none

def tableText (compIndex : Nat) : Option Str :=
  (chunkedText m t compIndex).or
    ((resolveTables compIndex [t.gnamepool, m.ptr t.gnamepool, m.ptr (t.gnamepool + 8)]).run m.host)

/-- The text of a name, read with a buffer of `max` bytes. -/
def nameText (compIndex max : Nat) : Option Str :=
  (tableText m t compIndex).or ((resolvePool t.gnamepool compIndex max).run m.host)

def poolBlock (compIndex : Nat) : UInt64 :=
  m.ptr (t.gnamepool + fnamepoolBlocksOffset + .ofNat (compIndex / 2 ^ fnameBlockOffsetBits) * 8)

def poolHeader (compIndex : Nat) : UInt16 :=
  (m.u16 (poolBlock m t compIndex + .ofNat (compIndex % 2 ^ fnameBlockOffsetBits) * fnameEntryStride)).1

def poolLen (compIndex : Nat) : Nat := (poolHeader m t compIndex >>> fnameentryHeaderLenShift).toNat

/-- The pool entry of a name is not a wide one, which the reader skips. -/
abbrev PoolNarrow (compIndex : Nat) : Prop := poolHeader m t compIndex &&& fnameentryHeaderWideMask = 0

/-- What a lookup answers without the cache. -/
def answer (compIndex : Nat) (number : Int) (max : Nat) : Bool × Str :=
  match nameText m t compIndex max with
  | none => (false, [])
  | some s => (true, snprintf max (appendNumber s number))

theorem answer_of_none {compIndex max : Nat} (h : nameText m t compIndex max = none) (number : Int) :
    answer m t compIndex number max = (false, []) := by
  rw [answer, h]

theorem answer_of_some {compIndex max : Nat} {s : Str} (h : nameText m t compIndex max = some s) (number : Int) :
    answer m t compIndex number max = (true, snprintf max (appendNumber s number)) := by
  rw [answer, h]

def ChunksOk (c : Ue4rCtx) : Prop :=
  ∀ i, c.cachedChunks i = 0 ∨ c.cachedChunks i = m.ptr (c.gnameChunkTable + .ofNat i * 8)

theorem run_resolvePool (compIndex max : Nat) :
    (resolvePool t.gnamepool compIndex max).run m.host =
      if rmValidatePtr (poolBlock m t compIndex) then
        let entryAddr := poolBlock m t compIndex + .ofNat (compIndex % 2 ^ fnameBlockOffsetBits) * fnameEntryStride
        if (m.u16 entryAddr).2 ∧ 0 < poolLen m t compIndex ∧ poolLen m t compIndex ≤ 1024 ∧
            PoolNarrow m t compIndex then
          let nameCap := min (if poolLen m t compIndex < max - 1 then poolLen m t compIndex else max - 1) 1023
          (m.bytes (entryAddr + fnameentryHeaderSize) nameCap).map fun nameBuf => cstr (nameBuf.bytes nameCap)
        else none
      else none := by
  unfold PoolNarrow poolLen poolHeader poolBlock
  simp only [resolvePool, Prog.run_bind, Prog.run_ite, Memory.run_rmReadPtr, Memory.run_rmReadU16, Memory.run_rmRead,
    Prog.run_pure]
  split
  · split
    · cases m.bytes _ _ <;> rfl
    · rfl
  · rfl

/-- The pool reads the same text into every buffer that is longer than the entry. -/
theorem resolvePool_congr {compIndex max max' : Nat} (h : poolLen m t compIndex < max)
    (h' : poolLen m t compIndex < max') :
    (resolvePool t.gnamepool compIndex max).run m.host = (resolvePool t.gnamepool compIndex max').run m.host := by
  have cap : ∀ {len k : Nat}, len < k → (if len < k - 1 then len else k - 1) = len := fun {len k} hlt => by
    split <;> omega
  rw [run_resolvePool, run_resolvePool, cap h, cap h']

theorem resolvePool_of_wide {compIndex : Nat} (h : ¬PoolNarrow m t compIndex) (max : Nat) :
    (resolvePool t.gnamepool compIndex max).run m.host = none := by
  rw [run_resolvePool]
  split
  · exact if_neg fun hread => h hread.2.2.2
  · rfl

end Text

section Slow
variable {m : Memory} {c : Ue4rCtx}

theorem exec_cachedChunk (h : ChunksOk m c) (i : Nat) :
    ∃ chunks, m.exec (cachedChunk i) c =
      (m.ptr (c.gnameChunkTable + .ofNat i * 8), { c with cachedChunks := chunks }) ∧
      ChunksOk m { c with cachedChunks := chunks } := by
  by_cases hzero : c.cachedChunks i = 0
  · refine ⟨Function.update c.cachedChunks i (m.ptr (c.gnameChunkTable + .ofNat i * 8)), ?_, fun j => ?_⟩
    · rw [cachedChunk, Memory.exec_bind, Memory.exec_get, if_pos hzero]
      simp
    · by_cases hj : j = i
      · subst hj
        exact Or.inr (Function.update_self ..)
      · show Function.update _ _ _ j = 0 ∨ Function.update _ _ _ j = _
        rw [Function.update_of_ne hj]
        exact h j
  · have hchunk := (h i).resolve_left hzero
    refine ⟨c.cachedChunks, ?_, h⟩
    rw [cachedChunk, Memory.exec_bind, Memory.exec_get, if_neg hzero, Memory.exec_pure, hchunk]

theorem exec_resolveSlow (h : ChunksOk m c) (compIndex max : Nat) :
    ∃ chunks, m.exec (resolveSlow compIndex max) c =
      (nameText m (tables c) compIndex max, { c with cachedChunks := chunks }) ∧
      ChunksOk m { c with cachedChunks := chunks } := by
  obtain ⟨chunks, hchunked, hok⟩ : ∃ chunks, m.exec (resolveChunked compIndex) c =
      (chunkedText m (tables c) compIndex, { c with cachedChunks := chunks }) ∧
      ChunksOk m { c with cachedChunks := chunks } := by
    unfold resolveChunked chunkedText tables
    by_cases hgo : rmValidatePtr c.gnameChunkTable = true ∧ compIndex / 16384 < 32
    · obtain ⟨chunks, hchunk, hok⟩ := exec_cachedChunk h (compIndex / 16384)
      refine ⟨chunks, ?_, hok⟩
      rw [Memory.exec_bind, Memory.exec_get, if_pos hgo, Memory.exec_bind, hchunk, Memory.exec_lift,
        if_pos hgo]
    · refine ⟨c.cachedChunks, ?_, h⟩
      rw [Memory.exec_bind, Memory.exec_get, if_neg hgo, Memory.exec_pure, if_neg hgo]
  refine ⟨chunks, ?_, hok⟩
  rw [resolveSlow, Memory.exec_bind, hchunked, nameText, tableText]
  cases chunkedText m (tables c) compIndex with
  | some s => rfl
  | none =>
    simp only [Memory.exec_bind, Memory.exec_get, Memory.exec_lift, Memory.run_rmReadPtr, Option.none_or]
    cases (resolveTables compIndex [c.gnamepool, m.ptr c.gnamepool, m.ptr (c.gnamepool + 8)]).run m.host with
    | some s => rfl
    | none => rw [Option.none_or]; exact Memory.exec_lift m _ _

end Slow

/-! ### The cache -/

/-- The text of a name fits a cache slot, and a pool entry fits the buffer of the caller and that of
    `ue4r_init`. -/
structure Fits (m : Memory) (t : NameTables) (compIndex max : Nat) : Prop where
  slot : ∀ s, nameText m t compIndex max = some s → s.length ≤ 59
  buffer : tableText m t compIndex = none → PoolNarrow m t compIndex →
    poolLen m t compIndex < max ∧ poolLen m t compIndex < 256

/-- Every cached chunk pointer is right, and every cached text of an index satisfies `P`. -/
structure CacheOk (m : Memory) (P : NameTables → Nat → Str → Prop) (c : Ue4rCtx) : Prop where
  chunks : ChunksOk m c
  cache : ∀ i compIndex : Nat, (c.nameCache i).compIndex = compIndex → (c.nameCache i).name ≠ [] →
    P (tables c) compIndex (c.nameCache i).name

/-- The text is the whole name, for every lookup that it fits. -/
def Whole (m : Memory) (t : NameTables) (compIndex : Nat) (s : Str) : Prop :=
  ∀ max, Fits m t compIndex max → nameText m t compIndex max = some s

/-- Only the caches of `c` have changed, and they are right. -/
structure CachesKept (m : Memory) (P : NameTables → Nat → Str → Prop) (c c' : Ue4rCtx) : Prop where
  same : ∃ chunks cache, c' = { c with cachedChunks := chunks, nameCache := cache }
  ok : CacheOk m P c'

theorem CachesKept.refl {m : Memory} {P : NameTables → Nat → Str → Prop} {c : Ue4rCtx} (h : CacheOk m P c) :
    CachesKept m P c c := ⟨⟨c.cachedChunks, c.nameCache, rfl⟩, h⟩

theorem CachesKept.trans {m : Memory} {P : NameTables → Nat → Str → Prop} {c c' c'' : Ue4rCtx}
    (h : CachesKept m P c c') (h' : CachesKept m P c' c'') : CachesKept m P c c'' := by
  obtain ⟨chunks, cache, rfl⟩ := h.same
  obtain ⟨chunks', cache', rfl⟩ := h'.same
  exact ⟨⟨chunks', cache', rfl⟩, h'.ok⟩

section Cache
variable {m : Memory} {c : Ue4rCtx}

theorem length_numberSuffix_le {number : Int} (h : number < 2 ^ 31) : (numberSuffix number).length ≤ 11 := by
  unfold numberSuffix
  split
  · have hlt : (number - 1).toNat < 10 ^ 10 := by omega
    have hdigits := (Nat.length_toDigits_le_iff (b := 10) (by decide) (by decide)).mpr hlt
    simp only [List.length_append, decimal, lit, List.length_map, Nat.toString_eq_repr, Nat.toList_repr]
    have hone : "_".toList.length = 1 := rfl
    omega
  · exact Nat.zero_le 11

theorem appendNumber_of_short {s : Str} {number : Int} (hs : s.length ≤ 59) (h : number < 2 ^ 31) :
    appendNumber s number = s ++ numberSuffix number := by
  have := length_numberSuffix_le h
  exact if_pos (by omega)

/-- The text that a lookup stores is the whole name for every lookup that it fits. -/
theorem nameText_of_stored {t : NameTables} {compIndex max₀ max : Nat} {s : Str}
    (hs : nameText m t compIndex max₀ = some s) (hstore : max₀ = 256 ∨ Fits m t compIndex max₀)
    (hfits : Fits m t compIndex max) : nameText m t compIndex max = some (s.take 59) := by
  have hsame : nameText m t compIndex max = some s := by
    rw [← hs, nameText, nameText]
    cases htable : tableText m t compIndex with
    | some s' => rfl
    | none =>
      rw [Option.none_or, Option.none_or]
      by_cases hnarrow : PoolNarrow m t compIndex
      · obtain ⟨hmax, h256⟩ := hfits.buffer htable hnarrow
        refine resolvePool_congr m _ hmax ?_
        rcases hstore with rfl | hstore
        · exact h256
        · exact (hstore.buffer htable hnarrow).1
      · exact (resolvePool_of_wide m _ hnarrow max).trans (resolvePool_of_wide m _ hnarrow max₀).symm
  rw [hsame, List.take_of_length_le (hfits.slot s hsame)]

/-- A lookup by index touches nothing but the caches, and keeps them right when what it would store is. It
    answers as it would without the cache, or from a cached text. -/
theorem exec_resolveIndex {P : NameTables → Nat → Str → Prop} (h : CacheOk m P c) {compIndex max : Nat}
    (hstore : ∀ s, nameText m (tables c) compIndex max = some s → P (tables c) compIndex (s.take 59))
    (number : Int) :
    CachesKept m P c (m.exec (resolveIndex compIndex number max) c).2 ∧
      ((m.exec (resolveIndex compIndex number max) c).1 = answer m (tables c) compIndex number max ∨
        ∃ s, s ≠ [] ∧ P (tables c) compIndex s ∧
          (m.exec (resolveIndex compIndex number max) c).1 = (true, snprintf max (s ++ numberSuffix number))) := by
  rw [resolveIndex, Memory.exec_bind, Memory.exec_get]
  by_cases hhit : (c.nameCache (compIndex % nameCacheSize)).compIndex = compIndex ∧
      (c.nameCache (compIndex % nameCacheSize)).name ≠ []
  · simp only [if_pos hhit, Memory.exec_pure]
    exact ⟨.refl h, Or.inr ⟨_, hhit.2, h.cache _ compIndex hhit.1 hhit.2, rfl⟩⟩
  · obtain ⟨chunks, hslow, hchunks⟩ := exec_resolveSlow h.chunks compIndex max
    simp only [if_neg hhit, Memory.exec_bind, hslow]
    cases htext : nameText m (tables c) compIndex max with
    | none =>
      exact ⟨⟨⟨chunks, c.nameCache, rfl⟩, ⟨hchunks, h.cache⟩⟩, Or.inl (answer_of_none m _ htext number).symm⟩
    | some s =>
      simp only [Memory.exec_bind, Memory.exec_modify, Memory.exec_pure, cacheName]
      refine ⟨⟨⟨chunks, Function.update c.nameCache (compIndex % nameCacheSize) ⟨compIndex, s.take 59⟩, rfl⟩,
        ⟨hchunks, fun i compIndex' hi hname => ?_⟩⟩, Or.inl (answer_of_some m _ htext number).symm⟩
      by_cases hslot : i = compIndex % nameCacheSize
      · subst hslot
        simp only [Function.update_self] at hi hname ⊢
        cases hi
        exact hstore s htext
      · simp only [Function.update_of_ne hslot] at hi hname ⊢
        exact h.cache i compIndex' hi hname

/-- A lookup that misses the cache answers as it would without it. -/
theorem exec_resolveIndex_of_miss (h : ChunksOk m c) {compIndex : Nat}
    (hmiss : ¬((c.nameCache (compIndex % nameCacheSize)).compIndex = compIndex ∧
      (c.nameCache (compIndex % nameCacheSize)).name ≠ [])) (number : Int) (max : Nat) :
    (m.exec (resolveIndex compIndex number max) c).1 = answer m (tables c) compIndex number max := by
  obtain ⟨chunks, hslow, -⟩ := exec_resolveSlow h compIndex max
  rw [resolveIndex, Memory.exec_bind, Memory.exec_get]
  simp only [if_neg hmiss, Memory.exec_bind, hslow]
  cases htext : nameText m (tables c) compIndex max with
  | none => exact (answer_of_none m _ htext number).symm
  | some s => exact (answer_of_some m _ htext number).symm

end Cache

/-! ### Lookups by address -/

section Lookup
variable (m : Memory)

def nameIndex (fnameAddr : UInt64) : Option Nat :=
  if rmValidatePtr fnameAddr ∧ (m.i32 (fnameAddr + offFnameIndex)).2 ∧ 0 ≤ (m.i32 (fnameAddr + offFnameIndex)).1 then
    some (m.i32 (fnameAddr + offFnameIndex)).1.toNat
  else none

def nameNumber (fnameAddr : UInt64) : Int :=
  if (m.i32 (fnameAddr + offFnameNumber)).2 then (m.i32 (fnameAddr + offFnameNumber)).1 else 0

theorem i32_lt (a : UInt64) : (m.i32 a).1 < 2 ^ 31 := by
  unfold Memory.i32
  cases m.read a 4 with
  | none => decide
  | some b => exact BitVec.toInt_lt

theorem nameNumber_lt (fnameAddr : UInt64) : nameNumber m fnameAddr < 2 ^ 31 := by
  unfold nameNumber
  split
  · exact i32_lt m _
  · decide

/-- What a lookup answers without the cache. -/
def uncached (t : NameTables) (fnameAddr : UInt64) (max : Nat) : Bool × Str :=
  if max = 0 then (false, [])
  else match nameIndex m fnameAddr with
    | none => (false, [])
    | some compIndex => answer m t compIndex (nameNumber m fnameAddr) max

theorem uncached_of_none {t : NameTables} {fnameAddr : UInt64} (h : nameIndex m fnameAddr = none) (max : Nat) :
    uncached m t fnameAddr max = (false, []) := by
  rw [uncached, h]
  exact ite_self _

theorem uncached_of_index {t : NameTables} {fnameAddr : UInt64} {compIndex max : Nat} (hmax : max ≠ 0)
    (h : nameIndex m fnameAddr = some compIndex) :
    uncached m t fnameAddr max = answer m t compIndex (nameNumber m fnameAddr) max := by
  rw [uncached, if_neg hmax, h]

def FitsAt (t : NameTables) (fnameAddr : UInt64) (max : Nat) : Prop :=
  ∀ compIndex, nameIndex m fnameAddr = some compIndex → Fits m t compIndex max

theorem exec_ue4rResolveName_of_index {fnameAddr : UInt64} {max compIndex : Nat} (hmax : max ≠ 0)
    (h : nameIndex m fnameAddr = some compIndex) (c : Ue4rCtx) :
    m.exec (ue4rResolveName fnameAddr max) c = m.exec (resolveIndex compIndex (nameNumber m fnameAddr) max) c := by
  unfold nameIndex at h
  split at h
  · rename_i hread
    obtain ⟨hptr, hok, hnonneg⟩ := hread
    cases h
    have hgo : ¬(max = 0 ∨ (!rmValidatePtr fnameAddr) = true) := by simp [hmax, hptr]
    rw [ue4rResolveName, if_neg hgo]
    simp only [Memory.exec_bind, Memory.exec_lift, Memory.run_rmReadI32]
    rw [if_pos ⟨hok, hnonneg⟩]
    simp only [Memory.exec_bind, Memory.exec_lift, Memory.run_rmReadI32, nameNumber]
  · cases h

theorem exec_ue4rResolveName_of_none {fnameAddr : UInt64} (h : nameIndex m fnameAddr = none) (max : Nat) (c : Ue4rCtx) :
    m.exec (ue4rResolveName fnameAddr max) c = ((false, []), c) := by
  unfold nameIndex at h
  split at h
  · cases h
  · rename_i hread
    unfold ue4rResolveName
    by_cases hgo : max = 0 ∨ (!rmValidatePtr fnameAddr) = true
    · rw [if_pos hgo, Memory.exec_pure]
    · have hptr : rmValidatePtr fnameAddr = true := by simpa using (not_or.mp hgo).2
      rw [if_neg hgo]
      simp only [Memory.exec_bind, Memory.exec_lift, Memory.run_rmReadI32]
      rw [if_neg fun hok => hread ⟨hptr, hok⟩, Memory.exec_pure]

variable {m} {c : Ue4rCtx}

theorem exec_ue4rResolveName {P : NameTables → Nat → Str → Prop} (h : CacheOk m P c) {fnameAddr : UInt64} {max : Nat}
    (hstore : ∀ compIndex s, nameIndex m fnameAddr = some compIndex →
      nameText m (tables c) compIndex max = some s → P (tables c) compIndex (s.take 59)) :
    CachesKept m P c (m.exec (ue4rResolveName fnameAddr max) c).2 ∧
      ((m.exec (ue4rResolveName fnameAddr max) c).1 = uncached m (tables c) fnameAddr max ∨
        ∃ compIndex s, nameIndex m fnameAddr = some compIndex ∧ s ≠ [] ∧ P (tables c) compIndex s ∧
          (m.exec (ue4rResolveName fnameAddr max) c).1 =
            (true, snprintf max (s ++ numberSuffix (nameNumber m fnameAddr)))) := by
  by_cases hmax : max = 0
  · subst hmax
    rw [ue4rResolveName, if_pos (Or.inl rfl), Memory.exec_pure]
    exact ⟨.refl h, Or.inl rfl⟩
  · cases hindex : nameIndex m fnameAddr with
    | none =>
      rw [exec_ue4rResolveName_of_none m hindex]
      exact ⟨.refl h, Or.inl (uncached_of_none m hindex max).symm⟩
    | some compIndex =>
      rw [exec_ue4rResolveName_of_index m hmax hindex]
      obtain ⟨hkept, hanswer⟩ :=
        exec_resolveIndex h (fun s hs => hstore compIndex s hindex hs) (nameNumber m fnameAddr)
      refine ⟨hkept, ?_⟩
      rcases hanswer with hanswer | ⟨s, hs, hP, hanswer⟩
      · exact Or.inl (by rw [hanswer, uncached_of_index m hmax hindex])
      · exact Or.inr ⟨compIndex, s, rfl, hs, hP, hanswer⟩

/-- When the name fits, a lookup answers as it would without the cache. -/
theorem exec_ue4rResolveName_of_fits (h : CacheOk m (Whole m) c) {fnameAddr : UInt64} {max : Nat}
    (hfits : FitsAt m (tables c) fnameAddr max) :
    CachesKept m (Whole m) c (m.exec (ue4rResolveName fnameAddr max) c).2 ∧
      (m.exec (ue4rResolveName fnameAddr max) c).1 = uncached m (tables c) fnameAddr max := by
  obtain ⟨hkept, hanswer⟩ := @exec_ue4rResolveName m c (Whole m) h fnameAddr max
    fun compIndex s hindex hs max' => nameText_of_stored hs (Or.inr (hfits compIndex hindex))
  refine ⟨hkept, hanswer.elim id ?_⟩
  rintro ⟨compIndex, s, hindex, -, hwhole, hanswer⟩
  have htext := hwhole max (hfits compIndex hindex)
  have hmax : max ≠ 0 := by
    rintro rfl
    rw [ue4rResolveName, if_pos (Or.inl rfl), Memory.exec_pure] at hanswer
    cases hanswer
  rw [hanswer, uncached_of_index m hmax hindex, answer_of_some m _ htext,
    appendNumber_of_short ((hfits compIndex hindex).slot s htext) (nameNumber_lt m fnameAddr)]

end Lookup

/-! ### The context of `ue4r_init` -/

section Init
variable {m : Memory} {P : NameTables → Nat → Str → Prop}
  (hstore : ∀ t compIndex s, nameText m t compIndex 256 = some s → P t compIndex (s.take 59))
include hstore

/-- The lookups of the walker itself all have a buffer of 256 bytes. -/
theorem exec_resolveObjectName {c : Ue4rCtx} (h : CacheOk m P c) (objAddr : UInt64) :
    CachesKept m P c (m.exec (resolveObjectName objAddr 256) c).2 := by
  unfold resolveObjectName
  split
  · exact (@exec_ue4rResolveName m c P h _ 256 fun compIndex s _ hs => hstore (tables c) compIndex s hs).1
  · exact .refl h

theorem exec_findUclassClassLoop (objectsPtr : UInt64) (todo i : Nat) {c : Ue4rCtx} (h : CacheOk m P c) :
    CachesKept m P c (m.exec (findUclassClassLoop objectsPtr todo i) c).2 := by
  induction todo generalizing i c with
  | zero => exact .refl h
  | succ todo ih =>
    rw [findUclassClassLoop, Memory.exec_bind, Memory.exec_lift]
    split
    · have hname := exec_resolveObjectName hstore h ((readObjectFromArray objectsPtr i).run m.host)
      simp only [Memory.exec_bind, Memory.exec_lift]
      split
      · split
        · simpa only [Memory.exec_pure] using hname
        · rw [Memory.exec_bind]
          have hcls := exec_resolveObjectName hstore hname.ok
            ((rmReadPtr ((readObjectFromArray objectsPtr i).run m.host + offUobjectClass)).run m.host)
          split
          · simpa only [Memory.exec_pure] using hname.trans hcls
          · exact (hname.trans hcls).trans (ih (i + 1) hcls.ok)
      · exact hname.trans (ih (i + 1) hname.ok)
    · exact ih (i + 1) h

theorem exec_findUclassClass {c : Ue4rCtx} (h : CacheOk m P c) :
    CachesKept m P c (m.exec findUclassClass c).2 := by
  rw [findUclassClass, Memory.exec_bind, Memory.exec_get, Memory.exec_bind, Memory.exec_lift]
  split
  · exact .refl h
  · exact exec_findUclassClassLoop hstore _ _ _ h

/-- `ue4r_init` leaves right caches, and nothing is looked up yet. -/
theorem run_ue4rInit {c : Ue4rCtx} {imageBase slide guobjOff gnamesOff : UInt64}
    (h : (ue4rInit imageBase slide guobjOff gnamesOff).run m.host = some c) :
    CacheOk m P c ∧ ∃ guobjectarray gnamepool gnameChunkTable chunks cache uclass,
      c = { Ue4rCtx.initial guobjectarray gnamepool gnameChunkTable with
        cachedChunks := chunks, nameCache := cache, uclassClass := uclass } := by
  simp only [ue4rInit, Prog.run_bind, Prog.run_ite] at h
  split at h
  · cases h
  · generalize addressOr 0x0aad3898 guobjOff imageBase slide = objects at h
    generalize addressOr 0x0a898170 gnamesOff imageBase slide = pool at h
    generalize (derefChunkTable _ _).run m.host = table at h
    have hkept : CachesKept m P (.initial objects pool table)
        (m.exec findUclassClass (.initial objects pool table)).2 :=
      exec_findUclassClass hstore ⟨fun _ => Or.inl rfl, fun _ _ _ hname => absurd rfl hname⟩
    rw [Memory.exec] at hkept
    generalize (findUclassClass.run (.initial objects pool table)).run m.host = found at h hkept
    obtain ⟨uclass, c'⟩ := found
    cases h
    obtain ⟨chunks, cache, rfl⟩ := hkept.same
    exact ⟨⟨hkept.ok.chunks, hkept.ok.cache⟩, objects, pool, table, chunks, cache, uclass, rfl⟩

end Init

/-! ### Transparency -/

structure NameCall where
  fnameAddr : UInt64
  max : Nat

def resolveAll : List NameCall → Walker (List (Bool × Str))
  | [] => pure []
  | q :: qs => do
    let r ← ue4rResolveName q.fnameAddr q.max
    let rs ← resolveAll qs
    pure (r :: rs)

def freshCtx (c : Ue4rCtx) : Ue4rCtx := { c with cachedChunks := fun _ => 0, nameCache := emptyNameCache }

section Transparency
variable {m : Memory} {c : Ue4rCtx}

theorem freshCtx_cache (c : Ue4rCtx) : CacheOk m (Whole m) (freshCtx c) where
  chunks _ := Or.inl rfl
  cache _ _ _ hname := absurd rfl hname

theorem exec_resolveAll (h : CacheOk m (Whole m) c) {calls : List NameCall}
    (hfits : ∀ q ∈ calls, FitsAt m (tables c) q.fnameAddr q.max) :
    (m.exec (resolveAll calls) c).1 = calls.map fun q => uncached m (tables c) q.fnameAddr q.max := by
  induction calls generalizing c with
  | nil => rfl
  | cons q qs ih =>
    have hq := hfits q List.mem_cons_self
    obtain ⟨hkept, hanswer⟩ := exec_ue4rResolveName_of_fits h hq
    have htables : tables (m.exec (ue4rResolveName q.fnameAddr q.max) c).2 = tables c := by
      obtain ⟨chunks, cache, hsame⟩ := hkept.same
      rw [hsame]
    have hrest := ih hkept.ok fun q' hq' => by
      rw [htables]
      exact hfits q' (List.mem_cons_of_mem q hq')
    simp only [resolveAll, Memory.exec_bind, Memory.exec_pure, hanswer, hrest, htables, List.map_cons]

/-- On a context of `ue4r_init`, lookups of names that fit answer as each would on a fresh context. -/
theorem resolveAll_transparent {imageBase slide guobjOff gnamesOff : UInt64}
    (hinit : (ue4rInit imageBase slide guobjOff gnamesOff).run m.host = some c) {calls : List NameCall}
    (hfits : ∀ q ∈ calls, FitsAt m (tables c) q.fnameAddr q.max) :
    (m.exec (resolveAll calls) c).1 =
      calls.map fun q => (m.exec (ue4rResolveName q.fnameAddr q.max) (freshCtx c)).1 := by
  have hcache : CacheOk m (Whole m) c :=
    (run_ue4rInit (fun _ _ _ hs _ => nameText_of_stored hs (Or.inl rfl)) hinit).1
  rw [exec_resolveAll hcache hfits]
  refine List.map_congr_left fun q hq => ?_
  exact (exec_ue4rResolveName_of_fits (freshCtx_cache c) (hfits q hq)).2.symm

end Transparency

/-- A chunk table with two names: index 1 has 60 bytes, index 2 is `Pawn`. Their FNames are at 0x60000 and
    0x60008. -/
def twoNames : Memory := .ofSegments
  [(0x20000, leBytes 8 0 ++ leBytes 8 0x30000), (0x30000, leBytes 8 0x40000),
   (0x40000, leBytes 8 0 ++ leBytes 8 0x50000 ++ leBytes 8 0x51000),
   (0x50000, leBytes 12 0 ++ List.replicate 60 0x61 ++ leBytes 4 0),
   (0x51000, leBytes 12 0 ++ lit "Pawn" ++ leBytes 60 0),
   (0x60000, leBytes 8 1 ++ leBytes 8 2)]

theorem twoNames_init :
    (ue4rInit 0 0 0x10000 0x20000).run twoNames.host = some (.initial 0x10000 0x20000 0x30000) := rfl

theorem pawn_fits (max : Nat) : FitsAt twoNames ⟨0x20000, 0x30000⟩ 0x60008 max := by
  intro compIndex hindex
  have htwo : nameIndex twoNames 0x60008 = some 2 := by decide +kernel
  obtain rfl := Option.some.inj (hindex.symm.trans htwo)
  have htable : tableText twoNames ⟨0x20000, 0x30000⟩ 2 = some (lit "Pawn") := by decide +kernel
  refine ⟨fun s hs => ?_, fun hnone => by rw [htable] at hnone; cases hnone⟩
  rw [nameText, htable, Option.some_or] at hs
  obtain rfl := Option.some.inj hs
  decide

theorem resolveAll_transparent_pawn :
    (twoNames.exec (resolveAll [⟨0x60008, 256⟩, ⟨0x60008, 3⟩]) (.initial 0x10000 0x20000 0x30000)).1 =
      [⟨0x60008, 256⟩, ⟨0x60008, 3⟩].map fun q : NameCall =>
        (twoNames.exec (ue4rResolveName q.fnameAddr q.max) (freshCtx (.initial 0x10000 0x20000 0x30000))).1 := by
  refine resolveAll_transparent twoNames_init fun q hq => ?_
  rcases List.mem_pair.mp hq with rfl | rfl
  · exact pawn_fits 256
  · exact pawn_fits 3

/-- The second lookup of the long name answers with the 59 bytes that its slot holds. -/
theorem long_name_shortened :
    ¬∀ (m : Memory) (imageBase slide guobjOff gnamesOff : UInt64) (c : Ue4rCtx),
      (ue4rInit imageBase slide guobjOff gnamesOff).run m.host = some c →
      ∀ calls : List NameCall, (∀ q ∈ calls, 1 ≤ q.max) →
        (m.exec (resolveAll calls) c).1 =
          calls.map fun q => (m.exec (ue4rResolveName q.fnameAddr q.max) (freshCtx c)).1 := by
  intro h
  have heq := h twoNames 0 0 0x10000 0x20000 _ twoNames_init [⟨0x60000, 256⟩, ⟨0x60000, 256⟩] (by decide)
  exact absurd heq (by decide +kernel)

end Names
end RadarAim
