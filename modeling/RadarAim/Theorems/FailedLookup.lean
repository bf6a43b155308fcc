import Mathlib.Order.Interval.Finset.Nat
import RadarAim.Theorems.NameTable

/-! What a failed lookup leaves behind. A chunk pointer is stored before it is validated: garbage that was read once
    stands in the way of every later name of its chunk. -/

namespace RadarAim
namespace FailedLookup
open Names NameTable

/-! ### A lookup on any context -/

section Lookup
variable (m : Memory) (c : Ue4rCtx)

/-- The chunk pointer that a lookup works with. -/
def chunkUsed (i : Nat) : UInt64 :=
  if c.cachedChunks i = 0 then m.ptr (c.gnameChunkTable + .ofNat i * 8) else c.cachedChunks i

/-- The chunks that the table has for the reader. -/
abbrev InTable (i : Nat) : Prop := rmValidatePtr c.gnameChunkTable = true ∧ i < 32

/-- The context once the chunk of `compIndex` has been looked for. -/
def afterChunk (compIndex : Nat) : Ue4rCtx :=
  if InTable c (compIndex / 16384) then
    { c with
      cachedChunks := Function.update c.cachedChunks (compIndex / 16384) (chunkUsed m c (compIndex / 16384)) }
  else c

/-- What the table gives for `compIndex`. -/
def chunkText (compIndex : Nat) : Option Str :=
  if InTable c (compIndex / 16384) then
    (readChunkEntry (chunkUsed m c (compIndex / 16384)) (compIndex % 16384)).run m.host
  else none

/-- What the memory at `gnamepool` gives. -/
def poolText (compIndex max : Nat) : Option Str :=
  (firstText m compIndex [c.gnamepool, m.ptr c.gnamepool, m.ptr (c.gnamepool + 8)]).or
    ((resolvePool c.gnamepool compIndex max).run m.host)

def Hit (compIndex : Nat) : Prop :=
  (c.nameCache (compIndex % nameCacheSize)).compIndex = compIndex ∧ (c.nameCache (compIndex % nameCacheSize)).name ≠ []

instance (compIndex : Nat) : Decidable (Hit c compIndex) := inferInstanceAs (Decidable (_ ∧ _))

theorem exec_cachedChunk (i : Nat) : m.exec (cachedChunk i) c =
    (chunkUsed m c i, { c with cachedChunks := Function.update c.cachedChunks i (chunkUsed m c i) }) := by
  rw [cachedChunk, Memory.exec_bind, Memory.exec_get, chunkUsed]
  by_cases hzero : c.cachedChunks i = 0
  · rw [if_pos hzero, if_pos hzero]
    simp
  · rw [if_neg hzero, if_neg hzero, Function.update_eq_self]
    rfl

theorem exec_resolveSlow (compIndex max : Nat) : m.exec (resolveSlow compIndex max) c =
    ((chunkText m c compIndex).or (poolText m c compIndex max), afterChunk m c compIndex) := by
  have hchunked : m.exec (resolveChunked compIndex) c = (chunkText m c compIndex, afterChunk m c compIndex) := by
    rw [resolveChunked, Memory.exec_bind, Memory.exec_get, chunkText, afterChunk]
    by_cases hin : InTable c (compIndex / 16384)
    · rw [if_pos hin, if_pos hin, if_pos hin, Memory.exec_bind, exec_cachedChunk, Memory.exec_lift]
    · rw [if_neg hin, if_neg hin, if_neg hin, Memory.exec_pure]
  have hpool : (afterChunk m c compIndex).gnamepool = c.gnamepool := by
    unfold afterChunk
    split <;> rfl
  rw [resolveSlow, Memory.exec_bind, hchunked]
  cases chunkText m c compIndex with
  | some s => rfl
  | none =>
    simp only [Memory.exec_bind, Memory.exec_get, Memory.exec_lift, Memory.run_rmReadPtr, Option.none_or, hpool,
      run_resolveTables, poolText]
    cases firstText m compIndex [c.gnamepool, m.ptr c.gnamepool, m.ptr (c.gnamepool + 8)] with
    | some s => rfl
    | none =>
      rw [Option.none_or]
      exact Memory.exec_lift m _ _

theorem exec_resolveIndex_hit {compIndex : Nat} (h : Hit c compIndex) (number : Int) (max : Nat) :
    m.exec (resolveIndex compIndex number max) c = ((true,
      snprintf max ((c.nameCache (compIndex % nameCacheSize)).name ++ numberSuffix number)), c) := by
  unfold Hit at h
  rw [resolveIndex, Memory.exec_bind, Memory.exec_get]
  simp only [if_pos h, Memory.exec_pure]

theorem exec_resolveIndex_miss {compIndex : Nat} (h : ¬Hit c compIndex) (number : Int) (max : Nat) :
    m.exec (resolveIndex compIndex number max) c =
      match (chunkText m c compIndex).or (poolText m c compIndex max) with
      | none => ((false, []), afterChunk m c compIndex)
      | some s => ((true, snprintf max (appendNumber s number)), cacheName compIndex s (afterChunk m c compIndex)) := by
  unfold Hit at h
  rw [resolveIndex, Memory.exec_bind, Memory.exec_get]
  simp only [if_neg h, Memory.exec_bind, exec_resolveSlow]
  cases (chunkText m c compIndex).or (poolText m c compIndex max) <;> rfl

end Lookup

/-! ### The trace -/

/-- A lookup of `compIndex` stores a chunk pointer. -/
def Stores (m : Memory) (c : Ue4rCtx) (i : Nat) : Prop :=
  InTable c i ∧ c.cachedChunks i = 0 ∧ m.ptr (c.gnameChunkTable + .ofNat i * 8) ≠ 0

theorem afterChunk_eq_of_not_stores {m : Memory} {c : Ue4rCtx} {compIndex : Nat}
    (h : ¬Stores m c (compIndex / 16384)) : afterChunk m c compIndex = c := by
  unfold afterChunk
  by_cases hin : InTable c (compIndex / 16384)
  · have hsame : chunkUsed m c (compIndex / 16384) = c.cachedChunks (compIndex / 16384) := by
      unfold chunkUsed
      by_cases hzero : c.cachedChunks (compIndex / 16384) = 0
      · rw [if_pos hzero, hzero]
        by_contra hptr
        exact h ⟨hin, hzero, hptr⟩
      · rw [if_neg hzero]
    rw [if_pos hin, hsame, Function.update_eq_self]
  · rw [if_neg hin]

/-- What a failed lookup does: with a valid FName it has missed the name cache and looked for the chunk. -/
theorem failed_cases {m : Memory} {c : Ue4rCtx} {fnameAddr : UInt64} {max : Nat}
    (h : (m.exec (ue4rResolveName fnameAddr max) c).1.1 = false) :
    (m.exec (ue4rResolveName fnameAddr max) c).1.2 = [] ∧
      ((m.exec (ue4rResolveName fnameAddr max) c).2 = c ∧ (max = 0 ∨ nameIndex m fnameAddr = none) ∨
        ∃ compIndex, max ≠ 0 ∧ nameIndex m fnameAddr = some compIndex ∧ ¬Hit c compIndex ∧
          (m.exec (ue4rResolveName fnameAddr max) c).2 = afterChunk m c compIndex) := by
  by_cases hmax : max = 0
  · subst hmax
    rw [ue4rResolveName, if_pos (Or.inl rfl), Memory.exec_pure]
    exact ⟨rfl, Or.inl ⟨rfl, Or.inl rfl⟩⟩
  cases hindex : nameIndex m fnameAddr with
  | none =>
    rw [exec_ue4rResolveName_of_none m hindex]
    exact ⟨rfl, Or.inl ⟨rfl, Or.inr rfl⟩⟩
  | some compIndex =>
    rw [exec_ue4rResolveName_of_index m hmax hindex] at h ⊢
    by_cases hhit : Hit c compIndex
    · rw [exec_resolveIndex_hit m c hhit] at h
      cases h
    · rw [exec_resolveIndex_miss m c hhit] at h ⊢
      cases htext : (chunkText m c compIndex).or (poolText m c compIndex max) with
      | some s => rw [htext] at h; cases h
      | none => exact ⟨rfl, Or.inr ⟨compIndex, hmax, rfl, hhit, rfl⟩⟩

/-! ### A garbage pointer that does no harm -/

/-- `c'` is `c` but for chunk `i`, where `c'` has the garbage `v` and `c` has what the table says, if anything. -/
structure Shadowed (m : Memory) (i : Nat) (v : UInt64) (c c' : Ue4rCtx) : Prop where
  same : c' = { c with cachedChunks := Function.update c.cachedChunks i v }
  right : c.cachedChunks i = 0 ∨ c.cachedChunks i = m.ptr (c.gnameChunkTable + .ofNat i * 8)

section Shadowed
variable {m : Memory} {i : Nat} {v : UInt64} {c c' : Ue4rCtx}

theorem Shadowed.chunkUsed (h : Shadowed m i v c c') :
    chunkUsed m c i = m.ptr (c.gnameChunkTable + .ofNat i * 8) := by
  unfold FailedLookup.chunkUsed
  by_cases hzero : c.cachedChunks i = 0
  · rw [if_pos hzero]
  · rw [if_neg hzero, h.right.resolve_left hzero]

theorem Shadowed.garbageUsed (h : Shadowed m i v c c') (hv : v ≠ 0) : FailedLookup.chunkUsed m c' i = v := by
  simp [FailedLookup.chunkUsed, h.same, hv]

theorem Shadowed.otherUsed (h : Shadowed m i v c c') {j : Nat} (hj : j ≠ i) :
    FailedLookup.chunkUsed m c' j = FailedLookup.chunkUsed m c j := by
  simp [FailedLookup.chunkUsed, h.same, Function.update_of_ne hj]

theorem Shadowed.afterChunk (h : Shadowed m i v c c') (hv : v ≠ 0) (compIndex : Nat) :
    Shadowed m i v (afterChunk m c compIndex) (afterChunk m c' compIndex) := by
  have htable : c'.gnameChunkTable = c.gnameChunkTable := by rw [h.same]
  unfold FailedLookup.afterChunk InTable
  rw [htable]
  by_cases hin : rmValidatePtr c.gnameChunkTable = true ∧ compIndex / 16384 < 32
  · rw [if_pos hin, if_pos hin]
    by_cases hj : compIndex / 16384 = i
    · rw [hj, h.garbageUsed hv, h.chunkUsed]
      refine ⟨?_, Or.inr (Function.update_self ..)⟩
      simp [h.same]
    · rw [h.otherUsed hj]
      refine ⟨?_, ?_⟩
      · simp only [h.same, Function.update_comm hj]
      · show Function.update _ _ _ i = 0 ∨ Function.update _ _ _ i = _
        rw [Function.update_of_ne (Ne.symm hj)]
        exact h.right
  · rw [if_neg hin, if_neg hin]
    exact h

/-- When the name pool is the table itself, the fallback finds what the garbage pointer hides. -/
theorem Shadowed.text (h : Shadowed m i v c c') (hv : v ≠ 0) (hgarbage : rmValidatePtr v = false)
    (hin : rmValidatePtr c.gnameChunkTable = true) (hpool : c.gnamepool = c.gnameChunkTable) (compIndex max : Nat) :
    (chunkText m c' compIndex).or (poolText m c' compIndex max) =
      (chunkText m c compIndex).or (poolText m c compIndex max) := by
  have htable : c'.gnameChunkTable = c.gnameChunkTable := by rw [h.same]
  have hpooltext : poolText m c' compIndex max = poolText m c compIndex max := by rw [h.same]; rfl
  rw [hpooltext]
  by_cases hj : compIndex / 16384 = i
  · have hnone : chunkText m c' compIndex = none := by
      rw [chunkText, hj, h.garbageUsed hv]
      simp [readChunkEntry, hgarbage]
    have hhead := run_tableEntry m compIndex c.gnameChunkTable
    rw [if_pos hin] at hhead
    rw [hnone, Option.none_or, chunkText, hj, h.chunkUsed]
    split
    · rw [hj] at hhead
      rw [hhead, poolText, firstText, hpool, List.findSome?_cons]
      cases (entryAt m c.gnameChunkTable compIndex).bind fun e => (readEntry e).run m.host <;> simp
    · rfl
  · have hsame : chunkText m c' compIndex = chunkText m c compIndex := by
      simp only [chunkText, InTable, htable, h.otherUsed hj]
    rw [hsame]

theorem Shadowed.cacheName (h : Shadowed m i v c c') (compIndex : Nat) (s : Str) :
    Shadowed m i v (cacheName compIndex s c) (cacheName compIndex s c') where
  same := by simp [RadarAim.cacheName, h.same]
  right := h.right

theorem tables_afterChunk (m : Memory) (c : Ue4rCtx) (compIndex : Nat) :
    tables (FailedLookup.afterChunk m c compIndex) = tables c := by
  unfold FailedLookup.afterChunk
  split <;> rfl

/-- The two contexts answer alike and stay alike. -/
theorem Shadowed.lookup (h : Shadowed m i v c c') (hv : v ≠ 0) (hgarbage : rmValidatePtr v = false)
    (hin : rmValidatePtr c.gnameChunkTable = true) (hpool : c.gnamepool = c.gnameChunkTable) (q : NameCall) :
    (m.exec (ue4rResolveName q.fnameAddr q.max) c').1 = (m.exec (ue4rResolveName q.fnameAddr q.max) c).1 ∧
      Shadowed m i v (m.exec (ue4rResolveName q.fnameAddr q.max) c).2
        (m.exec (ue4rResolveName q.fnameAddr q.max) c').2 ∧
      tables (m.exec (ue4rResolveName q.fnameAddr q.max) c).2 = tables c := by
  obtain ⟨fnameAddr, max⟩ := q
  by_cases hmax : max = 0
  · subst hmax
    simp only [ue4rResolveName, true_or, if_true, Memory.exec_pure]
    exact ⟨trivial, h, trivial⟩
  cases hindex : nameIndex m fnameAddr with
  | none =>
    rw [exec_ue4rResolveName_of_none m hindex, exec_ue4rResolveName_of_none m hindex]
    exact ⟨rfl, h, rfl⟩
  | some compIndex =>
    rw [exec_ue4rResolveName_of_index m hmax hindex, exec_ue4rResolveName_of_index m hmax hindex]
    have hcache : c'.nameCache = c.nameCache := by rw [h.same]
    by_cases hhit : Hit c compIndex
    · have hhit' : Hit c' compIndex := by rwa [Hit, hcache]
      rw [exec_resolveIndex_hit m c hhit, exec_resolveIndex_hit m c' hhit', hcache]
      exact ⟨rfl, h, rfl⟩
    · have hmiss' : ¬Hit c' compIndex := by rwa [Hit, hcache]
      rw [exec_resolveIndex_miss m c hhit, exec_resolveIndex_miss m c' hmiss',
        h.text hv hgarbage hin hpool]
      have hafter := h.afterChunk hv compIndex
      have htables := tables_afterChunk m c compIndex
      cases (chunkText m c compIndex).or (poolText m c compIndex max) with
      | none => exact ⟨rfl, hafter, htables⟩
      | some s => exact ⟨rfl, hafter.cacheName compIndex s, htables⟩

theorem Shadowed.resolveAll (h : Shadowed m i v c c') (hv : v ≠ 0) (hgarbage : rmValidatePtr v = false)
    (hin : rmValidatePtr c.gnameChunkTable = true) (hpool : c.gnamepool = c.gnameChunkTable)
    (calls : List NameCall) : (m.exec (resolveAll calls) c').1 = (m.exec (resolveAll calls) c).1 := by
  induction calls generalizing c c' with
  | nil => rfl
  | cons q qs ih =>
    obtain ⟨hanswer, hafter, htables⟩ := h.lookup hv hgarbage hin hpool q
    have htable := congrArg NameTables.gnameChunkTable htables
    have hname := congrArg NameTables.gnamepool htables
    simp only at htable hname
    have hrest := ih hafter (htable ▸ hin) (by rw [hname, htable, hpool])
    simp only [Names.resolveAll, Memory.exec_bind, Memory.exec_pure, hanswer, hrest]

end Shadowed

/-! ### The condition -/

/-- The failed lookup stores no chunk pointer, or one that is garbage while the name pool is the table itself. -/
def NoTrace (m : Memory) (c : Ue4rCtx) (fnameAddr : UInt64) (max : Nat) : Prop :=
  ∀ compIndex, max ≠ 0 → nameIndex m fnameAddr = some compIndex → Stores m c (compIndex / 16384) →
    rmValidatePtr (m.ptr (c.gnameChunkTable + .ofNat (compIndex / 16384) * 8)) = false ∧
      c.gnamepool = c.gnameChunkTable

/-- The buffer is empty, and every later lookup answers as if this one had not been made. -/
structure NothingLeft (m : Memory) (c : Ue4rCtx) (fnameAddr : UInt64) (max : Nat) : Prop where
  buffer : (m.exec (ue4rResolveName fnameAddr max) c).1.2 = []
  later : ∀ (m' : Memory) (calls : List NameCall),
    (m'.exec (resolveAll calls) (m.exec (ue4rResolveName fnameAddr max) c).2).1 = (m'.exec (resolveAll calls) c).1

section Harmless
variable {m : Memory} {c : Ue4rCtx} {fnameAddr : UInt64} {max : Nat}

theorem resolveAll_of_noTrace (hfail : (m.exec (ue4rResolveName fnameAddr max) c).1.1 = false)
    (h : NoTrace m c fnameAddr max) (m' : Memory) (calls : List NameCall) :
    (m'.exec (resolveAll calls) (m.exec (ue4rResolveName fnameAddr max) c).2).1 = (m'.exec (resolveAll calls) c).1 := by
  obtain ⟨-, ⟨hsame, -⟩ | ⟨compIndex, hmax, hindex, -, hafter⟩⟩ := failed_cases hfail
  · rw [hsame]
  · rw [hafter]
    by_cases hstores : Stores m c (compIndex / 16384)
    · obtain ⟨hgarbage, hpool⟩ := h compIndex hmax hindex hstores
      obtain ⟨hin, hzero, hptr⟩ := hstores
      have hshadow : Shadowed m' (compIndex / 16384) (m.ptr (c.gnameChunkTable + .ofNat (compIndex / 16384) * 8)) c
          (afterChunk m c compIndex) := by
        refine ⟨?_, Or.inl hzero⟩
        rw [afterChunk, if_pos hin, chunkUsed, if_pos hzero]
      exact hshadow.resolveAll hptr hgarbage hin.1 hpool calls
    · rw [afterChunk_eq_of_not_stores hstores]

end Harmless

/-! ### A memory that tells two contexts apart -/

/-- The place `n` in the zone `k` of the address space. -/
def zoneAddr (k n : Nat) : UInt64 := .ofNat (k * 2 ^ 32 + n)

def byteOf (x i : Nat) : UInt8 := .ofNat (x / 256 ^ i)

/-- The bytes of an entry with the name `A`. Read as pointers, none of them is valid. -/
def entryByte (i : Nat) : UInt8 := if i = 12 then 0x41 else if i = 14 ∨ i = 15 then 0xFF else 0

/-- In the zone: an FName, an entry, and a chunk that has the entry for the FName and no other. -/
def zoneByte (k compIndex n : Nat) : Option UInt8 :=
  if n < 4 then some (byteOf compIndex n)
  else if 0x1000 ≤ n ∧ n < 0x1000 + 1036 then some (entryByte (n - 0x1000))
  else if 0x100000 + compIndex % 16384 * 8 ≤ n ∧ n < 0x100000 + compIndex % 16384 * 8 + 8 then
    some (byteOf (k * 2 ^ 32 + 0x1000) (n - (0x100000 + compIndex % 16384 * 8)))
  else none

/-- The zone, and outside it the pointer `q` at `p`. -/
def probe (k compIndex : Nat) (p q : UInt64) : Memory := fun a =>
  if k * 2 ^ 32 ≤ a.toNat ∧ a.toNat < k * 2 ^ 32 + 2 ^ 22 then zoneByte k compIndex (a.toNat - k * 2 ^ 32)
  else if p.toNat ≤ a.toNat ∧ a.toNat < p.toNat + 8 then some (byteOf q.toNat (a.toNat - p.toNat))
  else none

/-- No byte of a pointer at `f` is in the zone. -/
def Clear (k : Nat) (f : UInt64) : Prop := (f.toNat + 8) / 2 ^ 32 ≠ k

section Probe
variable {k compIndex : Nat} {p q : UInt64} (hk : 1 ≤ k) (hk' : k ≤ 6)

theorem zoneAddr_add (k n i : Nat) : zoneAddr k n + .ofNat i = zoneAddr k (n + i) := by
  rw [zoneAddr, zoneAddr, ← UInt64.ofNat_add, Nat.add_assoc]

theorem zoneAddr_index (k n i : Nat) : zoneAddr k n + .ofNat i * 8 = zoneAddr k (n + i * 8) := by
  have hmul : UInt64.ofNat i * 8 = .ofNat (i * 8) := by rw [UInt64.ofNat_mul]; rfl
  rw [hmul, zoneAddr_add]

include hk' in
theorem toNat_zoneAddr {n : Nat} (hn : n < 2 ^ 22) : (zoneAddr k n).toNat = k * 2 ^ 32 + n := by
  rw [zoneAddr, UInt64.toNat_ofNat', Nat.mod_eq_of_lt (by omega)]

include hk' in
theorem probe_zone {n : Nat} (hn : n < 2 ^ 22) : probe k compIndex p q (zoneAddr k n) = zoneByte k compIndex n := by
  have haddr := toNat_zoneAddr hk' hn
  rw [probe, haddr, if_pos (by omega), Nat.add_sub_cancel_left]

include hk hk' in
theorem rmValidatePtr_zoneAddr {n : Nat} (hn : n < 2 ^ 22) : rmValidatePtr (zoneAddr k n) = true := by
  have haddr := toNat_zoneAddr hk' hn
  have hzero : zoneAddr k n ≠ 0 := fun h => by
    rw [h] at haddr
    simp at haddr
    omega
  have hlow : ¬zoneAddr k n ≤ 0x1000 := fun h => by
    have := UInt64.le_iff_toNat_le.mp h
    simp [haddr] at this
    omega
  have hhigh : ¬zoneAddr k n ≥ 0x0001000000000000 := fun h => by
    have := UInt64.le_iff_toNat_le.mp h
    simp [haddr] at this
    omega
  simp [rmValidatePtr, hzero, hlow, hhigh]

/-- A pointer whose bytes are all there. -/
theorem ptr_of_bytes {m : Memory} {a : UInt64} {x : Nat} (hfit : a.toNat + 8 ≤ 2 ^ 64) (hx : x < 2 ^ 64)
    (h : ∀ i < 8, m (a + .ofNat i) = some (byteOf x i)) : m.ptr a = .ofNat x := by
  obtain ⟨b, hb, hbytes⟩ := m.read_of_bytes a 8 hfit h
  have hnum : leNat b 0 8 = x % 256 ^ 8 := leNat_of_bytes fun i hi => by
    rw [Nat.zero_add, hbytes i hi]
    rfl
  have hle : leNat b 0 8 = x := by rw [hnum, Nat.mod_eq_of_lt (by omega)]
  rw [Memory.ptr, hb]
  exact congrArg UInt64.ofNat hle

section Zone
variable {m : Memory} (hm : m = probe k compIndex p q)
include hk' hm

/-- The FName in the zone. -/
theorem probe_index (hk1 : 1 ≤ k) (hidx : compIndex < 2 ^ 31) : nameIndex m (zoneAddr k 0) = some compIndex := by
  have haddr : zoneAddr k 0 + offFnameIndex = zoneAddr k 0 := UInt64.add_zero _
  have hfit : (zoneAddr k 0).toNat + 4 ≤ 2 ^ 64 := by
    rw [toNat_zoneAddr hk' (by decide)]
    omega
  obtain ⟨b, hb, hbytes⟩ := m.read_of_bytes (zoneAddr k 0) 4 (f := byteOf compIndex) hfit fun i hi => by
    rw [zoneAddr_add, hm, probe_zone hk' (by omega), zoneByte, if_pos (by omega), Nat.zero_add]
  have hnum : leNat b 0 4 = compIndex % 256 ^ 4 := leNat_of_bytes fun i hi => by
    rw [Nat.zero_add, hbytes i hi]
    rfl
  have hval : leI32 b 0 = compIndex := by
    rw [leI32, hnum, Nat.mod_eq_of_lt (by omega), BitVec.toInt_eq_toNat_cond, BitVec.toNat_ofNat]
    omega
  have hi32 : m.i32 (zoneAddr k 0) = ((compIndex : Int), true) := by
    rw [Memory.i32, hb, Option.elim_some, hval]
  simp [nameIndex, haddr, hi32, rmValidatePtr_zoneAddr hk1 hk' (by decide : 0 < 2 ^ 22)]

theorem probe_entry {i : Nat} (hi : i < 1036) : m (zoneAddr k 0x1000 + .ofNat i) = some (entryByte i) := by
  rw [zoneAddr_add, hm, probe_zone hk' (by omega), zoneByte, if_neg (by omega), if_pos (by omega),
    Nat.add_sub_cancel_left]

theorem probe_entryHolds : EntryHolds m (zoneAddr k 0x1000) false [0x41] where
  readable i hi := by rw [probe_entry hk' hm hi]; rfl
  flag := by
    have haddr : zoneAddr k 0x1000 + 8 = zoneAddr k 0x1008 := zoneAddr_add k 0x1000 8
    have hfit : (zoneAddr k 0x1008).toNat + 2 ≤ 2 ^ 64 := by
      rw [toNat_zoneAddr hk' (by decide)]
      omega
    obtain ⟨b, hb, hbytes⟩ := m.read_of_bytes (zoneAddr k 0x1008) 2 (f := fun _ => 0) hfit fun i hi => by
      rw [← haddr, show zoneAddr k 0x1000 + 8 = zoneAddr k 0x1000 + .ofNat 8 from rfl, UInt64.add_assoc,
        ← UInt64.ofNat_add, probe_entry hk' hm (by omega), entryByte, if_neg (by omega), if_neg (by omega)]
    have h0 := hbytes 0 (by decide)
    have h1 := hbytes 1 (by decide)
    rw [haddr, Memory.u16, hb, Option.elim_some, le16, leNat, leNat, leNat, h0, h1]
    decide
  narrowText _ i hi := by
    have hi1 : i ≤ 1 := hi
    rw [probe_entry hk' hm (by omega), entryByte]
    rcases Nat.le_one_iff_eq_zero_or_eq_one.mp hi1 with rfl | rfl <;> rfl
  wideText h := Bool.noConfusion h

/-- No pointer in the entry is valid. -/
theorem probe_dead {j : Nat} (hj : j < 16384) :
    rmValidatePtr (m.ptr (zoneAddr k 0x1000 + .ofNat j * 8)) = false := by
  rw [zoneAddr_index]
  rcases Nat.lt_or_ge 128 j with hlong | hshort
  · have hmiss : m (zoneAddr k (0x1000 + j * 8) + .ofNat 7) = none := by
      rw [zoneAddr_add, hm, probe_zone hk' (by omega), zoneByte, if_neg (by omega), if_neg (by omega),
        if_neg (by omega)]
    rw [m.ptr_of_missing _ (by decide) hmiss]
    rfl
  · have hfit : (zoneAddr k (0x1000 + j * 8)).toNat + 8 ≤ 2 ^ 64 := by
      rw [toNat_zoneAddr hk' (by omega)]
      omega
    have hbyte : ∀ i < 8, m (zoneAddr k (0x1000 + j * 8) + .ofNat i) = some (entryByte (j * 8 + i)) :=
      fun i hi => by
        rw [← probe_entry hk' hm (by omega : j * 8 + i < 1036), zoneAddr_add, zoneAddr_add, Nat.add_assoc]
    rcases eq_or_ne j 1 with rfl | hone
    · rw [ptr_of_bytes (x := 0xFFFF004100000000) hfit (by decide) fun i hi => by
        rw [hbyte i hi]
        revert i
        decide]
      rfl
    · rw [ptr_of_bytes (x := 0) hfit (by decide) fun i hi => by
        rw [hbyte i hi, entryByte, if_neg (by omega), if_neg (by omega), byteOf, Nat.zero_div]
        rfl]
      rfl

/-- The chunk in the zone has one entry. -/
theorem probe_chunk {j : Nat} (hj : j < 16384) : m.ptr (zoneAddr k 0x100000 + .ofNat j * 8) =
    if j = compIndex % 16384 then zoneAddr k 0x1000 else 0 := by
  rw [zoneAddr_index]
  by_cases hoff : j = compIndex % 16384
  · have hfit : (zoneAddr k (0x100000 + j * 8)).toNat + 8 ≤ 2 ^ 64 := by
      rw [toNat_zoneAddr hk' (by omega)]
      omega
    rw [if_pos hoff]
    refine ptr_of_bytes hfit (by omega) fun i hi => ?_
    rw [zoneAddr_add, hm, probe_zone hk' (by omega), zoneByte, if_neg (by omega), if_neg (by omega),
      if_pos (by omega), hoff, Nat.add_sub_cancel_left]
  · have hmiss : m (zoneAddr k (0x100000 + j * 8) + .ofNat 0) = none := by
      rw [zoneAddr_add, hm, probe_zone hk' (by omega), zoneByte, if_neg (by omega), if_neg (by omega),
        if_neg (by omega)]
    rw [if_neg hoff, m.ptr_of_missing _ (by decide) hmiss]

omit hk' in
/-- Outside the zone there is one pointer. -/
theorem probe_outside (hp : p.toNat + 8 ≤ 2 ^ 64) {f : UInt64} (hf : Clear k f) :
    m.ptr f = if f = p then q else 0 := by
  unfold Clear at hf
  by_cases hfit : f.toNat + 8 ≤ 2 ^ 64
  · have hout : ∀ i < 8, ¬(k * 2 ^ 32 ≤ (f + .ofNat i).toNat ∧ (f + .ofNat i).toNat < k * 2 ^ 32 + 2 ^ 22) :=
      fun i hi => by
        rw [toNat_add_ofNat (by omega)]
        omega
    by_cases hfp : f = p
    · subst hfp
      rw [if_pos rfl, ptr_of_bytes hfit q.toNat_lt fun i hi => ?_, UInt64.ofNat_toNat]
      rw [hm, probe, if_neg (hout i hi), toNat_add_ofNat (by omega), if_pos (by omega), Nat.add_sub_cancel_left]
    · rw [if_neg hfp]
      have hne : f.toNat ≠ p.toNat := fun h => hfp (UInt64.toNat_inj.mp h)
      rcases Nat.lt_or_gt_of_ne hne with hlt | hgt
      · refine m.ptr_of_missing f (i := 0) (by decide) ?_
        rw [hm, probe, if_neg (hout 0 (by decide)), toNat_add_ofNat (by omega), if_neg (by omega)]
      · refine m.ptr_of_missing f (i := 7) (by decide) ?_
        rw [hm, probe, if_neg (hout 7 (by decide)), toNat_add_ofNat (by omega), if_neg (by omega)]
  · have hnone : m.read f 8 = none := if_neg fun h => hfit h.1
    have hfp : f ≠ p := fun h => hfit (h ▸ hp)
    rw [Memory.ptr, hnone, if_neg hfp, Option.elim_none]

omit hk' in
theorem probe_outside_cases (hp : p.toNat + 8 ≤ 2 ^ 64) {f : UInt64} (hf : Clear k f) :
    m.ptr f = 0 ∨ m.ptr f = q := by
  rw [probe_outside hm hp hf]
  split
  · exact Or.inr rfl
  · exact Or.inl rfl

end Zone

end Probe

theorem exists_clear (fixed : List UInt64) (h : fixed.length ≤ 5) : ∃ k, 1 ≤ k ∧ k ≤ 6 ∧ ∀ f ∈ fixed, Clear k f := by
  let taken := (fixed.map fun f => (f.toNat + 8) / 2 ^ 32).toFinset
  have hcard : taken.card < (Finset.Icc 1 6).card := by
    have hle := List.toFinset_card_le (fixed.map fun f => (f.toNat + 8) / 2 ^ 32)
    rw [List.length_map] at hle
    exact (hle.trans h).trans_lt (by decide)
  obtain ⟨k, hmem, hfree⟩ := Finset.exists_mem_notMem_of_card_lt_card hcard
  obtain ⟨hk, hk'⟩ := Finset.mem_Icc.mp hmem
  refine ⟨k, hk, hk', fun f hf heq => hfree ?_⟩
  rw [List.mem_toFinset, List.mem_map]
  exact ⟨f, hf, heq⟩

/-! ### The trace of a failed lookup -/

section Differs
variable {m : Memory} {c : Ue4rCtx} {compIndex : Nat}

theorem run_resolvePool_one (gnamepool : UInt64) : (resolvePool gnamepool compIndex 1).run m.host = none := by
  have hpool := run_resolvePool m ⟨gnamepool, 0⟩ compIndex 1
  simp only at hpool
  rw [hpool]
  split
  · split
    · simp [Memory.bytes]
    · rfl
  · rfl

/-- With a buffer of one byte, a lookup says whether there is an entry with a text. -/
theorem exec_lookup_one {fnameAddr : UInt64} (hindex : nameIndex m fnameAddr = some compIndex)
    (hmiss : ¬Hit c compIndex) : (m.exec (ue4rResolveName fnameAddr 1) c).1.1 =
      ((chunkText m c compIndex).or
        (firstText m compIndex [c.gnamepool, m.ptr c.gnamepool, m.ptr (c.gnamepool + 8)])).isSome := by
  rw [exec_ue4rResolveName_of_index m (by decide) hindex, exec_resolveIndex_miss m c hmiss, poolText,
    run_resolvePool_one, Option.or_none]
  cases (chunkText m c compIndex).or
    (firstText m compIndex [c.gnamepool, m.ptr c.gnamepool, m.ptr (c.gnamepool + 8)]) <;> rfl

theorem firstText_none {tables : List UInt64} (h : ∀ t ∈ tables, entryAt m t compIndex = none) :
    firstText m compIndex tables = none := by
  rw [firstText, List.findSome?_eq_none_iff]
  intro t ht
  rw [h t ht, Option.bind_none]

theorem entryAt_of_invalid {table : UInt64}
    (h : rmValidatePtr table = false ∨ rmValidatePtr (m.ptr (table + .ofNat (compIndex / 16384) * 8)) = false ∨
      rmValidatePtr (m.ptr (m.ptr (table + .ofNat (compIndex / 16384) * 8) + .ofNat (compIndex % 16384) * 8)) = false) :
    entryAt m table compIndex = none := by
  refine if_neg ?_
  rintro ⟨htable, hchunk, hentry⟩
  rcases h with h | h | h
  · rw [htable] at h; cases h
  · rw [hchunk] at h; cases h
  · rw [hentry] at h; cases h

theorem run_readChunkEntry (chunkPtr : UInt64) (off : Nat) : (readChunkEntry chunkPtr off).run m.host =
    if rmValidatePtr chunkPtr = true ∧ rmValidatePtr (m.ptr (chunkPtr + .ofNat off * 8)) = true then
      (readEntry (m.ptr (chunkPtr + .ofNat off * 8))).run m.host
    else none := by
  unfold readChunkEntry
  by_cases hchunk : rmValidatePtr chunkPtr = true
  · simp [hchunk, Prog.run_ite]
  · simp [hchunk]

theorem afterChunk_of_stores (h : Stores m c (compIndex / 16384)) : afterChunk m c compIndex =
    { c with
      cachedChunks := Function.update c.cachedChunks (compIndex / 16384)
        (m.ptr (c.gnameChunkTable + .ofNat (compIndex / 16384) * 8)) } := by
  rw [afterChunk, if_pos h.1, chunkUsed, if_pos h.2.1]

section Stored
variable (hstores : Stores m c (compIndex / 16384)) (m' : Memory)
include hstores

/-- Without the failed lookup, the table is read. -/
theorem chunkText_before : chunkText m' c compIndex =
    (readChunkEntry (m'.ptr (c.gnameChunkTable + .ofNat (compIndex / 16384) * 8)) (compIndex % 16384)).run m'.host := by
  rw [chunkText, if_pos hstores.1, chunkUsed, if_pos hstores.2.1]

/-- After it, what it has stored is used. -/
theorem chunkText_after : chunkText m' (afterChunk m c compIndex) compIndex =
    (readChunkEntry (m.ptr (c.gnameChunkTable + .ofNat (compIndex / 16384) * 8)) (compIndex % 16384)).run m'.host := by
  rw [afterChunk_of_stores hstores, chunkText, if_pos hstores.1]
  simp [chunkUsed, hstores.2.2]

theorem lookup_after {fnameAddr : UInt64} (hindex : nameIndex m' fnameAddr = some compIndex)
    (hmiss : ¬Hit c compIndex) : (m'.exec (ue4rResolveName fnameAddr 1) (afterChunk m c compIndex)).1.1 =
      ((readChunkEntry (m.ptr (c.gnameChunkTable + .ofNat (compIndex / 16384) * 8)) (compIndex % 16384)).run
        m'.host |>.or (firstText m' compIndex [c.gnamepool, m'.ptr c.gnamepool, m'.ptr (c.gnamepool + 8)])).isSome := by
  have hmiss' : ¬Hit (afterChunk m c compIndex) compIndex := by rwa [afterChunk_of_stores hstores]
  rw [exec_lookup_one hindex hmiss', chunkText_after hstores, afterChunk_of_stores hstores]

theorem lookup_before {fnameAddr : UInt64} (hindex : nameIndex m' fnameAddr = some compIndex)
    (hmiss : ¬Hit c compIndex) : (m'.exec (ue4rResolveName fnameAddr 1) c).1.1 =
      ((readChunkEntry (m'.ptr (c.gnameChunkTable + .ofNat (compIndex / 16384) * 8)) (compIndex % 16384)).run
        m'.host |>.or (firstText m' compIndex [c.gnamepool, m'.ptr c.gnamepool, m'.ptr (c.gnamepool + 8)])).isSome := by
  rw [exec_lookup_one hindex hmiss, chunkText_before hstores]

end Stored

theorem validPtr_add_lt {a : UInt64} (h : rmValidatePtr a = true) {i : Nat} (hi : i < 16384) :
    (a + .ofNat i * 8).toNat + 8 ≤ 2 ^ 64 := by
  have hlt := validPtr_lt h
  have hmul : UInt64.ofNat i * 8 = .ofNat (i * 8) := by rw [UInt64.ofNat_mul]; rfl
  rw [hmul, toNat_add_ofNat (by omega)]
  omega

theorem asciiName_A : AsciiName [0x41] := ⟨by decide, by decide, List.forall_mem_singleton.mpr (by decide)⟩

/-- Garbage in the place of the chunk pointer hides what the table has later. -/
theorem garbage_differs (hmiss : ¬Hit c compIndex) (hidx : compIndex < 2 ^ 31)
    (hstores : Stores m c (compIndex / 16384))
    (hgarbage : rmValidatePtr (m.ptr (c.gnameChunkTable + .ofNat (compIndex / 16384) * 8)) = false)
    (hpool : c.gnamepool ≠ c.gnameChunkTable) : ∃ (m' : Memory) (q : NameCall),
      (m'.exec (ue4rResolveName q.fnameAddr q.max) (afterChunk m c compIndex)).1.1 = false ∧
        (m'.exec (ue4rResolveName q.fnameAddr q.max) c).1.1 = true := by
  have hi : compIndex / 16384 < 16384 := hstores.1.2.trans (by decide)
  have hoff : compIndex % 16384 < 16384 := Nat.mod_lt _ (by decide)
  have hplace := validPtr_add_lt hstores.1.1 hi
  generalize hT : c.gnameChunkTable + .ofNat (compIndex / 16384) * 8 = T at hgarbage hplace
  -- The new entry is put where none of the words lies that decide the lookup.
  obtain ⟨k, hk, hk', hclear⟩ :=
    exists_clear [T, c.gnamepool, c.gnamepool + 8, c.gnamepool + .ofNat (compIndex / 16384) * 8] (by simp)
  simp only [List.forall_mem_cons, List.not_mem_nil, false_implies, implies_true, and_true] at hclear
  obtain ⟨hclearT, hclear₀, hclear₁, hclear₂⟩ := hclear
  obtain ⟨m', hm⟩ : ∃ m', m' = probe k compIndex T (zoneAddr k 0x100000) := ⟨_, rfl⟩
  have hindex := probe_index hk' hm hk hidx
  have hentry := run_readEntry (probe_entryHolds hk' hm) asciiName_A
    (rmValidatePtr_zoneAddr hk hk' (by decide : 0x1000 < 2 ^ 22))
  have hpT := probe_outside hm hplace hclearT
  rw [if_pos rfl] at hpT
  -- a table that leads into the zone finds no entry there
  have hzone : entryAt m' (zoneAddr k 0x100000) compIndex = none := by
    refine entryAt_of_invalid (Or.inr ?_)
    rw [probe_chunk hk' hm hi]
    split
    · exact Or.inr (probe_dead hk' hm hoff)
    · exact Or.inl rfl
  have hother : ∀ t, t = 0 ∨ t = zoneAddr k 0x100000 → entryAt m' t compIndex = none := by
    rintro t (rfl | rfl)
    · exact entryAt_of_invalid (Or.inl rfl)
    · exact hzone
  have hpooltable : entryAt m' c.gnamepool compIndex = none := by
    have hne : c.gnamepool + .ofNat (compIndex / 16384) * 8 ≠ T := fun h =>
      hpool ((UInt64.add_left_inj _).mp (h.trans hT.symm))
    refine entryAt_of_invalid (Or.inr (Or.inl ?_))
    rw [probe_outside hm hplace hclear₂, if_neg hne]
    rfl
  have htables : firstText m' compIndex [c.gnamepool, m'.ptr c.gnamepool, m'.ptr (c.gnamepool + 8)] = none := by
    refine firstText_none ?_
    simp only [List.forall_mem_cons, List.not_mem_nil, false_implies, implies_true, and_true]
    exact ⟨hpooltable, hother _ (probe_outside_cases hm hplace hclear₀),
      hother _ (probe_outside_cases hm hplace hclear₁)⟩
  -- The chunk that was stored is no address; without it the new table is read, which leads to the entry.
  refine ⟨m', ⟨zoneAddr k 0, 1⟩, ?_, ?_⟩
  · rw [lookup_after hstores m' hindex hmiss, htables, hT, run_readChunkEntry, if_neg fun h => ?_]
    · rfl
    · rw [hgarbage] at h
      cases h.1
  · rw [lookup_before hstores m' hindex hmiss, hT, hpT, run_readChunkEntry, probe_chunk hk' hm hoff, if_pos rfl,
      if_pos ⟨rmValidatePtr_zoneAddr hk hk' (by decide), rmValidatePtr_zoneAddr hk hk' (by decide)⟩, hentry]
    rfl

/-- A stale chunk pointer finds what the table does not have. -/
theorem stale_differs (hmiss : ¬Hit c compIndex) (hidx : compIndex < 2 ^ 31)
    (hstores : Stores m c (compIndex / 16384))
    (hvalid : rmValidatePtr (m.ptr (c.gnameChunkTable + .ofNat (compIndex / 16384) * 8)) = true) :
    ∃ (m' : Memory) (q : NameCall),
      (m'.exec (ue4rResolveName q.fnameAddr q.max) (afterChunk m c compIndex)).1.1 = true ∧
        (m'.exec (ue4rResolveName q.fnameAddr q.max) c).1.1 = false := by
  have hi : compIndex / 16384 < 16384 := hstores.1.2.trans (by decide)
  have hoff : compIndex % 16384 < 16384 := Nat.mod_lt _ (by decide)
  generalize hT : c.gnameChunkTable + .ofNat (compIndex / 16384) * 8 = T at hvalid
  generalize hv : m.ptr T = v at hvalid
  have hplace := validPtr_add_lt hvalid hoff
  generalize hp : v + .ofNat (compIndex % 16384) * 8 = p at hplace
  obtain ⟨k, hk, hk', hclear⟩ :=
    exists_clear [p, T, c.gnamepool, c.gnamepool + 8, c.gnamepool + .ofNat (compIndex / 16384) * 8] (by simp)
  simp only [List.forall_mem_cons, List.not_mem_nil, false_implies, implies_true, and_true] at hclear
  obtain ⟨hclearp, hclearT, hclear₀, hclear₁, hclear₂⟩ := hclear
  obtain ⟨m', hm⟩ : ∃ m', m' = probe k compIndex p (zoneAddr k 0x1000) := ⟨_, rfl⟩
  have hindex := probe_index hk' hm hk hidx
  have hentry := run_readEntry (probe_entryHolds hk' hm) asciiName_A
    (rmValidatePtr_zoneAddr hk hk' (by decide : 0x1000 < 2 ^ 22))
  have hout : ∀ f, Clear k f → m'.ptr f = 0 ∨ m'.ptr f = zoneAddr k 0x1000 := fun f hf =>
    probe_outside_cases hm hplace hf
  -- neither null nor the entry is a chunk, and neither is a table
  have hchunk : ∀ f, f = 0 ∨ f = zoneAddr k 0x1000 →
      rmValidatePtr f = false ∨ rmValidatePtr (m'.ptr (f + .ofNat (compIndex % 16384) * 8)) = false := by
    rintro f (rfl | rfl)
    · exact Or.inl rfl
    · exact Or.inr (probe_dead hk' hm hoff)
  have htable : ∀ t, t = 0 ∨ t = zoneAddr k 0x1000 → entryAt m' t compIndex = none := by
    rintro t (rfl | rfl)
    · exact entryAt_of_invalid (Or.inl rfl)
    · exact entryAt_of_invalid (Or.inr (Or.inl (probe_dead hk' hm hi)))
  have htables : firstText m' compIndex [c.gnamepool, m'.ptr c.gnamepool, m'.ptr (c.gnamepool + 8)] = none := by
    refine firstText_none ?_
    simp only [List.forall_mem_cons, List.not_mem_nil, false_implies, implies_true, and_true]
    exact ⟨entryAt_of_invalid (Or.inr (hchunk _ (hout _ hclear₂))), htable _ (hout _ hclear₀),
      htable _ (hout _ hclear₁)⟩
  -- The chunk that was stored leads to the entry; without it the new table is read, which leads nowhere.
  refine ⟨m', ⟨zoneAddr k 0, 1⟩, ?_, ?_⟩
  · rw [lookup_after hstores m' hindex hmiss, hT, hv, run_readChunkEntry, hp, probe_outside hm hplace hclearp,
      if_pos rfl, if_pos ⟨hvalid, rmValidatePtr_zoneAddr hk hk' (by decide)⟩, hentry]
    rfl
  · rw [lookup_before hstores m' hindex hmiss, htables, hT, run_readChunkEntry, if_neg fun h => ?_]
    · rfl
    · rcases hchunk _ (hout _ hclearT) with hno | hno
      · rw [h.1] at hno
        cases hno
      · rw [h.2] at hno
        cases hno

end Differs

theorem nameIndex_lt {m : Memory} {fnameAddr : UInt64} {compIndex : Nat} (h : nameIndex m fnameAddr = some compIndex) :
    compIndex < 2 ^ 31 := by
  obtain ⟨hread, heq⟩ := Option.ite_none_right_eq_some.mp h
  obtain rfl := Option.some.inj heq
  have hlt : (m.i32 (fnameAddr + offFnameIndex)).1 < 2 ^ 31 := by
    unfold Memory.i32
    cases m.read (fnameAddr + offFnameIndex) 4 with
    | none => decide
    | some b => exact BitVec.toInt_lt
  omega

/-- A failed lookup leaves nothing behind exactly when it stores no chunk pointer that matters. -/
theorem failed_lookup_iff {m : Memory} {c : Ue4rCtx} {fnameAddr : UInt64} {max : Nat}
    (hfail : (m.exec (ue4rResolveName fnameAddr max) c).1.1 = false) :
    NothingLeft m c fnameAddr max ↔ NoTrace m c fnameAddr max := by
  constructor
  · intro h compIndex hmax hindex hstores
    by_contra htrace
    obtain ⟨-, ⟨-, hnone⟩ | ⟨compIndex', -, hindex', hmiss, hafter⟩⟩ := failed_cases hfail
    · rcases hnone with hzero | hnone
      · exact hmax hzero
      · rw [hindex] at hnone
        cases hnone
    obtain rfl : compIndex = compIndex' := Option.some.inj (hindex.symm.trans hindex')
    -- one lookup that answers differently is enough
    have hone : ∀ (m' : Memory) (q : NameCall),
        (m'.exec (ue4rResolveName q.fnameAddr q.max) (afterChunk m c compIndex)).1 =
        (m'.exec (ue4rResolveName q.fnameAddr q.max) c).1 := by
      intro m' q
      have hlater := h.later m' [q]
      rw [hafter] at hlater
      simp only [resolveAll, Memory.exec_bind, Memory.exec_pure, List.cons.injEq, and_true] at hlater
      exact hlater
    by_cases hvalid : rmValidatePtr (m.ptr (c.gnameChunkTable + .ofNat (compIndex / 16384) * 8)) = true
    · obtain ⟨m', q, htrue, hfalse⟩ := stale_differs hmiss (nameIndex_lt hindex) hstores hvalid
      rw [hone, hfalse] at htrue
      cases htrue
    · have hgarbage := Bool.eq_false_iff.mpr hvalid
      have hpool : c.gnamepool ≠ c.gnameChunkTable := fun heq => htrace ⟨hgarbage, heq⟩
      obtain ⟨m', q, hfalse, htrue⟩ := garbage_differs hmiss (nameIndex_lt hindex) hstores hgarbage hpool
      rw [hone, htrue] at hfalse
      cases hfalse
  · intro h
    exact ⟨(failed_cases hfail).1, fun m' calls => resolveAll_of_noTrace hfail h m' calls⟩

/-- The FName at 0x60000 can be read, and 0x30000 holds the pointer `x`. -/
def startingMemory (x : UInt64) : Memory :=
  .ofSegments [(0x30000, leBytes 8 x.toNat), (0x60000, leBytes 8 0)]

theorem failed_lookup_iff_null : NothingLeft (startingMemory 0) wideCtx 0x60000 64 := by
  refine (failed_lookup_iff (by decide +kernel)).mpr fun compIndex _ hindex hstores => ?_
  have hzero : nameIndex (startingMemory 0) 0x60000 = some 0 := by decide +kernel
  obtain rfl := Option.some.inj (hindex.symm.trans hzero)
  have hnull : (startingMemory 0).ptr 0x30000 = 0 := by decide +kernel
  exact absurd hnull hstores.2.2

/-- A garbage pointer, read while the target starts up, keeps the later lookup from succeeding. -/
theorem garbage_chunk_kept : ¬∀ (m : Memory) (c : Ue4rCtx) (fnameAddr : UInt64) (max : Nat),
    (m.exec (ue4rResolveName fnameAddr max) c).1.1 = false → NothingLeft m c fnameAddr max := by
  intro h
  have hlater := (h (startingMemory 5) wideCtx 0x60000 64 (by decide +kernel)).later (wideMemory 4) [⟨0x60000, 64⟩]
  revert hlater
  decide +kernel

end FailedLookup
end RadarAim
