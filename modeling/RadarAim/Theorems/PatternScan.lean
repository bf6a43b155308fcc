import Mathlib.Data.List.Range
import RadarAim.Scan.Pattern

/-! The pattern scan. Since the scan takes the `bool` of `rm_read` for a number of bytes, it tests one window of
    each chunk that it reads: the one that ends with the first byte of the chunk. -/

namespace RadarAim
namespace PatternScan

/-! ### What the scan finds -/

section Window
variable (m : Memory) (start : UInt64) (size : Nat) (p : Pattern)

def chunks : Nat := (size + (pageSizeScan - 1)) / pageSizeScan

def chunkLen (k : Nat) : Nat := min (size - pageSizeScan * k) pageSizeScan

def chunk (k : Nat) : Option Buf := m.bytes (start + .ofNat (pageSizeScan * k)) (chunkLen size k)

def ChunkRead (k : Nat) : Bool := (chunk m start size k).isSome

/-- The number of chunks that are read in a row right before chunk `k`. -/
def chunksBefore : Nat → Nat
  | 0 => 0
  | k + 1 => if ChunkRead m start size k then chunksBefore k + 1 else 0

/-- Byte `i` of the window that ends with the first byte of chunk `k`. Where the chunks read before do not reach
    back to it, the buffer holds a zero. -/
def window (k : Nat) : Buf := fun i =>
  if p.overlap ≤ i + pageSizeScan * chunksBefore m start size k then
    (m (start + .ofNat (pageSizeScan * k + i - p.overlap))).getD 0
  else 0

/-- The scan finds the pattern when it comes to chunk `k`. -/
def Hit (k : Nat) : Bool :=
  ChunkRead m start size k && (0 < chunksBefore m start size k || p.overlap = 0) &&
    matchAt (window m start size p k) 0 p

def hitAddress (k : Nat) : UInt64 := start + .ofNat (pageSizeScan * k) - .ofNat p.overlap

theorem chunksBefore_le (k : Nat) : chunksBefore m start size k ≤ k := by
  induction k with
  | zero => exact Nat.le_refl 0
  | succ k ih =>
    rw [chunksBefore]
    split
    · exact Nat.succ_le_succ ih
    · exact Nat.zero_le _

theorem window_of_covered {k i : Nat} (h : p.overlap ≤ i + pageSizeScan * chunksBefore m start size k) :
    window m start size p k i = (m (start + .ofNat (pageSizeScan * k + i - p.overlap))).getD 0 := if_pos h

theorem window_of_uncovered {k i : Nat} (h : i + pageSizeScan * chunksBefore m start size k < p.overlap) :
    window m start size p k i = 0 := if_neg (Nat.not_le.mpr h)

theorem window_last (k : Nat) :
    window m start size p k p.overlap = (m (start + .ofNat (pageSizeScan * k))).getD 0 := by
  rw [window_of_covered m start size p (Nat.le_add_right _ _), Nat.add_sub_cancel]

theorem matchAt_congr {b c : Buf} (h : ∀ i < p.patLen, b i = c i) : matchAt b 0 p = matchAt c 0 p := by
  unfold matchAt
  simp only [Nat.zero_add]
  rw [Bool.eq_iff_iff, List.all_eq_true, List.all_eq_true]
  refine forall₂_congr fun i hi => ?_
  rw [h i (List.mem_range.mp hi)]

end Window

/-! ### The buffer -/

section Rounds
variable (m : Memory) (start : UInt64) (size : Nat) (p : Pattern)

/-- The variables before the round of chunk `k`: what is to be moved into the overlap zone is the window of the
    chunk up to its last byte. -/
structure Before (k : Nat) (s : ScanState) : Prop where
  offset : s.offset = min (pageSizeScan * k) size
  first : s.first = (chunksBefore m start size k == 0)
  filler : chunksBefore m start size k = 0 → ∀ j < p.overlap, s.buf j = 0
  carried : chunksBefore m start size k ≠ 0 → pageSizeScan * k < size →
    ∀ j < p.overlap, s.buf (pageSizeScan + j) = window m start size p k j

def shifted (s : ScanState) : Buf :=
  if !s.first ∧ 0 < p.overlap then s.buf.write 0 p.overlap fun i => s.buf (pageSizeScan + i) else s.buf

variable {m start size p} {k : Nat} {s : ScanState}

theorem before_zero : Before m start size p 0 .start where
  offset := (Nat.zero_min size).symm
  first := rfl
  filler _ _ _ := rfl
  carried h := absurd rfl h

theorem Before.shifted (h : Before m start size p k s) (hk : pageSizeScan * k < size) {j : Nat} (hj : j < p.overlap) :
    shifted p s j = window m start size p k j := by
  unfold PatternScan.shifted
  by_cases hrun : chunksBefore m start size k = 0
  · have hfirst : s.first = true := by rw [h.first, hrun]; rfl
    rw [if_neg (by simp [hfirst]), h.filler hrun j hj, window_of_uncovered]
    rwa [hrun, Nat.mul_zero, Nat.add_zero]
  · have hfirst : s.first = false := by rw [h.first, beq_eq_false_iff_ne]; exact hrun
    have hwrite := Buf.write_inside s.buf (fun i => s.buf (pageSizeScan + i)) (k := 0) hj
    rw [if_pos ⟨by simp [hfirst], Nat.zero_lt_of_lt hj⟩, ← h.carried hrun hk j hj]
    rwa [Nat.zero_add] at hwrite

theorem chunk_eq_some {page : Buf} (h : chunk m start size k = some page) (i : Nat) :
    page i = (m (start + .ofNat (pageSizeScan * k + i))).getD 0 := by
  unfold chunk Memory.bytes at h
  split at h
  · cases h
  · obtain ⟨-, rfl⟩ := (m.read_eq_some _ _).mp h
    rw [UInt64.ofNat_add, ← UInt64.add_assoc]

/-- The buffer of a chunk that was read begins with its window. -/
theorem Before.window (h : Before m start size p k s) (hk : pageSizeScan * k < size) {page : Buf}
    (hpage : chunk m start size k = some page) (hlen : 0 < chunkLen size k) {i : Nat} (hi : i ≤ p.overlap) :
    (PatternScan.shifted p s).write p.overlap (chunkLen size k) page i = window m start size p k i := by
  rcases Nat.lt_or_eq_of_le hi with hlt | rfl
  · rw [Buf.write_outside _ _ (Or.inl hlt)]
    exact h.shifted hk hlt
  · have hfirst := Buf.write_inside (PatternScan.shifted p s) page (k := p.overlap) hlen
    rw [Nat.add_zero] at hfirst
    rw [hfirst, chunk_eq_some hpage, Nat.add_zero, window_last]

/-- When a full chunk has been read, its end and that of the window are what the next window needs. -/
theorem Before.next (h : Before m start size p k s) (hk : pageSizeScan * (k + 1) < size) {page : Buf}
    (hpage : chunk m start size k = some page) {j : Nat} (hj : j < p.overlap) :
    (PatternScan.shifted p s).write p.overlap (chunkLen size k) page (pageSizeScan + j) =
      PatternScan.window m start size p (k + 1) j := by
  have hsucc : pageSizeScan * (k + 1) = pageSizeScan * k + pageSizeScan := Nat.mul_succ _ _
  have hfull : chunkLen size k = pageSizeScan := by unfold chunkLen; omega
  have hread : ChunkRead m start size k = true := by rw [ChunkRead, hpage]; rfl
  have hback : pageSizeScan * chunksBefore m start size (k + 1) =
      pageSizeScan * chunksBefore m start size k + pageSizeScan := by
    rw [chunksBefore, if_pos hread, Nat.mul_succ]
  rcases Nat.lt_or_ge (pageSizeScan + j) p.overlap with hlt | hge
  · have hsame : pageSizeScan * k + (pageSizeScan + j) = pageSizeScan * (k + 1) + j := by omega
    rw [Buf.write_outside _ _ (Or.inl hlt), h.shifted (by omega) hlt]
    unfold PatternScan.window
    rw [hsame]
    exact if_congr (by omega) rfl rfl
  · obtain ⟨i, hi⟩ := Nat.exists_eq_add_of_le hge
    have hlt : i < chunkLen size k := by omega
    have hcovered : p.overlap ≤ j + pageSizeScan * chunksBefore m start size (k + 1) := by omega
    have haddr : pageSizeScan * k + i = pageSizeScan * (k + 1) + j - p.overlap := by omega
    rw [hi, Buf.write_inside _ _ hlt, chunk_eq_some hpage, window_of_covered _ _ _ _ hcovered, haddr]

/-! ### The rounds -/

theorem searchWindow_zero (buf : Buf) : searchWindow buf p 0 0 = if matchAt buf 0 p then some 0 else none := by
  unfold searchWindow
  cases h : matchAt buf 0 p <;> simp [List.range'_one, h]

theorem searchWindow_empty (buf : Buf) {searchStart : Nat} (h : 0 < searchStart) :
    searchWindow buf p searchStart 0 = none := by
  have hnone : 0 + 1 - searchStart = 0 := by omega
  rw [searchWindow, hnone]
  rfl

/-- The one window that a round searches is a match exactly when the chunk is hit. -/
theorem searchWindow_hit (h : Before m start size p k s) (hp : p.patLen ≠ 0) (hk : pageSizeScan * k < size) {page : Buf}
    (hpage : chunk m start size k = some page) (hpos : 0 < chunkLen size k) :
    searchWindow ((PatternScan.shifted p s).write p.overlap (chunkLen size k) page) p
      (if s.first then p.overlap else 0) 0 = if Hit m start size p k then some 0 else none := by
  have hlast : p.overlap + 1 = p.patLen := by unfold Pattern.overlap; omega
  have hread : ChunkRead m start size k = true := by rw [ChunkRead, hpage]; rfl
  have hmatch : matchAt ((PatternScan.shifted p s).write p.overlap (chunkLen size k) page) 0 p =
      matchAt (window m start size p k) 0 p :=
    matchAt_congr p fun i hi => h.window hk hpage hpos (by omega)
  have hhit : Hit m start size p k =
      ((!s.first || p.overlap = 0) && matchAt (window m start size p k) 0 p) := by
    rw [Hit, hread, h.first, Bool.true_and]
    cases chunksBefore m start size k <;> simp
  rw [hhit]
  by_cases hzone : s.first = true ∧ 0 < p.overlap
  · rw [if_pos hzone.1, searchWindow_empty _ hzone.2]
    simp [hzone.1, Nat.ne_of_gt hzone.2]
  · have hstart : (if s.first then p.overlap else 0) = 0 := by
      split
      · exact Nat.eq_zero_of_not_pos fun hpos => hzone ⟨‹_›, hpos⟩
      · rfl
    have htested : (!s.first || decide (p.overlap = 0)) = true := by
      cases hfirst : s.first with
      | false => rfl
      | true => simpa [hfirst] using hstart
    rw [hstart, searchWindow_zero, hmatch, htested, Bool.true_and]

/-- One round either returns the address of the hit or goes on to the next chunk. -/
theorem run_patScanRound (h : Before m start size p k s) (hp : p.patLen ≠ 0) (hk : pageSizeScan * k < size) :
    (Hit m start size p k = true →
      (patScanRound start size p s).run m.host = .inl (hitAddress start p k)) ∧
    (Hit m start size p k = false →
      ∃ s', (patScanRound start size p s).run m.host = .inr s' ∧ Before m start size p (k + 1) s') := by
  have hoffset : s.offset = pageSizeScan * k := by rw [h.offset]; omega
  have hlen : (if size - s.offset < pageSizeScan then size - s.offset else pageSizeScan) = chunkLen size k := by
    rw [hoffset, chunkLen, Nat.min_def]
    split <;> split <;> omega
  have hlast : p.overlap + 1 = p.patLen := by unfold Pattern.overlap; omega
  have hnext : s.offset + chunkLen size k = min (pageSizeScan * (k + 1)) size := by
    rw [hoffset, chunkLen, Nat.mul_succ]
    omega
  have hpos : 0 < chunkLen size k := by
    have hpage : 0 < pageSizeScan := by decide
    unfold chunkLen
    omega
  have hread : (rmRead (start + .ofNat s.offset) (chunkLen size k)).run m.host = chunk m start size k := by
    rw [Memory.run_rmRead, hoffset, chunk]
  simp only [patScanRound, Prog.run_bind, hlen, hread]
  cases hpage : chunk m start size k with
  | none =>
    -- A chunk that is not read leaves zeros, and the chunks read in a row are counted anew.
    have hnot : ChunkRead m start size k = false := by rw [ChunkRead, hpage]; rfl
    have hback : chunksBefore m start size (k + 1) = 0 := by rw [chunksBefore, hnot]; rfl
    refine ⟨fun hhit => by simp [Hit, hnot] at hhit, fun _ => ⟨_, rfl, hnext, ?_, ?_, ?_⟩⟩
    · rw [hback]
      rfl
    · intro _ j hj
      have hzero := Buf.write_inside (PatternScan.shifted p s) zeroBuf (k := 0) hj
      rw [Nat.zero_add] at hzero
      exact hzero
    · exact fun hne => absurd hback hne
  | some page =>
    have hread : ChunkRead m start size k = true := by rw [ChunkRead, hpage]; rfl
    have hsearch := searchWindow_hit h hp hk hpage hpos
    have hbuf : (if (!s.first) = true ∧ 0 < p.overlap then
        s.buf.write 0 p.overlap fun i => s.buf (pageSizeScan + i) else s.buf) = PatternScan.shifted p s := rfl
    -- The `bool` of the read counts as one byte, so the window searched ends at the first byte of the chunk.
    simp only [Option.isSome_some, Bool.toNat_true, Nat.one_ne_zero, if_false, hlast, Nat.lt_irrefl, Nat.sub_self,
      Option.elim_some, hbuf, hsearch]
    refine ⟨fun hyes => ?_, fun hno => ?_⟩
    · simp [hyes, hitAddress, hoffset]
    · simp only [hno, Bool.false_eq_true, if_false]
      refine ⟨_, rfl, hnext, ?_, ?_, ?_⟩
      · simp [chunksBefore, hread]
      · exact fun hzero => absurd hzero (by simp [chunksBefore, hread])
      · exact fun _ hlt j hj => h.next hlt hpage hj

theorem lt_chunks {k : Nat} : k < chunks size ↔ pageSizeScan * k < size := by
  unfold chunks pageSizeScan
  omega

theorem run_patScanLoop (hp : p.patLen ≠ 0) {fuel k : Nat} {s : ScanState} (h : Before m start size p k s)
    (hfuel : chunks size ≤ k + fuel) :
    (patScanLoop start size p fuel s).run m.host =
      ((List.range' k (chunks size - k)).find? (Hit m start size p)).elim 0 (hitAddress start p) := by
  induction fuel generalizing k s with
  | zero =>
    have hnone : chunks size - k = 0 := by omega
    rw [hnone]
    rfl
  | succ fuel ih =>
    rw [patScanLoop, Prog.run_ite]
    by_cases hk : pageSizeScan * k < size
    · obtain ⟨hyes, hno⟩ := run_patScanRound h hp hk
      have hsome : chunks size - k = (chunks size - (k + 1)) + 1 := by
        have := lt_chunks.mpr hk
        omega
      rw [if_pos (by rw [h.offset]; omega), Prog.run_bind, hsome, List.range'_succ]
      cases hhit : Hit m start size p k with
      | true =>
        rw [hyes hhit, List.find?_cons_of_pos hhit]
        rfl
      | false =>
        obtain ⟨s', hs', hbefore⟩ := hno hhit
        rw [hs', List.find?_cons_of_neg (by simp [hhit])]
        exact ih hbefore (by omega)
    · have hnone : chunks size - k = 0 := by
        have := mt lt_chunks.mp hk
        omega
      rw [if_neg (by rw [h.offset]; omega), hnone]
      rfl

end Rounds

/-- The scan returns the address of the first hit. -/
theorem run_patScan (m : Memory) (start size : UInt64) {p : Pattern} (hp : p.patLen ≠ 0) :
    (patScan start size p).run m.host =
      ((List.range (chunks (scanSize size))).find? (Hit m start (scanSize size) p)).elim 0 (hitAddress start p) := by
  have hfuel : chunks (scanSize size) ≤ 0 + (scanSize size / pageSizeScan + 1) := by
    unfold chunks pageSizeScan
    omega
  rw [patScan, if_neg hp, run_patScanLoop hp before_zero hfuel, Nat.sub_zero, List.range_eq_range']

/-- Chunk `k` is the first at which the scan finds the pattern. -/
structure FirstHit (m : Memory) (start : UInt64) (size : Nat) (p : Pattern) (k : Nat) : Prop where
  nonempty : p.patLen ≠ 0
  inside : pageSizeScan * k < size
  hit : Hit m start size p k = true
  first : ∀ j < k, Hit m start size p j = false

section Result
variable {m : Memory} {start size : UInt64} {p : Pattern}

theorem FirstHit.patLen_eq {size k : Nat} (h : FirstHit m start size p k) : p.patLen = p.overlap + 1 := by
  have := h.nonempty
  unfold Pattern.overlap
  omega

theorem find_eq_some {k : Nat} (hp : p.patLen ≠ 0) :
    (List.range (chunks (scanSize size))).find? (Hit m start (scanSize size) p) = some k ↔
      FirstHit m start (scanSize size) p k := by
  rw [List.find?_range_eq_some]
  constructor
  · rintro ⟨hhit, hmem, hfirst⟩
    exact ⟨hp, lt_chunks.mp (List.mem_range.mp hmem), hhit, fun j hj => by simpa using hfirst j hj⟩
  · rintro ⟨-, hinside, hhit, hfirst⟩
    exact ⟨hhit, List.mem_range.mpr (lt_chunks.mpr hinside), fun j hj => by simp [hfirst j hj]⟩

theorem run_patScan_of_hit {k : Nat} (h : FirstHit m start (scanSize size) p k) :
    (patScan start size p).run m.host = hitAddress start p k := by
  rw [run_patScan m start size h.nonempty, (find_eq_some h.nonempty).mpr h]
  rfl

/-- A result other than 0 is the address of the first hit. -/
theorem firstHit_of_run (h : (patScan start size p).run m.host ≠ 0) :
    ∃ k, FirstHit m start (scanSize size) p k ∧ (patScan start size p).run m.host = hitAddress start p k := by
  have hp : p.patLen ≠ 0 := by
    rintro hp
    exact h (by rw [patScan, if_pos hp]; rfl)
  cases hfind : (List.range (chunks (scanSize size))).find? (Hit m start (scanSize size) p) with
  | none => exact absurd (by rw [run_patScan m start size hp, hfind]; rfl) h
  | some k => exact ⟨k, (find_eq_some hp).mp hfind, by rw [run_patScan m start size hp, hfind]; rfl⟩

end Result

/-! ### No phantom matches -/

section Chunks
variable {m : Memory} {start : UInt64} {size : Nat}

theorem chunkRead_of_chunksBefore {k j : Nat} (hj : j < k) (h : k ≤ j + chunksBefore m start size k) :
    ChunkRead m start size j = true := by
  induction k with
  | zero => exact absurd hj (Nat.not_lt_zero j)
  | succ k ih =>
    by_cases hread : ChunkRead m start size k = true
    · rw [chunksBefore, if_pos hread] at h
      rcases Nat.lt_or_eq_of_le (Nat.le_of_lt_succ hj) with hlt | rfl
      · exact ih hlt (by omega)
      · exact hread
    · rw [chunksBefore, if_neg hread] at h
      omega

/-- The chunk before those that are read in a row is not read. -/
theorem chunkRead_of_maximal {k j : Nat} (h : k = j + 1 + chunksBefore m start size k) :
    ChunkRead m start size j = false := by
  induction k with
  | zero => omega
  | succ k ih =>
    by_cases hread : ChunkRead m start size k = true
    · rw [chunksBefore, if_pos hread] at h
      exact ih (by omega)
    · rw [chunksBefore, if_neg hread] at h
      obtain rfl : j = k := by omega
      exact Bool.eq_false_iff.mpr hread

theorem readable_of_chunkRead {k x : Nat} (h : ChunkRead m start size k = true) (hle : pageSizeScan * k ≤ x)
    (hlt : x < pageSizeScan * (k + 1)) (hsize : x < size) : (m (start + .ofNat x)).isSome := by
  obtain ⟨page, hpage⟩ := Option.isSome_iff_exists.mp h
  unfold chunk Memory.bytes at hpage
  split at hpage
  · cases hpage
  · obtain ⟨⟨-, hall⟩, -⟩ := (m.read_eq_some _ _).mp hpage
    have hsucc : pageSizeScan * (k + 1) = pageSizeScan * k + pageSizeScan := Nat.mul_succ _ _
    have hbyte := hall (x - pageSizeScan * k) (by unfold chunkLen; omega)
    rwa [UInt64.add_assoc, ← UInt64.ofNat_add, Nat.add_sub_cancel' hle] at hbyte

end Chunks

section Readable
variable {m : Memory} {start size : UInt64}
  (hend : start.toNat + size.toNat < 2 ^ 64) (hread : ∀ i < size.toNat, (m (start + .ofNat i)).isSome)
include hend hread

theorem chunkRead_of_readable {k : Nat} (hk : pageSizeScan * k < size.toNat) :
    ChunkRead m start size.toNat k = true := by
  have hlen : chunkLen size.toNat k ≠ 0 := by
    have hpage : 0 < pageSizeScan := by decide
    unfold chunkLen
    omega
  have hstart : (start + .ofNat (pageSizeScan * k)).toNat = start.toNat + pageSizeScan * k := toNat_add_ofNat (by omega)
  rw [ChunkRead, chunk, Memory.bytes, if_neg hlen, Option.isSome_iff_exists]
  refine ⟨_, (m.read_eq_some _ _).mpr ⟨⟨?_, fun i hi => ?_⟩, rfl⟩⟩
  · rw [hstart]
    unfold chunkLen
    omega
  · rw [UInt64.add_assoc, ← UInt64.ofNat_add]
    exact hread _ (by unfold chunkLen at hi; omega)

theorem chunksBefore_of_readable {k : Nat} (hk : pageSizeScan * k < size.toNat) :
    chunksBefore m start size.toNat k = k := by
  induction k with
  | zero => rfl
  | succ k ih =>
    have hlt : pageSizeScan * k < size.toNat := by
      rw [Nat.mul_succ] at hk
      omega
    rw [chunksBefore, if_pos (chunkRead_of_readable hend hread hlt), ih hlt]

end Readable

section Address
variable {start : UInt64} {p : Pattern} {k : Nat}

theorem toNat_hitAddress : (hitAddress start p k).toNat =
    (2 ^ 64 - p.overlap % 2 ^ 64 + (start.toNat + pageSizeScan * k) % 2 ^ 64) % 2 ^ 64 := by
  rw [hitAddress, UInt64.toNat_sub, UInt64.toNat_add, UInt64.toNat_ofNat', UInt64.toNat_ofNat',
    Nat.add_mod_mod start.toNat]

theorem hitAddress_eq (hle : p.overlap ≤ pageSizeScan * k) :
    hitAddress start p k = start + .ofNat (pageSizeScan * k - p.overlap) := by
  obtain ⟨d, hd⟩ := Nat.exists_eq_add_of_le' hle
  rw [hitAddress, hd, UInt64.ofNat_add, ← UInt64.add_assoc, UInt64.add_sub_cancel, Nat.add_sub_cancel]

theorem toNat_hitAddress_eq (hle : p.overlap ≤ pageSizeScan * k)
    (hlt : start.toNat + pageSizeScan * k < 2 ^ 64 + p.overlap) :
    (hitAddress start p k).toNat = start.toNat + (pageSizeScan * k - p.overlap) := by
  have hstart := start.toNat_lt
  rw [hitAddress_eq hle, UInt64.toNat_add, UInt64.toNat_ofNat', Nat.add_mod_mod]
  exact Nat.mod_eq_of_lt (by omega)

theorem inside_of_hitAddress {size : Nat} (hsize : size < 2 ^ 64) (hk : pageSizeScan * k < size)
    (hle : start.toNat ≤ (hitAddress start p k).toNat)
    (hend : (hitAddress start p k).toNat + (p.overlap + 1) ≤ start.toNat + size) :
    p.overlap ≤ pageSizeScan * k ∧ start.toNat + pageSizeScan * k < 2 ^ 64 + p.overlap := by
  have hstart := start.toNat_lt
  rw [toNat_hitAddress] at hle hend
  omega

end Address

/-- `a` is an address in the region at which the pattern stands in memory, in chunks that are read. -/
structure Genuine (m : Memory) (start size : UInt64) (p : Pattern) (a : UInt64) : Prop where
  start_le : start.toNat ≤ a.toNat
  le_end : a.toNat + p.patLen ≤ start.toNat + size.toNat
  read : ∀ i < p.patLen, ChunkRead m start (scanSize size) ((a.toNat + i - start.toNat) / pageSizeScan) = true
  agrees : ∀ i < p.patLen, p.mask i = 0 ∨ m (a + .ofNat i) = some (p.pattern i)

theorem scanSize_le (size : UInt64) : scanSize size ≤ size.toNat := by
  unfold scanSize
  split <;> omega

section Phantoms
variable {m : Memory} {start size : UInt64} {p : Pattern} {k : Nat}

theorem matchAt_iff {b : Buf} : matchAt b 0 p = true ↔ ∀ i < p.patLen, p.mask i = 0 ∨ b i = p.pattern i := by
  simp [matchAt]

/-- Every byte of a window that the chunks before cover lies in a chunk that is read. -/
theorem chunkRead_of_covered {size : Nat} (hread : ChunkRead m start size k = true)
    (hback : p.overlap ≤ pageSizeScan * chunksBefore m start size k) {i : Nat} (hi : i ≤ p.overlap) :
    ChunkRead m start size ((pageSizeScan * k - p.overlap + i) / pageSizeScan) = true := by
  have hle := chunksBefore_le m start size k
  unfold pageSizeScan at *
  rcases Nat.lt_or_ge ((4096 * k - p.overlap + i) / 4096) k with hlt | hge
  · exact chunkRead_of_chunksBefore hlt (by omega)
  · obtain hsame : (4096 * k - p.overlap + i) / 4096 = k := by omega
    rwa [hsame]

theorem genuine_of_covered (h : FirstHit m start (scanSize size) p k)
    (hback : p.overlap ≤ pageSizeScan * chunksBefore m start (scanSize size) k)
    (hwrap : start.toNat + pageSizeScan * k < 2 ^ 64 + p.overlap) :
    Genuine m start size p (hitAddress start p k) := by
  have hle : p.overlap ≤ pageSizeScan * k :=
    hback.trans (Nat.mul_le_mul_left _ (chunksBefore_le m start (scanSize size) k))
  have haddr := toNat_hitAddress_eq hle hwrap
  have hlen := h.patLen_eq
  have hhit := h.hit
  simp only [Hit, Bool.and_eq_true, matchAt_iff] at hhit
  have hread : ∀ i < p.patLen, ChunkRead m start (scanSize size)
      ((pageSizeScan * k - p.overlap + i) / pageSizeScan) = true := fun i hi =>
    chunkRead_of_covered hhit.1.1 hback (by omega)
  have hinside := h.inside
  have hscan := scanSize_le size
  refine ⟨by omega, by omega, fun i hi => ?_, fun i hi => ?_⟩
  · rw [haddr, Nat.add_assoc, Nat.add_sub_cancel_left]
    exact hread i hi
  · refine (hhit.2 i hi).imp id fun hbyte => ?_
    have hsome := readable_of_chunkRead (hread i hi) (Nat.mul_div_le _ _)
      (Nat.lt_mul_div_succ _ (by decide)) (by omega)
    obtain ⟨b, hb⟩ := Option.isSome_iff_exists.mp hsome
    have hoff : pageSizeScan * k + i - p.overlap = pageSizeScan * k - p.overlap + i := by omega
    rw [window_of_covered _ _ _ _ (by omega), hoff, hb] at hbyte
    rw [hitAddress_eq hle, UInt64.add_assoc, ← UInt64.ofNat_add, hb, ← hbyte]
    rfl

/-- A genuine match that is the first hit is covered by the chunks read before it. -/
theorem covered_of_genuine (h : FirstHit m start (scanSize size) p k)
    (hg : Genuine m start size p (hitAddress start p k)) :
    p.overlap ≤ pageSizeScan * chunksBefore m start (scanSize size) k ∧
      start.toNat + pageSizeScan * k < 2 ^ 64 + p.overlap := by
  have hlen := h.patLen_eq
  have hscan := scanSize_le size
  obtain ⟨hle, hwrap⟩ := inside_of_hitAddress (p := p) size.toNat_lt (Nat.lt_of_lt_of_le h.inside hscan)
    hg.start_le (by rw [← hlen]; exact hg.le_end)
  refine ⟨Nat.not_lt.mp fun hlt => ?_, hwrap⟩
  have hback := chunksBefore_le m start (scanSize size) k
  have haddr := toNat_hitAddress_eq hle hwrap
  -- the byte right before the chunks read in a row lies in a chunk that is not read
  have hbyte := hg.read (p.overlap - pageSizeScan * chunksBefore m start (scanSize size) k - 1) (by omega)
  have hchunk : ((hitAddress start p k).toNat +
      (p.overlap - pageSizeScan * chunksBefore m start (scanSize size) k - 1) - start.toNat) / pageSizeScan =
      k - chunksBefore m start (scanSize size) k - 1 := by
    rw [haddr]
    unfold pageSizeScan at *
    omega
  have hmaximal : ChunkRead m start (scanSize size) (k - chunksBefore m start (scanSize size) k - 1) = false :=
    chunkRead_of_maximal (k := k) (by unfold pageSizeScan at *; omega)
  rw [hchunk, hmaximal] at hbyte
  cases hbyte

/-- What the scan returns is a genuine match exactly when the chunks read in a row before the first hit hold the
    rest of its window. -/
theorem patScan_genuine_iff (m : Memory) (start size : UInt64) (p : Pattern) :
    ((patScan start size p).run m.host ≠ 0 → Genuine m start size p ((patScan start size p).run m.host)) ↔
      ∀ k, FirstHit m start (scanSize size) p k → hitAddress start p k ≠ 0 →
        p.overlap ≤ pageSizeScan * chunksBefore m start (scanSize size) k ∧
          start.toNat + pageSizeScan * k < 2 ^ 64 + p.overlap := by
  constructor
  · intro h k hk haddr
    rw [run_patScan_of_hit hk] at h
    exact covered_of_genuine hk (h haddr)
  · intro h hrun
    obtain ⟨k, hk, hrun'⟩ := firstHit_of_run hrun
    rw [hrun'] at hrun ⊢
    obtain ⟨hback, hwrap⟩ := h k hk hrun
    exact genuine_of_covered hk hback hwrap

end Phantoms

/-- In zeroed memory a pattern of 4098 zeros is found at chunk 1, one byte before the region. -/
theorem phantom_before_region :
    ¬∀ (m : Memory) (start size : UInt64) (p : Pattern), (patScan start size p).run m.host ≠ 0 →
      Genuine m start size p ((patScan start size p).run m.host) := by
  intro h
  let m : Memory := fun _ => some 0
  let p : Pattern := ⟨zeroBuf, fun _ => 0xFF, 4098⟩
  have hread : ChunkRead m 0x10000 8192 0 = true ∧ ChunkRead m 0x10000 8192 1 = true :=
    have hend : (0x10000 : UInt64).toNat + (8192 : UInt64).toNat < 2 ^ 64 := by decide
    ⟨chunkRead_of_readable hend (fun _ _ => rfl) (by decide), chunkRead_of_readable hend (fun _ _ => rfl) (by decide)⟩
  have hzero : ∀ i, window m 0x10000 8192 p 1 i = 0 := by
    intro i
    unfold window
    split <;> rfl
  have hhit : FirstHit m 0x10000 (scanSize 8192) p 1 := by
    refine ⟨by decide, by decide, ?_, fun j hj => ?_⟩
    · have hbefore : chunksBefore m 0x10000 8192 1 = 1 := if_pos hread.1
      show Hit m 0x10000 8192 p 1 = true
      rw [Hit, hread.2, hbefore, matchAt_iff.mpr fun i _ => Or.inr (hzero i)]
      rfl
    · obtain rfl : j = 0 := by omega
      show Hit m 0x10000 8192 p 0 = false
      rw [Hit, hread.1]
      rfl
  have hg := h m 0x10000 8192 p
  rw [run_patScan_of_hit hhit] at hg
  have hle := (hg (by decide)).start_le
  exact absurd hle (by decide)

/-- A pattern that one chunk and a byte can hold is never found where it does not stand. -/
theorem patScan_genuine_of_short {m : Memory} {start size : UInt64} {p : Pattern} (hp : p.overlap ≤ pageSizeScan)
    (hend : start.toNat + size.toNat ≤ 2 ^ 64) (hrun : (patScan start size p).run m.host ≠ 0) :
    Genuine m start size p ((patScan start size p).run m.host) := by
  obtain ⟨k, hk, hrun'⟩ := firstHit_of_run hrun
  have hinside := hk.inside
  have hscan := scanSize_le size
  have hhit := hk.hit
  simp only [Hit, Bool.and_eq_true, Bool.or_eq_true, decide_eq_true_eq] at hhit
  rw [hrun']
  refine genuine_of_covered hk ?_ (by omega)
  rcases hhit.1.2 with hbefore | hzero
  · exact hp.trans (Nat.le_mul_of_pos_right _ hbefore)
  · rw [hzero]
    exact Nat.zero_le _

/-! ### The first match -/

/-- The pattern stands at `a`, inside the region. -/
structure Matches (m : Memory) (start size : UInt64) (p : Pattern) (a : UInt64) : Prop where
  start_le : start.toNat ≤ a.toNat
  le_end : a.toNat + p.patLen ≤ start.toNat + size.toNat
  agrees : ∀ i < p.patLen, p.mask i = 0 ∨ m (a + .ofNat i) = some (p.pattern i)

def IsFirst (m : Memory) (start size : UInt64) (p : Pattern) (a : UInt64) : Prop :=
  Matches m start size p a ∧ ∀ b, Matches m start size p b → a ≤ b

/-- The window that ends with the first byte of chunk `k` matches, if what lies before the region counts as
    zeros. -/
def ZeroPadded (m : Memory) (start : UInt64) (p : Pattern) (k : Nat) : Prop :=
  ∀ i < p.patLen, p.mask i = 0 ∨
    if p.overlap ≤ pageSizeScan * k + i then m (start + .ofNat (pageSizeScan * k + i - p.overlap)) = some (p.pattern i)
    else p.pattern i = 0

section FirstMatch
variable {m : Memory} {start size : UInt64} {p : Pattern}

section Hits
variable (hend : start.toNat + size.toNat < 2 ^ 64) (hread : ∀ i < size.toNat, (m (start + .ofNat i)).isSome)
include hend hread

theorem hit_iff {k : Nat} (hk : pageSizeScan * k < size.toNat) :
    Hit m start size.toNat p k = true ↔ (0 < k ∨ p.overlap = 0) ∧ ZeroPadded m start p k := by
  have hbefore := chunksBefore_of_readable hend hread hk
  have hbyte : ∀ i < p.patLen, (window m start size.toNat p k i = p.pattern i ↔
      if p.overlap ≤ pageSizeScan * k + i then
        m (start + .ofNat (pageSizeScan * k + i - p.overlap)) = some (p.pattern i)
      else p.pattern i = 0) := by
    intro i hi
    have hlast : i ≤ p.overlap := by
      unfold Pattern.overlap
      omega
    rw [window, hbefore, Nat.add_comm i]
    split
    · obtain ⟨b, hb⟩ := Option.isSome_iff_exists.mp (hread (pageSizeScan * k + i - p.overlap) (by omega))
      simp [hb]
    · exact eq_comm
  rw [Hit, chunkRead_of_readable hend hread hk, hbefore, Bool.true_and, Bool.and_eq_true, Bool.or_eq_true,
    decide_eq_true_eq, decide_eq_true_eq, matchAt_iff, ZeroPadded]
  exact and_congr_right fun _ => forall₂_congr fun i hi => or_congr_right (hbyte i hi)

end Hits

/-- A window that lies in the region and matches is a match. -/
theorem matches_of_zeroPadded (hend : start.toNat + size.toNat < 2 ^ 64) (hp : p.patLen ≠ 0) {k : Nat}
    (hk : pageSizeScan * k < size.toNat) (hle : p.overlap ≤ pageSizeScan * k) (h : ZeroPadded m start p k) :
    Matches m start size p (hitAddress start p k) := by
  have haddr : (hitAddress start p k).toNat = _ := toNat_hitAddress_eq hle (by omega)
  have hlen : p.patLen = p.overlap + 1 := by
    unfold Pattern.overlap
    omega
  refine ⟨by omega, by omega, fun i hi => (h i hi).imp id fun hbyte => ?_⟩
  have hoff : pageSizeScan * k + i - p.overlap = pageSizeScan * k - p.overlap + i := by omega
  rw [if_pos (by omega), hoff] at hbyte
  rwa [hitAddress_eq hle, UInt64.add_assoc, ← UInt64.ofNat_add]

theorem zeroPadded_of_matches {a : UInt64} (h : Matches m start size p a) {k : Nat}
    (hk : a.toNat - start.toNat + p.overlap = pageSizeScan * k) :
    a = hitAddress start p k ∧ ZeroPadded m start p k := by
  have hle : p.overlap ≤ pageSizeScan * k := by omega
  have hstart := h.start_le
  have ha : a = start + .ofNat (pageSizeScan * k - p.overlap) := by
    have hlt := a.toNat_lt
    refine UInt64.toNat_inj.mp ?_
    rw [toNat_add_ofNat (by omega)]
    omega
  refine ⟨ha.trans (hitAddress_eq hle).symm, fun i hi => (h.agrees i hi).imp id fun hbyte => ?_⟩
  have hoff : pageSizeScan * k + i - p.overlap = pageSizeScan * k - p.overlap + i := by omega
  rw [if_pos (by omega), hoff]
  rwa [ha, UInt64.add_assoc, ← UInt64.ofNat_add] at hbyte

section Result
variable (hsize : size.toNat ≤ maxScanSize) (hend : start.toNat + size.toNat < 2 ^ 64)
  (hread : ∀ i < size.toNat, (m (start + .ofNat i)).isSome)
include hsize hend hread

/-- An earlier hit would be an earlier match, or reach back before the region. -/
theorem firstHit_of_aligned (hp : p.patLen ≠ 0) {a : UInt64} (ha : IsFirst m start size p a) {k : Nat}
    (hk : a.toNat - start.toNat + p.overlap = pageSizeScan * k)
    (hphantom : ∀ k > 0, pageSizeScan * k < p.overlap → ¬ZeroPadded m start p k) :
    FirstHit m start (scanSize size) p k ∧ a = hitAddress start p k := by
  have hscan : scanSize size = size.toNat := if_neg (Nat.not_lt.mpr hsize)
  have hstart := ha.1.start_le
  have hle := ha.1.le_end
  have hlen : p.patLen = p.overlap + 1 := by
    unfold Pattern.overlap
    omega
  obtain ⟨haddr, hzero⟩ := zeroPadded_of_matches ha.1 hk
  have hinside : pageSizeScan * k < size.toNat := by omega
  have hfull : 0 < k ∨ p.overlap = 0 := by
    rcases Nat.eq_zero_or_pos k with rfl | hpos
    · exact Or.inr (by omega)
    · exact Or.inl hpos
  rw [hscan]
  refine ⟨⟨hp, hinside, (hit_iff hend hread hinside).mpr ⟨hfull, hzero⟩, fun j hj => ?_⟩, haddr⟩
  have hjk := Nat.mul_lt_mul_of_pos_left hj (show 0 < pageSizeScan by decide)
  refine Bool.eq_false_iff.mpr fun hhit => ?_
  obtain ⟨hjfull, hjzero⟩ := (hit_iff hend hread (by omega)).mp hhit
  rcases Nat.lt_or_ge (pageSizeScan * j) p.overlap with hlt | hge
  · exact hphantom j (hjfull.resolve_right (by omega)) hlt hjzero
  · have hearlier := ha.2 _ (matches_of_zeroPadded hend hp (by omega) hge hjzero)
    have hjaddr : (hitAddress start p j).toNat = _ := toNat_hitAddress_eq hge (by omega)
    rw [UInt64.le_iff_toNat_le] at hearlier
    omega

/-- A first match that is the first hit ends with the first byte of its chunk. -/
theorem aligned_of_firstHit {k : Nat} (ha : IsFirst m start size p (hitAddress start p k))
    (hk : FirstHit m start (scanSize size) p k) :
    pageSizeScan ∣ (hitAddress start p k).toNat - start.toNat + p.overlap ∧
      ∀ k > 0, pageSizeScan * k < p.overlap → ¬ZeroPadded m start p k := by
  have hscan : scanSize size = size.toNat := if_neg (Nat.not_lt.mpr hsize)
  have hstart := ha.1.start_le
  have hle := ha.1.le_end
  rw [hk.patLen_eq] at hle
  rw [hscan] at hk
  have hinside := hk.inside
  obtain ⟨hover, hwrap⟩ := inside_of_hitAddress (p := p) size.toNat_lt hinside hstart hle
  have haddr := toNat_hitAddress_eq hover hwrap
  refine ⟨⟨k, by omega⟩, fun j hj hjover hzero => ?_⟩
  have hmiss := hk.first j (Nat.lt_of_mul_lt_mul_left (Nat.lt_of_lt_of_le hjover hover))
  rw [(hit_iff hend hread (by omega)).mpr ⟨Or.inl hj, hzero⟩] at hmiss
  cases hmiss

theorem no_hit_iff : (List.range (chunks (scanSize size))).find? (Hit m start (scanSize size) p) = none ↔
    ∀ k, pageSizeScan * k < size.toNat → 0 < k ∨ p.overlap = 0 → ¬ZeroPadded m start p k := by
  have hscan : scanSize size = size.toNat := if_neg (Nat.not_lt.mpr hsize)
  rw [hscan, List.find?_eq_none]
  constructor
  · intro h k hk hfull hzero
    exact h k (List.mem_range.mpr (lt_chunks.mpr hk)) ((hit_iff hend hread hk).mpr ⟨hfull, hzero⟩)
  · intro h k hk hhit
    have hinside := lt_chunks.mp (List.mem_range.mp hk)
    obtain ⟨hfull, hzero⟩ := (hit_iff hend hread hinside).mp hhit
    exact h k hinside hfull hzero

end Result

/-- In a readable region the scan returns the first match exactly when the last byte of this match is the first
    of a chunk, and no window that reaches back before the region matches earlier. (When the match is at address
    0, the answer is right also when the scan has found nothing.) -/
theorem patScan_first_iff (hsize : size.toNat ≤ maxScanSize) (hend : start.toNat + size.toNat < 2 ^ 64)
    (hread : ∀ i < size.toNat, (m (start + .ofNat i)).isSome) (hp : p.patLen ≠ 0) :
    (∀ a, IsFirst m start size p a → (patScan start size p).run m.host = a) ↔
      ∀ a, IsFirst m start size p a →
        (pageSizeScan ∣ a.toNat - start.toNat + p.overlap ∧
          ∀ k > 0, pageSizeScan * k < p.overlap → ¬ZeroPadded m start p k) ∨
        (a = 0 ∧ ∀ k, pageSizeScan * k < size.toNat → 0 < k ∨ p.overlap = 0 → ¬ZeroPadded m start p k) := by
  refine forall₂_congr fun a ha => ?_
  constructor
  · intro hrun
    cases hfind : (List.range (chunks (scanSize size))).find? (Hit m start (scanSize size) p) with
    | none =>
      rw [run_patScan m start size hp, hfind] at hrun
      exact Or.inr ⟨hrun.symm, (no_hit_iff hsize hend hread).mp hfind⟩
    | some k =>
      have hk := (find_eq_some hp).mp hfind
      rw [run_patScan_of_hit hk] at hrun
      subst hrun
      exact Or.inl (aligned_of_firstHit hsize hend hread ha hk)
  · rintro (⟨⟨k, hk⟩, hphantom⟩ | ⟨rfl, hmiss⟩)
    · obtain ⟨hfirst, haddr⟩ := firstHit_of_aligned hsize hend hread hp ha hk hphantom
      rw [haddr]
      exact run_patScan_of_hit hfirst
    · rw [run_patScan m start size hp, (no_hit_iff hsize hend hread).mpr hmiss]
      rfl

end FirstMatch

/-- The pattern `AB` stands at the second byte of the region. -/
def secondByte : Memory := .ofSegments [(0x10000, [0x00, 0xAB])]
def oneByte : Pattern := ⟨fun _ => 0xAB, fun _ => 0xFF, 1⟩

theorem secondByte_readable : ∀ i < (2 : UInt64).toNat, (secondByte (0x10000 + .ofNat i)).isSome := by decide +kernel

theorem patScan_first_iff_second :
    (∀ a, IsFirst secondByte 0x10000 2 oneByte a → (patScan 0x10000 2 oneByte).run secondByte.host = a) ↔
      ∀ a, IsFirst secondByte 0x10000 2 oneByte a →
        (pageSizeScan ∣ a.toNat - (0x10000 : UInt64).toNat + oneByte.overlap ∧
          ∀ k > 0, pageSizeScan * k < oneByte.overlap → ¬ZeroPadded secondByte 0x10000 oneByte k) ∨
        (a = 0 ∧ ∀ k, pageSizeScan * k < (2 : UInt64).toNat → 0 < k ∨ oneByte.overlap = 0 →
          ¬ZeroPadded secondByte 0x10000 oneByte k) :=
  patScan_first_iff (by decide) (by decide) secondByte_readable (by decide)

/-- The scan does not find it. -/
theorem second_byte_missed :
    ¬∀ (m : Memory) (start size : UInt64) (p : Pattern), size.toNat ≤ maxScanSize →
      start.toNat + size.toNat < 2 ^ 64 → (∀ i < size.toNat, (m (start + .ofNat i)).isSome) → p.patLen ≠ 0 →
      ∀ a, IsFirst m start size p a → (patScan start size p).run m.host = a := by
  intro h
  have hfirst : IsFirst secondByte 0x10000 2 oneByte 0x10001 := by
    refine ⟨⟨by decide, by decide, fun i hi => Or.inr ?_⟩, fun b hb => ?_⟩
    · obtain rfl : i = 0 := Nat.lt_one_iff.mp hi
      rfl
    · by_cases hb0 : b = 0x10000
      · subst hb0
        exact absurd (hb.agrees 0 (by decide)) (by decide)
      · have hle := hb.start_le
        have hne : b.toNat ≠ (0x10000 : UInt64).toNat := fun heq => hb0 (UInt64.toNat_inj.mp heq)
        exact UInt64.le_iff_toNat_le.mpr (Nat.lt_of_le_of_ne hle hne.symm)
  have hrun := h secondByte 0x10000 2 oneByte (by decide) (by decide) secondByte_readable (by decide) _ hfirst
  exact absurd hrun (by decide +kernel)

end PatternScan
end RadarAim
