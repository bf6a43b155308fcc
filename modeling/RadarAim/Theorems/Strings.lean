import RadarAim.Theorems.NameTable

/-! Strings of the process (`rm_read_string`). The reader fetches 64 bytes at a time, past the terminator, and takes a
    chunk that it cannot read in full for the end of the string. -/

namespace RadarAim
namespace Strings
open NameTable

/-- The string `s` and its NUL are in the memory from `a` on. -/
structure StringAt (m : Memory) (a : UInt64) (s : Str) : Prop where
  fits : a.toNat + s.length < 2 ^ 64
  nonzero : ∀ c ∈ s, c ≠ 0
  bytes : ∀ i ≤ s.length, m (a + .ofNat i) = some (s.getD i 0)

/-- Where the last chunk that is fetched for a string of `n` bytes begins. -/
def lastChunk (n : Nat) : Nat := n / 64 * 64

/-- How far the reader fetches for a string of `n` bytes. -/
def fetched (n max : Nat) : Nat := min (lastChunk n + 64) (max - 1)

/-- Readability is that of the pages of `size` bytes. -/
def PageGranular (size : Nat) (m : Memory) : Prop :=
  ∀ a b : UInt64, a.toNat / size = b.toNat / size → (m a).isSome = (m b).isSome

section Read
variable {m : Memory} {a : UInt64} {s : Str}

theorem StringAt.readable (h : StringAt m a s) {i : Nat} (hi : i ≤ s.length) : (m (a + .ofNat i)).isSome = true := by
  rw [h.bytes i hi]
  rfl

theorem StringAt.base (h : StringAt m a s) {i : Nat} (hi : i ≤ s.length) : (a + .ofNat i).toNat = a.toNat + i := by
  have := h.fits
  exact toNat_add_ofNat (by omega)

theorem add_ofNat_add (a : UInt64) (i j : Nat) : a + .ofNat i + .ofNat j = a + .ofNat (i + j) := by
  rw [UInt64.ofNat_add, UInt64.add_assoc]

/-- What a read of `n` bytes at offset `k` of the string returns, if it returns anything. -/
theorem StringAt.byte (h : StringAt m a s) {k n : Nat} {b : Buf} (hb : m.read (a + .ofNat k) n = some b) {i : Nat}
    (hi : k + i ≤ s.length) : b i = s.getD (k + i) 0 := by
  obtain ⟨-, rfl⟩ := (m.read_eq_some _ n).mp hb
  show (m _).getD 0 = _
  rw [add_ofNat_add, h.bytes _ hi]
  rfl

theorem StringAt.text (h : StringAt m a s) {k n : Nat} {b : Buf} (hb : m.read (a + .ofNat k) n = some b)
    (hn : k + n ≤ s.length) : b.bytes n = (s.drop k).take n := by
  refine List.ext_getElem ?_ fun i hi hi' => ?_
  · rw [b.length_bytes, List.length_take, List.length_drop]
    omega
  · rw [b.length_bytes] at hi
    have hbyte := h.byte hb (i := i) (by omega)
    have hget : k + i < s.length := by omega
    simp [Buf.bytes, hbyte, hget]

theorem StringAt.nonzero_part (h : StringAt m a s) (k n : Nat) : ∀ c ∈ (s.drop k).take n, c ≠ 0 := fun c hc =>
  h.nonzero c (List.mem_of_mem_drop (List.mem_of_mem_take hc))

/-- The last chunk can be read exactly when everything up to its end can. -/
theorem StringAt.read_last (h : StringAt m a s) {k n : Nat} (hk : k ≤ s.length) (hn : 0 < n) :
    (m.read (a + .ofNat k) n).isSome = (m.read a (k + n)).isSome := by
  rw [Bool.eq_iff_iff, Option.isSome_iff_exists, Option.isSome_iff_exists]
  constructor
  · rintro ⟨b, hb⟩
    obtain ⟨⟨hfit, hall⟩, -⟩ := (m.read_eq_some _ n).mp hb
    rw [h.base hk] at hfit
    refine ⟨_, (m.read_eq_some a (k + n)).mpr ⟨⟨by omega, fun i hi => ?_⟩, rfl⟩⟩
    rcases Nat.lt_or_ge i k with hlt | hge
    · exact h.readable (by omega)
    · obtain ⟨j, rfl⟩ := Nat.exists_eq_add_of_le hge
      have hj := hall j (by omega)
      rwa [add_ofNat_add] at hj
  · rintro ⟨b, hb⟩
    exact ⟨_, m.read_part a _ hb hn le_rfl⟩

/-- A chunk inside the string is appended to what has been read. -/
theorem StringAt.round (h : StringAt m a s) {k max fuel : Nat} (hk : k + 64 ≤ s.length) (hmax : s.length < max) :
    (rmReadStringLoop a max (fuel + 1) (s.take k)).run m.host =
      (rmReadStringLoop a max fuel (s.take (k + 64))).run m.host := by
  have hlen : (s.take k).length = k := List.length_take_of_le (by omega)
  have hlt : k < max - 1 := by omega
  have hsize : min 64 (max - 1 - k) = 64 := by omega
  obtain ⟨b, hb⟩ : ∃ b, m.read (a + .ofNat k) 64 = some b := by
    refine ⟨_, (m.read_eq_some _ 64).mpr ⟨⟨?_, fun i hi => ?_⟩, rfl⟩⟩
    · have := h.fits
      rw [h.base (by omega)]
      omega
    · rw [add_ofNat_add]
      exact h.readable (by omega)
  have htext := h.text hb hk
  have hfull : cstr (b.bytes 64) = (s.drop k).take 64 := by
    rw [htext]
    exact cstr_of_nonzero (h.nonzero_part k 64)
  have hcount : ((s.drop k).take 64).length = 64 := by
    rw [List.length_take, List.length_drop]
    omega
  rw [rmReadStringLoop, hlen, if_pos hlt]
  simp only [hsize, Prog.run_bind, Memory.run_rmRead, Memory.bytes, if_neg (by decide : ¬64 = 0), hb, hfull, hcount,
    if_neg (Nat.lt_irrefl 64)]
  rw [List.take_add]

/-- A chunk that reaches the end of the string holds the rest of it. -/
theorem StringAt.cstr_rest (h : StringAt m a s) {k n : Nat} {b : Buf} (hb : m.read (a + .ofNat k) n = some b)
    (hk : k ≤ s.length) (hn : s.length ≤ k + n) : cstr (b.bytes n) = s.drop k := by
  rcases Nat.lt_or_ge s.length (k + n) with hin | hfull
  · -- the terminator is in this chunk
    refine cstr_of_units (fun c hc => h.nonzero c (List.mem_of_mem_drop hc)) ?_ fun i hi => ?_
    · rw [List.length_drop]
      omega
    · rw [List.length_drop] at hi
      rw [h.byte hb (by omega)]
      simp
  · have hall : (s.drop k).take n = s.drop k := List.take_of_length_le (by rw [List.length_drop]; omega)
    rw [h.text hb hfull, hall]
    exact cstr_of_nonzero fun c hc => h.nonzero c (List.mem_of_mem_drop hc)

/-- The round that comes to the end of the string: the string is read whole, unless this chunk cannot be read. -/
theorem StringAt.lastRound (h : StringAt m a s) {max : Nat} (hmax : s.length < max) (fuel : Nat) :
    (rmReadStringLoop a max (fuel + 1) (s.take (lastChunk s.length))).run m.host =
      if (m.read a (fetched s.length max)).isSome then (true, s)
      else (lastChunk s.length != 0, s.take (lastChunk s.length)) := by
  have hlast : lastChunk s.length ≤ s.length := Nat.div_mul_le_self _ _
  have hnext : s.length < lastChunk s.length + 64 := Nat.lt_div_mul_add (by decide)
  unfold fetched
  generalize lastChunk s.length = k at hlast hnext ⊢
  have hlen : (s.take k).length = k := List.length_take_of_le hlast
  rw [rmReadStringLoop, hlen]
  by_cases hlt : k < max - 1
  · obtain ⟨n, hn⟩ : ∃ n, n = min 64 (max - 1 - k) := ⟨_, rfl⟩
    have hpos : 0 < n := by omega
    have hend : min (k + 64) (max - 1) = k + n := by omega
    have hreaches : s.length ≤ k + n := by omega
    rw [if_pos hlt, ← hn, hend, ← h.read_last hlast hpos]
    simp only [Prog.run_bind, Memory.run_rmRead, Memory.bytes, if_neg (Nat.ne_of_gt hpos)]
    cases hb : m.read (a + .ofNat k) n with
    | none => rfl
    | some b =>
      rw [Option.isSome_some, if_pos rfl]
      simp only [h.cstr_rest hb hlast hreaches, List.take_append_drop, List.length_drop]
      split
      · rfl
      · -- the string fills the buffer
        cases fuel with
        | zero => rfl
        | succ fuel => rw [rmReadStringLoop, if_neg (by omega), Prog.run_pure]
  · have hall : k = s.length := by omega
    have hend : min (k + 64) (max - 1) = s.length := by omega
    have hread : (m.read a s.length).isSome = true := by
      have := h.fits
      exact Option.isSome_iff_exists.mpr
        ⟨_, (m.read_eq_some a _).mpr ⟨⟨by omega, fun i hi => h.readable hi.le⟩, rfl⟩⟩
    rw [if_neg hlt, hend, hread, if_pos rfl, Prog.run_pure, hall, List.take_length]

/-- What the reader makes of a string: all of it, or the chunks before the one that it cannot read. -/
theorem run_rmReadString_of_string (h : StringAt m a s) {max : Nat} (hmax : s.length < max) :
    (rmReadString a max).run m.host =
      if (m.read a (fetched s.length max)).isSome then (true, s)
      else (lastChunk s.length != 0, s.take (lastChunk s.length)) := by
  have hrounds : ∀ left k fuel, k + left * 64 = lastChunk s.length → left < fuel →
      (rmReadStringLoop a max fuel (s.take k)).run m.host =
        if (m.read a (fetched s.length max)).isSome then (true, s)
        else (lastChunk s.length != 0, s.take (lastChunk s.length)) := by
    intro left
    induction left with
    | zero =>
      intro k fuel hk hfuel
      obtain ⟨fuel, rfl⟩ := Nat.exists_eq_succ_of_ne_zero (Nat.ne_of_gt hfuel)
      rw [Nat.zero_mul, Nat.add_zero] at hk
      rw [hk]
      exact h.lastRound hmax fuel
    | succ left ih =>
      intro k fuel hk hfuel
      obtain ⟨fuel, rfl⟩ := Nat.exists_eq_succ_of_ne_zero (Nat.ne_of_gt (Nat.zero_lt_of_lt hfuel))
      have hlast : lastChunk s.length ≤ s.length := Nat.div_mul_le_self _ _
      rw [h.round (by omega) hmax]
      exact ih (k + 64) fuel (by omega) (Nat.lt_of_succ_lt_succ hfuel)
  have hfuel : s.length / 64 < max := (Nat.div_le_self _ _).trans_lt hmax
  rw [rmReadString, if_neg (by omega)]
  exact hrounds (s.length / 64) 0 max (Nat.zero_add _) hfuel

end Read

/-- A string is read whole exactly when the last chunk that is fetched for it can be read to its end, or begins at
    the terminator and is not the first. -/
theorem rmReadString_whole_iff {m : Memory} {a : UInt64} {s : Str} (h : StringAt m a s) {max : Nat}
    (hmax : s.length < max) :
    (rmReadString a max).run m.host = (true, s) ↔
      (m.read a (fetched s.length max)).isSome ∨ (s.length % 64 = 0 ∧ s ≠ []) := by
  rw [run_rmReadString_of_string h hmax]
  have hlast : lastChunk s.length + s.length % 64 = s.length := by
    rw [lastChunk, Nat.mul_comm]
    exact Nat.div_add_mod _ _
  cases hread : (m.read a (fetched s.length max)).isSome with
  | true => simp
  | false =>
    simp only [Bool.false_eq_true, if_false, false_or, Prod.mk.injEq, bne_iff_ne, List.take_eq_self_iff]
    rw [← List.length_pos_iff]
    omega

/-- One page of 16 KiB, with the string `aaa` and its NUL in its last four bytes. -/
def lastPage : Memory := fun a =>
  if a.toNat / 0x4000 = 4 then some (if 0x13ffc ≤ a.toNat ∧ a.toNat < 0x13fff then 0x61 else 0) else none

theorem lastPage_string : StringAt lastPage 0x13ffc (lit "aaa") := by
  refine ⟨by decide, lit_nonzero (by decide), ?_⟩
  have hbytes : ∀ i < 4, lastPage (0x13ffc + .ofNat i) = some ((lit "aaa").getD i 0) := by decide +kernel
  exact fun i hi => hbytes i (Nat.lt_succ_of_le hi)

theorem rmReadString_whole_iff_lastPage : (rmReadString 0x13ffc 4).run lastPage.host = (true, lit "aaa") :=
  (rmReadString_whole_iff lastPage_string (by decide)).mpr (Or.inl (by decide +kernel))

/-- A string that ends at the end of its page is not found with a larger buffer. -/
theorem string_at_page_end : ¬∀ (m : Memory) (a : UInt64) (s : Str) (max : Nat), PageGranular 0x4000 m →
    StringAt m a s → s.length < max → (rmReadString a max).run m.host = (true, s) := by
  intro h
  have hpages : PageGranular 0x4000 lastPage := by
    intro a b hab
    unfold lastPage
    rw [hab]
    split <;> rfl
  have hwhole := h lastPage 0x13ffc (lit "aaa") 256 hpages lastPage_string (by decide)
  rw [run_rmReadString_of_string lastPage_string (by decide)] at hwhole
  revert hwhole
  decide +kernel

end Strings
end RadarAim
