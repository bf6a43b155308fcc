import Mathlib.Algebra.Group.Nat.Defs
import Mathlib.Data.List.TakeWhile
import Mathlib.Data.List.Infix

/-! Buffers of bytes, the little-endian numbers in them, and C strings. A C string is the list of its
    bytes before the terminating NUL; a buffer of `max` bytes holds at most `max - 1` of them. -/

namespace RadarAim

/-- What a read stores in its buffer: byte `i` of it. Bytes from the length of the read on mean nothing. -/
abbrev Buf := Nat → UInt8

/-- The little-endian number in the `n` bytes of `b` from `off` on. -/
def leNat (b : Buf) (off : Nat) : Nat → Nat
  | 0 => 0
  | n + 1 => (b off).toNat + 256 * leNat b (off + 1) n

def le64 (b : Buf) (off : Nat) : UInt64 := .ofNat (leNat b off 8)
def le32 (b : Buf) (off : Nat) : UInt32 := .ofNat (leNat b off 4)
def le16 (b : Buf) (off : Nat) : UInt16 := .ofNat (leNat b off 2)

def leI32 (b : Buf) (off : Nat) : Int := (BitVec.ofNat 32 (leNat b off 4)).toInt

/-- The `n` bytes of a little-endian number. -/
def leBytes (n value : Nat) : List UInt8 := (List.range n).map fun i => .ofNat (value / 256 ^ i)

@[simp] theorem length_leBytes (n value : Nat) : (leBytes n value).length = n := by simp [leBytes]

/-- An offset that does not take an address past the end of the address space. -/
theorem toNat_add_ofNat {a : UInt64} {i : Nat} (h : a.toNat + i < 2 ^ 64) : (a + .ofNat i).toNat = a.toNat + i := by
  have hi : i < 2 ^ 64 := Nat.lt_of_le_of_lt (Nat.le_add_left i a.toNat) h
  rw [UInt64.toNat_add, UInt64.toNat_ofNat', Nat.mod_eq_of_lt hi, Nat.mod_eq_of_lt h]

theorem leNat_congr {b c : Buf} {i j : Nat} (n : Nat) (h : ∀ k < n, b (i + k) = c (j + k)) :
    leNat b i n = leNat c j n := by
  induction n generalizing i j with
  | zero => rfl
  | succ n ih =>
    have head : b i = c j := h 0 (Nat.succ_pos n)
    have tail : leNat b (i + 1) n = leNat c (j + 1) n := ih fun k hk => by
      have := h (k + 1) (Nat.succ_lt_succ hk)
      rwa [← Nat.add_assoc, ← Nat.add_assoc, Nat.add_right_comm i, Nat.add_right_comm j] at this
    rw [leNat, leNat, head, tail]

theorem le64_congr {b c : Buf} {i j : Nat} (h : ∀ k < 8, b (i + k) = c (j + k)) : le64 b i = le64 c j :=
  congrArg UInt64.ofNat (leNat_congr 8 h)

theorem leNat_shift (b : Buf) (k i n : Nat) : leNat (fun j => b (k + j)) i n = leNat b (k + i) n :=
  leNat_congr n fun j _ => by rw [Nat.add_assoc]

theorem le32_shift (b : Buf) (k i : Nat) : le32 (fun j => b (k + j)) i = le32 b (k + i) :=
  congrArg UInt32.ofNat (leNat_shift b k i 4)

theorem le64_shift (b : Buf) (k i : Nat) : le64 (fun j => b (k + j)) i = le64 b (k + i) :=
  congrArg UInt64.ofNat (leNat_shift b k i 8)

/-- The number whose little-endian bytes are in the buffer. -/
theorem leNat_of_bytes {b : Buf} {off n value : Nat} (h : ∀ i < n, b (off + i) = .ofNat (value / 256 ^ i)) :
    leNat b off n = value % 256 ^ n := by
  induction n generalizing off value with
  | zero => simp [leNat, Nat.mod_one]
  | succ n ih =>
    have hhead : b off = .ofNat value := by
      have h0 := h 0 (Nat.succ_pos n)
      simpa using h0
    have htail : leNat b (off + 1) n = value / 256 % 256 ^ n := ih fun i hi => by
      have hnext := h (i + 1) (Nat.succ_lt_succ hi)
      rw [Nat.add_assoc, Nat.add_comm 1 i, hnext, Nat.pow_succ, Nat.mul_comm, Nat.div_div_eq_div_mul]
    have hpow : 256 ^ (n + 1) = 256 * 256 ^ n := by rw [Nat.pow_succ, Nat.mul_comm]
    rw [leNat, hhead, htail, UInt8.toNat_ofNat', hpow, Nat.mod_mul]

theorem leNat_lt (b : Buf) (off n : Nat) : leNat b off n < 256 ^ n := by
  induction n generalizing off with
  | zero => exact Nat.one_pos
  | succ n ih =>
    have hrest := ih (off + 1)
    have hlt := (b off).toNat_lt
    have hpow : 256 ^ (n + 1) = 256 * 256 ^ n := by rw [Nat.pow_succ, Nat.mul_comm]
    rw [leNat, hpow]
    omega

/-- Byte `k` of a little-endian number. -/
theorem ofNat_leNat (b : Buf) (off : Nat) {n k : Nat} (h : k < n) :
    UInt8.ofNat (leNat b off n / 256 ^ k) = b (off + k) := by
  induction n generalizing off k with
  | zero => exact absurd h (Nat.not_lt_zero k)
  | succ n ih =>
    have hlt := (b off).toNat_lt
    rw [leNat]
    cases k with
    | zero =>
      refine UInt8.toNat_inj.mp ?_
      rw [Nat.pow_zero, Nat.div_one, UInt8.toNat_ofNat', Nat.add_mul_mod_self_left, Nat.mod_eq_of_lt hlt, Nat.add_zero]
    | succ k =>
      have hrest : ((b off).toNat + 256 * leNat b (off + 1) n) / 256 = leNat b (off + 1) n := by omega
      rw [Nat.pow_succ', ← Nat.div_div_eq_div_mul, hrest, ih (off + 1) (Nat.lt_of_succ_lt_succ h), Nat.add_assoc,
        Nat.add_comm 1 k]

theorem getElem_leBytes {n value i : Nat} (h : i < (leBytes n value).length) :
    (leBytes n value)[i] = .ofNat (value / 256 ^ i) := by simp [leBytes]

/-- `memcpy` of `n` bytes of `src` to `b + off`, and `memmove` when `src` is the buffer itself. -/
def Buf.write (b : Buf) (off n : Nat) (src : Buf) : Buf := fun i => if off ≤ i ∧ i < off + n then src (i - off) else b i

theorem Buf.write_inside (b src : Buf) {k n i : Nat} (h : i < n) : b.write k n src (k + i) = src i := by
  rw [Buf.write, if_pos (by omega), Nat.add_sub_cancel_left]

theorem Buf.write_outside (b src : Buf) {off n i : Nat} (h : i < off ∨ off + n ≤ i) : b.write off n src i = b i :=
  if_neg (by omega)

/-! ### C strings -/

abbrev Str := List UInt8

/-- A string literal of the source. -/
def lit (s : String) : Str := s.toList.map fun c => UInt8.ofNat c.toNat

theorem lit_nonzero {s : String} (h : (lit s).all (· != 0) = true) : ∀ c ∈ lit s, c ≠ 0 := by
  simpa using h

/-- The string that a byte array holds: its bytes before the first NUL. -/
def cstr (l : List UInt8) : Str := l.takeWhile (· != 0)

def Buf.bytes (b : Buf) (n : Nat) : List UInt8 := (List.range n).map b

theorem Buf.length_bytes (b : Buf) (n : Nat) : (b.bytes n).length = n := by simp [Buf.bytes]

theorem Buf.bytes_add (b : Buf) (i j : Nat) : b.bytes (i + j) = b.bytes i ++ Buf.bytes (fun k => b (i + k)) j := by
  simp [Buf.bytes, List.range_add, Function.comp_def]

theorem Buf.take_bytes (b : Buf) {i n : Nat} (h : i ≤ n) : (b.bytes n).take i = b.bytes i := by
  obtain ⟨j, rfl⟩ := Nat.exists_eq_add_of_le h
  rw [Buf.bytes_add]
  exact List.take_left' (b.length_bytes i)

/-- What `snprintf(buf, max, "%s", s)` leaves in `buf`. -/
def snprintf (max : Nat) (s : Str) : Str := s.take (max - 1)

/-- `strncmp(s, t, n) == 0` -/
def strncmp (s t : List UInt8) (n : Nat) : Bool := (cstr s).take n == (cstr t).take n

theorem cstr_of_nonzero {s : List UInt8} (h : ∀ c ∈ s, c ≠ 0) : cstr s = s :=
  List.takeWhile_eq_self_iff.mpr fun c hc => bne_iff_ne.mpr (h c hc)

theorem cstr_append_of_nonzero {s : List UInt8} (h : ∀ c ∈ s, c ≠ 0) (t : List UInt8) :
    cstr (s ++ t) = s ++ cstr t := by
  induction s with
  | nil => rfl
  | cons c s ih =>
    have hc : (c != 0) = true := bne_iff_ne.mpr (h c List.mem_cons_self)
    have htail := ih fun d hd => h d (List.mem_cons_of_mem c hd)
    simp only [cstr, List.cons_append, List.takeWhile_cons, hc] at htail ⊢
    exact congrArg (c :: ·) htail

/-- A string ends at its first NUL, whatever comes after. -/
theorem cstr_append_of_short {s : List UInt8} (h : (cstr s).length < s.length) (t : List UInt8) :
    cstr (s ++ t) = cstr s := by
  rw [cstr, List.takeWhile_append, if_neg (by simpa [cstr] using h.ne)]
  rfl

theorem cstr_of_full {s : List UInt8} (h : s.length ≤ (cstr s).length) : cstr s = s :=
  (List.takeWhile_prefix _).eq_of_length_le h

theorem nonzero_of_mem_cstr {s : List UInt8} {c : UInt8} (h : c ∈ cstr s) : c ≠ 0 := by
  have hc := List.mem_takeWhile_imp (p := fun c => c != 0) h
  exact bne_iff_ne.mp hc

theorem cstr_take (s : List UInt8) (n : Nat) : cstr (s.take n) = (cstr s).take n := by
  induction s generalizing n with
  | nil => simp [cstr]
  | cons c s ih =>
    cases n with
    | zero => rfl
    | succ n =>
      have htail := ih n
      simp only [cstr, List.take_succ_cons, List.takeWhile_cons] at htail ⊢
      cases c != 0 <;> simp [htail]

theorem length_cstr_le (s : List UInt8) : (cstr s).length ≤ s.length := (List.takeWhile_prefix _).length_le

/-- Against a field of `n` bytes, a string that fits it is compared in full. -/
theorem strncmp_field {s t : List UInt8} {n : Nat} (hs : s.length ≤ n) (ht : t.length ≤ n) (hnul : ∀ c ∈ t, c ≠ 0) :
    strncmp s t n = (cstr s == t) := by
  rw [strncmp, cstr_of_nonzero hnul, List.take_of_length_le ht,
    List.take_of_length_le ((length_cstr_le s).trans hs)]

def strstr (s t : Str) : Bool := s.tails.any fun u => t.isPrefixOf u

theorem strstr_iff {s t : Str} : strstr s t = true ↔ t <:+: s := by
  rw [strstr, List.any_eq_true, List.infix_iff_prefix_suffix]
  simp only [List.mem_tails, List.isPrefixOf_iff_prefix, and_comm]

theorem strstr_mono {s s' t : Str} (h : strstr s t = true) (hs : s <:+: s') : strstr s' t = true :=
  strstr_iff.mpr ((strstr_iff.mp h).trans hs)

def hexValue (c : UInt8) : Option Nat :=
  if 0x30 ≤ c ∧ c ≤ 0x39 then some (c.toNat - 0x30)
  else if 0x41 ≤ c ∧ c ≤ 0x46 then some (c.toNat - 0x37)
  else if 0x61 ≤ c ∧ c ≤ 0x66 then some (c.toNat - 0x57)
  else none

def decimal (n : Nat) : Str := lit (toString n)

end RadarAim
