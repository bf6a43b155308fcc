import RadarAim.Lib.Bytes

/-! Little-endian 32-bit numbers in a byte string, read and written as Python's `struct` does: an access beyond the
    end of the string is an error. -/

namespace RadarAim

inductive PyError where
  | structError
  | valueError (text : String)

theorem ok_bind {ε α β : Type} (a : α) (f : α → Except ε β) : (Except.ok a >>= f) = f a := rfl

theorem error_bind {ε α β : Type} (e : ε) (f : α → Except ε β) : (Except.error e >>= f) = .error e := rfl

namespace Struct

/-- The number at `off`. -/
def u32 (data : List UInt8) (off : Nat) : Nat := leNat (fun i => data.getD i 0) off 4

/-- `struct.unpack_from("<I", data, off)` -/
def unpackFrom (data : List UInt8) (off : Nat) : Except PyError Nat :=
  if off + 4 ≤ data.length then .ok (u32 data off) else .error .structError

/-- `data` with `bytes` from `off` on. -/
def splice (data : List UInt8) (off : Nat) (bytes : List UInt8) : List UInt8 :=
  data.take off ++ (bytes ++ data.drop (off + bytes.length))

/-- `struct.pack_into` of 32-bit numbers. -/
def packInto (data : List UInt8) (off : Nat) (values : List Nat) : Except PyError (List UInt8) :=
  if off + 4 * values.length ≤ data.length then .ok (splice data off (values.flatMap (leBytes 4)))
  else .error .structError

section Splice
variable {data bytes : List UInt8} {off i : Nat}

theorem length_splice (h : off + bytes.length ≤ data.length) : (splice data off bytes).length = data.length := by
  simp only [splice, List.length_append, List.length_take, List.length_drop]
  omega

theorem splice_outside (h : off + bytes.length ≤ data.length) (hi : i < off ∨ off + bytes.length ≤ i) :
    (splice data off bytes)[i]? = data[i]? := by
  have hoff : (data.take off).length = off := List.length_take_of_le (by omega)
  rcases hi with hi | hi
  · rw [splice, List.getElem?_append_left (by omega), List.getElem?_take_of_lt hi]
  · rw [splice, List.getElem?_append_right (by omega), List.getElem?_append_right (by omega), List.getElem?_drop]
    congr 1
    omega

theorem splice_inside (h : off + bytes.length ≤ data.length) (hi : i < bytes.length) :
    (splice data off bytes)[off + i]? = bytes[i]? := by
  have hoff : (data.take off).length = off := List.length_take_of_le (by omega)
  rw [splice, List.getElem?_append_right (by omega), List.getElem?_append_left (by omega),
    hoff, Nat.add_sub_cancel_left]

theorem splice_splice (h : off + bytes.length ≤ data.length) :
    splice (splice data off bytes) off bytes = splice data off bytes := by
  have hlen := length_splice h
  refine List.ext_getElem? fun i => ?_
  by_cases hi : i < off ∨ off + bytes.length ≤ i
  · rw [splice_outside (by rw [hlen]; exact h) hi]
  · obtain ⟨k, rfl⟩ := Nat.exists_eq_add_of_le (show off ≤ i by omega)
    rw [splice_inside (by rw [hlen]; exact h) (by omega), splice_inside h (by omega)]

end Splice

theorem u32_congr {data data' : List UInt8} {off : Nat} (h : ∀ k < 4, data[off + k]? = data'[off + k]?) :
    u32 data off = u32 data' off :=
  leNat_congr 4 fun k hk => by simp only [List.getD_eq_getElem?_getD, h k hk]

theorem length_words (values : List Nat) : (values.flatMap (leBytes 4)).length = 4 * values.length := by
  induction values with
  | nil => rfl
  | cons value values ih =>
    simp only [List.flatMap_cons, List.length_append, length_leBytes, ih, List.length_cons]; omega

/-- Byte `i` of number `k`. -/
theorem getElem?_words {values : List Nat} {k i value : Nat} (hk : values[k]? = some value) (hi : i < 4) :
    (values.flatMap (leBytes 4))[4 * k + i]? = some (.ofNat (value / 256 ^ i)) := by
  induction values generalizing k with
  | nil => cases hk
  | cons head values ih =>
    rw [List.flatMap_cons]
    cases k with
    | zero =>
      cases hk
      rw [List.getElem?_append_left (by rw [length_leBytes]; omega), Nat.mul_zero, Nat.zero_add,
        List.getElem?_eq_getElem (by rw [length_leBytes]; exact hi), getElem_leBytes]
    | succ k =>
      have hnext := ih (k := k) hk
      rw [List.getElem?_append_right (by rw [length_leBytes]; omega), length_leBytes]
      rwa [show 4 * (k + 1) + i - 4 = 4 * k + i by omega]

/-- Number `k` of the numbers that were packed. -/
theorem u32_splice {data : List UInt8} {off k value : Nat} {values : List Nat}
    (h : off + 4 * values.length ≤ data.length) (hk : values[k]? = some value) :
    u32 (splice data off (values.flatMap (leBytes 4))) (off + 4 * k) = value % 2 ^ 32 := by
  have hlt : k < values.length := (List.getElem?_eq_some_iff.mp hk).1
  have hroom : off + (values.flatMap (leBytes 4)).length ≤ data.length := by rwa [length_words]
  refine leNat_of_bytes fun i hi => ?_
  rw [List.getD_eq_getElem?_getD, Nat.add_assoc, splice_inside hroom (by rw [length_words]; omega),
    getElem?_words hk hi, Option.getD_some]

end Struct
end RadarAim
