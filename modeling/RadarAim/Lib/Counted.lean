import Mathlib.Logic.Function.Basic
import RadarAim.Lib.Bytes

/-! Arrays with the number of their slots in use, and byte arrays that hold C strings. An array has no end here:
    whether an index stays in it is a question about the index. -/

namespace RadarAim

structure Counted (α : Type) where
  slot : Nat → α
  count : Nat

namespace Counted
variable {α : Type}

/-- What `memset` leaves. -/
def zeroed (zero : α) : Counted α := ⟨fun _ => zero, 0⟩

def clear (c : Counted α) : Counted α := { c with count := 0 }

def put (c : Counted α) (i : Nat) (a : α) : Counted α := { c with slot := Function.update c.slot i a }

/-- `array[count++] = a` -/
def push (c : Counted α) (a : α) : Counted α := ⟨Function.update c.slot c.count a, c.count + 1⟩

/-- `memcpy` to the beginning of the array. -/
def copy (c : Counted α) (as : List α) : Counted α := ⟨fun i => as[i]?.getD (c.slot i), as.length⟩

/-- What the slots in use hold. -/
def list (c : Counted α) : List α := (List.range c.count).map c.slot

/-- The first slot in use that is hit. -/
def index (c : Counted α) (hit : α → Bool) : Option Nat := (List.range c.count).find? fun i => hit (c.slot i)

/-- At most `size` slots are in use, and what they hold is good. -/
structure Fits (size : Nat) (good : α → Prop) (c : Counted α) : Prop where
  count_le : c.count ≤ size
  slots : ∀ i < c.count, good (c.slot i)

/-- The slots that are not in use are as `memset` left them. -/
def ZeroBeyond (zero : α) (c : Counted α) : Prop := ∀ i, c.count ≤ i → c.slot i = zero

section Slots
variable (c : Counted α) {i j : Nat} (a : α)

theorem put_self : (c.put i a).slot i = a := by simp [put]

theorem put_of_ne (h : j ≠ i) : (c.put i a).slot j = c.slot j := by simp [put, h]

theorem put_slot : c.put i (c.slot i) = c := by simp [put]

theorem push_self : (c.push a).slot c.count = a := by simp [push]

theorem push_of_ne (h : i ≠ c.count) : (c.push a).slot i = c.slot i := by simp [push, h]

theorem length_list : c.list.length = c.count := by simp [list]

theorem getElem_list (h : i < c.list.length) : c.list[i] = c.slot i := by simp [list]

theorem list_push : (c.push a).list = c.list ++ [a] := by
  have hkept : (List.range c.count).map (c.push a).slot = c.list := by
    refine List.map_congr_left fun i hi => ?_
    exact push_of_ne c a (List.mem_range.mp hi).ne
  have hcount : (c.push a).count = c.count + 1 := rfl
  rw [list, hcount, List.range_succ, List.map_append, hkept, List.map_singleton, push_self]

theorem map_push {β : Type} (text : α → β) : (c.push a).list.map text = c.list.map text ++ [text a] := by
  rw [list_push, List.map_append, List.map_singleton]

theorem list_put : (c.put i a).list = c.list.set i a := by
  refine List.ext_getElem (by rw [List.length_set, length_list, length_list]; rfl) fun j hj hj' => ?_
  rw [getElem_list, List.getElem_set]
  split
  · rename_i heq
    rw [← heq, put_self]
  · rename_i hne
    rw [put_of_ne c a (Ne.symm hne), getElem_list]

theorem take_put (h : i < c.count) : (c.put i a).list.take (i + 1) = c.list.take i ++ [a] := by
  have hget : (c.list.set i a)[i]? = some a := List.getElem?_set_self (by rwa [length_list])
  rw [list_put, List.take_add_one, List.take_set_of_le le_rfl, hget]
  rfl

theorem take_append_slots {left : Nat} (h : i + left = c.count) :
    c.list.take i ++ (List.range' i left).map c.slot = c.list := by
  have hdrop : (List.range' i left).map c.slot = c.list.drop i := by
    rw [list, ← List.map_drop, List.range_eq_range', List.drop_range', ← h, Nat.add_sub_cancel_left]
    simp
  rw [hdrop, List.take_append_drop]

theorem list_copy (as : List α) : (c.copy as).list = as := by
  refine List.ext_getElem (length_list _) fun i hi hi' => ?_
  rw [getElem_list]
  show as[i]?.getD (c.slot i) = as[i]
  rw [List.getElem?_eq_getElem hi', Option.getD_some]

theorem find?_list (hit : α → Bool) : c.list.find? hit = (c.index hit).map c.slot := by
  rw [list, List.find?_map]
  rfl

theorem index_lt {hit : α → Bool} (h : c.index hit = some i) : i < c.count :=
  List.mem_range.mp (List.mem_of_find?_eq_some h)

end Slots

section Fits
variable {size : Nat} {good : α → Prop} {c : Counted α}

theorem fits_of_empty (h : c.count = 0) : c.Fits size good :=
  ⟨h ▸ Nat.zero_le size, fun i hi => absurd (h ▸ hi) (Nat.not_lt_zero i)⟩

theorem Fits.put (h : c.Fits size good) (i : Nat) {a : α} (ha : good a) : (c.put i a).Fits size good := by
  refine ⟨h.count_le, fun j hj => ?_⟩
  obtain rfl | hne := eq_or_ne j i
  · rwa [put_self]
  · rw [put_of_ne c a hne]
    exact h.slots j hj

theorem Fits.push (h : c.Fits size good) (hroom : c.count < size) {a : α} (ha : good a) :
    (c.push a).Fits size good := by
  refine ⟨hroom, fun i hi => ?_⟩
  obtain hlt | rfl := Nat.lt_succ_iff_lt_or_eq.mp hi
  · rw [push_of_ne c a hlt.ne]
    exact h.slots i hlt
  · rwa [push_self]

theorem fits_copy {as : List α} (hlength : as.length ≤ size) (h : ∀ a ∈ as, good a) : (c.copy as).Fits size good := by
  refine ⟨hlength, fun i hi => ?_⟩
  have hget : as[i]? = some as[i] := List.getElem?_eq_getElem hi
  show good (as[i]?.getD (c.slot i))
  rw [hget]
  exact h _ (List.getElem_mem hi)

theorem zeroBeyond_zeroed (zero : α) : (zeroed zero).ZeroBeyond zero := fun _ _ => rfl

theorem ZeroBeyond.push {zero : α} (h : c.ZeroBeyond zero) (a : α) : (c.push a).ZeroBeyond zero := by
  intro i hi
  have hlt : c.count < i := hi
  rw [push_of_ne c a hlt.ne']
  exact h i hlt.le

end Fits
end Counted

/-! ### Byte arrays -/

/-- The field after a string and its NUL have been written to it. -/
def overwrite (field text : Str) : Str := text ++ 0 :: field.drop (text.length + 1)

/-- `strncpy(dst, src, n - 1)` and a NUL in the last byte. -/
def strncpy (n : Nat) (src : Str) : Str :=
  let text := (cstr src).take (n - 1)
  text ++ List.replicate (n - text.length) 0

def printable (c : UInt8) : Bool := 0x20 ≤ c && c ≤ 0x7e

/-- A field of `n` bytes with a NUL in it, and nothing but printable characters before. -/
def Terminated (n : Nat) (field : Str) : Prop :=
  field.length = n ∧ ∃ k, field[k]? = some 0 ∧ ∀ c ∈ field.take k, printable c = true

section Fields
variable {n : Nat} {field text : Str}

theorem cstr_append {s t : Str} (h : ∀ c ∈ s, printable c = true) : cstr (s ++ 0 :: t) = s := by
  have hne : ∀ c ∈ s, (c != 0) = true := by
    intro c hc
    rw [bne_iff_ne]
    rintro rfl
    exact absurd (h 0 hc) (by decide)
  rw [cstr, List.takeWhile_append_of_pos hne]
  simp

theorem terminated_append {rest : Str} (hlength : (text ++ 0 :: rest).length = n)
    (h : ∀ c ∈ text, printable c = true) : Terminated n (text ++ 0 :: rest) := by
  refine ⟨hlength, text.length, by simp, ?_⟩
  rw [List.take_left]
  exact h

theorem terminated_overwrite (hfield : field.length = n) (hlength : text.length < n)
    (h : ∀ c ∈ text, printable c = true) : Terminated n (overwrite field text) := by
  refine terminated_append ?_ h
  simp only [List.length_append, List.length_cons, List.length_drop]
  omega

theorem Terminated.cstr (h : Terminated n field) :
    (cstr field).length < n ∧ ∀ c ∈ RadarAim.cstr field, printable c = true := by
  obtain ⟨rfl, k, hk, hprintable⟩ := h
  obtain ⟨hlt, hzero⟩ := List.getElem?_eq_some_iff.mp hk
  have hsplit : field = field.take k ++ 0 :: field.drop (k + 1) := by
    rw [← hzero, List.getElem_cons_drop, List.take_append_drop]
  have hcstr : RadarAim.cstr field = field.take k := by
    rw [hsplit, cstr_append hprintable, ← hsplit]
  rw [hcstr]
  refine ⟨?_, hprintable⟩
  rw [List.length_take]
  omega

theorem strncpy_eq (h : Terminated n field) :
    strncpy n field = cstr field ++ 0 :: List.replicate (n - (cstr field).length - 1) 0 := by
  obtain ⟨hlt, -⟩ := h.cstr
  have htext : (RadarAim.cstr field).take (n - 1) = RadarAim.cstr field := List.take_of_length_le (by omega)
  rw [strncpy, htext, ← List.replicate_succ]
  congr 2
  omega

theorem terminated_strncpy (h : Terminated n field) : Terminated n (strncpy n field) := by
  obtain ⟨hlt, hprintable⟩ := h.cstr
  rw [strncpy_eq h]
  refine terminated_append ?_ hprintable
  simp only [List.length_append, List.length_cons, List.length_replicate]
  omega

theorem cstr_overwrite (h : ∀ c ∈ text, printable c = true) : cstr (overwrite field text) = text := cstr_append h

theorem cstr_strncpy (h : Terminated n field) : cstr (strncpy n field) = cstr field := by
  rw [strncpy_eq h, cstr_append h.cstr.2]

end Fields
end RadarAim
