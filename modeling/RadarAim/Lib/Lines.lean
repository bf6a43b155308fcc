import Mathlib.Data.List.Basic
import Mathlib.Data.List.Count

/-! The lines of a text. A line ends with the separator, which belongs to it; the last line of a text may lack it. -/

namespace RadarAim
namespace Lines

section
variable {α : Type} [DecidableEq α] (sep : α)

def lines : List α → List (List α)
  | [] => []
  | c :: s =>
    if c = sep then [c] :: lines s
    else
      match lines s with
      | [] => [[c]]
      | l :: ls => (c :: l) :: ls

/-- The text of the last `k` lines, or of all of them. -/
def lastLines (k : Nat) (s : List α) : List α := ((lines sep s).drop ((lines sep s).length - k)).flatten

variable {sep}

theorem flatten_lines (s : List α) : (lines sep s).flatten = s := by
  induction s with
  | nil => rfl
  | cons c s ih =>
    rw [lines]
    split
    · rw [List.flatten_cons, ih, List.singleton_append]
    · split
      · rename_i hnil
        rw [hnil] at ih
        rw [← ih]
        rfl
      · rename_i l ls hcons
        rw [hcons] at ih
        rw [List.flatten_cons, List.cons_append, ← List.flatten_cons, ih]

variable (sep) in
/-- The last element makes no difference to the number of lines: it ends a line, or belongs to the last one. -/
theorem length_lines (s : List α) (z : α) : (lines sep (s ++ [z])).length = s.count sep + 1 := by
  induction s with
  | nil => by_cases h : z = sep <;> simp [lines, h]
  | cons c s ih =>
    rw [List.cons_append, lines]
    by_cases h : c = sep
    · rw [if_pos h, List.length_cons, ih, h, List.count_cons_self]
    · rw [if_neg h, List.count_cons_of_ne h]
      split
      · rename_i hnil
        rw [hnil] at ih
        cases ih
      · rename_i l ls hcons
        rwa [hcons] at ih

theorem lines_append (s t : List α) : lines sep (s ++ sep :: t) = lines sep (s ++ [sep]) ++ lines sep t := by
  induction s with
  | nil => simp [lines]
  | cons c s ih =>
    rw [List.cons_append, List.cons_append, lines, lines]
    by_cases h : c = sep
    · rw [if_pos h, if_pos h, ih, List.cons_append]
    · rw [if_neg h, if_neg h, ih]
      have hlen := length_lines sep s sep
      cases hs : lines sep (s ++ [sep]) with
      | nil => simp [hs] at hlen
      | cons l ls => rfl

/-- A list with `k` separators, cut behind the last but `k - 1`. -/
theorem exists_split {k : Nat} {s : List α} (hk : 1 ≤ k) (h : k ≤ s.count sep) :
    ∃ head rest, s = head ++ sep :: rest ∧ rest.count sep + 1 = k := by
  induction s with
  | nil => simp at h; omega
  | cons c s ih =>
    by_cases hle : k ≤ s.count sep
    · obtain ⟨head, rest, rfl, hrest⟩ := ih hle
      exact ⟨c :: head, rest, rfl, hrest⟩
    · by_cases hc : c = sep
      · subst hc
        rw [List.count_cons_self] at h
        exact ⟨[], s, rfl, by omega⟩
      · rw [List.count_cons_of_ne hc] at h
        exact absurd h hle

/-- There is only one place to cut a list behind a separator with a given number of them in the rest. -/
theorem split_unique {head head' rest rest' : List α} (h : head ++ sep :: rest = head' ++ sep :: rest')
    (hcount : rest.count sep = rest'.count sep) : head = head' ∧ rest = rest' := by
  induction head generalizing head' with
  | nil =>
    cases head' with
    | nil => exact ⟨rfl, (List.cons.inj h).2⟩
    | cons c head' =>
      have hrest : rest = head' ++ sep :: rest' := (List.cons.inj h).2
      rw [hrest, List.count_append, List.count_cons_self] at hcount
      omega
  | cons c head ih =>
    cases head' with
    | nil =>
      have hrest : head ++ sep :: rest = rest' := (List.cons.inj h).2
      rw [← hrest, List.count_append, List.count_cons_self] at hcount
      omega
    | cons c' head' =>
      obtain ⟨hc, htail⟩ := List.cons.inj h
      obtain ⟨hhead, hrest⟩ := ih htail
      exact ⟨congrArg₂ List.cons hc hhead, hrest⟩

variable (sep) in
/-- The last lines of a text that ends in `z` begin behind a separator before it, or are the whole text. -/
theorem lastLines_cases {k : Nat} (hk : 1 ≤ k) (s : List α) (z : α) :
    s.count sep < k ∧ lastLines sep k (s ++ [z]) = s ++ [z] ∨
    ∃ head rest, s = head ++ sep :: rest ∧ rest.count sep + 1 = k ∧ lastLines sep k (s ++ [z]) = rest ++ [z] := by
  have hlen := length_lines sep s z
  rcases Nat.lt_or_ge (s.count sep) k with hlt | hge
  · refine Or.inl ⟨hlt, ?_⟩
    rw [lastLines, show (lines sep (s ++ [z])).length - k = 0 by omega, List.drop_zero, flatten_lines]
  · obtain ⟨head, rest, rfl, hrest⟩ := exists_split hk hge
    refine Or.inr ⟨head, rest, rfl, hrest, ?_⟩
    have hsplit : lines sep (head ++ sep :: rest ++ [z]) = lines sep (head ++ [sep]) ++ lines sep (rest ++ [z]) := by
      rw [List.append_assoc, List.cons_append, lines_append]
    have hdrop : (lines sep (head ++ sep :: rest ++ [z])).length - k = (lines sep (head ++ [sep])).length := by
      rw [hsplit, List.length_append, length_lines sep rest z]
      omega
    rw [lastLines, hdrop, hsplit, List.drop_left, flatten_lines]

theorem lastLines_nil (k : Nat) : lastLines sep k [] = [] := by
  simp [lastLines, lines]

end
end Lines
end RadarAim
