import Mathlib.Data.List.Induction
import RadarAim.Lib.Ieee

/-! The search for the least element by a loop that replaces the best one so far by one that is strictly less.
    The order may have elements that compare to nothing, as the floating-point numbers have. -/

namespace RadarAim

/-- A strict order and its `≤`. What is at most something is comparable. -/
structure PartOrdered {δ : Type} (lt le : δ → δ → Prop) : Prop where
  irrefl : ∀ x, ¬lt x x
  trans : ∀ {x y z}, lt x y → lt y z → lt x z
  lt_of_not_lt : ∀ {x y z r}, lt x z → ¬lt y z → le y r → lt x y

/-- The comparisons of a binary format. -/
theorem Ieee.Format.partOrdered (f : Ieee.Format) :
    PartOrdered (fun a b => f.lt a b = true) (fun a b => f.le a b = true) where
  irrefl x := by simp [Format.lt]
  trans {x y z} hxy hyz := by
    simp only [Format.lt, Bool.and_eq_true, decide_eq_true_eq] at hxy hyz ⊢
    exact ⟨⟨hxy.1.1, hyz.1.2⟩, Int.lt_trans hxy.2 hyz.2⟩
  lt_of_not_lt {x y z r} hxz hyz hyr := by
    simp only [Format.lt, Format.le, Bool.and_eq_true, decide_eq_true_eq] at hxz hyz hyr ⊢
    refine ⟨⟨hxz.1.1, hyr.1.1⟩, ?_⟩
    by_contra hle
    exact hyz ⟨⟨hyr.1.1, hxz.1.2⟩, by omega⟩

namespace Nearest
variable {α β δ : Type} (lt : δ → δ → Prop) (dist : β → δ) (candidate : α → Option β)

/-- One turn of the loop. -/
def better [DecidableRel lt] (best : β) (a : α) : β :=
  match candidate a with
  | none => best
  | some b => if lt (dist b) (dist best) then b else best

/-- None of the elements is near enough to be looked at. -/
def Far (limit : δ) (l : List α) : Prop := ∀ a ∈ l, ∀ c, candidate a = some c → ¬lt (dist c) limit

/-- `b` comes from an element of the list: none is nearer, and those before it are farther or not near enough. -/
structure First (limit : δ) (l : List α) (b : β) : Prop where
  near : lt (dist b) limit
  nearest : ∀ a ∈ l, ∀ c, candidate a = some c → ¬lt (dist c) (dist b)
  first : ∃ before a after, l = before ++ a :: after ∧ candidate a = some b ∧
    ∀ x ∈ before, ∀ c, candidate x = some c → lt (dist c) limit → lt (dist b) (dist c)

/-- What the loop ends with is what it began with, or comes from an element. -/
theorem foldl_better_mem [DecidableRel lt] (init : β) (l : List α) :
    l.foldl (better lt dist candidate) init = init ∨
      ∃ a ∈ l, candidate a = some (l.foldl (better lt dist candidate) init) := by
  induction l using List.reverseRecOn with
  | nil => exact Or.inl rfl
  | append_singleton l a ih =>
    rw [List.foldl_append, List.foldl_cons, List.foldl_nil, better]
    have before : l.foldl (better lt dist candidate) init = init ∨
        ∃ x ∈ l ++ [a], candidate x = some (l.foldl (better lt dist candidate) init) :=
      ih.imp_right fun ⟨x, hx, h⟩ => ⟨x, List.mem_append_left _ hx, h⟩
    cases hc : candidate a with
    | none => exact before
    | some c =>
      dsimp only
      split
      · exact Or.inr ⟨a, by simp, hc⟩
      · exact before

section Search
variable {lt le : δ → δ → Prop} {dist candidate} {limit : δ} {b c : β} {l : List α} {a : α}

theorem Far.concat (h : Far lt dist candidate limit l) (ha : ∀ c, candidate a = some c → ¬lt (dist c) limit) :
    Far lt dist candidate limit (l ++ [a]) := by
  intro x hx
  rcases List.mem_append.mp hx with hx | hx
  · exact h x hx
  · obtain rfl := List.mem_singleton.mp hx
    exact ha

theorem First.concat (h : First lt dist candidate limit l b) (ha : ∀ c, candidate a = some c → ¬lt (dist c) (dist b)) :
    First lt dist candidate limit (l ++ [a]) b := by
  obtain ⟨before, x, after, rfl, hx, hbefore⟩ := h.first
  refine ⟨h.near, Far.concat h.nearest ha, before, x, after ++ [a], ?_, hx, hbefore⟩
  simp

variable (hord : PartOrdered lt le) (hc : candidate a = some c)
include hord hc

theorem not_nearer (hfar : Far lt dist candidate limit l) (hlt : lt (dist c) limit) :
    Far lt dist candidate (dist c) (l ++ [a]) := by
  refine Far.concat (fun y hy e he hec => hfar y hy e he (hord.trans hec hlt)) fun e he => ?_
  rw [hc] at he
  cases he
  exact hord.irrefl _

theorem Far.find (h : Far lt dist candidate limit l) (hlt : lt (dist c) limit) :
    First lt dist candidate limit (l ++ [a]) c := by
  refine ⟨hlt, not_nearer hord hc h hlt, l, a, [], rfl, hc, fun x hx e he hnear => ?_⟩
  exact absurd hnear (h x hx e he)

theorem First.replace (h : First lt dist candidate limit l b) (hlt : lt (dist c) (dist b))
    (hle : ∀ x ∈ l, ∀ e, candidate x = some e → ∃ r, le (dist e) r) :
    First lt dist candidate limit (l ++ [a]) c := by
  refine ⟨hord.trans hlt h.near, not_nearer hord hc h.nearest hlt, l, a, [], rfl, hc, fun x hx e he _ => ?_⟩
  obtain ⟨r, hr⟩ := hle x hx e he
  exact hord.lt_of_not_lt hlt (h.nearest x hx e he) hr

omit hc

/-- The loop finds the first of the nearest elements that are nearer than the limit that it starts from. -/
theorem foldl_better [DecidableRel lt] (init : β) (l : List α)
    (hle : ∀ x ∈ l, ∀ e, candidate x = some e → ∃ r, le (dist e) r) :
    (Far lt dist candidate (dist init) l ∧ l.foldl (better lt dist candidate) init = init) ∨
      First lt dist candidate (dist init) l (l.foldl (better lt dist candidate) init) := by
  induction l using List.reverseRecOn with
  | nil => exact Or.inl ⟨fun a ha => absurd ha List.not_mem_nil, rfl⟩
  | append_singleton l a ih =>
    have hle' : ∀ x ∈ l, ∀ e, candidate x = some e → ∃ r, le (dist e) r := fun x hx =>
      hle x (List.mem_append_left _ hx)
    rw [List.foldl_append, List.foldl_cons, List.foldl_nil, better]
    have other : ∀ {b c}, candidate a = some c → ¬lt (dist c) (dist b) →
        ∀ e, candidate a = some e → ¬lt (dist e) (dist b) := by
      intro b c hc hlt e he
      rw [hc] at he
      cases he
      exact hlt
    rcases ih hle' with ⟨hfar, heq⟩ | hfirst
    · -- None of the list was near enough.
      rw [heq]
      cases hc : candidate a with
      | none => exact Or.inl ⟨hfar.concat (by simp [hc]), rfl⟩
      | some c =>
        dsimp only
        split
        · rename_i hlt
          exact Or.inr (hfar.find hord hc hlt)
        · rename_i hlt
          exact Or.inl ⟨hfar.concat (other hc hlt), rfl⟩
    · -- The first of the nearest gives way only to a nearer one.
      right
      cases hc : candidate a with
      | none => exact hfirst.concat (by simp [hc])
      | some c =>
        dsimp only
        split
        · rename_i hlt
          exact hfirst.replace hord hc hlt hle'
        · rename_i hlt
          exact hfirst.concat (other hc hlt)

end Search
end Nearest
end RadarAim
