import Mathlib.Data.Finset.Card
import Mathlib.Data.Finset.Insert
import Mathlib.Data.List.Induction
import Mathlib.Data.List.TakeWhile
import Mathlib.Logic.Function.Basic

/-! Maps with room for `cap` keys. A key that is in the map can be stored again; a new key is taken as long as there is
    room, and else dropped. -/

namespace RadarAim

structure CappedMap (κ ν : Type) (cap : Nat) where
  keys : Finset κ
  value : κ → Option ν
  value_eq_none : ∀ k, value k = none ↔ k ∉ keys
  card_le : keys.card ≤ cap

namespace CappedMap
variable {κ ν : Type} {cap : Nat}

def empty : CappedMap κ ν cap := ⟨∅, fun _ => none, by simp, by simp⟩

variable [DecidableEq κ]

/-- The map takes the key. -/
def Takes (m : CappedMap κ ν cap) (k : κ) : Prop := k ∈ m.keys ∨ m.keys.card < cap

instance (m : CappedMap κ ν cap) (k : κ) : Decidable (m.Takes k) := inferInstanceAs (Decidable (_ ∨ _))

def store (k : κ) (v : ν) (m : CappedMap κ ν cap) : CappedMap κ ν cap :=
  if h : m.Takes k then
    { keys := insert k m.keys
      value := Function.update m.value k (some v)
      value_eq_none := by
        intro k'
        by_cases hk : k' = k
        · simp [hk]
        · simp [hk, m.value_eq_none]
      card_le := by
        rcases h with hmem | hroom
        · rw [Finset.insert_eq_of_mem hmem]
          exact m.card_le
        · exact le_trans (Finset.card_insert_le k m.keys) hroom }
  else m

/-- The map after these stores, the first one first. -/
def after (stores : List (κ × ν)) : CappedMap κ ν cap := stores.foldl (fun m s => m.store s.1 s.2) empty

section Store
variable {m : CappedMap κ ν cap} {k k' : κ} {v : ν}

theorem keys_store (h : m.Takes k) : (m.store k v).keys = insert k m.keys := by
  rw [store, dif_pos h]

theorem value_store_self (h : m.Takes k) : (m.store k v).value k = some v := by
  rw [store, dif_pos h]
  exact Function.update_self ..

theorem store_of_not_takes (h : ¬m.Takes k) : m.store k v = m := dif_neg h

theorem value_store_of_ne (h : k' ≠ k) : (m.store k v).value k' = m.value k' := by
  rw [store]
  split
  · exact Function.update_of_ne h ..
  · rfl

theorem mem_keys_store : k' ∈ (m.store k v).keys ↔ k' ∈ m.keys ∨ (k' = k ∧ m.keys.card < cap) := by
  by_cases h : m.Takes k
  · rw [keys_store h, Finset.mem_insert]
    constructor
    · rintro (rfl | hk)
      · exact h.imp_right fun hroom => ⟨rfl, hroom⟩
      · exact .inl hk
    · rintro (hk | ⟨rfl, -⟩)
      · exact .inr hk
      · exact .inl rfl
  · rw [store_of_not_takes h]
    exact ⟨.inl, fun hk => hk.resolve_right fun hnew => h (.inr hnew.2)⟩

end Store

/-! ### What the stores say of the map -/

section After
variable (stores : List (κ × ν)) (s : κ × ν)

/-- The keys that are stored, in the map or not. -/
def stored : Finset κ := (stores.map Prod.fst).toFinset

/-- The key is stored, and at its first store fewer than `cap` keys had been stored before. -/
def Accepted (cap : Nat) (k : κ) : Prop :=
  k ∈ stores.map Prod.fst ∧ ((stores.map Prod.fst).takeWhile (· ≠ k)).toFinset.card < cap

instance (cap : Nat) (k : κ) : Decidable (Accepted stores cap k) := inferInstanceAs (Decidable (_ ∧ _))

theorem after_concat : (after (stores ++ [s]) : CappedMap κ ν cap) = (after stores).store s.1 s.2 :=
  List.foldl_concat ..

theorem stored_concat : stored (stores ++ [s]) = insert s.1 (stored stores) := by
  ext k
  simp [stored]

/-- The map has as many of the stored keys as there is room for. -/
theorem keys_after : (after stores : CappedMap κ ν cap).keys ⊆ stored stores ∧
    (after stores : CappedMap κ ν cap).keys.card = min cap (stored stores).card := by
  induction stores using List.reverseRecOn with
  | nil => exact ⟨Finset.empty_subset _, (Nat.min_zero cap).symm⟩
  | append_singleton stores s ih =>
    obtain ⟨hsub, hcard⟩ := ih
    rw [after_concat, stored_concat]
    by_cases hroom : (stored stores).card < cap
    · have heq : (after stores : CappedMap κ ν cap).keys = stored stores :=
        Finset.eq_of_subset_of_card_le hsub (by rw [hcard, Nat.min_eq_right hroom.le])
      have htakes : (after stores : CappedMap κ ν cap).Takes s.1 := .inr (heq ▸ hroom)
      rw [keys_store htakes, heq]
      refine ⟨subset_rfl, (Nat.min_eq_right ?_).symm⟩
      exact le_trans (Finset.card_insert_le ..) hroom
    · have hfull : (after stores : CappedMap κ ν cap).keys.card = cap := by
        rw [hcard, Nat.min_eq_left (Nat.not_lt.mp hroom)]
      have hkeys : ((after stores : CappedMap κ ν cap).store s.1 s.2).keys =
          (after stores : CappedMap κ ν cap).keys := by
        ext k
        rw [mem_keys_store, hfull]
        simp
      rw [hkeys, hfull]
      refine ⟨hsub.trans (Finset.subset_insert ..), (Nat.min_eq_left ?_).symm⟩
      exact le_trans (Nat.not_lt.mp hroom) (Finset.card_le_card (Finset.subset_insert ..))

/-- There is room left as long as there is room for all the stored keys. -/
theorem card_keys_after_lt_iff : (after stores : CappedMap κ ν cap).keys.card < cap ↔ (stored stores).card < cap := by
  rw [(keys_after stores).2]
  omega

theorem mem_keys_after_of_lt {k : κ} (hk : k ∈ stored stores) (hroom : (stored stores).card < cap) :
    k ∈ (after stores : CappedMap κ ν cap).keys := by
  obtain ⟨hsub, hcard⟩ : _ ∧ (after stores : CappedMap κ ν cap).keys.card = _ := keys_after stores
  rwa [Finset.eq_of_subset_of_card_le hsub (by rw [hcard, Nat.min_eq_right hroom.le])]

/-- A key that has been stored before is as it was. -/
theorem accepted_concat_of_mem {k : κ} (hk : k ∈ stored stores) :
    Accepted (stores ++ [s]) cap k ↔ Accepted stores cap k := by
  have hmem : k ∈ stores.map Prod.fst := List.mem_toFinset.mp hk
  have hsplit : (stores.map Prod.fst ++ [s.1]).takeWhile (· ≠ k) = (stores.map Prod.fst).takeWhile (· ≠ k) := by
    rw [List.takeWhile_append, if_neg]
    intro hlength
    have hall := List.takeWhile_eq_self_iff.mp (List.IsPrefix.eq_of_length (List.takeWhile_prefix _) hlength)
    simpa using hall k hmem
  rw [Accepted, Accepted, List.map_append, List.map_singleton, hsplit]
  exact and_congr_left' (iff_of_true (List.mem_append_left _ hmem) hmem)

/-- A key that has not been stored before is accepted if there is room for it. -/
theorem accepted_concat_of_not_mem {k : κ} (hk : k ∉ stored stores) :
    Accepted (stores ++ [s]) cap k ↔ k = s.1 ∧ (stored stores).card < cap := by
  have hmem : k ∉ stores.map Prod.fst := fun h => hk (List.mem_toFinset.mpr h)
  have hall : (stores.map Prod.fst).takeWhile (· ≠ k) = stores.map Prod.fst := by
    refine List.takeWhile_eq_self_iff.mpr fun k' hk' => decide_eq_true ?_
    rintro rfl
    exact hmem hk'
  rw [Accepted, List.map_append, List.map_singleton, List.takeWhile_append, if_pos (congrArg List.length hall),
    List.mem_append, List.mem_singleton, or_iff_right hmem]
  refine and_congr_right ?_
  rintro rfl
  rw [List.takeWhile_cons_of_neg (by simp), List.append_nil]
  rfl

theorem Accepted.mem {k : κ} (h : Accepted stores cap k) : k ∈ stored stores := List.mem_toFinset.mpr h.1

theorem mem_keys_after {k : κ} : k ∈ (after stores : CappedMap κ ν cap).keys ↔ Accepted stores cap k := by
  induction stores using List.reverseRecOn with
  | nil => exact iff_of_false (Finset.notMem_empty k) fun h => List.not_mem_nil h.1
  | append_singleton stores s ih =>
    rw [after_concat, mem_keys_store, card_keys_after_lt_iff, ih]
    by_cases hk : k ∈ stored stores
    · rw [accepted_concat_of_mem stores s hk]
      refine or_iff_left_of_imp ?_
      rintro ⟨-, hroom⟩
      exact ih.mp (mem_keys_after_of_lt stores hk hroom)
    · rw [accepted_concat_of_not_mem stores s hk]
      exact or_iff_right fun h => hk h.mem

/-- The map gives the last value that was stored for an accepted key, and none for any other key. -/
theorem value_after (k : κ) : (after stores : CappedMap κ ν cap).value k =
    if Accepted stores cap k then stores.reverse.lookup k else none := by
  induction stores using List.reverseRecOn with
  | nil => simp [after, empty]
  | append_singleton stores s ih =>
    by_cases haccepted : Accepted (stores ++ [s]) cap k
    · have hkeys : k ∈ ((after stores : CappedMap κ ν cap).store s.1 s.2).keys := by
        rw [← after_concat]
        exact (mem_keys_after _).mpr haccepted
      rw [if_pos haccepted, List.reverse_concat, after_concat]
      by_cases hk : k = s.1
      · subst hk
        have htakes : (after stores : CappedMap κ ν cap).Takes s.1 := (mem_keys_store.mp hkeys).imp_right And.right
        rw [value_store_self htakes, List.lookup_cons_self]
      · have hbefore := (mem_keys_store.mp hkeys).resolve_right fun h => hk h.1
        have hne : (k == s.1) = false := beq_eq_false_iff_ne.mpr hk
        rw [value_store_of_ne hk, ih, if_pos ((mem_keys_after stores).mp hbefore), List.lookup_cons, hne]
    · rw [if_neg haccepted, value_eq_none, mem_keys_after]
      exact haccepted

end After
end CappedMap
end RadarAim
