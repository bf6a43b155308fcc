import RadarAim.Lib.CappedMap
import RadarAim.Radar.MetaCache
import RadarAim.Theorems.Arrays

/-! The metadata caches refine a map that is capped by the number of their entries. -/

namespace RadarAim
namespace MetaCache
open CappedMap

/-! ### Names and slots -/

/-- A name as the cache keeps it. -/
def cutName (name : Str) : Str := (cstr name).take 31

theorem cstr_strncpy_nameSize (name : Str) : cstr (strncpy Arrays.nameSize name) = cutName name := by
  have hnonzero : ∀ c ∈ cutName name, c ≠ 0 := fun c hc => nonzero_of_mem_cstr (List.mem_of_mem_take hc)
  have hlength : (cutName name).length ≤ 31 := List.length_take_le 31 (cstr name)
  have hroom : (cutName name).length < Arrays.nameSize := Nat.lt_succ_of_le hlength
  obtain ⟨pad, hpad⟩ := Nat.exists_eq_add_of_lt hroom
  have hfield : strncpy Arrays.nameSize name =
      cutName name ++ List.replicate (Arrays.nameSize - (cutName name).length) 0 := rfl
  have hzeros : Arrays.nameSize - (cutName name).length = pad + 1 := by omega
  rw [hfield, hzeros, cstr_append_of_nonzero hnonzero, List.replicate_succ]
  exact List.append_nil _

section Index
variable {α : Type} {c : Counted α} {hit : α → Bool} {i j : Nat}

theorem index_hit (h : c.index hit = some i) : hit (c.slot i) = true :=
  List.find?_some (p := fun i => hit (c.slot i)) h

theorem index_eq_none (h : c.index hit = none) (hi : i < c.count) : ¬hit (c.slot i) = true :=
  List.find?_eq_none.mp h i (List.mem_range.mpr hi)

/-- A search does not see a slot that is missed before and after it is set. -/
theorem map_index_put {a : α} (hold : hit (c.slot i) = false) (hnew : hit a = false) :
    ((c.put i a).index hit).map (c.put i a).slot = (c.index hit).map c.slot := by
  have hhits : (fun j => hit ((c.put i a).slot j)) = fun j => hit (c.slot j) := by
    funext j
    by_cases hj : j = i
    · rw [hj, Counted.put_self, hold, hnew]
    · rw [Counted.put_of_ne c a hj]
  have hindex : (c.put i a).index hit = c.index hit := congrArg ((List.range c.count).find? ·) hhits
  rw [hindex]
  cases hfound : c.index hit with
  | none => rfl
  | some j =>
    have hj : j ≠ i := by
      rintro rfl
      rw [index_hit hfound] at hold
      cases hold
    rw [Option.map_some, Option.map_some, Counted.put_of_ne c a hj]

theorem map_index_push {a : α} (hnew : hit a = false) :
    ((c.push a).index hit).map (c.push a).slot = (c.index hit).map c.slot := by
  rw [← Counted.find?_list, ← Counted.find?_list, Counted.list_push, List.find?_append, List.find?_singleton,
    if_neg (Bool.eq_false_iff.mp hnew), Option.or_none]

end Index

section Cache
variable {ν : Type} {size : Nat} {c : Counted (Entry ν)} {m : CappedMap UInt64 (ν × Str) size}

/-- The map that a cache stands for. -/
structure Refines (c : Counted (Entry ν)) (m : CappedMap UInt64 (ν × Str) size) : Prop where
  distinct : ∀ i < c.count, ∀ j < c.count, (c.slot i).actor = (c.slot j).actor → i = j
  valid : ∀ i < c.count, (c.slot i).valid = true
  keys : ∀ a, a ∈ m.keys ↔ ∃ i < c.count, (c.slot i).actor = a
  value : ∀ i < c.count, m.value (c.slot i).actor = some ((c.slot i).values, cstr (c.slot i).name)

/-- Nothing is asked of the entries that are not in use. -/
theorem refines_empty (h : c.count = 0) : Refines c (empty : CappedMap UInt64 (ν × Str) size) := by
  have hnone : ∀ {i}, ¬i < c.count := fun hi => Nat.not_lt_zero _ (h ▸ hi)
  refine ⟨fun i hi => absurd hi hnone, fun i hi => absurd hi hnone, fun a => ?_, fun i hi => absurd hi hnone⟩
  exact iff_of_false (Finset.notMem_empty a) fun ⟨i, hi, _⟩ => hnone hi

theorem Refines.card (h : Refines c m) : m.keys.card = c.count := by
  have himage : m.keys = (Finset.range c.count).image fun i => (c.slot i).actor := by
    ext a
    simp only [h.keys, Finset.mem_image, Finset.mem_range]
  rw [himage, Finset.card_image_of_injOn, Finset.card_range]
  intro i hi j hj heq
  exact h.distinct i (Finset.mem_range.mp hi) j (Finset.mem_range.mp hj) heq

/-- A lookup gives what the map holds. -/
theorem Refines.find (h : Refines c m) (a : UInt64) :
    (findMeta c a).map (fun e => (e.values, cstr e.name)) = m.value a := by
  rw [findMeta]
  cases hindex : c.index fun e => e.valid && e.actor = a with
  | some i =>
    have hi := Counted.index_lt c hindex
    have hactor : (c.slot i).actor = a := by
      have hhit := index_hit hindex
      simpa [h.valid i hi] using hhit
    rw [← hactor, h.value i hi]
    rfl
  | none =>
    refine ((m.value_eq_none a).mpr fun ha => ?_).symm
    obtain ⟨i, hi, hactor⟩ := (h.keys a).mp ha
    exact index_eq_none hindex hi (by simp [h.valid i hi, hactor])

/-! ### The store -/

/-- An entry in use is overwritten: every slot keeps its actor. -/
theorem Refines.put (h : Refines c m) {i : Nat} (hi : i < c.count) {e : Entry ν} (hactor : e.actor = (c.slot i).actor)
    (hvalid : e.valid = true) : Refines (c.put i e) (m.store e.actor (e.values, cstr e.name)) := by
  have hkey : e.actor ∈ m.keys := (h.keys _).mpr ⟨i, hi, hactor.symm⟩
  have hactors : ∀ j, ((c.put i e).slot j).actor = (c.slot j).actor := by
    intro j
    by_cases hj : j = i
    · rw [hj, Counted.put_self, hactor]
    · rw [Counted.put_of_ne c e hj]
  refine ⟨fun j hj k hk heq => ?_, fun j hj => ?_, fun a => ?_, fun j hj => ?_⟩
  · rw [hactors, hactors] at heq
    exact h.distinct j hj k hk heq
  · by_cases hji : j = i
    · rw [hji, Counted.put_self, hvalid]
    · rw [Counted.put_of_ne c e hji]
      exact h.valid j hj
  · rw [keys_store (.inl hkey), Finset.insert_eq_of_mem hkey, h.keys]
    simp only [hactors]
    rfl
  · by_cases hji : j = i
    · rw [hji, Counted.put_self, value_store_self (.inl hkey)]
    · have hne : (c.slot j).actor ≠ e.actor := fun heq => hji (h.distinct j hj i hi (heq.trans hactor))
      rw [Counted.put_of_ne c e hji, value_store_of_ne hne]
      exact h.value j hj

/-- A new actor is added as long as there is room. -/
theorem Refines.push (h : Refines c m) (hroom : c.count < size) {e : Entry ν}
    (hnew : ∀ i < c.count, (c.slot i).actor ≠ e.actor) (hvalid : e.valid = true) :
    Refines (c.push e) (m.store e.actor (e.values, cstr e.name)) := by
  have htakes : m.Takes e.actor := .inr (h.card.symm ▸ hroom)
  have hslot : ∀ i, i < c.count + 1 →
      (i < c.count ∧ (c.push e).slot i = c.slot i) ∨ (i = c.count ∧ (c.push e).slot i = e) := by
    intro i hi
    rcases Nat.lt_succ_iff_lt_or_eq.mp hi with hlt | rfl
    · exact .inl ⟨hlt, Counted.push_of_ne c e hlt.ne⟩
    · exact .inr ⟨rfl, Counted.push_self c e⟩
  refine ⟨fun i hi j hj heq => ?_, fun i hi => ?_, fun a => ?_, fun i hi => ?_⟩
  · -- No other entry has the actor of the new one.
    rcases hslot i hi with ⟨hlt, hi'⟩ | ⟨rfl, hi'⟩
    · rw [hi'] at heq
      rcases hslot j hj with ⟨hlt', hj'⟩ | ⟨rfl, hj'⟩
      · rw [hj'] at heq
        exact h.distinct i hlt j hlt' heq
      · rw [hj'] at heq
        exact absurd heq (hnew i hlt)
    · rcases hslot j hj with ⟨hlt', hj'⟩ | ⟨rfl, -⟩
      · rw [hi', hj'] at heq
        exact absurd heq.symm (hnew j hlt')
      · rfl
  · rcases hslot i hi with ⟨hlt, hi'⟩ | ⟨rfl, hi'⟩ <;> rw [hi']
    · exact h.valid i hlt
    · exact hvalid
  · -- The keys are those from before, and the actor of the new entry.
    rw [keys_store htakes, Finset.mem_insert, h.keys]
    constructor
    · rintro (rfl | ⟨i, hi, hactor⟩)
      · exact ⟨c.count, Nat.lt_succ_self _, congrArg Entry.actor (Counted.push_self c e)⟩
      · exact ⟨i, Nat.lt_succ_of_lt hi, by rw [Counted.push_of_ne c e hi.ne, hactor]⟩
    · rintro ⟨i, hi, hactor⟩
      rcases hslot i hi with ⟨hlt, hi'⟩ | ⟨rfl, hi'⟩ <;> rw [hi'] at hactor
      · exact .inr ⟨i, hlt, hactor⟩
      · exact .inl hactor.symm
  · rcases hslot i hi with ⟨hlt, hi'⟩ | ⟨rfl, hi'⟩ <;> rw [hi']
    · rw [value_store_of_ne (hnew i hlt)]
      exact h.value i hlt
    · exact value_store_self htakes

theorem Refines.store (h : Refines c m) (a : UInt64) (values : ν) (name : Str) :
    Refines (storeMeta size a values name c) (m.store a (values, cutName name)) := by
  rw [storeMeta]
  cases hindex : c.index fun e => e.actor = a with
  | some i =>
    have hi := Counted.index_lt c hindex
    have hactor : (c.slot i).actor = a := by simpa using index_hit hindex
    rw [← cstr_strncpy_nameSize, ← hactor]
    exact h.put hi (e := ⟨(c.slot i).actor, values, strncpy Arrays.nameSize name, true⟩) rfl rfl
  | none =>
    have hnew : ∀ i < c.count, (c.slot i).actor ≠ a := fun i hi heq =>
      index_eq_none hindex hi (decide_eq_true heq)
    dsimp only
    split
    · rename_i hroom
      rw [← cstr_strncpy_nameSize]
      exact h.push hroom (e := ⟨a, values, strncpy Arrays.nameSize name, true⟩) hnew rfl
    · rename_i hfull
      rw [store_of_not_takes]
      · exact h
      · rintro (hkey | hroom)
        · obtain ⟨i, hi, hactor⟩ := (h.keys a).mp hkey
          exact hnew i hi hactor
        · exact hfull (h.card ▸ hroom)

/-- A store for an actor leaves what is found for the others. -/
theorem findMeta_storeMeta_of_ne {a b : UInt64} (h : b ≠ a) (values : ν) (name : Str) :
    findMeta (storeMeta size a values name c) b = findMeta c b := by
  have hmiss : ∀ e : Entry ν, e.actor = a → (e.valid && decide (e.actor = b)) = false := by
    rintro e rfl
    rw [decide_eq_false (Ne.symm h), Bool.and_false]
  rw [findMeta, findMeta, storeMeta]
  cases hindex : c.index fun e => e.actor = a with
  | some i =>
    have hactor : (c.slot i).actor = a := by simpa using index_hit hindex
    exact map_index_put (hmiss _ hactor) (hmiss _ hactor)
  | none =>
    dsimp only
    split
    · exact map_index_push (hmiss _ rfl)
    · rfl

end Cache

/-! ### Every run -/

/-- The stores since the last reset, with the names as they are kept. -/
def note {ν : Type} (stores : List (UInt64 × ν × Str)) : Op ν → List (UInt64 × ν × Str)
  | .reset => []
  | .store actor values name => stores ++ [(actor, values, cutName name)]
  | .find _ => stores

def sinceReset {ν : Type} (ops : List (Op ν)) : List (UInt64 × ν × Str) := ops.foldl note []

section Run
variable {ν : Type} {size : Nat} {c : Counted (Entry ν)}

theorem refines_step {stores : List (UInt64 × ν × Str)} (op : Op ν)
    (h : Refines c (after stores : CappedMap UInt64 (ν × Str) size)) :
    Refines (step (storeMeta size) c op) (after (note stores op) : CappedMap UInt64 (ν × Str) size) := by
  cases op with
  | reset => exact refines_empty rfl
  | store actor values name =>
    rw [note, after_concat]
    exact h.store actor values name
  | find actor => exact h

theorem refines_foldl {stores : List (UInt64 × ν × Str)} (ops : List (Op ν))
    (h : Refines c (after stores : CappedMap UInt64 (ν × Str) size)) :
    Refines (ops.foldl (step (storeMeta size)) c)
      (after (ops.foldl note stores) : CappedMap UInt64 (ν × Str) size) := by
  induction ops generalizing c stores with
  | nil => exact h
  | cons op ops ih =>
    rw [List.foldl_cons, List.foldl_cons]
    exact ih (refines_step op h)

theorem refines_run (zero : ν) (ops : List (Op ν)) :
    Refines (run (storeMeta size) zero ops) (after (sinceReset ops) : CappedMap UInt64 (ν × Str) size) :=
  refines_foldl ops (refines_empty rfl)

end Run

/-- What is promised of a cache of `size` entries after the given stores. -/
structure Capped {ν : Type} (size : Nat) (find : Counted (Entry ν) → UInt64 → Option (Entry ν))
    (store : UInt64 → ν → Str → Counted (Entry ν) → Counted (Entry ν)) (cache : Counted (Entry ν))
    (stores : List (UInt64 × ν × Str)) : Prop where
  distinct : ∀ i < cache.count, ∀ j < cache.count, (cache.slot i).actor = (cache.slot j).actor → i = j
  /-- The cache is full when `size` actors have been stored. -/
  count : cache.count = min size (stored stores).card
  lookup : ∀ a, (find cache a).map (fun e => (e.values, cstr e.name)) =
    if Accepted stores size a then stores.reverse.lookup a else none
  others : ∀ a b values name, b ≠ a → find (store a values name cache) b = find cache b

theorem capped_run {ν : Type} (size : Nat) (zero : ν) (ops : List (Op ν)) :
    Capped size findMeta (storeMeta size) (run (storeMeta size) zero ops) (sinceReset ops) := by
  have hrefines : Refines _ (after (sinceReset ops) : CappedMap UInt64 (ν × Str) size) := refines_run zero ops
  refine ⟨hrefines.distinct, ?_, fun a => ?_, fun a b values name h => findMeta_storeMeta_of_ne h values name⟩
  · rw [← hrefines.card]
    exact (keys_after _).2
  · rw [hrefines.find, value_after]

/-- Both caches, after any sequence of resets, stores and lookups. -/
theorem metaCaches_capped :
    (∀ ops, Capped playerMetaCacheSize findPlayerMeta storePlayerMeta (playerRun ops) (sinceReset ops)) ∧
      ∀ ops, Capped itemMetaCacheSize findItemMeta storeItemMeta (itemRun ops) (sinceReset ops) :=
  ⟨fun ops => capped_run playerMetaCacheSize (⟨0, 0⟩ : PlayerValues) ops,
    fun ops => capped_run itemMetaCacheSize (⟨0, 0⟩ : ItemValues) ops⟩

/-! ### The caches of the reader -/

section Reader
open Arrays

def playerEntry (e : PlayerMetaCache) : Entry PlayerValues := ⟨e.actor, ⟨e.teamId, e.isBot⟩, e.name, e.valid⟩
def itemEntry (e : ItemMetaCache) : Entry ItemValues := ⟨e.actor, ⟨e.itemId, e.category⟩, e.name, e.valid⟩

/-- An array whose slots hold more than is looked at. -/
def view {α β : Type} (f : α → β) (c : Counted α) : Counted β := ⟨fun i => f (c.slot i), c.count⟩

def players (m : Mem) : Counted (Entry PlayerValues) := view playerEntry m.gPlayerMeta
def items (m : Mem) : Counted (Entry ItemValues) := view itemEntry m.gItemMeta

section View
variable {α ν : Type} (f : α → Entry ν) (c : Counted α)

theorem view_put (i : Nat) (x : α) : view f (c.put i x) = (view f c).put i (f x) := by
  refine congrArg (Counted.mk · c.count) (funext fun j => ?_)
  by_cases hj : j = i
  · rw [hj, Counted.put_self]
    exact ((view f c).put_self (f x)).symm
  · rw [Counted.put_of_ne c x hj]
    exact ((view f c).put_of_ne (f x) hj).symm

theorem view_push (x : α) : view f (c.push x) = (view f c).push (f x) := by
  refine congrArg (Counted.mk · (c.count + 1)) (funext fun j => ?_)
  by_cases hj : j = c.count
  · rw [hj, Counted.push_self]
    exact ((view f c).push_self (f x)).symm
  · rw [Counted.push_of_ne c x hj]
    exact ((view f c).push_of_ne (f x) hj).symm

theorem view_stored (size : Nat) {same : α → Bool} {x : α} {a : UInt64} {values : ν} {name : Str}
    (hsame : ∀ e, same e = decide ((f e).actor = a)) (hx : f x = ⟨a, values, strncpy nameSize name, true⟩) :
    view f (Arrays.stored size same x c) = storeMeta size a values name (view f c) := by
  have hindex : c.index same = (view f c).index fun e => e.actor = a :=
    congrArg ((List.range c.count).find? ·) (funext fun i => hsame (c.slot i))
  rw [Arrays.stored, storeMeta, ← hindex]
  cases hfound : c.index same with
  | some i =>
    have hactor : (f (c.slot i)).actor = a := by simpa [hsame] using index_hit hfound
    rw [Option.elim_some, view_put, hx, ← hactor]
    rfl
  | none =>
    rw [Option.elim_none, Arrays.added, apply_ite (view f), view_push, hx]
    rfl

end View

/-- The reader stores in the player cache. -/
theorem players_store (m : Mem) (actor : UInt64) (values : PlayerValues) (name : Str) (recordedIn : UInt64) :
    ∃ m', (gPlayerMeta.store (fun e => e.actor = actor)
        { actor, teamId := values.teamId, isBot := values.isBot, name := strncpy nameSize name, valid := true
          recordedIn }).run m = pure ((), m') ∧
      players m' = storePlayerMeta actor values name (players m) := by
  obtain ⟨is, hrun⟩ := store_run gPlayerMeta_lawful (fun e => e.actor = actor)
    { actor, teamId := values.teamId, isBot := values.isBot, name := strncpy nameSize name,
      valid := true, recordedIn } m
  exact ⟨_, hrun, view_stored playerEntry m.gPlayerMeta playerMetaCacheSize (fun _ => rfl) rfl⟩

theorem items_store (m : Mem) (actor : UInt64) (values : ItemValues) (name : Str) (recordedIn : UInt64) :
    ∃ m', (gItemMeta.store (fun e => e.actor = actor)
        { actor, itemId := values.itemId, category := values.category, name := strncpy nameSize name, valid := true
          recordedIn }).run m = pure ((), m') ∧
      items m' = storeItemMeta actor values name (items m) := by
  obtain ⟨is, hrun⟩ := store_run gItemMeta_lawful (fun e => e.actor = actor)
    { actor, itemId := values.itemId, category := values.category, name := strncpy nameSize name, valid := true
      recordedIn } m
  exact ⟨_, hrun, view_stored itemEntry m.gItemMeta itemMetaCacheSize (fun _ => rfl) rfl⟩

/-- The reader looks up in the player cache. -/
theorem players_find (m : Mem) (actor : UInt64) :
    ∃ i m', (gPlayerMeta.find fun e => e.valid && e.actor = actor).run m = pure (i, m') ∧ players m' = players m ∧
      i.map (players m).slot = findPlayerMeta (players m) actor := by
  obtain ⟨is, hrun⟩ := find_run gPlayerMeta_lawful (fun e => e.valid && e.actor = actor) m
  exact ⟨_, _, hrun, rfl, rfl⟩

theorem items_find (m : Mem) (actor : UInt64) :
    ∃ i m', (gItemMeta.find fun e => e.valid && e.actor = actor).run m = pure (i, m') ∧ items m' = items m ∧
      i.map (items m).slot = findItemMeta (items m) actor := by
  obtain ⟨is, hrun⟩ := find_run gItemMeta_lawful (fun e => e.valid && e.actor = actor) m
  exact ⟨_, _, hrun, rfl, rfl⟩

/-- Entering another world resets both caches, and leaves them otherwise. -/
theorem enterWorld_caches (current : UInt64) (m : Mem) :
    (players (m.enterWorld current) = (players m).clear ∧ items (m.enterWorld current) = (items m).clear) ∨
      (players (m.enterWorld current) = players m ∧ items (m.enterWorld current) = items m) := by
  rw [Mem.enterWorld]
  split
  · exact .inl ⟨rfl, rfl⟩
  · exact .inr ⟨rfl, rfl⟩

end Reader

end MetaCache
end RadarAim
