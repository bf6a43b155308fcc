import RadarAim.Reflection.Classes
import RadarAim.Reflection.Instances

/-! The object table. `read_object_from_array` guesses the layout of the table anew for every element, and
    the three enumerators agree on a window exactly when no guess of it goes wrong. -/

namespace RadarAim
namespace Objects

/-! ### The two readings of a slot -/

def flatSlot (m : Memory) (objects : UInt64) (index : Nat) : UInt64 := m.ptr (flatItem objects index)

/-- The pointer that a chunked table holds at `index`; 0 where there is no chunk. -/
def chunkedSlot (m : Memory) (objects : UInt64) (index : Nat) : UInt64 :=
  if rmValidatePtr (m.ptr (chunkEntry objects index)) then m.ptr (chunkItem (m.ptr (chunkEntry objects index)) index)
  else 0

def guess (m : Memory) (objects : UInt64) (index : Nat) : UInt64 :=
  if rmValidatePtr (flatSlot m objects index) then flatSlot m objects index else chunkedSlot m objects index

section Slots
variable (m : Memory) (objects : UInt64)

@[simp] theorem run_readObjectFromArray (index : Nat) :
    (readObjectFromArray objects index).run m.host = guess m objects index := by
  have hzero : ∀ a : UInt64, a + fuobjectitemObject = a := UInt64.add_zero
  simp only [readObjectFromArray, Prog.run_bind, Memory.run_rmReadPtr, hzero]
  unfold guess chunkedSlot flatSlot
  by_cases hflat : rmValidatePtr (m.ptr (flatItem objects index)) = true
  · simp [hflat]
  · by_cases hchunk : rmValidatePtr (m.ptr (chunkEntry objects index)) = true <;> simp [hflat, hchunk]

theorem batchItem_eq {b n k : Nat} {items : Buf} (hk : k < n)
    (h : (readBatch objects b n).run m.host = some items) : batchItem items k = flatSlot m objects (b + k) := by
  have hn : ¬n * fuobjectitemSize = 0 := by simp [fuobjectitemSize]; omega
  simp only [readBatch, Memory.run_rmRead, Memory.bytes, if_neg hn] at h
  have hle : k * fuobjectitemSize + 8 ≤ n * fuobjectitemSize := by
    unfold fuobjectitemSize
    omega
  have part := m.read_part _ _ h (Nat.succ_pos 7) hle
  have addr : flatItem objects b + .ofNat (k * fuobjectitemSize) = flatItem objects (b + k) := by
    rw [flatItem, flatItem, UInt64.ofNat_mul, UInt64.ofNat_add, UInt64.add_mul, UInt64.add_assoc]
  rw [addr] at part
  rw [flatSlot, Memory.ptr, part]
  exact le64_congr fun j _ => by rw [Nat.zero_add]

end Slots

/-! ### Decoding -/

inductive Layout where
  | flat
  | chunked

def Layout.slot (m : Memory) (objects : UInt64) (index : Nat) : Layout → UInt64
  | .flat => flatSlot m objects index
  | .chunked => chunkedSlot m objects index

/-- A table of `count` elements, all of whose items are readable. -/
def Layout.WellFormed (m : Memory) (objects : UInt64) (count : Nat) : Layout → Prop
  | .flat => (m.read objects (count * fuobjectitemSize)).isSome
  | .chunked => ∀ i < count, rmValidatePtr (m.ptr (chunkEntry objects i)) ∧
      (m.read (chunkItem (m.ptr (chunkEntry objects i)) i) fuobjectitemSize).isSome

/-- A valid pointer is returned as it is stored, and none is made up for a null slot. -/
def Decodes (m : Memory) (objects : UInt64) (index : Nat) (layout : Layout) : Prop :=
  let obj := (readObjectFromArray objects index).run m.host
  (rmValidatePtr (layout.slot m objects index) → obj = layout.slot m objects index) ∧
    (layout.slot m objects index = 0 → ¬rmValidatePtr obj)

/-- The other layout's reading of slot `index` is not taken for an object. -/
def Unmistaken (m : Memory) (objects : UInt64) (index : Nat) : Layout → Prop
  | .flat => flatSlot m objects index = 0 → ¬rmValidatePtr (chunkedSlot m objects index)
  | .chunked => rmValidatePtr (flatSlot m objects index) →
      flatSlot m objects index = chunkedSlot m objects index ∨
      (chunkedSlot m objects index ≠ 0 ∧ ¬rmValidatePtr (chunkedSlot m objects index))

theorem decodes_flat_iff (m : Memory) (objects : UInt64) (index : Nat) :
    Decodes m objects index .flat ↔ Unmistaken m objects index .flat := by
  simp only [Decodes, Unmistaken, Layout.slot, run_readObjectFromArray, guess]
  by_cases hflat : rmValidatePtr (flatSlot m objects index) = true
  · have hne : flatSlot m objects index ≠ 0 := fun h => by simp [h] at hflat
    simp [hflat, hne]
  · simp [hflat]

theorem decodes_chunked_iff (m : Memory) (objects : UInt64) (index : Nat) :
    Decodes m objects index .chunked ↔ Unmistaken m objects index .chunked := by
  simp only [Decodes, Unmistaken, Layout.slot, run_readObjectFromArray, guess]
  by_cases hflat : rmValidatePtr (flatSlot m objects index) = true
  · by_cases hslot : rmValidatePtr (chunkedSlot m objects index) = true
    · have hne : chunkedSlot m objects index ≠ 0 := fun h => by simp [h] at hslot
      simp [hflat, hslot, hne]
    · have hdiff : flatSlot m objects index ≠ chunkedSlot m objects index := fun h => hslot (h ▸ hflat)
      simp [hflat, hslot, hdiff]
  · by_cases hzero : chunkedSlot m objects index = 0
    · simp [hflat, hzero]
    · simp [hflat, hzero]

/-- `read_object_from_array` decodes a table exactly when no slot is mistaken for the other layout. -/
theorem readObjectFromArray_decodes_iff (m : Memory) (objects : UInt64) (count : Nat) (layout : Layout) :
    (∀ i < count, Decodes m objects i layout) ↔ ∀ i < count, Unmistaken m objects i layout := by
  cases layout with
  | flat => exact forall₂_congr fun i _ => decodes_flat_iff m objects i
  | chunked => exact forall₂_congr fun i _ => decodes_chunked_iff m objects i

/-- Two items of a flat table, of which the second is null. The name of the first object, read as the second
    item of a chunk, is a plausible pointer. -/
def nullSlotMemory : Memory := .ofSegments
  [(0x10000, leBytes 8 0x20000 ++ leBytes 40 0), (0x20000, leBytes 24 0 ++ leBytes 4 0x1234 ++ leBytes 4 1)]

theorem nullSlot_mistaken : ¬∀ (m : Memory) (objects : UInt64) (count : Nat) (layout : Layout),
    layout.WellFormed m objects count → ∀ i < count, Decodes m objects i layout := by
  intro h
  have hwf : Layout.flat.WellFormed nullSlotMemory 0x10000 2 := by
    unfold Layout.WellFormed
    decide +kernel
  have hnull : Layout.flat.slot nullSlotMemory 0x10000 1 = 0 := by decide +kernel
  have hobj : rmValidatePtr ((readObjectFromArray 0x10000 1).run nullSlotMemory.host) = true := by decide +kernel
  exact (h nullSlotMemory 0x10000 2 .flat hwf 1 (by decide)).2 hnull hobj

/-- In a chunked table the pointer to the first chunk is itself taken for the first object. -/
theorem chunked_first (m : Memory) (objects : UInt64) (count : Nat) (hcount : 0 < count)
    (h : Layout.chunked.WellFormed m objects count) :
    (readObjectFromArray objects 0).run m.host = m.ptr (chunkEntry objects 0) := by
  have haddr : flatItem objects 0 = chunkEntry objects 0 := by simp [flatItem, chunkEntry]
  rw [run_readObjectFromArray, guess, flatSlot, haddr, if_pos (h 0 hcount).1]

/-! ### Windows -/

def visitAll {σ : Type} (body : UInt64 → σ → Walker (Option σ)) : List UInt64 → σ → Walker (Option σ)
  | [], s => pure (some s)
  | obj :: objs, s => do
    match ← body obj s with
    | none => pure none
    | some s => visitAll body objs s

/-- The valid pointers among `slot k`, ..., `slot (k + todo - 1)`. -/
def validAt (slot : Nat → UInt64) (k todo : Nat) : List UInt64 := ((List.range' k todo).map slot).filter rmValidatePtr

section ValidAt
variable {f g : Nat → UInt64} {k k' todo : Nat}

theorem validAt_succ (f : Nat → UInt64) (k todo : Nat) :
    validAt f k (todo + 1) = if rmValidatePtr (f k) then f k :: validAt f (k + 1) todo else validAt f (k + 1) todo := by
  rw [validAt, List.range'_succ, List.map_cons, List.filter_cons]
  rfl

theorem validAt_congr (h : ∀ i < todo, f (k + i) = g (k' + i)) : validAt f k todo = validAt g k' todo := by
  induction todo generalizing k k' with
  | zero => rfl
  | succ todo ih =>
    have head : f k = g k' := h 0 (Nat.succ_pos todo)
    have tail : validAt f (k + 1) todo = validAt g (k' + 1) todo := ih fun i hi => by
      rw [Nat.add_right_comm k, Nat.add_right_comm k']
      exact h (i + 1) (Nat.succ_lt_succ hi)
    rw [validAt_succ, validAt_succ, head, tail]

theorem length_validAt_le (h : ∀ i, rmValidatePtr (f i) → rmValidatePtr (g i)) (k todo : Nat) :
    (validAt f k todo).length ≤ (validAt g k todo).length := by
  induction todo generalizing k with
  | zero => exact Nat.le_refl 0
  | succ todo ih =>
    have tail := ih (k + 1)
    rw [validAt_succ, validAt_succ]
    by_cases hf : rmValidatePtr (f k) = true
    · rw [if_pos hf, if_pos (h k hf)]
      exact Nat.succ_le_succ tail
    · rw [if_neg hf]
      split
      · exact Nat.le_succ_of_le tail
      · exact tail

/-- A fallback `g` for invalid slots adds nothing exactly when it is invalid wherever `f` is. -/
theorem validAt_fallback_iff (f g : Nat → UInt64) (k todo : Nat) :
    validAt f k todo = validAt (fun i => if rmValidatePtr (f i) then f i else g i) k todo ↔
      ∀ i, k ≤ i → i < k + todo → rmValidatePtr (f i) ∨ ¬rmValidatePtr (g i) := by
  induction todo generalizing k with
  | zero => exact iff_of_true rfl fun i hlo hhi => absurd hhi (Nat.not_lt.mpr hlo)
  | succ todo ih =>
    have split : (∀ i, k ≤ i → i < k + (todo + 1) → rmValidatePtr (f i) ∨ ¬rmValidatePtr (g i)) ↔
        (rmValidatePtr (f k) ∨ ¬rmValidatePtr (g k)) ∧
          ∀ i, k + 1 ≤ i → i < k + 1 + todo → rmValidatePtr (f i) ∨ ¬rmValidatePtr (g i) := by
      constructor
      · exact fun h => ⟨h k (Nat.le_refl k) (by omega), fun i hlo hhi => h i (by omega) (by omega)⟩
      · rintro ⟨head, tail⟩ i hlo hhi
        rcases Nat.eq_or_lt_of_le hlo with rfl | hlt
        · exact head
        · exact tail i hlt (by omega)
    rw [split, ← ih, validAt_succ, validAt_succ]
    by_cases hf : rmValidatePtr (f k) = true
    · simp [hf]
    · by_cases hg : rmValidatePtr (g k) = true
      · have hle := @length_validAt_le f (fun i => if rmValidatePtr (f i) then f i else g i)
          (fun i hi => by simp [hi]) (k + 1) todo
        have hne : validAt f (k + 1) todo ≠
            g k :: validAt (fun i => if rmValidatePtr (f i) then f i else g i) (k + 1) todo := fun h => by
          rw [h, List.length_cons] at hle
          omega
        simp [hf, hg, hne]
      · simp [hf, hg]

end ValidAt

section Windows
variable (m : Memory) (fetch : Nat → Read UInt64)

/-- On a memory that does not change, the window loop runs its body on the valid objects of the window. -/
theorem exec_forWindow {σ : Type} (body : UInt64 → σ → Walker (Option σ)) (todo k : Nat) (s : σ) (c : Ue4rCtx) :
    m.exec (forWindow fetch body todo k s) c =
      m.exec (visitAll body (validAt (fun i => (fetch i).run m.host) k todo) s) c := by
  induction todo generalizing k s c with
  | zero => rfl
  | succ todo ih =>
    rw [validAt_succ, forWindow, Memory.exec_bind, Memory.exec_lift]
    by_cases hobj : rmValidatePtr ((fetch k).run m.host) = true
    · simp only [visit, if_pos hobj, Memory.exec_bind, visitAll]
      cases (m.exec (body ((fetch k).run m.host) s) c).1 with
      | none => rfl
      | some s => exact ih _ _ _
    · simp only [visit, if_neg hobj, Memory.exec_bind, Memory.exec_pure]
      exact ih _ _ _

/-- A body that notes the objects it is given. -/
def note (obj : UInt64) (seen : List UInt64) : Walker (Option (List UInt64)) := pure (some (seen ++ [obj]))

theorem exec_visitAll_note (objs seen : List UInt64) (c : Ue4rCtx) :
    m.exec (visitAll note objs seen) c = (some (seen ++ objs), c) := by
  induction objs generalizing seen with
  | nil => rw [List.append_nil]; rfl
  | cons obj objs ih =>
    show m.exec (visitAll note objs (seen ++ [obj])) c = _
    rw [ih, List.append_assoc]
    rfl

/-- A body of the instance search that notes the objects it is given. -/
def noteInstance (obj : UInt64) (seen : List UInt64) : Walker (FindStep × List UInt64) :=
  pure (.next, seen ++ [obj])

theorem exec_findLoop_noteInstance (count budget cursor : Nat) (seen : List UInt64) (c : Ue4rCtx) :
    (m.exec (findLoop fetch count noteInstance budget cursor seen) c).1.2.2 =
      seen ++ validAt (fun i => (fetch i).run m.host) cursor (min (count - cursor) budget) := by
  induction budget generalizing cursor seen with
  | zero => simp [findLoop, validAt]
  | succ budget ih =>
    by_cases hlt : cursor < count
    · have hmin : min (count - cursor) (budget + 1) = min (count - (cursor + 1)) budget + 1 := by omega
      rw [findLoop, if_pos hlt, Memory.exec_bind, Memory.exec_lift, hmin, validAt_succ]
      by_cases hobj : rmValidatePtr ((fetch cursor).run m.host) = true
      · simp only [if_pos hobj, noteInstance, Memory.exec_bind, Memory.exec_pure]
        rw [ih, List.append_assoc]
        rfl
      · simp only [if_neg hobj]
        exact ih _ _
    · rw [findLoop, if_neg hlt, Nat.sub_eq_zero_of_le (Nat.le_of_not_lt hlt), Nat.zero_min]
      simp [validAt]

end Windows

/-! ### The three enumerators -/

inductive Enumerator where
  | walkClasses
  | iterateClasses
  | findInstance

/-- The objects that an enumerator examines in the window of at most 512 items at `b`, given the reply to its
    batch read. -/
def examined (m : Memory) (c : Ue4rCtx) (objects : UInt64) (count b : Nat) (batch : Option Buf) :
    Enumerator → List UInt64
  | .walkClasses | .iterateClasses =>
    (m.exec (forWindow (batchObject objects b batch) note (min (count - b) batchSize) 0 []) c).1.getD []
  | .findInstance =>
    (m.exec (findLoop (instanceObject objects b (min (count - b) batchSize) batch) count noteInstance
      batchSize b []) c).1.2.2

/-- The batch read of a window fails, or returns what the memory holds. -/
def BatchReply (m : Memory) (objects : UInt64) (b n : Nat) (batch : Option Buf) : Prop :=
  batch = none ∨ batch = (readBatch objects b n).run m.host

section Enumerators
variable (m : Memory) (objects : UInt64)

/-- The instance search guesses every item, whether or not it is in the batch. -/
theorem run_instanceObject {b n : Nat} {batch : Option Buf} (h : BatchReply m objects b n batch) (i : Nat) :
    (instanceObject objects b n batch i).run m.host = guess m objects i := by
  cases batch with
  | none => exact run_readObjectFromArray m objects i
  | some items =>
    obtain h | h := h
    · cases h
    · rw [instanceObject]
      split
      · rename_i hin
        obtain ⟨hlo, hhi, hvalid⟩ := hin
        have hitem := batchItem_eq m objects (show i - b < n by omega) h.symm
        rw [Nat.add_sub_cancel' hlo] at hitem
        rw [hitem] at hvalid ⊢
        rw [Prog.run_pure, guess, if_pos hvalid]
      · exact run_readObjectFromArray m objects i

theorem examined_findInstance (c : Ue4rCtx) {count b : Nat} {batch : Option Buf}
    (h : BatchReply m objects b (min (count - b) batchSize) batch) :
    examined m c objects count b batch .findInstance = validAt (guess m objects) b (min (count - b) batchSize) := by
  rw [examined, exec_findLoop_noteInstance, List.nil_append]
  exact validAt_congr fun i _ => run_instanceObject m objects h (b + i)

/-- The class enumerators take the flat slots from a batch, and guess every item without one. -/
theorem examined_classes (c : Ue4rCtx) {count b : Nat} {batch : Option Buf}
    (h : BatchReply m objects b (min (count - b) batchSize) batch) :
    examined m c objects count b batch .iterateClasses =
      validAt (if batch.isSome then flatSlot m objects else guess m objects) b (min (count - b) batchSize) := by
  simp only [examined, exec_forWindow, exec_visitAll_note, Option.getD_some, List.nil_append]
  refine validAt_congr fun i hi => ?_
  rw [Nat.zero_add]
  cases batch with
  | none => exact run_readObjectFromArray m objects (b + i)
  | some items =>
    obtain h | h := h
    · cases h
    · exact batchItem_eq m objects hi h.symm

/-- The three enumerators examine the same objects in a window, whatever becomes of its batch read, exactly
    when the window cannot be read in one batch or the fallback makes up no object for an invalid slot. -/
theorem examined_agree_iff (c : Ue4rCtx) (count b : Nat) :
    (∀ batch batch' e e', BatchReply m objects b (min (count - b) batchSize) batch →
        BatchReply m objects b (min (count - b) batchSize) batch' →
        examined m c objects count b batch e = examined m c objects count b batch' e') ↔
      (((readBatch objects b (min (count - b) batchSize)).run m.host).isSome →
        ∀ i, b ≤ i → i < b + min (count - b) batchSize →
          rmValidatePtr (flatSlot m objects i) ∨ ¬rmValidatePtr (chunkedSlot m objects i)) := by
  rw [← validAt_fallback_iff]
  show _ ↔ (_ → validAt (flatSlot m objects) b _ = validAt (guess m objects) b _)
  have hnone : BatchReply m objects b (min (count - b) batchSize) none := Or.inl rfl
  constructor
  · intro h hsome
    obtain ⟨items, hitems⟩ := Option.isSome_iff_exists.mp hsome
    have hread : BatchReply m objects b (min (count - b) batchSize) (some items) := Or.inr hitems.symm
    -- One enumerator is given the batch, and the other reads slot by slot.
    have heq := h (some items) none .iterateClasses .findInstance hread hnone
    rwa [examined_classes m objects c hread, examined_findInstance m objects c hnone] at heq
  · intro h
    have all : ∀ batch e, BatchReply m objects b (min (count - b) batchSize) batch →
        examined m c objects count b batch e = validAt (guess m objects) b (min (count - b) batchSize) := by
      intro batch e hbatch
      have classes : examined m c objects count b batch .iterateClasses =
          validAt (guess m objects) b (min (count - b) batchSize) := by
        rw [examined_classes m objects c hbatch]
        cases batch with
        | none => rfl
        | some items =>
          obtain hn | hr := hbatch
          · cases hn
          · exact h (hr ▸ rfl)
      cases e with
      | walkClasses => exact classes
      | iterateClasses => exact classes
      | findInstance => exact examined_findInstance m objects c hbatch
    intro batch batch' e e' hbatch hbatch'
    rw [all batch e hbatch, all batch' e' hbatch']

/-- The instance search examines the object made up for the null slot, the class enumerators do not. -/
theorem nullSlot_disagree :
    ¬∀ (m : Memory) (c : Ue4rCtx) (objects : UInt64) (count b : Nat) (batch batch' : Option Buf) (e e' : Enumerator),
      BatchReply m objects b (min (count - b) batchSize) batch →
      BatchReply m objects b (min (count - b) batchSize) batch' →
      examined m c objects count b batch e = examined m c objects count b batch' e' := by
  intro h
  have hnone : BatchReply nullSlotMemory 0x10000 0 (min (2 - 0) batchSize) none := Or.inl rfl
  have hread : BatchReply nullSlotMemory 0x10000 0 (min (2 - 0) batchSize)
      ((readBatch 0x10000 0 (min (2 - 0) batchSize)).run nullSlotMemory.host) := Or.inr rfl
  have hsome : ((readBatch 0x10000 0 (min (2 - 0) batchSize)).run nullSlotMemory.host).isSome = true := by
    decide +kernel
  have heq := h nullSlotMemory (.initial 0 0 0) 0x10000 2 0 _ none .iterateClasses .findInstance hread hnone
  rw [examined_classes _ _ _ hread, examined_findInstance _ _ _ hnone, hsome, if_pos rfl] at heq
  exact absurd heq (by decide +kernel)

end Enumerators

end Objects
end RadarAim
