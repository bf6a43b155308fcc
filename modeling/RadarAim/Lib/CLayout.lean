import RadarAim.Lib.Bytes

/-! How C lays out its values: a structure has each member at the next multiple of the member's alignment, an array
    its elements one after the other. `Holds` is the view of a reader with offsets of its own. -/

namespace RadarAim

namespace CLayout

/-- The bytes of a value, with the alignment of its type. -/
structure CValue where
  align : Nat
  bytes : List UInt8

def padding (align off : Nat) : Nat := (align - off % align) % align

/-- The members from `off` on. C leaves the bytes of the padding open; here they are zeros. -/
def members : (off : Nat) → List CValue → List UInt8
  | _, [] => []
  | off, v :: vs =>
    List.replicate (padding v.align off) 0 ++ (v.bytes ++ members (off + padding v.align off + v.bytes.length) vs)

def maxAlign : List CValue → Nat
  | [] => 1
  | v :: vs => max v.align (maxAlign vs)

/-- A structure is padded to a multiple of its alignment. -/
def struct (vs : List CValue) : CValue where
  align := maxAlign vs
  bytes := members 0 vs ++ List.replicate (padding (maxAlign vs) (members 0 vs).length) 0

def array (vs : List CValue) : CValue := ⟨maxAlign vs, vs.flatMap CValue.bytes⟩

def uint8 (x : UInt8) : CValue := ⟨1, [x]⟩
def uint32 (x : UInt32) : CValue := ⟨4, leBytes 4 x.toNat⟩
def int32 (x : Int32) : CValue := ⟨4, leBytes 4 x.toBitVec.toNat⟩
def chars {n : Nat} (s : Vector UInt8 n) : CValue := ⟨1, s.toList⟩

section Sizes
variable {n : Nat} (x : UInt32) (y : Int32) (c : UInt8) (s : Vector UInt8 n) (vs : List CValue)

@[simp] theorem align_uint8 : (uint8 c).align = 1 := rfl
@[simp] theorem align_uint32 : (uint32 x).align = 4 := rfl
@[simp] theorem align_int32 : (int32 y).align = 4 := rfl
@[simp] theorem align_chars : (chars s).align = 1 := rfl
@[simp] theorem align_struct : (struct vs).align = maxAlign vs := rfl
@[simp] theorem align_array : (array vs).align = maxAlign vs := rfl
@[simp] theorem size_uint8 : (uint8 c).bytes.length = 1 := rfl
@[simp] theorem size_uint32 : (uint32 x).bytes.length = 4 := length_leBytes 4 _
@[simp] theorem size_int32 : (int32 y).bytes.length = 4 := length_leBytes 4 _
@[simp] theorem size_chars : (chars s).bytes.length = n := Vector.length_toList

theorem size_array {size : Nat} (h : ∀ v ∈ vs, v.bytes.length = size) :
    (array vs).bytes.length = size * vs.length := by
  induction vs with
  | nil => rfl
  | cons v vs ih =>
    have hrest := ih fun w hw => h w (List.mem_cons_of_mem v hw)
    simp only [array] at hrest ⊢
    rw [List.flatMap_cons, List.length_append, hrest, h v List.mem_cons_self, List.length_cons, Nat.mul_succ,
      Nat.add_comm]

/-- The alignment of an array is that of its elements. -/
theorem maxAlign_const {align : Nat} (hne : vs ≠ []) (hpos : 1 ≤ align) (h : ∀ v ∈ vs, v.align = align) :
    maxAlign vs = align := by
  induction vs with
  | nil => exact absurd rfl hne
  | cons v vs ih =>
    rw [maxAlign, h v List.mem_cons_self]
    cases vs with
    | nil => exact Nat.max_eq_left hpos
    | cons w ws =>
      rw [ih (List.cons_ne_nil w ws) fun u hu => h u (List.mem_cons_of_mem v hu), Nat.max_self]

end Sizes

/-! ### Reading a layout -/

/-- The bytes stand in the buffer from `off` on. -/
def Holds (b : Buf) (off : Nat) (bytes : List UInt8) : Prop := ∀ i (h : i < bytes.length), b (off + i) = bytes[i]

section Holds
variable {b : Buf} {off : Nat}

@[simp] theorem holds_nil : Holds b off [] := fun _ h => absurd h (Nat.not_lt_zero _)

theorem holds_append {xs ys : List UInt8} :
    Holds b off (xs ++ ys) ↔ Holds b off xs ∧ Holds b (off + xs.length) ys := by
  constructor
  · intro h
    refine ⟨fun i hi => ?_, fun i hi => ?_⟩
    · rw [h i (by rw [List.length_append]; omega), List.getElem_append_left hi]
    · rw [Nat.add_assoc, h (xs.length + i) (by rw [List.length_append]; omega),
        List.getElem_append_right (Nat.le_add_right _ _)]
      simp
  · rintro ⟨hx, hy⟩ i hi
    rcases Nat.lt_or_ge i xs.length with hlt | hge
    · rw [List.getElem_append_left hlt]
      exact hx i hlt
    · obtain ⟨j, rfl⟩ := Nat.exists_eq_add_of_le hge
      rw [List.length_append] at hi
      rw [List.getElem_append_right hge, ← Nat.add_assoc, hy j (by omega)]
      simp

theorem holds_self (l : List UInt8) : Holds (fun i => l.getD i 0) 0 l := by
  intro i hi
  simp [hi]

theorem Holds.bytes {l : List UInt8} (h : Holds b off l) : (List.range l.length).map (fun i => b (off + i)) = l := by
  refine List.ext_getElem (by simp) fun i hi hi' => ?_
  simp [h i hi']

theorem Holds.leNat {n value : Nat} (h : Holds b off (leBytes n value)) : leNat b off n = value % 256 ^ n := by
  refine leNat_of_bytes fun i hi => ?_
  have hi' : i < (leBytes n value).length := by rwa [length_leBytes]
  rw [h i hi', getElem_leBytes]

theorem Holds.chars {n : Nat} {s : Vector UInt8 n} (h : Holds b off (chars s).bytes) :
    (List.range n).map (fun i => b (off + i)) = s.toList := by
  have hbytes := Holds.bytes h
  rwa [size_chars] at hbytes

theorem Holds.uint8 {x : UInt8} (h : Holds b off (uint8 x).bytes) : b off = x := h 0 (Nat.one_pos)

theorem Holds.uint32 {x : UInt32} (h : Holds b off (uint32 x).bytes) : le32 b off = x := by
  have hlt : x.toNat < 256 ^ 4 := x.toNat_lt
  rw [le32, Holds.leNat h, Nat.mod_eq_of_lt hlt, UInt32.ofNat_toNat]

theorem Holds.int32 {x : Int32} (h : Holds b off (int32 x).bytes) : leI32 b off = x.toInt := by
  have hlt : x.toBitVec.toNat < 256 ^ 4 := x.toBitVec.isLt
  rw [leI32, Holds.leNat h, Nat.mod_eq_of_lt hlt, BitVec.ofNat_toNat]
  simp

theorem Holds.struct {vs : List CValue} (h : Holds b off (struct vs).bytes) : Holds b off (members 0 vs) :=
  (holds_append.mp h).1

@[simp] theorem holds_members_nil {pos : Nat} : Holds b off (members pos []) := holds_nil

theorem holds_members {vs : List CValue} {v : CValue} {pos : Nat} :
    Holds b off (members pos (v :: vs)) ↔ Holds b off (List.replicate (padding v.align pos) 0) ∧
      Holds b (off + padding v.align pos) v.bytes ∧
      Holds b (off + padding v.align pos + v.bytes.length)
        (members (pos + padding v.align pos + v.bytes.length) vs) := by
  rw [members, holds_append, holds_append, List.length_replicate]

/-- Element `i` of an array whose elements have `size` bytes. -/
theorem Holds.element {vs : List CValue} {size : Nat} (h : Holds b off (array vs).bytes)
    (hsize : ∀ v ∈ vs, v.bytes.length = size) {i : Nat} {v : CValue} (hv : vs[i]? = some v) :
    Holds b (off + size * i) v.bytes := by
  induction vs generalizing off i with
  | nil => simp at hv
  | cons w ws ih =>
    have hw := hsize w List.mem_cons_self
    simp only [array, List.flatMap_cons, holds_append, hw] at h
    cases i with
    | zero =>
      obtain rfl : w = v := by simpa using hv
      exact h.1
    | succ i =>
      have hrest := ih h.2 (fun v hv => hsize v (List.mem_cons_of_mem w hv)) (by simpa using hv)
      rwa [Nat.add_assoc, Nat.add_comm size, ← Nat.mul_succ] at hrest

end Holds

end CLayout
end RadarAim
