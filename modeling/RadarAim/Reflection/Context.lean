import Mathlib.Logic.Function.Basic
import RadarAim.RemoteMemory

/-! The context of the reflection walker and the offsets it reads at (`ue4_offsets.h`, the head of
    `ue4_reflection.c`). -/

namespace RadarAim

def offFnameIndex : UInt64 := 0x00
def offFnameNumber : UInt64 := 0x04

def fnameentryHeaderSize : UInt64 := 2
def fnameentryHeaderWideMask : UInt16 := 0x0001
def fnameentryHeaderLenShift : UInt16 := 6
def fnameBlockOffsetBits : Nat := 16

def offUobjectClass : UInt64 := 0x10
def offUobjectName : UInt64 := 0x18
def offUobjectOuter : UInt64 := 0x20
def offUfieldNext : UInt64 := 0x28

def offUstructSuper : UInt64 := 0x30
def offUstructChildren : UInt64 := 0x38
def offUstructPropsSize : UInt64 := 0x40
def offUstructSuper425 : UInt64 := 0x40
def offUstructChildren425 : UInt64 := 0x48
def offUstructChildProps : UInt64 := 0x50
def offUstructPropsSize425 : UInt64 := 0x58

def offUfuncFlags418 : UInt64 := 0x88
def offUfuncParmsSize418 : UInt64 := 0x8E
def offUfuncFlags425 : UInt64 := 0xB0
def offUfuncParmsSize425 : UInt64 := 0xB6

def offFfieldClass : UInt64 := 0x08
def offFfieldNext : UInt64 := 0x20
def offFfieldName : UInt64 := 0x28
def offFfieldclassName : UInt64 := 0x00

def offFpropArrayDim : UInt64 := 0x38
def offFpropElementSize : UInt64 := 0x3C
def offFpropOffset : UInt64 := 0x4C

def offGuobjChunked : UInt64 := 0x10
def offChunkedObjects : UInt64 := 0x00
def offChunkedNumElems : UInt64 := 0x14

def fuobjectitemObject : UInt64 := 0x00
def fuobjectitemSize : Nat := 0x18
def elementsPerChunk : Nat := 64 * 1024

def fnamepoolBlocksOffset : UInt64 := 0x40
def fnameEntryStride : UInt64 := 2

def maxObjects : Nat := 500000
def maxListWalk : Nat := 1000
def maxPathDepth : Nat := 10
def maxInitScanObjs : Nat := 8192

def nameCacheSize : Nat := 8192

/-! ### The context -/

/-- A slot of the name cache. The source keeps at most 59 bytes of a name. -/
structure NameCacheSlot where
  compIndex : Int
  name : Str

/-- `struct ue4r_ctx`; arrays are functions of the index. -/
structure Ue4rCtx where
  guobjectarray : UInt64
  gnamepool : UInt64
  gnameChunkTable : UInt64
  cachedChunks : Nat → UInt64
  uclassClass : UInt64
  lookupKeys : Nat → UInt64
  lookupMatches : Nat → Bool
  lookupClass : UInt64
  lookupName : Str
  nameCache : Nat → NameCacheSlot

def emptyNameCache : Nat → NameCacheSlot := fun _ => ⟨-1, []⟩

def Ue4rCtx.initial (guobjectarray gnamepool gnameChunkTable : UInt64) : Ue4rCtx :=
  { guobjectarray, gnamepool, gnameChunkTable, cachedChunks := fun _ => 0, uclassClass := 0
    lookupKeys := fun _ => 0, lookupMatches := fun _ => false, lookupClass := 0, lookupName := []
    nameCache := emptyNameCache }

abbrev Walker := StateT Ue4rCtx Read

namespace Memory

/-- The result of `p` on context `c` and a memory that does not change. -/
def exec {α : Type} (m : Memory) (p : Walker α) (c : Ue4rCtx) : α × Ue4rCtx := (p.run c).run m.host

section Exec
variable {α β : Type} (m : Memory) (c : Ue4rCtx)

@[simp] theorem exec_pure (a : α) : m.exec (pure a) c = (a, c) := rfl

@[simp] theorem exec_bind (p : Walker α) (f : α → Walker β) :
    m.exec (p >>= f) c = m.exec (f (m.exec p c).1) (m.exec p c).2 := by
  simp [exec]

@[simp] theorem exec_map (p : Walker α) (f : α → β) :
    m.exec (f <$> p) c = (f (m.exec p c).1, (m.exec p c).2) := by
  simp [exec]

@[simp] theorem exec_lift (p : Read α) : m.exec (liftM p) c = (p.run m.host, c) := by
  show (StateT.run (StateT.lift p) c).run m.host = _
  simp

@[simp] theorem exec_get : m.exec get c = (c, c) := rfl

@[simp] theorem exec_modify (f : Ue4rCtx → Ue4rCtx) : m.exec (modify f) c = ((), f c) := rfl

theorem exec_ite (b : Prop) [Decidable b] (p q : Walker α) :
    m.exec (if b then p else q) c = if b then m.exec p c else m.exec q c := by
  split <;> rfl

end Exec
end Memory

/-- The result of `p` on context `c` when its reads are answered by `h k`, `h (k + 1)`, ..., and the number of
    the first read not made. -/
def evalFrom {α : Type} (h : Nat → Handler Host) (k : Nat) (p : Walker α) (c : Ue4rCtx) : (α × Ue4rCtx) × Nat :=
  (p.run c).eval h k

section EvalFrom
variable {α β : Type} (h : Nat → Handler Host) (k : Nat) (c : Ue4rCtx)

@[simp] theorem evalFrom_pure (a : α) : evalFrom h k (pure a) c = ((a, c), k) := rfl

@[simp] theorem evalFrom_bind (p : Walker α) (f : α → Walker β) :
    evalFrom h k (p >>= f) c =
      evalFrom h (evalFrom h k p c).2 (f (evalFrom h k p c).1.1) (evalFrom h k p c).1.2 := by
  simp [evalFrom]

@[simp] theorem evalFrom_map (p : Walker α) (f : α → β) :
    evalFrom h k (f <$> p) c = ((f (evalFrom h k p c).1.1, (evalFrom h k p c).1.2), (evalFrom h k p c).2) := by
  simp [evalFrom]

@[simp] theorem evalFrom_lift (p : Read α) :
    evalFrom h k (liftM p) c = (((p.eval h k).1, c), (p.eval h k).2) := by
  show (StateT.run (StateT.lift p) c).eval h k = _
  simp

@[simp] theorem evalFrom_get : evalFrom h k get c = ((c, c), k) := rfl

theorem le_evalFrom (p : Walker α) : k ≤ (evalFrom h k p c).2 := Prog.le_eval h k (p.run c)

end EvalFrom
end RadarAim
