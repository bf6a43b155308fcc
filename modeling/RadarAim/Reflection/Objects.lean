import RadarAim.Reflection.Names

/-! The object table of the process (`read_object_from_array`, `get_objects_info`), the window over it that
    the enumerators read in one batch, and the start of the walker (`ue4r_init`). -/

namespace RadarAim

def flatItem (objectsPtr : UInt64) (index : Nat) : UInt64 := objectsPtr + .ofNat index * .ofNat fuobjectitemSize

def chunkItem (chunkPtr : UInt64) (index : Nat) : UInt64 :=
  chunkPtr + .ofNat (index % elementsPerChunk) * .ofNat fuobjectitemSize + fuobjectitemObject

def chunkEntry (objectsPtr : UInt64) (index : Nat) : UInt64 := objectsPtr + .ofNat (index / elementsPerChunk) * 8

/-- The flat layout is tried first, then the chunked one. -/
def readObjectFromArray (objectsPtr : UInt64) (index : Nat) : Read UInt64 := do
  let flatObj ← rmReadPtr (flatItem objectsPtr index + fuobjectitemObject)
  if rmValidatePtr flatObj then pure flatObj
  else do
    let chunkPtr ← rmReadPtr (chunkEntry objectsPtr index)
    if rmValidatePtr chunkPtr then rmReadPtr (chunkItem chunkPtr index) else pure 0

/-- `ptr` with the count at `countAddr`, when both are plausible. -/
def objectsAt (ptr countAddr : UInt64) : Read (Option (UInt64 × Nat)) := do
  let (count, ok) ← rmReadI32 countAddr
  pure (if rmValidatePtr ptr ∧ ok ∧ 0 < count then some (ptr, count.toNat) else none)

/-- The object table and its number of elements; `none` for a null pointer. -/
def getObjectsInfo (guobjectarray : UInt64) : Read (Option (UInt64 × Nat)) := do
  let chunked := guobjectarray + offGuobjChunked
  let ptr ← rmReadPtr (chunked + offChunkedObjects)
  match ← objectsAt ptr (chunked + offChunkedNumElems) with
  | some info => pure (some info)
  | none => do
    match ← objectsAt ptr (chunked + 0x14) with
    | some info => pure (some info)
    | none => do
      let ptr ← rmReadPtr (guobjectarray + 0x10)
      match ← objectsAt ptr (guobjectarray + 0x1c) with
      | some info => pure (some info)
      | none => do
        let ptr ← rmReadPtr guobjectarray
        match ← objectsAt ptr (guobjectarray + 0x14) with
        | some info => pure (some info)
        | none => pure (if rmValidatePtr ptr then some (ptr, 100000) else none)

/-! ### Windows -/

def batchSize : Nat := 512

def readBatch (objectsPtr : UInt64) (b n : Nat) : Read (Option Buf) :=
  rmRead (flatItem objectsPtr b) (n * fuobjectitemSize)

def batchItem (items : Buf) (k : Nat) : UInt64 := le64 items (k * fuobjectitemSize)

/-- The pointer that `ue4r_walk_classes` and `ue4r_iterate_classes` take for item `b + k`. -/
def batchObject (objectsPtr : UInt64) (b : Nat) (batch : Option Buf) (k : Nat) : Read UInt64 :=
  match batch with
  | some items => pure (batchItem items k)
  | none => readObjectFromArray objectsPtr (b + k)

/-- The pointer that `ue4r_find_instance` takes for item `index`. -/
def instanceObject (objectsPtr : UInt64) (batchStart batchCount : Nat) (batch : Option Buf) (index : Nat) :
    Read UInt64 :=
  match batch with
  | some items =>
    if batchStart ≤ index ∧ index < batchStart + batchCount ∧ rmValidatePtr (batchItem items (index - batchStart))
    then pure (batchItem items (index - batchStart))
    else readObjectFromArray objectsPtr index
  | none => readObjectFromArray objectsPtr index

/-! ### Initialization -/

def configRuntimeAddress (value base slide : UInt64) : UInt64 :=
  if value = 0 then 0
  else
    let adjustment := if value ≥ 0x100000000 then slide else base
    if value > 0xFFFFFFFFFFFFFFFF - adjustment then 0 else value + adjustment

def findUclassClassLoop (objectsPtr : UInt64) : (todo i : Nat) → Walker UInt64
  | 0, _ => pure 0
  | todo + 1, i => do
    let obj ← readObjectFromArray objectsPtr i
    if rmValidatePtr obj then do
      let cls ← rmReadPtr (obj + offUobjectClass)
      let (resolved, name) ← resolveObjectName obj 256
      if resolved ∧ name = lit "Class" then
        if cls = obj then pure obj
        else do
          let (resolved, clsName) ← resolveObjectName cls 256
          if resolved ∧ clsName = lit "Class" then pure cls else findUclassClassLoop objectsPtr todo (i + 1)
      else findUclassClassLoop objectsPtr todo (i + 1)
    else findUclassClassLoop objectsPtr todo (i + 1)

def findUclassClass : Walker UInt64 := do
  match ← getObjectsInfo (← get).guobjectarray with
  | none => pure 0
  | some (objectsPtr, numElems) => findUclassClassLoop objectsPtr (min numElems maxInitScanObjs) 0

def gnamesPointer (gnamepool : UInt64) : Read UInt64 := do
  let ptr ← rmReadPtr (gnamepool + 8)
  if ptr = 0 then rmReadPtr gnamepool else pure ptr

def derefChunkTable : (derefCount : Nat) → UInt64 → Read UInt64
  | 0, ptr => pure ptr
  | n + 1, ptr => if rmValidatePtr ptr then do derefChunkTable n (← rmReadPtr ptr) else pure ptr

/-- A configured address, or the known offset `fallback` from the image. -/
def addressOr (fallback off imageBase slide : UInt64) : UInt64 :=
  if off ≠ 0 then configRuntimeAddress off imageBase slide else imageBase + fallback

/-- The indirections that the word at `gnamepool` asks for. -/
def derefCount (val0 : Nat) : Nat := if val0 ≥ 100 then (val0 - 100) / 3 else 0

/-- `none` when the GNames indirection count is implausible. -/
def ue4rInit (imageBase slide guobjOff gnamesOff : UInt64) : Read (Option Ue4rCtx) := do
  let guobjectarray := addressOr 0x0aad3898 guobjOff imageBase slide
  let gnamepool := addressOr 0x0a898170 gnamesOff imageBase slide
  let val0 := ((← rmRead gnamepool 4).map fun b => leNat b 0 4).getD 0
  if derefCount val0 > 16 then pure none
  else do
    let table ← derefChunkTable (derefCount val0) (← gnamesPointer gnamepool)
    let (uclass, ctx) ← findUclassClass.run (.initial guobjectarray gnamepool table)
    pure (some { ctx with uclassClass := uclass })

def ue4rReady (ctx : Ue4rCtx) : Bool := ctx.uclassClass != 0

end RadarAim
