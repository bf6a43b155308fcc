import RadarAim.Reflection.Lists
import RadarAim.Reflection.Objects

/-! Enumerating the classes of the process (`ue4r_walk_classes`, `ue4r_iterate_classes`). The window loop
    carries a state `σ` of its caller: the list of classes so far, or the userdata of the callback and the
    number of classes given to it. -/

namespace RadarAim

/-- `build_path_name` at depth `maxPathDepth + 1 - left`. -/
def buildPathName : (left : Nat) → (objAddr : UInt64) → (max : Nat) → Walker Str
  | 0, _, max => pure (snprintf max (lit "..."))
  | left + 1, objAddr, max =>
    if rmValidatePtr objAddr then do
      let (resolved, name) ← resolveObjectName objAddr 256
      let name := if resolved then name else lit "<unknown>"
      let outer ← rmReadPtr (objAddr + offUobjectOuter)
      if rmValidatePtr outer then do
        let outerPath ← buildPathName left outer 512
        pure (snprintf max (outerPath ++ lit "." ++ name))
      else if name.head? = some 0x2f then pure (snprintf max name)
      else pure (snprintf max (lit "/" ++ name))
    else pure (snprintf max (lit "<null>"))

structure Ue4Class where
  name : Str
  superName : Str
  structSize : Int
  properties : List Ue4Property
  functions : List Ue4Function
  deriving DecidableEq

/-- Whether the object `obj` is a UClass. The first metaclass found by name is kept. -/
def isUclass (obj : UInt64) : Walker Bool := do
  let cls ← rmReadPtr (obj + offUobjectClass)
  let ctx ← get
  if ctx.uclassClass ≠ 0 ∧ cls = ctx.uclassClass then pure true
  else if rmValidatePtr cls then do
    let (resolved, clsName) ← resolveObjectName cls 256
    if resolved ∧ clsName = lit "Class" then do
      modify fun c => if c.uclassClass = 0 then { c with uclassClass := cls } else c
      pure true
    else pure false
  else pure false

def readSuperName (superPtr : UInt64) : Walker Str :=
  if rmValidatePtr superPtr then buildPathName (maxPathDepth + 1) superPtr 512 else pure []

/-- The record of the class `obj`; `none` when a list walk has not ended. -/
def readClass (fuel : Nat) (obj : UInt64) : Walker (Option Ue4Class) := do
  let name ← buildPathName (maxPathDepth + 1) obj 512
  let superPtr ← rmReadPtr (obj + offUstructSuper)
  let superPtr ← validOr superPtr (obj + offUstructSuper425)
  let superName ← readSuperName superPtr
  let structSize ← readFallback rmReadI32 (obj + offUstructPropsSize) (obj + offUstructPropsSize425)
  match ← readProperties fuel obj with
  | none => pure none
  | some properties => do
    match ← readFunctions fuel obj with
    | none => pure none
    | some functions =>
      pure (some { name, superName, structSize, properties := properties.items, functions := functions.items })

def visit {σ : Type} (body : UInt64 → σ → Walker (Option σ)) (obj : UInt64) (s : σ) : Walker (Option σ) :=
  if rmValidatePtr obj then body obj s else pure (some s)

/-- The loop over items `k`, ..., `k + todo - 1` of one window. -/
def forWindow {σ : Type} (fetch : Nat → Read UInt64) (body : UInt64 → σ → Walker (Option σ)) :
    (todo k : Nat) → σ → Walker (Option σ)
  | 0, _, s => pure (some s)
  | todo + 1, k, s => do
    let obj ← fetch k
    match ← visit body obj s with
    | none => pure none
    | some s => forWindow fetch body todo (k + 1) s

def forWindows {σ : Type} (objectsPtr : UInt64) (body : UInt64 → σ → Walker (Option σ)) :
    (windows numElems b : Nat) → σ → Walker (Option σ)
  | 0, _, _, s => pure (some s)
  | windows + 1, numElems, b, s => do
    let toRead := min (numElems - b) batchSize
    let batch ← readBatch objectsPtr b toRead
    match ← forWindow (batchObject objectsPtr b batch) body toRead 0 s with
    | none => pure none
    | some s => forWindows objectsPtr body windows numElems (b + batchSize) s

def windowCount (numElems : Nat) : Nat := (numElems + (batchSize - 1)) / batchSize

/-- The body of `ue4r_walk_classes`: a class is appended to the list. -/
def walkBody (fuel : Nat) (obj : UInt64) (list : List Ue4Class) : Walker (Option (List Ue4Class)) := do
  if ← isUclass obj then
    match ← readClass fuel obj with
    | none => pure none
    | some c => pure (some (list ++ [c]))
  else pure (some list)

/-- The list of all classes; allocation never fails. -/
def ue4rWalkClasses (fuel : Nat) : Walker (Option (List Ue4Class)) := do
  match ← getObjectsInfo (← get).guobjectarray with
  | none => pure (some [])
  | some (objectsPtr, numElems) =>
    let numElems := min numElems maxObjects
    forWindows objectsPtr (walkBody fuel) (windowCount numElems) numElems 0 []

/-- The body of `ue4r_iterate_classes`: a class is given to the callback and counted. -/
def iterateBody {ω : Type} (fuel : Nat) (cb : ω → Ue4Class → ω) (obj : UInt64) (s : ω × Int) :
    Walker (Option (ω × Int)) := do
  if ← isUclass obj then
    match ← readClass fuel obj with
    | none => pure none
    | some c => pure (some (cb s.1 c, s.2 + 1))
  else pure (some s)

/-- The userdata after all callbacks, and the number of classes, or -1. -/
def ue4rIterateClasses {ω : Type} (fuel : Nat) (cb : ω → Ue4Class → ω) (userdata : ω) :
    Walker (Option (ω × Int)) := do
  match ← getObjectsInfo (← get).guobjectarray with
  | none => pure (some (userdata, -1))
  | some (objectsPtr, numElems) =>
    let numElems := min numElems maxObjects
    forWindows objectsPtr (iterateBody fuel cb) (windowCount numElems) numElems 0 (userdata, 0)

end RadarAim
