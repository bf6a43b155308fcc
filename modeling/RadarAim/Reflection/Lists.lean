import RadarAim.Reflection.Names

/-! The property and function lists of a class (`read_properties`, `read_functions`). Both walk a linked
    list of the process. A loop of the source is given `fuel` rounds; the result is `none` when it has not
    ended by then. -/

namespace RadarAim

structure Ue4Property where
  name : Str
  type : Str
  offset : Int
  elementSize : Int
  arrayDim : Int
  deriving DecidableEq

structure Ue4Function where
  name : Str
  flags : UInt32
  parmsSize : UInt16
  deriving DecidableEq

/-- A list walk so far: the records appended, the counter of the loop, and the nodes visited. The source
    does not count the nodes it visits. -/
structure ListWalk (α : Type) where
  items : List α
  count : Nat
  visits : Nat

def ListWalk.start {α : Type} : ListWalk α := ⟨[], 0, 0⟩

/-! ### Properties -/

def validOr (ptr addr : UInt64) : Read UInt64 := if rmValidatePtr ptr then pure ptr else rmReadPtr addr

def readUPropertyOffset (propPtr : UInt64) : Read Int := do
  let (offset, _) ← rmReadI32 (propPtr + 0x44)
  if offset = 0 then Prod.fst <$> rmReadI32 (propPtr + 0x4c) else pure offset

/-- A node of UE 4.18: a `UProperty` whose class is named `typeBuf`. -/
def readUProperty (propPtr : UInt64) (typeBuf : Str) : Walker Ue4Property := do
  let (resolved, name) ← ue4rResolveName (propPtr + offUobjectName) 256
  let (arrayDim, _) ← rmReadI32 (propPtr + 0x30)
  let (elementSize, _) ← rmReadI32 (propPtr + 0x34)
  let offset ← readUPropertyOffset propPtr
  pure { name := if resolved then name else lit "<unknown>", type := typeBuf, offset, elementSize, arrayDim }

def readFieldType (fclass : UInt64) : Walker (Bool × Str) :=
  if rmValidatePtr fclass then ue4rResolveName (fclass + offFfieldclassName) 256 else pure (false, [])

/-- A node of UE 4.25: an `FProperty`. -/
def readFProperty (propPtr : UInt64) : Walker Ue4Property := do
  let (resolved, name) ← ue4rResolveName (propPtr + offFfieldName) 256
  let fclass ← rmReadPtr (propPtr + offFfieldClass)
  let (typed, type) ← readFieldType fclass
  let (arrayDim, _) ← rmReadI32 (propPtr + offFpropArrayDim)
  let (elementSize, _) ← rmReadI32 (propPtr + offFpropElementSize)
  let (offset, _) ← rmReadI32 (propPtr + offFpropOffset)
  pure { name := if resolved then name else lit "<unknown>", type := if typed then type else lit "Unknown"
         offset, elementSize, arrayDim }

/-- One round of `read_properties`: the property read, `none` for a skipped UField, and the next node. -/
def readPropertyNode (propPtr : UInt64) : Walker (Option Ue4Property × UInt64) := do
  let uclass ← rmReadPtr (propPtr + offUobjectClass)
  if rmValidatePtr uclass then do
    let (resolved, typeBuf) ← ue4rResolveName (uclass + offUobjectName) 256
    if resolved ∧ strstr typeBuf (lit "Property") then do
      let p ← readUProperty propPtr typeBuf
      let next ← rmReadPtr (propPtr + offUfieldNext)
      pure (some p, next)
    else do
      let next ← rmReadPtr (propPtr + offUfieldNext)
      pure (none, next)
  else do
    let p ← readFProperty propPtr
    let next ← rmReadPtr (propPtr + offFfieldNext)
    pure (some p, next)

/-- Only a property moves the counter on. -/
def ListWalk.addProperty (w : ListWalk Ue4Property) : Option Ue4Property → ListWalk Ue4Property
  | some p => ⟨w.items ++ [p], w.count + 1, w.visits + 1⟩
  | none => { w with visits := w.visits + 1 }

section AddProperty
variable (w : ListWalk Ue4Property) (p : Ue4Property)

@[simp] theorem ListWalk.count_addProperty_some : (w.addProperty (some p)).count = w.count + 1 := rfl
@[simp] theorem ListWalk.count_addProperty_none : (w.addProperty none).count = w.count := rfl
@[simp] theorem ListWalk.visits_addProperty (p : Option Ue4Property) : (w.addProperty p).visits = w.visits + 1 := by
  cases p <;> rfl

end AddProperty

def readPropertiesLoop : Nat → UInt64 → ListWalk Ue4Property → Walker (Option (ListWalk Ue4Property))
  | 0, _, _ => pure none
  | fuel + 1, propPtr, w =>
    if rmValidatePtr propPtr ∧ w.count < maxListWalk then do
      let (p, next) ← readPropertyNode propPtr
      readPropertiesLoop fuel next (w.addProperty p)
    else pure (some w)

def firstProperty (classAddr : UInt64) : Walker UInt64 := do
  let propPtr ← rmReadPtr (classAddr + offUstructChildren)
  let propPtr ← validOr propPtr (classAddr + offUstructChildProps)
  validOr propPtr (classAddr + offUstructChildren425)

def readProperties (fuel : Nat) (classAddr : UInt64) : Walker (Option (ListWalk Ue4Property)) := do
  let propPtr ← firstProperty classAddr
  readPropertiesLoop fuel propPtr .start

/-! ### Functions -/

/-- A field at its offset of UE 4.18, read again at the one of UE 4.25 when it is zero or unreadable. -/
def readFallback {α : Type} [OfNat α 0] [DecidableEq α] (read : UInt64 → Read (α × Bool)) (at418 at425 : UInt64) :
    Read α := do
  let (value, ok) ← read at418
  if !ok ∨ value = 0 then (fun r => if r.2 then r.1 else 0) <$> read at425 else pure value

def readUFunction (child : UInt64) : Walker Ue4Function := do
  let (resolved, name) ← resolveObjectName child 256
  let flags ← readFallback rmReadI32 (child + offUfuncFlags418) (child + offUfuncFlags425)
  let parmsSize ← readFallback rmReadU16 (child + offUfuncParmsSize418) (child + offUfuncParmsSize425)
  pure { name := if resolved then name else lit "<unknown>", flags := .ofInt flags, parmsSize }

def readChildClass (childClass : UInt64) : Walker Str := do
  if rmValidatePtr childClass then Prod.snd <$> resolveObjectName childClass 256 else pure []

def readIfFunction (className : Str) (child : UInt64) : Walker (Option Ue4Function) :=
  if className = lit "Function" then some <$> readUFunction child else pure none

/-- One round of `read_functions`: the function read, `none` for any other child, and the next child. -/
def readFunctionNode (child : UInt64) : Walker (Option Ue4Function × UInt64) := do
  let childClass ← rmReadPtr (child + offUobjectClass)
  let className ← readChildClass childClass
  let f ← readIfFunction className child
  let next ← rmReadPtr (child + offUfieldNext)
  pure (f, next)

def ListWalk.addFunction (w : ListWalk Ue4Function) (f : Option Ue4Function) : ListWalk Ue4Function :=
  ⟨w.items ++ f.toList, w.count + 1, w.visits + 1⟩

@[simp] theorem ListWalk.count_addFunction (w : ListWalk Ue4Function) (f : Option Ue4Function) :
    (w.addFunction f).count = w.count + 1 := rfl
@[simp] theorem ListWalk.visits_addFunction (w : ListWalk Ue4Function) (f : Option Ue4Function) :
    (w.addFunction f).visits = w.visits + 1 := rfl

def readFunctionsLoop : Nat → UInt64 → ListWalk Ue4Function → Walker (Option (ListWalk Ue4Function))
  | 0, _, _ => pure none
  | fuel + 1, child, w =>
    if rmValidatePtr child ∧ w.count < maxListWalk then do
      let (f, next) ← readFunctionNode child
      readFunctionsLoop fuel next (w.addFunction f)
    else pure (some w)

def readFunctions (fuel : Nat) (classAddr : UInt64) : Walker (Option (ListWalk Ue4Function)) := do
  let child ← rmReadPtr (classAddr + offUstructChildren)
  let child ← validOr child (classAddr + offUstructChildren425)
  readFunctionsLoop fuel child .start

end RadarAim
