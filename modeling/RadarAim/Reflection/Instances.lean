import RadarAim.Reflection.Objects

/-! Looking up the instances of a class (`ue4r_find_instance`). A call examines at most 512 objects from
    the cursor on; first it looks for the class of that name, and starts over when it has found it. -/

namespace RadarAim

inductive FindStep where
  | next
  /-- The class was found: from the first object again. -/
  | rewind
  | found
  deriving DecidableEq

/-- Whether the chain of super classes from `cls` reaches `lookupClass` within `depth` steps. -/
def superChain (lookupClass : UInt64) : (depth : Nat) → (cls : UInt64) → Read Bool
  | 0, _ => pure false
  | depth + 1, cls =>
    if rmValidatePtr cls then
      if cls = lookupClass then pure true
      else do superChain lookupClass depth (← rmReadPtr (cls + offUstructSuper))
    else pure false

def lookupSlot (cls : UInt64) : Nat := (cls.toNat / 16) % 256

def setLookup (cls : UInt64) (isMatch : Bool) (c : Ue4rCtx) : Ue4rCtx :=
  { c with lookupKeys := Function.update c.lookupKeys (lookupSlot cls) cls
           lookupMatches := Function.update c.lookupMatches (lookupSlot cls) isMatch }

/-- The cached answer for `cls`, computed first when another class is in its slot. -/
def classMatches (cls : UInt64) : Walker Bool := do
  let ctx ← get
  if ctx.lookupKeys (lookupSlot cls) ≠ cls then do
    let isMatch ← superChain ctx.lookupClass 32 cls
    modify (setLookup cls isMatch)
    pure isMatch
  else pure (ctx.lookupMatches (lookupSlot cls))

/-- The body of the loop for the valid pointer `obj`. -/
def findBody (name : Str) (obj : UInt64) : Walker FindStep := do
  match ← rmRead obj 24 with
  | none => pure .next
  | some header => do
    let flags := le32 header 8
    let cls := le64 header 16
    let ctx ← get
    if ctx.lookupClass = 0 then
      if cls ≠ ctx.uclassClass then pure .next
      else do
        let (resolved, candidate) ← resolveObjectName obj 256
        if resolved ∧ candidate = name then do
          modify fun c => { c with lookupClass := obj }
          pure .rewind
        else pure .next
    else if flags &&& 0x10 = 0 then do
      pure (if ← classMatches cls then .found else .next)
    else pure .next

/-- The loop with `budget` objects left: the returned object and the cursor. `body` may carry a state `σ`. -/
def findLoop {σ : Type} (fetch : Nat → Read UInt64) (count : Nat) (body : UInt64 → σ → Walker (FindStep × σ)) :
    (budget cursor : Nat) → σ → Walker (UInt64 × Nat × σ)
  | 0, cursor, s => pure (0, cursor, s)
  | budget + 1, cursor, s =>
    if cursor < count then do
      let obj ← fetch cursor
      if rmValidatePtr obj then do
        let (step, s) ← body obj s
        match step with
        | .next => findLoop fetch count body budget (cursor + 1) s
        | .rewind => findLoop fetch count body budget 0 s
        | .found => pure (obj, cursor + 1, s)
      else findLoop fetch count body budget (cursor + 1) s
    else pure (0, cursor, s)

/-- A new name drops the class and the keys found for the last one; the match bits stay. -/
def setLookupName (name : Str) (c : Ue4rCtx) : Ue4rCtx :=
  { c with lookupName := snprintf 64 name, lookupClass := 0, lookupKeys := fun _ => 0 }

def startLookup (name : Str) (cursor : Nat) : Walker Nat := do
  let ctx ← get
  if ctx.lookupName ≠ name then do
    modify (setLookupName name)
    pure 0
  else pure cursor

/-- The returned object (0 for none) and the new cursor (-1 at the end). -/
def ue4rFindInstance (name : Str) (cursor : Int) : Walker (UInt64 × Int) := do
  let ctx ← get
  if !ue4rReady ctx ∨ cursor < 0 then pure (0, cursor)
  else do
    match ← getObjectsInfo ctx.guobjectarray with
    | none => pure (0, -1)
    | some (objects, count) =>
      if count > maxObjects then pure (0, -1)
      else do
        let start ← startLookup name cursor.toNat
        let batchCount := min (count - start) batchSize
        let batch ← readBatch objects start batchCount
        let (obj, cursor, _) ← findLoop (instanceObject objects start batchCount batch) count
          (fun obj (u : Unit) => return (← findBody name obj, u)) batchSize start ()
        pure (if obj ≠ 0 then (obj, cursor) else (0, if cursor ≥ count then -1 else cursor))

end RadarAim
