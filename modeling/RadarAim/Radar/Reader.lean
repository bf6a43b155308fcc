import RadarAim.Radar.Data
import RadarAim.Radar.Labels
import RadarAim.Reflection.Instances

/-! Finding the world and the actors in it (the reading helpers, `classify_class`, `find_world` and
    `scan_persistent_level` of `radar_reader.c`). What only the log prints is left out. -/

namespace RadarAim
open Ieee

/-! ### Reading -/

def ptr (object offset : UInt64) : Read UInt64 :=
  if !rmValidatePtr object ∨ object > 0xFFFFFFFFFFFFFFFF - offset then pure 0
  else do
    let value ← rmReadPtr (object + offset)
    pure (if rmValidatePtr value then value else 0)

def firstPtr (object : UInt64) : (offsets : List UInt64) → Read UInt64
  | [] => pure 0
  | offset :: offsets => do
    let p ← ptr object offset
    if p ≠ 0 then pure p else firstPtr object offsets

def array (object offset : UInt64) (limit : Int) : Read (Option (UInt64 × Nat)) :=
  if rmValidatePtr object then do
    match ← rmRead (object + offset) 16 with
    | none => pure none
    | some a =>
      let data := le64 a 0
      let count := leI32 a 8
      let capacity := leI32 a 12
      if count < 0 ∨ capacity < count ∨ count > limit ∨ capacity > 1000000 then pure none
      else if count ≠ 0 ∧ !rmValidatePtr data then pure none
      else pure (some (data, count.toNat))
  else pure none

def vec (object offset : UInt64) : Read (Option Rvec3) :=
  if rmValidatePtr object then do
    match ← rmRead (object + offset) 12 with
    | none => pure none
    | some b =>
      let v : Rvec3 := ⟨le32 b 0, le32 b 4, le32 b 8⟩
      pure (if v.x.isFinite ∧ v.y.isFinite ∧ v.z.isFinite then some v else none)
  else pure none

def position (actor : UInt64) : Read (Option Rvec3) := do vec (← ptr actor 0x208) 0x1e4

/-- A field that is left as it was when it cannot be read. -/
def readU8 (addr : UInt64) (default : UInt8) : Read UInt8 := do
  match ← rmRead addr 1 with
  | none => pure default
  | some b => pure (b 0)

def readU32 (addr : UInt64) (default : UInt32) : Read UInt32 := do
  match ← rmRead addr 4 with
  | none => pure default
  | some b => pure (le32 b 0)

def readInt32 (addr : UInt64) (default : Int) : Read Int := do
  match ← rmRead addr 4 with
  | none => pure default
  | some b => pure (leI32 b 0)

def fstringByte (c : UInt16) : UInt8 := if 32 ≤ c ∧ c ≤ 126 then c.toUInt8 else 0x3f

def readFstring (fstringAddr : UInt64) (maxLen : Nat) : Read (Option Str) :=
  if !rmValidatePtr fstringAddr ∨ maxLen < 2 then pure none
  else do
    match ← rmRead fstringAddr 16 with
    | none => pure none
    | some s =>
      let data := le64 s 0
      let count := leI32 s 8
      if count ≤ 1 ∨ count > 128 ∨ !rmValidatePtr data then pure none
      else do
        match ← rmRead data (count.toNat * 2) with
        | none => pure none
        | some wbuf =>
          let units := ((List.range count.toNat).map fun i => le16 wbuf (i * 2)).takeWhile (· ≠ 0)
          let text := (units.take (maxLen - 1)).map fstringByte
          pure (if text = [] then none else some text)

/-! ### The reflection context -/

def onReflection {α : Type} (p : Walker α) : RadarReader (Option α) := do
  match (← get).reflection with
  | none => pure none
  | some ctx => do
    let res ← p.run ctx
    modify fun r => { r with reflection := some res.2 }
    pure (some res.1)

def resolveNameOf (object : UInt64) : RadarReader (Option Str) := do
  match ← onReflection (ue4rResolveName (object + offUobjectName) 128) with
  | some (true, name) => pure (some name)
  | _ => pure none

/-! ### Classes -/

/-- The type that the name of a class decides; `none` leaves it to the super class. -/
def classOfName (name : Str) : Option ClsType :=
  if mentions name ["Character", "PlayerPawn"] ∧
      !mentions name ["Controller", "Start", "State", "Camera", "AISpawner", "Movement", "AnimInstance"] then
    some .player
  else if mentions name ["Vehicle", "VH_", "Buggy", "Dacia", "UAZ", "Motorcycle", "Bike", "Boat", "PickUp_",
      "Airplane", "Plane", "Glider", "Helicopter", "C130"] then
    some (if mentions name ["Wheel", "Movement", "Anim", "Spawner", "Manager"] then .ignore else .vehicle)
  else if mentions name ["PickUp", "Wrapper"] then
    some (if mentions name ["Destructible", "Component"] then .ignore else .item)
  else none

def classOfSuperName (sname : Str) : ClsType :=
  if mentions sname ["Character", "PlayerPawn"] ∧ !mentions sname ["Controller", "Start", "State", "Camera"] then
    .player
  else if mentions sname ["Vehicle", "VH_", "Airplane", "Plane", "Glider"] then
    if mentions sname ["Wheel", "Movement", "Anim"] then .ignore else .vehicle
  else if mentions sname ["PickUp", "Wrapper"] then .item
  else .ignore

/-- The name that `classify_class` works with: that of the class, else that of the actor. -/
def sampleName (cls actorSample : UInt64) : RadarReader Str := do
  match ← resolveNameOf cls with
  | some name => pure name
  | none =>
    if actorSample ≠ 0 then do
      let name ← resolveNameOf actorSample
      pure (name.getD [])
    else pure []

def typeOfClass (cls : UInt64) (name : Str) : RadarReader ClsType :=
  match classOfName name with
  | some type => pure type
  | none => do
    let superCls ← ptr cls 0x30
    if superCls ≠ 0 then do
      let sname ← resolveNameOf superCls
      pure (sname.elim .ignore classOfSuperName)
    else pure .ignore

def Radar.addClass (cls : UInt64) (type : ClsType) (name : Str) (r : Radar) : Radar :=
  if r.gClasses.length < classCacheSize then
    { r with gClasses := r.gClasses ++ [⟨cls, type, snprintf 32 name, r.world⟩] }
  else r

def classifyClass (cls actorSample : UInt64) : RadarReader ClsType :=
  if cls = 0 then pure .ignore
  else do
    match (← get).gClasses.find? fun e => e.classPtr = cls with
    | some e => do
      modify (Radar.use e.recordedIn)
      pure e.type
    | none => do
      let name ← sampleName cls actorSample
      let type ← typeOfClass cls name
      modify (Radar.addClass cls type name)
      pure type

/-! ### The world -/

/-- The controller that the local player and its controller link to, while its world is `w`. -/
def linkedController (localPlayer w : UInt64) : Read UInt64 :=
  if localPlayer ≠ 0 then do
    let current ← ptr (← ptr localPlayer 0x58) 0x78
    if current = w then do
      let pc ← ptr localPlayer 0x30
      let backlink ← ptr pc 0x518
      pure (if pc ≠ 0 ∧ backlink = localPlayer then pc else 0)
    else pure 0
  else pure 0

def instanceController (w : UInt64) : Read UInt64 := do
  match ← array (← ptr w 0x470) 0x48 16 with
  | none => pure 0
  | some (data, count) => if count = 0 then pure 0 else do ptr (← ptr data 0) 0x30

def localController (localPlayer w : UInt64) : Read UInt64 := do
  let pc ← linkedController localPlayer w
  if pc ≠ 0 then pure pc else instanceController w

/-- The world of the local player, when there is a controller in it. -/
def currentWorld (localPlayer : UInt64) : Read UInt64 := do
  let current ← ptr (← ptr localPlayer 0x58) 0x78
  if current ≠ 0 then do
    let pc ← localController localPlayer current
    pure (if pc ≠ 0 then current else 0)
  else pure 0

/-- What a tick gets from outside: the replies to its reads, the two clock readings, the contents of the
    configuration file. -/
structure TickInput where
  host : Nat → Handler Host
  lookupNow : F64
  scanNow : F64
  configObjects : UInt64
  configNames : UInt64

/-- The world is entered directly, from that of the local player. -/
def Radar.enterWorld (current : UInt64) (r : Radar) : Radar :=
  if r.world ≠ 0 ∧ r.world ≠ current then
    { r with
      world := current, characters := [], vehicles := [], items := [], gClasses := [], gPlayerMeta := []
      gItemMeta := [] }
  else { r with world := current }

def ensureReflection (input : TickInput) : RadarReader Bool := do
  let r ← get
  match r.reflection with
  | some _ => pure true
  | none => do
    match ← ue4rInit r.base r.slide input.configObjects input.configNames with
    | none => pure false
    | some ctx =>
      if ue4rReady ctx then do
        modify fun r => { r with reflection := some ctx }
        pure true
      else pure false

def searchLocalPlayer : (b : Nat) → RadarReader Unit
  | 0 => pure ()
  | b + 1 => do
    let r ← get
    if r.worldCursor ≥ 0 then do
      match ← onReflection (ue4rFindInstance (lit "LocalPlayer") r.worldCursor) with
      | none => pure ()
      | some (candidate, cursor) => do
        modify fun r => { r with worldCursor := cursor }
        if candidate ≠ 0 then do
          let w ← ptr (← ptr candidate 0x58) 0x78
          let pc ← ptr candidate 0x30
          let backlink ← ptr pc 0x518
          if w ≠ 0 ∧ pc ≠ 0 ∧ backlink = candidate then modify fun r => { r with localPlayer := candidate, world := w }
          else searchLocalPlayer b
        else searchLocalPlayer b
    else pure ()

section FindWorld
variable (ar : Arith) (input : TickInput)

/-- The slow path of `find_world`, at most twice a second. -/
def lookupWorld : RadarReader Unit := do
  modify fun r => { r with world := 0 }
  let r ← get
  if F64.lt input.lookupNow r.nextLookup then pure ()
  else do
    modify fun r => { r with nextLookup := ar.addDouble input.lookupNow 0x3fe0000000000000 }
    if ← ensureReflection input then
      if r.worldCursor < 0 then modify fun r => { r with worldCursor := 0 } else searchLocalPlayer 64
    else pure ()

def Radar.loseLocalPlayer (r : Radar) : Radar :=
  if r.localPlayer ≠ 0 then { r with localPlayer := 0, worldCursor := 0 } else r

def findWorld : RadarReader UInt64 := do
  let r ← get
  let current ← currentWorld r.localPlayer
  if current ≠ 0 then do
    modify (Radar.enterWorld current)
    pure current
  else do
    modify Radar.loseLocalPlayer
    lookupWorld ar input
    let r ← get
    pure r.world

end FindWorld

/-! ### The actors -/

structure Scan where
  characters : List UInt64
  vehicles : List UInt64
  items : List UInt64

def Scan.add (actor : UInt64) (s : Scan) : ClsType → Scan
  | .player => if s.characters.length < maxCharacters then { s with characters := s.characters ++ [actor] } else s
  | .vehicle => if s.vehicles.length < maxVehicleCandidates then { s with vehicles := s.vehicles ++ [actor] } else s
  | .item => if s.items.length < maxItemCandidates then { s with items := s.items ++ [actor] } else s
  | .ignore => s

def scanActors : List UInt64 → Scan → RadarReader Scan
  | [], s => pure s
  | actor :: actors, s =>
    if rmValidatePtr actor then do
      let cls ← ptr actor 0x10
      if cls ≠ 0 then do
        let type ← classifyClass cls actor
        scanActors actors (s.add actor type)
      else scanActors actors s
    else scanActors actors s

/-- The chunks of 512 actor pointers from `start` on; one that cannot be read is passed over. -/
def scanChunks (data : UInt64) (count : Nat) : (chunks start : Nat) → Scan → RadarReader Scan
  | 0, _, s => pure s
  | chunks + 1, start, s => do
    let chunkSize := min (count - start) 512
    match ← rmRead (data + .ofNat start * 8) (chunkSize * 8) with
    | none => scanChunks data count chunks (start + 512) s
    | some b => do
      let s ← scanActors ((List.range chunkSize).map fun i => le64 b (i * 8)) s
      scanChunks data count chunks (start + 512) s

def actorArray (level : UInt64) : (offsets : List UInt64) → Read (Option (UInt64 × Nat))
  | [] => pure none
  | offset :: offsets => do
    match ← array level offset 8192 with
    | some (data, count) => if count ≥ 5 then pure (some (data, count)) else actorArray level offsets
    | none => actorArray level offsets

def Radar.setCandidates (s : Scan) (r : Radar) : Radar :=
  { r with
    characters := s.characters.map (⟨·, r.world⟩)
    vehicles := s.vehicles.map (⟨·, r.world⟩)
    items := s.items.map (⟨·, r.world⟩) }

def scanPersistentLevel (w : UInt64) : RadarReader Bool := do
  let level ← ptr w 0x30
  if level = 0 then pure false
  else do
    match ← actorArray level [0xa0, 0xb0, 0x98, 0xa8, 0x90, 0x70] with
    | none => pure false
    | some (data, count) =>
      if data = 0 then pure false
      else do
        let s ← scanChunks data count ((count + 511) / 512) 0 ⟨[], [], []⟩
        modify (Radar.setCandidates s)
        pure true

end RadarAim
