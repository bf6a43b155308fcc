import RadarAim.Lib.Counted
import RadarAim.Radar.Tick

/-! The reader over its arrays: the static arrays of `radar_reader.c` and those of the frame, with every use of an
    index, and names as the 32 bytes of their field. What uses no array is taken from the model over lists. -/

namespace RadarAim
namespace Arrays
open Ieee

inductive Static where
  | gClasses
  | gPlayerMeta
  | gItemMeta
  | characters
  | vehicles
  | items
  | framePlayers
  | frameVehicles
  | frameItems

def Static.size : Static → Nat
  | .gClasses => classCacheSize
  | .gPlayerMeta => playerMetaCacheSize
  | .gItemMeta => itemMetaCacheSize
  | .characters => maxCharacters
  | .vehicles => maxVehicleCandidates
  | .items => maxItemCandidates
  | .framePlayers => radarMaxPlayers
  | .frameVehicles => radarMaxVehicles
  | .frameItems => radarMaxItems

def nameSize : Nat := 32
def zeroName : Str := List.replicate nameSize 0

def zeroPlayer : RadarPlayer where
  pos := .zero
  health := 0
  healthMax := 0
  yaw := 0
  teamId := 0
  isBot := 0
  healthStatus := 0
  hasBones := false
  name := zeroName
  distance := 0
  headPos := .zero
  feetPos := .zero
  bones := List.replicate 16 .zero

def zeroVehicle : RadarVehicle where
  pos := .zero
  distance := 0
  speed := 0
  healthState := 0
  canBoost := 0
  teamId := 0
  name := zeroName

def zeroItem : RadarItem where
  pos := .zero
  distance := 0
  itemId := 0
  count := 0
  category := 0
  name := zeroName

/-- `radar_shared_t` -/
structure SharedFrame where
  header : RadarHeader
  players : Counted RadarPlayer
  vehicles : Counted RadarVehicle
  items : Counted RadarItem

/-- The static variables. `vars` are those that are no arrays; its lists are not used. -/
structure Mem where
  vars : Radar
  framePlayers : Counted RadarPlayer
  frameVehicles : Counted RadarVehicle
  frameItems : Counted RadarItem
  gClasses : Counted ClassCacheEntry
  characters : Counted Candidate
  vehicles : Counted Candidate
  items : Counted Candidate
  gPlayerMeta : Counted PlayerMetaCache
  gItemMeta : Counted ItemMetaCache
  /-- The indices that have been used. -/
  indices : List (Static × Nat)
  /-- The frames given to `publish`. -/
  published : List SharedFrame

abbrev ArrayReader := StateT Mem Read

/-- A part of the model over lists that uses none of the arrays. -/
def onVars {α : Type} (p : RadarReader α) : ArrayReader α := do
  let m ← get
  let res ← p.run m.vars
  modify fun m => { m with vars := res.2 }
  pure res.1

/-- One of the arrays. -/
structure Ref (α : Type) where
  static : Static
  get : Mem → Counted α
  set : Counted α → Mem → Mem

def framePlayers : Ref RadarPlayer := ⟨.framePlayers, Mem.framePlayers, fun c m => { m with framePlayers := c }⟩
def frameVehicles : Ref RadarVehicle := ⟨.frameVehicles, Mem.frameVehicles, fun c m => { m with frameVehicles := c }⟩
def frameItems : Ref RadarItem := ⟨.frameItems, Mem.frameItems, fun c m => { m with frameItems := c }⟩
def gClasses : Ref ClassCacheEntry := ⟨.gClasses, Mem.gClasses, fun c m => { m with gClasses := c }⟩
def characters : Ref Candidate := ⟨.characters, Mem.characters, fun c m => { m with characters := c }⟩
def vehicles : Ref Candidate := ⟨.vehicles, Mem.vehicles, fun c m => { m with vehicles := c }⟩
def items : Ref Candidate := ⟨.items, Mem.items, fun c m => { m with items := c }⟩
def gPlayerMeta : Ref PlayerMetaCache := ⟨.gPlayerMeta, Mem.gPlayerMeta, fun c m => { m with gPlayerMeta := c }⟩
def gItemMeta : Ref ItemMetaCache := ⟨.gItemMeta, Mem.gItemMeta, fun c m => { m with gItemMeta := c }⟩

namespace Ref
variable {α : Type} (a : Ref α)

def touch (i : Nat) : ArrayReader Unit := modify fun m => { m with indices := m.indices ++ [(a.static, i)] }

/-- `array[i]` -/
def read (i : Nat) : ArrayReader α := do
  a.touch i
  let m ← MonadState.get
  pure ((a.get m).slot i)

/-- `array[i] = x` -/
def write (i : Nat) (x : α) : ArrayReader Unit := do
  a.touch i
  modify fun m => a.set ((a.get m).put i x) m

/-- `array[count++] = x` -/
def push (x : α) : ArrayReader Unit := do
  let m ← MonadState.get
  a.touch (a.get m).count
  modify fun m => a.set ((a.get m).push x) m

/-- `memcpy(array, xs, ...)` and the new count. -/
def copy (xs : List α) : ArrayReader Unit :=
  modify fun m =>
    a.set ((a.get m).copy xs) { m with indices := m.indices ++ (List.range xs.length).map fun i => (a.static, i) }

/-- The loop from the index `i` on, over the `left` slots that are left: where does it stop? -/
def findFrom (hit : α → Bool) : (left i : Nat) → ArrayReader (Option Nat)
  | 0, _ => pure none
  | left + 1, i => do
    let x ← a.read i
    if hit x then pure (some i) else findFrom hit left (i + 1)

/-- `for (i = 0; i < count; i++) if (hit(array[i])) ...` -/
def find (hit : α → Bool) : ArrayReader (Option Nat) := do
  let m ← MonadState.get
  a.findFrom hit (a.get m).count 0

def addIfRoom (x : α) : ArrayReader Unit := do
  let m ← MonadState.get
  if (a.get m).count < a.static.size then a.push x else pure ()

/-- `store_player_meta` and `store_item_meta` -/
def store (same : α → Bool) (x : α) : ArrayReader Unit := do
  match ← a.find same with
  | some i => a.write i x
  | none => a.addIfRoom x

end Ref

/-- `for (i = 0; i < count && more; i++) body`, from the index `i` on, over the `left` slots that are left. -/
def forSlots (more : Mem → Bool) (body : Nat → ArrayReader Unit) : (left i : Nat) → ArrayReader Unit
  | 0, _ => pure ()
  | left + 1, i => do
    let m ← get
    if more m then do
      body i
      forSlots more body left (i + 1)
    else pure ()

/-! ### Classes, the world, the actors -/

def classifyClass (cls actorSample : UInt64) : ArrayReader ClsType :=
  if cls = 0 then pure .ignore
  else do
    match ← gClasses.find fun e => e.classPtr = cls with
    | some i => do
      let e ← gClasses.read i
      onVars (modify (Radar.use e.recordedIn))
      pure e.type
    | none => do
      let name ← onVars (sampleName cls actorSample)
      let type ← onVars (typeOfClass cls name)
      let m ← get
      gClasses.addIfRoom ⟨cls, type, snprintf 32 name, m.vars.world⟩
      pure type

/-- The world is entered directly, from that of the local player. -/
def Mem.enterWorld (current : UInt64) (m : Mem) : Mem :=
  if m.vars.world ≠ 0 ∧ m.vars.world ≠ current then
    { m with
      vars := { m.vars with world := current }, characters := m.characters.clear, vehicles := m.vehicles.clear
      items := m.items.clear, gClasses := m.gClasses.clear, gPlayerMeta := m.gPlayerMeta.clear
      gItemMeta := m.gItemMeta.clear }
  else { m with vars := { m.vars with world := current } }

def findWorld (ar : Arith) (input : TickInput) : ArrayReader UInt64 := do
  let m ← get
  let current ← currentWorld m.vars.localPlayer
  if current ≠ 0 then do
    modify (Mem.enterWorld current)
    pure current
  else do
    onVars (modify Radar.loseLocalPlayer)
    onVars (lookupWorld ar input)
    let m ← get
    pure m.vars.world

def scanActors : List UInt64 → Scan → ArrayReader Scan
  | [], s => pure s
  | actor :: actors, s =>
    if rmValidatePtr actor then do
      let cls ← ptr actor 0x10
      if cls ≠ 0 then do
        let type ← classifyClass cls actor
        scanActors actors (s.add actor type)
      else scanActors actors s
    else scanActors actors s

def scanChunks (data : UInt64) (count : Nat) : (chunks start : Nat) → Scan → ArrayReader Scan
  | 0, _, s => pure s
  | chunks + 1, start, s => do
    let chunkSize := min (count - start) 512
    match ← rmRead (data + .ofNat start * 8) (chunkSize * 8) with
    | none => scanChunks data count chunks (start + 512) s
    | some b => do
      let s ← scanActors ((List.range chunkSize).map fun i => le64 b (i * 8)) s
      scanChunks data count chunks (start + 512) s

def setCandidates (s : Scan) : ArrayReader Unit := do
  let m ← get
  characters.copy (s.characters.map (⟨·, m.vars.world⟩))
  vehicles.copy (s.vehicles.map (⟨·, m.vars.world⟩))
  items.copy (s.items.map (⟨·, m.vars.world⟩))

def scanPersistentLevel (w : UInt64) : ArrayReader Bool := do
  let level ← ptr w 0x30
  if level = 0 then pure false
  else do
    match ← actorArray level [0xa0, 0xb0, 0x98, 0xa8, 0x90, 0x70] with
    | none => pure false
    | some (data, count) =>
      if data = 0 then pure false
      else do
        let s ← scanChunks data count ((count + 511) / 512) 0 ⟨[], [], []⟩
        setCandidates s
        pure true

/-! ### The head of the frame -/

/-- `memset(&frame, 0, sizeof(frame))` -/
def Mem.zeroFrame (m : Mem) : Mem :=
  { m with
    vars := { m.vars with frame := .zero }, framePlayers := .zeroed zeroPlayer, frameVehicles := .zeroed zeroVehicle
    frameItems := .zeroed zeroItem }

def Mem.clearFrame (m : Mem) : Mem :=
  { m.zeroFrame with vars := m.vars.clearFrame }

section Head
variable (ar : Arith) (input : TickInput)

def radarTickHead : ArrayReader (Option TickHead) := do
  modify Mem.clearFrame
  let w ← findWorld ar input
  if w = 0 then pure none
  else do
    let m ← get
    let pc ← localController m.vars.localPlayer w
    if pc = 0 then pure none
    else do
      let pawn ← ptr pc 0x528
      let camera ← ptr pc 0x548
      let head ← onVars (readView pawn camera)
      let team ← readLocalTeam pawn pc
      onVars (modify (Radar.setLocalTeam team))
      pure (some head)

def scanWhenDue : ArrayReader Unit := do
  let m ← get
  if F64.le m.vars.nextScanTime input.scanNow then do
    onVars (modify fun r => { r with nextScanTime := ar.addDouble input.scanNow 0x3ff4000000000000 })
    let _ ← scanPersistentLevel m.vars.world
    pure ()
  else pure ()

def radarTickStart : ArrayReader (Option TickHead) := do
  match ← radarTickHead ar input with
  | none => pure none
  | some head => do
    onVars (modify Radar.teamFallback)
    scanWhenDue ar input
    pure (some head)

end Head

/-! ### The loops -/

section Loops
variable (ar : Arith) (head : TickHead)

/-- Team, bot flag and the field of the name, from the cache if they are in it. -/
def playerMeta (other st : UInt64) : ArrayReader (UInt32 × UInt8 × Str) := do
  match ← gPlayerMeta.find fun e => e.valid && e.actor = other with
  | some i => do
    let pmeta ← gPlayerMeta.read i
    onVars (modify (Radar.use pmeta.recordedIn))
    pure (pmeta.teamId, pmeta.isBot, pmeta.name)
  | none => do
    let m ← get
    let read ← readPlayerMeta m.vars.frame.header.localTeam st
    let isBot := clearTeammate m.vars.frame.header.localTeam read.1 read.2.1
    let name := overwrite zeroName read.2.2
    gPlayerMeta.store (fun e => e.actor = other)
      { actor := other, teamId := read.1, isBot, name := strncpy nameSize name, valid := true,
        recordedIn := m.vars.world }
    pure (read.1, isBot, name)

def processPlayer (i : Nat) : ArrayReader Unit := do
  let c ← characters.read i
  if c.actor = 0 ∨ c.actor = head.pawn then pure ()
  else do
    onVars (modify (Radar.use c.recordedIn))
    match ← position c.actor with
    | none => characters.write i c.drop
    | some pos =>
      if nearOrigin pos then pure ()
      else do
        let bDead ← readU8 (c.actor + 0xe7c) 0
        if bDead ≠ 0 then pure ()
        else do
          let st ← playerState c.actor
          let health ← readHealth c.actor st
          let healthStatus ← readU8 (c.actor + 0x2be8) 0
          if healthStatus = 2 then pure ()
          else do
            let yaw ← readYaw c.actor
            let info ← playerMeta c.actor st
            framePlayers.push
              { playerRecord ar pos health healthStatus yaw info head.cameraPos with name := info.2.2 }

def vehicleClassName (cls : UInt64) : ArrayReader Str := do
  match ← gClasses.find fun e => e.classPtr = cls with
  | some i => do
    let e ← gClasses.read i
    onVars (modify (Radar.use e.recordedIn))
    if e.name ≠ [] then pure e.name else onVars (vehicleClassName.resolveClassName cls)
  | none => onVars (vehicleClassName.resolveClassName cls)

def processVehicle (i : Nat) : ArrayReader Unit := do
  let c ← vehicles.read i
  if c.actor = 0 then pure ()
  else do
    onVars (modify (Radar.use c.recordedIn))
    match ← position c.actor with
    | none => vehicles.write i c.drop
    | some pos => do
      let distance := distanceTo ar pos head.cameraPos
      if F32.lt 0x44480000 distance then pure ()
      else do
        let fwdSpeed ← readU32 (c.actor + 0xcd0) 0
        let healthState ← readU8 (c.actor + 0x18c9) 0
        let canBoost ← readU8 (c.actor + 0x1978) 0
        let teamId ← readU8 (c.actor + 0x1574) 0
        let cls ← ptr c.actor 0x10
        let clsName ← vehicleClassName cls
        let name := resolveVehicleName clsName nameSize
        frameVehicles.push
          { pos, distance, healthState, teamId, name := overwrite zeroName name
            speed := ar.mul (F32.abs fwdSpeed) 0x3d1374bc
            canBoost := if mentions name ["Airplane", "Glider", "Helicopter"] then 1 else canBoost }

/-- A label that is found is written over the one before. -/
def improveLabel (object : UInt64) (label : Str × UInt8) : RadarReader (Str × UInt8) :=
  if generic (cstr label.1) ∧ object ≠ 0 then do
    let aname ← resolveNameOf object
    pure (((aname.bind fun aname => resolveItemFromActorName aname nameSize).map fun found =>
      (overwrite label.1 found.1, found.2)).getD label)
  else pure label

def readItemMeta (iactor : UInt64) (itemId : Int) : RadarReader (Str × UInt8) := do
  let found := resolveItemInfo itemId nameSize
  let label := if itemId > 0 then (overwrite zeroName found.1, found.2) else (zeroName, 0)
  let label ← improveLabel iactor label
  let acls ← linkWhen (generic (cstr label.1)) iactor 0x10
  let label ← improveLabel acls label
  let pmesh ← linkWhen (generic (cstr label.1)) iactor 1816
  let label ← improveLabel pmesh label
  pure (if cstr label.1 = [] then (overwrite label.1 (lit "Supply"), 5) else label)

/-- Id, count, the field of the name and category; all but the count from the cache if they are in it. -/
def itemMeta (iactor : UInt64) : ArrayReader (Int × Int × Str × UInt8) := do
  match ← gItemMeta.find fun e => e.valid && e.actor = iactor with
  | some i => do
    let imeta ← gItemMeta.read i
    onVars (modify (Radar.use imeta.recordedIn))
    let count ← readItemCount iactor
    pure (imeta.itemId, count, imeta.name, imeta.category)
  | none => do
    let itemId ← readItemId iactor
    let count ← readItemCount iactor
    let label ← onVars (readItemMeta iactor itemId)
    let m ← get
    gItemMeta.store (fun e => e.actor = iactor)
      { actor := iactor, itemId, category := label.2, name := strncpy nameSize label.1, valid := true
        recordedIn := m.vars.world }
    pure (itemId, count, label.1, label.2)

def processItem (i : Nat) : ArrayReader Unit := do
  let c ← items.read i
  if c.actor = 0 then pure ()
  else do
    onVars (modify (Radar.use c.recordedIn))
    match ← position c.actor with
    | none => items.write i c.drop
    | some pos => do
      let distance := distanceTo ar pos head.cameraPos
      if F32.lt 0x42f00000 distance then pure ()
      else do
        let info ← itemMeta c.actor
        frameItems.push
          { pos, distance, itemId := info.1, count := info.2.1, name := info.2.2.1, category := info.2.2.2 }

/-- The three loops of `radar_tick`. -/
def processCandidates : ArrayReader Unit := do
  let m ← get
  forSlots (fun m => m.framePlayers.count < radarMaxPlayers) (processPlayer ar head) m.characters.count 0
  let m ← get
  forSlots (fun m => m.frameVehicles.count < radarMaxVehicles) (processVehicle ar head) m.vehicles.count 0
  let m ← get
  forSlots (fun m => m.frameItems.count < radarMaxItems) (processItem ar head) m.items.count 0

end Loops

/-! ### The program -/

namespace Mem

def frame (m : Mem) : SharedFrame := ⟨m.vars.frame.header, m.framePlayers, m.frameVehicles, m.frameItems⟩

def publish (status : UInt32) (m : Mem) : Mem :=
  let tick := m.vars.tick + 1
  let m : Mem :=
    { m with
      vars := { m.vars with tick }.mapHeader fun h =>
        { h with magic := radarMagic, version := radarVersion, tick, status } }
  { m with published := m.published ++ [m.frame] }

end Mem

section Tick
variable (ar : Arith) (input : TickInput)

def radarTickRest : Option TickHead → ArrayReader Unit
  | none => modify (Mem.publish 1)
  | some head => do
    processCandidates ar head
    modify fun m => m.publish (if head.hasLocal ∨ m.vars.frame.header.cameraValid then 2 else 3)

def radarTick : ArrayReader Unit := do
  let m ← get
  if m.vars.shared then do radarTickRest ar (← radarTickStart ar input) else pure ()

end Tick

def radarDestroy (m : Mem) : Mem :=
  let m := if m.vars.shared then m.zeroFrame.publish 0 else m
  { m with vars := { m.vars with shared := false, reflection := none, world := 0, sCachedLocalTeam := 0 } }

inductive Mapping where
  | openFails
  | mmapFails
  | mapped

/-- The counts of the static arrays are set to 0. -/
def Mem.clearArrays (m : Mem) : Mem :=
  { m with
    characters := m.characters.clear, vehicles := m.vehicles.clear, items := m.items.clear
    gClasses := m.gClasses.clear, gPlayerMeta := m.gPlayerMeta.clear, gItemMeta := m.gItemMeta.clear }

def radarInit (imageBase aslrSlide : UInt64) (mapping : Mapping) (m : Mem) : Mem :=
  let m : Mem :=
    { m.clearArrays with
      vars := { m.vars with
        base := imageBase, slide := aslrSlide, world := 0, localPlayer := 0, tick := 0, nextLookup := 0
        worldCursor := 0, nextScanTime := 0, sCachedLocalTeam := 0 } }
  match mapping with
  | .openFails => radarDestroy m
  | .mmapFails => radarDestroy { m with vars := { m.vars with shared := false } }
  | .mapped => { m with vars := { m.vars with shared := true } }.zeroFrame.publish 1

namespace Mem

/-- The memory when the program starts. -/
def initial : Mem where
  vars := .zero
  framePlayers := .zeroed zeroPlayer
  frameVehicles := .zeroed zeroVehicle
  frameItems := .zeroed zeroItem
  gClasses := .zeroed ⟨0, .ignore, [], 0⟩
  characters := .zeroed ⟨0, 0⟩
  vehicles := .zeroed ⟨0, 0⟩
  items := .zeroed ⟨0, 0⟩
  gPlayerMeta := .zeroed ⟨0, 0, 0, zeroName, false, 0⟩
  gItemMeta := .zeroed ⟨0, 0, 0, zeroName, false, 0⟩
  indices := []
  published := []

def step (ar : Arith) (input : TickInput) (m : Mem) : Mem := (((radarTick ar input).run m).eval input.host 0).1.2

end Mem
end Arrays
end RadarAim
