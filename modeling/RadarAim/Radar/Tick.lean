import RadarAim.Radar.Reader

/-! One frame of the reader (`radar_init`, `radar_tick`). What comes after the search for the world only reads
    the process and fills the frame, from the reads of this tick and from the caches. -/

namespace RadarAim
open Ieee

/-! ### The head of the frame -/

structure TickHead where
  pawn : UInt64
  cameraPos : Rvec3
  hasLocal : Bool

def readFov (camera : UInt64) : Read (Option F32) :=
  if camera = 0 then pure none
  else do
    match ← rmRead (camera + 0x554) 4 with
    | none => pure none
    | some b =>
      let fov := le32 b 0
      pure (if F32.isFinite fov ∧ F32.lt 0x41200000 fov ∧ F32.lt fov 0x43340000 then some fov else none)

/-- The player state of the local player: that of its pawn, else that of its controller. -/
def localPlayerState (pawn pc : UInt64) : Read UInt64 := do
  let st ← firstPtr pawn [0x2410, 0x4d0]
  if st ≠ 0 then pure st else firstPtr pc [0x488, 0x4f0, 0x500, 0x508]

def readLocalTeam (pawn pc : UInt64) : Read UInt32 := do
  let localSt ← localPlayerState pawn pc
  if localSt ≠ 0 then readU32 (localSt + 0x700) 0 else pure 0

namespace Radar

def mapHeader (f : RadarHeader → RadarHeader) (r : Radar) : Radar :=
  { r with frame := { r.frame with header := f r.frame.header } }

def clearFrame (r : Radar) : Radar :=
  { r with frame := { RadarFrame.zero with header := { RadarFrame.zero.header with cameraFov := 0x42b40000 } } }

/-- A team that was read is kept for the ticks in which it cannot be. -/
def setLocalTeam (team : UInt32) (r : Radar) : Radar :=
  if team > 0 then
    { (r.mapHeader fun h => { h with localTeam := team }) with sCachedLocalTeam := team, teamRecordedIn := r.world }
  else r

def teamFallback (r : Radar) : Radar :=
  if r.frame.header.localTeam = 0 ∧ r.sCachedLocalTeam > 0 then
    (r.use r.teamRecordedIn).mapHeader fun h => { h with localTeam := r.sCachedLocalTeam }
  else r

end Radar

section Head
variable (ar : Arith) (input : TickInput)

def readView (pawn camera : UInt64) : RadarReader TickHead := do
  let localPos ← position pawn
  let cameraPos ← vec camera 0x530
  let localRot ← vec camera 0x548
  let fov ← readFov camera
  modify (Radar.mapHeader fun h =>
    { h with
      localPos := localPos.getD (cameraPos.getD .zero)
      cameraPos := cameraPos.getD .zero
      localRot := localRot.getD h.localRot
      cameraFov := fov.getD h.cameraFov
      cameraValid := fov.isSome && (localRot.isSome && cameraPos.isSome) })
  pure ⟨pawn, cameraPos.getD .zero, localPos.isSome⟩

/-- `radar_tick` up to the local team; `none` when there is no world, or no controller in it. -/
def radarTickHead : RadarReader (Option TickHead) := do
  modify Radar.clearFrame
  let w ← findWorld ar input
  if w = 0 then pure none
  else do
    let r ← get
    let pc ← localController r.localPlayer w
    if pc = 0 then pure none
    else do
      let pawn ← ptr pc 0x528
      let camera ← ptr pc 0x548
      let head ← readView pawn camera
      let team ← readLocalTeam pawn pc
      modify (Radar.setLocalTeam team)
      pure (some head)

end Head

/-! ### Players -/

def playerState (other : UInt64) : Read UInt64 := firstPtr other [0x2410, 0x4d0]

/-- Within one unit of the origin of the world. -/
def nearOrigin (pos : Rvec3) : Bool :=
  F32.lt (F32.abs pos.x) 0x3f800000 && F32.lt (F32.abs pos.y) 0x3f800000 && F32.lt (F32.abs pos.z) 0x3f800000

def positive (x : F32) : Bool := F32.isFinite x && F32.lt 0 x

/-- The health of a character, else that of its state, brought into range. -/
def readHealth (other st : UInt64) : Read (F32 × F32) := do
  let hp ← readU32 (other + 0xe60) 0
  let hpMax ← readU32 (other + 0xe64) 0
  let stHealth ← stateHealth (!(positive hp && positive hpMax)) st
  let hp := if positive stHealth.1 then stHealth.1 else hp
  let hpMax := if positive stHealth.2 then stHealth.2 else hpMax
  let hp := if !F32.isFinite hp ∨ F32.lt hp 0 then 0 else hp
  let hpMax := if !F32.isFinite hpMax ∨ F32.le hpMax 0 ∨ F32.lt 0x461c4000 hpMax then 0x42c80000 else hpMax
  pure (hp, if F32.lt hpMax hp then hp else hpMax)
where
  stateHealth (asked : Bool) (st : UInt64) : Read (F32 × F32) :=
    if asked ∧ st ≠ 0 then do
      let hp ← readU32 (st + 0x142c) 0
      let hpMax ← readU32 (st + 0x1430) 0
      pure (hp, hpMax)
    else pure (0, 0)

def readYaw (other : UInt64) : Read F32 := do
  let rot ← vec (← ptr other 0x208) 0x1f0
  pure (rot.elim 0 Rvec3.y)

/-- A teammate is never a bot. -/
def clearTeammate (localTeam teamId : UInt32) (isBot : UInt8) : UInt8 :=
  if localTeam ≠ 0 ∧ teamId = localTeam then 0 else isBot

def readPlayerName (st : UInt64) (isBot : UInt8) : Read Str := do
  match ← readFstring (st + 0x4b8) 32 with
  | some name => pure name
  | none => do
    match ← readFstring (st + 0x13e0) 32 with
    | some name => pure name
    | none => pure (if isBot ≠ 0 then lit "Bot" else lit "Player")

def readPlayerMeta (localTeam : UInt32) (st : UInt64) : Read (UInt32 × UInt8 × Str) :=
  if st ≠ 0 then do
    let teamId ← readU32 (st + 0x700) 0
    let rawBot ← readU8 (st + 0x4dc) 0
    let isBot := clearTeammate localTeam teamId (if rawBot &&& 0x04 ≠ 0 then 1 else 0)
    let name ← readPlayerName st isBot
    pure (teamId, isBot, name)
  else pure (0, 0, lit "Player")

/-- Team, bot flag and name, from the cache if they are in it. -/
def playerMeta (other st : UInt64) : RadarReader (UInt32 × UInt8 × Str) := do
  let r ← get
  match r.findPlayerMeta other with
  | some pmeta => do
    modify (Radar.use pmeta.recordedIn)
    pure (pmeta.teamId, pmeta.isBot, pmeta.name)
  | none => do
    let read ← readPlayerMeta r.frame.header.localTeam st
    let isBot := clearTeammate r.frame.header.localTeam read.1 read.2.1
    modify (Radar.storePlayerMeta other read.1 isBot read.2.2)
    pure (read.1, isBot, read.2.2)

section Geometry
variable (ar : Arith)

def distanceTo (pos cameraPos : Rvec3) : F32 :=
  let dx := ar.sub pos.x cameraPos.x
  let dy := ar.sub pos.y cameraPos.y
  let dz := ar.sub pos.z cameraPos.z
  ar.div (ar.sqrtf (ar.add (ar.add (ar.mul dx dx) (ar.mul dy dy)) (ar.mul dz dz))) 0x42c80000

def skeleton (pos : Rvec3) (yaw : F32) : List Rvec3 :=
  let yawRad := ar.div (ar.mul yaw 0x40490fdb) 0x43340000
  let rightX := F32.neg (ar.sinf yawRad)
  let rightY := ar.cosf yawRad
  let above (d : F32) : Rvec3 := ⟨pos.x, pos.y, ar.add pos.z d⟩
  let below (b : Rvec3) (d : F32) : Rvec3 := ⟨b.x, b.y, ar.sub b.z d⟩
  let left (d h : F32) : Rvec3 :=
    ⟨ar.sub pos.x (ar.mul rightX d), ar.sub pos.y (ar.mul rightY d), ar.add pos.z h⟩
  let right (d h : F32) : Rvec3 :=
    ⟨ar.add pos.x (ar.mul rightX d), ar.add pos.y (ar.mul rightY d), ar.add pos.z h⟩
  let lElbow := below (left 0x41900000 0x42600000) 0x41c00000
  let rElbow := below (right 0x41900000 0x42600000) 0x41c00000
  let lKnee := below (left 0x41400000 0) 0x42280000
  let rKnee := below (right 0x41400000 0) 0x42280000
  [above 0x42960000, above 0x42700000, above 0x42280000, above 0,
   left 0x41900000 0x42600000, lElbow, below lElbow 0x41b00000,
   right 0x41900000 0x42600000, rElbow, below rElbow 0x41b00000,
   left 0x41400000 0, lKnee, below lKnee 0x422c0000,
   right 0x41400000 0, rKnee, below rKnee 0x422c0000]

def playerRecord (pos : Rvec3) (health : F32 × F32) (healthStatus : UInt8) (yaw : F32)
    (info : UInt32 × UInt8 × Str) (cameraPos : Rvec3) : RadarPlayer where
  pos := pos
  health := health.1
  healthMax := health.2
  yaw := yaw
  teamId := info.1
  isBot := info.2.1
  healthStatus := healthStatus
  hasBones := true
  name := name32 info.2.2
  distance := distanceTo ar pos cameraPos
  headPos := ⟨pos.x, pos.y, ar.add pos.z 0x42960000⟩
  feetPos := ⟨pos.x, pos.y, ar.sub pos.z 0x42aa0000⟩
  bones := skeleton ar pos yaw

end Geometry

def Radar.pushPlayer (p : RadarPlayer) (r : Radar) : Radar :=
  { r with frame := { r.frame with players := r.frame.players ++ [p] } }

def Candidate.drop (c : Candidate) : Candidate := { c with actor := 0 }

section Players
variable (ar : Arith) (head : TickHead)

/-- One candidate; what is left of it. -/
def processPlayer (c : Candidate) : RadarReader Candidate :=
  if c.actor = 0 ∨ c.actor = head.pawn then pure c
  else do
    modify (Radar.use c.recordedIn)
    match ← position c.actor with
    | none => pure c.drop
    | some pos =>
      if nearOrigin pos then pure c
      else do
        let bDead ← readU8 (c.actor + 0xe7c) 0
        if bDead ≠ 0 then pure c
        else do
          let st ← playerState c.actor
          let health ← readHealth c.actor st
          let healthStatus ← readU8 (c.actor + 0x2be8) 0
          if healthStatus = 2 then pure c
          else do
            let yaw ← readYaw c.actor
            let info ← playerMeta c.actor st
            modify (Radar.pushPlayer (playerRecord ar pos health healthStatus yaw info head.cameraPos))
            pure c

end Players

/-- The loop over the candidates `cs`, while there is room in the frame; what is left of them. -/
def forCandidates (full : Radar → Bool) (process : Candidate → RadarReader Candidate) :
    (cs : List Candidate) → RadarReader (List Candidate)
  | [] => pure []
  | c :: cs => do
    let r ← get
    if full r then pure (c :: cs)
    else do
      let c ← process c
      let cs ← forCandidates full process cs
      pure (c :: cs)

/-! ### Vehicles -/

/-- The name of the class of a vehicle, from the class cache if there is one in it. -/
def vehicleClassName (cls : UInt64) : RadarReader Str := do
  let r ← get
  match r.gClasses.find? fun e => e.classPtr = cls with
  | some e => do
    modify (Radar.use e.recordedIn)
    if e.name ≠ [] then pure e.name else resolveClassName cls
  | none => resolveClassName cls
where
  resolveClassName (cls : UInt64) : RadarReader Str :=
    if cls ≠ 0 then do
      let name ← resolveNameOf cls
      pure (name.getD [])
    else pure []

def Radar.pushVehicle (v : RadarVehicle) (r : Radar) : Radar :=
  { r with frame := { r.frame with vehicles := r.frame.vehicles ++ [v] } }

section Vehicles
variable (ar : Arith) (head : TickHead)

def processVehicle (c : Candidate) : RadarReader Candidate :=
  if c.actor = 0 then pure c
  else do
    modify (Radar.use c.recordedIn)
    match ← position c.actor with
    | none => pure c.drop
    | some pos => do
      let distance := distanceTo ar pos head.cameraPos
      if F32.lt 0x44480000 distance then pure c
      else do
        let fwdSpeed ← readU32 (c.actor + 0xcd0) 0
        let healthState ← readU8 (c.actor + 0x18c9) 0
        let canBoost ← readU8 (c.actor + 0x1978) 0
        let teamId ← readU8 (c.actor + 0x1574) 0
        let cls ← ptr c.actor 0x10
        let clsName ← vehicleClassName cls
        let name := resolveVehicleName clsName 32
        modify (Radar.pushVehicle
          { pos, distance, healthState, teamId, name
            speed := ar.mul (F32.abs fwdSpeed) 0x3d1374bc
            canBoost := if mentions name ["Airplane", "Glider", "Helicopter"] then 1 else canBoost })
        pure c

end Vehicles

/-! ### Items -/

def readItemId (iactor : UInt64) : Read Int := do
  let itemId ← readInt32 (iactor + 0x758) 0
  if itemId > 0 then pure itemId
  else do
    let itemId ← readInt32 (iactor + 1528) itemId
    if itemId > 0 then pure itemId
    else do
      let listData ← ptr iactor 2408
      if listData ≠ 0 then readInt32 listData itemId else pure itemId

def readItemCount (iactor : UInt64) : Read Int := do
  let count ← readInt32 (iactor + 0x610) 0
  pure (if count ≤ 0 then 1 else count)

/-- A label that the names of the actor, of its class and of its mesh may still improve. -/
def generic (name : Str) : Bool :=
  name = [] || (lit "Item").isPrefixOf name || name = lit "Loot Crate"

def improveLabel (object : UInt64) (label : Str × UInt8) : RadarReader (Str × UInt8) :=
  if generic label.1 ∧ object ≠ 0 then do
    let aname ← resolveNameOf object
    pure ((aname.bind fun aname => resolveItemFromActorName aname 32).getD label)
  else pure label

def linkWhen (wanted : Bool) (object offset : UInt64) : Read UInt64 := if wanted then ptr object offset else pure 0

def readItemMeta (iactor : UInt64) (itemId : Int) : RadarReader (Str × UInt8) := do
  let label := if itemId > 0 then resolveItemInfo itemId 32 else ([], 0)
  let label ← improveLabel iactor label
  let acls ← linkWhen (generic label.1) iactor 0x10
  let label ← improveLabel acls label
  let pmesh ← linkWhen (generic label.1) iactor 1816
  let label ← improveLabel pmesh label
  pure (if label.1 = [] then (lit "Supply", 5) else label)

def Radar.pushItem (item : RadarItem) (r : Radar) : Radar :=
  { r with frame := { r.frame with items := r.frame.items ++ [item] } }

/-- Id, count, label and category; all but the count from the cache if they are in it. -/
def itemMeta (iactor : UInt64) : RadarReader (Int × Int × Str × UInt8) := do
  let r ← get
  match r.findItemMeta iactor with
  | some imeta => do
    modify (Radar.use imeta.recordedIn)
    let count ← readItemCount iactor
    pure (imeta.itemId, count, imeta.name, imeta.category)
  | none => do
    let itemId ← readItemId iactor
    let count ← readItemCount iactor
    let label ← readItemMeta iactor itemId
    modify (Radar.storeItemMeta iactor itemId label.2 label.1)
    pure (itemId, count, label.1, label.2)

section Items
variable (ar : Arith) (head : TickHead)

def processItem (c : Candidate) : RadarReader Candidate :=
  if c.actor = 0 then pure c
  else do
    modify (Radar.use c.recordedIn)
    match ← position c.actor with
    | none => pure c.drop
    | some pos => do
      let distance := distanceTo ar pos head.cameraPos
      if F32.lt 0x42f00000 distance then pure c
      else do
        let info ← itemMeta c.actor
        modify (Radar.pushItem
          { pos, distance, itemId := info.1, count := info.2.1, name := name32 info.2.2.1, category := info.2.2.2 })
        pure c

end Items

/-! ### The tick -/

def radarMagic : UInt32 := 0x52444152
def radarVersion : UInt32 := 4

namespace Radar

def fullPlayers (r : Radar) : Bool := radarMaxPlayers ≤ r.frame.players.length
def fullVehicles (r : Radar) : Bool := radarMaxVehicles ≤ r.frame.vehicles.length
def fullItems (r : Radar) : Bool := radarMaxItems ≤ r.frame.items.length

def publish (status : UInt32) (r : Radar) : Radar :=
  let tick := r.tick + 1
  let r := { r with tick }.mapHeader fun h => { h with magic := radarMagic, version := radarVersion, tick, status }
  { r with published := r.published ++ [r.frame] }

end Radar

section Tick
variable (ar : Arith) (input : TickInput)

def scanWhenDue : RadarReader Unit := do
  let r ← get
  if F64.le r.nextScanTime input.scanNow then do
    modify fun r => { r with nextScanTime := ar.addDouble input.scanNow 0x3ff4000000000000 }
    let _ ← scanPersistentLevel r.world
    pure ()
  else pure ()

/-- The three loops of `radar_tick`. -/
def processCandidates (head : TickHead) : RadarReader Unit := do
  let r ← get
  let characters ← forCandidates Radar.fullPlayers (processPlayer ar head) r.characters
  modify fun r => { r with characters }
  let r ← get
  let vehicles ← forCandidates Radar.fullVehicles (processVehicle ar head) r.vehicles
  modify fun r => { r with vehicles }
  let r ← get
  let items ← forCandidates Radar.fullItems (processItem ar head) r.items
  modify fun r => { r with items }

/-- `radar_tick` up to its first loop. -/
def radarTickStart : RadarReader (Option TickHead) := do
  match ← radarTickHead ar input with
  | none => pure none
  | some head => do
    modify Radar.teamFallback
    scanWhenDue ar input
    pure (some head)

/-- The rest of `radar_tick`. -/
def radarTickRest : Option TickHead → RadarReader Unit
  | none => modify (Radar.publish 1)
  | some head => do
    processCandidates ar head
    modify fun r => r.publish (if head.hasLocal ∨ r.frame.header.cameraValid then 2 else 3)

def radarTick : RadarReader Unit := do
  let r ← get
  if r.shared then do radarTickRest ar (← radarTickStart ar input) else pure ()

end Tick

/-- `radar_init`; `mapped` says whether the file could be opened and mapped. -/
def radarInit (imageBase aslrSlide : UInt64) (mapped : Bool) (r : Radar) : Radar :=
  let r : Radar :=
    { r with
      base := imageBase, slide := aslrSlide, world := 0, localPlayer := 0, shared := mapped, tick := 0
      nextLookup := 0, worldCursor := 0, gClasses := [], characters := [], vehicles := [], items := []
      nextScanTime := 0, sCachedLocalTeam := 0, gPlayerMeta := [], gItemMeta := [] }
  if mapped then { r with frame := .zero }.publish 1 else r

namespace Radar

/-- The state that `p` leaves in a tick. -/
def after {α : Type} (p : RadarReader α) (input : TickInput) (r : Radar) : Radar :=
  ((p.run r).eval input.host 0).1.2

def step (ar : Arith) (input : TickInput) (r : Radar) : Radar := r.after (radarTick ar input) input

end Radar
end RadarAim
