import RadarAim.Lib.CLayout
import RadarAim.Radar.Data

/-! The bytes of the shared file: `radar_shared_t` with all its members, as the declarations of `radar_data.h` lay
    it out. -/

namespace RadarAim
namespace Layout
open CLayout Ieee

def radarMagic : UInt32 := 0x52444152
def radarVersion : UInt32 := 4
def radarNumBones : Nat := 16

structure RadarHeader where
  magic : UInt32
  version : UInt32
  tick : UInt32
  playerCount : UInt32
  vehicleCount : UInt32
  itemCount : UInt32
  localPos : Rvec3
  localRot : Rvec3
  cameraFov : F32
  sequence : UInt32
  status : UInt32
  cameraPos : Rvec3
  cameraValid : UInt32
  localTeam : UInt32
  screenWidth : F32
  screenHeight : F32

structure RadarPlayer where
  pos : Rvec3
  health : F32
  healthMax : F32
  yaw : F32
  teamId : UInt32
  isBot : UInt8
  isVisible : UInt8
  healthStatus : UInt8
  hasBones : UInt8
  name : Vector UInt8 32
  distance : F32
  headPos : Rvec3
  feetPos : Rvec3
  bones : Vector Rvec3 radarNumBones

structure RadarVehicle where
  pos : Rvec3
  distance : F32
  speed : F32
  healthState : UInt8
  canBoost : UInt8
  teamId : UInt8
  pad : UInt8
  name : Vector UInt8 32

structure RadarItem where
  pos : Rvec3
  distance : F32
  itemId : Int32
  count : Int32
  category : UInt8
  pad : Vector UInt8 3
  name : Vector UInt8 32

structure RadarShared where
  header : RadarHeader
  players : Vector RadarPlayer radarMaxPlayers
  vehicles : Vector RadarVehicle radarMaxVehicles
  items : Vector RadarItem radarMaxItems

def rvec3 (v : Rvec3) : CValue := struct [uint32 v.x, uint32 v.y, uint32 v.z]

def RadarHeader.layout (h : RadarHeader) : CValue :=
  struct [uint32 h.magic, uint32 h.version, uint32 h.tick, uint32 h.playerCount, uint32 h.vehicleCount,
    uint32 h.itemCount, rvec3 h.localPos, rvec3 h.localRot, uint32 h.cameraFov, uint32 h.sequence, uint32 h.status,
    rvec3 h.cameraPos, uint32 h.cameraValid, uint32 h.localTeam, uint32 h.screenWidth, uint32 h.screenHeight]

def RadarPlayer.layout (p : RadarPlayer) : CValue :=
  struct [rvec3 p.pos, uint32 p.health, uint32 p.healthMax, uint32 p.yaw, uint32 p.teamId, uint8 p.isBot,
    uint8 p.isVisible, uint8 p.healthStatus, uint8 p.hasBones, chars p.name, uint32 p.distance, rvec3 p.headPos,
    rvec3 p.feetPos, array (p.bones.toList.map rvec3)]

def RadarVehicle.layout (v : RadarVehicle) : CValue :=
  struct [rvec3 v.pos, uint32 v.distance, uint32 v.speed, uint8 v.healthState, uint8 v.canBoost, uint8 v.teamId,
    uint8 v.pad, chars v.name]

def RadarItem.layout (it : RadarItem) : CValue :=
  struct [rvec3 it.pos, uint32 it.distance, int32 it.itemId, int32 it.count, uint8 it.category, chars it.pad,
    chars it.name]

def RadarShared.layout (f : RadarShared) : CValue :=
  struct [f.header.layout, array (f.players.toList.map RadarPlayer.layout),
    array (f.vehicles.toList.map RadarVehicle.layout), array (f.items.toList.map RadarItem.layout)]

/-- The contents of the file. -/
def RadarShared.bytes (f : RadarShared) : List UInt8 := f.layout.bytes

end Layout
end RadarAim
