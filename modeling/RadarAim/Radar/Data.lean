import RadarAim.Lib.Ieee
import RadarAim.Reflection.Context

/-! The frame that the reader publishes (`radar_data.h`) and its static variables: the caches of
    `radar_reader.c`. A datum that is cached carries, as history, the world that was current when it was
    recorded; `uses` lists what was taken from a cache, and for which world. -/

namespace RadarAim
open Ieee

def radarMaxPlayers : Nat := 100
def radarMaxVehicles : Nat := 30
def radarMaxItems : Nat := 60

structure Rvec3 where
  x : F32
  y : F32
  z : F32
  deriving DecidableEq

def Rvec3.zero : Rvec3 := ⟨0, 0, 0⟩

structure RadarHeader where
  magic : UInt32
  version : UInt32
  tick : UInt32
  localPos : Rvec3
  localRot : Rvec3
  cameraFov : F32
  status : UInt32
  cameraPos : Rvec3
  cameraValid : Bool
  /-- 0 means unknown. -/
  localTeam : UInt32

structure RadarPlayer where
  pos : Rvec3
  health : F32
  healthMax : F32
  yaw : F32
  teamId : UInt32
  isBot : UInt8
  healthStatus : UInt8
  hasBones : Bool
  name : Str
  distance : F32
  headPos : Rvec3
  feetPos : Rvec3
  bones : List Rvec3

structure RadarVehicle where
  pos : Rvec3
  distance : F32
  speed : F32
  healthState : UInt8
  canBoost : UInt8
  teamId : UInt8
  name : Str

structure RadarItem where
  pos : Rvec3
  distance : F32
  itemId : Int
  count : Int
  category : UInt8
  name : Str

/-- `radar_shared_t`; the counts of its header are the lengths of the lists. -/
structure RadarFrame where
  header : RadarHeader
  players : List RadarPlayer
  vehicles : List RadarVehicle
  items : List RadarItem

def RadarFrame.zero : RadarFrame where
  header :=
    { magic := 0, version := 0, tick := 0, localPos := .zero, localRot := .zero, cameraFov := 0, status := 0
      cameraPos := .zero, cameraValid := false, localTeam := 0 }
  players := []
  vehicles := []
  items := []

/-! ### The caches -/

inductive ClsType where
  | ignore
  | player
  | vehicle
  | item
  deriving DecidableEq

structure ClassCacheEntry where
  classPtr : UInt64
  type : ClsType
  name : Str
  recordedIn : UInt64

/-- An actor of the last scan; its pointer is set to 0 when it cannot be read any more. -/
structure Candidate where
  actor : UInt64
  recordedIn : UInt64

structure PlayerMetaCache where
  actor : UInt64
  teamId : UInt32
  isBot : UInt8
  name : Str
  valid : Bool
  recordedIn : UInt64

structure ItemMetaCache where
  actor : UInt64
  itemId : Int
  category : UInt8
  name : Str
  valid : Bool
  recordedIn : UInt64

def classCacheSize : Nat := 4096
def maxCharacters : Nat := 512
def maxVehicleCandidates : Nat := 64
def maxItemCandidates : Nat := 256
def playerMetaCacheSize : Nat := 512
def itemMetaCacheSize : Nat := 256

/-- A cached datum was used to build a frame for `world`. -/
structure Use where
  recordedIn : UInt64
  world : UInt64

/-- The static variables of the reader. An array with its count is a list. -/
structure Radar where
  base : UInt64
  slide : UInt64
  world : UInt64
  localPlayer : UInt64
  reflection : Option Ue4rCtx
  /-- Whether the file is mapped. -/
  shared : Bool
  frame : RadarFrame
  tick : UInt32
  nextLookup : F64
  worldCursor : Int
  gClasses : List ClassCacheEntry
  characters : List Candidate
  vehicles : List Candidate
  items : List Candidate
  nextScanTime : F64
  sCachedLocalTeam : UInt32
  teamRecordedIn : UInt64
  gPlayerMeta : List PlayerMetaCache
  gItemMeta : List ItemMetaCache
  uses : List Use
  /-- The frames given to `publish`. -/
  published : List RadarFrame

abbrev RadarReader := StateT Radar Read

/-- `strncpy` into a field of 32 bytes that is terminated at its last byte. -/
def name32 (s : Str) : Str := s.take 31

section Meta
variable {α : Type} (actor : α → UInt64)

/-- The loop of `find_player_meta` and `find_item_meta`. -/
def findMeta (valid : α → Bool) (cache : List α) (key : UInt64) : Option α :=
  cache.find? fun m => valid m && actor m = key

/-- The first entry of the actor is overwritten; a new one is added as long as there is room. -/
def storeMeta (entry : α) : List α → (room : Nat) → List α
  | [], 0 => []
  | [], _ + 1 => [entry]
  | m :: ms, room => if actor m = actor entry then entry :: ms else m :: storeMeta entry ms (room - 1)

end Meta

namespace Radar

def findPlayerMeta (r : Radar) (actor : UInt64) : Option PlayerMetaCache :=
  findMeta PlayerMetaCache.actor PlayerMetaCache.valid r.gPlayerMeta actor

def storePlayerMeta (actor : UInt64) (teamId : UInt32) (isBot : UInt8) (name : Str) (r : Radar) : Radar :=
  { r with
    gPlayerMeta := storeMeta PlayerMetaCache.actor
      { actor, teamId, isBot, name := name32 name, valid := true, recordedIn := r.world } r.gPlayerMeta
      playerMetaCacheSize }

def findItemMeta (r : Radar) (actor : UInt64) : Option ItemMetaCache :=
  findMeta ItemMetaCache.actor ItemMetaCache.valid r.gItemMeta actor

def storeItemMeta (actor : UInt64) (itemId : Int) (category : UInt8) (name : Str) (r : Radar) : Radar :=
  { r with
    gItemMeta := storeMeta ItemMetaCache.actor
      { actor, itemId, category, name := name32 name, valid := true, recordedIn := r.world } r.gItemMeta
      itemMetaCacheSize }

def zero : Radar where
  base := 0
  slide := 0
  world := 0
  localPlayer := 0
  reflection := none
  shared := false
  frame := .zero
  tick := 0
  nextLookup := 0
  worldCursor := 0
  gClasses := []
  characters := []
  vehicles := []
  items := []
  nextScanTime := 0
  sCachedLocalTeam := 0
  teamRecordedIn := 0
  gPlayerMeta := []
  gItemMeta := []
  uses := []
  published := []

/-- Something recorded in one world is used for the current one. -/
def use (recordedIn : UInt64) (r : Radar) : Radar := { r with uses := r.uses ++ [⟨recordedIn, r.world⟩] }

end Radar
end RadarAim
