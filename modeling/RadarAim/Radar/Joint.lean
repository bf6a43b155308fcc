import RadarAim.Radar.Arrays
import RadarAim.Radar.Layout
import RadarAim.Radar.Snapshot

/-! The reader, the file and the overlays together. The frames that the reader gives to `publish` go to the file as the
    words of a `radar_shared_t`; `view` is what an overlay finds in the members of the copy that it has made. -/

namespace RadarAim
namespace Joint
open CLayout Ieee
open Snapshot (Shared System)

/-! ### The frame of the reader in memory -/

def encodeBool (b : Bool) : Nat := if b then 1 else 0

def encodeName (name : Str) : Vector UInt8 32 := .ofFn fun i => name.getD i 0

def encodePlayer (p : RadarPlayer) : Layout.RadarPlayer where
  pos := p.pos
  health := p.health
  healthMax := p.healthMax
  yaw := p.yaw
  teamId := p.teamId
  isBot := p.isBot
  isVisible := 0
  healthStatus := p.healthStatus
  hasBones := .ofNat (encodeBool p.hasBones)
  name := encodeName p.name
  distance := p.distance
  headPos := p.headPos
  feetPos := p.feetPos
  bones := .ofFn fun k => p.bones.getD k .zero

def encodeVehicle (v : RadarVehicle) : Layout.RadarVehicle where
  pos := v.pos
  distance := v.distance
  speed := v.speed
  healthState := v.healthState
  canBoost := v.canBoost
  teamId := v.teamId
  pad := 0
  name := encodeName v.name

def encodeItem (it : RadarItem) : Layout.RadarItem where
  pos := it.pos
  distance := it.distance
  itemId := .ofInt it.itemId
  count := .ofInt it.count
  category := it.category
  pad := .replicate 3 0
  name := encodeName it.name

/-- The static `frame`; its own `sequence` is never set. -/
def encode (f : Arrays.SharedFrame) : Layout.RadarShared where
  header :=
    { magic := f.header.magic, version := f.header.version, tick := f.header.tick
      playerCount := .ofNat f.players.count, vehicleCount := .ofNat f.vehicles.count, itemCount := .ofNat f.items.count
      localPos := f.header.localPos, localRot := f.header.localRot, cameraFov := f.header.cameraFov, sequence := 0
      status := f.header.status, cameraPos := f.header.cameraPos
      cameraValid := .ofNat (encodeBool f.header.cameraValid), localTeam := f.header.localTeam, screenWidth := 0
      screenHeight := 0 }
  players := .ofFn fun i => encodePlayer (f.players.slot i)
  vehicles := .ofFn fun i => encodeVehicle (f.vehicles.slot i)
  items := .ofFn fun i => encodeItem (f.items.slot i)

/-- Bytes as the aligned words of the file. -/
def words (bytes : List UInt8) : Shared := fun i => .ofNat 32 (leNat (fun j => bytes.getD j 0) (4 * i) 4)

/-! ### What an overlay reads -/

/-- The bytes of a copy. -/
def byteAt (s : Shared) : Buf := fun i =>
  if h : i / 4 < Snapshot.sharedWords then .ofNat ((s ⟨i / 4, h⟩).toNat / 256 ^ (i % 4)) else 0

section Members
variable (b : Buf) (off : Nat)

def rvec3At : Rvec3 := ⟨le32 b off, le32 b (off + 4), le32 b (off + 8)⟩

def nameAt : Str := cstr (Buf.bytes (fun k => b (off + k)) 32)

def headerAt : RadarHeader where
  magic := le32 b off
  version := le32 b (off + 4)
  tick := le32 b (off + 8)
  localPos := rvec3At b (off + 24)
  localRot := rvec3At b (off + 36)
  cameraFov := le32 b (off + 48)
  status := le32 b (off + 56)
  cameraPos := rvec3At b (off + 60)
  cameraValid := le32 b (off + 72) != 0
  localTeam := le32 b (off + 76)

def playerAt : RadarPlayer where
  pos := rvec3At b off
  health := le32 b (off + 12)
  healthMax := le32 b (off + 16)
  yaw := le32 b (off + 20)
  teamId := le32 b (off + 24)
  isBot := b (off + 28)
  healthStatus := b (off + 30)
  hasBones := b (off + 31) != 0
  name := nameAt b (off + 32)
  distance := le32 b (off + 64)
  headPos := rvec3At b (off + 68)
  feetPos := rvec3At b (off + 80)
  bones := (List.range Layout.radarNumBones).map fun k => rvec3At b (off + 92 + 12 * k)

def vehicleAt : RadarVehicle where
  pos := rvec3At b off
  distance := le32 b (off + 12)
  speed := le32 b (off + 16)
  healthState := b (off + 20)
  canBoost := b (off + 21)
  teamId := b (off + 22)
  name := nameAt b (off + 24)

def itemAt : RadarItem where
  pos := rvec3At b off
  distance := le32 b (off + 12)
  itemId := leI32 b (off + 16)
  count := leI32 b (off + 20)
  category := b (off + 24)
  name := nameAt b (off + 28)

end Members

/-- `g_snapshot`: the header, and the records below each count. -/
def view (s : Shared) : RadarFrame where
  header := headerAt (byteAt s) 0
  players := (List.range (le32 (byteAt s) 12).toNat).map fun i => playerAt (byteAt s) (88 + 284 * i)
  vehicles := (List.range (le32 (byteAt s) 16).toNat).map fun i => vehicleAt (byteAt s) (28488 + 56 * i)
  items := (List.range (le32 (byteAt s) 20).toNat).map fun i => itemAt (byteAt s) (30168 + 60 * i)

/-! ### The processes -/

/-- The file with the daemon and the overlays at it, and the static variables of the reader in the daemon. `frames` is
    history: what the reader gave to `publish`, in all daemons so far. -/
structure Session (ρ : Type) where
  system : System ρ
  memory : Arrays.Mem
  frames : List Arrays.SharedFrame

section
variable {ρ : Type} [DecidableEq ρ]

/-- The reader goes on to `m` and calls `publish` for `f`. -/
def Session.publish (s : Session ρ) (tick : BitVec 32) (m : Arrays.Mem) (f : Arrays.SharedFrame) : Session ρ where
  system := s.system.callPublish tick (words (encode f).bytes) f.header.status.toBitVec
  memory := m
  frames := s.frames ++ [f]

inductive Step (ar : Arith) : Session ρ → Session ρ → Prop
  /-- A word is copied, an overlay goes on, or the daemon dies. A daemon that has left its radar loop counts as dead
      until it enters it again. -/
  | other {s : Session ρ} {t : System ρ} (h : Snapshot.Step s.system t)
      (hpublished : t.published = s.system.published) : Step ar s { s with system := t }
  | restart {s : Session ρ} (hdead : s.system.daemon = .dead) : Step ar s { s with memory := .initial }
  | init {s : Session ρ} {f : Arrays.SharedFrame} (imageBase aslrSlide : UInt64) (hdead : s.system.daemon = .dead)
      (hpublished : (Arrays.radarInit imageBase aslrSlide .mapped s.memory).published = s.memory.published ++ [f]) :
      Step ar s
        { system := s.system.callPublish 0 (fun _ => 0) 1
          memory := Arrays.radarInit imageBase aslrSlide .mapped s.memory, frames := s.frames ++ [f] }
  /-- The file cannot be opened or mapped. -/
  | initFails {s : Session ρ} {mapping : Arrays.Mapping} (imageBase aslrSlide : UInt64)
      (hdead : s.system.daemon = .dead)
      (hpublished : (Arrays.radarInit imageBase aslrSlide mapping s.memory).published = s.memory.published) :
      Step ar s { s with memory := Arrays.radarInit imageBase aslrSlide mapping s.memory }
  | tick {s : Session ρ} {tick : BitVec 32} {f : Arrays.SharedFrame} (input : TickInput)
      (hidle : s.system.daemon = .running tick .idle)
      (hpublished : (s.memory.step ar input).published = s.memory.published ++ [f]) :
      Step ar s (s.publish tick (s.memory.step ar input) f)
  | destroy {s : Session ρ} {tick : BitVec 32} {f : Arrays.SharedFrame} (hidle : s.system.daemon = .running tick .idle)
      (hpublished : (Arrays.radarDestroy s.memory).published = s.memory.published ++ [f]) :
      Step ar s (s.publish tick (Arrays.radarDestroy s.memory) f)

def boot : Session ρ := ⟨Snapshot.boot, .initial, []⟩

inductive Reachable (ar : Arith) : Session ρ → Prop
  | boot : Reachable ar boot
  | step {s t : Session ρ} (h : Reachable ar s) (hs : Step ar s t) : Reachable ar t

end
end Joint
end RadarAim
