import RadarAim.Overlay.SharedMemory
import RadarAim.Overlay.Touch

/-! The state of the overlay, and the part of `timer_tick` that chooses a target from the snapshot and steers
    the simulated finger towards it. The arithmetic of `float` is that of `Arith`, the arithmetic of `double`
    that of `Double`. -/

namespace RadarAim.Overlay
open Ieee

/-- The features that the aim engine depends on; `aimTriggerMode` is 0 for the hold button, 1 for automatic
    and 2 for off. -/
structure Settings where
  touchAim : Bool
  aimVelocity : Nat
  aimBone : Nat
  aimFovMode : Nat
  aimTriggerMode : Nat
  aimTouchZone : Nat
  leadPred : Bool
  recoilComp : Bool
  adaptiveFov : Bool
  aimSmooth : Bool
  orientationOverride : Nat

def Settings.initial : Settings where
  touchAim := true
  aimVelocity := 1
  aimBone := 0
  aimFovMode := 1
  aimTriggerMode := 1
  aimTouchZone := 1
  leadPred := false
  recoilComp := false
  adaptiveFov := false
  aimSmooth := false
  orientationOverride := 0

structure PlayerTracking (D : Type) where
  pos : Rvec3
  vel : Rvec3
  lastTime : D

/-- The variables of the overlay. `stopped` is history: `action_stop_radar` was invoked and no snapshot has been
    accepted since. -/
structure State (D : Type) where
  frameCounter : Nat
  shm : Shm
  snapshot : RadarFrame
  lastTick : UInt32
  changedAt : D
  overlayLocalTeam : UInt32
  settings : Settings
  screenW : D
  screenH : D
  currentOrientation : Int
  lastOrientation : Int
  lastScenePortrait : Bool
  aimActive : Bool
  aimIsDragging : Bool
  aimDragStartTouch : CGPoint D
  fingerDragX : D
  fingerDragY : D
  tracked : Nat → PlayerTracking D
  menuOpen : Bool
  sim : Sim D
  stopped : Bool

/-- What a tick is told by the system: the clock when a snapshot is accepted and when the aim engine begins,
    the orientations, the bounds of the screen, and two values of `rand`. -/
structure TickInput (D : Type) where
  readAt : D
  now : D
  appOri : Int
  sceneOri : Int
  devOri : Int
  boundsW : D
  boundsH : D
  sceneIsPortrait : Bool
  randX : Nat
  randY : Nat

section
variable {D : Type} [Double D]

def State.initial (files : Files) : State D where
  frameCounter := 0
  shm := .initial files
  snapshot := .zero
  lastTick := 0
  changedAt := 0.0
  overlayLocalTeam := 0
  settings := .initial
  screenW := 0.0
  screenH := 0.0
  currentOrientation := 3
  lastOrientation := 0
  lastScenePortrait := false
  aimActive := false
  aimIsDragging := false
  aimDragStartTouch := ⟨0.0, 0.0⟩
  fingerDragX := 0.0
  fingerDragY := 0.0
  tracked := fun _ => ⟨.zero, .zero, 0.0⟩
  menuOpen := false
  sim := .initial
  stopped := false

/-! ### The screen -/

namespace TickInput

def isLandscapeOri (ori : Int) : Bool := ori = 3 ∨ ori = 4

def isOri (ori : Int) : Bool := 1 ≤ ori ∧ ori ≤ 4

def ori (i : TickInput D) : Int :=
  if isLandscapeOri i.appOri then i.appOri
  else if isLandscapeOri i.sceneOri then i.sceneOri
  else if isLandscapeOri i.devOri then i.devOri
  else if isOri i.appOri then i.appOri
  else if isOri i.sceneOri then i.sceneOri
  else if isOri i.devOri then i.devOri
  else 0

/-- `raw_w` and `raw_h`. -/
def raw (i : TickInput D) : D × D :=
  if i.boundsW ≤ (10.0 : D) ∨ i.boundsH ≤ (10.0 : D) then (1024.0, 768.0) else (i.boundsW, i.boundsH)

def maxDim (i : TickInput D) : D := Double.fmax i.raw.1 i.raw.2

def minDim (i : TickInput D) : D := Double.fmin i.raw.1 i.raw.2

def isLandscape (i : TickInput D) (status : UInt32) : Bool :=
  isLandscapeOri i.ori ∨ i.raw.2 < i.raw.1 ∨ 1 ≤ status

end TickInput

def orientationFor (i : TickInput D) (status : UInt32) (orientationOverride : Nat) : Int :=
  if orientationOverride = 1 then 3
  else if orientationOverride = 2 then 4
  else if i.isLandscape status then
    if i.ori = 4 then 4 else if i.ori = 3 then 3 else if i.devOri = 4 then 4 else 3
  else if TickInput.isOri i.ori then i.ori else 3

/-- `target_w` and `target_h`. -/
def State.targetSize (i : TickInput D) (s : State D) : D × D :=
  if i.isLandscape s.snapshot.header.status then (i.maxDim, i.minDim) else (i.minDim, i.maxDim)

/-- `bounds_changed`, when `g_current_orientation` has been set. -/
def State.boundsChanged (i : TickInput D) (s : State D) : Bool :=
  (1.0 : D) < Double.fabs ((s.targetSize i).1 - s.screenW) ∨ (1.0 : D) < Double.fabs ((s.targetSize i).2 - s.screenH) ∨
    s.currentOrientation ≠ s.lastOrientation ∨ i.sceneIsPortrait ≠ s.lastScenePortrait

/-- Parts 3 and 4 of `timer_tick`, as far as the aim engine depends on them. -/
def State.layoutScreen (i : TickInput D) (s : State D) : State D :=
  let s :=
    { s with
      currentOrientation := orientationFor i s.snapshot.header.status s.settings.orientationOverride }
  if s.boundsChanged i ∨ s.frameCounter % 20 = 1 then
    { s with
      screenW := (s.targetSize i).1, screenH := (s.targetSize i).2, lastOrientation := s.currentOrientation
      lastScenePortrait := i.sceneIsPortrait }
  else s

/-- `screen_w` and `screen_h` of the aim engine. -/
def State.aimScreen (i : TickInput D) (s : State D) : D × D :=
  let w := if (0.0 : D) < s.screenW then s.screenW else i.maxDim
  let h := if (0.0 : D) < s.screenH then s.screenH else i.minDim
  if i.isLandscape s.snapshot.header.status ∧ w < h then (h, w) else (w, h)

/-! ### The target -/

def mPi : D := 3.14159265358979323846

/-- The screen point of `world_pos` and its depth. -/
def State.worldToScreen (ar : Arith) (i : TickInput D) (s : State D) (worldPos : Rvec3) (w h : D) :
    Option (CGPoint D × D) :=
  let (w, h) :=
    if w ≤ (10.0 : D) ∨ h ≤ (10.0 : D) then
      if (10.0 : D) < s.screenW ∧ (10.0 : D) < s.screenH then (s.screenW, s.screenH)
      else (Double.fmax i.boundsW i.boundsH, Double.fmin i.boundsW i.boundsH)
    else (w, h)
  let (w, h) :=
    if (TickInput.isLandscapeOri s.currentOrientation ∨ h < w ∨ 1 ≤ s.snapshot.header.status) ∧ w < h then (h, w)
    else (w, h)
  let cam := s.snapshot.header.cameraPos
  let rot := s.snapshot.header.localRot
  let pitch := Double.ofFloat rot.x * mPi / (180.0 : D)
  let yaw := Double.ofFloat rot.y * mPi / (180.0 : D)
  let roll := Double.ofFloat rot.z * mPi / (180.0 : D)
  let cp := Double.cos pitch
  let sp := Double.sin pitch
  let cy := Double.cos yaw
  let sy := Double.sin yaw
  let cr := Double.cos roll
  let sr := Double.sin roll
  let fov : D := Double.ofFloat s.snapshot.header.cameraFov
  let fov := if !Double.isfinite fov ∨ fov ≤ (10.0 : D) ∨ (180.0 : D) ≤ fov then (90.0 : D) else fov
  let focal := w / ((2.0 : D) * Double.tan (fov * mPi / (360.0 : D)))
  let dx : D := Double.ofFloat (ar.sub worldPos.x cam.x)
  let dy : D := Double.ofFloat (ar.sub worldPos.y cam.y)
  let dz : D := Double.ofFloat (ar.sub worldPos.z cam.z)
  let depth := dx * cp * cy + dy * cp * sy + dz * sp
  if depth ≤ (10.0 : D) then none
  else
    let right := dx * (sr * sp * cy - cr * sy) + dy * (sr * sp * sy + cr * cy) - dz * sr * cp
    let up := dx * ((-cr) * sp * cy - sr * sy) + dy * ((-cr) * sp * sy + sr * cy) + dz * cr * cp
    let x := w / (2.0 : D) + right * focal / depth
    let y := h / (2.0 : D) - up * focal / depth
    if !Double.isfinite x ∨ !Double.isfinite y then none
    else if x < (-200.0 : D) ∨ w + 200.0 < x ∨ y < (-200.0 : D) ∨ h + 200.0 < y then none
    else some (⟨x, y⟩, depth)

/-- `get_aim_fov_radius`. -/
def State.aimFovRadius (s : State D) (screenW screenH : D) : D :=
  let r : D :=
    match s.settings.aimFovMode with
    | 0 => 100.0
    | 1 => 180.0
    | 2 => 260.0
    | 3 => 350.0
    | _ => Double.fmin screenW screenH * 0.48
  if s.settings.adaptiveFov ∧ 0 ≤ s.sim.lockedPlayerIdx then
    match s.snapshot.players[s.sim.lockedPlayerIdx.toNat]? with
    | none => r
    | some p =>
      if F32.lt 0x42f00000 p.distance then r * 0.65 else if F32.lt p.distance 0x420c0000 then r * 1.40 else r
  else r

def track (ar : Arith) (now : D) (p : RadarPlayer) (t : PlayerTracking D) : PlayerTracking D :=
  let dt := now - t.lastTime
  let vel :=
    if (0.02 : D) < dt ∧ dt < (0.5 : D) then
      let dtf := Double.toFloat dt
      ⟨ar.div (ar.sub p.pos.x t.pos.x) dtf, ar.div (ar.sub p.pos.y t.pos.y) dtf, ar.div (ar.sub p.pos.z t.pos.z) dtf⟩
    else t.vel
  { pos := p.pos, vel, lastTime := now }

/-- The players that the loops of the aim engine go over. -/
def State.aimPlayers (s : State D) : List RadarPlayer := s.snapshot.players.take radarMaxPlayers

def State.trackPlayers (ar : Arith) (now : D) (s : State D) : State D :=
  { s with
    tracked := fun k =>
      match s.aimPlayers[k]? with
      | some p => track ar now p (s.tracked k)
      | none => s.tracked k }

def chest (ar : Arith) (head feet : F32) : F32 := ar.div (ar.add head feet) 0x40000000

def pelvis (ar : Arith) (head feet : F32) : F32 := ar.div (ar.add head (ar.mul feet 0x40000000)) 0x40400000

def pointwise (f : F32 → F32 → F32) (head feet : Rvec3) : Rvec3 := ⟨f head.x feet.x, f head.y feet.y, f head.z feet.z⟩

def bonePoint (ar : Arith) (aimBone : Nat) (p : RadarPlayer) : Rvec3 :=
  if aimBone = 1 then if p.hasBones then p.bones.getD 2 .zero else pointwise (chest ar) p.headPos p.feetPos
  else if aimBone = 2 then if p.hasBones then p.bones.getD 3 .zero else pointwise (pelvis ar) p.headPos p.feetPos
  else p.headPos

/-- The point aimed at: a bone, moved ahead of a player that runs. -/
def State.targetPoint (ar : Arith) (s : State D) (k : Nat) (p : RadarPlayer) : Rvec3 :=
  let target := bonePoint ar s.settings.aimBone p
  let vel := (s.tracked k).vel
  if s.settings.leadPred ∧ p.isBot = 0 ∧ F32.lt 0x41c80000 (Double.hypotf D vel.x vel.y) ∧
    F32.lt 0x40c00000 p.distance then
    let travel := ar.div p.distance 0x445c0000
    ⟨ar.add target.x (ar.mul vel.x travel), ar.add target.y (ar.mul vel.y travel),
      ar.add target.z (ar.mul vel.z travel)⟩
  else target

/-- `my_team`; 0 when it is not known. -/
def State.myTeam (s : State D) : UInt32 :=
  if 0 < s.snapshot.header.localTeam then s.snapshot.header.localTeam else s.overlayLocalTeam

/-- A dead player or a teammate is passed over. -/
def State.passedOver (s : State D) (p : RadarPlayer) : Bool :=
  p.healthStatus = 2 ∨ s.myTeam ≠ 0 ∧ p.teamId = s.myTeam

/-- `best_idx`, `best_dist_sq` and `best_pos`. -/
structure Best (D : Type) where
  idx : Int
  distSq : D
  pos : CGPoint D

def Best.none : Best D := ⟨-1, 1e12, ⟨0.0, 0.0⟩⟩

def State.consider (ar : Arith) (i : TickInput D) (s : State D) (screen : D × D) (fovRadius : D) (best : Best D)
    (candidate : RadarPlayer × Nat) : Best D :=
  if s.passedOver candidate.1 then best
  else
    match s.worldToScreen ar i (s.targetPoint ar candidate.2 candidate.1) screen.1 screen.2 with
    | Option.none => best
    | some (sp, _) =>
      let dx := sp.x - screen.1 / (2.0 : D)
      let dy := sp.y - screen.2 / (2.0 : D)
      let dSq := dx * dx + dy * dy
      if dSq ≤ fovRadius * fovRadius ∧ dSq < best.distSq then ⟨candidate.2, dSq, sp⟩ else best

def State.bestTarget (ar : Arith) (i : TickInput D) (s : State D) : Best D :=
  let screen := s.aimScreen i
  s.aimPlayers.zipIdx.foldl (s.consider ar i screen (s.aimFovRadius screen.1 screen.2)) Best.none

/-! ### The aim engine -/

/-- `delta_x`, `delta_y` and `dist`. -/
def State.aimDelta (i : TickInput D) (s : State D) (pos : CGPoint D) : D × D × D :=
  let screen := s.aimScreen i
  let deltaX := (pos.x - screen.1 / (2.0 : D)) + s.fingerDragX * 0.4
  let deltaY := (pos.y - screen.2 / (2.0 : D)) + s.fingerDragY * 0.4
  (deltaX, deltaY, Double.hypot deltaX deltaY)

def velMult (aimVelocity : Nat) : D :=
  if aimVelocity = 0 then 0.25 else if aimVelocity = 1 then 0.50 else if aimVelocity = 2 then 0.80 else 1.15

def jitter (rand : Nat) : D := Double.ofInt ((rand % 100 : Nat) - 50) * 0.000006

/-- `step_x` and `step_y`, when the finger has made `strokeFrames` moves of its stroke. -/
def State.aimStep (i : TickInput D) (s : State D) (pos : CGPoint D) (strokeFrames : Int) : D × D :=
  let (deltaX, deltaY, dist) := s.aimDelta i pos
  let mult : D := velMult s.settings.aimVelocity
  let mag := Double.fmin 0.025 (Double.fmax 0.004 (dist / (s.aimScreen i).1 * 0.35)) * mult
  let stepX := deltaX / dist * mag
  let stepY := deltaY / dist * mag
  let stepY := if s.settings.recoilComp then stepY + 0.0030 * mult else stepY
  if s.settings.aimSmooth then
    let smooth := Double.sin ((Double.ofInt (strokeFrames.tmod 14) + 1.0) * 3.14159 / (15.0 : D))
    (stepX * (0.75 + 0.50 * smooth) + jitter i.randX, stepY * (0.75 + 0.50 * smooth) + jitter i.randY)
  else (stepX, stepY)

def State.aimEnabled (s : State D) : Bool := s.settings.touchAim ∧ s.settings.aimTriggerMode ≠ 2

def State.aimTriggerActive (s : State D) : Bool :=
  if s.settings.aimTriggerMode = 0 then s.aimActive ∧ !s.aimIsDragging else true

/-- The test that the aim engine begins with; it asks nothing about the age of the snapshot. -/
def State.aimGate (s : State D) : Bool :=
  s.aimEnabled ∧ s.aimTriggerActive ∧ s.snapshot.header.status = 2 ∧ s.snapshot.header.cameraValid

def State.zone (s : State D) : Zone D := zoneOf s.settings.aimTouchZone

/-- The engine behind its gate, on the target `best`. -/
def State.steerTo (i : TickInput D) (s : State D) (best : Best D) : Sim D :=
  let sim := s.sim.switchTarget s.zone best.idx
  if 0 ≤ best.idx then
    let step := s.aimStep i best.pos sim.strokeFrames
    Sim.steer s.zone (s.aimDelta i best.pos).2.2 step.1 step.2 { sim with lockedScreenPos := best.pos }
  else sim.lift s.zone

def State.aimEngine (ar : Arith) (i : TickInput D) (s : State D) : State D :=
  if s.aimGate then
    let tracked := s.trackPlayers ar i.now
    { tracked with sim := tracked.steerTo i (tracked.bestTarget ar i) }
  else { s with sim := s.sim.lift s.zone }

end
end RadarAim.Overlay
