import RadarAim.Lib.Double

/-! The simulated finger of the overlay: `hid_touch_event`, and what the aim engine of `timer_tick` and the
    callbacks of the AIM button do with it. What is sent to the system is not modelled; `touches` is the
    history of the events. -/

namespace RadarAim.Overlay
open Ieee

structure CGPoint (D : Type) where
  x : D
  y : D

/-- The third argument of `hid_touch_event`: 1, 2 and 0. -/
inductive TouchState where
  | down
  | move
  | up
  deriving DecidableEq

structure TouchEvent (D : Type) where
  normX : D
  normY : D
  state : TouchState

/-- `g_locked_player_idx`, `g_locked_screen_pos` and the variables `g_sim_*`. -/
structure Sim (D : Type) where
  lockedPlayerIdx : Int
  lockedScreenPos : CGPoint D
  normX : D
  normY : D
  strokeFrames : Int
  recenterPause : Int
  touchDown : Bool
  touches : List (TouchEvent D)

/-- Where the finger rests and how far it may go, for a value of `g_aim_touch_zone`. -/
structure Zone (D : Type) where
  baseX : D
  baseY : D
  minX : D
  maxX : D
  minY : D
  maxY : D

section
variable {D : Type} [Double D]

def zoneOf (aimTouchZone : Nat) : Zone D where
  baseX := if aimTouchZone = 0 then 0.22 else if aimTouchZone = 1 then 0.72 else 0.50
  baseY := 0.50
  minX := if aimTouchZone = 0 then 0.06 else if aimTouchZone = 1 then 0.55 else 0.35
  maxX := if aimTouchZone = 0 then 0.35 else if aimTouchZone = 1 then 0.90 else 0.65
  minY := 0.22
  maxY := 0.78

namespace Sim

def initial : Sim D where
  lockedPlayerIdx := -1
  lockedScreenPos := ⟨0.0, 0.0⟩
  normX := 0.72
  normY := 0.50
  strokeFrames := 0
  recenterPause := 0
  touchDown := false
  touches := []

def hidTouchEvent (normX normY : D) (state : TouchState) (s : Sim D) : Sim D :=
  { s with touchDown := state ≠ .up, touches := s.touches ++ [⟨normX, normY, state⟩] }

/-! ### The aim engine -/

def recenter (zone : Zone D) (s : Sim D) : Sim D :=
  { s with normX := zone.baseX, normY := zone.baseY, strokeFrames := 0 }

/-- A clean lift on a target switch, and a pause. -/
def switchTarget (zone : Zone D) (bestIdx : Int) (s : Sim D) : Sim D :=
  if bestIdx = s.lockedPlayerIdx then s
  else
    let s := if s.touchDown then s.hidTouchEvent s.normX s.normY .up else s
    { s.recenter zone with lockedPlayerIdx := bestIdx, recenterPause := 1 }

def touchDownAt (zone : Zone D) (s : Sim D) : Sim D :=
  (s.recenter zone).hidTouchEvent zone.baseX zone.baseY .down

/-- The flag is not looked at before the finger goes down. -/
def pause (zone : Zone D) (s : Sim D) : Sim D :=
  let s := { s with recenterPause := s.recenterPause - 1 }
  if s.recenterPause = 0 then s.touchDownAt zone else s

/-- The stroke has lasted for 20 frames, or would leave the zone. -/
def strokeEnds (zone : Zone D) (strokeFrames : Int) (nextX nextY : D) : Prop :=
  20 ≤ strokeFrames ∨ nextX < zone.minX ∨ zone.maxX < nextX ∨ nextY < zone.minY ∨ zone.maxY < nextY

instance (zone : Zone D) (strokeFrames : Int) (nextX nextY : D) :
    Decidable (strokeEnds zone strokeFrames nextX nextY) :=
  inferInstanceAs (Decidable (_ ∨ _))

def stroke (zone : Zone D) (stepX stepY : D) (s : Sim D) : Sim D :=
  let s := { s with strokeFrames := s.strokeFrames + 1 }
  let nextX := s.normX + stepX
  let nextY := s.normY + stepY
  if strokeEnds zone s.strokeFrames nextX nextY then
    { (s.hidTouchEvent s.normX s.normY .up).recenter zone with recenterPause := 1 }
  else { s with normX := nextX, normY := nextY }.hidTouchEvent nextX nextY .move

/-- The target is centered. -/
def release (zone : Zone D) (s : Sim D) : Sim D :=
  if s.touchDown then (s.hidTouchEvent s.normX s.normY .up).recenter zone else s

/-- One frame on a target at distance `dist` of the centre. -/
def steer (zone : Zone D) (dist stepX stepY : D) (s : Sim D) : Sim D :=
  if 0 < s.recenterPause then s.pause zone
  else if (2.5 : D) < dist then
    if s.touchDown then s.stroke zone stepX stepY else s.touchDownAt zone
  else s.release zone

/-- There is no enemy in the field of view, or the aim is off. -/
def lift (zone : Zone D) (s : Sim D) : Sim D :=
  let s := if s.touchDown then { s.hidTouchEvent zone.baseX zone.baseY .up with strokeFrames := 0 } else s
  { s with lockedPlayerIdx := -1, recenterPause := 0 }

/-- `aim_btn_touchesEnded` and `aim_btn_touchesCancelled`. -/
def buttonReleased (aimTouchZone : Nat) (s : Sim D) : Sim D :=
  let bx : D := if aimTouchZone = 0 then 0.20 else 0.75
  let s := if s.touchDown then s.hidTouchEvent bx 0.50 .up else s
  { s with lockedPlayerIdx := -1 }

end Sim
end
end RadarAim.Overlay
