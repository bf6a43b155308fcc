import RadarAim.Lib.Pool
import RadarAim.Overlay.Window

/-! The drawing routines of the two views: `radar_drawRect`, and the frame of `esp_drawRect`. They give the calls that
    they make in their order. -/

namespace RadarAim.Overlay
open Ieee PoolCall

/-- The calls of the graphics library. -/
inductive Paint (D : Type) where
  | setRGBFillColor (r g b a : D)
  | setRGBStrokeColor (r g b a : D)
  | setLineWidth (width : D)
  | fillEllipseInRect (rect : CGRect D)
  | strokeEllipseInRect (rect : CGRect D)
  | fillRect (rect : CGRect D)
  | moveToPoint (p : CGPoint D)
  | addLineToPoint (p : CGPoint D)
  | addArc (center : CGPoint D) (radius startAngle endAngle : D) (clockwise : Bool)
  | strokePath

/-- `fn_objc_autoreleasePoolPush`, by the token that it returns, and whether there is a
    `fn_objc_autoreleasePoolPop`. -/
structure PoolRuntime where
  push : Option UInt64
  pop : Bool

namespace PoolRuntime
variable {A : Type} (rt : PoolRuntime)

/-- `pool`; 0 is `NULL`. -/
def pool : UInt64 := rt.push.getD 0

def pushed : List (PoolCall UInt64 A) :=
  match rt.push with
  | some pool => [.push pool]
  | none => []

def popped : List (PoolCall UInt64 A) := if rt.pop ∧ rt.pool ≠ 0 then [.pop rt.pool] else []

end PoolRuntime

/-- The features that `radar_drawRect` depends on. -/
structure DrawSettings where
  radar : Bool
  radarRange : Int
  items : Bool
  vehicles : Bool
  vehAirOnly : Bool
  teammates : Bool

/-- What a redraw is told by the system: the clock, the pools, whether there is a graphics context, the bounds of the
    view, and those of the main screen if there is one. -/
structure Redraw (D : Type) where
  now : D
  pools : PoolRuntime
  context : Bool
  bounds : CGSize D
  mainScreen : Option (CGSize D)

section
variable {D : Type} [Double D]

/-! ### The radar -/

def fillColor (r g b a : F32) : Paint D :=
  .setRGBFillColor (Double.ofFloat r) (Double.ofFloat g) (Double.ofFloat b) (Double.ofFloat a)

def strokeColor (r g b a : F32) : Paint D :=
  .setRGBStrokeColor (Double.ofFloat r) (Double.ofFloat g) (Double.ofFloat b) (Double.ofFloat a)

def rectOf (x y w h : F32) : CGRect D :=
  cgRectMake (Double.ofFloat x) (Double.ofFloat y) (Double.ofFloat w) (Double.ofFloat h)

def pointOf (x y : F32) : CGPoint D := ⟨Double.ofFloat x, Double.ofFloat y⟩

/-- `RADAR_VIEW_SIZE`, 180.0f. -/
def radarViewSize : F32 := 0x43340000

/-- `(float)M_PI`. -/
def mPiF : F32 := 0x40490fdb

namespace RadarView
variable (ar : Arith)

def radius : F32 := ar.div radarViewSize 0x40000000

/-- `scale`: the points of the view for a centimetre. -/
def scale (range : Int) : F32 :=
  ar.div (radius ar) (ar.mul (Double.toFloat (Double.ofInt range : D)) 0x42c80000)

/-- The background, the border, the rings, the crosshairs and the dot of the local player. -/
def card : List (Paint D) :=
  let r := radius ar
  let ring (i : F32) : Paint D :=
    let r := ar.div (ar.mul (radius ar) i) 0x40400000
    .strokeEllipseInRect (rectOf (ar.sub (radius ar) r) (ar.sub (radius ar) r) (ar.mul r 0x40000000)
      (ar.mul r 0x40000000))
  [fillColor 0x3d4ccccd 0x3d8f5c29 0x3df5c28f 0x3f333333,
    .fillEllipseInRect (rectOf 0 0 radarViewSize radarViewSize),
    strokeColor 0 0x3f59999a 0x3f800000 0x3f266666, .setLineWidth (Double.ofFloat 0x3fc00000),
    .strokeEllipseInRect (rectOf 0x3f800000 0x3f800000 (ar.sub radarViewSize 0x40000000)
      (ar.sub radarViewSize 0x40000000)),
    strokeColor 0x3e99999a 0x3ecccccd 0x3f000000 0x3ecccccd, .setLineWidth (Double.ofFloat 0x3f4ccccd),
    ring 0x3f800000, ring 0x40000000, ring 0x40400000,
    .moveToPoint (pointOf r 0), .addLineToPoint (pointOf r radarViewSize),
    .moveToPoint (pointOf 0 r), .addLineToPoint (pointOf radarViewSize r), .strokePath,
    fillColor 0 0x3f666666 0x3f800000 0x3f800000,
    .fillEllipseInRect (rectOf (ar.sub r 0x40600000) (ar.sub r 0x40600000) 0x40e00000 0x40e00000)]

/-- The camera view cone. -/
def cone : List (Paint D) :=
  let r := radius ar
  let half := ar.div (ar.mul 0x41f00000 mPiF) 0x43340000
  let len := ar.mul r 0x3f59999a
  let side (angle : F32) : CGPoint D :=
    pointOf (ar.add r (ar.mul (ar.sinf angle) len)) (ar.sub r (ar.mul (ar.cosf angle) len))
  [strokeColor 0 0x3f666666 0x3f800000 0x3ee66666, .setLineWidth (Double.ofFloat 0x3f99999a),
    .moveToPoint (pointOf r r), .addLineToPoint (side (F32.neg half)),
    .moveToPoint (pointOf r r), .addLineToPoint (side half), .strokePath]

/-- `cos_yaw` and `sin_yaw`. -/
def camYaw (rot : Rvec3) : F32 × F32 :=
  let rad := ar.div (ar.mul (F32.neg rot.y) mPiF) 0x43340000
  (ar.cosf rad, ar.sinf rad)

/-- `sx`, `sy` and their distance from the centre. -/
def onRadar (header : RadarHeader) (scale : F32) (pos : Rvec3) : F32 × F32 × F32 :=
  let (cosYaw, sinYaw) := camYaw ar header.localRot
  let dx := ar.sub pos.x header.localPos.x
  let dy := ar.sub pos.y header.localPos.y
  let rx := ar.sub (ar.mul dx cosYaw) (ar.mul dy sinYaw)
  let ry := ar.add (ar.mul dx sinYaw) (ar.mul dy cosYaw)
  let sx := ar.mul ry scale
  let sy := ar.mul (F32.neg rx) scale
  (sx, sy, ar.sqrtf (ar.add (ar.mul sx sx) (ar.mul sy sy)))

/-- The square of half the side `half` about a point of the radar. -/
def dotRect (sx sy half side : F32) : CGRect D :=
  rectOf (ar.sub (ar.add (radius ar) sx) half) (ar.sub (ar.add (radius ar) sy) half) side side

def item (header : RadarHeader) (scale : F32) (item : RadarItem) : List (Paint D) :=
  let (sx, sy, d) := onRadar ar header scale item.pos
  if F32.lt (ar.sub (radius ar) 0x40800000) d then []
  else
    [fillColor 0x3e4ccccd 0x3f666666 0x3ecccccd 0x3f333333,
      .fillEllipseInRect (dotRect ar sx sy 0x40000000 0x40800000)]

def isAir (v : RadarVehicle) : Bool :=
  v.canBoost = 1 ∨ strstr v.name (lit "Airplane") ∨ strstr v.name (lit "Glider") ∨ strstr v.name (lit "Helicopter")

def vehicle (airOnly : Bool) (header : RadarHeader) (scale : F32) (v : RadarVehicle) : List (Paint D) :=
  if airOnly && !isAir v then []
  else
    let (sx, sy, d) := onRadar ar header scale v.pos
    if F32.lt (ar.sub (radius ar) 0x40a00000) d then []
    else if isAir v then
      [fillColor 0x3f800000 0x3ecccccd 0x3f666666 0x3f733333, .fillRect (dotRect ar sx sy 0x40800000 0x41000000)]
    else
      [fillColor 0x3f800000 0x3f59999a 0x3dcccccd 0x3f733333, .fillRect (dotRect ar sx sy 0x40400000 0x40c00000)]

def playerColor (isTeammate : Bool) (p : RadarPlayer) : Paint D :=
  if isTeammate then
    if p.healthStatus = 1 then fillColor 0x3f800000 0x3f0ccccd 0 0x3f800000
    else fillColor 0x3e4ccccd 0x3f733333 0x3eb33333 0x3f800000
  else if p.healthStatus = 1 then fillColor 0x3f800000 0x3f0ccccd 0 0x3f800000
  else if p.isBot ≠ 0 then fillColor 0x3f800000 0x3f666666 0x3e4ccccd 0x3f800000
  else fillColor 0x3f800000 0x3e4ccccd 0x3e4ccccd 0x3f800000

/-- The health arc around a player. -/
def healthArc (dotx doty : F32) (p : RadarPlayer) : List (Paint D) :=
  if F32.lt 0 p.healthMax then
    let hp := ar.div p.health p.healthMax
    let hp := if F32.lt 0x3f800000 hp then 0x3f800000 else hp
    let hp := if F32.lt hp 0 then 0 else hp
    let start := ar.div (F32.neg mPiF) 0x40000000
    let stop := ar.add start (ar.mul (ar.mul hp 0x40000000) mPiF)
    [strokeColor (ar.sub 0x3f800000 hp) hp 0 0x3f59999a, .setLineWidth (Double.ofFloat 0x3fe66666),
      .addArc (pointOf dotx doty) (Double.ofFloat 0x40c00000) (Double.ofFloat start) (Double.ofFloat stop) false,
      .strokePath]
  else []

/-- A player beyond the edge is drawn on it. -/
def player (teammates : Bool) (myTeam : UInt32) (header : RadarHeader) (scale : F32) (p : RadarPlayer) :
    List (Paint D) :=
  let isTeammate : Bool := myTeam ≠ 0 ∧ p.teamId = myTeam
  if p.healthStatus = 2 then []
  else if isTeammate && !teammates then []
  else
    let (sx, sy, dist) := onRadar ar header scale p.pos
    let edge := ar.sub (radius ar) 0x40c00000
    let (sx, sy) := if F32.lt edge dist then (ar.mul sx (ar.div edge dist), ar.mul sy (ar.div edge dist)) else (sx, sy)
    [playerColor isTeammate p, .fillEllipseInRect (dotRect ar sx sy 0x40600000 0x40e00000)] ++
      healthArc ar (ar.add (radius ar) sx) (ar.add (radius ar) sy) p

end RadarView

/-- The loot, the vehicles and the players on the radar. -/
def State.radarContents (ar : Arith) (settings : DrawSettings) (s : State D) : List (Paint D) :=
  let header := s.snapshot.header
  let scale := RadarView.scale (D := D) ar settings.radarRange
  (if settings.items then (s.snapshot.items.take radarMaxItems).flatMap (RadarView.item ar header scale) else []) ++
    (if settings.vehicles then
      (s.snapshot.vehicles.take radarMaxVehicles).flatMap (RadarView.vehicle ar settings.vehAirOnly header scale)
    else []) ++
    (s.snapshot.players.take radarMaxPlayers).flatMap (RadarView.player ar settings.teammates s.myTeam header scale)

/-- `fresh`. -/
def State.radarFresh (i : Redraw D) (s : State D) : Bool :=
  s.snapshot.header.status = 2 ∧ i.now - s.changedAt < (2.0 : D)

def State.radarDrawRect (ar : Arith) (settings : DrawSettings) (i : Redraw D) (s : State D) :
    List (PoolCall UInt64 (Paint D)) :=
  if !settings.radar then []
  else
    i.pools.pushed ++
      if !i.context then i.pools.popped
      else
        (RadarView.card ar ++ RadarView.cone ar).map .act ++
          -- the routine returns here without the pop
          if !s.radarFresh i then []
          else (s.radarContents ar settings).map .act ++ i.pools.popped

/-! ### The picture over the game -/

/-- `w` and `h`. -/
def State.espArea (i : Redraw D) (s : State D) : D × D :=
  let (w, h) :=
    if i.bounds.width ≤ (10.0 : D) ∨ i.bounds.height ≤ (10.0 : D) then
      if (10.0 : D) < s.screenW ∧ (10.0 : D) < s.screenH then (s.screenW, s.screenH)
      else
        let b := i.mainScreen.getD ⟨1024.0, 768.0⟩
        (Double.fmax b.width b.height, Double.fmin b.width b.height)
    else (i.bounds.width, i.bounds.height)
  if (TickInput.isLandscapeOri s.currentOrientation ∨ h < w ∨ 1 ≤ s.snapshot.header.status) ∧ w < h then (h, w)
  else (w, h)

/-- The frame of the routine. What it draws in an area of a given size is a parameter: from there on it does not
    return before the last line, and neither pushes nor pops. -/
def State.espDrawRect {A : Type} (picture : D → D → List A) (i : Redraw D) (s : State D) : List (PoolCall UInt64 A) :=
  if !s.snapshot.header.cameraValid || s.snapshot.header.status ≠ 2 then []
  else if (2.0 : D) < i.now - s.changedAt then []
  else
    i.pools.pushed ++
      if !i.context then i.pools.popped
      else
        let (w, h) := s.espArea i
        if w ≤ (10.0 : D) ∨ h ≤ (10.0 : D) then i.pools.popped
        else (picture w h).map .act ++ i.pools.popped

end
end RadarAim.Overlay
