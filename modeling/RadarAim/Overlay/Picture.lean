import RadarAim.Overlay.Features
import RadarAim.Overlay.Skeleton

/-! The picture that `esp_drawRect` draws over the game, in an area of the size `w`, `h`: players, vehicles, loot, and
    what is laid over them. -/

namespace RadarAim.Overlay
open Ieee

inductive TextFont where
  | small
  | bold

inductive TextColor where
  | white
  | green
  | yellow
  | cyan
  | orange
  | gold
  | red
  | purple

inductive Draw (D : Type) where
  | paint (p : Paint D)
  | strokeRect (rect : CGRect D)
  /-- `drawAtPoint:withAttributes:` -/
  | text (text : Str) (point : CGPoint D) (font : TextFont) (color : TextColor)

/-- What the routine is given by the system: its arithmetic, `%.0f` of `printf`, whether `stringWithUTF8String:` gives a
    string, the size of a text, and what `b_screen` holds where it is not written. -/
structure DrawSystem (D : Type) where
  arith : Arith
  atan2f : F32 → F32 → F32
  fixed : D → Str
  decodes : Str → Bool
  sizeWithAttributes : Str → TextFont → CGSize D
  stack : Nat → CGPoint D

section
variable {D : Type} [Double D]

def strokeOf (r g b a : D) : Draw D := .paint (.setRGBStrokeColor r g b a)
def fillOf (r g b a : D) : Draw D := .paint (.setRGBFillColor r g b a)
def lineWidth (width : D) : Draw D := .paint (.setLineWidth width)
def moveTo (x y : D) : Draw D := .paint (.moveToPoint ⟨x, y⟩)
def lineTo (x y : D) : Draw D := .paint (.addLineToPoint ⟨x, y⟩)
def strokePath : Draw D := .paint .strokePath
def fillEllipse (x y w h : D) : Draw D := .paint (.fillEllipseInRect (cgRectMake x y w h))
def strokeEllipse (x y w h : D) : Draw D := .paint (.strokeEllipseInRect (cgRectMake x y w h))
def fillRect (x y w h : D) : Draw D := .paint (.fillRect (cgRectMake x y w h))
def strokeRect (x y w h : D) : Draw D := .strokeRect (cgRectMake x y w h)

def pathCall : PathOp (CGPoint D) → Draw D
  | .moveTo p => .paint (.moveToPoint p)
  | .addLineTo p => .paint (.addLineToPoint p)

/-! ### Texts -/

namespace DrawSystem
variable (sys : DrawSystem D)

def drawTextAt (text : Str) (pt : CGPoint D) (font : TextFont) (color : TextColor) : List (Draw D) :=
  if text = [] then []
  else if sys.decodes text then [.text text pt font color]
  else []

def textSize (text : Str) (font : TextFont) : CGSize D :=
  if text = [] then ⟨0.0, 0.0⟩
  else if sys.decodes text then sys.sizeWithAttributes text font
  else ⟨0.0, 0.0⟩

def drawTextCentered (text : Str) (x y : D) (font : TextFont) (color : TextColor) : List (Draw D) :=
  let sz := sys.textSize text font
  sys.drawTextAt text ⟨x - sz.width / 2.0, y - sz.height / 2.0⟩ font color

/-- `%.0f` of a `float`. -/
def rounded (x : F32) : Str := sys.fixed (Double.ofFloat x)

end DrawSystem

/-- The bounds of the screen, for a projection in an area that is too small. -/
def Redraw.screenInput (i : Redraw D) : TickInput D :=
  let b := i.mainScreen.getD ⟨1024.0, 768.0⟩
  { readAt := i.now, now := i.now, appOri := 0, sceneOri := 0, devOri := 0, boundsW := b.width, boundsH := b.height
    sceneIsPortrait := false, randX := 0, randY := 0 }

def State.isTeammate (s : State D) (p : RadarPlayer) : Bool := s.myTeam ≠ 0 ∧ p.teamId = s.myTeam

namespace Picture
variable (sys : DrawSystem D) (f : Features) (i : Redraw D) (s : State D) (w h : D)

def project (pos : Rvec3) : Option (CGPoint D) :=
  (s.worldToScreen sys.arith i.screenInput pos w h).map Prod.fst

def camYawRad : F32 := sys.arith.div (sys.arith.mul (F32.neg s.snapshot.header.localRot.y) mPiF) 0x43340000

/-- `p->yaw` in radians. -/
def playerRad (p : RadarPlayer) : F32 := sys.arith.div (sys.arith.mul p.yaw mPiF) 0x43340000

def pointDelta (a b : Rvec3) : F32 × F32 := (sys.arith.sub a.x b.x, sys.arith.sub a.y b.y)

/-! ### Players -/

/-- Off-screen direction indicators for enemies. -/
def offscreenArrow (p : RadarPlayer) : List (Draw D) :=
  if f.on .offscreenArrows && !s.isTeammate p then
    let ar := sys.arith
    let (dx, dy) := pointDelta sys p.pos s.snapshot.header.cameraPos
    let angle := ar.sub (sys.atan2f dy dx) (camYawRad sys s)
    let ax := Double.toFloat (w / 2.0 + Double.ofFloat (ar.cosf angle) * (w * Double.ofFloat 0x3ecccccd))
    let ay := Double.toFloat (h / 2.0 + Double.ofFloat (ar.sinf angle) * (h * Double.ofFloat 0x3ecccccd))
    [.paint (fillColor 0x3f800000 0x3e4ccccd 0x3e4ccccd 0x3f59999a),
      .paint (.fillEllipseInRect (rectOf (ar.sub ax 0x40a00000) (ar.sub ay 0x40a00000) 0x41200000 0x41200000))] ++
      sys.drawTextCentered (snprintf 16 (sys.rounded p.distance ++ lit "m")) (Double.ofFloat ax)
        (Double.ofFloat (ar.add ay 0x40e00000)) .small .white
  else []

/-- Where a player is drawn: its head and its feet, and the box. -/
structure Figure (D : Type) where
  head : CGPoint D
  feet : CGPoint D
  boxX : D
  boxY : D
  boxW : D
  boxH : D

def figure (head feet : CGPoint D) : Figure D :=
  let boxH := feet.y - head.y
  let boxH := if boxH < (12.0 : D) then 12.0 else boxH
  let boxW := boxH * 0.48
  { head, feet, boxX := (head.x + feet.x) / 2.0 - boxW / 2.0, boxY := head.y, boxW, boxH }

/-- The middle of a figure. -/
def Figure.midX (g : Figure D) : D := (g.head.x + g.feet.x) / 2.0

def isKnocked (p : RadarPlayer) : Bool := p.healthStatus = 1

/-- `accent_color` -/
def accentColor (p : RadarPlayer) : TextColor :=
  if s.isTeammate p then if isKnocked p then .orange else .green
  else if isKnocked p then .orange
  else if p.isBot ≠ 0 then .yellow
  else .cyan

/-- The colour of the lines of a player. -/
def lineColor (p : RadarPlayer) (alpha enemyAlpha : D) : D × D × D × D :=
  if s.isTeammate p then if isKnocked p then (1.0, 0.55, 0.0, alpha) else (0.2, 0.95, 0.35, alpha)
  else if isKnocked p then (1.0, 0.55, 0.0, alpha)
  else if p.isBot ≠ 0 then (1.0, 0.9, 0.2, alpha)
  else (0.0, 0.85, 1.0, enemyAlpha)

def snapline (p : RadarPlayer) (g : Figure D) : List (Draw D) :=
  if f.on .lines then
    let (red, green, blue, alpha) := lineColor s p 0.75 0.85
    [strokeOf red green blue alpha, lineWidth 1.2, moveTo (w / 2.0) h, lineTo g.midX g.feet.y, strokePath]
  else []

def box (p : RadarPlayer) (g : Figure D) : List (Draw D) :=
  if f.on .box then
    let (red, green, blue, alpha) := lineColor s p 0.9 0.9
    [strokeOf red green blue alpha, lineWidth 1.5, strokeRect g.boxX g.boxY g.boxW g.boxH]
  else []

def headDot (p : RadarPlayer) (g : Figure D) : List (Draw D) :=
  if f.on .head && !s.isTeammate p then
    let hrad := Double.fmax 3.0 (g.boxW * 0.18)
    [strokeOf 1.0 0.2 0.2 0.95, fillOf 1.0 0.2 0.2 0.40, lineWidth 1.2,
      fillEllipse (g.head.x - hrad) (g.head.y - hrad) (hrad * 2.0) (hrad * 2.0),
      strokeEllipse (g.head.x - hrad) (g.head.y - hrad) (hrad * 2.0) (hrad * 2.0)]
  else []

/-- `hp_ratio` -/
def hpRatio (p : RadarPlayer) : F32 :=
  let hp := sys.arith.div p.health p.healthMax
  let hp := if F32.lt 0x3f800000 hp then 0x3f800000 else hp
  if F32.lt hp 0 then 0 else hp

def healthColor (p : RadarPlayer) : D × D × D :=
  if s.isTeammate p then (0.2, 0.95, 0.35)
  else if F32.lt 0x3f000000 (hpRatio sys p) then (0.2, 0.9, 0.3)
  else if F32.lt 0x3e800000 (hpRatio sys p) then (1.0, 0.8, 0.1)
  else (1.0, 0.2, 0.2)

def healthBar (p : RadarPlayer) (g : Figure D) : List (Draw D) :=
  if f.on .health && F32.lt 0 p.healthMax then
    let barW : D := 3.5
    let barX := g.boxX - barW - 3.0
    let fillH := g.boxH * Double.ofFloat (hpRatio sys p)
    let (red, green, blue) := healthColor sys s p
    [fillOf 0.1 0.1 0.1 0.7, fillRect barX g.boxY barW g.boxH, fillOf red green blue 0.95,
      fillRect barX (g.boxY + (g.boxH - fillH)) barW fillH]
  else []

/-- `name_buf` -/
def nameBuf (p : RadarPlayer) : Str :=
  let name := if f.on .name then p.name else []
  let team := decimal p.teamId.toNat
  snprintf 64 <|
    if s.isTeammate p then
      if isKnocked p then lit "[TEAM #" ++ team ++ lit " KNOCKED] " ++ name
      else lit "[TEAM #" ++ team ++ lit "] " ++ name
    else if isKnocked p then lit "[KNOCKED] " ++ name
    else if f.on .teamBot then if p.isBot ≠ 0 then lit "[BOT] " ++ name else lit "[T" ++ team ++ lit "] " ++ name
    else name

def nameTag (p : RadarPlayer) (g : Figure D) : List (Draw D) :=
  if f.on .name || f.on .teamBot then
    sys.drawTextCentered (nameBuf f s p) g.midX (g.boxY - 10.0) .bold (accentColor s p)
  else []

def distanceTag (p : RadarPlayer) (g : Figure D) : List (Draw D) :=
  if f.on .dist then
    sys.drawTextCentered (snprintf 32 (sys.rounded p.distance ++ lit "m")) g.midX (g.feet.y + 8.0) .small .white
  else []

def threatTag (p : RadarPlayer) (g : Figure D) : List (Draw D) :=
  if f.on .threatTier && !s.isTeammate p then
    let (text, color) : Str × TextColor :=
      if p.isBot ≠ 0 then (lit "[BOT - LOW]", .gold)
      else if F32.lt p.distance 0x42aa0000 then (lit "[TIER 1 DANGER]", .red)
      else (lit "[TIER 2 ENEMY]", .orange)
    sys.drawTextCentered (snprintf 32 text) g.midX (g.boxY - 22.0) .small color
  else []

def bleedTag (p : RadarPlayer) (g : Figure D) : List (Draw D) :=
  if f.on .knockedTimer && isKnocked p then
    let pct :=
      if F32.lt 0 p.healthMax then sys.arith.mul (sys.arith.div p.health p.healthMax) 0x42c80000 else 0x42480000
    sys.drawTextCentered (snprintf 32 (lit "+ BLEED: " ++ sys.rounded pct ++ lit "% +")) g.midX (g.feet.y + 20.0) .small
      .orange
  else []

/-- Whether the gaze of a player points at the camera. -/
def targetingUs (p : RadarPlayer) : Bool :=
  let ar := sys.arith
  let rad := playerRad sys p
  let (toCamX, toCamY) := pointDelta sys s.snapshot.header.cameraPos p.headPos
  let cdist := Double.hypotf D toCamX toCamY
  let dot := ar.div (ar.add (ar.mul (ar.cosf rad) toCamX) (ar.mul (ar.sinf rad) toCamY))
    (if F32.lt 0 cdist then cdist else 0x3f800000)
  F32.lt 0x3f59999a dot

def gazeRay (p : RadarPlayer) (g : Figure D) : List (Draw D) :=
  if f.on .gazeRay && !s.isTeammate p then
    let ar := sys.arith
    let rad := playerRad sys p
    let gazeEnd : Rvec3 :=
      ⟨ar.add p.headPos.x (ar.mul (ar.cosf rad) 0x43e10000), ar.add p.headPos.y (ar.mul (ar.sinf rad) 0x43e10000),
        p.headPos.z⟩
    match project sys i s w h gazeEnd with
    | none => []
    | some ray =>
      (if targetingUs sys s p then
        [strokeOf 1.0 0.15 0.15 0.95, lineWidth 2.0] ++
          sys.drawTextCentered (lit "[! TARGETING YOU !]") ray.x (ray.y - 10.0) .small .red
      else [strokeOf 1.0 0.82 0.1 0.65, lineWidth 1.2]) ++
        [moveTo g.head.x g.head.y, lineTo ray.x ray.y, strokePath]
  else []

def leadDot (k : Nat) (p : RadarPlayer) : List (Draw D) :=
  let vel := (s.tracked k).vel
  if s.settings.leadPred && !s.isTeammate p && F32.lt 0x41c80000 (Double.hypotf D vel.x vel.y) &&
      F32.lt 0x40c00000 p.distance then
    let ar := sys.arith
    let bulletT := ar.div p.distance 0x445c0000
    let leadPos : Rvec3 :=
      ⟨ar.add p.headPos.x (ar.mul vel.x bulletT), ar.add p.headPos.y (ar.mul vel.y bulletT),
        ar.add p.headPos.z (ar.mul vel.z bulletT)⟩
    match project sys i s w h leadPos with
    | none => []
    | some lead =>
      [strokeOf 0.0 1.0 0.85 0.95, fillOf 0.0 1.0 0.85 0.45, lineWidth 1.5,
        strokeEllipse (lead.x - 5.0) (lead.y - 5.0) 10.0 10.0, fillEllipse (lead.x - 2.0) (lead.y - 2.0) 4.0 4.0] ++
        sys.drawTextCentered (lit "[LEAD]") lead.x (lead.y - 12.0) .small .cyan
  else []

def dropGuide (p : RadarPlayer) (g : Figure D) : List (Draw D) :=
  if f.on .bulletDrop && !s.isTeammate p && F32.lt 0x42a00000 p.distance then
    let ar := sys.arith
    let bulletT := ar.div p.distance 0x44480000
    let dropCm := ar.mul (ar.mul (ar.mul 0x3f000000 0x44750000) bulletT) bulletT
    match project sys i s w h ⟨p.headPos.x, p.headPos.y, ar.sub p.headPos.z dropCm⟩ with
    | none => []
    | some drop =>
      [strokeOf 1.0 0.82 0.1 0.85, lineWidth 1.2, moveTo (g.head.x - 6.0) drop.y, lineTo (g.head.x + 6.0) drop.y,
        strokePath] ++
        sys.drawTextCentered (lit "v DROP") (g.head.x + 16.0) drop.y .small .gold
  else []

def lockReticle (k : Nat) (g : Figure D) : List (Draw D) :=
  if f.on .targetLock && decide (s.sim.lockedPlayerIdx = k) then
    let size := g.boxW * 0.40
    let size := if size < (16.0 : D) then 16.0 else size
    [strokeOf 1.0 0.15 0.35 0.95, lineWidth 2.0, strokeRect (g.head.x - size / 2.0) (g.head.y - size / 2.0) size size,
      strokeOf 1.0 0.2 0.3 0.7, lineWidth 1.5, moveTo (w / 2.0) (h / 2.0), lineTo g.head.x g.head.y, strokePath]
  else []

def skeleton (p : RadarPlayer) : List (Draw D) :=
  if f.on .skeleton && p.hasBones then
    [strokeOf 0.9 0.95 1.0 0.85, lineWidth 1.2] ++
      (skeletonPath (s.boneScreen sys.arith i.screenInput sys.stack p w h)).map pathCall ++ [strokePath]
  else []

/-- What is drawn of player `k`, when its head and its feet are on the screen. -/
def playerFigure (k : Nat) (p : RadarPlayer) (g : Figure D) : List (Draw D) :=
  snapline f s w h p g ++ box f s p g ++ headDot f s p g ++ healthBar sys f s p g ++ nameTag sys f s p g ++
    distanceTag sys f p g ++ threatTag sys f s p g ++ bleedTag sys f p g ++ gazeRay sys f i s w h p g ++
    leadDot sys i s w h k p ++ dropGuide sys f i s w h p g ++ lockReticle f s w h k g ++ skeleton sys f i s w h p

def player (k : Nat) (p : RadarPlayer) : List (Draw D) :=
  match s.worldToScreen sys.arith i.screenInput p.headPos w h, project sys i s w h p.feetPos with
  | some (head, depth), some feet =>
    if depth ≤ (0.0 : D) then offscreenArrow sys f s w h p
    else playerFigure sys f i s w h k p (figure head feet)
  | _, _ => offscreenArrow sys f s w h p

/-- `enemy_count_nearby` and `closest_enemy_dist`, and the calls that the loop has made. -/
structure PlayerLoop (D : Type) where
  calls : List (Draw D)
  enemyCountNearby : Nat
  closestEnemyDist : F32

def PlayerLoop.enemy (p : RadarPlayer) (l : PlayerLoop D) : PlayerLoop D :=
  { l with
    enemyCountNearby := l.enemyCountNearby + 1
    closestEnemyDist := if F32.lt p.distance l.closestEnemyDist then p.distance else l.closestEnemyDist }

def playerTurn (l : PlayerLoop D) (x : RadarPlayer × Nat) : PlayerLoop D :=
  if x.1.healthStatus = 2 then l
  else if s.isTeammate x.1 && !f.on .teammates then l
  else
    let l := if s.isTeammate x.1 then l else l.enemy x.1
    { l with calls := l.calls ++ player sys f i s w h x.2 x.1 }

/-- The players that the loops go over, with their indices. -/
def players : List (RadarPlayer × Nat) := (s.snapshot.players.take radarMaxPlayers).zipIdx

/-- 1. Render Players -/
def playerLoop : PlayerLoop D := (players s).foldl (playerTurn sys f i s w h) ⟨[], 0, 0x461c3c00⟩

/-! ### Vehicles and loot -/

def vehicleMarker (v : RadarVehicle) : List (Draw D) :=
  if f.on .vehAirOnly && !RadarView.isAir v then []
  else
    match project sys i s w h v.pos with
    | none => []
    | some p =>
      if RadarView.isAir v then
        [strokeOf 1.0 0.4 0.9 0.95, lineWidth 2.0, moveTo (p.x - 14.0) (p.y + 4.0), lineTo p.x (p.y - 8.0),
          lineTo (p.x + 14.0) (p.y + 4.0), moveTo p.x (p.y - 8.0), lineTo p.x (p.y + 10.0), strokePath] ++
          sys.drawTextCentered (snprintf 64 (lit "[AIR: " ++ v.name ++ lit "] " ++ sys.rounded v.distance ++ lit "m"))
            p.x (p.y + 18.0) .bold .gold
      else
        [strokeOf 1.0 0.85 0.1 0.95, lineWidth 1.5, moveTo p.x (p.y - 6.0), lineTo (p.x + 6.0) p.y,
          lineTo p.x (p.y + 6.0), lineTo (p.x - 6.0) p.y, lineTo p.x (p.y - 6.0), strokePath] ++
          sys.drawTextCentered
            (snprintf 64 <|
              if F32.lt 0x40000000 v.speed then
                lit "[" ++ v.name ++ lit "] " ++ sys.rounded v.distance ++ lit "m (" ++ sys.rounded v.speed ++
                  lit " km/h)"
              else lit "[" ++ v.name ++ lit "] " ++ sys.rounded v.distance ++ lit "m") p.x (p.y + 12.0) .bold .gold

/-- 2. Render Vehicles -/
def vehicleMarkers : List (Draw D) :=
  if f.on .vehicles then (s.snapshot.vehicles.take radarMaxVehicles).flatMap (vehicleMarker sys f i s w h) else []

def names (name : Str) (parts : List String) : Bool := parts.any fun part => strstr name (lit part)

/-- `is_high`: throwables, high-tier weapons, scopes and crates. -/
def isHigh (item : RadarItem) : Bool :=
  item.category = 1 ∨ item.category = 5 ∨
    names item.name ["Smoke", "Frag", "Molotov", "Flare", "AWM", "Scope", "Crate", "Air Drop"]

def itemColor (item : RadarItem) : (D × D × D × D) × TextColor :=
  if item.category = 1 then ((1.0, 0.3, 0.3, 0.85), .orange)
  else if item.category = 2 then ((0.2, 0.7, 1.0, 0.85), .cyan)
  else if item.category = 3 then ((0.2, 0.95, 0.4, 0.85), .green)
  else if item.category = 5 ∨ names item.name ["Smoke", "Frag", "Molotov"] then ((0.75, 0.4, 1.0, 0.95), .purple)
  else ((0.9, 0.9, 0.9, 0.75), .white)

def itemMarker (item : RadarItem) : List (Draw D) :=
  if f.on .itemFilter && !isHigh item then []
  else
    match project sys i s w h item.pos with
    | none => []
    | some p =>
      let ((red, green, blue, alpha), color) := itemColor item
      [fillOf red green blue alpha, fillEllipse (p.x - 3.0) (p.y - 3.0) 6.0 6.0] ++
        sys.drawTextCentered
          (snprintf 64 <|
            if item.count > 1 then
              item.name ++ lit " x" ++ decimal item.count.toNat ++ lit " (" ++ sys.rounded item.distance ++ lit "m)"
            else item.name ++ lit " (" ++ sys.rounded item.distance ++ lit "m)") p.x (p.y - 8.0) .small color

/-- 3. Render Loot & Items -/
def itemMarkers : List (Draw D) :=
  if f.on .items then (s.snapshot.items.take radarMaxItems).flatMap (itemMarker sys f i s w h) else []

/-! ### Over the picture -/

def crosshairColor : D × D × D × D :=
  if 0 ≤ s.sim.lockedPlayerIdx then (1.0, 0.2, 0.2, 0.95) else (0.0, 0.9, 1.0, 0.75)

/-- 4. Tactical Precision Center Crosshair -/
def crosshair : List (Draw D) :=
  if f.on .crosshair then
    let cx := w / 2.0
    let cy := h / 2.0
    let (red, green, blue, alpha) := crosshairColor s
    let arm : D := 10.0
    let gap : D := 4.0
    [strokeOf red green blue alpha, lineWidth 1.5, moveTo (cx - gap - arm) cy, lineTo (cx - gap) cy,
      moveTo (cx + gap) cy, lineTo (cx + gap + arm) cy, moveTo cx (cy - gap - arm), lineTo cx (cy - gap),
      moveTo cx (cy + gap), lineTo cx (cy + gap + arm), strokePath, fillEllipse (cx - 1.0) (cy - 1.0) 2.0 2.0]
  else []

/-- The circle and its four tick marks of the length `2 * tick`. -/
def fovRing (cx cy r tick : D) : List (Draw D) :=
  [strokeEllipse (cx - r) (cy - r) (r * 2.0) (r * 2.0), moveTo cx (cy - r - tick), lineTo cx (cy - r + tick),
    moveTo cx (cy + r - tick), lineTo cx (cy + r + tick), moveTo (cx - r - tick) cy, lineTo (cx - r + tick) cy,
    moveTo (cx + r - tick) cy, lineTo (cx + r + tick) cy, strokePath]

/-- 5. Aim FOV Targeting Circle & Target Lock HUD -/
def fovCircle : List (Draw D) :=
  if f.aimFov ∧ s.settings.touchAim ∧ s.settings.aimTriggerMode ≠ 2 ∧ s.settings.aimFovMode ≠ 4 then
    let cx := w / 2.0
    let cy := h / 2.0
    let r := s.aimFovRadius w h
    if 0 ≤ s.sim.lockedPlayerIdx then
      let pos := s.sim.lockedScreenPos
      ([strokeOf 1.0 0.40 0.05 0.85, lineWidth 2.0] ++ fovRing cx cy r 6.0) ++
        sys.drawTextCentered (snprintf 48 (lit "[AIM LOCKED - " ++ sys.fixed r ++ lit "pt]")) cx (cy - r - 12.0) .small
          .gold ++
        if f.on .targetLock ∧ (0.0 : D) < pos.x ∧ (0.0 : D) < pos.y then
          [strokeOf 1.0 0.45 0.10 0.90, lineWidth 1.6, moveTo cx cy, lineTo pos.x pos.y, strokePath]
        else []
    else [strokeOf 0.0 0.85 1.0 0.35, lineWidth 1.2] ++ fovRing cx cy r 4.0
  else []

/-- 5b. Touch Assist Circular Zone & Active Sweep Indicator -/
def touchZone : List (Draw D) :=
  if s.aimEnabled then
    let zone := s.settings.aimTouchZone
    let bx := (if zone = 0 then 0.22 else if zone = 1 then 0.72 else 0.50) * w
    let by' := 0.50 * h
    let cr := 0.09 * w
    let aspect := h / (if (0.0 : D) < w then w else 1.0)
    let circle := strokeEllipse (bx - cr) (by' - cr * aspect) (cr * 2.0) (cr * 2.0 * aspect)
    if s.sim.touchDown then
      let curTx := s.sim.normX * w
      let curTy := s.sim.normY * h
      [strokeOf 1.0 0.85 0.0 0.65, lineWidth 1.5, circle, strokeOf 1.0 0.85 0.0 0.85, moveTo bx by', lineTo curTx curTy,
        strokePath, fillOf 1.0 0.90 0.1 0.95, fillEllipse (curTx - 5.0) (curTy - 5.0) 10.0 10.0] ++
        sys.drawTextCentered (lit "[TOUCH INJECTING]") bx (by' - cr * aspect - 14.0) .small .gold
    else [strokeOf 1.0 1.0 1.0 0.20, lineWidth 1.0, circle]
  else []

/-- 6. Enemy Count & Danger Alert -/
def enemyAlert (count : Nat) (closest : F32) : List (Draw D) :=
  if f.on .enemyAlert && decide (0 < count) then
    if F32.lt closest 0x41f00000 then
      let text :=
        snprintf 64 (lit "! DANGER: " ++ decimal count ++ lit " ENEMY < " ++ sys.rounded closest ++ lit "m !")
      let sz := sys.textSize text .bold
      [fillOf 0.8 0.1 0.1 0.75, fillRect (w / 2.0 - sz.width / 2.0 - 12.0) 28.0 (sz.width + 24.0) 24.0] ++
        sys.drawTextCentered text (w / 2.0) 40.0 .bold .white
    else
      let text := snprintf 64 (decimal count ++ lit " ENEMIES NEARBY (" ++ sys.rounded closest ++ lit "m)")
      let sz := sys.textSize text .bold
      [fillOf 0.1 0.15 0.22 0.75, fillRect (w / 2.0 - sz.width / 2.0 - 10.0) 28.0 (sz.width + 20.0) 22.0] ++
        sys.drawTextCentered text (w / 2.0) 39.0 .bold .gold
  else []

/-- The warning for one player. -/
def blindspotWarning (p : RadarPlayer) : List (Draw D) :=
  if s.passedOver p || F32.lt 0x42820000 p.distance then []
  else
    let ar := sys.arith
    let yaw := camYawRad sys s
    let (dx, dy) := pointDelta sys p.pos s.snapshot.header.cameraPos
    let dHoriz := Double.hypotf D dx dy
    if F32.lt dHoriz 0x3f800000 then []
    else
      let dotFwd := ar.div (ar.add (ar.mul dx (ar.cosf yaw)) (ar.mul dy (ar.sinf yaw))) dHoriz
      let dotRight := ar.div (ar.add (ar.mul dx (ar.sinf yaw)) (ar.mul dy (F32.neg (ar.cosf yaw)))) dHoriz
      if F32.lt dotFwd 0x3e800000 then
        if F32.lt dotRight 0xbeb33333 then
          [fillOf 1.0 0.2 0.2 0.65, fillRect 0.0 (h * 0.35) 8.0 (h * 0.30)] ++
            sys.drawTextCentered (lit "<< FLANK") 35.0 (h * 0.50) .bold .red
        else if F32.lt 0x3eb33333 dotRight then
          [fillOf 1.0 0.2 0.2 0.65, fillRect (w - 8.0) (h * 0.35) 8.0 (h * 0.30)] ++
            sys.drawTextCentered (lit "FLANK >>") (w - 35.0) (h * 0.50) .bold .red
        else if F32.lt dotFwd 0xbe99999a then
          [fillOf 1.0 0.1 0.1 0.70, fillRect (w * 0.30) (h - 8.0) (w * 0.40) 8.0] ++
            sys.drawTextCentered (lit "! BEHIND !") (w * 0.50) (h - 22.0) .bold .red
        else []
      else []

/-- Behind-Back Blindspot Danger Warning -/
def blindspotAlert : List (Draw D) :=
  if f.on .blindspotAlert then (players s).flatMap fun x => blindspotWarning sys s w h x.1 else []

def soundWave (p : RadarPlayer) : List (Draw D) :=
  if s.passedOver p || F32.lt 0x42280000 p.distance then []
  else
    let ar := sys.arith
    let (dx, dy) := pointDelta sys p.pos s.snapshot.header.cameraPos
    let ang := ar.sub (sys.atan2f dy dx) (camYawRad sys s)
    let waveR := ar.add 0x42340000 (ar.mul (ar.div p.distance 0x42280000) 0x420c0000)
    [strokeOf 1.0 0.55 0.0 0.75, lineWidth 2.0,
      .paint (.addArc (pointOf (Double.toFloat (w / 2.0)) (Double.toFloat (h / 2.0))) (Double.ofFloat waveR)
        (Double.ofFloat (ar.sub ang 0x3e800000)) (Double.ofFloat (ar.add ang 0x3e800000)) false), strokePath]

/-- Sound / Footstep Radar Visualizer -/
def soundRadar : List (Draw D) :=
  if f.on .soundRadar then (players s).flatMap fun x => soundWave sys s w h x.1 else []

def isNade (it : RadarItem) : Bool := names it.name ["Grenade", "Frag", "Smoke", "Molotov", "Bomb"]

def isDrop (it : RadarItem) : Bool := names it.name ["AirDrop", "Drop", "Crate", "Flare"] ∨ it.category = 5

def itemWarning (it : RadarItem) : List (Draw D) :=
  match project sys i s w h it.pos with
  | none => []
  | some p =>
    (if f.on .grenadeWarn && isNade it then
      [strokeOf 1.0 0.2 0.1 0.90, fillOf 1.0 0.2 0.1 0.35, lineWidth 2.0,
        strokeEllipse (p.x - 18.0) (p.y - 18.0) 36.0 36.0, fillEllipse (p.x - 6.0) (p.y - 6.0) 12.0 12.0] ++
        sys.drawTextCentered (snprintf 48 (lit "! " ++ it.name ++ lit " " ++ sys.rounded it.distance ++ lit "m !")) p.x
          (p.y - 24.0) .bold .red
    else []) ++
      if f.on .airdropBeacon && isDrop it then
        [strokeOf 0.0 0.95 1.0 0.80, lineWidth 2.5, moveTo p.x 0.0, lineTo p.x p.y, strokePath] ++
          sys.drawTextCentered (snprintf 48 (lit "[AIRDROP " ++ sys.rounded it.distance ++ lit "m]")) p.x (p.y + 12.0)
            .bold .cyan
      else []

/-- Grenade Warning & Airdrop Beacon -/
def itemWarnings : List (Draw D) :=
  if f.on .grenadeWarn || f.on .airdropBeacon then
    (s.snapshot.items.take radarMaxItems).flatMap (itemWarning sys f i s w h)
  else []

def spectatorBadge : List (Draw D) :=
  if f.on .spectatorWarn then sys.drawTextCentered (lit "[SURVEILLANCE: CLEAR]") (w / 2.0) 16.0 .small .cyan else []

def evadeAlert (closest : F32) : List (Draw D) :=
  if f.on .autoEvade && F32.lt closest 0x41b00000 then
    [strokeOf 1.0 0.15 0.15 0.55, lineWidth 3.0, strokeRect 2.0 2.0 (w - 4.0) (h - 4.0)] ++
      sys.drawTextCentered (lit "<! CLOSE THREAT - DANGER ZONE !>") (w / 2.0) (h - 35.0) .bold .red
  else []

/-- What comes after the players. -/
def afterPlayers (count : Nat) (closest : F32) : List (Draw D) :=
  vehicleMarkers sys f i s w h ++ itemMarkers sys f i s w h ++ crosshair f s w h ++ fovCircle sys f s w h ++
    touchZone sys s w h ++ enemyAlert sys f w count closest ++ blindspotAlert sys f s w h ++ soundRadar sys f s w h ++
    itemWarnings sys f i s w h ++ spectatorBadge sys f w ++ evadeAlert sys f w h closest

/-- The calls of `esp_drawRect` in its area. -/
def picture : List (Draw D) :=
  let l := playerLoop sys f i s w h
  l.calls ++ afterPlayers sys f i s w h l.enemyCountNearby l.closestEnemyDist

end Picture

/-- `esp_drawRect` -/
def State.espDraw (sys : DrawSystem D) (f : Features) (i : Redraw D) (s : State D) : List (PoolCall UInt64 (Draw D)) :=
  s.espDrawRect (Picture.picture sys f i s) i

/-- `radar_drawRect` -/
def State.radarDraw (ar : Arith) (f : Features) (i : Redraw D) (s : State D) : List (PoolCall UInt64 (Paint D)) :=
  s.radarDrawRect ar f.drawSettings i

end
end RadarAim.Overlay
