import RadarAim.Overlay.Features
import RadarAim.Overlay.Tick
import RadarAim.Overlay.Window

/-! The controls of the overlay: the floating button, the AIM button and the menu, what the user does with them, and
    what the system has been told to show. -/

namespace RadarAim.Overlay
open Ieee

/-- The buttons of the menu, except for `g_btn_stop_radar`, whose title is never changed. -/
inductive MenuButton where
  | feature (f : Feature)
  | range
  | touchAim
  | aimSpeed
  | aimBone
  | aimFov
  | aimZone
  | leadPred
  | recoilComp
  | adaptiveFov
  | aimSmooth
  | orientation
  deriving DecidableEq

/-- What a button shows: its title, and whether it has the style of an active one. -/
structure ButtonFace where
  title : Str
  active : Bool
  deriving DecidableEq

structure ControlWindow (D : Type) where
  hidden : Bool
  layout : WindowLayout D

/-- The variables of the controls besides those of `State`, and what the system shows of them. -/
structure Controls (D : Type) where
  state : State D
  features : Features
  scene : Scene D
  buttonRect : CGRect D
  aimRect : CGRect D
  menuRect : CGRect D
  dragStartTouch : CGPoint D
  dragStartOrigin : CGPoint D
  isDragging : Bool
  aimDragStartOrigin : CGPoint D
  window : Bool
  buttonWindow : ControlWindow D
  menuWindow : ControlWindow D
  aimWindow : ControlWindow D
  menuViewHidden : Bool
  radarViewHidden : Bool
  dragButtonTitle : Str
  aimButtonTitle : Str
  menuButtons : MenuButton → ButtonFace

/-- What happens to the controls. A callback of a button is given where its touch is, if there is one; a tick is given
    the answers of the system, what the aim engine is told, and the bounds of the scene, if it tells them. -/
inductive ControlEvent (D : Type) where
  | tick (h : Nat → Handler Kernel) (i : TickInput D) (sceneBounds : Option (CGSize D))
  | btnTouchesBegan (touch : Option (CGPoint D))
  | btnTouchesMoved (touch : Option (CGPoint D))
  | btnTouchesEnded
  | btnTouchesCancelled
  | aimTouchesBegan (touch : Option (CGPoint D))
  | aimTouchesMoved (touch : Option (CGPoint D))
  | aimTouchesEnded
  | aimTouchesCancelled
  | toggle (m : MenuButton)
  | closeMenu
  | stopRadar
  | toggleMenu

/-! ### What the menu shows -/

/-- The titles of a feature that is on and of one that is off. -/
def Feature.titles : Feature → String × String
  | .radar => ("Radar: ON", "Radar: OFF")
  | .lines => ("Snaplines: ON", "Snaplines: OFF")
  | .box => ("2D Box: ON", "2D Box: OFF")
  | .health => ("Health: ON", "Health: OFF")
  | .name => ("Name: ON", "Name: OFF")
  | .dist => ("Distance: ON", "Distance: OFF")
  | .teamBot => ("Team/Bot: ON", "Team/Bot: OFF")
  | .skeleton => ("Skeleton: ON", "Skeleton: OFF")
  | .head => ("Head Dot: ON", "Head Dot: OFF")
  | .vehicles => ("Vehicles: ON", "Vehicles: OFF")
  | .items => ("Loot ESP: ON", "Loot ESP: OFF")
  | .vehAirOnly => ("Veh: Air Only", "Veh: All Cars")
  | .itemFilter => ("Loot: High Tier", "Loot: All Items")
  | .teammates => ("Teammates: ON", "Teammates: OFF")
  | .enemyAlert => ("Enemy Alert: ON", "Enemy Alert: OFF")
  | .offscreenArrows => ("Offscreen: ON", "Offscreen: OFF")
  | .crosshair => ("Crosshair: ON", "Crosshair: OFF")
  | .targetLock => ("Lock Box: ON", "Lock Box: OFF")
  | .bulletDrop => ("Drop Guide: ON", "Drop Guide: OFF")
  | .gazeRay => ("Gaze Rays: ON", "Gaze Rays: OFF")
  | .blindspotAlert => ("Blind Alert: ON", "Blind Alert: OFF")
  | .spectatorWarn => ("Spectator: ON", "Spectator: OFF")
  | .threatTier => ("Threat Rank: ON", "Threat Rank: OFF")
  | .grenadeWarn => ("Nade Alert: ON", "Nade Alert: OFF")
  | .airdropBeacon => ("Airdrop ESP: ON", "Airdrop ESP: OFF")
  | .soundRadar => ("Audio Radar: ON", "Audio Radar: OFF")
  | .knockedTimer => ("Bleed Timer: ON", "Bleed Timer: OFF")
  | .autoEvade => ("Evade Alert: ON", "Evade Alert: OFF")

/-- The face of a button that is on or off. -/
def switchFace (titles : String × String) (on : Bool) : ButtonFace := ⟨lit (if on then titles.1 else titles.2), on⟩

/-- `update_menu_buttons`, for one button. -/
def MenuButton.face (f : Features) (s : Settings) : MenuButton → ButtonFace
  | .feature x => switchFace x.titles (f.on x)
  | .range => ⟨snprintf 32 (lit "Range: " ++ decimal f.radarRange.toNat ++ lit "m"), true⟩
  | .touchAim =>
    ⟨lit (["Aim: Hold Btn", "Aim: Auto FOV", "Aim: OFF"].getD (s.aimTriggerMode % 3) ""), s.aimTriggerMode ≠ 2⟩
  | .aimSpeed =>
    ⟨lit (if s.aimVelocity = 0 then "Aim: Slow 20%" else if s.aimVelocity = 1 then "Aim: Med 45%"
      else if s.aimVelocity = 2 then "Aim: Fast 75%" else "Aim: Max 100%"), true⟩
  | .aimBone => ⟨lit (["Bone: Head", "Bone: Chest", "Bone: Pelvis"].getD (s.aimBone % 3) ""), true⟩
  | .aimFov =>
    ⟨lit (["FOV: 100pt", "FOV: 180pt", "FOV: 260pt", "FOV: 350pt", "FOV: Full"].getD (s.aimFovMode % 5) ""),
      s.aimFovMode ≠ 4⟩
  | .aimZone => ⟨lit (["Touch: Left 1/3", "Touch: Right Look", "Touch: Center"].getD (s.aimTouchZone % 3) ""), true⟩
  | .leadPred => switchFace ("Lead Dot: ON", "Lead Dot: OFF") s.leadPred
  | .recoilComp => switchFace ("Recoil Comp: ON", "Recoil Comp: OFF") s.recoilComp
  | .adaptiveFov => switchFace ("Adapt FOV: ON", "Adapt FOV: OFF") s.adaptiveFov
  | .aimSmooth => switchFace ("Aim Smooth: ON", "Aim Smooth: OFF") s.aimSmooth
  | .orientation =>
    ⟨lit (["Ori: Auto", "Ori: LandRight", "Ori: LandLeft"].getD (s.orientationOverride % 3) ""),
      s.orientationOverride ≠ 0⟩

/-! ### The actions of the menu -/

def Features.flip (f : Features) (x : Feature) : Features :=
  { f with on := fun y => if y = x then !f.on y else f.on y }

/-- `action_toggle_range` -/
def Features.nextRange (f : Features) : Features :=
  { f with radarRange := if f.radarRange = 100 then 200 else if f.radarRange = 200 then 400 else 100 }

/-- The part of the action of a button that the aim engine depends on. -/
def MenuButton.aimPart : MenuButton → Toggle
  | .feature _ | .range => .other
  | .touchAim => .touchAim
  | .aimSpeed => .aimSpeed
  | .aimBone => .aimBone
  | .aimFov => .aimFov
  | .aimZone => .aimZone
  | .leadPred => .leadPred
  | .recoilComp => .recoilComp
  | .adaptiveFov => .adaptiveFov
  | .aimSmooth => .aimSmooth
  | .orientation => .orientation

/-- What the action of a button does to the other features, when the settings have become `s`. -/
def Features.press (f : Features) (s : Settings) : MenuButton → Features
  | .feature x => f.flip x
  | .range => f.nextRange
  | .aimFov => { f with aimFov := s.aimFovMode ≠ 4 }
  | _ => f

section
variable {D : Type} [Double D]

/-! ### Rectangles -/

/-- `max_w` and `max_h`. -/
def State.controlArea (s : State D) : CGSize D :=
  ⟨if (10.0 : D) < s.screenW then s.screenW else 1024.0, if (10.0 : D) < s.screenH then s.screenH else 768.0⟩

/-- `edge` -/
def controlEdge : D := 6.0

def clampOrigin (x size max : D) : D := Double.fmax controlEdge (Double.fmin x (max - size - controlEdge))

/-- The rectangle of a button of the width and height `size`, kept in the area. -/
def clampRect (area : CGSize D) (size : D) (r : CGRect D) : CGRect D :=
  { r with origin := ⟨clampOrigin r.origin.x size area.width, clampOrigin r.origin.y size area.height⟩ }

/-- Where a coordinate of a button of the width or height `size` is dragged to. -/
def dragTo (x size max : D) : D :=
  let x := if x < (4.0 : D) then 4.0 else x
  if max - 4.0 < x + size then max - size - 4.0 else x

def dragRect (area : CGSize D) (start : CGPoint D) (dx dy : D) (r : CGRect D) : CGRect D :=
  { r with origin := ⟨dragTo (start.x + dx) r.size.width area.width, dragTo (start.y + dy) r.size.height area.height⟩ }

def isDrag (dx dy : D) : Bool := (4.0 : D) < Double.fabs dx ∨ (4.0 : D) < Double.fabs dy

def inRect (p : CGPoint D) (r : CGRect D) : Bool :=
  r.origin.x ≤ p.x ∧ r.origin.y ≤ p.y ∧ p.x < r.origin.x + r.size.width ∧ p.y < r.origin.y + r.size.height

/-- `MENU_WIDTH` and `MENU_HEIGHT`. -/
def menuWidth : D := 340.0
def menuHeight : D := 330.0

def menuScale (area : CGSize D) : D :=
  let margin : D := 32.0
  Double.fmin 1.0
    (Double.fmin ((area.width - 2.0 * margin) / menuWidth) ((area.height - 2.0 * margin) / menuHeight))

def menuRectFor (area : CGSize D) : CGRect D :=
  let scale := menuScale area
  cgRectMake ((area.width - menuWidth * scale) / 2.0) ((area.height - menuHeight * scale) / 2.0) (menuWidth * scale)
    (menuHeight * scale)

namespace Controls

/-- The window of the AIM button is hidden. -/
def aimHidden (c : Controls D) : Bool := !c.state.settings.touchAim || c.state.menuOpen

/-- What `apply_control_window` tells the system, where each window has a root view and its own view. -/
def windowFor (c : Controls D) (r : CGRect D) (scale : D) : WindowLayout D :=
  applyControlWindow c.scene c.state.currentOrientation true true r scale

def layoutControls (c : Controls D) : Controls D :=
  let area := c.state.controlArea
  let buttonRect := clampRect area 48.0 c.buttonRect
  let aimRect := clampRect area 56.0 c.aimRect
  let menuRect := menuRectFor area
  { c with
    buttonRect, aimRect, menuRect
    buttonWindow := ⟨c.state.menuOpen, c.windowFor buttonRect 1.0⟩
    aimWindow := ⟨c.aimHidden, c.windowFor aimRect 1.0⟩
    menuWindow := ⟨!c.state.menuOpen, c.windowFor menuRect (menuScale area)⟩ }

def updateMenuButtons (c : Controls D) : Controls D :=
  { c with
    menuButtons := fun m => m.face c.features c.state.settings
    radarViewHidden := !c.features.on .radar
    aimWindow := { c.aimWindow with hidden := c.aimHidden } }

def toggleMenu (c : Controls D) : Controls D :=
  let c := { c with state := c.state.toggleMenu }.layoutControls
  let c := { c with menuViewHidden := !c.state.menuOpen }
  let c := if c.state.menuOpen then c.updateMenuButtons else c
  { c with dragButtonTitle := lit (if c.state.menuOpen then "X" else "ESP") }

/-! ### The floating button -/

def btnTouchesBegan (touch : Option (CGPoint D)) (c : Controls D) : Controls D :=
  match touch with
  | some p => { c with dragStartTouch := p, dragStartOrigin := c.buttonRect.origin, isDragging := false }
  | none => c

def btnTouchesMoved (touch : Option (CGPoint D)) (c : Controls D) : Controls D :=
  match touch with
  | some cur =>
    let dx := cur.x - c.dragStartTouch.x
    let dy := cur.y - c.dragStartTouch.y
    if isDrag dx dy then
      { c with
        isDragging := true
        buttonRect := dragRect c.state.controlArea c.dragStartOrigin dx dy c.buttonRect }.layoutControls
    else c
  | none => c

def btnTouchesEnded (c : Controls D) : Controls D :=
  let c := if c.isDragging then c else c.toggleMenu
  { c with isDragging := false }

def btnTouchesCancelled (c : Controls D) : Controls D := { c with isDragging := false }

/-! ### The AIM button -/

def aimTouchesBegan (touch : Option (CGPoint D)) (c : Controls D) : Controls D :=
  match touch with
  | some _ =>
    { c with
      state := c.state.aimTouchesBegan touch, aimDragStartOrigin := c.aimRect.origin, aimButtonTitle := lit "AIM*" }
  | none => c

def aimTouchesMoved (touch : Option (CGPoint D)) (c : Controls D) : Controls D :=
  match touch with
  | some cur =>
    let dx := cur.x - c.state.aimDragStartTouch.x
    let dy := cur.y - c.state.aimDragStartTouch.y
    let c := { c with state := c.state.aimTouchesMoved touch }
    if isDrag dx dy then
      { c with aimRect := dragRect c.state.controlArea c.aimDragStartOrigin dx dy c.aimRect }.layoutControls
    else c
  | none => c

/-- `aim_btn_touchesEnded`, and `aim_btn_touchesCancelled`, which is the same. -/
def aimTouchesEnded (c : Controls D) : Controls D :=
  { c with state := c.state.aimTouchesEnded, aimButtonTitle := lit "AIM" }

/-! ### The menu -/

/-- `action_toggle_*` -/
def actionToggle (m : MenuButton) (c : Controls D) : Controls D :=
  let settings := c.state.settings.toggle m.aimPart
  { c with state := { c.state with settings }, features := c.features.press settings m }.updateMenuButtons

def actionCloseMenu (c : Controls D) : Controls D := if c.state.menuOpen then c.toggleMenu else c

def actionStopRadar (c : Controls D) : Controls D :=
  { c with state := { c.state with shm := c.state.shm.stop, stopped := true } }.actionCloseMenu

/-! ### The tick -/

/-- The bounds of the scene, or else those of the screen. -/
def sceneFor (i : TickInput D) (sceneBounds : Option (CGSize D)) : Scene D :=
  let bounds := sceneBounds.getD ⟨i.raw.1, i.raw.2⟩
  let bounds := if bounds.width ≤ (10.0 : D) ∨ bounds.height ≤ (10.0 : D) then ⟨i.raw.1, i.raw.2⟩ else bounds
  let isPortrait : Bool := bounds.width < bounds.height
  if bounds.width ≤ (10.0 : D) ∨ bounds.height ≤ (10.0 : D) then
    { isPortrait, w := if isPortrait then i.minDim else i.maxDim, h := if isPortrait then i.maxDim else i.minDim }
  else { isPortrait, w := bounds.width, h := bounds.height }

/-- Every 20 frames the windows are shown once more. -/
def showWindows (c : Controls D) : Controls D :=
  let c := { c with window := false }
  if c.state.menuOpen then c
  else
    { c with
      buttonWindow := { c.buttonWindow with hidden := false }
      aimWindow := { c.aimWindow with hidden := !c.state.settings.touchAim } }

/-- The state of a tick when the snapshot has been read. -/
def readState (h : Nat → Handler Kernel) (i : TickInput D) (s : State D) : State D :=
  let r := (((readSharedMemory (s.frameCounter + 1)).run s.shm).eval h 0).1
  { s with frameCounter := s.frameCounter + 1, shm := r.2 }.accept i.readAt r.1

/-- `bounds_changed || g_frame_counter % 20 == 1` -/
def relaid (i : TickInput D) (s : State D) : Bool :=
  let s :=
    { s with currentOrientation := orientationFor i s.snapshot.header.status s.settings.orientationOverride }
  s.boundsChanged i ∨ s.frameCounter % 20 = 1

/-- Parts 1 and 2 of `timer_tick`: the snapshot is read, and the windows are shown. -/
def readPart (h : Nat → Handler Kernel) (i : TickInput D) (c : Controls D) : Controls D :=
  let c := { c with state := readState h i c.state }
  if c.state.frameCounter % 20 = 1 then c.showWindows else c

/-- Parts 3 and 4: the orientation and the sizes, and the controls when they have to be laid out again. -/
def layoutPart (scene : Scene D) (i : TickInput D) (c : Controls D) : Controls D :=
  let changed := relaid i c.state
  let c := { c with scene, state := c.state.layoutScreen i }
  if changed then c.layoutControls else c

def timerTick (ar : Arith) (h : Nat → Handler Kernel) (i : TickInput D) (sceneBounds : Option (CGSize D))
    (c : Controls D) : Controls D :=
  let scene := sceneFor i sceneBounds
  let i := { i with sceneIsPortrait := scene.isPortrait }
  let c := (c.readPart h i).layoutPart scene i
  { c with state := c.state.aimEngine ar i }

/-! ### Runs -/

def step (ar : Arith) (c : Controls D) : ControlEvent D → Controls D
  | .tick h i sceneBounds => c.timerTick ar h i sceneBounds
  | .btnTouchesBegan touch => c.btnTouchesBegan touch
  | .btnTouchesMoved touch => c.btnTouchesMoved touch
  | .btnTouchesEnded => c.btnTouchesEnded
  | .btnTouchesCancelled => c.btnTouchesCancelled
  | .aimTouchesBegan touch => c.aimTouchesBegan touch
  | .aimTouchesMoved touch => c.aimTouchesMoved touch
  | .aimTouchesEnded | .aimTouchesCancelled => c.aimTouchesEnded
  | .toggle m => c.actionToggle m
  | .closeMenu => c.actionCloseMenu
  | .stopRadar => c.actionStopRadar
  | .toggleMenu => c.toggleMenu

def run (ar : Arith) (c : Controls D) (es : List (ControlEvent D)) : Controls D := es.foldl (step ar) c

/-! ### The start -/

/-- The controls when `init_overlay` has made them, before they are laid out. -/
def made (s : State D) (mainScreen : CGSize D) : Controls D :=
  let maxDim := Double.fmax mainScreen.width mainScreen.height
  let minDim := Double.fmin mainScreen.width mainScreen.height
  let bounds : CGSize D := if maxDim ≤ (10.0 : D) ∨ minDim ≤ (10.0 : D) then ⟨1024.0, 768.0⟩ else ⟨maxDim, minDim⟩
  let bare : ControlWindow D := ⟨true, ⟨cgRectMake 0.0 0.0 56.0 56.0, cgRectMake 0.0 0.0 56.0 56.0, none, none⟩⟩
  { state := { s with screenW := bounds.width, screenH := bounds.height, currentOrientation := 3 }
    features := .initial
    scene := ⟨false, 0.0, 0.0⟩
    buttonRect := cgRectMake 16.0 50.0 48.0 48.0
    aimRect := cgRectMake 20.0 200.0 56.0 56.0
    menuRect :=
      cgRectMake (Double.fmax 10.0 ((bounds.width - menuWidth) / 2.0))
        (Double.fmax 10.0 ((bounds.height - menuHeight) / 2.0)) menuWidth menuHeight
    dragStartTouch := ⟨0.0, 0.0⟩
    dragStartOrigin := ⟨0.0, 0.0⟩
    isDragging := false
    aimDragStartOrigin := ⟨0.0, 0.0⟩
    window := true
    buttonWindow := bare
    menuWindow := bare
    aimWindow := bare
    menuViewHidden := true
    radarViewHidden := false
    dragButtonTitle := lit "ESP"
    aimButtonTitle := lit "AIM"
    menuButtons := fun _ => ⟨[], false⟩ }

/-- The self-test: the menu is opened, three of its buttons are pressed and what they changed is put back, and the
    menu is closed twice. -/
def selftest (c : Controls D) : Controls D :=
  let origRadar := c.features.on .radar
  let origAimMode := c.state.settings.aimTriggerMode
  let origLead := c.state.settings.leadPred
  let c := (c.toggleMenu).actionToggle (.feature .radar)
  let c :=
    { c with features := { c.features with on := fun x => if x = Feature.radar then origRadar else c.features.on x } }
  let c := c.actionToggle .touchAim
  let settings := { c.state.settings with aimTriggerMode := origAimMode, touchAim := origAimMode ≠ 2 }
  let c := { c with state := { c.state with settings } }
  let c := c.actionToggle .leadPred
  let settings := { c.state.settings with leadPred := origLead }
  let c := { c with state := { c.state with settings } }
  ((c.updateMenuButtons).actionCloseMenu).actionCloseMenu

/-- `init_overlay`, where `s` has the file open. -/
def initOverlay (s : State D) (mainScreen : CGSize D) : Controls D :=
  let c := ((made s mainScreen).layoutControls).updateMenuButtons
  { c with window := false }.selftest

end Controls

/-! ### Touches -/

/-- The windows of the overlay. -/
inductive OverlayWindow where
  | display
  | button
  | menu
  | aim

/-- `window_pointInside`, when the bounds of the window are those that it was given. -/
def Controls.pointInside (c : Controls D) (w : OverlayWindow) (p : CGPoint D) : Bool :=
  match w with
  | .display => false
  | .button => inRect p c.buttonWindow.layout.bounds
  | .menu => c.state.menuOpen && inRect p c.menuWindow.layout.bounds
  | .aim => !c.aimHidden && inRect p c.aimWindow.layout.bounds

/-- The system shows nothing of a window, and gives it no touches. -/
def Controls.windowHidden (c : Controls D) : OverlayWindow → Bool
  | .display => c.window
  | .button => c.buttonWindow.hidden
  | .menu => c.menuWindow.hidden
  | .aim => c.aimWindow.hidden

end
end RadarAim.Overlay
