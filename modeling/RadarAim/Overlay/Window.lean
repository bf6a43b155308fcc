import RadarAim.Overlay.Aim

/-! Where the overlay puts its small windows, and where a point of its landscape picture lies on the panel:
    `apply_control_window` and `screen_to_digitizer_coords`. What the system answers about the views is a
    parameter. -/

namespace RadarAim.Overlay
open Ieee

structure CGSize (D : Type) where
  width : D
  height : D

structure CGRect (D : Type) where
  origin : CGPoint D
  size : CGSize D

structure CGAffineTransform (D : Type) where
  a : D
  b : D
  c : D
  d : D
  tx : D
  ty : D

def cgRectMake {D : Type} (x y w h : D) : CGRect D := ⟨⟨x, y⟩, ⟨w, h⟩⟩

/-- `g_scene_is_portrait`, `g_scene_w` and `g_scene_h`. -/
structure Scene (D : Type) where
  isPortrait : Bool
  w : D
  h : D

/-- What is set on the root view of a window, besides an empty autoresizing mask. -/
structure RootLayout (D : Type) where
  transform : CGAffineTransform D
  bounds : CGRect D
  center : CGPoint D

/-- What is set on the view in a window. -/
inductive ContentLayout (D : Type) where
  | scaled (transform : CGAffineTransform D) (bounds : CGRect D) (center : CGPoint D)
  | framed (transform : CGAffineTransform D) (frame : CGRect D)

structure WindowLayout (D : Type) where
  frame : CGRect D
  bounds : CGRect D
  root : Option (RootLayout D)
  content : Option (ContentLayout D)

/-- The drawing view when it and the screen can convert points: its bounds, those of the fixed coordinate space
    of the screen, and the conversion. -/
structure DrawnView (D : Type) where
  bounds : CGRect D
  panel : CGRect D
  convertPoint : CGPoint D → CGPoint D

section
variable {D : Type} [Double D]

namespace CGAffineTransform

def identity : CGAffineTransform D := ⟨1.0, 0.0, 0.0, 1.0, 0.0, 0.0⟩

def rotation (angle : D) : CGAffineTransform D :=
  ⟨Double.cos angle, Double.sin angle, -Double.sin angle, Double.cos angle, 0.0, 0.0⟩

def apply (t : CGAffineTransform D) (p : CGPoint D) : CGPoint D :=
  ⟨t.a * p.x + t.c * p.y + t.tx, t.b * p.x + t.d * p.y + t.ty⟩

end CGAffineTransform

/-! ### The windows -/

/-- A scale is not 1.0 if it is less or greater: it is positive, so it is no NaN. -/
def contentLayout (lw lh contentScale : D) : ContentLayout D :=
  if (0.0 : D) < contentScale ∧ (contentScale < (1.0 : D) ∨ (1.0 : D) < contentScale) then
    .scaled ⟨contentScale, 0.0, 0.0, contentScale, 0.0, 0.0⟩
      (cgRectMake 0.0 0.0 (lw / contentScale) (lh / contentScale)) ⟨lw / 2.0, lh / 2.0⟩
  else .framed .identity (cgRectMake 0.0 0.0 lw lh)

/-- `M_PI_2`. -/
def halfPi : D := 1.57079632679489661923132169163975144

def windowAngle (ori : Int) : D := if ori = 4 then -halfPi else halfPi

/-- The frame of a window of a portrait scene. -/
def portraitFrame (scene : Scene D) (ori : Int) (land : CGRect D) : CGRect D :=
  let lx := land.origin.x
  let ly := land.origin.y
  let lw := land.size.width
  let lh := land.size.height
  if ori = 4 then cgRectMake ly (scene.h - lx - lw) lh lw
  else cgRectMake (scene.w - ly - lh) lx lh lw

/-- `hasRoot` and `hasContent` say whether the window has a root view and a view in it. -/
def applyControlWindow (scene : Scene D) (ori : Int) (hasRoot hasContent : Bool) (land : CGRect D)
    (contentScale : D) : WindowLayout D :=
  let lw := land.size.width
  let lh := land.size.height
  let content := if hasContent then some (contentLayout lw lh contentScale) else none
  if scene.isPortrait then
    { frame := portraitFrame scene ori land
      bounds := cgRectMake 0.0 0.0 lh lw
      root :=
        if hasRoot then
          some ⟨.rotation (windowAngle ori), cgRectMake 0.0 0.0 lw lh, ⟨lh / 2.0, lw / 2.0⟩⟩
        else none
      content := content }
  else
    { frame := land
      bounds := cgRectMake 0.0 0.0 lw lh
      root := if hasRoot then some ⟨.identity, cgRectMake 0.0 0.0 lw lh, ⟨lw / 2.0, lh / 2.0⟩⟩ else none
      content := content }

/-! ### The panel -/

/-- The point on the panel, and the size of the panel. -/
def drawnPointToPanel (view : Option (DrawnView D)) (p : CGPoint D) : Option (CGPoint D × CGSize D) :=
  view.bind fun v =>
    if v.bounds.size.width ≤ (0.0 : D) ∨ v.bounds.size.height ≤ (0.0 : D) ∨ v.panel.size.width ≤ (0.0 : D) ∨
        v.panel.size.height ≤ (0.0 : D) then none
    else
      let pt := v.convertPoint ⟨p.x * v.bounds.size.width, p.y * v.bounds.size.height⟩
      if !Double.isfinite pt.x || !Double.isfinite pt.y then none
      else some (⟨(pt.x - v.panel.origin.x) / v.panel.size.width,
        (pt.y - v.panel.origin.y) / v.panel.size.height⟩, v.panel.size)

/-- The orientation that a point is rotated for: landscape while a match is tracked. -/
def digitizerOrientation (header : RadarHeader) (ori : Int) : Int :=
  if header.status = 2 ∧ header.cameraValid then
    if ori ≠ 4 then 3 else ori
  else if ori ≠ 1 ∧ ori ≠ 2 ∧ ori ≠ 4 then 3 else ori

def rotateToPanel (ori : Int) (p : CGPoint D) : CGPoint D :=
  if ori = 3 then ⟨1.0 - p.y, p.x⟩
  else if ori = 4 then ⟨p.y, 1.0 - p.x⟩
  else if ori = 2 then ⟨1.0 - p.x, 1.0 - p.y⟩
  else p

def clampEdge (x : D) : D :=
  let x := if x < (0.02 : D) then 0.02 else x
  if (0.98 : D) < x then 0.98 else x

def clampToPanel (p : CGPoint D) : CGPoint D := ⟨clampEdge p.x, clampEdge p.y⟩

/-- The point on the panel, and the panel size known afterwards. -/
def screenToDigitizerCoords (view : Option (DrawnView D)) (header : RadarHeader) (ori : Int) (panel : CGSize D)
    (scr : CGPoint D) : CGPoint D × CGSize D :=
  match drawnPointToPanel view scr with
  | some (p, panel) => (p, panel)
  | none => (clampToPanel (rotateToPanel (digitizerOrientation header ori) scr), panel)

end
end RadarAim.Overlay
