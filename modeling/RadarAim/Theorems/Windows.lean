import Mathlib.Data.Set.Function
import Mathlib.Tactic.Linarith
import Mathlib.Tactic.NormNum
import Mathlib.Tactic.Ring
import RadarAim.Overlay.Window
import RadarAim.Theorems.Touch

/-! A window of the overlay lies where the points of its rectangle lie on the panel, and shows them there. -/

namespace RadarAim.Overlay
namespace Windows
open Ieee

/-- Exact arithmetic, with the sine and the cosine of a quarter turn to either side. -/
@[reducible] def exactTurns : Double Rat where
  __ := Touch.exact
  sin x := if x < 0 then -1 else 1
  cos _ := 0

attribute [local instance] exactTurns

theorem lit_one : (1.0 : ℚ) = 1 := by norm_num

theorem lit_two : (2.0 : ℚ) = 2 := by norm_num

theorem lit_zero : (0.0 : ℚ) = 0 := by norm_num

/-! ### Points and rectangles -/

/-- The points of a rectangle, its edges included. -/
def points (r : CGRect ℚ) : Set (CGPoint ℚ) :=
  {p | r.origin.x ≤ p.x ∧ p.x ≤ r.origin.x + r.size.width ∧
    r.origin.y ≤ p.y ∧ p.y ≤ r.origin.y + r.size.height}

/-- The rectangle lies in an area of the given size, with a corner at zero. -/
structure Inside (r : CGRect ℚ) (w h : ℚ) : Prop where
  x : 0 ≤ r.origin.x
  y : 0 ≤ r.origin.y
  width : 0 ≤ r.size.width
  height : 0 ≤ r.size.height
  right : r.origin.x + r.size.width ≤ w
  bottom : r.origin.y + r.size.height ≤ h

def unitSquare : Set (CGPoint ℚ) := {p | 0 ≤ p.x ∧ p.x ≤ 1 ∧ 0 ≤ p.y ∧ p.y ≤ 1}

/-- Half a turn about the centre of the unit square. -/
def halfTurn (p : CGPoint ℚ) : CGPoint ℚ := ⟨1 - p.x, 1 - p.y⟩

theorem cgPoint_ext {p q : CGPoint ℚ} (hx : p.x = q.x) (hy : p.y = q.y) : p = q := by
  cases p
  cases q
  simp_all

/-! ### The rotation -/

/-- The rotation of `screen_to_digitizer_coords`, before the clamp. -/
def toPanel (header : RadarHeader) (ori : Int) (p : CGPoint ℚ) : CGPoint ℚ :=
  rotateToPanel (digitizerOrientation header ori) p

theorem screenToDigitizerCoords_eq (header : RadarHeader) (ori : Int) (panel : CGSize ℚ) (p : CGPoint ℚ) :
    screenToDigitizerCoords none header ori panel p = (clampToPanel (toPanel header ori p), panel) := rfl

/-- A landscape orientation is the one that points are rotated for. -/
theorem digitizerOrientation_landscape (header : RadarHeader) {ori : Int} (h : ori = 3 ∨ ori = 4) :
    digitizerOrientation header ori = ori := by
  rcases h with rfl | rfl <;> simp [digitizerOrientation]

theorem toPanel_right (header : RadarHeader) (p : CGPoint ℚ) : toPanel header 3 p = ⟨1 - p.y, p.x⟩ := by
  simp [toPanel, digitizerOrientation_landscape, rotateToPanel, lit_one]

theorem toPanel_left (header : RadarHeader) (p : CGPoint ℚ) : toPanel header 4 p = ⟨p.y, 1 - p.x⟩ := by
  simp [toPanel, digitizerOrientation_landscape, rotateToPanel, lit_one]

theorem left_right (header : RadarHeader) (p : CGPoint ℚ) : toPanel header 4 (toPanel header 3 p) = p := by
  rw [toPanel_right, toPanel_left]
  exact cgPoint_ext rfl (sub_sub_cancel 1 p.y)

theorem right_left (header : RadarHeader) (p : CGPoint ℚ) : toPanel header 3 (toPanel header 4 p) = p := by
  rw [toPanel_left, toPanel_right]
  exact cgPoint_ext (sub_sub_cancel 1 p.x) rfl

theorem mapsTo_right (header : RadarHeader) : Set.MapsTo (toPanel header 3) unitSquare unitSquare := by
  rintro p ⟨hx, hx', hy, hy'⟩
  rw [toPanel_right]
  exact ⟨by linarith, by linarith, hx, hx'⟩

theorem mapsTo_left (header : RadarHeader) : Set.MapsTo (toPanel header 4) unitSquare unitSquare := by
  rintro p ⟨hx, hx', hy, hy'⟩
  rw [toPanel_left]
  exact ⟨hy, hy', by linarith, by linarith⟩

/-- The two rotations are inverse to each other. -/
theorem bijOn_right (header : RadarHeader) : Set.BijOn (toPanel header 3) unitSquare unitSquare :=
  Set.InvOn.bijOn ⟨fun p _ => left_right header p, fun p _ => right_left header p⟩ (mapsTo_right header)
    (mapsTo_left header)

theorem bijOn_left (header : RadarHeader) : Set.BijOn (toPanel header 4) unitSquare unitSquare :=
  Set.InvOn.bijOn ⟨fun p _ => right_left header p, fun p _ => left_right header p⟩ (mapsTo_left header)
    (mapsTo_right header)

theorem left_eq_halfTurn (header : RadarHeader) (p : CGPoint ℚ) :
    toPanel header 4 p = halfTurn (toPanel header 3 p) := by
  rw [toPanel_right, toPanel_left]
  exact cgPoint_ext (sub_sub_cancel 1 p.y).symm rfl

theorem right_eq_halfTurn (header : RadarHeader) (p : CGPoint ℚ) :
    toPanel header 3 p = halfTurn (toPanel header 4 p) := by
  rw [toPanel_right, toPanel_left]
  exact cgPoint_ext rfl (sub_sub_cancel 1 p.x).symm

/-! ### The frame of a window -/

/-- Where a point of the landscape area lies on the panel of a portrait scene: the rotation of the normalised
    point, scaled by the size of the panel. -/
def onPanel (header : RadarHeader) (ori : Int) (scene : Scene ℚ) (p : CGPoint ℚ) : CGPoint ℚ :=
  let q := toPanel header ori ⟨p.x / scene.h, p.y / scene.w⟩
  ⟨q.x * scene.w, q.y * scene.h⟩

/-- Scaling undoes the normalisation, also on an area without extent, where there is no other point than 0. -/
theorem scale_cancel {x w : ℚ} (h0 : 0 ≤ x) (h : x ≤ w) : x / w * w = x :=
  div_mul_cancel_of_imp fun hw => le_antisymm (hw ▸ h) h0

section
variable {header : RadarHeader} {scene : Scene ℚ} {p : CGPoint ℚ}

theorem onPanel_right (hy : 0 ≤ p.y) (hy' : p.y ≤ scene.w) (hx : 0 ≤ p.x) (hx' : p.x ≤ scene.h) :
    onPanel header 3 scene p = ⟨scene.w - p.y, p.x⟩ := by
  simp only [onPanel, toPanel_right, sub_mul, one_mul, scale_cancel hy hy', scale_cancel hx hx']

theorem onPanel_left (hy : 0 ≤ p.y) (hy' : p.y ≤ scene.w) (hx : 0 ≤ p.x) (hx' : p.x ≤ scene.h) :
    onPanel header 4 scene p = ⟨p.y, scene.h - p.x⟩ := by
  simp only [onPanel, toPanel_left, sub_mul, one_mul, scale_cancel hy hy', scale_cancel hx hx']

end

section
variable {header : RadarHeader} {scene : Scene ℚ} {land : CGRect ℚ}

theorem points_inside {w h : ℚ} (hr : Inside land w h) {p : CGPoint ℚ} (hp : p ∈ points land) :
    0 ≤ p.x ∧ p.x ≤ w ∧ 0 ≤ p.y ∧ p.y ≤ h := by
  obtain ⟨hx, hx', hy, hy'⟩ := hp
  exact ⟨hr.x.trans hx, hx'.trans hr.right, hr.y.trans hy, hy'.trans hr.bottom⟩

theorem frame_right : portraitFrame scene 3 land =
    cgRectMake (scene.w - land.origin.y - land.size.height) land.origin.x land.size.height land.size.width := by
  simp [portraitFrame]

theorem frame_left : portraitFrame scene 4 land =
    cgRectMake land.origin.y (scene.h - land.origin.x - land.size.width) land.size.height land.size.width := by
  simp [portraitFrame]

theorem image_right (hr : Inside land scene.h scene.w) :
    onPanel header 3 scene '' points land = points (portraitFrame scene 3 land) := by
  rw [frame_right]
  ext q
  constructor
  · rintro ⟨p, hp, rfl⟩
    obtain ⟨hx, hx', hy, hy'⟩ := points_inside hr hp
    obtain ⟨h1, h2, h3, h4⟩ := hp
    rw [onPanel_right hy hy' hx hx']
    exact ⟨by simp only [cgRectMake]; linarith, by simp only [cgRectMake]; linarith, h1, h2⟩
  · rintro ⟨h1, h2, h3, h4⟩
    simp only [cgRectMake] at h1 h2 h3 h4
    have hp : (⟨q.y, scene.w - q.x⟩ : CGPoint ℚ) ∈ points land := ⟨h3, h4, by linarith, by linarith⟩
    obtain ⟨hx, hx', hy, hy'⟩ := points_inside hr hp
    refine ⟨_, hp, ?_⟩
    rw [onPanel_right hy hy' hx hx']
    exact cgPoint_ext (sub_sub_cancel _ _) rfl

theorem image_left (hr : Inside land scene.h scene.w) :
    onPanel header 4 scene '' points land = points (portraitFrame scene 4 land) := by
  rw [frame_left]
  ext q
  constructor
  · rintro ⟨p, hp, rfl⟩
    obtain ⟨hx, hx', hy, hy'⟩ := points_inside hr hp
    obtain ⟨h1, h2, h3, h4⟩ := hp
    rw [onPanel_left hy hy' hx hx']
    exact ⟨h3, h4, by simp only [cgRectMake]; linarith, by simp only [cgRectMake]; linarith⟩
  · rintro ⟨h1, h2, h3, h4⟩
    simp only [cgRectMake] at h1 h2 h3 h4
    have hp : (⟨scene.h - q.y, q.x⟩ : CGPoint ℚ) ∈ points land := ⟨by linarith, by linarith, h1, h2⟩
    obtain ⟨hx, hx', hy, hy'⟩ := points_inside hr hp
    refine ⟨_, hp, ?_⟩
    rw [onPanel_left hy hy' hx hx']
    exact cgPoint_ext rfl (sub_sub_cancel _ _)

theorem frame_image {ori : Int} (hori : ori = 3 ∨ ori = 4) (hr : Inside land scene.h scene.w) :
    onPanel header ori scene '' points land = points (portraitFrame scene ori land) := by
  rcases hori with rfl | rfl
  · exact image_right hr
  · exact image_left hr

theorem frame_inside {ori : Int} (hori : ori = 3 ∨ ori = 4) (hr : Inside land scene.h scene.w) :
    Inside (portraitFrame scene ori land) scene.w scene.h := by
  obtain ⟨hx, hy, hw, hh, hright, hbottom⟩ := hr
  rcases hori with rfl | rfl
  · rw [frame_right]
    constructor <;> simp only [cgRectMake] <;> linarith
  · rw [frame_left]
    constructor <;> simp only [cgRectMake] <;> linarith

/-! ### The views in a window -/

/-- Where a point of the root view of a window is shown: a view turns about its centre. -/
def shownAt (window : WindowLayout ℚ) (root : RootLayout ℚ) (p : CGPoint ℚ) : CGPoint ℚ :=
  let q := root.transform.apply ⟨p.x - (root.bounds.origin.x + root.bounds.size.width / 2),
    p.y - (root.bounds.origin.y + root.bounds.size.height / 2)⟩
  ⟨window.frame.origin.x + (root.center.x + q.x - window.bounds.origin.x),
    window.frame.origin.y + (root.center.y + q.y - window.bounds.origin.y)⟩

theorem rotation_right : CGAffineTransform.rotation (windowAngle 3 : ℚ) = ⟨0, 1, -1, 0, 0, 0⟩ := by
  have hpos : ¬(halfPi : ℚ) < 0 := by norm_num [halfPi]
  have hsin : Double.sin (halfPi : ℚ) = 1 := if_neg hpos
  have hcos : Double.cos (halfPi : ℚ) = 0 := rfl
  simp [CGAffineTransform.rotation, windowAngle, hsin, hcos, lit_zero]

theorem rotation_left : CGAffineTransform.rotation (windowAngle 4 : ℚ) = ⟨0, -1, 1, 0, 0, 0⟩ := by
  have hneg : -(halfPi : ℚ) < 0 := by norm_num [halfPi]
  have hsin : Double.sin (-halfPi : ℚ) = -1 := if_pos hneg
  have hcos : Double.cos (-halfPi : ℚ) = 0 := rfl
  simp [CGAffineTransform.rotation, windowAngle, hsin, hcos, lit_zero]

/-- A window shows each point of its view where that point of the landscape area lies on the panel. -/
theorem shown_onPanel {ori : Int} (hori : ori = 3 ∨ ori = 4) (hscene : scene.isPortrait)
    (hr : Inside land scene.h scene.w) {hasRoot hasContent : Bool} {contentScale : ℚ} {root : RootLayout ℚ}
    (hroot : (applyControlWindow scene ori hasRoot hasContent land contentScale).root = some root) {p : CGPoint ℚ}
    (hp : ⟨land.origin.x + p.x, land.origin.y + p.y⟩ ∈ points land) :
    shownAt (applyControlWindow scene ori hasRoot hasContent land contentScale) root p =
      onPanel header ori scene ⟨land.origin.x + p.x, land.origin.y + p.y⟩ := by
  obtain ⟨hx, hx', hy, hy'⟩ := points_inside hr hp
  simp only [applyControlWindow, hscene, if_true] at hroot ⊢
  split at hroot
  · cases hroot
    rcases hori with rfl | rfl
    · rw [onPanel_right hy hy' hx hx', rotation_right, frame_right]
      simp only [shownAt, CGAffineTransform.apply, cgRectMake, lit_two, lit_zero]
      exact cgPoint_ext (by ring) (by ring)
    · rw [onPanel_left hy hy' hx hx', rotation_left, frame_left]
      simp only [shownAt, CGAffineTransform.apply, cgRectMake, lit_two, lit_zero]
      exact cgPoint_ext (by ring) (by ring)
  · cases hroot

end

/-- The frame of a window of a portrait scene is the image of its rectangle on the panel and lies in the panel; the
    rotations of the two landscape orientations map the unit square onto itself, and are half a turn apart. -/
theorem windows_agree (header : RadarHeader) :
    (∀ (scene : Scene ℚ) (ori : Int) (hasRoot hasContent : Bool) (land : CGRect ℚ) (contentScale : ℚ),
      scene.isPortrait → ori = 3 ∨ ori = 4 → Inside land scene.h scene.w →
        points (applyControlWindow scene ori hasRoot hasContent land contentScale).frame =
          onPanel header ori scene '' points land ∧
        Inside (applyControlWindow scene ori hasRoot hasContent land contentScale).frame scene.w scene.h) ∧
    Set.BijOn (toPanel header 3) unitSquare unitSquare ∧ Set.BijOn (toPanel header 4) unitSquare unitSquare ∧
    ∀ p, toPanel header 4 p = halfTurn (toPanel header 3 p) ∧ toPanel header 3 p = halfTurn (toPanel header 4 p) := by
  refine ⟨?_, bijOn_right header, bijOn_left header, fun p => ⟨left_eq_halfTurn header p, right_eq_halfTurn header p⟩⟩
  intro scene ori hasRoot hasContent land contentScale hscene hori hr
  have hframe : (applyControlWindow scene ori hasRoot hasContent land contentScale).frame =
      portraitFrame scene ori land := by
    simp only [applyControlWindow, hscene, if_true]
  rw [hframe]
  exact ⟨(frame_image hori hr).symm, frame_inside hori hr⟩

def phone : Scene ℚ := ⟨true, 375, 812⟩

/-- The drag button where it is at the start. -/
def dragButton : CGRect ℚ := cgRectMake 16 50 48 48

theorem dragButton_inside : Inside dragButton phone.h phone.w := by
  constructor <;> norm_num [dragButton, phone, cgRectMake]

theorem windows_agree_dragButton :
    points (applyControlWindow phone 3 true true dragButton 1).frame =
      onPanel RadarFrame.zero.header 3 phone '' points dragButton ∧
    Inside (applyControlWindow phone 3 true true dragButton 1).frame phone.w phone.h :=
  (windows_agree RadarFrame.zero.header).1 phone 3 true true dragButton 1 rfl (Or.inl rfl) dragButton_inside

end Windows
end RadarAim.Overlay
