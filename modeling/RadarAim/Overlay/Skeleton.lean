import RadarAim.Lib.Path
import RadarAim.Overlay.Aim

/-! The skeletons that `esp_drawRect` draws: the bones of a player on the screen, and the path that joins them. -/

namespace RadarAim.Overlay
open Ieee

/-- `b_ok` and `b_screen`. -/
structure BoneScreen (D : Type) where
  ok : Nat → Bool
  screen : Nat → CGPoint D

section Path
variable {D : Type}

/-- A line to bone `j`, if it and bone `i` are on the screen. -/
def boneLineFrom (b : BoneScreen D) (start : CGPoint D) (i j : Nat) : List (PathOp (CGPoint D)) :=
  if b.ok i && b.ok j then [.moveTo start, .addLineTo (b.screen j)] else []

def boneLine (b : BoneScreen D) (i j : Nat) : List (PathOp (CGPoint D)) := boneLineFrom b (b.screen i) i j

def skeletonPath (b : BoneScreen D) : List (PathOp (CGPoint D)) :=
  List.flatten <|
    -- Spine: Head(0) -> Neck(1) -> Chest(2) -> Pelvis(3)
    [boneLine b 0 1, boneLine b 1 2, boneLine b 2 3] ++
    -- Left arm: Chest(2) -> LShoulder(4) -> LElbow(5) -> LHand(6)
    [boneLine b 2 4, boneLine b 4 5, boneLine b 5 6] ++
    -- Right arm: Chest(2) -> RShoulder(7) -> RElbow(8) -> RHand(9)
    [boneLine b 2 7, boneLineFrom b ⟨(b.screen 7).x, (b.screen 8).y⟩ 7 8, boneLine b 8 9] ++
    -- Left leg: Pelvis(3) -> LHip(10) -> LKnee(11) -> LFoot(12)
    [boneLine b 3 10, boneLine b 10 11, boneLine b 11 12] ++
    -- Right leg: Pelvis(3) -> RHip(13) -> RKnee(14) -> RFoot(15)
    [boneLine b 3 13, boneLine b 13 14, boneLine b 14 15]

/-- The path that is stroked for a player. -/
def playerSkeleton (featSkeleton : Bool) (p : RadarPlayer) (b : BoneScreen D) : List (PathOp (CGPoint D)) :=
  if featSkeleton && p.hasBones then skeletonPath b else []

end Path

section Draw
variable {D : Type} [Double D]

/-- The loop over the bones; `stack` is what `b_screen` held before it. -/
def State.boneScreen (ar : Arith) (i : TickInput D) (s : State D) (stack : Nat → CGPoint D) (p : RadarPlayer)
    (w h : D) : BoneScreen D where
  ok b := (s.worldToScreen ar i (p.bones.getD b .zero) w h).isSome
  screen b := ((s.worldToScreen ar i (p.bones.getD b .zero) w h).map Prod.fst).getD (stack b)

def State.drawSkeleton (ar : Arith) (i : TickInput D) (s : State D) (featSkeleton : Bool) (stack : Nat → CGPoint D)
    (p : RadarPlayer) (w h : D) : List (PathOp (CGPoint D)) :=
  playerSkeleton featSkeleton p (s.boneScreen ar i stack p w h)

end Draw
end RadarAim.Overlay
