import RadarAim.Overlay.Skeleton

/-! The skeleton of a player. Its path has one segment for each edge of a tree over the 16 bones whose two bones are on
    the screen, with one end that is not the bone's. -/

namespace RadarAim.Overlay
namespace Skeleton
open Ieee PathOp

section Lists
variable {α β : Type}

/-- Two functions that differ at most at one element have the same values on the elements that are kept if they agree
    at that element, or if it is not kept. -/
theorem perm_map_filter_iff {keep : α → Bool} {f g : α → β} {before after : List α} {x : α}
    (hsame : ∀ y ∈ before ++ after, f y = g y) :
    (((before ++ x :: after).filter keep).map f).Perm (((before ++ x :: after).filter keep).map g) ↔
      (keep x = true → f x = g x) := by
  have hkept : ∀ l : List α, l ⊆ before ++ after → (l.filter keep).map f = (l.filter keep).map g := fun l hl =>
    List.map_congr_left fun y hy => hsame y (hl (List.mem_of_mem_filter hy))
  rw [List.filter_append, List.map_append, List.map_append, hkept before (List.subset_append_left _ _),
    List.perm_append_left_iff]
  by_cases hx : keep x = true
  · rw [List.filter_cons_of_pos hx, List.map_cons, List.map_cons, hkept after (List.subset_append_right _ _)]
    have hperm := (List.perm_append_right_iff ((after.filter keep).map g)).trans
      (List.singleton_perm_singleton (a := f x) (b := g x))
    exact hperm.trans ⟨fun heq _ => heq, fun heq => heq hx⟩
  · rw [List.filter_cons_of_neg hx, hkept after (List.subset_append_right _ _)]
    exact iff_of_true (.refl _) fun hkeep => absurd hkeep hx

end Lists

/-- The edges of the tree. -/
def boneTree : List (Nat × Nat) :=
  [(0, 1), (1, 2), (2, 3), (2, 4), (4, 5), (5, 6), (2, 7), (7, 8), (8, 9), (3, 10), (10, 11), (11, 12), (3, 13),
    (13, 14), (14, 15)]

/-- Every bone but the head is joined to one that comes before it. -/
example : boneTree.map Prod.snd = List.range' 1 15 ∧ boneTree.all (fun e => e.1 < e.2) = true := by decide

section Player
variable {D : Type} (b : BoneScreen D)

def shown (e : Nat × Nat) : Bool := b.ok e.1 && b.ok e.2

def joints (e : Nat × Nat) : CGPoint D × CGPoint D := (b.screen e.1, b.screen e.2)

/-- Where the line of an edge begins and ends. -/
def drawn (e : Nat × Nat) : CGPoint D × CGPoint D :=
  if e = (7, 8) then (⟨(b.screen 7).x, (b.screen 8).y⟩, b.screen 8) else joints b e

theorem drawn_of_ne {e : Nat × Nat} (he : e ≠ (7, 8)) : drawn b e = joints b e := if_neg he

theorem skeletonPath_eq :
    skeletonPath b = boneTree.flatMap fun e => if shown b e then line (drawn b e).1 (drawn b e).2 else [] := rfl

theorem segments_skeletonPath : segments (skeletonPath b) = (boneTree.filter (shown b)).map (drawn b) := by
  rw [skeletonPath_eq, segments_lines]

theorem drawn_eq_joints_iff : drawn b (7, 8) = joints b (7, 8) ↔ (b.screen 7).y = (b.screen 8).y := by
  rw [drawn, if_pos rfl, joints, Prod.mk.injEq, and_iff_left rfl]
  constructor
  · intro heq
    exact (congrArg CGPoint.y heq).symm
  · intro heq
    rw [← heq]

/-- All segments of a player with bones join their two bones, unless the right upper arm is drawn and is not level. -/
theorem playerSkeleton_joins_iff {featSkeleton : Bool} {p : RadarPlayer} (hfeat : featSkeleton = true)
    (hbones : p.hasBones = true) :
    (segments (playerSkeleton featSkeleton p b)).Perm ((boneTree.filter (shown b)).map (joints b)) ↔
      (b.ok 7 = true → b.ok 8 = true → (b.screen 7).y = (b.screen 8).y) := by
  rw [playerSkeleton, hfeat, hbones, Bool.and_self, if_pos rfl, segments_skeletonPath]
  have hothers : ∀ e ∈ boneTree.take 7 ++ boneTree.drop 8, drawn b e = joints b e := by
    intro e he
    refine drawn_of_ne b ?_
    rintro rfl
    revert he
    decide
  have hsplit : boneTree = boneTree.take 7 ++ (7, 8) :: boneTree.drop 8 := rfl
  rw [hsplit, perm_map_filter_iff hothers, drawn_eq_joints_iff, shown, Bool.and_eq_true_iff, and_imp]

/-- The positions of bones that are not on the screen are not read. -/
theorem skeletonPath_congr {b b' : BoneScreen D} (hok : b'.ok = b.ok)
    (hscreen : ∀ i, b.ok i = true → b'.screen i = b.screen i) : skeletonPath b' = skeletonPath b := by
  rw [skeletonPath_eq, skeletonPath_eq]
  refine List.flatMap_congr fun e _ => ?_
  have hshown : shown b' e = shown b e := by
    rw [shown, shown, hok]
  rw [hshown]
  by_cases hkeep : shown b e = true
  · obtain ⟨hfirst, hsecond⟩ := Bool.and_eq_true_iff.mp hkeep
    have hjoints : joints b' e = joints b e := by
      rw [joints, joints, hscreen _ hfirst, hscreen _ hsecond]
    have hdrawn : drawn b' e = drawn b e := by
      by_cases he : e = (7, 8)
      · subst he
        rw [drawn, drawn, if_pos rfl, if_pos rfl, hscreen 7 hfirst, hscreen 8 hsecond]
      · rw [drawn_of_ne b' he, drawn_of_ne b he, hjoints]
    rw [if_pos hkeep, if_pos hkeep, hdrawn]
  · rw [if_neg hkeep, if_neg hkeep]

end Player

/-- What `b_screen` held before the bones were projected is not drawn. -/
theorem drawSkeleton_stack {D : Type} [Double D] (ar : Arith) (i : TickInput D) (s : State D) (featSkeleton : Bool)
    (stack stack' : Nat → CGPoint D) (p : RadarPlayer) (w h : D) :
    s.drawSkeleton ar i featSkeleton stack' p w h = s.drawSkeleton ar i featSkeleton stack p w h := by
  have hpath : skeletonPath (s.boneScreen ar i stack' p w h) = skeletonPath (s.boneScreen ar i stack p w h) := by
    refine skeletonPath_congr rfl fun bone hok => ?_
    obtain ⟨point, hpoint⟩ := Option.isSome_iff_exists.mp hok
    simp only [State.boneScreen, hpoint, Option.map_some, Option.getD_some]
  rw [State.drawSkeleton, State.drawSkeleton, playerSkeleton, playerSkeleton, hpath]

/-! ### The example of an arm -/

/-- A player whose right arm hangs down on the screen, bone 8 below bone 7. -/
def armed : RadarPlayer where
  pos := .zero
  health := 0
  healthMax := 0
  yaw := 0
  teamId := 2
  isBot := 0
  healthStatus := 0
  hasBones := true
  name := []
  distance := 0
  headPos := .zero
  feetPos := .zero
  bones := List.replicate 16 .zero

def hanging : BoneScreen Rat where
  ok _ := true
  screen i := ⟨100 + i, 200 + i⟩

/-- The left arm alone. -/
def leftArm : BoneScreen Rat where
  ok i := 4 ≤ i ∧ i ≤ 6
  screen i := ⟨100 + i, 200 + i⟩

theorem leftArm_joins :
    (segments (playerSkeleton true armed leftArm)).Perm ((boneTree.filter (shown leftArm)).map (joints leftArm)) :=
  (playerSkeleton_joins_iff leftArm rfl rfl).mpr fun h7 => absurd h7 (by decide)

/-- The line from bone 7 begins at the height of bone 8. -/
theorem right_arm_level :
    ¬∀ (D : Type) (p : RadarPlayer) (b : BoneScreen D), p.hasBones = true →
      (segments (playerSkeleton true p b)).Perm ((boneTree.filter (shown b)).map (joints b)) := by
  intro h
  have hperm := h Rat armed hanging rfl
  have hheight := (hperm.map fun segment => segment.1.y).mem_iff (a := 207)
  revert hheight
  decide +kernel

end Skeleton
end RadarAim.Overlay
