import RadarAim.Lib.Canvas
import RadarAim.Lib.Nearest
import RadarAim.Overlay.Picture
import RadarAim.Theorems.Pools
import RadarAim.Theorems.Skeleton
import RadarAim.Theorems.Touch

/-! The picture over the game. Each part of it is a drawing of its own, which uses no colour, no width and no path that
    another part has left; what is seen of a player is what is drawn of it alone. -/

namespace RadarAim.Overlay
namespace Picture
open Ieee

/-! ### The calls on the canvas -/

inductive Shape (D : Type) where
  | rect (r : CGRect D)
  | ellipse (r : CGRect D)

inductive PathPart (D : Type) where
  | move (p : CGPoint D)
  | line (p : CGPoint D)
  | arc (center : CGPoint D) (radius startAngle endAngle : D) (clockwise : Bool)

abbrev Call (D : Type) : Type :=
  CanvasCall (D × D × D × D) D (PathPart D) (Shape D) (Str × CGPoint D × TextFont × TextColor)

section
variable {D : Type}

def paintCall : Paint D → Call D
  | .setRGBFillColor r g b a => .setFill (r, g, b, a)
  | .setRGBStrokeColor r g b a => .setStroke (r, g, b, a)
  | .setLineWidth width => .setWidth width
  | .fillEllipseInRect rect => .fill (.ellipse rect)
  | .strokeEllipseInRect rect => .stroke (.ellipse rect)
  | .fillRect rect => .fill (.rect rect)
  | .moveToPoint p => .start (.move p)
  | .addLineToPoint p => .extend (.line p)
  | .addArc center radius startAngle endAngle clockwise => .start (.arc center radius startAngle endAngle clockwise)
  | .strokePath => .strokePath

def call : Draw D → Call D
  | .paint p => paintCall p
  | .strokeRect rect => .stroke (.rect rect)
  | .text text point font color => .text (text, point, font, color)

def Closed (l : List (Draw D)) : Prop := Canvas.Drawing (l.map call)

theorem closed_nil : Closed ([] : List (Draw D)) := Canvas.drawing_nil

theorem Closed.append {l l' : List (Draw D)} (h : Closed l) (h' : Closed l') : Closed (l ++ l') := by
  rw [Closed, List.map_append]
  exact Canvas.Drawing.append h h'

theorem Closed.ite {c : Prop} [Decidable c] {l l' : List (Draw D)} (h : Closed l) (h' : Closed l') :
    Closed (if c then l else l') := by
  split
  · exact h
  · exact h'

theorem Closed.when {c : Prop} [Decidable c] {l : List (Draw D)} (h : Closed l) : Closed (if c then l else []) :=
  h.ite closed_nil

theorem Closed.flatMap {α : Type} {l : List α} {g : α → List (Draw D)} (h : ∀ x ∈ l, Closed (g x)) :
    Closed (l.flatMap g) := by
  rw [Closed, List.map_flatMap]
  exact Canvas.Drawing.flatMap h

end

section
variable {D : Type} [Double D] (sys : DrawSystem D) (f : Features) (i : Redraw D) (s : State D) (w h : D)

omit [Double D] in
theorem closed_textAt (text : Str) (pt : CGPoint D) (font : TextFont) (color : TextColor) :
    Closed (sys.drawTextAt text pt font color) := by
  have hone : Closed [Draw.text text pt font color] := ⟨_, _, rfl, rfl⟩
  exact Closed.ite closed_nil hone.when

theorem closed_text (text : Str) (x y : D) (font : TextFont) (color : TextColor) :
    Closed (sys.drawTextCentered text x y font color) := closed_textAt sys text _ font color

/-! ### The parts of a player -/

theorem closed_offscreenArrow (p : RadarPlayer) : Closed (offscreenArrow sys f s w h p) :=
  Closed.when (Closed.append ⟨_, _, rfl, rfl⟩ (closed_text sys _ _ _ _ _))

section Figure
variable (k : Nat) (p : RadarPlayer) (g : Figure D)

theorem closed_snapline : Closed (snapline f s w h p g) := Closed.when ⟨_, _, rfl, rfl⟩

theorem closed_box : Closed (box f s p g) := Closed.when ⟨_, _, rfl, rfl⟩

theorem closed_headDot : Closed (headDot f s p g) := Closed.when ⟨_, _, rfl, rfl⟩

theorem closed_healthBar : Closed (healthBar sys f s p g) := Closed.when ⟨_, _, rfl, rfl⟩

theorem closed_nameTag : Closed (nameTag sys f s p g) := Closed.when (closed_text sys _ _ _ _ _)

theorem closed_distanceTag : Closed (distanceTag sys f p g) := Closed.when (closed_text sys _ _ _ _ _)

theorem closed_threatTag : Closed (threatTag sys f s p g) := Closed.when (closed_text sys _ _ _ _ _)

theorem closed_bleedTag : Closed (bleedTag sys f p g) := Closed.when (closed_text sys _ _ _ _ _)

/-- The text of a gaze comes between the colour of its ray and the ray. -/
theorem closed_gazeRay : Closed (gazeRay sys f i s w h p g) := by
  refine Closed.when ?_
  dsimp only
  cases project sys i s w h _ with
  | none => exact closed_nil
  | some ray =>
    dsimp only
    split
    · rw [DrawSystem.drawTextCentered, DrawSystem.drawTextAt, if_neg (by decide)]
      split
      · exact ⟨_, _, rfl, rfl⟩
      · exact ⟨_, _, rfl, rfl⟩
    · exact ⟨_, _, rfl, rfl⟩

theorem closed_leadDot : Closed (leadDot sys i s w h k p) := by
  refine Closed.when ?_
  split
  · exact closed_nil
  · exact Closed.append ⟨_, _, rfl, rfl⟩ (closed_text sys _ _ _ _ _)

theorem closed_dropGuide : Closed (dropGuide sys f i s w h p g) := by
  refine Closed.when ?_
  dsimp only
  split
  · exact closed_nil
  · exact Closed.append ⟨_, _, rfl, rfl⟩ (closed_text sys _ _ _ _ _)

theorem closed_lockReticle : Closed (lockReticle f s w h k g) := Closed.when ⟨_, _, rfl, rfl⟩

omit [Double D] in
theorem calls_skeletonPath (b : BoneScreen D) : ((skeletonPath b).map pathCall).map call =
    ((Skeleton.boneTree.filter (Skeleton.shown b)).map fun e =>
      (PathPart.move (Skeleton.drawn b e).1, PathPart.line (Skeleton.drawn b e).2)).flatMap fun e =>
        [.start e.1, .extend e.2] := by
  rw [Skeleton.skeletonPath_eq, List.flatMap_map]
  induction Skeleton.boneTree with
  | nil => rfl
  | cons e edges ih =>
    rw [List.flatMap_cons, List.map_append, List.map_append, ih]
    cases hshown : Skeleton.shown b e with
    | true =>
      rw [List.filter_cons_of_pos hshown, List.flatMap_cons]
      rfl
    | false =>
      rw [List.filter_cons_of_neg (by simp [hshown])]
      rfl

/-- The path of a skeleton is that of its lines, and it may have none. -/
theorem closed_skeleton : Closed (skeleton sys f i s w h p) := by
  refine Closed.when ?_
  have hlines := calls_skeletonPath (s.boneScreen sys.arith i.screenInput sys.stack p w h)
  rw [Closed, List.map_append, List.map_append, hlines]
  exact Canvas.drawing_segments (0.9, 0.95, 1.0, 0.85) 1.2 _

theorem closed_playerFigure : Closed (playerFigure sys f i s w h k p g) := by
  have hfirst := ((closed_snapline f s w h p g).append (closed_box f s p g)).append (closed_headDot f s p g)
  have hbar := hfirst.append (closed_healthBar sys f s p g)
  have htexts := ((hbar.append (closed_nameTag sys f s p g)).append (closed_distanceTag sys f p g)).append
    (closed_threatTag sys f s p g)
  have hgaze := (htexts.append (closed_bleedTag sys f p g)).append (closed_gazeRay sys f i s w h p g)
  have hdrop := (hgaze.append (closed_leadDot sys i s w h k p)).append (closed_dropGuide sys f i s w h p g)
  exact (hdrop.append (closed_lockReticle f s w h k g)).append (closed_skeleton sys f i s w h p)

theorem closed_player : Closed (player sys f i s w h k p) := by
  rw [player]
  split
  · exact Closed.ite (closed_offscreenArrow sys f s w h p) (closed_playerFigure sys f i s w h k p _)
  · exact closed_offscreenArrow sys f s w h p

end Figure

/-! ### The other parts -/

theorem closed_vehicleMarker (v : RadarVehicle) : Closed (vehicleMarker sys f i s w h v) := by
  refine Closed.ite closed_nil ?_
  split
  · exact closed_nil
  · refine Closed.ite ?_ ?_
    · exact Closed.append ⟨_, _, rfl, rfl⟩ (closed_text sys _ _ _ _ _)
    · exact Closed.append ⟨_, _, rfl, rfl⟩ (closed_text sys _ _ _ _ _)

theorem closed_itemMarker (item : RadarItem) : Closed (itemMarker sys f i s w h item) := by
  refine Closed.ite closed_nil ?_
  split
  · exact closed_nil
  · exact Closed.append ⟨_, _, rfl, rfl⟩ (closed_text sys _ _ _ _ _)

theorem closed_fovCircle : Closed (fovCircle sys f s w h) := by
  refine Closed.when ?_
  dsimp only
  refine Closed.ite (Closed.append (Closed.append ?_ (closed_text sys _ _ _ _ _)) (Closed.when ?_)) ?_
  · exact ⟨_, _, rfl, rfl⟩
  · exact ⟨_, _, rfl, rfl⟩
  · exact ⟨_, _, rfl, rfl⟩

theorem closed_touchZone : Closed (touchZone sys s w h) := by
  refine Closed.when ?_
  dsimp only
  refine Closed.ite (Closed.append ?_ (closed_text sys _ _ _ _ _)) ?_
  · exact ⟨_, _, rfl, rfl⟩
  · exact ⟨_, _, rfl, rfl⟩

theorem closed_enemyAlert (count : Nat) (closest : F32) : Closed (enemyAlert sys f w count closest) := by
  refine Closed.when (Closed.ite ?_ ?_)
  · exact Closed.append ⟨_, _, rfl, rfl⟩ (closed_text sys _ _ _ _ _)
  · exact Closed.append ⟨_, _, rfl, rfl⟩ (closed_text sys _ _ _ _ _)

theorem closed_blindspotWarning (p : RadarPlayer) : Closed (blindspotWarning sys s w h p) := by
  have warning : ∀ (red green blue alpha : D) (x y rw' rh : D) (text : Str) (tx ty : D),
      Closed ([fillOf red green blue alpha, fillRect x y rw' rh] ++ sys.drawTextCentered text tx ty .bold .red) := by
    intro red green blue alpha x y rw' rh text tx ty
    exact Closed.append ⟨_, _, rfl, rfl⟩ (closed_text sys _ _ _ _ _)
  refine Closed.ite closed_nil (Closed.ite closed_nil (Closed.when ?_))
  exact Closed.ite (warning _ _ _ _ _ _ _ _ _ _ _)
    (Closed.ite (warning _ _ _ _ _ _ _ _ _ _ _) (Closed.when (warning _ _ _ _ _ _ _ _ _ _ _)))

theorem closed_soundWave (p : RadarPlayer) : Closed (soundWave sys s w h p) := Closed.ite closed_nil ⟨_, _, rfl, rfl⟩

theorem closed_itemWarning (it : RadarItem) : Closed (itemWarning sys f i s w h it) := by
  rw [itemWarning]
  split
  · exact closed_nil
  · refine Closed.append (Closed.when ?_) (Closed.when ?_)
    · exact Closed.append ⟨_, _, rfl, rfl⟩ (closed_text sys _ _ _ _ _)
    · exact Closed.append ⟨_, _, rfl, rfl⟩ (closed_text sys _ _ _ _ _)

theorem closed_evadeAlert (closest : F32) : Closed (evadeAlert sys f w h closest) :=
  Closed.when (Closed.append ⟨_, _, rfl, rfl⟩ (closed_text sys _ _ _ _ _))

/-! ### The players -/

/-- Somebody who is alive, and no teammate unless teammates are shown. -/
def shown (p : RadarPlayer) : Bool := p.healthStatus ≠ 2 && !(s.isTeammate p && !f.on .teammates)

/-- The players that something is drawn of. -/
def visible : List (RadarPlayer × Nat) := (players s).filter fun x => shown f s x.1

/-- The enemies that are alive, whether they are on the screen or not. -/
def enemies : List (RadarPlayer × Nat) := (players s).filter fun x => !s.passedOver x.1

def closer (closest : F32) (x : RadarPlayer × Nat) : F32 :=
  if F32.lt x.1.distance closest then x.1.distance else closest

omit [Double D] in
theorem passedOver_eq (p : RadarPlayer) : s.passedOver p = (decide (p.healthStatus = 2) || s.isTeammate p) := by
  simp [State.passedOver, State.isTeammate]

theorem foldl_playerTurn (l : PlayerLoop D) (xs : List (RadarPlayer × Nat)) :
    xs.foldl (playerTurn sys f i s w h) l =
      { calls := l.calls ++ (xs.filter fun x => shown f s x.1).flatMap fun x => player sys f i s w h x.2 x.1
        enemyCountNearby := l.enemyCountNearby + (xs.filter fun x => !s.passedOver x.1).length
        closestEnemyDist := (xs.filter fun x => !s.passedOver x.1).foldl closer l.closestEnemyDist } := by
  induction xs generalizing l with
  | nil => simp
  | cons x xs ih =>
    rw [List.foldl_cons, ih, playerTurn]
    by_cases hdead : x.1.healthStatus = 2
    · simp [hdead, shown, passedOver_eq]
    · cases hteam : s.isTeammate x.1 with
      | true =>
        cases hshow : f.on .teammates with
        | true => simp [hdead, hteam, hshow, shown, passedOver_eq]
        | false => simp [hdead, hteam, hshow, shown, passedOver_eq]
      | false => simp [hdead, hteam, shown, passedOver_eq, PlayerLoop.enemy, closer, Nat.add_assoc, Nat.add_comm 1]

theorem playerLoop_eq : playerLoop sys f i s w h =
    { calls := (visible f s).flatMap fun x => player sys f i s w h x.2 x.1
      enemyCountNearby := (enemies s).length
      closestEnemyDist := (enemies s).foldl closer 0x461c3c00 } := by
  rw [playerLoop, foldl_playerTurn]
  simp [visible, enemies]

/-! ### The picture -/

/-- What comes before the crosshair. -/
def beforeCrosshair : List (Draw D) :=
  (playerLoop sys f i s w h).calls ++ (vehicleMarkers sys f i s w h ++ itemMarkers sys f i s w h)

/-- What comes after it. -/
def afterCrosshair (count : Nat) (closest : F32) : List (Draw D) :=
  fovCircle sys f s w h ++ (touchZone sys s w h ++ (enemyAlert sys f w count closest ++ (blindspotAlert sys f s w h ++
    (soundRadar sys f s w h ++
      (itemWarnings sys f i s w h ++ (spectatorBadge sys f w ++ evadeAlert sys f w h closest))))))

theorem picture_eq : picture sys f i s w h = beforeCrosshair sys f i s w h ++ (crosshair f s w h ++
    afterCrosshair sys f i s w h (playerLoop sys f i s w h).enemyCountNearby
      (playerLoop sys f i s w h).closestEnemyDist) := by
  simp only [picture, afterPlayers, beforeCrosshair, afterCrosshair, List.append_assoc]

theorem closed_afterCrosshair (count : Nat) (closest : F32) : Closed (afterCrosshair sys f i s w h count closest) := by
  have hblind : Closed (blindspotAlert sys f s w h) :=
    Closed.when (Closed.flatMap fun x _ => closed_blindspotWarning sys s w h x.1)
  have hsound : Closed (soundRadar sys f s w h) :=
    Closed.when (Closed.flatMap fun x _ => closed_soundWave sys s w h x.1)
  have hitems : Closed (itemWarnings sys f i s w h) :=
    Closed.when (Closed.flatMap fun it _ => closed_itemWarning sys f i s w h it)
  have hbadge : Closed (spectatorBadge sys f w) := Closed.when (closed_text sys _ _ _ _ _)
  refine (closed_fovCircle sys f s w h).append ((closed_touchZone sys s w h).append ?_)
  refine (closed_enemyAlert sys f w count closest).append (hblind.append (hsound.append (hitems.append ?_)))
  exact hbadge.append (closed_evadeAlert sys f w h closest)

theorem closed_beforeCrosshair : Closed (beforeCrosshair sys f i s w h) := by
  rw [beforeCrosshair, playerLoop_eq]
  refine Closed.append (Closed.flatMap fun x _ => closed_player sys f i s w h x.2 x.1) (Closed.append ?_ ?_)
  · exact Closed.when (Closed.flatMap fun v _ => closed_vehicleMarker sys f i s w h v)
  · exact Closed.when (Closed.flatMap fun it _ => closed_itemMarker sys f i s w h it)

/-- The dot of the crosshair is filled in the colour that is left. -/
theorem run_crosshair (hon : f.on .crosshair = true) (c : Canvas (D × D × D × D) D (PathPart D)) (hpath : c.path = []) :
    (c.fill = none → c.run ((crosshair f s w h).map call) = none) ∧
      ∀ colour, c.fill = some colour →
        ∃ e marks, c.run ((crosshair f s w h).map call) = some (e, marks) ∧ e.path = [] := by
  obtain ⟨fill, stroke, width, path⟩ := c
  obtain rfl : path = [] := hpath
  rw [crosshair, if_pos hon]
  refine ⟨?_, ?_⟩
  · rintro rfl
    rfl
  · rintro colour rfl
    exact ⟨_, _, rfl, rfl⟩

/-- The fill colour that is left when the crosshair is drawn, if one was set since the last text. -/
def leftFill : Option (D × D × D × D) :=
  (Canvas.blank.run ((beforeCrosshair sys f i s w h).map call)).bind fun r => r.1.fill

/-- The picture is a drawing, unless the dot of its crosshair has to be filled in a colour of nobody's. -/
theorem picture_closed_iff : Closed (picture sys f i s w h) ↔
    (f.on .crosshair = true → (leftFill sys f i s w h).isSome = true) := by
  obtain ⟨marks, c, hrun, hpath⟩ := closed_beforeCrosshair sys f i s w h
  obtain ⟨drawn, hafter⟩ := closed_afterCrosshair sys f i s w h (playerLoop sys f i s w h).enemyCountNearby
    (playerLoop sys f i s w h).closestEnemyDist
  rw [leftFill, hrun, Option.bind_some, picture_eq, Closed, List.map_append, List.map_append, Canvas.Drawing]
  simp only [Canvas.Draws, Canvas.run_append hrun]
  by_cases hon : f.on .crosshair = true
  · obtain ⟨hnone, hsome⟩ := run_crosshair f s w h hon c hpath
    cases hfill : c.fill with
    | none =>
      refine iff_of_false ?_ fun hleft => Bool.false_ne_true (hleft hon)
      rintro ⟨_, e, he, -⟩
      rw [Canvas.run_append_none (hnone hfill)] at he
      cases he
    | some colour =>
      refine iff_of_true ?_ fun _ => rfl
      obtain ⟨e, crossed, hcross, hpath'⟩ := hsome colour hfill
      obtain ⟨e', he', hpath''⟩ := hafter.run hpath'
      refine ⟨marks ++ (crossed ++ drawn), e', ?_, hpath''⟩
      rw [Canvas.run_append hcross, he']
      rfl
  · refine iff_of_true ?_ fun hon' => absurd hon' hon
    obtain ⟨e, he, hpath'⟩ := hafter.run hpath
    have hoff : crosshair f s w h = [] := if_neg hon
    refine ⟨marks ++ drawn, e, ?_, hpath'⟩
    rw [hoff, List.map_nil, List.nil_append, he]
    rfl

/-! ### What the players leave -/

section Closest
variable {x : RadarPlayer × Nat} {closest limit : F32}

/-- A distance that is not a number is no distance at all. -/
theorem closer_lt (hclosest : F32.le closest closest = true) :
    F32.lt (closer closest x) limit = true ↔ F32.lt closest limit = true ∨ F32.lt x.1.distance limit = true := by
  rw [closer]
  simp only [F32.lt, F32.le, Format.lt, Format.le, Bool.and_eq_true, decide_eq_true_eq, Bool.not_eq_true'] at hclosest ⊢
  split
  · rename_i hlt
    refine ⟨Or.inr, fun h => h.elim (fun hclose => ?_) id⟩
    exact ⟨⟨hlt.1.1, hclose.1.2⟩, Int.lt_trans hlt.2 hclose.2⟩
  · rename_i hlt
    refine ⟨Or.inl, fun h => h.elim id fun hnear => ⟨⟨hclosest.1.1, hnear.1.2⟩, ?_⟩⟩
    refine Int.lt_of_le_of_lt (Int.not_lt.mp fun hrank => hlt ?_) hnear.2
    exact ⟨⟨hnear.1.1, hclosest.1.1⟩, hrank⟩

theorem le_closer (hclosest : F32.le closest closest = true) : F32.le (closer closest x) (closer closest x) = true := by
  rw [closer]
  split
  · rename_i hlt
    simp only [F32.lt, F32.le, Format.lt, Format.le, Bool.and_eq_true, decide_eq_true_eq] at hlt ⊢
    exact ⟨⟨hlt.1.1, hlt.1.1⟩, Int.le_refl _⟩
  · exact hclosest

theorem foldl_closer_lt (hclosest : F32.le closest closest = true) (xs : List (RadarPlayer × Nat)) :
    F32.lt (xs.foldl closer closest) limit = true ↔
      F32.lt closest limit = true ∨ ∃ x ∈ xs, F32.lt x.1.distance limit = true := by
  induction xs generalizing closest with
  | nil => simp
  | cons x xs ih =>
    rw [List.foldl_cons, ih (le_closer hclosest), closer_lt hclosest, or_assoc]
    simp

end Closest

/-- Of each visible player the picture has what is drawn of that player alone, and the alerts know the enemies. -/
theorem playerLoop_shows :
    Canvas.Draws ((playerLoop sys f i s w h).calls.map call)
        ((visible f s).flatMap fun x => Canvas.inked ((player sys f i s w h x.2 x.1).map call)) ∧
      (playerLoop sys f i s w h).enemyCountNearby = (enemies s).length ∧
      ∀ limit, F32.lt 0x461c3c00 limit = false → (F32.lt (playerLoop sys f i s w h).closestEnemyDist limit = true ↔
        ∃ x ∈ enemies s, F32.lt x.1.distance limit = true) := by
  rw [playerLoop_eq]
  refine ⟨?_, rfl, fun limit hlimit => ?_⟩
  · rw [List.map_flatMap]
    exact Canvas.Draws.flatMap fun x _ => (closed_player sys f i s w h x.2 x.1).draws
  · rw [foldl_closer_lt (by decide) (enemies s), hlimit]
    simp

/-! ### What leaves no trace -/

/-- The state with other players in its snapshot. -/
def withPlayers (ps : List RadarPlayer) : State D := { s with snapshot := { s.snapshot with players := ps } }

section Players
variable {f s} {ps : List RadarPlayer} (hvisible : visible f (withPlayers s ps) = visible f s)

omit [Double D] in
/-- An enemy who is alive is visible. -/
theorem enemies_eq : enemies s = (visible f s).filter fun x => !s.passedOver x.1 := by
  rw [visible, List.filter_filter, enemies]
  refine List.filter_congr fun x _ => ?_
  rw [passedOver_eq, shown]
  cases s.isTeammate x.1 <;> simp

include hvisible

omit [Double D] in
theorem enemies_withPlayers : enemies (withPlayers s ps) = enemies s := by
  rw [enemies_eq (f := f) (s := withPlayers s ps), hvisible, enemies_eq (f := f)]
  rfl

theorem playerLoop_withPlayers : playerLoop sys f i (withPlayers s ps) w h = playerLoop sys f i s w h := by
  rw [playerLoop_eq, playerLoop_eq, hvisible, enemies_withPlayers hvisible]
  rfl

omit [Double D] in
/-- A loop that draws of the living enemies only. -/
theorem flatMap_withPlayers {g : RadarPlayer → List (Draw D)} (hg : ∀ p, s.passedOver p = true → g p = []) :
    (players (withPlayers s ps)).flatMap (fun x => g x.1) = (players s).flatMap fun x => g x.1 := by
  have only : ∀ xs : List (RadarPlayer × Nat),
      xs.flatMap (fun x => g x.1) = (xs.filter fun x => !s.passedOver x.1).flatMap fun x => g x.1 := by
    intro xs
    induction xs with
    | nil => rfl
    | cons x xs ih =>
      cases hpassed : s.passedOver x.1 with
      | true => simp [hpassed, hg x.1 hpassed, ih]
      | false => simp [hpassed, ih]
  have hsame : (players (withPlayers s ps)).filter (fun x => !s.passedOver x.1) =
      (players s).filter fun x => !s.passedOver x.1 := enemies_withPlayers hvisible
  rw [only, only (players s), hsame]

/-- A dead player and a teammate that is not shown leave no trace: they may be left out, or be others, unless the circle
    of the aim follows the distance of one of them. -/
theorem picture_withPlayers (hlocked : s.settings.adaptiveFov = true → 0 ≤ s.sim.lockedPlayerIdx →
      ps[s.sim.lockedPlayerIdx.toNat]? = s.snapshot.players[s.sim.lockedPlayerIdx.toNat]?) :
    picture sys f i (withPlayers s ps) w h = picture sys f i s w h := by
  have hradius : (withPlayers s ps).aimFovRadius w h = s.aimFovRadius w h := by
    rw [State.aimFovRadius, State.aimFovRadius]
    by_cases hfollows : s.settings.adaptiveFov = true ∧ 0 ≤ s.sim.lockedPlayerIdx
    · have hfollows' : (withPlayers s ps).settings.adaptiveFov = true ∧ 0 ≤ (withPlayers s ps).sim.lockedPlayerIdx :=
        hfollows
      have hplayer : (withPlayers s ps).snapshot.players[(withPlayers s ps).sim.lockedPlayerIdx.toNat]? =
          s.snapshot.players[s.sim.lockedPlayerIdx.toNat]? := hlocked hfollows.1 hfollows.2
      rw [if_pos hfollows, if_pos hfollows', hplayer]
      rfl
    · have hfollows' : ¬((withPlayers s ps).settings.adaptiveFov = true ∧ 0 ≤ (withPlayers s ps).sim.lockedPlayerIdx) :=
        hfollows
      rw [if_neg hfollows, if_neg hfollows']
      rfl
  have hcircle : fovCircle sys f (withPlayers s ps) w h = fovCircle sys f s w h := by
    rw [fovCircle, fovCircle, hradius]
    rfl
  have hblind : blindspotAlert sys f (withPlayers s ps) w h = blindspotAlert sys f s w h := by
    rw [blindspotAlert, blindspotAlert]
    refine congrArg (fun l => if f.on .blindspotAlert = true then l else []) ?_
    exact flatMap_withPlayers hvisible (g := blindspotWarning sys s w h) fun p hp => by simp [blindspotWarning, hp]
  have hsound : soundRadar sys f (withPlayers s ps) w h = soundRadar sys f s w h := by
    rw [soundRadar, soundRadar]
    refine congrArg (fun l => if f.on .soundRadar = true then l else []) ?_
    exact flatMap_withPlayers hvisible (g := soundWave sys s w h) fun p hp => by simp [soundWave, hp]
  rw [picture, picture, playerLoop_withPlayers sys i w h hvisible, afterPlayers, afterPlayers, hcircle, hblind, hsound]
  rfl

end Players

/-! ### The two views -/

section Views
variable (i : Redraw D) (s : State D)

theorem acts_pushed {A : Type} (rt : PoolRuntime) : PoolCall.acts (rt.pushed (A := A)) = [] := by
  unfold PoolRuntime.pushed
  split <;> rfl

theorem acts_popped {A : Type} (rt : PoolRuntime) : PoolCall.acts (rt.popped (A := A)) = [] := by
  unfold PoolRuntime.popped
  split <;> rfl

/-- The view over the game has a fresh frame with a camera, a context, and an area to draw in. -/
def InView : Prop :=
  s.snapshot.header.cameraValid = true ∧ s.snapshot.header.status = 2 ∧ ¬(2.0 : D) < i.now - s.changedAt ∧
    i.context = true ∧ ¬((s.espArea i).1 ≤ (10.0 : D) ∨ (s.espArea i).2 ≤ (10.0 : D))

/-- `esp_drawRect` draws the picture of its area, or nothing. -/
theorem acts_espDraw :
    (InView i s → PoolCall.acts (s.espDraw sys f i) = picture sys f i s (s.espArea i).1 (s.espArea i).2) ∧
      (¬InView i s → PoolCall.acts (s.espDraw sys f i) = []) := by
  unfold State.espDraw State.espDrawRect
  constructor
  · rintro ⟨hcamera, hstatus, hfresh, hcontext, harea⟩
    simp only [hcamera, hstatus, hfresh, hcontext, harea, Bool.not_true, ne_eq, not_true_eq_false,
      decide_false, Bool.or_false, Bool.false_eq_true, if_false, PoolCall.acts_append, PoolCall.acts_map,
      acts_pushed, acts_popped, List.nil_append, List.append_nil]
  · intro hno
    split
    · rfl
    split
    · rfl
    rename_i hheader hstale
    rw [PoolCall.acts_append, acts_pushed, List.nil_append]
    split
    · exact acts_popped i.pools
    rename_i hcontext
    dsimp only
    split
    · exact acts_popped i.pools
    · rename_i harea
      simp only [Bool.or_eq_true, Bool.not_eq_true', decide_eq_true_eq, not_or, not_not,
        Bool.not_eq_false] at hheader hcontext
      exact absurd ⟨hheader.1, hheader.2, hstale, hcontext, harea⟩ hno

/-- `esp_drawRect` leaves no pool behind, and `radar_drawRect` none when the radar is switched off, has no context or
    shows a fresh frame. -/
theorem views_balanced (ar : Arith) (h : Pools.Available i.pools) : PoolCall.Balanced (s.espDraw sys f i) ∧
    (PoolCall.Balanced (s.radarDraw ar f i) ↔ (f.on .radar = true → i.context = true → Pools.Fresh i s)) := by
  refine ⟨Pools.esp_balanced s _ h, (Pools.radar_balanced_iff ar h).trans ?_⟩
  simp only [Pools.Leaks, Features.drawSettings, not_and, not_not]

end Views

end

section Witness
attribute [local instance] Touch.exact

def plainSystem : DrawSystem Rat where
  arith := Touch.exactArith
  atan2f y _ := y
  fixed _ := lit "0"
  decodes _ := true
  sizeWithAttributes _ _ := ⟨0, 0⟩
  stack _ := ⟨0, 0⟩

def plainRedraw : Redraw Rat := ⟨1, ⟨some 16, true⟩, true, ⟨812, 375⟩, some ⟨812, 375⟩⟩

def fallen : RadarPlayer := { Touch.enemy with healthStatus := 2 }

theorem picture_withPlayers_fallen :
    picture plainSystem Features.initial plainRedraw
        (withPlayers (withPlayers Touch.started [Touch.enemy, fallen]) [Touch.enemy]) 812 375 =
      picture plainSystem Features.initial plainRedraw (withPlayers Touch.started [Touch.enemy, fallen]) 812 375 :=
  picture_withPlayers plainSystem plainRedraw 812 375 rfl fun _ h => absurd h (by decide)

end Witness

end Picture
end RadarAim.Overlay
