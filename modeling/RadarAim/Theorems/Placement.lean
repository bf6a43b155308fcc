import RadarAim.Theorems.Controls

/-! The windows of the controls over whole runs: they are where the variables say, the two buttons stay on the screen,
    and the aim engine makes the runs under the controls that it makes by itself. -/

namespace RadarAim.Overlay
namespace Controls
open Ieee

variable {D : Type} [Double D] {ar : Arith} {c : Controls D}

/-! ### Where the windows are -/

/-- The rectangle of a button of the width and height `size` is in the area. It is at the edge of an area that has no
    room for it. -/
structure Inside (area : CGSize D) (size : D) (r : CGRect D) : Prop where
  extent : r.size = ⟨size, size⟩
  left : ¬r.origin.x < controlEdge
  right : controlEdge < r.origin.x → ¬area.width - size - controlEdge < r.origin.x
  top : ¬r.origin.y < controlEdge
  bottom : controlEdge < r.origin.y → ¬area.height - size - controlEdge < r.origin.y

/-- The windows are where the variables say. The size of a portrait scene may be an older one. -/
structure Placed (c : Controls D) : Prop where
  button : ∃ r, r.size = ⟨48.0, 48.0⟩ ∧ c.buttonRect = clampRect c.state.controlArea 48.0 r
  aim : ∃ r, r.size = ⟨56.0, 56.0⟩ ∧ c.aimRect = clampRect c.state.controlArea 56.0 r
  menu : c.menuRect = menuRectFor c.state.controlArea
  windows : ∃ scene : Scene D, scene.isPortrait = c.scene.isPortrait ∧
    c.buttonWindow.layout = applyControlWindow scene c.state.currentOrientation true true c.buttonRect 1.0 ∧
    c.aimWindow.layout = applyControlWindow scene c.state.currentOrientation true true c.aimRect 1.0 ∧
    c.menuWindow.layout = applyControlWindow scene c.state.currentOrientation true true c.menuRect
      (menuScale c.state.controlArea)
  portrait : c.scene.isPortrait = c.state.lastScenePortrait
  orientation : c.state.frameCounter = 0 ∨ c.state.currentOrientation = c.state.lastOrientation

/-- What the windows are laid out for. -/
structure SameLayout (s t : State D) : Prop where
  screenW : t.screenW = s.screenW
  screenH : t.screenH = s.screenH
  currentOrientation : t.currentOrientation = s.currentOrientation
  lastOrientation : t.lastOrientation = s.lastOrientation
  lastScenePortrait : t.lastScenePortrait = s.lastScenePortrait

omit [Double D] in
theorem SameLayout.trans {s t u : State D} (h : SameLayout s t) (h' : SameLayout t u) : SameLayout s u :=
  ⟨h'.screenW.trans h.screenW, h'.screenH.trans h.screenH, h'.currentOrientation.trans h.currentOrientation,
    h'.lastOrientation.trans h.lastOrientation, h'.lastScenePortrait.trans h.lastScenePortrait⟩

theorem SameLayout.controlArea {s t : State D} (h : SameLayout s t) : t.controlArea = s.controlArea := by
  rw [State.controlArea, State.controlArea, h.screenW, h.screenH]

/-- The variables of the windows, and where the system has them. -/
structure SamePlaces (c c' : Controls D) : Prop where
  scene : c'.scene = c.scene
  buttonRect : c'.buttonRect = c.buttonRect
  aimRect : c'.aimRect = c.aimRect
  menuRect : c'.menuRect = c.menuRect
  buttonLayout : c'.buttonWindow.layout = c.buttonWindow.layout
  aimLayout : c'.aimWindow.layout = c.aimWindow.layout
  menuLayout : c'.menuWindow.layout = c.menuWindow.layout

section Placed

theorem Placed.of_same (h : Placed c) {c' : Controls D} (hplaces : SamePlaces c c')
    (hstate : SameLayout c.state c'.state) (hframes : c'.state.frameCounter = c.state.frameCounter) : Placed c' := by
  refine ⟨?_, ?_, ?_, ?_, ?_, ?_⟩
  · rw [hplaces.buttonRect, hstate.controlArea]
    exact h.button
  · rw [hplaces.aimRect, hstate.controlArea]
    exact h.aim
  · rw [hplaces.menuRect, hstate.controlArea]
    exact h.menu
  · rw [hplaces.buttonRect, hplaces.aimRect, hplaces.menuRect, hplaces.buttonLayout, hplaces.aimLayout,
      hplaces.menuLayout, hplaces.scene, hstate.controlArea, hstate.currentOrientation]
    exact h.windows
  · rw [hplaces.scene, hstate.lastScenePortrait]
    exact h.portrait
  · rw [hframes, hstate.currentOrientation, hstate.lastOrientation]
    exact h.orientation

/-- The rectangles of the two buttons are as large as they were made. -/
structure Sized (c : Controls D) : Prop where
  button : c.buttonRect.size = ⟨48.0, 48.0⟩
  aim : c.aimRect.size = ⟨56.0, 56.0⟩

theorem Placed.sized (h : Placed c) : Sized c := by
  obtain ⟨r, hr, hbutton⟩ := h.button
  obtain ⟨q, hq, haim⟩ := h.aim
  exact ⟨by rw [hbutton]; exact hr, by rw [haim]; exact hq⟩

theorem placed_layoutControls (hsized : Sized c) (hportrait : c.scene.isPortrait = c.state.lastScenePortrait)
    (horientation : c.state.frameCounter = 0 ∨ c.state.currentOrientation = c.state.lastOrientation) :
    Placed c.layoutControls where
  button := ⟨c.buttonRect, hsized.button, rfl⟩
  aim := ⟨c.aimRect, hsized.aim, rfl⟩
  menu := rfl
  windows := ⟨c.scene, rfl, rfl, rfl, rfl⟩
  portrait := hportrait
  orientation := horientation

theorem Placed.layoutControls (h : Placed c) : Placed c.layoutControls :=
  placed_layoutControls h.sized h.portrait h.orientation

theorem Placed.toggleMenu (h : Placed c) : Placed c.toggleMenu := by
  have hclosed : Placed { c with state := c.state.toggleMenu } :=
    h.of_same ⟨rfl, rfl, rfl, rfl, rfl, rfl, rfl⟩ ⟨rfl, rfl, rfl, rfl, rfl⟩ rfl
  have hlaid := hclosed.layoutControls
  rw [Controls.toggleMenu]
  dsimp only
  split
  · exact hlaid.of_same ⟨rfl, rfl, rfl, rfl, rfl, rfl, rfl⟩ ⟨rfl, rfl, rfl, rfl, rfl⟩ rfl
  · exact hlaid.of_same ⟨rfl, rfl, rfl, rfl, rfl, rfl, rfl⟩ ⟨rfl, rfl, rfl, rfl, rfl⟩ rfl

theorem Placed.actionCloseMenu (h : Placed c) : Placed c.actionCloseMenu := by
  rw [Controls.actionCloseMenu]
  split
  · exact h.toggleMenu
  · exact h

theorem Placed.btnTouchesMoved (h : Placed c) (touch : Option (CGPoint D)) : Placed (c.btnTouchesMoved touch) := by
  cases touch with
  | none => exact h
  | some cur =>
    rw [Controls.btnTouchesMoved]
    split
    · exact placed_layoutControls ⟨h.sized.button, h.sized.aim⟩ h.portrait h.orientation
    · exact h

theorem Placed.aimTouchesMoved (h : Placed c) (touch : Option (CGPoint D)) : Placed (c.aimTouchesMoved touch) := by
  cases touch with
  | none => exact h
  | some cur =>
    rw [Controls.aimTouchesMoved]
    dsimp only
    split
    · exact placed_layoutControls ⟨h.sized.button, h.sized.aim⟩ h.portrait h.orientation
    · exact h.of_same ⟨rfl, rfl, rfl, rfl, rfl, rfl, rfl⟩ ⟨rfl, rfl, rfl, rfl, rfl⟩ rfl

/-! ### The tick -/

omit [Double D] in
theorem sameLayout_readState (answers : Nat → Handler Kernel) (i : TickInput D) (s : State D) :
    SameLayout s (readState answers i s) ∧ (readState answers i s).frameCounter = s.frameCounter + 1 := by
  have note : ∀ (readAt : D) (s : State D), SameLayout s (s.noteTick readAt) ∧
      (s.noteTick readAt).frameCounter = s.frameCounter := by
    intro readAt s
    rw [State.noteTick]
    split
    · exact ⟨⟨rfl, rfl, rfl, rfl, rfl⟩, rfl⟩
    · exact ⟨⟨rfl, rfl, rfl, rfl, rfl⟩, rfl⟩
  have accept : ∀ (snapshot : Option RadarFrame) (s : State D), SameLayout s (s.accept i.readAt snapshot) ∧
      (s.accept i.readAt snapshot).frameCounter = s.frameCounter := by
    intro snapshot s
    cases snapshot with
    | none => exact ⟨⟨rfl, rfl, rfl, rfl, rfl⟩, rfl⟩
    | some f =>
      obtain ⟨hsame, hframes⟩ := note i.readAt { s with snapshot := f, stopped := false }
      exact ⟨⟨hsame.screenW, hsame.screenH, hsame.currentOrientation, hsame.lastOrientation,
        hsame.lastScenePortrait⟩, hframes⟩
  let r := (((readSharedMemory (s.frameCounter + 1)).run s.shm).eval answers 0).1
  obtain ⟨hsame, hframes⟩ := accept r.1 { s with frameCounter := s.frameCounter + 1, shm := r.2 }
  exact ⟨⟨hsame.screenW, hsame.screenH, hsame.currentOrientation, hsame.lastOrientation, hsame.lastScenePortrait⟩,
    hframes⟩

omit [Double D] in
theorem samePlaces_readPart (answers : Nat → Handler Kernel) (i : TickInput D) :
    SamePlaces c (c.readPart answers i) := by
  rw [Controls.readPart]
  dsimp only
  split
  · rw [showWindows]
    dsimp only
    split
    · exact ⟨rfl, rfl, rfl, rfl, rfl, rfl, rfl⟩
    · exact ⟨rfl, rfl, rfl, rfl, rfl, rfl, rfl⟩
  · exact ⟨rfl, rfl, rfl, rfl, rfl, rfl, rfl⟩

/-- What is not laid out again was laid out for the same orientation, the same sizes and the same kind of scene. -/
structure StaysLaid (i : TickInput D) (s : State D) : Prop where
  currentOrientation : (s.layoutScreen i).currentOrientation = s.lastOrientation
  lastOrientation : (s.layoutScreen i).lastOrientation = s.lastOrientation
  screenW : (s.layoutScreen i).screenW = s.screenW
  screenH : (s.layoutScreen i).screenH = s.screenH
  lastScenePortrait : (s.layoutScreen i).lastScenePortrait = s.lastScenePortrait
  frameCounter : (s.layoutScreen i).frameCounter = s.frameCounter
  portrait : i.sceneIsPortrait = s.lastScenePortrait
  first : s.frameCounter ≠ 1

theorem staysLaid {i : TickInput D} {s : State D} (h : relaid i s = false) : StaysLaid i s := by
  obtain ⟨hbounds, hframe⟩ := not_or.mp (of_decide_eq_false h)
  have hsame := of_decide_eq_false (Bool.eq_false_iff.mpr hbounds)
  simp only [not_or, ne_eq, not_not] at hsame
  obtain ⟨-, -, horientation, hportrait⟩ := hsame
  have hkept : s.layoutScreen i = { s with
      currentOrientation := orientationFor i s.snapshot.header.status s.settings.orientationOverride } := by
    rw [State.layoutScreen]
    exact if_neg (not_or.mpr ⟨hbounds, hframe⟩)
  refine ⟨?_, ?_, ?_, ?_, ?_, ?_, hportrait, ?_⟩
  · rw [hkept]
    exact horientation
  · rw [hkept]
  · rw [hkept]
  · rw [hkept]
  · rw [hkept]
  · rw [hkept]
  · intro hone
    exact hframe (by rw [hone])

/-- What is laid out again is laid out for what `timer_tick` has found. -/
theorem layoutScreen_of_relaid {i : TickInput D} {s : State D} (h : relaid i s = true) :
    (s.layoutScreen i).lastOrientation = (s.layoutScreen i).currentOrientation ∧
      (s.layoutScreen i).lastScenePortrait = i.sceneIsPortrait := by
  rw [State.layoutScreen, if_pos (of_decide_eq_true h)]
  exact ⟨rfl, rfl⟩

theorem Placed.layoutPart (h : Placed c) {c' : Controls D} (hplaces : SamePlaces c c')
    (hstate : SameLayout c.state c'.state) (hframes : c'.state.frameCounter = c.state.frameCounter + 1)
    {scene : Scene D} {i : TickInput D} (hscene : i.sceneIsPortrait = scene.isPortrait) :
    Placed (c'.layoutPart scene i) := by
  rw [Controls.layoutPart]
  cases hrelaid : relaid i c'.state with
  | true =>
    -- The windows are laid out anew, inside the area.
    obtain ⟨horientation, hportrait⟩ := layoutScreen_of_relaid hrelaid
    have hsized : Sized { c' with scene, state := c'.state.layoutScreen i } :=
      ⟨by rw [hplaces.buttonRect]; exact h.sized.button, by rw [hplaces.aimRect]; exact h.sized.aim⟩
    exact placed_layoutControls hsized (hscene.symm.trans hportrait.symm) (Or.inr horientation.symm)
  | false =>
    -- Nothing was laid out, so the screen and its orientation are as they were.
    have hlaid := staysLaid hrelaid
    have hold : c.state.currentOrientation = c.state.lastOrientation := by
      refine h.orientation.resolve_left fun hzero => hlaid.first ?_
      rw [hframes, hzero]
    have horientation : (c'.state.layoutScreen i).currentOrientation = c.state.currentOrientation :=
      hlaid.currentOrientation.trans (hstate.lastOrientation.trans hold.symm)
    have harea : (c'.state.layoutScreen i).controlArea = c.state.controlArea := by
      rw [← hstate.controlArea, State.controlArea, State.controlArea, hlaid.screenW, hlaid.screenH]
    have hportrait : scene.isPortrait = c.scene.isPortrait := by
      rw [h.portrait, ← hstate.lastScenePortrait, ← hscene, hlaid.portrait]
    obtain ⟨laid, hlaidScene, hlayouts⟩ := h.windows
    rw [if_neg Bool.false_ne_true]
    refine ⟨?_, ?_, ?_, ⟨laid, hlaidScene.trans hportrait.symm, ?_⟩, ?_, Or.inr ?_⟩
    · rw [harea, hplaces.buttonRect]
      exact h.button
    · rw [harea, hplaces.aimRect]
      exact h.aim
    · rw [harea, hplaces.menuRect]
      exact h.menu
    · rw [harea, horientation, hplaces.buttonRect, hplaces.aimRect, hplaces.menuRect, hplaces.buttonLayout,
        hplaces.aimLayout, hplaces.menuLayout]
      exact hlayouts
    · exact hscene.symm.trans (hlaid.portrait.trans hlaid.lastScenePortrait.symm)
    · exact hlaid.currentOrientation.trans hlaid.lastOrientation.symm

/-- The engine moves nothing but the finger. -/
theorem sameLayout_aimEngine (i : TickInput D) (s : State D) :
    SameLayout s (s.aimEngine ar i) ∧ (s.aimEngine ar i).frameCounter = s.frameCounter := by
  rw [State.aimEngine]
  split
  · exact ⟨⟨rfl, rfl, rfl, rfl, rfl⟩, rfl⟩
  · exact ⟨⟨rfl, rfl, rfl, rfl, rfl⟩, rfl⟩

theorem Placed.timerTick (h : Placed c) (answers : Nat → Handler Kernel) (i : TickInput D)
    (sceneBounds : Option (CGSize D)) : Placed (c.timerTick ar answers i sceneBounds) := by
  obtain ⟨hstate, hframes⟩ := sameLayout_readState answers (inputFor i sceneBounds) c.state
  rw [← state_readPart] at hstate hframes
  have hlaid : Placed ((c.readPart answers (inputFor i sceneBounds)).layoutPart (sceneFor i sceneBounds)
      (inputFor i sceneBounds)) := h.layoutPart (samePlaces_readPart answers _) hstate hframes rfl
  exact hlaid.of_same ⟨rfl, rfl, rfl, rfl, rfl, rfl, rfl⟩ (sameLayout_aimEngine _ _).1 (sameLayout_aimEngine _ _).2

theorem Placed.step (h : Placed c) (e : ControlEvent D) : Placed (c.step ar e) := by
  have keep : ∀ {c' : Controls D}, SamePlaces c c' → SameLayout c.state c'.state →
      c'.state.frameCounter = c.state.frameCounter → Placed c' := h.of_same
  cases e with
  | tick answers i sceneBounds => exact h.timerTick answers i sceneBounds
  | btnTouchesBegan touch | aimTouchesBegan touch =>
    cases touch with
    | none => exact h
    | some p => exact keep ⟨rfl, rfl, rfl, rfl, rfl, rfl, rfl⟩ ⟨rfl, rfl, rfl, rfl, rfl⟩ rfl
  | btnTouchesMoved touch => exact h.btnTouchesMoved touch
  | btnTouchesEnded =>
    have hended : Placed (if c.isDragging then c else c.toggleMenu) := by
      split
      · exact h
      · exact h.toggleMenu
    exact hended.of_same ⟨rfl, rfl, rfl, rfl, rfl, rfl, rfl⟩ ⟨rfl, rfl, rfl, rfl, rfl⟩ rfl
  | aimTouchesMoved touch => exact h.aimTouchesMoved touch
  | btnTouchesCancelled | aimTouchesEnded | aimTouchesCancelled | toggle m =>
    exact keep ⟨rfl, rfl, rfl, rfl, rfl, rfl, rfl⟩ ⟨rfl, rfl, rfl, rfl, rfl⟩ rfl
  | closeMenu => exact h.actionCloseMenu
  | stopRadar =>
    have hstopped : Placed { c with state := { c.state with shm := c.state.shm.stop, stopped := true } } :=
      keep ⟨rfl, rfl, rfl, rfl, rfl, rfl, rfl⟩ ⟨rfl, rfl, rfl, rfl, rfl⟩ rfl
    exact hstopped.actionCloseMenu
  | toggleMenu => exact h.toggleMenu

theorem Placed.run (h : Placed c) (es : List (ControlEvent D)) : Placed (c.run ar es) := by
  induction es generalizing c with
  | nil => exact h
  | cons e es ih => exact ih (h.step e)

theorem Placed.updateMenuButtons (h : Placed c) : Placed c.updateMenuButtons :=
  h.of_same ⟨rfl, rfl, rfl, rfl, rfl, rfl, rfl⟩ ⟨rfl, rfl, rfl, rfl, rfl⟩ rfl

theorem Placed.withFeatures (h : Placed c) (features : Features) : Placed { c with features } :=
  h.of_same ⟨rfl, rfl, rfl, rfl, rfl, rfl, rfl⟩ ⟨rfl, rfl, rfl, rfl, rfl⟩ rfl

theorem Placed.withSettings (h : Placed c) (settings : Settings) :
    Placed { c with state := { c.state with settings } } :=
  h.of_same ⟨rfl, rfl, rfl, rfl, rfl, rfl, rfl⟩ ⟨rfl, rfl, rfl, rfl, rfl⟩ rfl

theorem Placed.actionToggle (h : Placed c) (m : MenuButton) : Placed (c.actionToggle m) :=
  ((h.withSettings _).withFeatures _).updateMenuButtons

theorem Placed.selftest (h : Placed c) : Placed c.selftest := by
  have hradar := (h.toggleMenu.actionToggle (.feature .radar)).withFeatures
    { (c.toggleMenu.actionToggle (.feature .radar)).features with
      on := fun x => if x = Feature.radar then c.features.on .radar
        else (c.toggleMenu.actionToggle (.feature .radar)).features.on x }
  have haim := (hradar.actionToggle .touchAim).withSettings
  have hlead := fun settings => ((haim settings).actionToggle .leadPred).withSettings
  exact ((hlead _ _).updateMenuButtons.actionCloseMenu).actionCloseMenu

theorem placed_initOverlay (files : Files) (answers : Nat → Handler Kernel) (mainScreen : CGSize D) :
    Placed (initOverlay (start files answers) mainScreen) := by
  have hstart : (start files answers : State D).frameCounter = 0 ∧
      (start files answers : State D).lastScenePortrait = false := by
    rw [start, State.initOverlay, Prog.eval_bind]
    exact ⟨rfl, rfl⟩
  have hmade : Placed (made (start files answers) mainScreen).layoutControls :=
    placed_layoutControls ⟨rfl, rfl⟩ hstart.2.symm (Or.inl hstart.1)
  have hshown :
      Placed { (made (start files answers) mainScreen).layoutControls.updateMenuButtons with window := false } :=
    hmade.updateMenuButtons.of_same ⟨rfl, rfl, rfl, rfl, rfl, rfl, rfl⟩ ⟨rfl, rfl, rfl, rfl, rfl⟩ rfl
  exact hshown.selftest

end Placed

theorem inside_clampRect (hmin : Double.Extremes D) (area : CGSize D) (size : D) {r : CGRect D}
    (hr : r.size = ⟨size, size⟩) : Inside area size (clampRect area size r) := by
  obtain ⟨hleft, hright⟩ := hmin.clamp controlEdge r.origin.x (area.width - size - controlEdge)
  obtain ⟨htop, hbottom⟩ := hmin.clamp controlEdge r.origin.y (area.height - size - controlEdge)
  exact ⟨hr, hleft, hright, htop, hbottom⟩

/-- The windows are always where the variables say, and the two buttons on the screen. -/
theorem run_placed (ar : Arith) (files : Files) (answers : Nat → Handler Kernel) (mainScreen : CGSize D)
    (es : List (ControlEvent D)) (hmin : Double.Extremes D) :
    Placed ((initOverlay (start files answers) mainScreen).run ar es) ∧
    Inside ((initOverlay (start files answers) mainScreen).run ar es).state.controlArea 48.0
      ((initOverlay (start files answers) mainScreen).run ar es).buttonRect ∧
    Inside ((initOverlay (start files answers) mainScreen).run ar es).state.controlArea 56.0
      ((initOverlay (start files answers) mainScreen).run ar es).aimRect := by
  have hplaced : Placed ((initOverlay (start files answers) mainScreen).run ar es) :=
    (placed_initOverlay files answers mainScreen).run es
  obtain ⟨r, hr, hbutton⟩ := hplaced.button
  obtain ⟨q, hq, haim⟩ := hplaced.aim
  refine ⟨hplaced, ?_, ?_⟩
  · rw [hbutton]
    exact inside_clampRect hmin _ _ hr
  · rw [haim]
    exact inside_clampRect hmin _ _ hq

/-! ### The run of the aim engine -/

/-- The same state on a screen of another size. -/
def onScreen (w h : D) (s : State D) : State D := { s with screenW := w, screenH := h }

/-- What a step is to the aim engine. -/
inductive EngineStep (ar : Arith) (s : State D) : State D → Prop
  | none : EngineStep ar s s
  | callback (e : Callback D) : EngineStep ar s (s.callback e)
  | tick (answers : Nat → Handler Kernel) (i : TickInput D) : EngineStep ar s (tickOf ar answers i s).finish

theorem engineStep_toggleMenu : EngineStep ar c.state c.toggleMenu.state := by
  rw [state_toggleMenu]
  exact .callback .toggleMenu

theorem engineStep_actionCloseMenu : EngineStep ar c.state c.actionCloseMenu.state := by
  rw [actionCloseMenu]
  split
  · exact engineStep_toggleMenu
  · exact .none

theorem engineStep_step (e : ControlEvent D) : EngineStep ar c.state (c.step ar e).state := by
  cases e with
  | tick answers i sceneBounds =>
    rw [step, state_timerTick_eq]
    exact .tick answers _
  | btnTouchesBegan touch =>
    cases touch with
    | none | some p => exact .none
  | btnTouchesMoved touch =>
    cases touch with
    | none => exact .none
    | some cur =>
      rw [step, btnTouchesMoved]
      split
      · exact .none
      · exact .none
  | btnTouchesEnded =>
    -- Only a touch that was no drag opens or closes the menu.
    have hended : EngineStep ar c.state (if c.isDragging then c else c.toggleMenu).state := by
      split
      · exact .none
      · exact engineStep_toggleMenu
    exact hended
  | btnTouchesCancelled => exact .none
  | aimTouchesBegan touch =>
    cases touch with
    | none => exact .none
    | some p => exact .callback (.aimTouchesBegan (some p))
  | aimTouchesMoved touch =>
    cases touch with
    | none => exact .none
    | some cur =>
      rw [step, aimTouchesMoved]
      dsimp only
      split
      · exact .callback (.aimTouchesMoved (some cur))
      · exact .callback (.aimTouchesMoved (some cur))
  | aimTouchesEnded | aimTouchesCancelled => exact .callback .aimTouchesEnded
  | toggle m => exact .callback (.toggle m.aimPart)
  | closeMenu => exact engineStep_actionCloseMenu
  | stopRadar =>
    rw [step, actionStopRadar, state_actionCloseMenu]
    exact .callback .stopRadar
  | toggleMenu => exact engineStep_toggleMenu

theorem EngineStep.run {s t : State D} {ticks : List (Tick D)} (h : EngineStep ar s t) (hs : Run ar ticks s) :
    ∃ ticks', Run ar ticks' t := by
  cases h with
  | none => exact ⟨ticks, hs⟩
  | callback e => exact ⟨ticks, hs.callback e⟩
  | tick answers i => exact ⟨_, hs.tick answers i⟩

section First
variable {w h : D} {s : State D}

theorem callback_onScreen (e : Callback D) : (onScreen w h s).callback e = onScreen w h (s.callback e) := by
  cases e with
  | aimTouchesBegan touch | aimTouchesMoved touch =>
    cases touch with
    | none | some p => rfl
  | _ => rfl

omit [Double D] in
theorem accept_onScreen (readAt : D) (snapshot : Option RadarFrame) :
    (onScreen w h s).accept readAt snapshot = onScreen w h (s.accept readAt snapshot) := by
  have note : ∀ s : State D, (onScreen w h s).noteTick readAt = onScreen w h (s.noteTick readAt) := by
    intro s
    rw [State.noteTick, State.noteTick]
    by_cases hsame : s.snapshot.header.tick = s.lastTick
    · have hsame' : (onScreen w h s).snapshot.header.tick = (onScreen w h s).lastTick := hsame
      rw [if_pos hsame, if_pos hsame']
    · have hsame' : ¬(onScreen w h s).snapshot.header.tick = (onScreen w h s).lastTick := hsame
      rw [if_neg hsame, if_neg hsame']
      rfl
  cases snapshot with
  | none => rfl
  | some f => exact note { s with snapshot := f, stopped := false }

omit [Double D] in
theorem readState_onScreen (answers : Nat → Handler Kernel) (i : TickInput D) :
    readState answers i (onScreen w h s) = onScreen w h (readState answers i s) := by
  let r := (((readSharedMemory (s.frameCounter + 1)).run s.shm).eval answers 0).1
  exact accept_onScreen (s := { s with frameCounter := s.frameCounter + 1, shm := r.2 }) i.readAt r.1

/-- The first tick lays everything out, for a screen of whatever size. -/
theorem tick_onScreen (answers : Nat → Handler Kernel) (i : TickInput D) (hfirst : s.frameCounter = 0) :
    (tickOf ar answers i (onScreen w h s)).finish = (tickOf ar answers i s).finish := by
  have gate : ∀ s : State D, (tickOf ar answers i s).gate = (readState answers i s).layoutScreen i :=
    gate_tickOf ar answers i
  have hcount : (readState answers i s).frameCounter = 1 := by
    rw [(sameLayout_readState answers i s).2, hfirst]
  have hlaid : (onScreen w h (readState answers i s)).layoutScreen i = (readState answers i s).layoutScreen i := by
    have hframe : (readState answers i s).frameCounter % 20 = 1 := by rw [hcount]
    have hframe' : (onScreen w h (readState answers i s)).frameCounter % 20 = 1 := hframe
    rw [State.layoutScreen, if_pos (Or.inr hframe'), State.layoutScreen, if_pos (Or.inr hframe)]
    rfl
  rw [finish_tickOf, finish_tickOf, gate, gate, readState_onScreen, hlaid]

/-- The state is one that the aim engine reaches by itself, apart from the size of the screen before the first tick. -/
def Refines (ar : Arith) (s : State D) : Prop :=
  (∃ ticks, Run ar ticks s) ∨
    ∃ (s' : State D) (w h : D), Run ar [] s' ∧ s'.frameCounter = 0 ∧ s = onScreen w h s'

omit [Double D] in
theorem frameCounter_callback [Double D] (s : State D) (e : Callback D) :
    (s.callback e).frameCounter = s.frameCounter := by
  cases e with
  | aimTouchesBegan touch | aimTouchesMoved touch =>
    cases touch with
    | none | some p => rfl
  | _ => rfl

theorem Refines.step {t : State D} (h : Refines ar s) (hstep : EngineStep ar s t) : Refines ar t := by
  rcases h with ⟨ticks, hs⟩ | ⟨s', w, h, hs', hfirst, rfl⟩
  · exact Or.inl (hstep.run hs)
  · cases hstep with
    | none => exact Or.inr ⟨s', w, h, hs', hfirst, rfl⟩
    | callback e =>
      exact Or.inr ⟨s'.callback e, w, h, hs'.callback e, (frameCounter_callback s' e).trans hfirst, callback_onScreen e⟩
    | tick answers i =>
      have hrun := hs'.tick answers i
      rw [← tick_onScreen answers i hfirst] at hrun
      exact Or.inl ⟨_, hrun⟩

theorem Refines.run (h : Refines ar c.state) (es : List (ControlEvent D)) : Refines ar (c.run ar es).state := by
  induction es generalizing c with
  | nil => exact h
  | cons e es ih => exact ih (h.step (engineStep_step e))

end First

/-- The self-test leaves the state as it was. -/
theorem state_selftest (hclosed : c.state.menuOpen = false)
    (htouch : c.state.settings.touchAim = decide (c.state.settings.aimTriggerMode ≠ 2)) :
    c.selftest.state = c.state := by
  rw [selftest]
  dsimp only
  rw [state_actionCloseMenu, state_actionCloseMenu]
  simp only [actionToggle, updateMenuButtons, MenuButton.aimPart, Settings.toggle, state_toggleMenu,
    State.toggleMenu, ← htouch]
  rw [← hclosed]

theorem refines_initOverlay {files : Files} (hfiles : files.AtStart) (answers : Nat → Handler Kernel)
    (mainScreen : CGSize D) : Refines ar (initOverlay (start files answers) mainScreen).state := by
  have hstart := sameShown_start (D := D) files answers
  have horientation : (start files answers : State D).currentOrientation = 3 ∧
      (start files answers : State D).frameCounter = 0 := by
    rw [start, State.initOverlay, Prog.eval_bind]
    exact ⟨rfl, rfl⟩
  have hmade : (made (start files answers) mainScreen).state =
      onScreen (made (start files answers) mainScreen).state.screenW
        (made (start files answers) mainScreen).state.screenH (start files answers) := by
    show ({ start files answers with screenW := _, screenH := _, currentOrientation := 3 } : State D) = _
    rw [← horientation.1]
    rfl
  have htest : (initOverlay (start files answers) mainScreen).state =
      (made (start files answers) mainScreen).state := by
    refine state_selftest hstart.menuOpen ?_
    show (made (start files answers) mainScreen).state.settings.touchAim =
      decide ((made (start files answers) mainScreen).state.settings.aimTriggerMode ≠ 2)
    have hsettings : (made (start files answers) mainScreen).state.settings = Settings.initial := hstart.settings
    rw [hsettings]
    rfl
  rw [htest, hmade]
  exact Or.inr ⟨start files answers, _, _, Run.init files answers hfiles, horientation.2, rfl⟩

/-- The aim engine makes the same runs under the controls as by itself. -/
theorem run_refines (ar : Arith) {files : Files} (hfiles : files.AtStart) (answers : Nat → Handler Kernel)
    (mainScreen : CGSize D) (es : List (ControlEvent D)) :
    Refines ar ((initOverlay (start files answers) mainScreen).run ar es).state :=
  (refines_initOverlay hfiles answers mainScreen).run es

section Witness
attribute [local instance] Touch.exact

theorem extremes_exact : Double.Extremes Rat where
  irrefl _ := Rat.lt_irrefl
  fmax x y := by
    by_cases h : x ≤ y
    · exact Or.inr ⟨if_pos h, Rat.not_lt.mpr h⟩
    · exact Or.inl ⟨if_neg h, fun hlt => h (Rat.le_of_lt hlt)⟩
  fmin x y := by
    by_cases h : x ≤ y
    · exact Or.inl ⟨if_pos h, Rat.not_lt.mpr h⟩
    · exact Or.inr ⟨if_neg h, fun hlt => h (Rat.le_of_lt hlt)⟩

theorem run_placed_dragged : Placed (firstControls.run Touch.exactArith dragged) ∧
    Inside (firstControls.run Touch.exactArith dragged).state.controlArea 48.0
      (firstControls.run Touch.exactArith dragged).buttonRect ∧
    Inside (firstControls.run Touch.exactArith dragged).state.controlArea 56.0
      (firstControls.run Touch.exactArith dragged).aimRect :=
  run_placed Touch.exactArith Touch.files (fun _ => Touch.quietKernel) ⟨812, 375⟩ dragged extremes_exact

theorem run_refines_dragged : Refines Touch.exactArith (firstControls.run Touch.exactArith dragged).state :=
  run_refines Touch.exactArith Touch.files_atStart (fun _ => Touch.quietKernel) ⟨812, 375⟩ dragged

end Witness

end Controls
end RadarAim.Overlay
