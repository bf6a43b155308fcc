import RadarAim.Overlay.Controls
import RadarAim.Theorems.Touch

/-! The controls over whole runs: what the system shows agrees with the variables, the buttons stay on the screen, a
    touch of the floating button that is no drag opens or closes the menu, and each setting depends on the actions of
    its own button only. -/

namespace RadarAim.Overlay
namespace Controls
open Ieee

variable {D : Type} [Double D] {ar : Arith} {c : Controls D}

/-! ### The state of the aim engine -/

theorem state_toggleMenu : c.toggleMenu.state = c.state.toggleMenu := by
  rw [toggleMenu]
  dsimp only
  split
  · rfl
  · rfl

theorem features_toggleMenu : c.toggleMenu.features = c.features := by
  rw [toggleMenu]
  dsimp only
  split
  · rfl
  · rfl

theorem state_actionCloseMenu : c.actionCloseMenu.state = { c.state with menuOpen := false } := by
  rw [actionCloseMenu]
  cases hopen : c.state.menuOpen with
  | true =>
    rw [if_pos rfl, state_toggleMenu, State.toggleMenu, hopen]
    rfl
  | false =>
    rw [if_neg Bool.false_ne_true, ← hopen]

omit [Double D] in
theorem state_showWindows : c.showWindows.state = c.state := by
  rw [showWindows]
  dsimp only
  split
  · rfl
  · rfl

/-- What is shown of a state and what the windows are laid out for. -/
structure SameShown (s t : State D) : Prop where
  menuOpen : t.menuOpen = s.menuOpen
  settings : t.settings = s.settings
  aimActive : t.aimActive = s.aimActive

omit [Double D] in
theorem SameShown.trans {s t u : State D} (h : SameShown s t) (h' : SameShown t u) : SameShown s u :=
  ⟨h'.menuOpen.trans h.menuOpen, h'.settings.trans h.settings, h'.aimActive.trans h.aimActive⟩

omit [Double D] in
theorem sameShown_noteTick (readAt : D) (s : State D) : SameShown s (s.noteTick readAt) := by
  rw [State.noteTick]
  split
  · exact ⟨rfl, rfl, rfl⟩
  · exact ⟨rfl, rfl, rfl⟩

omit [Double D] in
theorem sameShown_accept (readAt : D) (snapshot : Option RadarFrame) (s : State D) :
    SameShown s (s.accept readAt snapshot) := by
  cases snapshot with
  | none => exact ⟨rfl, rfl, rfl⟩
  | some f =>
    have hfresh : SameShown s { s with snapshot := f, stopped := false } := ⟨rfl, rfl, rfl⟩
    exact hfresh.trans (sameShown_noteTick readAt _)

omit [Double D] in
theorem sameShown_readState (h : Nat → Handler Kernel) (i : TickInput D) (s : State D) :
    SameShown s (readState h i s) := by
  let r := (((readSharedMemory (s.frameCounter + 1)).run s.shm).eval h 0).1
  have hread : SameShown s { s with frameCounter := s.frameCounter + 1, shm := r.2 } := ⟨rfl, rfl, rfl⟩
  exact hread.trans (sameShown_accept i.readAt r.1 _)

theorem sameShown_layoutScreen (i : TickInput D) (s : State D) : SameShown s (s.layoutScreen i) := by
  rw [State.layoutScreen]
  dsimp only
  split
  · exact ⟨rfl, rfl, rfl⟩
  · exact ⟨rfl, rfl, rfl⟩

theorem sameShown_aimEngine (i : TickInput D) (s : State D) : SameShown s (s.aimEngine ar i) := by
  rw [State.aimEngine]
  split
  · exact ⟨rfl, rfl, rfl⟩
  · exact ⟨rfl, rfl, rfl⟩

/-! ### What is shown -/

/-- What the menu and the two buttons show of themselves. -/
structure Framed (c : Controls D) : Prop where
  window : c.window = false
  button : c.buttonWindow.hidden = c.state.menuOpen
  menu : c.menuWindow.hidden = !c.state.menuOpen
  menuView : c.menuViewHidden = !c.state.menuOpen
  dragTitle : c.dragButtonTitle = lit (if c.state.menuOpen then "X" else "ESP")
  aimTitle : c.aimButtonTitle = lit (if c.state.aimActive then "AIM*" else "AIM")

/-- The features and the settings are shown as they are. -/
structure Shows (c : Controls D) : Prop extends Framed c where
  aim : c.aimWindow.hidden = c.aimHidden
  radar : c.radarViewHidden = !c.features.on .radar
  faces : c.menuButtons = fun m => m.face c.features c.state.settings

omit [Double D] in
theorem Framed.updateMenuButtons (h : Framed c) : Shows c.updateMenuButtons where
  toFramed := ⟨h.window, h.button, h.menu, h.menuView, h.dragTitle, h.aimTitle⟩
  aim := rfl
  radar := rfl
  faces := rfl

theorem Framed.layoutControls (h : Framed c) : Framed c.layoutControls :=
  ⟨h.window, rfl, rfl, h.menuView, h.dragTitle, h.aimTitle⟩

theorem Shows.layoutControls (h : Shows c) : Shows c.layoutControls where
  toFramed := h.toFramed.layoutControls
  aim := rfl
  radar := h.radar
  faces := h.faces

omit [Double D] in
/-- The state may change in what is not shown. -/
theorem Shows.withState (h : Shows c) {s : State D} (hs : SameShown c.state s) : Shows { c with state := s } where
  window := h.window
  button := h.button.trans hs.menuOpen.symm
  menu := h.menu.trans (congrArg _ hs.menuOpen.symm)
  menuView := h.menuView.trans (congrArg _ hs.menuOpen.symm)
  dragTitle := by
    rw [hs.menuOpen]
    exact h.dragTitle
  aimTitle := by
    rw [hs.aimActive]
    exact h.aimTitle
  aim := by
    rw [aimHidden, hs.settings, hs.menuOpen]
    exact h.aim
  radar := h.radar
  faces := by
    rw [hs.settings]
    exact h.faces

theorem Framed.toggleMenu (h : Framed c) : Framed c.toggleMenu := by
  cases hopen : c.state.menuOpen with
  | true =>
    have hclosed : c.state.toggleMenu.menuOpen = false := by simp [State.toggleMenu, hopen]
    refine ⟨?_, ?_, ?_, ?_, ?_, ?_⟩ <;>
      simp [Controls.toggleMenu, Controls.layoutControls, State.toggleMenu, hopen, h.window, h.aimTitle]
  | false =>
    refine ⟨?_, ?_, ?_, ?_, ?_, ?_⟩ <;>
      simp [Controls.toggleMenu, Controls.layoutControls, Controls.updateMenuButtons, State.toggleMenu, hopen, h.window,
        h.aimTitle]

theorem Shows.toggleMenu (h : Shows c) : Shows c.toggleMenu := by
  have hframed := h.toFramed.toggleMenu
  cases hopen : c.state.menuOpen with
  | true =>
    refine ⟨hframed, ?_, ?_, ?_⟩ <;>
      simp [Controls.toggleMenu, Controls.layoutControls, State.toggleMenu, aimHidden, hopen, h.radar, h.faces]
  | false =>
    refine ⟨hframed, ?_, ?_, ?_⟩ <;>
      simp [Controls.toggleMenu, Controls.layoutControls, Controls.updateMenuButtons, State.toggleMenu,
        aimHidden, hopen]

theorem Framed.actionCloseMenu (h : Framed c) : Framed c.actionCloseMenu := by
  rw [Controls.actionCloseMenu]
  split
  · exact h.toggleMenu
  · exact h

theorem Shows.actionCloseMenu (h : Shows c) : Shows c.actionCloseMenu := by
  rw [Controls.actionCloseMenu]
  split
  · exact h.toggleMenu
  · exact h

theorem Shows.btnTouchesMoved (h : Shows c) (touch : Option (CGPoint D)) : Shows (c.btnTouchesMoved touch) := by
  cases touch with
  | none => exact h
  | some cur =>
    rw [Controls.btnTouchesMoved]
    split
    · exact ⟨⟨h.window, rfl, rfl, h.menuView, h.dragTitle, h.aimTitle⟩, rfl, h.radar, h.faces⟩
    · exact h

theorem Shows.aimTouchesMoved (h : Shows c) (touch : Option (CGPoint D)) : Shows (c.aimTouchesMoved touch) := by
  cases touch with
  | none => exact h
  | some cur =>
    have hmoved : Shows { c with state := c.state.aimTouchesMoved (some cur) } := h.withState ⟨rfl, rfl, rfl⟩
    rw [Controls.aimTouchesMoved]
    dsimp only
    split
    · exact ⟨⟨h.window, rfl, rfl, hmoved.menuView, hmoved.dragTitle, hmoved.aimTitle⟩, rfl, h.radar, hmoved.faces⟩
    · exact hmoved

omit [Double D] in
theorem Shows.showWindows (h : Shows c) : Shows c.showWindows := by
  rw [Controls.showWindows]
  dsimp only
  split
  · exact ⟨⟨rfl, h.button, h.menu, h.menuView, h.dragTitle, h.aimTitle⟩, h.aim, h.radar, h.faces⟩
  · rename_i hclosed
    have hopen : c.state.menuOpen = false := Bool.eq_false_iff.mpr hclosed
    refine ⟨⟨rfl, hopen.symm, h.menu, h.menuView, h.dragTitle, h.aimTitle⟩, ?_, h.radar, h.faces⟩
    rw [aimHidden, hopen, Bool.or_false]

omit [Double D] in
/-- What the windows are laid out for does not matter for what is shown. -/
theorem Shows.withScene (h : Shows c) (scene : Scene D) : Shows { c with scene } :=
  ⟨⟨h.window, h.button, h.menu, h.menuView, h.dragTitle, h.aimTitle⟩, h.aim, h.radar, h.faces⟩

omit [Double D] in
theorem Shows.readPart (h : Shows c) (answers : Nat → Handler Kernel) (i : TickInput D) :
    Shows (c.readPart answers i) := by
  have hread := h.withState (sameShown_readState answers i c.state)
  rw [Controls.readPart]
  dsimp only
  split
  · exact hread.showWindows
  · exact hread

theorem Shows.layoutPart (h : Shows c) (scene : Scene D) (i : TickInput D) : Shows (c.layoutPart scene i) := by
  have hplaced := (h.withScene scene).withState (sameShown_layoutScreen i c.state)
  rw [Controls.layoutPart]
  split
  · exact hplaced.layoutControls
  · exact hplaced

theorem Shows.timerTick (h : Shows c) (answers : Nat → Handler Kernel) (i : TickInput D)
    (sceneBounds : Option (CGSize D)) : Shows (c.timerTick ar answers i sceneBounds) :=
  ((h.readPart answers _).layoutPart _ _).withState (sameShown_aimEngine _ _)

theorem Shows.step (h : Shows c) (e : ControlEvent D) : Shows (c.step ar e) := by
  cases e with
  | tick answers i sceneBounds => exact h.timerTick answers i sceneBounds
  | btnTouchesBegan touch =>
    cases touch with
    | none => exact h
    | some p => exact ⟨⟨h.window, h.button, h.menu, h.menuView, h.dragTitle, h.aimTitle⟩, h.aim, h.radar, h.faces⟩
  | btnTouchesMoved touch => exact h.btnTouchesMoved touch
  | btnTouchesEnded =>
    have hended : Shows (if c.isDragging then c else c.toggleMenu) := by
      split
      · exact h
      · exact h.toggleMenu
    exact ⟨⟨hended.window, hended.button, hended.menu, hended.menuView, hended.dragTitle, hended.aimTitle⟩, hended.aim,
      hended.radar, hended.faces⟩
  | btnTouchesCancelled =>
    exact ⟨⟨h.window, h.button, h.menu, h.menuView, h.dragTitle, h.aimTitle⟩, h.aim, h.radar, h.faces⟩
  | aimTouchesBegan touch =>
    cases touch with
    | none => exact h
    | some p => exact ⟨⟨h.window, h.button, h.menu, h.menuView, h.dragTitle, rfl⟩, h.aim, h.radar, h.faces⟩
  | aimTouchesMoved touch => exact h.aimTouchesMoved touch
  | aimTouchesEnded | aimTouchesCancelled =>
    exact ⟨⟨h.window, h.button, h.menu, h.menuView, h.dragTitle, rfl⟩, h.aim, h.radar, h.faces⟩
  | toggle m =>
    -- The press changes what the menu shows, so its buttons are written again.
    have hframed : Framed { c with
        state := { c.state with settings := c.state.settings.toggle m.aimPart }
        features := c.features.press (c.state.settings.toggle m.aimPart) m } :=
      ⟨h.window, h.button, h.menu, h.menuView, h.dragTitle, h.aimTitle⟩
    exact hframed.updateMenuButtons
  | closeMenu => exact h.actionCloseMenu
  | stopRadar =>
    have hstopped : Shows { c with state := { c.state with shm := c.state.shm.stop, stopped := true } } :=
      h.withState ⟨rfl, rfl, rfl⟩
    exact hstopped.actionCloseMenu
  | toggleMenu => exact h.toggleMenu

theorem Shows.run (h : Shows c) (es : List (ControlEvent D)) : Shows (c.run ar es) := by
  induction es generalizing c with
  | nil => exact h
  | cons e es ih => exact ih (h.step e)

/-- The state that `init_overlay` leaves besides the controls. -/
def start (files : Files) (answers : Nat → Handler Kernel) : State D := ((State.initOverlay files).eval answers 0).1

/-- The self-test shows what it leaves. -/
theorem Framed.selftest (h : Framed c) : Shows c.selftest := by
  have hopened := h.toggleMenu
  refine Shows.actionCloseMenu (Shows.actionCloseMenu (Framed.updateMenuButtons ?_))
  exact ⟨hopened.window, hopened.button, hopened.menu, hopened.menuView, hopened.dragTitle, hopened.aimTitle⟩

theorem sameShown_start (files : Files) (answers : Nat → Handler Kernel) :
    SameShown (State.initial files : State D) (start files answers) := by
  rw [start, State.initOverlay, Prog.eval_bind]
  exact ⟨rfl, rfl, rfl⟩

theorem framed_made {s : State D} (hopen : s.menuOpen = false) (hactive : s.aimActive = false)
    (mainScreen : CGSize D) :
    Framed { ((made s mainScreen).layoutControls).updateMenuButtons with window := false } := by
  refine ⟨rfl, rfl, rfl, ?_, ?_, ?_⟩
  · show true = !s.menuOpen
    rw [hopen]
    rfl
  · show lit "ESP" = lit (if s.menuOpen then "X" else "ESP")
    rw [hopen]
    rfl
  · show lit "AIM" = lit (if s.aimActive then "AIM*" else "AIM")
    rw [hactive]
    rfl

theorem shows_initOverlay (files : Files) (answers : Nat → Handler Kernel) (mainScreen : CGSize D) :
    Shows (initOverlay (start files answers) mainScreen) := by
  have hstart := sameShown_start (D := D) files answers
  exact (framed_made hstart.menuOpen hstart.aimActive mainScreen).selftest

/-- Only the window of the floating button would take a touch while it is hidden. -/
theorem Shows.pointInside (h : Shows c) (w : OverlayWindow) (p : CGPoint D) (hinside : c.pointInside w p = true) :
    w = .button ∨ c.windowHidden w = false := by
  cases w with
  | display => exact absurd hinside Bool.false_ne_true
  | button => exact Or.inl rfl
  | menu =>
    obtain ⟨hopen, -⟩ := Bool.and_eq_true_iff.mp hinside
    exact Or.inr (h.menu.trans (by rw [hopen]; rfl))
  | aim =>
    obtain ⟨hshown, -⟩ := Bool.and_eq_true_iff.mp hinside
    exact Or.inr (h.aim.trans (by simpa using hshown))

/-! ### The settings -/

/-- The event is an action of the button `m`. -/
def isToggle (m : MenuButton) : ControlEvent D → Bool
  | .toggle m' => m' = m
  | _ => false

/-- The features and the settings when each button has been pressed `n` times. -/
structure Pressed (n : MenuButton → Nat) (f : Features) (s : Settings) : Prop where
  on : ∀ x, f.on x = (Features.initial.on x ^^ decide (n (.feature x) % 2 = 1))
  radarRange : f.radarRange = if n .range % 3 = 0 then 200 else if n .range % 3 = 1 then 400 else 100
  aimFov : f.aimFov = decide (0 < n .aimFov ∧ s.aimFovMode ≠ 4)
  touchAim : s.touchAim = decide (s.aimTriggerMode ≠ 2)
  aimTriggerMode : s.aimTriggerMode = (1 + n .touchAim) % 3
  aimVelocity : s.aimVelocity = (1 + n .aimSpeed) % 4
  aimBone : s.aimBone = n .aimBone % 3
  aimFovMode : s.aimFovMode = (1 + n .aimFov) % 5
  aimTouchZone : s.aimTouchZone = (1 + n .aimZone) % 3
  leadPred : s.leadPred = decide (n .leadPred % 2 = 1)
  recoilComp : s.recoilComp = decide (n .recoilComp % 2 = 1)
  adaptiveFov : s.adaptiveFov = decide (n .adaptiveFov % 2 = 1)
  aimSmooth : s.aimSmooth = decide (n .aimSmooth % 2 = 1)
  orientationOverride : s.orientationOverride = n .orientation % 3

theorem next_odd {b : Bool} {n : Nat} (h : b = decide (n % 2 = 1)) : (!b) = decide ((n + 1) % 2 = 1) := by
  rw [h, ← decide_not]
  exact decide_eq_decide.mpr (by omega)

theorem next_mod {x a n k : Nat} (h : x = (a + n) % k) : (x + 1) % k = (a + (n + 1)) % k := by
  rw [h, Nat.mod_add_mod]
  rfl

theorem next_mod_zero {x n k : Nat} (h : x = n % k) : (x + 1) % k = (n + 1) % k := by rw [h, Nat.mod_add_mod]

section Press
variable {n n' : MenuButton → Nat} {f : Features} {s : Settings} {m : MenuButton}

theorem Pressed.press (h : Pressed n f s) (hn : ∀ b, n' b = n b + if m = b then 1 else 0) :
    Pressed n' (f.press (s.toggle m.aimPart) m) (s.toggle m.aimPart) where
  on x := by
    rw [hn]
    cases m with
    | feature y =>
      by_cases hx : x = y
      · -- The feature of this button is turned over by the press.
        subst hx
        have hnext := next_odd (b := decide (n (.feature x) % 2 = 1)) rfl
        simp [Features.press, Features.flip, h.on, ← hnext]
      · have hy : ¬y = x := fun hy => hx hy.symm
        simp [Features.press, Features.flip, h.on, hx, hy]
    | _ => simp [Features.press, Features.nextRange, h.on]
  radarRange := by
    rw [hn]
    cases m with
    | range =>
      -- The three ranges follow each other in turn.
      have hcases : n .range % 3 = 0 ∨ n .range % 3 = 1 ∨ n .range % 3 = 2 := by omega
      rcases hcases with hrest | hrest | hrest
      · have hnext : (n .range + 1) % 3 = 1 := by omega
        simp [Features.press, Features.nextRange, h.radarRange, hrest, hnext]
      · have hnext : (n .range + 1) % 3 = 2 := by omega
        simp [Features.press, Features.nextRange, h.radarRange, hrest, hnext]
      · have hnext : (n .range + 1) % 3 = 0 := by omega
        simp [Features.press, Features.nextRange, h.radarRange, hrest, hnext]
    | _ => exact h.radarRange
  aimFov := by
    rw [hn]
    cases m with
    | aimFov => simp [Features.press]
    | _ => exact h.aimFov
  touchAim := by
    cases m with
    | touchAim => rfl
    | _ => exact h.touchAim
  aimTriggerMode := by
    rw [hn]
    cases m with
    | touchAim => exact next_mod h.aimTriggerMode
    | _ => exact h.aimTriggerMode
  aimVelocity := by
    rw [hn]
    cases m with
    | aimSpeed => exact next_mod h.aimVelocity
    | _ => exact h.aimVelocity
  aimBone := by
    rw [hn]
    cases m with
    | aimBone => exact next_mod_zero h.aimBone
    | _ => exact h.aimBone
  aimFovMode := by
    rw [hn]
    cases m with
    | aimFov => exact next_mod h.aimFovMode
    | _ => exact h.aimFovMode
  aimTouchZone := by
    rw [hn]
    cases m with
    | aimZone => exact next_mod h.aimTouchZone
    | _ => exact h.aimTouchZone
  leadPred := by
    rw [hn]
    cases m with
    | leadPred => exact next_odd h.leadPred
    | _ => exact h.leadPred
  recoilComp := by
    rw [hn]
    cases m with
    | recoilComp => exact next_odd h.recoilComp
    | _ => exact h.recoilComp
  adaptiveFov := by
    rw [hn]
    cases m with
    | adaptiveFov => exact next_odd h.adaptiveFov
    | _ => exact h.adaptiveFov
  aimSmooth := by
    rw [hn]
    cases m with
    | aimSmooth => exact next_odd h.aimSmooth
    | _ => exact h.aimSmooth
  orientationOverride := by
    rw [hn]
    cases m with
    | orientation => exact next_mod_zero h.orientationOverride
    | _ => exact h.orientationOverride

end Press

/-! ### Runs of the actions -/

section Actions
variable (answers : Nat → Handler Kernel) (i : TickInput D) (scene : Scene D) (sceneBounds : Option (CGSize D))

omit [Double D] in
theorem state_readPart : (c.readPart answers i).state = readState answers i c.state := by
  rw [readPart]
  dsimp only
  split
  · exact state_showWindows
  · rfl

theorem state_layoutPart : (c.layoutPart scene i).state = c.state.layoutScreen i := by
  rw [layoutPart]
  split
  · rfl
  · rfl

omit [Double D] in
theorem features_readPart : (c.readPart answers i).features = c.features := by
  rw [readPart]
  dsimp only
  split
  · rw [showWindows]
    dsimp only
    split
    · rfl
    · rfl
  · rfl

theorem features_layoutPart : (c.layoutPart scene i).features = c.features := by
  rw [layoutPart]
  split
  · rfl
  · rfl

/-- What `timer_tick` is told, with the orientation of its scene. -/
def inputFor : TickInput D := { i with sceneIsPortrait := (sceneFor i sceneBounds).isPortrait }

theorem state_timerTick : (c.timerTick ar answers i sceneBounds).state =
    ((readState answers (inputFor i sceneBounds) c.state).layoutScreen (inputFor i sceneBounds)).aimEngine ar
      (inputFor i sceneBounds) := by
  show (((c.readPart answers (inputFor i sceneBounds)).layoutPart _ (inputFor i sceneBounds)).state).aimEngine ar _ = _
  rw [state_layoutPart, state_readPart]
  rfl

theorem features_timerTick : (c.timerTick ar answers i sceneBounds).features = c.features :=
  (features_layoutPart _ _).trans (features_readPart _ _)

/-- The state of the aim engine takes the tick that it takes without the controls. -/
theorem state_timerTick_eq : (c.timerTick ar answers i sceneBounds).state =
    (tickOf ar answers (inputFor i sceneBounds) c.state).finish := by
  rw [state_timerTick, finish_tickOf, gate_tickOf]
  rfl

end Actions

/-- An event that is no action of a button leaves the features and the settings. -/
structure KeepsSettings (c c' : Controls D) : Prop where
  features : c'.features = c.features
  settings : c'.state.settings = c.state.settings

theorem keepsSettings_toggleMenu : KeepsSettings c c.toggleMenu :=
  ⟨features_toggleMenu, by rw [state_toggleMenu]; rfl⟩

theorem keepsSettings_actionCloseMenu : KeepsSettings c c.actionCloseMenu := by
  rw [actionCloseMenu]
  split
  · exact keepsSettings_toggleMenu
  · exact ⟨rfl, rfl⟩

theorem keepsSettings_step {e : ControlEvent D} (he : ∀ m, isToggle m e = false) : KeepsSettings c (c.step ar e) := by
  cases e with
  | tick answers i sceneBounds =>
    refine ⟨features_timerTick answers i sceneBounds, ?_⟩
    -- The tick reads the bounds, lays the windows out and aims; none of these writes a setting.
    have hread := sameShown_readState answers (inputFor i sceneBounds) c.state
    rw [step, state_timerTick]
    exact ((hread.trans (sameShown_layoutScreen _ _)).trans (sameShown_aimEngine _ _)).settings
  | btnTouchesBegan touch =>
    cases touch with
    | none | some p => exact ⟨rfl, rfl⟩
  | btnTouchesMoved touch =>
    cases touch with
    | none => exact ⟨rfl, rfl⟩
    | some cur =>
      rw [step, btnTouchesMoved]
      split
      · exact ⟨rfl, rfl⟩
      · exact ⟨rfl, rfl⟩
  | btnTouchesEnded =>
    have hended : KeepsSettings c (if c.isDragging then c else c.toggleMenu) := by
      split
      · exact ⟨rfl, rfl⟩
      · exact keepsSettings_toggleMenu
    exact ⟨hended.features, hended.settings⟩
  | aimTouchesBegan touch =>
    cases touch with
    | none | some p => exact ⟨rfl, rfl⟩
  | aimTouchesMoved touch =>
    cases touch with
    | none => exact ⟨rfl, rfl⟩
    | some cur =>
      rw [step, aimTouchesMoved]
      dsimp only
      split
      · exact ⟨rfl, rfl⟩
      · exact ⟨rfl, rfl⟩
  | btnTouchesCancelled | aimTouchesEnded | aimTouchesCancelled => exact ⟨rfl, rfl⟩
  | toggle m => exact absurd (he m) (by simp [isToggle])
  | closeMenu => exact keepsSettings_actionCloseMenu
  | stopRadar =>
    -- The menu is closed after the radar was stopped, which changes no setting either.
    have hclose := keepsSettings_actionCloseMenu
      (c := { c with state := { c.state with shm := c.state.shm.stop, stopped := true } })
    exact ⟨hclose.features, hclose.settings⟩
  | toggleMenu => exact keepsSettings_toggleMenu

theorem Pressed.step {n : MenuButton → Nat} (h : Pressed n c.features c.state.settings) (e : ControlEvent D) :
    Pressed (fun b => n b + if isToggle b e then 1 else 0) (c.step ar e).features (c.step ar e).state.settings := by
  by_cases he : ∃ m, isToggle m e = true
  · cases e with
    | toggle m =>
      have hn : ∀ b, (n b + if isToggle (D := D) b (.toggle m) then 1 else 0) = n b + if m = b then 1 else 0 := by
        intro b
        simp [isToggle]
      exact h.press hn
    | _ => simp [isToggle] at he
  · have hnone : ∀ m, isToggle m e = false := fun m => Bool.eq_false_iff.mpr fun hm => he ⟨m, hm⟩
    have hkept : KeepsSettings c (c.step ar e) := keepsSettings_step hnone
    obtain ⟨hfeatures, hsettings⟩ := hkept
    rw [hfeatures, hsettings]
    simpa [hnone] using h

theorem Pressed.run {n : MenuButton → Nat} (h : Pressed n c.features c.state.settings) (es : List (ControlEvent D)) :
    Pressed (fun b => n b + es.countP (isToggle b)) (c.run ar es).features (c.run ar es).state.settings := by
  induction es generalizing c n with
  | nil => exact h
  | cons e es ih =>
    have hstep : Pressed _ (c.step ar e).features (c.step ar e).state.settings := h.step e
    have hrun := ih hstep
    have hcount : ∀ b, n b + (e :: es).countP (isToggle b) =
        n b + (if isToggle b e then 1 else 0) + es.countP (isToggle b) := by
      intro b
      rw [List.countP_cons]
      omega
    simp only [hcount]
    exact hrun

/-- The self-test puts back what it has pressed. -/
theorem keepsSettings_selftest (h : c.state.settings.touchAim = decide (c.state.settings.aimTriggerMode ≠ 2)) :
    KeepsSettings c c.selftest := by
  have hopened := keepsSettings_toggleMenu (c := c)
  have closed : ∀ c' : Controls D, KeepsSettings c' (c'.actionCloseMenu).actionCloseMenu := by
    intro c'
    have hfirst := keepsSettings_actionCloseMenu (c := c')
    have hsecond := keepsSettings_actionCloseMenu (c := c'.actionCloseMenu)
    exact ⟨hsecond.features.trans hfirst.features, hsecond.settings.trans hfirst.settings⟩
  refine ⟨(closed _).features.trans ?_, (closed _).settings.trans ?_⟩
  · simp only [actionToggle, updateMenuButtons, MenuButton.aimPart, Settings.toggle, Features.press, Features.flip,
      hopened.features]
    refine congrArg (fun on => ({ c.features with on } : Features)) (funext fun x => ?_)
    by_cases hx : x = Feature.radar
    · rw [if_pos hx, hx]
    · rw [if_neg hx, if_neg hx]
  · simp only [actionToggle, updateMenuButtons, MenuButton.aimPart, Settings.toggle, hopened.settings, ← h]

theorem pressed_initOverlay (files : Files) (answers : Nat → Handler Kernel) (mainScreen : CGSize D) :
    Pressed (fun _ => 0) (initOverlay (start files answers) mainScreen).features
      (initOverlay (start files answers) mainScreen).state.settings := by
  have hstart := (sameShown_start (D := D) files answers).settings
  have hmade : (made (start files answers) mainScreen).state.settings = Settings.initial := hstart
  have hkept : KeepsSettings _ (initOverlay (start files answers) mainScreen) := keepsSettings_selftest (by
    show (made (start files answers) mainScreen).state.settings.touchAim =
      decide ((made (start files answers) mainScreen).state.settings.aimTriggerMode ≠ 2)
    rw [hmade]
    rfl)
  have hfeatures : (initOverlay (start files answers) mainScreen).features = Features.initial := hkept.features
  have hsettings : (initOverlay (start files answers) mainScreen).state.settings = Settings.initial :=
    hkept.settings.trans hmade
  rw [hfeatures, hsettings]
  refine ⟨fun x => ?_, rfl, rfl, rfl, rfl, rfl, rfl, rfl, rfl, rfl, rfl, rfl, rfl, rfl⟩
  simp

/-! ### Touches of the floating button -/

/-- The event begins or ends a touch of the floating button. -/
def boundsTouch : ControlEvent D → Bool
  | .btnTouchesBegan (some _) | .btnTouchesEnded | .btnTouchesCancelled => true
  | _ => false

/-- The touch that began at `p` is moved by more than 4 points. -/
def dragsFrom (p : CGPoint D) : ControlEvent D → Bool
  | .btnTouchesMoved (some q) => isDrag (q.x - p.x) (q.y - p.y)
  | _ => false

/-- The touch of the floating button, which began at `p`. -/
structure Touching (p : CGPoint D) (dragging : Bool) (c : Controls D) : Prop where
  start : c.dragStartTouch = p
  dragging : c.isDragging = dragging

section Touch
variable {p : CGPoint D} {b : Bool}

omit [Double D] in
theorem Touching.of_same (h : Touching p b c) {c' : Controls D} (hstart : c'.dragStartTouch = c.dragStartTouch)
    (hdragging : c'.isDragging = c.isDragging) : Touching p b c' :=
  ⟨hstart.trans h.start, hdragging.trans h.dragging⟩

theorem Touching.toggleMenu (h : Touching p b c) : Touching p b c.toggleMenu := by
  rw [Controls.toggleMenu]
  dsimp only
  split
  · exact h.of_same rfl rfl
  · exact h.of_same rfl rfl

theorem Touching.actionCloseMenu (h : Touching p b c) : Touching p b c.actionCloseMenu := by
  rw [Controls.actionCloseMenu]
  split
  · exact h.toggleMenu
  · exact h

theorem Touching.timerTick (h : Touching p b c) (answers : Nat → Handler Kernel) (i : TickInput D)
    (sceneBounds : Option (CGSize D)) : Touching p b (c.timerTick ar answers i sceneBounds) := by
  have hread : Touching p b (c.readPart answers (inputFor i sceneBounds)) := by
    rw [readPart]
    dsimp only
    split
    · rw [showWindows]
      dsimp only
      split
      · exact h.of_same rfl rfl
      · exact h.of_same rfl rfl
    · exact h.of_same rfl rfl
  have hlaid : Touching p b ((c.readPart answers (inputFor i sceneBounds)).layoutPart (sceneFor i sceneBounds)
      (inputFor i sceneBounds)) := by
    rw [layoutPart]
    split
    · exact hread.of_same rfl rfl
    · exact hread.of_same rfl rfl
  exact hlaid.of_same rfl rfl

theorem Touching.step (h : Touching p b c) {e : ControlEvent D} (he : boundsTouch e = false) :
    Touching p (b || dragsFrom p e) (c.step ar e) := by
  have keep : ∀ {c' : Controls D}, Touching p b c' → Touching p (b || false) c' := fun h' =>
    ⟨h'.start, h'.dragging.trans (Bool.or_false b).symm⟩
  cases e with
  | tick answers i sceneBounds => exact keep (h.timerTick answers i sceneBounds)
  | btnTouchesBegan touch =>
    cases touch with
    | none => exact keep h
    | some p => exact absurd he.symm Bool.false_ne_true
  | btnTouchesMoved touch =>
    cases touch with
    | none => exact keep h
    | some cur =>
      have hstart := h.start
      rw [Controls.step, btnTouchesMoved, dragsFrom, ← hstart]
      cases hdrag : isDrag (cur.x - c.dragStartTouch.x) (cur.y - c.dragStartTouch.y) with
      | true =>
        -- This move makes the touch a drag.
        rw [if_pos rfl, Bool.or_true]
        exact ⟨rfl, rfl⟩
      | false =>
        rw [if_neg Bool.false_ne_true, hstart]
        exact keep h
  | btnTouchesEnded | btnTouchesCancelled => exact absurd he.symm Bool.false_ne_true
  | aimTouchesBegan touch =>
    cases touch with
    | none | some p => exact keep (h.of_same rfl rfl)
  | aimTouchesMoved touch =>
    cases touch with
    | none => exact keep h
    | some cur =>
      rw [Controls.step, aimTouchesMoved]
      dsimp only
      split
      · exact keep (h.of_same rfl rfl)
      · exact keep (h.of_same rfl rfl)
  | aimTouchesEnded | aimTouchesCancelled | toggle m => exact keep (h.of_same rfl rfl)
  | closeMenu => exact keep h.actionCloseMenu
  | stopRadar =>
    have hstopped : Touching p b { c with state := { c.state with shm := c.state.shm.stop, stopped := true } } :=
      h.of_same rfl rfl
    exact keep hstopped.actionCloseMenu
  | toggleMenu => exact keep h.toggleMenu

theorem Touching.run (h : Touching p b c) {es : List (ControlEvent D)} (hes : ∀ e ∈ es, boundsTouch e = false) :
    Touching p (b || es.any (dragsFrom p)) (c.run ar es) := by
  induction es generalizing c b with
  | nil => exact ⟨h.start, h.dragging.trans (Bool.or_false b).symm⟩
  | cons e es ih =>
    obtain ⟨he, hes⟩ := List.forall_mem_cons.mp hes
    have hstep : Touching p _ (c.step ar e) := h.step he
    have hrun := ih hstep hes
    rw [List.any_cons, ← Bool.or_assoc]
    exact hrun

/-- A touch of the floating button opens or closes the menu when it ends, unless it was dragged in between, whatever
    else happens meanwhile. -/
theorem touch_toggles (c : Controls D) (p : CGPoint D) (es : List (ControlEvent D))
    (hes : ∀ e ∈ es, boundsTouch e = false) :
    (((c.btnTouchesBegan (some p)).run ar es).btnTouchesEnded).state.menuOpen =
      (((c.btnTouchesBegan (some p)).run ar es).state.menuOpen ^^ !es.any (dragsFrom p)) := by
  have hbegan : Touching p false (c.btnTouchesBegan (some p)) := ⟨rfl, rfl⟩
  have hrun : Touching p _ ((c.btnTouchesBegan (some p)).run ar es) := hbegan.run hes
  have hdragging := hrun.dragging
  rw [Bool.false_or] at hdragging
  rw [btnTouchesEnded, hdragging]
  cases es.any (dragsFrom p) with
  | true => simp
  | false =>
    show ((c.btnTouchesBegan (some p)).run ar es).toggleMenu.state.menuOpen = _
    rw [state_toggleMenu]
    simp [State.toggleMenu]

end Touch

/-! ### Whole runs -/

section Run
variable (ar) (files : Files) (answers : Nat → Handler Kernel) (mainScreen : CGSize D) (es : List (ControlEvent D))

/-- What is shown agrees with the variables after every run, and a window that takes a touch is not hidden, unless it is
    that of the floating button. -/
theorem run_shows : Shows ((initOverlay (start files answers) mainScreen).run ar es) ∧
    ∀ w p, ((initOverlay (start files answers) mainScreen).run ar es).pointInside w p = true →
      w = .button ∨ ((initOverlay (start files answers) mainScreen).run ar es).windowHidden w = false := by
  have hshows : Shows ((initOverlay (start files answers) mainScreen).run ar es) :=
    (shows_initOverlay files answers mainScreen).run es
  exact ⟨hshows, hshows.pointInside⟩

/-- Every setting is what the actions of its own button make of it, in whatever order everything happens. -/
theorem run_pressed : Pressed (fun b => es.countP (isToggle b))
    ((initOverlay (start files answers) mainScreen).run ar es).features
    ((initOverlay (start files answers) mainScreen).run ar es).state.settings := by
  have hrun : Pressed (fun b => 0 + es.countP (isToggle b))
      ((initOverlay (start files answers) mainScreen).run ar es).features
      ((initOverlay (start files answers) mainScreen).run ar es).state.settings :=
    (pressed_initOverlay files answers mainScreen).run es
  simpa only [Nat.zero_add] using hrun

end Run

section Witness
attribute [local instance] Touch.exact

/-- A touch that drags the button, while the other button is touched. -/
def dragged : List (ControlEvent Rat) := [.aimTouchesBegan (some ⟨40, 220⟩), .btnTouchesMoved (some ⟨300, 60⟩)]

def firstControls : Controls Rat := initOverlay (start Touch.files fun _ => Touch.quietKernel) ⟨812, 375⟩

theorem touch_toggles_dragged :
    (((firstControls.btnTouchesBegan (some ⟨20, 60⟩)).run Touch.exactArith dragged).btnTouchesEnded).state.menuOpen =
      (((firstControls.btnTouchesBegan (some ⟨20, 60⟩)).run Touch.exactArith dragged).state.menuOpen ^^
        !dragged.any (dragsFrom ⟨20, 60⟩)) :=
  touch_toggles firstControls ⟨20, 60⟩ dragged (by simp [dragged, boundsTouch])

end Witness

end Controls
end RadarAim.Overlay
