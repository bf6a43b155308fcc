import RadarAim.Overlay.Aim

/-! A run of the overlay: `init_overlay`, then calls of `timer_tick`, of the callbacks of the AIM button and of
    the actions of the menu, in any order. -/

namespace RadarAim.Overlay
open Ieee

/-- The actions of the menu that change a setting of the aim engine, and `other` for the rest. -/
inductive Toggle where
  | touchAim
  | aimSpeed
  | aimBone
  | aimFov
  | aimZone
  | leadPred
  | recoilComp
  | adaptiveFov
  | aimSmooth
  | orientation
  | other

/-- `action_toggle_*`. -/
def Settings.toggle (s : Settings) : Toggle → Settings
  | .touchAim =>
    { s with
      aimTriggerMode := (s.aimTriggerMode + 1) % 3
      touchAim := (s.aimTriggerMode + 1) % 3 ≠ 2 }
  | .aimSpeed => { s with aimVelocity := (s.aimVelocity + 1) % 4 }
  | .aimBone => { s with aimBone := (s.aimBone + 1) % 3 }
  | .aimFov => { s with aimFovMode := (s.aimFovMode + 1) % 5 }
  | .aimZone => { s with aimTouchZone := (s.aimTouchZone + 1) % 3 }
  | .leadPred => { s with leadPred := !s.leadPred }
  | .recoilComp => { s with recoilComp := !s.recoilComp }
  | .adaptiveFov => { s with adaptiveFov := !s.adaptiveFov }
  | .aimSmooth => { s with aimSmooth := !s.aimSmooth }
  | .orientation => { s with orientationOverride := (s.orientationOverride + 1) % 3 }
  | .other => s

/-- What the user does. A callback of the AIM button is given where its touch is, if there is one. -/
inductive Callback (D : Type) where
  | aimTouchesBegan (touch : Option (CGPoint D))
  | aimTouchesMoved (touch : Option (CGPoint D))
  | aimTouchesEnded
  | aimTouchesCancelled
  | toggleMenu
  | toggle (t : Toggle)
  | stopRadar

section
variable {D : Type} [Double D]

namespace State

def aimTouchesBegan (touch : Option (CGPoint D)) (s : State D) : State D :=
  match touch with
  | some p =>
    { s with
      aimDragStartTouch := p, aimIsDragging := false, fingerDragX := 0.0, fingerDragY := 0.0, aimActive := true }
  | none => s

def aimTouchesMoved (touch : Option (CGPoint D)) (s : State D) : State D :=
  match touch with
  | some cur =>
    let dx := cur.x - s.aimDragStartTouch.x
    let dy := cur.y - s.aimDragStartTouch.y
    { s with
      fingerDragX := dx, fingerDragY := dy
      aimIsDragging :=
        if (4.0 : D) < Double.fabs dx ∨ (4.0 : D) < Double.fabs dy then true else s.aimIsDragging }
  | none => s

/-- `aim_btn_touchesEnded`, and `aim_btn_touchesCancelled`, which is the same. -/
def aimTouchesEnded (s : State D) : State D :=
  { s with
    aimActive := false, fingerDragX := 0.0, fingerDragY := 0.0, aimIsDragging := false
    sim := s.sim.buttonReleased s.settings.aimTouchZone }

def toggleMenu (s : State D) : State D := { s with menuOpen := !s.menuOpen }

/-- `action_stop_radar`: the mapping is given up, the snapshot stays. -/
def actionStopRadar (s : State D) : State D :=
  { s with shm := s.shm.stop, menuOpen := false, stopped := true }

def callback (s : State D) : Callback D → State D
  | .aimTouchesBegan touch => s.aimTouchesBegan touch
  | .aimTouchesMoved touch => s.aimTouchesMoved touch
  | .aimTouchesEnded => s.aimTouchesEnded
  | .aimTouchesCancelled => s.aimTouchesEnded
  | .toggleMenu => s.toggleMenu
  | .toggle t => { s with settings := s.settings.toggle t }
  | .stopRadar => s.actionStopRadar

/-! ### The tick -/

def noteTick (readAt : D) (s : State D) : State D :=
  if s.snapshot.header.tick = s.lastTick then s
  else
    { s with
      lastTick := s.snapshot.header.tick
      changedAt := readAt
      overlayLocalTeam :=
        if 0 < s.snapshot.header.localTeam then s.snapshot.header.localTeam else s.overlayLocalTeam }

/-- What `timer_tick` does with the result of `read_snapshot`. -/
def accept (readAt : D) (snapshot : Option RadarFrame) (s : State D) : State D :=
  match snapshot with
  | some f => { s with snapshot := f, stopped := false }.noteTick readAt
  | none => s

/-- The state when the aim engine of `timer_tick` begins. -/
def readPart (i : TickInput D) (s : State D) : Prog Kernel (State D) := do
  let (snapshot, shm) ← (readSharedMemory (s.frameCounter + 1)).run s.shm
  pure (({ s with frameCounter := s.frameCounter + 1, shm }.accept i.readAt snapshot).layoutScreen i)

def timerTick (ar : Arith) (i : TickInput D) (s : State D) : Prog Kernel (State D) := do
  let s ← s.readPart i
  pure (s.aimEngine ar i)

/-- What `init_overlay` does about the file. -/
def initOverlay (files : Files) : Prog Kernel (State D) := do
  let (_, shm) ← openSharedMemory.run (Shm.initial files)
  pure { State.initial files with shm }

end State

/-- A call of `timer_tick`: the state before it, the state when the aim engine began, and the state after it. -/
structure Tick (D : Type) where
  input : TickInput D
  start : State D
  gate : State D
  finish : State D

/-- A call of `timer_tick` from `s` whose system calls are answered by `h`. -/
def tickOf (ar : Arith) (h : Nat → Handler Kernel) (i : TickInput D) (s : State D) : Tick D where
  input := i
  start := s
  gate := ((s.readPart i).eval h 0).1
  finish := ((s.timerTick ar i).eval h 0).1

/-- A radar file that may or may not be there when the overlay starts. -/
def Files.AtStart (f : Files) : Prop :=
  f.descriptors = [] ∧ f.mappings = [] ∧ f.maxDescriptors = 0 ∧ f.maxMappings = 0 ∧ 0 < f.nextIno ∧
    ∀ ino, f.path = some ino → 0 < ino ∧ ino < f.nextIno

/-- The runs of the overlay, with the calls of `timer_tick` that they have made. -/
inductive Run (ar : Arith) : List (Tick D) → State D → Prop
  | init (files : Files) (h : Nat → Handler Kernel) : files.AtStart →
      Run ar [] ((State.initOverlay files).eval h 0).1
  | tick {ticks : List (Tick D)} {s : State D} (h : Nat → Handler Kernel) (i : TickInput D) : Run ar ticks s →
      Run ar (ticks ++ [tickOf ar h i s]) (tickOf ar h i s).finish
  | callback {ticks : List (Tick D)} {s : State D} (c : Callback D) : Run ar ticks s →
      Run ar ticks (s.callback c)

section Tick
variable (ar : Arith) (h : Nat → Handler Kernel) (i : TickInput D) (s : State D)

/-- The aim engine is the last thing that a tick does. -/
theorem finish_tickOf : (tickOf ar h i s).finish = (tickOf ar h i s).gate.aimEngine ar i := by
  simp [tickOf, State.timerTick]

theorem gate_tickOf :
    (tickOf ar h i s).gate =
      ({ s with
          frameCounter := s.frameCounter + 1
          shm := (((readSharedMemory (s.frameCounter + 1)).run s.shm).eval h 0).1.2 }.accept i.readAt
        (((readSharedMemory (s.frameCounter + 1)).run s.shm).eval h 0).1.1).layoutScreen i := by
  simp [tickOf, State.readPart]

end Tick
end
end RadarAim.Overlay
