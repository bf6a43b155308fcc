import Mathlib.Logic.Function.Basic

/-! The stop flag between the overlay, the app and the daemon: `main` and `run_radar_loop` of the daemon, and
    `action_stop_radar` of the overlay and of the app. A step is one system call that touches the flag, a signal,
    or what a loop does between two of them; instances of the daemon are numbered in the order in which they were
    started. -/

namespace RadarAim.Daemon

/-- Where an instance is: in the loop of `main` or in `run_radar_loop`. -/
inductive Pc where
  /-- The test of `gRunning` in `main`. -/
  | mainTest
  | mainAccess
  | mainUnlink
  /-- The target is looked for. -/
  | mainTarget
  | mainSleep
  /-- The test of `gRunning` in `run_radar_loop`. -/
  | radarTest
  | radarAccess
  | radarUnlink
  /-- The target is looked for again; the tick and the sleep come after it. -/
  | radarTick
  /-- `radar_destroy`; it returns to `main`. -/
  | radarDestroy
  /-- After the loop of `main`. -/
  | leaving
  deriving DecidableEq

structure Instance where
  pc : Pc
  gRunning : Bool

/-- The flag file; `running` is history, the instances that ran when it was written. -/
structure Flag where
  running : Nat → Bool

inductive App where
  | idle
  /-- The flag is written; `SIGTERM` is next. -/
  | terminating
  /-- `SIGTERM` was sent to the instance, which may have to be killed. -/
  | killing (i : Nat)

/-- The file, the instances and the two senders. `stopped` is history: the instances that found the flag, with
    the flag that they found. -/
structure System where
  flag : Option Flag
  instances : Nat → Option Instance
  started : Nat
  overlayStopping : Bool
  app : App
  stopped : List (Nat × Flag)

namespace System

def boot : System where
  flag := none
  instances := fun _ => none
  started := 0
  overlayStopping := false
  app := .idle
  stopped := []

def setInstance (s : System) (i : Nat) (d : Option Instance) : System :=
  { s with instances := Function.update s.instances i d }

/-- `fopen` with mode `"w"`, when it succeeds. -/
def writeFlag (s : System) : System := { s with flag := some ⟨fun i => (s.instances i).isSome⟩ }

def unlinkFlag (s : System) : System := { s with flag := none }

/-- `launchctl kickstart`, or a direct spawn by the app. -/
def start (s : System) : System :=
  { s.setInstance s.started (some ⟨.mainTest, true⟩) with started := s.started + 1 }

/-- `access` has found the flag. -/
def foundFlag (s : System) (i : Nat) (f : Flag) (d : Instance) : System :=
  { s.setInstance i (some d) with stopped := s.stopped ++ [(i, f)] }

section SetInstance
variable (s : System) (i j : Nat) (d : Option Instance)

@[simp] theorem instances_setInstance : (s.setInstance i d).instances = Function.update s.instances i d := rfl

end SetInstance
end System

/-- All steps but a start. -/
inductive Step : System → System → Prop
  /-- `action_stop_radar` of the overlay; the file may not open. -/
  | overlayFlag {s} : s.overlayStopping = false → Step s { s.writeFlag with overlayStopping := true }
  | overlayNoFlag {s} : s.overlayStopping = false → Step s { s with overlayStopping := true }
  /-- `killall -9`. -/
  | overlayKill {s} : s.overlayStopping = true →
      Step s { s with instances := fun _ => none, overlayStopping := false }
  /-- `action_stop_radar` of the app. -/
  | appFlag {s} : s.app = .idle → Step s { s.writeFlag with app := .terminating }
  | appNoFlag {s} : s.app = .idle → Step s { s with app := .terminating }
  | appNoDaemon {s} : s.app = .terminating → Step s { s with app := .idle }
  | appTerm {s i d} : s.app = .terminating → s.instances i = some d →
      Step s { s.setInstance i (some { d with gRunning := false }) with app := .killing i }
  | appKill {s i} : s.app = .killing i → Step s { s.setInstance i none with app := .idle }
  | appSpare {s i} : s.app = .killing i → Step s { s with app := .idle }
  /-- `action_start_radar` clears the flag. -/
  | appClear {s} : Step s s.unlinkFlag
  /-- A signal from anywhere else: `launchctl stop`, `kickstart -k`, a shutdown. -/
  | term {s i d} : s.instances i = some d → Step s (s.setInstance i (some { d with gRunning := false }))
  | kill {s i} : Step s (s.setInstance i none)
  | mainGoes {s i d} : s.instances i = some d → d.pc = .mainTest → d.gRunning = true →
      Step s (s.setInstance i (some { d with pc := .mainAccess }))
  | mainEnds {s i d} : s.instances i = some d → d.pc = .mainTest → d.gRunning = false →
      Step s (s.setInstance i (some { d with pc := .leaving }))
  | mainFound {s i d f} : s.instances i = some d → d.pc = .mainAccess → s.flag = some f →
      Step s (s.foundFlag i f { d with pc := .mainUnlink })
  | mainNotFound {s i d} : s.instances i = some d → d.pc = .mainAccess → s.flag = none →
      Step s (s.setInstance i (some { d with pc := .mainTarget }))
  | mainUnlinks {s i d} : s.instances i = some d → d.pc = .mainUnlink →
      Step s (s.unlinkFlag.setInstance i (some ⟨.leaving, false⟩))
  /-- The target runs, and the task port, the slide and the radar file could be had. -/
  | mainTarget {s i d} : s.instances i = some d → d.pc = .mainTarget →
      Step s (s.setInstance i (some { d with pc := .radarTest }))
  | mainNoTarget {s i d} : s.instances i = some d → d.pc = .mainTarget →
      Step s (s.setInstance i (some { d with pc := .mainSleep }))
  | mainSlept {s i d} : s.instances i = some d → d.pc = .mainSleep →
      Step s (s.setInstance i (some { d with pc := .mainTest }))
  | radarGoes {s i d} : s.instances i = some d → d.pc = .radarTest → d.gRunning = true →
      Step s (s.setInstance i (some { d with pc := .radarAccess }))
  | radarEnds {s i d} : s.instances i = some d → d.pc = .radarTest → d.gRunning = false →
      Step s (s.setInstance i (some { d with pc := .radarDestroy }))
  | radarFound {s i d f} : s.instances i = some d → d.pc = .radarAccess → s.flag = some f →
      Step s (s.foundFlag i f { d with pc := .radarUnlink })
  | radarNotFound {s i d} : s.instances i = some d → d.pc = .radarAccess → s.flag = none →
      Step s (s.setInstance i (some { d with pc := .radarTick }))
  | radarUnlinks {s i d} : s.instances i = some d → d.pc = .radarUnlink →
      Step s (s.unlinkFlag.setInstance i (some ⟨.radarDestroy, false⟩))
  | radarTicked {s i d} : s.instances i = some d → d.pc = .radarTick →
      Step s (s.setInstance i (some { d with pc := .radarTest }))
  /-- The target has gone. -/
  | radarLeft {s i d} : s.instances i = some d → d.pc = .radarTick →
      Step s (s.setInstance i (some { d with pc := .radarDestroy }))
  | radarDestroyed {s i d} : s.instances i = some d → d.pc = .radarDestroy →
      Step s (s.setInstance i (some { d with pc := .mainSleep }))
  | exits {s i d} : s.instances i = some d → d.pc = .leaving → Step s (s.setInstance i none)

/-- The runs in which a daemon is started only in states of `mayStart`. -/
inductive Run (mayStart : System → Prop) : System → Prop
  | boot : Run mayStart System.boot
  | step {s t} : Run mayStart s → Step s t → Run mayStart t
  | start {s} : Run mayStart s → mayStart s → Run mayStart s.start

end RadarAim.Daemon
