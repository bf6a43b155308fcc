import RadarAim.Daemon
import RadarAim.Daemon.Main

/-! The processes of the daemon on the phone: each is started as a service and goes through `main` call by call, while
    the overlay, the app and the system write the flag and send signals. -/

namespace RadarAim.Daemon
open Prog

/-- A process: what it has still to do, and its `gRunning`. -/
structure Process where
  rest : Prog Sys (Option Int)
  gRunning : Bool

/-- The state of `System`, with the processes in the place of the instances. -/
structure Machine where
  flag : Option Flag
  processes : Nat → Option Process
  started : Nat
  overlayStopping : Bool
  app : App
  stopped : List (Nat × Flag)

namespace Machine

def boot : Machine where
  flag := none
  processes := fun _ => none
  started := 0
  overlayStopping := false
  app := .idle
  stopped := []

def setProcess (m : Machine) (i : Nat) (p : Option Process) : Machine :=
  { m with processes := Function.update m.processes i p }

def writeFlag (m : Machine) : Machine := { m with flag := some ⟨fun i => (m.processes i).isSome⟩ }

/-- A process is started; it is observed for as long as the fuel lasts. -/
def start (m : Machine) (fuel : Nat) : Machine :=
  { m.setProcess m.started (some ⟨(main fuel []).run, true⟩) with started := m.started + 1 }

/-- The replies that a process may get. -/
def replies (m : Machine) (p : Process) : (c : Call) → c.Reply → Prop
  | .testRunning, r => r = p.gRunning
  | .access .stopFlag, r => r = m.flag.isSome
  | _, _ => True

/-- Process `i` has made the call `c`, and goes on with `rest`. -/
def after (m : Machine) (i : Nat) (p : Process) (rest : Prog Sys (Option Int)) : Call → Machine
  | .clearRunning => m.setProcess i (some ⟨rest, false⟩)
  | .unlink .stopFlag => { m.setProcess i (some { p with rest := rest }) with flag := none }
  | .access .stopFlag =>
    match m.flag with
    | some f => { m.setProcess i (some { p with rest := rest }) with stopped := m.stopped ++ [(i, f)] }
    | none => m.setProcess i (some { p with rest := rest })
  | _ => m.setProcess i (some { p with rest := rest })

end Machine

/-- All steps but a start. -/
inductive MachineStep : Machine → Machine → Prop
  | overlayFlag {m} : m.overlayStopping = false → MachineStep m { m.writeFlag with overlayStopping := true }
  | overlayNoFlag {m} : m.overlayStopping = false → MachineStep m { m with overlayStopping := true }
  | overlayKill {m} : m.overlayStopping = true →
      MachineStep m { m with processes := fun _ => none, overlayStopping := false }
  | appFlag {m} : m.app = .idle → MachineStep m { m.writeFlag with app := .terminating }
  | appNoFlag {m} : m.app = .idle → MachineStep m { m with app := .terminating }
  | appNoDaemon {m} : m.app = .terminating → MachineStep m { m with app := .idle }
  | appTerm {m i p} : m.app = .terminating → m.processes i = some p →
      MachineStep m { m.setProcess i (some { p with gRunning := false }) with app := .killing i }
  | appKill {m i} : m.app = .killing i → MachineStep m { m.setProcess i none with app := .idle }
  | appSpare {m i} : m.app = .killing i → MachineStep m { m with app := .idle }
  | appClear {m} : MachineStep m { m with flag := none }
  | term {m i p} : m.processes i = some p → MachineStep m (m.setProcess i (some { p with gRunning := false }))
  | kill {m i} : MachineStep m (m.setProcess i none)
  | call {m : Machine} {i : Nat} {p : Process} {c : Call} {k : c.Reply → Prog Sys (Option Int)} (r : c.Reply) :
      m.processes i = some p → p.rest = .call c k → m.replies p c r → MachineStep m (m.after i p (k r) c)
  /-- `main` has returned. -/
  | exits {m i p} {code : Int} : m.processes i = some p → p.rest = .done (some code) →
      MachineStep m (m.setProcess i none)

inductive MachineRun (mayStart : Machine → Prop) : Machine → Prop
  | boot : MachineRun mayStart Machine.boot
  | step {m m'} : MachineRun mayStart m → MachineStep m m' → MachineRun mayStart m'
  | start {m} (fuel : Nat) : MachineRun mayStart m → mayStart m → MachineRun mayStart (m.start fuel)

end RadarAim.Daemon
