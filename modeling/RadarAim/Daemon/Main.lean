import RadarAim.Aslr
import RadarAim.Lib.Protocol
import RadarAim.Lib.Scanf

/-! The program of the daemon (`main.c`): what it asks of the system, in its order. A loop is cut off after as many
    rounds as its fuel allows. The thread that keeps the thermal monitor alive, the transaction and the memory limit
    of the process, which nothing else depends on, are left out. -/

namespace RadarAim.Daemon
open Prog Scanf

/-- A process: `p_comm` and `p_pid`. -/
structure KinfoProc where
  comm : Str
  pid : Int

/-- The result of `write` for `size` bytes; `interrupted` is `EINTR`. -/
inductive Written (size : Nat) where
  | wrote (n : Fin (size + 1))
  | interrupted
  | failed

inductive Made where
  | made
  | exists
  | failed

/-- `kStopFlagPath`, `kPidFilePath` and the file of the radar. -/
inductive Path where
  | stopFlag
  | pidFile
  | radarFile
  deriving DecidableEq

/-- What the program asks of the system, of its own signal handler and of the rest of the daemon. `processes` is the
    pair of calls of `sysctl`; an open file is closed again by the program, a task is released. -/
inductive Call where
  | testRunning
  | clearRunning
  | writePidFile
  | access (p : Path)
  | unlink (p : Path)
  | processes
  | mkdir
  | openMarker
  | write (data : List UInt8)
  | fsync
  | close
  | chown
  | taskAcquire (pid : Int)
  | taskRelease (task : UInt32)
  | getSlide (task : UInt32)
  | radarInit (task : UInt32) (base slide : UInt64)
  | radarTick
  | radarDestroy
  | sdkGenerate (pid : Int)
  | usleep (microseconds : Nat)

/-- `none` for a call that fails, or `MACH_PORT_NULL`; for `radarInit` and `sdkGenerate`, whether the result is 0. -/
@[reducible] def Call.Reply : Call → Type
  | .testRunning | .writePidFile | .access _ | .openMarker | .radarInit _ _ _ | .sdkGenerate _ => Bool
  | .processes => Option (List KinfoProc)
  | .mkdir => Made
  | .write data => Written data.length
  | .taskAcquire _ => Option UInt32
  | .getSlide _ => AslrResult
  | _ => Unit

def Sys : Sig := ⟨Call, Call.Reply⟩

/-- A program, which may be cut off. -/
abbrev Serve := OptionT (Prog Sys)

def ask (c : Call) : Serve c.Reply := askFor (E := Sys) c

def kTargetExecutablePrefix : Str := lit "ShadowTracker"

def kMarkerText : Str := lit "I have loaded. I am running.\n"

/-- The first process whose name contains the name of the target, and 0 if there is none. -/
def targetIn (processes : Option (List KinfoProc)) : Int :=
  (((processes.getD []).find? fun p => strstr p.comm kTargetExecutablePrefix).map KinfoProc.pid).getD 0

def findTargetProcess : Serve Int := targetIn <$> ask .processes

/-! ### The marker -/

/-- Whether all of `data` was written. -/
def writeAll : (fuel : Nat) → (data : List UInt8) → Serve Bool
  | 0, data => if data = [] then pure true else failure
  | fuel + 1, data =>
    if data = [] then pure true
    else do
      match ← ask (.write data) with
      | .interrupted => writeAll fuel data
      | .failed => pure false
      | .wrote n => if n.val = 0 then pure false else writeAll fuel (data.drop n.val)

/-- The rest of `write_marker` once the file is open. -/
def writeOpenMarker (fuel : Nat) : Serve Bool := do
  if ← writeAll fuel kMarkerText then do
    ask .fsync
    ask .close
    ask .chown
    pure true
  else do
    ask .close
    pure false

def writeMarker (fuel : Nat) : Serve Bool := do
  match ← ask .mkdir with
  | .failed => pure false
  | _ => if ← ask .openMarker then writeOpenMarker fuel else pure false

/-! ### The loops -/

/-- The stop flag is there: it is removed, and `gRunning` is cleared. -/
def stopFlagged : Serve Bool := do
  if ← ask (.access .stopFlag) then do
    ask (.unlink .stopFlag)
    ask .clearRunning
    pure true
  else pure false

/-- The loop of `run_radar_loop`. -/
def radarLoop (targetPid : Int) : (fuel : Nat) → Serve Unit
  | 0 => failure
  | fuel + 1 => do
    if ← ask .testRunning then
      if ← stopFlagged then pure ()
      else
        let cur ← findTargetProcess
        if cur ≠ targetPid then pure ()
        else do
          ask .radarTick
          ask (.usleep 50000)
          radarLoop targetPid fuel
    else pure ()

/-- What `run_radar_loop` does with a task before it is released. -/
def serveTask (fuel : Nat) (targetPid : Int) (task : UInt32) : Serve Unit := do
  let aslr ← ask (.getSlide task)
  if aslr.found then
    if ← ask (.radarInit task aslr.base aslr.slide) then do
      radarLoop targetPid fuel
      ask .radarDestroy
    else pure ()
  else pure ()

def runRadarLoop (fuel : Nat) (targetPid : Int) : Serve Unit := do
  match ← ask (.taskAcquire targetPid) with
  | none => pure ()
  | some task => do
    serveTask fuel targetPid task
    ask (.taskRelease task)

/-- A round of the loop of `main` in which no stop was asked for: the new value of `last_reported_pid`. -/
def serveTarget (fuel : Nat) (lastReportedPid : Int) : Serve Int := do
  let pid ← findTargetProcess
  if pid ≠ 0 ∧ pid ≠ lastReportedPid then
    if ← writeMarker fuel then do
      runRadarLoop fuel pid
      pure 0
    else pure lastReportedPid
  else pure (if pid = 0 then 0 else lastReportedPid)

/-- The loop of `main`. -/
def mainLoop : (fuel : Nat) → (lastReportedPid : Int) → Serve Unit
  | 0, _ => failure
  | fuel + 1, lastReportedPid => do
    if ← ask .testRunning then
      if ← stopFlagged then pure ()
      else
        let lastReportedPid ← serveTarget fuel lastReportedPid
        ask (.usleep 250000)
        mainLoop fuel lastReportedPid
    else pure ()

/-! ### The program -/

/-- The digits of a number, as `atoi` takes them. A number that does not fit is undefined in C. -/
def atoiDigits (s : Str) : Int :=
  (s.takeWhile fun c => 0x30 ≤ c && c ≤ 0x39).foldl (fun n c => 10 * n + (c.toNat - 0x30)) 0

def atoi (s : Str) : Int :=
  match s.dropWhile isSpace with
  | [] => 0
  | c :: s => if c = 0x2d then -atoiDigits s else if c = 0x2b then atoiDigits s else atoiDigits (c :: s)

/-- What the arguments ask for: a dump of a process, the radar of a process, or the service. -/
inductive Mode where
  | dumpOnce (pid : Int)
  | direct (pid : Int)
  | service
  deriving DecidableEq

/-- `args` is `argv` without the name of the program. -/
def modeOf (args : List Str) : Mode :=
  match args with
  | [] => .service
  | [first, second] =>
    if first = lit "--dump-once" then .dumpOnce (atoi second)
    else if 0 < atoi first then .direct (atoi first) else .service
  | first :: _ => if 0 < atoi first then .direct (atoi first) else .service

/-- The exit code. -/
def main (fuel : Nat) (args : List Str) : Serve Int := do
  let _ ← ask .writePidFile
  match modeOf args with
  | .dumpOnce pid => do
    ask (.unlink .pidFile)
    if 0 < pid then do
      if ← ask (.sdkGenerate pid) then pure 0 else pure 1
    else pure 1
  | .direct pid => do
    let _ ← writeMarker fuel
    runRadarLoop fuel pid
    ask (.unlink .pidFile)
    pure 0
  | .service => do
    mainLoop fuel 0
    ask (.unlink .pidFile)
    ask (.unlink .radarFile)
    pure 0

end RadarAim.Daemon
