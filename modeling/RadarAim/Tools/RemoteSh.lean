import RadarAim.Lib.Bytes

/-! `run_script` of `remote_sh.py`, the phone and what is between them. The phone runs the pushed script once for each
    run command that it receives; commands and replies take their time, and commands may be lost, replies cut off. The
    histories `sent`, `executed` and `ended` have the attempts, the last one first. -/

namespace RadarAim
namespace RemoteSh

/-! ### What is sent -/

/-- `script_text.replace("\r\n", "\n")` -/
def replaceCrlf : Str → Str
  | [] => []
  | [c] => [c]
  | c :: d :: s => if c = 13 ∧ d = 10 then 10 :: replaceCrlf s else c :: replaceCrlf (d :: s)

def pathLine : Str :=
  lit "export PATH=/var/jb/usr/bin:/var/jb/bin:/var/jb/usr/sbin:/var/jb/sbin:/usr/bin:/bin:/usr/sbin:/sbin\n"

def doneMarker : Str := lit "__CODEX_DONE__"

/-- The script that is pushed for the text `scriptText`. -/
def prepare (scriptText : Str) : Str :=
  let text := replaceCrlf scriptText
  let text := if (lit "#!").isPrefixOf text then text else lit "#!/var/jb/bin/sh\n" ++ pathLine ++ text
  let text := if (lit "\n").isSuffixOf text then text else text ++ lit "\n"
  text ++ lit "echo " ++ doneMarker ++ lit "\n"

def runCommand (name : Str) : Str :=
  pathLine ++ lit "/var/jb/bin/sh /var/mobile/Media/" ++ name ++ lit "\nexit\n"

/-! ### The parties -/

inductive Pc where
  | pushing
  | connecting
  | connected
  | shellSent
  | reading (out : Str)
  | returned (result : Str)
  | raised

/-- A command on its way to the phone, on the connection of an attempt. -/
structure Command where
  attempt : Nat
  text : Str

structure System where
  scriptText : Str
  name : Str
  pc : Pc
  attempt : Nat
  outStr : Str
  /-- The scripts on the phone. -/
  pushed : Str → Option Str
  commands : List Command
  /-- What the client has still to receive on the connection of an attempt. -/
  replies : Nat → Str
  sent : List Nat
  executed : List Nat
  ended : List Nat

/-- `run_script` is called. -/
def System.call (scriptText name : Str) : System where
  scriptText := scriptText
  name := name
  pc := .pushing
  attempt := 0
  outStr := []
  pushed := fun _ => none
  commands := []
  replies := fun _ => []
  sent := []
  executed := []
  ended := []

namespace System
variable (s : System)

/-- The attempt is over, and there may be one more. -/
def nextAttempt : System :=
  if s.attempt + 1 < 3 then { s with pc := .connecting, attempt := s.attempt + 1, ended := s.attempt :: s.ended }
  else { s with pc := .returned s.outStr, ended := s.attempt :: s.ended }

/-- The loop over the reply has ended with `out`. -/
def finish (out : Str) : System :=
  if strstr out doneMarker then { s with pc := .returned out, outStr := out }
  else { s with outStr := out }.nextAttempt

/-- The loop over the reply has received `b`. -/
def receive (out b : Str) : System :=
  if strstr (out ++ b) doneMarker then s.finish (out ++ b) else { s with pc := .reading (out ++ b) }

/-- The run command is on its way. -/
def send : System :=
  { s with commands := ⟨s.attempt, runCommand s.name⟩ :: s.commands, sent := s.attempt :: s.sent }

def setReply (i : Nat) (reply : Str) : System := { s with replies := fun j => if j = i then reply else s.replies j }

end System

/-- Commands before and after one of them is taken. -/
inductive Taken (c : Command) : List Command → List Command → Prop
  | head {cs} : Taken c (c :: cs) cs
  | tail {d cs cs'} : Taken c cs cs' → Taken c (d :: cs) (d :: cs')

inductive Step : System → System → Prop
  | pushes {s} : s.pc = .pushing →
      Step s { s with
        pc := .connecting,
        pushed := fun n => if n = s.name then some (prepare s.scriptText) else s.pushed n }
  | pushFails {s} (stderr : Str) : s.pc = .pushing →
      Step s { s with pc := .returned (lit "AFC push failed: " ++ stderr) }
  | pushTimesOut {s} : s.pc = .pushing → Step s { s with pc := .raised }
  | connects {s} : s.pc = .connecting → Step s { s with pc := .connected }
  | connectFails {s} : s.pc = .connecting → Step s s.nextAttempt
  | sendsShell {s} : s.pc = .connected → Step s { s with pc := .shellSent }
  | shellFails {s} : s.pc = .connected → Step s s.nextAttempt
  | sendsRun {s} : s.pc = .shellSent → Step s { s.send with pc := .reading [] }
  | runFails {s} : s.pc = .shellSent → Step s s.nextAttempt
  /-- The connection breaks when the command is already out. -/
  | runBreaks {s} : s.pc = .shellSent → Step s s.send.nextAttempt
  | receives {s out b rest} : s.pc = .reading out → b ≠ [] → b.length ≤ 4096 → s.replies s.attempt = b ++ rest →
      Step s ((s.receive out b).setReply s.attempt rest)
  /-- The stream ends, or a receive fails or times out. -/
  | receiveEnds {s out} : s.pc = .reading out → Step s (s.finish out)
  /-- The phone receives a command and runs its script. -/
  | executes {s} {c : Command} {cs : List Command} {script : Str} (reply : Str) : Taken c s.commands cs →
      c.text = runCommand s.name → s.pushed s.name = some script →
      Step s ({ s with commands := cs, executed := c.attempt :: s.executed }.setReply c.attempt
        (s.replies c.attempt ++ reply))
  | loses {s} {c : Command} {cs : List Command} : Taken c s.commands cs → Step s { s with commands := cs }
  | cutsReply {s} (i n : Nat) : Step s (s.setReply i ((s.replies i).take n))

inductive Run (scriptText name : Str) : System → Prop
  | call : Run scriptText name (.call scriptText name)
  | step {s t} : Run scriptText name s → Step s t → Run scriptText name t

end RemoteSh
end RadarAim
