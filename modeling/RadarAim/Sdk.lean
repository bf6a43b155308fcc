import RadarAim.Json

/-! The schema dump (`ue4_sdk_generate`). The classes are streamed into a pending file, which is renamed over
    the last dump once it is known to be complete. -/

namespace RadarAim
open Stdio

/-- The files at `UE4_SDK_OUTPUT_PATH` and at its pending path; `seen` is history: what the output path held
    after each operation on it. -/
structure Files where
  output : Option Str
  pending : Option Str
  seen : List (Option Str)

namespace Files

def note (f : Files) : Files := { f with seen := f.seen ++ [f.output] }

/-- `open` with `O_CREAT | O_TRUNC`. -/
def truncate (f : Files) : Files := { f with pending := some [] }.note

def store (f : Files) (contents : Str) : Files := { f with pending := some contents }.note

def rename (f : Files) : Files := { f with output := f.pending, pending := none }.note

def remove (f : Files) : Files := { f with pending := none }.note

end Files

/-- Which operations of the system succeed; `remove` is taken to. -/
structure Faults where
  fopen : Bool
  rmTaskAcquire : Bool
  openPending : Bool
  fdopen : Bool
  calloc : Bool
  stream : Nat → Outcome
  rename : Bool

/-- The writer, unless the pending file could not be opened for it. -/
def ue4jWriterOpen (faults : Faults) (files : Files) : Option Ue4jWriter × Files :=
  if !faults.openPending then (none, files)
  else if faults.fdopen ∧ faults.calloc then (some (ue4jWriterStart faults.stream), files.truncate)
  else (none, files.truncate)

def writeClass (w : Ue4jWriter) (cls : Ue4Class) : Ue4jWriter := (ue4jWriterWriteClass w cls).2

/-- The end of `ue4_sdk_generate`, from the call of `ue4j_writer_close` on. -/
def finishDump (faults : Faults) (files : Files) (w : Ue4jWriter) (count : Int) : Int × Files :=
  let closed := ue4jWriterClose w
  let files := files.store closed.2.file
  if count > 0 ∧ closed.1 = count ∧ faults.rename then (0, files.rename) else (-1, files.remove)

section Generate
variable {μ : Type → Type} [Monad μ] {γ : Type}

/-- `ue4_sdk_generate` with the address of the image and its slide (`none` when they were not found), the start
    of the walker and its iterator. -/
def generate (faults : Faults) (aslr : Option (UInt64 × UInt64)) (init : UInt64 → UInt64 → μ (Option γ))
    (iterate : γ → (Ue4jWriter → Ue4Class → Ue4jWriter) → Ue4jWriter → μ (Ue4jWriter × Int)) (files : Files) :
    μ (Int × Files) :=
  if !faults.fopen then pure (-1, files)
  else if !faults.rmTaskAcquire then pure (-1, files)
  else match aslr with
    | none => pure (-1, files)
    | some (base, slide) => do
      match ← init base slide with
      | none => pure (-1, files)
      | some ctx =>
        match ue4jWriterOpen faults files with
        | (none, files) => pure (-1, files.remove)
        | (some w, files) => do
          let (w, count) ← iterate ctx writeClass w
          pure (finishDump faults files w count)

end Generate

/-- `ue4_sdk_generate` on a process; it has no result when a list walk has not ended. -/
def ue4SdkGenerate (fuel : Nat) (faults : Faults) (aslr : Option (UInt64 × UInt64)) (guobjOff gnamesOff : UInt64)
    (files : Files) : OptionT Read (Int × Files) :=
  generate faults aslr (fun base slide => OptionT.lift (ue4rInit base slide guobjOff gnamesOff))
    (fun ctx cb w => OptionT.mk ((ue4rIterateClasses fuel cb w).run' ctx)) files

end RadarAim
