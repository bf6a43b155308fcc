import RadarAim.Lib.Prog
import RadarAim.Radar.Data

/-! How the overlay finds, maps and reads the radar file (`close_shared_memory`, `open_shared_memory`,
    `read_snapshot`). Between two system calls the daemon may delete the file, create it anew or change its
    length, and any call may fail. -/

namespace RadarAim.Overlay

/-- `sizeof(radar_shared_t)`. -/
def radarSharedSize : Nat := 33768

def radarMagic : UInt32 := 0x52444152

def radarVersion : UInt32 := 4

/-! ### The files -/

inductive FileAction where
  | delete
  | create (size : Nat)
  | resize (ino size : Nat)

/-- What `stat` reports of a file. -/
structure Stat where
  ino : Nat
  size : Nat
  deriving DecidableEq

structure Descriptor where
  fd : Nat
  ino : Nat
  deriving DecidableEq

structure Mapping where
  addr : Nat
  ino : Nat
  deriving DecidableEq

/-- The radar file, and the descriptors and mappings of it that the overlay holds. The rest is history, since
    the last tick began but for the two maxima: what the path named at each call, and whether a `stat` or another
    call failed that the state of the files gave no reason for. -/
structure Files where
  path : Option Nat
  size : Nat → Nat
  nextIno : Nat
  descriptors : List Descriptor
  mappings : List Mapping
  maxDescriptors : Nat
  maxMappings : Nat
  sightings : List (Option Stat)
  statFailed : Bool
  callFailed : Bool

namespace Files

/-- Every creation gets a fresh inode. -/
def act (f : Files) : FileAction → Files
  | .delete => { f with path := none }
  | .create size =>
    match f.path with
    | some _ => f
    | none => { f with path := some f.nextIno, size := Function.update f.size f.nextIno size, nextIno := f.nextIno + 1 }
  | .resize ino size => { f with size := Function.update f.size ino size }

def named (f : Files) : Option Stat := f.path.map fun ino => ⟨ino, f.size ino⟩

def see (f : Files) (sighting : Option Stat) : Files := { f with sightings := f.sightings ++ [sighting] }

def failStat (f : Files) : Files := { f with statFailed := true }

def fail (f : Files) : Files := { f with callFailed := true }

def addDescriptor (f : Files) (d : Descriptor) : Files :=
  { f with
    descriptors := d :: f.descriptors
    maxDescriptors := max f.maxDescriptors (f.descriptors.length + 1) }

def addMapping (f : Files) (m : Mapping) : Files :=
  { f with mappings := m :: f.mappings, maxMappings := max f.maxMappings (f.mappings.length + 1) }

end Files

/-- The variables of the overlay that concern the file, and the files. -/
structure Shm where
  gShmFd : Int
  gShared : Option Nat
  gShmIno : Nat
  files : Files

def Shm.initial (files : Files) : Shm := { gShmFd := -1, gShared := none, gShmIno := 0, files }

/-! ### The system calls -/

inductive ShmCall where
  /-- What was done to the files since the last call. -/
  | between
  | fails
  /-- A number for a descriptor, or the address of a mapping. -/
  | fresh
  /-- A load of `header.sequence` of the mapped file. -/
  | sequence
  /-- The bytes copied from the mapped file. -/
  | copy

def Kernel : Sig where
  Call := ShmCall
  Reply
    | .between => List FileAction
    | .fails => Bool
    | .fresh => Nat
    | .sequence => UInt32
    | .copy => RadarFrame

abbrev SharedMemory := StateT Shm (Prog Kernel)

def between : SharedMemory (List FileAction) := liftM (Prog.ask (E := Kernel) .between)

def fails : SharedMemory Bool := liftM (Prog.ask (E := Kernel) .fails)

def fresh : SharedMemory Nat := liftM (Prog.ask (E := Kernel) .fresh)

def loadSequence : SharedMemory UInt32 := liftM (Prog.ask (E := Kernel) .sequence)

def copyShared : SharedMemory RadarFrame := liftM (Prog.ask (E := Kernel) .copy)

def Shm.onFiles (f : Files → Files) (s : Shm) : Shm := { s with files := f s.files }

/-- A call has begun: the files are as the others have left them. -/
def Files.begin (actions : List FileAction) (f : Files) : Files :=
  let f := actions.foldl Files.act f
  f.see f.named

def beginCall : SharedMemory Unit := do
  let actions ← between
  modify (Shm.onFiles (Files.begin actions))

def stat : SharedMemory (Option Stat) := do
  beginCall
  if ← fails then do
    modify (Shm.onFiles Files.failStat)
    pure none
  else do
    let s ← get
    pure s.files.named

/-- A call other than `stat` that fails without a reason. -/
def failCall {α : Type} (result : α) : SharedMemory α := do
  modify (Shm.onFiles Files.fail)
  pure result

def openAt (fd : Nat) : SharedMemory Int := do
  let s ← get
  match s.files.path with
  | none => pure (-1)
  | some ino => do
    modify (Shm.onFiles fun f => f.addDescriptor ⟨fd, ino⟩)
    pure fd

def openFile : SharedMemory Int := do
  beginCall
  if ← fails then failCall (-1) else do
    let fd ← fresh
    openAt fd

def Files.inodeOf (f : Files) (fd : Int) : Option Nat :=
  (f.descriptors.find? fun d => (d.fd : Int) = fd).map Descriptor.ino

def fstat (fd : Int) : SharedMemory (Option Stat) := do
  beginCall
  if ← fails then failCall none else do
    let s ← get
    pure ((s.files.inodeOf fd).map fun ino => ⟨ino, s.files.size ino⟩)

def mmapAt (fd : Int) (addr : Nat) : SharedMemory (Option Nat) := do
  let s ← get
  match s.files.inodeOf fd with
  | none => pure none
  | some ino => do
    modify (Shm.onFiles fun f => f.addMapping ⟨addr, ino⟩)
    pure (some addr)

def mmap (fd : Int) : SharedMemory (Option Nat) := do
  beginCall
  if ← fails then failCall none else do
    let addr ← fresh
    mmapAt fd addr

/-- `munmap` of what is mapped and `close` of what is open do not fail. -/
def Files.munmap (addr : Nat) (f : Files) : Files :=
  { f with mappings := f.mappings.filter fun m => m.addr ≠ addr }

def Files.close (fd : Int) (f : Files) : Files :=
  { f with descriptors := f.descriptors.filter fun d => (d.fd : Int) ≠ fd }

/-! ### The mapping -/

namespace Shm

def unmap (s : Shm) : Shm :=
  match s.gShared with
  | some addr => { s.onFiles (Files.munmap addr) with gShared := none }
  | none => s

def closeFd (s : Shm) : Shm :=
  if 0 ≤ s.gShmFd then { s.onFiles (Files.close s.gShmFd) with gShmFd := -1 } else s

def closeSharedMemory (s : Shm) : Shm := { s.unmap.closeFd with gShmIno := 0 }

/-- What `action_stop_radar` does: `g_shm_ino` stays as it is. -/
def stop (s : Shm) : Shm := s.unmap.closeFd

/-- The first test of `open_shared_memory`: the mapped file was replaced. -/
def closeIfReplaced (ino : Nat) (s : Shm) : Shm :=
  if s.gShared.isSome ∧ s.gShmIno ≠ 0 ∧ ino ≠ s.gShmIno then s.closeSharedMemory else s

def setFd (fd : Int) (s : Shm) : Shm := { s with gShmFd := fd }

def setShared (addr ino : Nat) (s : Shm) : Shm := { s with gShared := some addr, gShmIno := ino }

end Shm

def mapOpened (fd : Int) (st : Stat) : SharedMemory Bool := do
  match ← mmap fd with
  | none => do
    modify Shm.closeFd
    pure false
  | some addr => do
    modify (Shm.setShared addr st.ino)
    pure true

def checkOpened (fd : Int) : SharedMemory Bool := do
  match ← fstat fd with
  | none => do
    modify Shm.closeFd
    pure false
  | some st =>
    if st.size < radarSharedSize then do
      modify Shm.closeFd
      pure false
    else mapOpened fd st

def openMapping : SharedMemory Bool := do
  let fd ← openFile
  modify (Shm.setFd fd)
  if fd < 0 then pure false else checkOpened fd

def openUnlessShared : SharedMemory Bool := do
  let s ← get
  if s.gShared.isSome then pure true else openMapping

def openSharedMemory : SharedMemory Bool := do
  match ← stat with
  | none => pure false
  | some st =>
    if st.size < radarSharedSize then pure false
    else do
      modify (Shm.closeIfReplaced st.ino)
      openUnlessShared

/-! ### The snapshot -/

/-- The checks on a copy whose sequence was the same before and after. -/
def checkCandidate (candidate : RadarFrame) : SharedMemory (Option RadarFrame) :=
  if candidate.header.magic ≠ radarMagic ∨ candidate.header.version ≠ radarVersion then do
    modify Shm.closeSharedMemory
    let _ ← openSharedMemory
    pure none
  else if radarMaxPlayers < candidate.players.length then pure none
  else pure (some candidate)

def readRetries : (retries : Nat) → SharedMemory (Option RadarFrame)
  | 0 => pure none
  | retries + 1 => do
    let seq ← loadSequence
    if seq &&& 1 ≠ 0 then readRetries retries else do
      let candidate ← copyShared
      let again ← loadSequence
      if seq ≠ again then readRetries retries else checkCandidate candidate

/-- The new contents of `g_snapshot`, when it returns `YES`. -/
def readSnapshot : SharedMemory (Option RadarFrame) := do
  let s ← get
  if s.gShared.isSome then readRetries 3
  else if ← openSharedMemory then readRetries 3
  else pure none

/-! ### The tick -/

def reopenIfChanged (st : Stat) : SharedMemory Unit := do
  let s ← get
  if st.ino ≠ s.gShmIno ∨ s.gShared.isNone then do
    let _ ← openSharedMemory
    pure ()
  else pure ()

def reconnect : SharedMemory Unit := do
  match ← stat with
  | none => pure ()
  | some st => reopenIfChanged st

def Shm.beginTick : Shm → Shm :=
  Shm.onFiles fun f => { f with sightings := [], statFailed := false, callFailed := false }

/-- Part 1 of `timer_tick`. -/
def readSharedMemory (frameCounter : Nat) : SharedMemory (Option RadarFrame) := do
  modify Shm.beginTick
  if frameCounter % 20 = 1 then do
    reconnect
    readSnapshot
  else readSnapshot

end RadarAim.Overlay
