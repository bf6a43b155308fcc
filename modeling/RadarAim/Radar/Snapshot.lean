import Mathlib.Data.List.FinRange
import RadarAim.Lib.Seqlock

/-! The snapshot protocol between the daemon and the overlay: `publish` writes the words of
    `radar_shared_t` into the mapped file, `read_snapshot` copies them out. One step accesses one aligned
    32-bit word of the file; the words of one `memcpy` may be moved in any order. The daemon may die after
    any step, and a later one runs `radar_init` on the file it left. -/

namespace RadarAim.Snapshot
open Seqlock (Frame)

/-- `sizeof(radar_shared_t) / 4`. -/
def sharedWords : Nat := 8442

abbrev Word := Fin sharedWords

abbrev Shared := Frame Word 32

/-! Words of the header that the protocol names; `offsetof` divided by four. -/

def magicWord : Word := ⟨0, by decide⟩
def versionWord : Word := ⟨1, by decide⟩
def tickWord : Word := ⟨2, by decide⟩
def playerCountWord : Word := ⟨3, by decide⟩
def sequenceWord : Word := ⟨13, by decide⟩
def statusWord : Word := ⟨14, by decide⟩

def radarMagic : BitVec 32 := 0x52444152
def radarVersion : BitVec 32 := 4
def radarMaxPlayers : Nat := 100

/-- The words before `header.sequence`: the first `memcpy` of `publish`. -/
@[irreducible] def prefixWords : List Word := (List.finRange sharedWords).filter (· < sequenceWord)

/-- The words after `header.sequence`: the second `memcpy` of `publish`. -/
@[irreducible] def suffixWords : List Word := (List.finRange sharedWords).filter (sequenceWord < ·)

/-- The frame that `publish` copies: `frame` with magic, version, tick and status stored in its header. -/
def stamp (frame : Shared) (tick status : BitVec 32) : Shared := fun i =>
  if i = magicWord then radarMagic
  else if i = versionWord then radarVersion
  else if i = tickWord then tick
  else if i = statusWord then status
  else frame i

inductive Publish where
  | idle
  /-- `sequence` was loaded; the odd store is next. -/
  | loaded (frame : Shared) (sequence : BitVec 32)
  /-- The odd `sequence` is stored; the words of `todo` are left of the first `memcpy`. -/
  | copyPrefix (frame : Shared) (sequence : BitVec 32) (todo : List Word)
  /-- The words of `todo` are left of the second `memcpy`. -/
  | copySuffix (frame : Shared) (sequence : BitVec 32) (todo : List Word)

inductive Daemon where
  | dead
  | running (tick : BitVec 32) (pc : Publish)

inductive Overlay where
  | idle
  | retry (n : Nat)
  /-- `seq` was loaded and is even; the words of `todo` are left of the `memcpy` into `candidate`. `begun`
      and `completed` are history: the publications begun and completed before the load. -/
  | copying (n : Nat) (seq : BitVec 32) (begun completed : Nat) (candidate : Shared) (todo : List Word)

/-- The file, the daemon, the overlays `ρ`, and the history that the results speak of. -/
structure System (ρ : Type) where
  shared : Shared
  daemon : Daemon
  overlays : ρ → Overlay
  /-- The frames given to `publish`. -/
  published : List Shared
  /-- The snapshots for which `read_snapshot` returned `YES`. -/
  accepted : List (Seqlock.Accepted Word 32)
  begun : Nat
  completed : Nat

/-- The checks of `read_snapshot` on a candidate. -/
def snapshotValid (candidate : Shared) : Bool :=
  candidate magicWord == radarMagic && candidate versionWord == radarVersion &&
    candidate playerCountWord ≤ radarMaxPlayers

section
variable {ρ : Type} [DecidableEq ρ]

/-- The daemon calls `publish`: it stamps the frame and loads the sequence word. -/
def System.callPublish (s : System ρ) (tick : BitVec 32) (frame : Shared) (status : BitVec 32) : System ρ :=
  { s with
    daemon := .running (tick + 1) (.loaded (stamp frame (tick + 1) status) (s.shared sequenceWord))
    published := s.published ++ [stamp frame (tick + 1) status] }

def System.setOverlay (s : System ρ) (r : ρ) (x : Overlay) : System ρ :=
  { s with overlays := Function.update s.overlays r x }

inductive Step : System ρ → System ρ → Prop
  /-- `radar_init` maps the file, whose contents it keeps, clears `tick` and `frame` and calls `publish(1)`. -/
  | radarInit {s} : s.daemon = .dead → Step s (s.callPublish 0 (fun _ => 0) 1)
  /-- `radar_tick` and `radar_destroy` call `publish` with a frame and a status of their own. -/
  | publish {s tick} (frame : Shared) (status : BitVec 32) : s.daemon = .running tick .idle →
      Step s (s.callPublish tick frame status)
  | storeOdd {s tick frame sequence} : s.daemon = .running tick (.loaded frame sequence) →
      Step s { s with
        shared := Function.update s.shared sequenceWord ((sequence + 1) ||| 1)
        daemon := .running tick (.copyPrefix frame ((sequence + 1) ||| 1) prefixWords)
        begun := s.begun + 1 }
  | prefixWord {s tick frame sequence todo i} :
      s.daemon = .running tick (.copyPrefix frame sequence todo) → i ∈ todo →
      Step s { s with
        shared := Function.update s.shared i (frame i)
        daemon := .running tick (.copyPrefix frame sequence (todo.erase i)) }
  | prefixDone {s tick frame sequence} : s.daemon = .running tick (.copyPrefix frame sequence []) →
      Step s { s with daemon := .running tick (.copySuffix frame sequence suffixWords) }
  | suffixWord {s tick frame sequence todo i} :
      s.daemon = .running tick (.copySuffix frame sequence todo) → i ∈ todo →
      Step s { s with
        shared := Function.update s.shared i (frame i)
        daemon := .running tick (.copySuffix frame sequence (todo.erase i)) }
  | storeEven {s tick frame sequence} : s.daemon = .running tick (.copySuffix frame sequence []) →
      Step s { s with
        shared := Function.update s.shared sequenceWord (sequence + 1)
        daemon := .running tick .idle
        completed := s.completed + 1 }
  | die {s} : Step s { s with daemon := .dead }
  | call {s r} : s.overlays r = .idle → Step s (s.setOverlay r (.retry 0))
  | loadOdd {s r n} : s.overlays r = .retry n → n < 3 → (s.shared sequenceWord).toNat % 2 = 1 →
      Step s (s.setOverlay r (.retry (n + 1)))
  | loadEven {s r n} (candidate : Shared) : s.overlays r = .retry n → n < 3 →
      (s.shared sequenceWord).toNat % 2 = 0 →
      Step s (s.setOverlay r
        (.copying n (s.shared sequenceWord) s.begun s.completed candidate (List.finRange sharedWords)))
  | exhausted {s r n} : s.overlays r = .retry n → 3 ≤ n → Step s (s.setOverlay r .idle)
  | copyWord {s r n seq b c candidate todo i} : s.overlays r = .copying n seq b c candidate todo → i ∈ todo →
      Step s (s.setOverlay r
        (.copying n seq b c (Function.update candidate i (s.shared i)) (todo.erase i)))
  | changed {s r n seq b c candidate} : s.overlays r = .copying n seq b c candidate [] →
      s.shared sequenceWord ≠ seq → Step s (s.setOverlay r (.retry (n + 1)))
  /-- Bad magic, version or player count: `NO`. -/
  | rejected {s r n seq b c candidate} : s.overlays r = .copying n seq b c candidate [] →
      s.shared sequenceWord = seq → snapshotValid candidate = false → Step s (s.setOverlay r .idle)
  /-- `g_snapshot = candidate`, and `YES`. -/
  | accepted {s r n seq b c candidate} : s.overlays r = .copying n seq b c candidate [] →
      s.shared sequenceWord = seq → snapshotValid candidate = true →
      Step s { s.setOverlay r .idle with
        accepted := s.accepted ++ [⟨candidate, s.begun - b, s.completed - c⟩] }

/-- The file that `radar_init` creates holds zeros. -/
def emptyFile : Shared := fun _ => 0

def boot : System ρ :=
  { shared := emptyFile, daemon := .dead, overlays := fun _ => .idle, published := [], accepted := [],
    begun := 0, completed := 0 }

inductive Reachable : System ρ → Prop
  | boot : Reachable boot
  | step {s t} : Reachable s → Step s t → Reachable t

/-- `a` is one frame given to `publish`, in every field other than `header.sequence`. -/
def OneFrame (s : System ρ) (snapshot : Shared) : Prop :=
  ∃ f ∈ s.published, ∀ i, i ≠ sequenceWord → snapshot i = f i

end
end RadarAim.Snapshot
