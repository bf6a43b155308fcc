import RadarAim.Lib.Triple
import RadarAim.Theorems.Touch

/-! The mapping of the radar file over a run. Between its calls the overlay either holds nothing, or one
    descriptor and one mapping of the same file, whose inode number it remembers; only a number that it remembers
    without a mapping may be out of date. -/

namespace RadarAim.Overlay
namespace Reconnect
open Ieee Prog

/-! ### What the overlay holds -/

structure Base (s : Shm) : Prop where
  nextIno : 0 < s.files.nextIno
  path : ∀ ino, s.files.path = some ino → 0 < ino
  maxDescriptors : s.files.maxDescriptors ≤ 1
  maxMappings : s.files.maxMappings ≤ 1

structure Free (s : Shm) : Prop where
  gShared : s.gShared = none
  gShmFd : s.gShmFd = -1
  descriptors : s.files.descriptors = []
  mappings : s.files.mappings = []

/-- The file is open and not yet mapped; the variables of the overlay are not all set. -/
structure Opened (fd ino : Nat) (s : Shm) : Prop where
  pos : 0 < ino
  gShared : s.gShared = none
  descriptors : s.files.descriptors = [⟨fd, ino⟩]
  mappings : s.files.mappings = []

structure Mapped (addr fd ino : Nat) (s : Shm) : Prop where
  pos : 0 < ino
  gShared : s.gShared = some addr
  gShmFd : s.gShmFd = fd
  gShmIno : s.gShmIno = ino
  descriptors : s.files.descriptors = [⟨fd, ino⟩]
  mappings : s.files.mappings = [⟨addr, ino⟩]

def MapsFile (ino : Nat) (s : Shm) : Prop := ∃ addr fd, Mapped addr fd ino s

def Held (s : Shm) : Prop := Base s ∧ (Free s ∨ ∃ ino, MapsFile ino s)

/-- At every call of this tick the path named the file `ino`, which was full-sized. -/
def Names (ino : Nat) (s : Shm) : Prop := ∀ x ∈ s.files.sightings, ∃ size, x = some ⟨ino, size⟩ ∧ radarSharedSize ≤ size

/-- The path named the file `ino`, and no call failed. -/
structure Steady (ino : Nat) (s : Shm) : Prop where
  sightings : Names ino s
  statFailed : s.files.statFailed = false
  callFailed : s.files.callFailed = false

/-! ### The elementary updates -/

section Updates
variable {s : Shm} {ino : Nat}

/-- The others have acted and a call begins. -/
def begun (actions : List FileAction) (s : Shm) : Shm := s.onFiles (Files.begin actions)

def missed (s : Shm) : Shm := s.onFiles Files.failStat

def failed (s : Shm) : Shm := s.onFiles Files.fail

/-- What the overlay holds is none of the others' business. -/
structure SameHeld (f g : Files) : Prop where
  descriptors : g.descriptors = f.descriptors
  mappings : g.mappings = f.mappings
  maxDescriptors : g.maxDescriptors = f.maxDescriptors
  maxMappings : g.maxMappings = f.maxMappings
  sightings : g.sightings = f.sightings
  statFailed : g.statFailed = f.statFailed
  callFailed : g.callFailed = f.callFailed

theorem SameHeld.refl (f : Files) : SameHeld f f := ⟨rfl, rfl, rfl, rfl, rfl, rfl, rfl⟩

theorem SameHeld.act {f g : Files} (h : SameHeld f g) (a : FileAction) : SameHeld f (g.act a) := by
  obtain ⟨h1, h2, h3, h4, h5, h6, h7⟩ := h
  cases a with
  | delete => exact ⟨h1, h2, h3, h4, h5, h6, h7⟩
  | create size =>
    unfold Files.act
    dsimp only
    split
    · exact ⟨h1, h2, h3, h4, h5, h6, h7⟩
    · exact ⟨h1, h2, h3, h4, h5, h6, h7⟩
  | resize ino size => exact ⟨h1, h2, h3, h4, h5, h6, h7⟩

def PathValid (f : Files) : Prop := 0 < f.nextIno ∧ ∀ ino, f.path = some ino → 0 < ino

theorem PathValid.act {f : Files} (h : PathValid f) (a : FileAction) : PathValid (f.act a) := by
  cases a with
  | delete => exact ⟨h.1, fun ino hino => by cases hino⟩
  | create size =>
    unfold Files.act
    dsimp only
    split
    · exact h
    · refine ⟨Nat.succ_pos _, fun ino hino => ?_⟩
      cases hino
      exact h.1
  | resize ino size => exact h

theorem acts_kept (actions : List FileAction) {f g : Files} (hsame : SameHeld f g) (hpath : PathValid g) :
    SameHeld f (actions.foldl Files.act g) ∧ PathValid (actions.foldl Files.act g) := by
  induction actions generalizing g with
  | nil => exact ⟨hsame, hpath⟩
  | cons a actions ih => exact ih (hsame.act a) (hpath.act a)

/-- The files when the others have acted. -/
theorem begun_files (h : Base s) (actions : List FileAction) :
    SameHeld s.files (actions.foldl Files.act s.files) ∧ PathValid (actions.foldl Files.act s.files) :=
  acts_kept actions (SameHeld.refl _) ⟨h.nextIno, h.path⟩

theorem Base.begun (h : Base s) (actions : List FileAction) : Base (begun actions s) := by
  obtain ⟨hsame, hpath⟩ := begun_files h actions
  exact ⟨hpath.1, hpath.2, hsame.maxDescriptors.trans_le h.maxDescriptors, hsame.maxMappings.trans_le h.maxMappings⟩

theorem Free.begun (h : Free s) (hb : Base s) (actions : List FileAction) : Free (begun actions s) := by
  obtain ⟨hsame, -⟩ := begun_files hb actions
  exact ⟨h.gShared, h.gShmFd, hsame.descriptors.trans h.descriptors, hsame.mappings.trans h.mappings⟩

theorem Opened.begun {fd : Nat} (h : Opened fd ino s) (hb : Base s) (actions : List FileAction) :
    Opened fd ino (begun actions s) := by
  obtain ⟨hsame, -⟩ := begun_files hb actions
  exact ⟨h.pos, h.gShared, hsame.descriptors.trans h.descriptors, hsame.mappings.trans h.mappings⟩

theorem MapsFile.begun (h : MapsFile ino s) (hb : Base s) (actions : List FileAction) :
    MapsFile ino (begun actions s) := by
  obtain ⟨addr, fd, hm⟩ := h
  obtain ⟨hsame, -⟩ := begun_files hb actions
  exact ⟨addr, fd, hm.pos, hm.gShared, hm.gShmFd, hm.gShmIno, hsame.descriptors.trans hm.descriptors,
    hsame.mappings.trans hm.mappings⟩

theorem Held.begun (h : Held s) (actions : List FileAction) : Held (begun actions s) := by
  obtain ⟨hb, hfree | ⟨ino, hmaps⟩⟩ := h
  · exact ⟨hb.begun actions, Or.inl (hfree.begun hb actions)⟩
  · exact ⟨hb.begun actions, Or.inr ⟨ino, hmaps.begun hb actions⟩⟩

theorem Steady.of_begun (hb : Base s) {actions : List FileAction} (h : Steady ino (begun actions s)) :
    Steady ino s := by
  obtain ⟨hsame, -⟩ := begun_files hb actions
  refine ⟨fun x hx => h.sightings x ?_, ?_, ?_⟩
  · show x ∈ (actions.foldl Files.act s.files).sightings ++ _
    rw [hsame.sightings]
    exact List.mem_append_left _ hx
  · rw [← hsame.statFailed]
    exact h.statFailed
  · rw [← hsame.callFailed]
    exact h.callFailed

/-- What is named at the begin of a call in a steady tick. -/
theorem Steady.named {actions : List FileAction} (h : Steady ino (begun actions s)) :
    ∃ size, (begun actions s).files.named = some ⟨ino, size⟩ ∧ radarSharedSize ≤ size :=
  h.sightings _ (List.mem_append_right _ (List.mem_singleton.mpr rfl))

theorem Steady.path {actions : List FileAction} (h : Steady ino (begun actions s)) :
    (begun actions s).files.path = some ino ∧ radarSharedSize ≤ (begun actions s).files.size ino := by
  obtain ⟨size, hnamed, hsize⟩ := h.named
  obtain ⟨ino', hpath, hstat⟩ := Option.map_eq_some_iff.mp hnamed
  cases hstat
  exact ⟨hpath, hsize⟩

theorem not_steady_missed : ¬Steady ino (missed s) := by
  intro h
  cases h.statFailed

theorem not_steady_failed : ¬Steady ino (failed s) := by
  intro h
  cases h.callFailed

end Updates

/-! ### What a call may do -/

section Calls
variable {P : Shm → Prop}

theorem beginCall_triple {Q : Shm → Prop} (h : ∀ s actions, P s → Q (begun actions s)) :
    Triple P beginCall fun _ => Q := by
  refine Triple.bind (R := fun _ => P) (Triple.lift _ fun _ _ hs => hs) fun actions => ?_
  exact Triple.modify fun s hs => h s actions hs

theorem failCall_triple {α : Type} {Q : α → Shm → Prop} (result : α) (h : ∀ s, P s → Q result (failed s)) :
    Triple P (failCall result) Q :=
  Triple.bind (R := fun _ => Q result) (Triple.modify h) fun _ => Triple.pure fun _ hs => hs

theorem stat_triple {Q : Option Stat → Shm → Prop}
    (h : ∀ s actions, P s → Q none (missed (begun actions s)) ∧ Q (begun actions s).files.named (begun actions s)) :
    Triple P stat Q := by
  refine Triple.bind (beginCall_triple (Q := fun s => Q none (missed s) ∧ Q s.files.named s) h) fun _ => ?_
  refine Triple.bind (R := fun _ s => Q none (missed s) ∧ Q s.files.named s)
    (Triple.lift _ fun _ _ hs => hs) fun fails => ?_
  refine Triple.ite (fun _ => ?_) fun _ => ?_
  · exact Triple.bind (R := fun _ => Q none) (Triple.modify fun s hs => hs.1) fun _ => Triple.pure fun _ hs => hs
  · exact Triple.bindGet fun s _ => Triple.pure fun t ht => ht.1 ▸ ht.2.2

theorem openFile_triple {Q : Int → Shm → Prop}
    (h : ∀ s actions, P s → Q (-1) (failed (begun actions s)) ∧
      ((begun actions s).files.path = none → Q (-1) (begun actions s)) ∧
      ∀ (fd : Nat) ino, (begun actions s).files.path = some ino →
        Q fd ((begun actions s).onFiles fun f => f.addDescriptor ⟨fd, ino⟩)) : Triple P openFile Q := by
  refine Triple.bind (beginCall_triple (Q := fun s => Q (-1) (failed s) ∧ (s.files.path = none → Q (-1) s) ∧
    ∀ (fd : Nat) ino, s.files.path = some ino → Q fd (s.onFiles fun f => f.addDescriptor ⟨fd, ino⟩)) h) fun _ => ?_
  refine Triple.bind (R := fun _ => _) (Triple.lift _ fun _ _ hs => hs) fun fails => ?_
  refine Triple.ite (fun _ => failCall_triple _ fun s hs => hs.1) fun _ => ?_
  refine Triple.bind (R := fun _ => _) (Triple.lift _ fun _ _ hs => hs) fun fd => ?_
  refine Triple.bindGet fun s _ => ?_
  cases hpath : s.files.path with
  | none => exact Triple.pure fun t ht => ht.2.2.1 (ht.1 ▸ hpath)
  | some ino =>
    refine Triple.bind (R := fun _ => Q fd) (Triple.modify fun t ht => ?_) fun _ => Triple.pure fun _ hs => hs
    exact ht.2.2.2 fd ino (ht.1 ▸ hpath)

theorem fstat_triple {Q : Option Stat → Shm → Prop} (fd : Int)
    (h : ∀ s actions, P s → Q none (failed (begun actions s)) ∧
      Q (((begun actions s).files.inodeOf fd).map fun ino => ⟨ino, (begun actions s).files.size ino⟩)
        (begun actions s)) :
    Triple P (fstat fd) Q := by
  refine Triple.bind (beginCall_triple (Q := fun s => Q none (failed s) ∧
    Q ((s.files.inodeOf fd).map fun ino => ⟨ino, s.files.size ino⟩) s) h) fun _ => ?_
  refine Triple.bind (R := fun _ => _) (Triple.lift _ fun _ _ hs => hs) fun fails => ?_
  refine Triple.ite (fun _ => failCall_triple _ fun s hs => hs.1) fun _ => ?_
  exact Triple.bindGet fun s _ => Triple.pure fun t ht => ht.1 ▸ ht.2.2

theorem mmap_triple {Q : Option Nat → Shm → Prop} (fd : Int)
    (h : ∀ s actions, P s → Q none (failed (begun actions s)) ∧
      ((begun actions s).files.inodeOf fd = none → Q none (begun actions s)) ∧
      ∀ addr ino, (begun actions s).files.inodeOf fd = some ino →
        Q (some addr) ((begun actions s).onFiles fun f => f.addMapping ⟨addr, ino⟩)) : Triple P (mmap fd) Q := by
  refine Triple.bind (beginCall_triple (Q := fun s => Q none (failed s) ∧ (s.files.inodeOf fd = none → Q none s) ∧
    ∀ addr ino, s.files.inodeOf fd = some ino →
      Q (some addr) (s.onFiles fun f => f.addMapping ⟨addr, ino⟩)) h) fun _ => ?_
  refine Triple.bind (R := fun _ => _) (Triple.lift _ fun _ _ hs => hs) fun fails => ?_
  refine Triple.ite (fun _ => failCall_triple _ fun s hs => hs.1) fun _ => ?_
  refine Triple.bind (R := fun _ => _) (Triple.lift _ fun _ _ hs => hs) fun addr => ?_
  refine Triple.bindGet fun s _ => ?_
  cases hino : s.files.inodeOf fd with
  | none => exact Triple.pure fun t ht => ht.2.2.1 (ht.1 ▸ hino)
  | some ino =>
    refine Triple.bind (R := fun _ => Q (some addr)) (Triple.modify fun t ht => ?_) fun _ => Triple.pure fun _ hs => hs
    exact ht.2.2.2 addr ino (ht.1 ▸ hino)

end Calls

/-! ### Giving up what is held -/

section Close
variable {s : Shm} {ino fd addr : Nat}

theorem Base.closeFd (h : Base s) : Base s.closeFd := by
  unfold Shm.closeFd
  split
  · exact { h with }
  · exact h

theorem Base.unmap (h : Base s) : Base s.unmap := by
  unfold Shm.unmap
  split
  · exact { h with }
  · exact h

theorem Steady.of_closeFd (h : Steady ino s.closeFd) : Steady ino s := by
  unfold Shm.closeFd at h
  split at h
  · exact ⟨h.sightings, h.statFailed, h.callFailed⟩
  · exact h

theorem Steady.of_unmap (h : Steady ino s.unmap) : Steady ino s := by
  unfold Shm.unmap at h
  split at h
  · exact ⟨h.sightings, h.statFailed, h.callFailed⟩
  · exact h

theorem Opened.closeFd (h : Opened fd ino s) (hfd : s.gShmFd = fd) : Free s.closeFd := by
  unfold Shm.closeFd
  rw [if_pos (show 0 ≤ s.gShmFd by omega)]
  refine ⟨h.gShared, rfl, ?_, h.mappings⟩
  show s.files.descriptors.filter _ = []
  rw [h.descriptors, hfd]
  simp

theorem Mapped.unmap (h : Mapped addr fd ino s) : Opened fd ino s.unmap ∧ s.unmap.gShmFd = fd := by
  unfold Shm.unmap
  rw [h.gShared]
  refine ⟨⟨h.pos, rfl, h.descriptors, ?_⟩, h.gShmFd⟩
  show s.files.mappings.filter _ = []
  rw [h.mappings]
  simp

theorem Free.unmap (h : Free s) : Free s.unmap := by
  unfold Shm.unmap
  rw [h.gShared]
  exact h

theorem Free.closeFd (h : Free s) : Free s.closeFd := by
  unfold Shm.closeFd
  rw [if_neg (by rw [h.gShmFd]; decide)]
  exact h

/-- `action_stop_radar` gives everything up, and so does `close_shared_memory`. -/
theorem Held.stop (h : Held s) : Base s.stop ∧ Free s.stop := by
  obtain ⟨hb, hfree | ⟨ino, addr, fd, hm⟩⟩ := h
  · exact ⟨hb.unmap.closeFd, hfree.unmap.closeFd⟩
  · obtain ⟨hopened, hfd⟩ := hm.unmap
    exact ⟨hb.unmap.closeFd, hopened.closeFd hfd⟩

theorem Held.closeSharedMemory (h : Held s) : Base s.closeSharedMemory ∧ Free s.closeSharedMemory := by
  obtain ⟨hb, hfree⟩ := h.stop
  exact ⟨{ hb with },
    { hfree with }⟩

theorem Steady.of_closeSharedMemory (h : Steady ino s.closeSharedMemory) : Steady ino s :=
  Steady.of_unmap (Steady.of_closeFd (s := s.unmap) ⟨h.sightings, h.statFailed, h.callFailed⟩)

/-- When the file found is not the one mapped, nothing is held any more; the number that may be remembered without
    a mapping is not looked at. -/
theorem Held.closeIfReplaced (h : Held s) (ino : Nat) :
    Base (s.closeIfReplaced ino) ∧ (Free (s.closeIfReplaced ino) ∨ MapsFile ino (s.closeIfReplaced ino)) := by
  unfold Shm.closeIfReplaced
  split
  · obtain ⟨hb, hfree⟩ := h.closeSharedMemory
    exact ⟨hb, Or.inl hfree⟩
  · rename_i hkept
    obtain ⟨hb, hfree | ⟨ino', addr, fd, hm⟩⟩ := h
    · exact ⟨hb, Or.inl hfree⟩
    · have hino : ino = ino' := by
        by_contra hne
        refine hkept ⟨by rw [hm.gShared]; rfl, ?_, ?_⟩
        · rw [hm.gShmIno]
          exact Nat.ne_of_gt hm.pos
        · rw [hm.gShmIno]
          exact hne
      exact ⟨hb, Or.inr ⟨addr, fd, hino ▸ hm⟩⟩

theorem Steady.of_closeIfReplaced {i : Nat} (h : Steady ino (s.closeIfReplaced i)) : Steady ino s := by
  unfold Shm.closeIfReplaced at h
  split at h
  · exact h.of_closeSharedMemory
  · exact h

end Close

/-! ### Opening -/

section Open
variable (ino : Nat)

/-- What holds after the overlay has looked for the file. -/
def Connected (s : Shm) : Prop := Held s ∧ (Steady ino s → MapsFile ino s)

variable {ino}

theorem connected_free {s : Shm} (hb : Base s) (hfree : Free s) (h : ¬Steady ino s) : Connected ino s :=
  ⟨⟨hb, Or.inl hfree⟩, fun hsteady => absurd hsteady h⟩

theorem inodeOf_opened {s : Shm} {fd i : Nat} (h : Opened fd i s) : s.files.inodeOf fd = some i := by
  simp [Files.inodeOf, h.descriptors]

/-- A descriptor of the file `i`, which is the file that the path names in a steady tick. -/
structure Opening (ino fd i : Nat) (s : Shm) : Prop where
  base : Base s
  opened : Opened fd i s
  gShmFd : s.gShmFd = fd
  sure : Steady ino s → i = ino

theorem Opening.closed {s : Shm} {fd i : Nat} (h : Opening ino fd i s) (hno : ¬Steady ino s) :
    Connected ino s.closeFd :=
  connected_free h.base.closeFd (h.opened.closeFd h.gShmFd) fun hsteady => hno hsteady.of_closeFd

theorem Opening.begun {s : Shm} {fd i : Nat} (h : Opening ino fd i s) (actions : List FileAction) :
    Opening ino fd i (begun actions s) :=
  ⟨h.base.begun actions, h.opened.begun h.base actions, h.gShmFd, fun hsteady => h.sure (hsteady.of_begun h.base)⟩

theorem Opening.failed {s : Shm} {fd i : Nat} (h : Opening ino fd i s) : Opening ino fd i (failed s) :=
  ⟨{ h.base with }, { h.opened with }, h.gShmFd, fun hsteady => absurd hsteady not_steady_failed⟩

/-- `mmap` gave an address. -/
theorem Opening.mapped {s : Shm} {fd i : Nat} (h : Opening ino fd i s) (addr : Nat) :
    Connected ino ((s.onFiles fun f => f.addMapping ⟨addr, i⟩).setShared addr i) := by
  have hm : Mapped addr fd i ((s.onFiles fun f => f.addMapping ⟨addr, i⟩).setShared addr i) := by
    refine ⟨h.opened.pos, rfl, h.gShmFd, rfl, h.opened.descriptors, ?_⟩
    show ⟨addr, i⟩ :: s.files.mappings = _
    rw [h.opened.mappings]
  have hb : Base ((s.onFiles fun f => f.addMapping ⟨addr, i⟩).setShared addr i) := by
    refine { h.base with maxMappings := ?_ }
    show max s.files.maxMappings (s.files.mappings.length + 1) ≤ 1
    rw [h.opened.mappings]
    exact Nat.max_le.mpr ⟨h.base.maxMappings, Nat.le_refl 1⟩
  refine ⟨⟨hb, Or.inr ⟨i, addr, fd, hm⟩⟩, fun hsteady => ?_⟩
  have hi : i = ino := h.sure ⟨hsteady.sightings, hsteady.statFailed, hsteady.callFailed⟩
  exact ⟨addr, fd, hi ▸ hm⟩

theorem mapOpened_triple (fd i : Nat) (st : Stat) (hst : st.ino = i) :
    Triple (Opening ino fd i) (mapOpened fd st) fun _ => Connected ino := by
  refine Triple.bind (R := fun r s => (r = none ∧ Opening ino fd i s ∧ ¬Steady ino s) ∨
    ∃ addr t, r = some addr ∧ Opening ino fd i t ∧ s = t.onFiles fun f => f.addMapping ⟨addr, i⟩) ?_ fun r => ?_
  · refine mmap_triple _ fun s actions hs => ?_
    have hbegun := hs.begun actions
    refine ⟨Or.inl ⟨rfl, hbegun.failed, not_steady_failed⟩, fun hnone => ?_, fun addr j hj => ?_⟩
    · rw [inodeOf_opened hbegun.opened] at hnone
      cases hnone
    · rw [inodeOf_opened hbegun.opened] at hj
      cases hj
      exact Or.inr ⟨addr, _, rfl, hbegun, rfl⟩
  · cases r with
    | none =>
      refine Triple.bind (R := fun _ => Connected ino) (Triple.modify fun s hs => ?_) fun _ =>
        Triple.pure fun _ hs => hs
      obtain ⟨-, hopening, hno⟩ | ⟨addr, t, hr, -⟩ := hs
      · exact hopening.closed hno
      · cases hr
    | some addr =>
      refine Triple.bind (R := fun _ => Connected ino) (Triple.modify fun s hs => ?_) fun _ =>
        Triple.pure fun _ hs => hs
      obtain ⟨hr, -⟩ | ⟨addr', t, hr, hopening, rfl⟩ := hs
      · cases hr
      · cases hr
        rw [hst]
        exact hopening.mapped addr

/-- In a steady tick the file that was opened is long enough. -/
theorem checkOpened_triple (fd i : Nat) : Triple (Opening ino fd i) (checkOpened fd) fun _ => Connected ino := by
  refine Triple.bind (R := fun r s => Opening ino fd i s ∧
    ((r = none ∧ ¬Steady ino s) ∨ ∃ size, r = some ⟨i, size⟩ ∧ (Steady ino s → radarSharedSize ≤ size))) ?_ fun r => ?_
  · refine fstat_triple _ fun s actions hs => ?_
    have hbegun := hs.begun actions
    refine ⟨⟨hbegun.failed, Or.inl ⟨rfl, not_steady_failed⟩⟩, hbegun,
      Or.inr ⟨(begun actions s).files.size i, ?_, fun hsteady => ?_⟩⟩
    · rw [inodeOf_opened hbegun.opened]
      rfl
    · rw [hbegun.sure hsteady]
      exact hsteady.path.2
  · cases r with
    | none =>
      -- `fstat` failed, so not all calls of the tick have succeeded.
      refine Triple.bind (R := fun _ => Connected ino) (Triple.modify fun s hs => ?_) fun _ =>
        Triple.pure fun _ hs => hs
      obtain ⟨hopening, ⟨-, hno⟩ | ⟨size, hr, -⟩⟩ := hs
      · exact hopening.closed hno
      · cases hr
    | some st =>
      refine Triple.ite (fun hshort => ?_) fun _ => ?_
      · refine Triple.bind (R := fun _ => Connected ino) (Triple.modify fun s hs => ?_) fun _ =>
          Triple.pure fun _ hs => hs
        -- When all calls succeed, the file has its full size.
        obtain ⟨hopening, ⟨hr, -⟩ | ⟨size, hr, hfull⟩⟩ := hs
        · cases hr
        · cases hr
          exact hopening.closed fun hsteady => absurd (hfull hsteady) (Nat.not_le_of_lt hshort)
      · refine fun s hs => ?_
        obtain ⟨hopening, ⟨hr, -⟩ | ⟨size, hr, -⟩⟩ := hs
        · cases hr
        · cases hr
          exact mapOpened_triple fd i ⟨i, size⟩ rfl s hopening

/-- `open` gave the descriptor `fd` of the file that the path names. -/
theorem opening_of_open {s : Shm} {i : Nat} (hb : Base s) (hfree : Free s) (fd : Nat) (hpath : s.files.path = some i)
    (hsure : Steady ino s → s.files.path = some ino) :
    Opening ino fd i ((s.onFiles fun f => f.addDescriptor ⟨fd, i⟩).setFd fd) := by
  refine ⟨{ hb with maxDescriptors := ?_ }, ⟨hb.path i hpath, hfree.gShared, ?_, hfree.mappings⟩,
    rfl, fun hsteady => ?_⟩
  · show max s.files.maxDescriptors (s.files.descriptors.length + 1) ≤ 1
    rw [hfree.descriptors]
    exact Nat.max_le.mpr ⟨hb.maxDescriptors, Nat.le_refl 1⟩
  · show ⟨fd, i⟩ :: s.files.descriptors = _
    rw [hfree.descriptors]
  · have hino := hsure ⟨hsteady.sightings, hsteady.statFailed, hsteady.callFailed⟩
    rw [hpath] at hino
    cases hino
    rfl

theorem openMapping_triple : Triple (fun s => Base s ∧ Free s) openMapping fun _ => Connected ino := by
  refine Triple.bind (R := fun (r : Int) s => (r = -1 ∧ Base s ∧ Free s ∧ ¬Steady ino s) ∨
    ∃ (fd : Nat) (i : Nat), r = fd ∧ Opening ino fd i (s.setFd fd)) ?_ fun r => ?_
  · refine openFile_triple fun s actions hs => ?_
    have hb := hs.1.begun actions
    have hfree := hs.2.begun hs.1 actions
    refine ⟨Or.inl ⟨rfl, { hb with },
      { hfree with }, not_steady_failed⟩,
      fun hnone => Or.inl ⟨rfl, hb, hfree, fun hsteady => ?_⟩,
      fun fd i hpath => Or.inr ⟨fd, i, rfl, opening_of_open hb hfree fd hpath fun hsteady => hsteady.path.1⟩⟩
    have hpath := hsteady.path.1
    rw [hnone] at hpath
    cases hpath
  · refine Triple.bind
      (R := fun _ s => (r = -1 ∧ Connected ino s) ∨ ∃ (fd : Nat) (i : Nat), r = fd ∧ Opening ino fd i s)
      (Triple.modify fun s hs => ?_) fun _ => ?_
    · obtain ⟨rfl, hb, hfree, hno⟩ | ⟨fd, i, rfl, hopening⟩ := hs
      · refine Or.inl ⟨rfl, connected_free { hb with }
          ⟨hfree.gShared, rfl, hfree.descriptors, hfree.mappings⟩ fun hsteady => ?_⟩
        exact hno ⟨hsteady.sightings, hsteady.statFailed, hsteady.callFailed⟩
      · exact Or.inr ⟨fd, i, rfl, hopening⟩
    · refine Triple.ite (fun hneg => Triple.pure fun s hs => ?_) fun hpos s hs => ?_
      · obtain ⟨-, hconnected⟩ | ⟨fd, i, rfl, -⟩ := hs
        · exact hconnected
        · omega
      · obtain ⟨rfl, -⟩ | ⟨fd, i, rfl, hopening⟩ := hs
        · omega
        · exact checkOpened_triple fd i s hopening

theorem openUnlessShared_triple (i : Nat) :
    Triple (fun s => Base s ∧ (Free s ∨ MapsFile i s) ∧ (Steady ino s → i = ino)) openUnlessShared
      fun _ => Connected ino := by
  refine Triple.bindGet fun s _ => Triple.ite (fun hshared => Triple.pure fun t ht => ?_) fun hshared t ht => ?_
  · obtain ⟨rfl, hb, hfree | hmaps, hsure⟩ := ht
    · rw [hfree.gShared] at hshared
      cases hshared
    · exact ⟨⟨hb, Or.inr ⟨i, hmaps⟩⟩, fun hsteady => hsure hsteady ▸ hmaps⟩
  · obtain ⟨rfl, hb, hfree | ⟨addr, fd, hm⟩, -⟩ := ht
    · exact openMapping_triple t ⟨hb, hfree⟩
    · rw [hm.gShared] at hshared
      exact absurd rfl hshared

/-- What `stat` reports in a steady tick. -/
theorem stat_held (ino : Nat) : Triple Held stat fun r s => Held s ∧
    ((r = none ∧ ¬Steady ino s) ∨
      ∃ st : Stat, r = some st ∧ (Steady ino s → st.ino = ino ∧ radarSharedSize ≤ st.size)) := by
  refine stat_triple fun s actions hs => ?_
  have hheld := hs.begun actions
  refine ⟨⟨?_, Or.inl ⟨rfl, not_steady_missed⟩⟩, hheld, ?_⟩
  · obtain ⟨hb, hfree | ⟨i, addr, fd, hm⟩⟩ := hheld
    · exact ⟨{ hb with },
        Or.inl { hfree with }⟩
    · exact ⟨{ hb with },
        Or.inr ⟨i, addr, fd, { hm with }⟩⟩
  · cases hnamed : (begun actions s).files.named with
    | none =>
      refine Or.inl ⟨rfl, fun hsteady => ?_⟩
      obtain ⟨size, hsome, -⟩ := hsteady.named
      rw [hnamed] at hsome
      cases hsome
    | some st =>
      refine Or.inr ⟨st, rfl, fun hsteady => ?_⟩
      obtain ⟨size, hsome, hsize⟩ := hsteady.named
      rw [hnamed] at hsome
      cases hsome
      exact ⟨rfl, hsize⟩

/-- What is done with the answer of `stat`: without one the tick is not steady. -/
theorem stat_then {α : Type} {ino : Nat} {x : α} {p : Stat → SharedMemory α}
    (h : ∀ st : Stat, Triple (fun s => Held s ∧ (Steady ino s → st.ino = ino ∧ radarSharedSize ≤ st.size)) (p st)
      fun _ => Connected ino) :
    Triple Held (do match ← stat with | none => pure x | some st => p st) fun _ => Connected ino := by
  refine Triple.bind (stat_held ino) fun r => ?_
  cases r with
  | none =>
    refine Triple.pure fun s hs => ?_
    obtain ⟨hheld, ⟨-, hno⟩ | ⟨st, hr, -⟩⟩ := hs
    · exact ⟨hheld, fun hsteady => absurd hsteady hno⟩
    · cases hr
  | some st =>
    refine Triple.imp (h st) (fun s hs => ?_) fun _ _ hs => hs
    obtain ⟨hheld, ⟨hr, -⟩ | ⟨st', hr, hsure⟩⟩ := hs
    · cases hr
    · cases hr
      exact ⟨hheld, hsure⟩

theorem openSharedMemory_triple (ino : Nat) : Triple Held openSharedMemory fun _ => Connected ino := by
  refine stat_then fun st => Triple.ite (fun hshort => Triple.pure fun s hs => ?_) fun _ => ?_
  · exact ⟨hs.1, fun hsteady => absurd (hs.2 hsteady).2 (Nat.not_le_of_lt hshort)⟩
  · refine Triple.bind (Triple.modify fun s hs => ?_) fun _ => openUnlessShared_triple st.ino
    obtain ⟨hb, hmaps⟩ := hs.1.closeIfReplaced st.ino
    exact ⟨hb, hmaps, fun hsteady => (hs.2 hsteady.of_closeIfReplaced).1⟩

end Open

/-! ### The tick -/

section Tick
variable {ino : Nat}

theorem reopenIfChanged_triple (st : Stat) :
    Triple (fun s => Held s ∧ (Steady ino s → st.ino = ino)) (reopenIfChanged st) fun _ => Connected ino := by
  refine Triple.bindGet fun s _ => Triple.ite (fun _ => ?_) fun hkept => Triple.pure fun t ht => ?_
  · refine Triple.bind (R := fun _ => Connected ino) ?_ fun _ => Triple.pure fun _ hs => hs
    exact Triple.imp (openSharedMemory_triple ino) (fun t ht => ht.2.1) fun _ _ hs => hs
  · obtain ⟨rfl, hheld, hsure⟩ := ht
    have hsame := not_or.mp hkept
    refine ⟨hheld, fun hsteady => ?_⟩
    obtain ⟨-, hfree | ⟨i, addr, fd, hm⟩⟩ := hheld
    · rw [hfree.gShared] at hsame
      exact absurd rfl hsame.2
    · have hi : i = ino := by rw [← hm.gShmIno, ← not_not.mp hsame.1, hsure hsteady]
      exact ⟨addr, fd, hi ▸ hm⟩

theorem reconnect_triple (ino : Nat) : Triple Held reconnect fun _ => Connected ino := by
  refine stat_then fun st => Triple.imp (reopenIfChanged_triple st) (fun s hs => ?_) fun _ _ hs => hs
  exact ⟨hs.1, fun hsteady => (hs.2 hsteady).1⟩

/-- What is kept by reading the snapshot: `Held` in every tick, and `Connected` once the tick has reconnected. -/
theorem readRetries_keeps {P : Shm → Prop} (held : ∀ s, P s → Held s)
    (reopen : Triple (fun s => Base s ∧ Free s) openSharedMemory fun _ => P) (retries : Nat) :
    Keeps P (readRetries retries) := by
  induction retries with
  | zero => exact Triple.pure fun _ hs => hs
  | succ retries ih =>
    refine Triple.bind (R := fun _ => P) (Triple.lift _ fun _ _ hs => hs) fun seq =>
      Triple.ite (fun _ => ih) fun _ => ?_
    refine Triple.bind (R := fun _ => P) (Triple.lift _ fun _ _ hs => hs) fun candidate => ?_
    refine Triple.bind (R := fun _ => P) (Triple.lift _ fun _ _ hs => hs) fun again =>
      Triple.ite (fun _ => ih) fun _ => ?_
    refine Triple.ite (fun _ => ?_) fun _ => Triple.ite (fun _ => ?_) fun _ => Triple.pure fun _ hs => hs
    · refine Triple.bind (R := fun _ s => Base s ∧ Free s)
        (Triple.modify fun s hs => (held s hs).closeSharedMemory) fun _ => ?_
      exact Triple.bind (R := fun _ => P) reopen fun _ => Triple.pure fun _ hs => hs
    · exact Triple.pure fun _ hs => hs

theorem readSnapshot_keeps {P : Shm → Prop} (held : ∀ s, P s → Held s)
    (reopen : Triple Held openSharedMemory fun _ => P) : Keeps P readSnapshot := by
  have hretries : Keeps P (readRetries 3) :=
    readRetries_keeps held (Triple.imp reopen (fun _ hs => ⟨hs.1, Or.inl hs.2⟩) fun _ _ hs => hs) 3
  refine Triple.bindGet fun s _ => Triple.ite (fun _ => ?_) fun _ => ?_
  · exact Triple.imp hretries (fun _ hs => hs.2) fun _ _ hs => hs
  · refine Triple.bind (R := fun _ => P) (Triple.imp reopen (fun t ht => held t ht.2) fun _ _ hs => hs) fun opened => ?_
    exact Triple.ite (fun _ => hretries) fun _ => Triple.pure fun _ hs => hs

theorem Held.beginTick {s : Shm} (h : Held s) : Held s.beginTick := by
  obtain ⟨hb, hfree | ⟨i, addr, fd, hm⟩⟩ := h
  · exact ⟨{ hb with },
      Or.inl { hfree with }⟩
  · exact ⟨{ hb with },
      Or.inr ⟨i, addr, fd, { hm with }⟩⟩

theorem openSharedMemory_keeps : Keeps Held openSharedMemory :=
  Triple.imp (openSharedMemory_triple 0) (fun _ hs => hs) fun _ _ hs => hs.1

/-- A tick keeps what is held, and after one that reconnects the file is mapped. -/
theorem readSharedMemory_triple (ino frameCounter : Nat) :
    Triple Held (readSharedMemory frameCounter) fun _ s =>
      Held s ∧ (frameCounter % 20 = 1 → Steady ino s → MapsFile ino s) := by
  refine Triple.bind (R := fun _ => Held) (Triple.modify fun s hs => hs.beginTick) fun _ => ?_
  refine Triple.ite (fun _ => ?_) fun hno => ?_
  · refine Triple.bind (reconnect_triple ino) fun _ => ?_
    refine Triple.imp (readSnapshot_keeps (fun _ hs => hs.1) (openSharedMemory_triple ino))
      (fun _ hs => hs) fun _ s hs => ?_
    exact ⟨hs.1, fun _ => hs.2⟩
  · refine Triple.imp (readSnapshot_keeps (fun _ hs => hs) openSharedMemory_keeps) (fun _ hs => hs) fun _ s hs => ?_
    exact ⟨hs, fun hyes => absurd hyes hno⟩

end Tick

/-! ### Runs -/

/-- `g_shared` is mapped exactly when `g_shm_fd` is open, they are the one mapping and the one descriptor that the
    overlay holds, and it never held more. -/
structure Consistent (s : Shm) : Prop where
  mapped_iff : s.gShared.isSome ↔ 0 ≤ s.gShmFd
  mapped : ∀ addr, s.gShared = some addr → ∃ fd ino : Nat, s.gShmFd = fd ∧ s.files.descriptors = [⟨fd, ino⟩] ∧
    s.files.mappings = [⟨addr, ino⟩]
  unmapped : s.gShared = none → s.files.descriptors = [] ∧ s.files.mappings = []
  maxDescriptors : s.files.maxDescriptors ≤ 1
  maxMappings : s.files.maxMappings ≤ 1

theorem Held.consistent {s : Shm} (h : Held s) : Consistent s := by
  obtain ⟨hb, hfree | ⟨ino, addr, fd, hm⟩⟩ := h
  · refine ⟨?_, fun addr haddr => ?_, fun _ => ⟨hfree.descriptors, hfree.mappings⟩, hb.maxDescriptors, hb.maxMappings⟩
    · rw [hfree.gShared, hfree.gShmFd]
      decide
    · rw [hfree.gShared] at haddr
      cases haddr
  · refine ⟨?_, fun addr' haddr => ?_, fun hnone => ?_, hb.maxDescriptors, hb.maxMappings⟩
    · rw [hm.gShared, hm.gShmFd]
      simp
    · rw [hm.gShared] at haddr
      cases haddr
      exact ⟨fd, ino, hm.gShmFd, hm.descriptors, hm.mappings⟩
    · rw [hm.gShared] at hnone
      cases hnone

section Accept
variable {D : Type} (readAt : D) (snapshot : Option RadarFrame) (s : State D)

theorem accept_kept :
    (s.accept readAt snapshot).shm = s.shm ∧ (s.accept readAt snapshot).frameCounter = s.frameCounter := by
  cases snapshot with
  | none => exact ⟨rfl, rfl⟩
  | some f =>
    unfold State.accept State.noteTick
    dsimp only
    split <;> exact ⟨rfl, rfl⟩

end Accept

section Run
variable {D : Type} [Double D] {ar : Arith} {s : State D}

theorem layoutScreen_kept (i : TickInput D) (s : State D) :
    (s.layoutScreen i).shm = s.shm ∧ (s.layoutScreen i).frameCounter = s.frameCounter := by
  unfold State.layoutScreen
  dsimp only
  split <;> exact ⟨rfl, rfl⟩

theorem aimEngine_kept (ar : Arith) (i : TickInput D) (s : State D) :
    (s.aimEngine ar i).shm = s.shm ∧ (s.aimEngine ar i).frameCounter = s.frameCounter := by
  unfold State.aimEngine
  split <;> exact ⟨rfl, rfl⟩

/-- Of a tick, only its first part has to do with the file. -/
theorem finish_shm (ar : Arith) (s : State D) (h : Nat → Handler Kernel) (i : TickInput D) :
    (tickOf ar h i s).finish.shm = (((readSharedMemory (s.frameCounter + 1)).run s.shm).eval h 0).1.2 ∧
      (tickOf ar h i s).finish.frameCounter = s.frameCounter + 1 := by
  rw [finish_tickOf, (aimEngine_kept ar i _).1, (aimEngine_kept ar i _).2, gate_tickOf, (layoutScreen_kept i _).1,
    (layoutScreen_kept i _).2, (accept_kept i.readAt _ _).1, (accept_kept i.readAt _ _).2]
  exact ⟨rfl, rfl⟩

/-- After the tick `t`, if it reconnects and was steady, the file that the path names is mapped. -/
def Reconnected (t : Tick D) : Prop :=
  t.finish.frameCounter % 20 = 1 → ∀ ino, Steady ino t.finish.shm → MapsFile ino t.finish.shm

theorem tick_held (ar : Arith) (h : Nat → Handler Kernel) (i : TickInput D) (hs : Held s.shm) :
    Held (tickOf ar h i s).finish.shm ∧ Reconnected (tickOf ar h i s) := by
  obtain ⟨hshm, hcounter⟩ := finish_shm ar s h i
  have hpost := fun ino => readSharedMemory_triple ino (s.frameCounter + 1) s.shm hs h 0
  refine ⟨?_, fun hreconnects ino hsteady => ?_⟩
  · rw [hshm]
    exact (hpost 0).1
  · rw [hcounter] at hreconnects
    rw [hshm] at hsteady ⊢
    exact (hpost ino).2 hreconnects hsteady

theorem held_callback (c : Callback D) (hs : Held s.shm) : Held (s.callback c).shm := by
  cases c with
  | aimTouchesBegan touch => cases touch <;> exact hs
  | aimTouchesMoved touch => cases touch <;> exact hs
  | aimTouchesEnded => exact hs
  | aimTouchesCancelled => exact hs
  | toggleMenu => exact hs
  | toggle t => exact hs
  | stopRadar => exact ⟨hs.stop.1, Or.inl hs.stop.2⟩

theorem held_init (files : Files) (hstart : files.AtStart) (h : Nat → Handler Kernel) :
    Held ((State.initOverlay files).eval h 0 : State D × Nat).1.shm := by
  obtain ⟨hdescriptors, hmappings, hmaxD, hmaxM, hnext, hpath⟩ := hstart
  have hheld : Held (Shm.initial files) := by
    refine ⟨⟨hnext, fun ino hino => (hpath ino hino).1, ?_, ?_⟩, Or.inl ⟨rfl, rfl, hdescriptors, hmappings⟩⟩
    · show files.maxDescriptors ≤ 1
      omega
    · show files.maxMappings ≤ 1
      omega
  have hopen := openSharedMemory_keeps _ hheld h 0
  simpa [State.initOverlay] using hopen

theorem run_held {ticks : List (Tick D)} (h : Run ar ticks s) : Held s.shm ∧ ∀ t ∈ ticks, Reconnected t := by
  induction h with
  | init files h hstart => exact ⟨held_init files hstart h, fun t ht => by cases ht⟩
  | tick h i hrun ih =>
    obtain ⟨hheld, hreconnected⟩ := tick_held ar h i ih.1
    refine ⟨hheld, fun t ht => ?_⟩
    rcases List.mem_append.mp ht with ht | ht
    · exact ih.2 t ht
    · rw [List.mem_singleton.mp ht]
      exact hreconnected
  | callback c hrun ih => exact ⟨held_callback c ih.1, ih.2⟩

/-- In every run the mapping and the descriptor are consistent, and every steady tick that reconnects ends with the
    file that the path names. -/
theorem run_reconnects {ticks : List (Tick D)} (h : Run ar ticks s) :
    Consistent s.shm ∧ ∀ t ∈ ticks, Reconnected t :=
  ⟨(run_held h).1.consistent, (run_held h).2⟩

end Run

attribute [local instance] Touch.exact

theorem firstTick_steady : Steady 1 Touch.firstTick.finish.shm := by
  have hsightings : ∀ x ∈ Touch.firstTick.finish.shm.files.sightings, x = some ⟨1, radarSharedSize⟩ := by decide +kernel
  refine ⟨fun x hx => ⟨radarSharedSize, hsightings x hx, Nat.le_refl _⟩, by decide +kernel, by decide +kernel⟩

theorem run_reconnects_first : MapsFile 1 Touch.firstTick.finish.shm :=
  (run_reconnects Touch.lateRun).2 Touch.firstTick (by simp) (by decide +kernel) 1 firstTick_steady

/-- Before its first call the daemon replaces the file, and this call, the `stat` of the tick, fails. -/
def replacingKernel (k : Nat) : Handler Kernel
  | .between => if k = 0 then [FileAction.delete, .create radarSharedSize] else ([] : List FileAction)
  | .fails => decide (k = 1)
  | .fresh => (7 : Nat)
  | .sequence => (2 : UInt32)
  | .copy => Touch.lastFrame

def replacedTick : Tick Rat := tickOf Touch.exactArith replacingKernel (Touch.inputAt 1) Touch.started

/-- When `stat` fails in the tick that reconnects, the deleted file stays mapped. -/
theorem stat_keeps_deleted : ¬∀ {ticks : List (Tick Rat)} {s : State Rat}, Run Touch.exactArith ticks s →
    Consistent s.shm ∧ ∀ t ∈ ticks, t.finish.frameCounter % 20 = 1 → ∀ ino, Names ino t.finish.shm →
      t.finish.shm.files.callFailed = false → MapsFile ino t.finish.shm := by
  intro h
  have hrun : Run Touch.exactArith ([] ++ [replacedTick]) replacedTick.finish :=
    .tick replacingKernel (Touch.inputAt 1) (.init Touch.files (fun _ => Touch.quietKernel) Touch.files_atStart)
  have hnames : ∀ x ∈ replacedTick.finish.shm.files.sightings, x = some ⟨2, radarSharedSize⟩ := by decide +kernel
  obtain ⟨addr, fd, hmapped⟩ := (h hrun).2 replacedTick (by simp) (by decide +kernel) 2
    (fun x hx => ⟨radarSharedSize, hnames x hx, Nat.le_refl _⟩) (by decide +kernel)
  have hino : replacedTick.finish.shm.gShmIno = 1 := by decide +kernel
  cases hino.symm.trans hmapped.gShmIno

end Reconnect
end RadarAim.Overlay
