import RadarAim.Tools.BuildLocal

/-! What `patch_ios` accepts, and what it writes. The load commands of a file are found from the contents that were
    read; the walk changes the buffer behind itself only, so it finds the same ones. -/

namespace RadarAim
namespace BuildLocal
open Struct

/-! ### The load commands of a file -/

section Commands
variable (data : List UInt8)

def cmdAt (off : Nat) : Nat := u32 data off
def sizeAt (off : Nat) : Nat := u32 data (off + 4)

/-- The offsets of `n` load commands from `off` on. -/
def offsets : (n off : Nat) → List Nat
  | 0, _ => []
  | n + 1, off => off :: offsets n (off + sizeAt data off)

/-- Where they end. -/
def endOf : (n off : Nat) → Nat
  | 0, off => off
  | n + 1, off => endOf n (off + sizeAt data off)

def loadCommands : List Nat := offsets data (u32 data 16) 32

/-- The commands `LC_BUILD_VERSION`. -/
def buildVersions : List Nat := (loadCommands data).filter (cmdAt data · = 0x32)

/-- The end of the area of the load commands. -/
def areaEnd : Nat := 32 + u32 data 20

structure Header : Prop where
  length : 32 ≤ data.length
  magic : u32 data 0 = 0xFEEDFACF
  cputype : u32 data 4 = 0x100000C

/-- A 64-bit ARM Mach-O file whose load commands fill their area, with one build version among them. -/
structure Patchable : Prop where
  header : Header data
  sizes : ∀ c ∈ loadCommands data, 8 ≤ sizeAt data c
  tiles : endOf data (u32 data 16) 32 = areaEnd data
  inside : areaEnd data ≤ data.length
  build : ∃ v, buildVersions data = [v] ∧ 24 ≤ sizeAt data v

end Commands

section Offsets
variable {data data' : List UInt8} {n off c v : Nat}

theorem le_endOf : off ≤ endOf data n off := by
  induction n generalizing off with
  | zero => exact Nat.le_refl off
  | succ n ih => exact Nat.le_trans (Nat.le_add_right _ _) ih

theorem le_of_mem_offsets (h : c ∈ offsets data n off) : off ≤ c := by
  induction n generalizing off with
  | zero => cases h
  | succ n ih =>
    rcases List.mem_cons.mp h with rfl | h
    · exact Nat.le_refl c
    · exact Nat.le_trans (Nat.le_add_right _ _) (ih h)

theorem end_le_endOf (h : c ∈ offsets data n off) : c + sizeAt data c ≤ endOf data n off := by
  induction n generalizing off with
  | zero => cases h
  | succ n ih =>
    rcases List.mem_cons.mp h with rfl | h
    · exact le_endOf
    · exact ih h

/-- Of two commands, one ends before the other begins. -/
theorem apart (hc : c ∈ offsets data n off) (hv : v ∈ offsets data n off) :
    c + sizeAt data c ≤ v ∨ c = v ∨ v + sizeAt data v ≤ c := by
  induction n generalizing off with
  | zero => cases hc
  | succ n ih =>
    rcases List.mem_cons.mp hc with rfl | hc <;> rcases List.mem_cons.mp hv with rfl | hv
    · exact Or.inr (Or.inl rfl)
    · exact Or.inl (le_of_mem_offsets hv)
    · exact Or.inr (Or.inr (le_of_mem_offsets hc))
    · exact ih hc hv

theorem endOf_le {limit : Nat} (hoff : off ≤ limit) (h : ∀ c ∈ offsets data n off, c + sizeAt data c ≤ limit) :
    endOf data n off ≤ limit := by
  induction n generalizing off with
  | zero => exact hoff
  | succ n ih => exact ih (h off List.mem_cons_self) fun c hc => h c (List.mem_cons_of_mem off hc)

theorem offsets_congr (h : ∀ c ∈ offsets data n off, sizeAt data' c = sizeAt data c) :
    offsets data' n off = offsets data n off ∧ endOf data' n off = endOf data n off := by
  induction n generalizing off with
  | zero => exact ⟨rfl, rfl⟩
  | succ n ih =>
    have hsize := h off List.mem_cons_self
    obtain ⟨hoffsets, hend⟩ := ih fun c hc => h c (List.mem_cons_of_mem off hc)
    simp only [offsets, endOf, hsize, hoffsets, hend, and_self]

end Offsets

/-! ### One command -/

section Command
variable {stop : Nat} {w : Walk}

/-- What the walk asks of the command at `off`. -/
structure Sound (stop : Nat) (data : List UInt8) (off : Nat) : Prop where
  size : 8 ≤ sizeAt data off
  inside : off + sizeAt data off ≤ min stop data.length
  build : cmdAt data off = 0x32 → 24 ≤ sizeAt data off

/-- The contents with the build version at `off` filled in. -/
def stamp (data : List UInt8) (off : Nat) : List UInt8 := splice data (off + 8) (buildVersion.flatMap (leBytes 4))

theorem length_buildVersion : (buildVersion.flatMap (leBytes 4)).length = 12 := length_words buildVersion

def Walk.next (w : Walk) : Walk :=
  if cmdAt w.data w.off = 0x32 then
    { data := stamp w.data w.off, off := w.off + sizeAt w.data w.off, found := w.found + 1 }
  else { w with off := w.off + sizeAt w.data w.off }

theorem unpackFrom_eq {data : List UInt8} {off : Nat} (h : off + 4 ≤ data.length) :
    unpackFrom data off = .ok (u32 data off) := if_pos h

theorem patchCommand_sound (h : Sound stop w.data w.off) : patchCommand stop w = .ok w.next := by
  obtain ⟨hsize, hinside, hbuild⟩ := h
  have hlen : w.off + sizeAt w.data w.off ≤ w.data.length := hinside.trans (Nat.min_le_right _ _)
  rw [patchCommand, if_neg (by omega), unpackFrom_eq (by omega), unpackFrom_eq (by omega)]
  have hgood : ¬(u32 w.data (w.off + 4) < 8 ∨ min stop w.data.length < w.off + u32 w.data (w.off + 4)) := by
    rw [not_or, Nat.not_lt, Nat.not_lt]
    exact ⟨hsize, hinside⟩
  simp only [ok_bind, if_neg hgood]
  by_cases hcmd : u32 w.data w.off = 0x32
  · have hlong : 24 ≤ u32 w.data (w.off + 4) := hbuild hcmd
    have hsize : sizeAt w.data w.off = u32 w.data (w.off + 4) := rfl
    have hroom : w.off + 8 + 4 * buildVersion.length ≤ w.data.length := by
      simp only [buildVersion, List.length_cons, List.length_nil]
      omega
    rw [if_pos hcmd, if_neg (Nat.not_lt.mpr hlong), packInto, if_pos hroom, ok_bind, Walk.next,
      if_pos (show cmdAt w.data w.off = 0x32 from hcmd)]
    rfl
  · rw [if_neg hcmd, Walk.next, if_neg (show cmdAt w.data w.off ≠ 0x32 from hcmd)]
    rfl

theorem patchCommand_unsound (h : ¬Sound stop w.data w.off) :
    ∃ text, patchCommand stop w = .error (.valueError text) := by
  rw [patchCommand]
  split
  · exact ⟨_, rfl⟩
  · rename_i hheader
    rw [unpackFrom_eq (by omega), unpackFrom_eq (by omega)]
    simp only [ok_bind]
    split
    · exact ⟨_, rfl⟩
    · rename_i hgood
      rw [not_or, Nat.not_lt, Nat.not_lt] at hgood
      split
      · rename_i hcmd
        split
        · exact ⟨_, rfl⟩
        · rename_i hlong
          exact absurd ⟨hgood.1, hgood.2, fun _ => Nat.not_lt.mp hlong⟩ h
      · rename_i hcmd
        exact absurd ⟨hgood.1, hgood.2, fun hbuild => absurd hbuild hcmd⟩ h

end Command

/-! ### The walk -/

/-- The contents differ before `off` only. -/
structure SameFrom (file data : List UInt8) (off : Nat) : Prop where
  length : data.length = file.length
  get : ∀ i, off ≤ i → data[i]? = file[i]?

section Walk
variable {file data : List UInt8} {stop n off c : Nat} {w : Walk}

theorem SameFrom.mono (h : SameFrom file data off) (hle : off ≤ c) : SameFrom file data c :=
  ⟨h.length, fun i hi => h.get i (hle.trans hi)⟩

theorem SameFrom.word (h : SameFrom file data off) (hle : off ≤ c) : u32 data c = u32 file c :=
  u32_congr fun k _ => h.get (c + k) (hle.trans (Nat.le_add_right c k))

theorem SameFrom.cmd (h : SameFrom file data off) (hle : off ≤ c) : cmdAt data c = cmdAt file c := h.word hle

theorem SameFrom.size (h : SameFrom file data off) (hle : off ≤ c) : sizeAt data c = sizeAt file c :=
  h.word (hle.trans (Nat.le_add_right c 4))

theorem SameFrom.sound_iff (h : SameFrom file data off) : Sound stop data off ↔ Sound stop file off := by
  have hcmd := h.cmd (Nat.le_refl off)
  have hsize := h.size (Nat.le_refl off)
  constructor
  · rintro ⟨h1, h2, h3⟩
    exact ⟨hsize ▸ h1, by rw [← hsize, ← h.length]; exact h2, by rw [← hcmd, ← hsize]; exact h3⟩
  · rintro ⟨h1, h2, h3⟩
    exact ⟨hsize ▸ h1, by rw [hsize, h.length]; exact h2, by rw [hcmd, hsize]; exact h3⟩

theorem length_stamp (h : off + 20 ≤ data.length) : (stamp data off).length = data.length :=
  length_splice (by rw [length_buildVersion]; omega)

theorem stamp_outside {i : Nat} (h : off + 20 ≤ data.length) (hi : i < off + 8 ∨ off + 20 ≤ i) :
    (stamp data off)[i]? = data[i]? :=
  splice_outside (by rw [length_buildVersion]; omega) (by rw [length_buildVersion]; omega)

/-- A step of the walk changes nothing from the next command on. -/
theorem SameFrom.next (h : SameFrom file w.data w.off) (hsound : Sound stop w.data w.off) :
    SameFrom file w.next.data (w.off + sizeAt file w.off) := by
  have hsize := h.size (Nat.le_refl w.off)
  rw [Walk.next]
  split
  · rename_i hcmd
    have hlong := hsound.build hcmd
    have hroom : w.off + 20 ≤ w.data.length := by
      have := hsound.inside
      omega
    refine ⟨(length_stamp hroom).trans h.length, fun i hi => ?_⟩
    show (stamp w.data w.off)[i]? = file[i]?
    rw [stamp_outside hroom (by omega)]
    exact h.get i (by omega)
  · exact h.mono (Nat.le_add_right _ _)

theorem off_next (h : SameFrom file w.data w.off) : w.next.off = w.off + sizeAt file w.off := by
  rw [← h.size (Nat.le_refl w.off), Walk.next]
  split <;> rfl

/-- The build versions among `n` commands from `off` on. -/
def builds (data : List UInt8) (n off : Nat) : List Nat := (offsets data n off).filter (cmdAt data · = 0x32)

theorem builds_succ (data : List UInt8) (n off : Nat) :
    builds data (n + 1) off =
      if cmdAt data off = 0x32 then off :: builds data n (off + sizeAt data off)
      else builds data n (off + sizeAt data off) := by
  by_cases h : cmdAt data off = 0x32 <;> simp [builds, offsets, h]

/-- If the commands are sound, the walk fills in the build versions. -/
theorem patchCommands_sound (hsame : SameFrom file w.data w.off) (h : ∀ c ∈ offsets file n w.off, Sound stop file c) :
    patchCommands stop n w = .ok
      { data := (builds file n w.off).foldl stamp w.data, off := endOf file n w.off
        found := w.found + (builds file n w.off).length } := by
  induction n generalizing w with
  | zero => rfl
  | succ n ih =>
    have hsound := hsame.sound_iff.mpr (h w.off List.mem_cons_self)
    have hoff := off_next hsame
    have hrest : ∀ c ∈ offsets file n w.next.off, Sound stop file c := fun c hc => by
      rw [hoff] at hc
      exact h c (List.mem_cons_of_mem _ hc)
    rw [patchCommands, patchCommand_sound hsound, ok_bind, ih (hoff ▸ hsame.next hsound) hrest,
      hoff, builds_succ, endOf, Walk.next, hsame.cmd (Nat.le_refl w.off)]
    by_cases hcmd : cmdAt file w.off = 0x32
    · simp only [if_pos hcmd, List.foldl_cons, List.length_cons, Nat.add_assoc, Nat.add_comm 1]
    · simp only [if_neg hcmd]

/-- The first command that is not sound ends it. -/
theorem patchCommands_unsound (hsame : SameFrom file w.data w.off)
    (h : ¬∀ c ∈ offsets file n w.off, Sound stop file c) :
    ∃ text, patchCommands stop n w = .error (.valueError text) := by
  induction n generalizing w with
  | zero => exact absurd (fun c hc => nomatch hc) h
  | succ n ih =>
    by_cases hsound : Sound stop w.data w.off
    · have hoff := off_next hsame
      have hrest : ¬∀ c ∈ offsets file n w.next.off, Sound stop file c := fun hrest => h fun c hc => by
        rcases List.mem_cons.mp hc with rfl | hc
        · exact hsame.sound_iff.mp hsound
        · rw [hoff] at hrest
          exact hrest c hc
      obtain ⟨text, htext⟩ := ih (hoff ▸ hsame.next hsound) hrest
      exact ⟨text, by rw [patchCommands, patchCommand_sound hsound, ok_bind, htext]⟩
    · obtain ⟨text, htext⟩ := patchCommand_unsound hsound
      exact ⟨text, by rw [patchCommands, htext, error_bind]⟩

end Walk

/-! ### The file -/

section File
variable {file : List UInt8} {v : Nat}

theorem sameFrom_refl (off : Nat) : SameFrom file file off := ⟨rfl, fun _ _ => rfl⟩

theorem Patchable.areaEnd_eq (h : Patchable file) : min (areaEnd file) file.length = areaEnd file :=
  Nat.min_eq_left h.inside

theorem Patchable.sound (h : Patchable file) : ∀ c ∈ loadCommands file, Sound (areaEnd file) file c := by
  intro c hc
  have hend := end_le_endOf hc
  rw [h.tiles] at hend
  refine ⟨h.sizes c hc, by rw [h.areaEnd_eq]; exact hend, fun hcmd => ?_⟩
  obtain ⟨v, hbuild, hlong⟩ := h.build
  have hmem : c ∈ buildVersions file := List.mem_filter.mpr ⟨hc, by simpa using hcmd⟩
  rw [hbuild, List.mem_singleton] at hmem
  exact hmem ▸ hlong

/-- What the function has established when it writes the file. -/
theorem patchable_of_sound (hheader : Header file) (hsound : ∀ c ∈ loadCommands file, Sound (areaEnd file) file c)
    (htiles : endOf file (u32 file 16) 32 = areaEnd file) (hbuild : buildVersions file = [v]) : Patchable file := by
  have hinside : areaEnd file ≤ min (areaEnd file) file.length := by
    have hstart : 32 ≤ min (areaEnd file) file.length := Nat.le_min.mpr ⟨Nat.le_add_right _ _, hheader.length⟩
    have := endOf_le hstart fun c hc => (hsound c hc).inside
    rwa [htiles] at this
  have hmem : v ∈ buildVersions file := hbuild ▸ List.mem_singleton_self v
  obtain ⟨hv, hcmd⟩ := List.mem_filter.mp hmem
  exact ⟨hheader, fun c hc => (hsound c hc).size, htiles, hinside.trans (Nat.min_le_right _ _), v, hbuild,
    (hsound v hv).build (by simpa using hcmd)⟩

/-- Behind its test of the header, the function walks over the load commands. -/
theorem patched_header (h : Header file) :
    patched file =
      patchCommands (areaEnd file) (u32 file 16) { data := file, off := 32, found := 0 } >>= fun w =>
        if w.found ≠ 1 ∨ w.off ≠ areaEnd file then throw (.valueError "Expected exactly one LC_BUILD_VERSION")
        else pure w.data := by
  obtain ⟨hlen, hmagic, hcputype⟩ := h
  rw [patched, if_neg (by omega), unpackFrom_eq (by omega), unpackFrom_eq (by omega), unpackFrom_eq (by omega),
    unpackFrom_eq (by omega)]
  simp only [ok_bind]
  rw [if_neg (by rw [hmagic, hcputype]; simp)]
  rfl

theorem patched_noHeader (h : ¬Header file) : ∃ text, patched file = .error (.valueError text) := by
  rw [patched]
  split
  · exact ⟨_, rfl⟩
  · rename_i hlen
    rw [unpackFrom_eq (by omega), unpackFrom_eq (by omega)]
    simp only [ok_bind]
    split
    · exact ⟨_, rfl⟩
    · rename_i hmagic
      rw [not_or, not_not, not_not] at hmagic
      exact absurd ⟨Nat.not_lt.mp hlen, hmagic.1, hmagic.2⟩ h

theorem patched_patchable (h : Patchable file) (hbuild : buildVersions file = [v]) :
    patched file = .ok (stamp file v) := by
  rw [patched_header h.header, patchCommands_sound (w := { data := file, off := 32, found := 0 })
    (sameFrom_refl 32) h.sound, ok_bind]
  have hbuilds : builds file (u32 file 16) 32 = [v] := hbuild
  simp only [hbuilds, h.tiles]
  exact if_neg (by simp)

theorem patched_not_patchable (h : ¬Patchable file) : ∃ text, patched file = .error (.valueError text) := by
  by_cases hheader : Header file
  · by_cases hsound : ∀ c ∈ loadCommands file, Sound (areaEnd file) file c
    · rw [patched_header hheader,
        patchCommands_sound (w := { data := file, off := 32, found := 0 }) (sameFrom_refl 32) hsound, ok_bind]
      have hbad : 0 + (builds file (u32 file 16) 32).length ≠ 1 ∨ endOf file (u32 file 16) 32 ≠ areaEnd file := by
        by_contra hgood
        rw [not_or, not_not, not_not, Nat.zero_add] at hgood
        obtain ⟨v, hv⟩ := List.length_eq_one_iff.mp hgood.1
        exact h (patchable_of_sound hheader hsound hgood.2 hv)
      exact ⟨_, if_pos hbad⟩
    · obtain ⟨text, htext⟩ := patchCommands_unsound (w := { data := file, off := 32, found := 0 })
        (sameFrom_refl 32) hsound
      exact ⟨text, by rw [patched_header hheader, htext, error_bind]⟩
  · exact patched_noHeader hheader

/-! ### The patched file -/

/-- The build version at `v` has become that of iOS, and nothing else has changed. -/
structure Patched (v : Nat) (file file' : List UInt8) : Prop where
  length : file'.length = file.length
  outside : ∀ i, i < v + 8 ∨ v + 20 ≤ i → file'[i]? = file[i]?
  platform : u32 file' (v + 8) = 2
  minos : u32 file' (v + 12) = 0xD0000
  sdk : u32 file' (v + 16) = 0xD0000

theorem Patchable.room (h : Patchable file) (hbuild : buildVersions file = [v]) :
    v ∈ loadCommands file ∧ 24 ≤ sizeAt file v ∧ v + 24 ≤ file.length := by
  have hv : v ∈ buildVersions file := hbuild ▸ List.mem_singleton_self v
  obtain ⟨w, hw, hlong⟩ := h.build
  obtain rfl : v = w := by simpa [hbuild] using hw
  obtain ⟨hmem, -⟩ := List.mem_filter.mp hv
  have hend := end_le_endOf hmem
  rw [h.tiles] at hend
  exact ⟨hmem, hlong, by have := h.inside; omega⟩

theorem patched_stamp (h : Patchable file) (hbuild : buildVersions file = [v]) : Patched v file (stamp file v) := by
  obtain ⟨-, -, hroom⟩ := h.room hbuild
  have hwords : v + 8 + 4 * buildVersion.length ≤ file.length := by
    simp only [buildVersion, List.length_cons, List.length_nil]
    omega
  exact
    { length := length_stamp (by omega)
      outside := fun i hi => stamp_outside (by omega) hi
      platform := u32_splice (k := 0) hwords rfl
      minos := u32_splice (k := 1) hwords rfl
      sdk := u32_splice (k := 2) hwords rfl }

theorem Patched.word {file' : List UInt8} (h : Patched v file file') {c : Nat} (hc : c + 4 ≤ v + 8 ∨ v + 20 ≤ c) :
    u32 file' c = u32 file c :=
  u32_congr fun k _ => h.outside (c + k) (by omega)

/-- The load commands are where they were. -/
theorem Patched.commands {file' : List UInt8} (hp : Patched v file file') (h : Patchable file)
    (hbuild : buildVersions file = [v]) :
    (∀ c ∈ loadCommands file, cmdAt file' c = cmdAt file c ∧ sizeAt file' c = sizeAt file c) ∧
      loadCommands file' = loadCommands file ∧ endOf file' (u32 file' 16) 32 = endOf file (u32 file 16) 32 := by
  obtain ⟨hv, hlong, -⟩ := h.room hbuild
  have hv32 := le_of_mem_offsets hv
  have hheads : ∀ c ∈ loadCommands file, cmdAt file' c = cmdAt file c ∧ sizeAt file' c = sizeAt file c := by
    intro c hc
    have hsize := h.sizes c hc
    rcases apart hc hv with hlt | rfl | hlt
    · exact ⟨hp.word (by omega), hp.word (by omega)⟩
    · exact ⟨hp.word (by omega), hp.word (by omega)⟩
    · exact ⟨hp.word (by omega), hp.word (by omega)⟩
  have hncmds : u32 file' 16 = u32 file 16 := hp.word (by omega)
  obtain ⟨hoffsets, hend⟩ := offsets_congr fun c hc => (hheads c hc).2
  exact ⟨hheads, by rw [loadCommands, hncmds, hoffsets, loadCommands], by rw [hncmds, hend]⟩

theorem Patched.builds {file' : List UInt8} (hp : Patched v file file') (h : Patchable file)
    (hbuild : buildVersions file = [v]) : buildVersions file' = [v] := by
  obtain ⟨hheads, hcommands, -⟩ := hp.commands h hbuild
  rw [buildVersions, hcommands, ← hbuild, buildVersions]
  exact List.filter_congr fun c hc => by rw [(hheads c hc).1]

theorem Patched.patchable {file' : List UInt8} (hp : Patched v file file') (h : Patchable file)
    (hbuild : buildVersions file = [v]) : Patchable file' := by
  obtain ⟨hheads, hcommands, hend⟩ := hp.commands h hbuild
  obtain ⟨hv, hlong, -⟩ := h.room hbuild
  have hv32 := le_of_mem_offsets hv
  have harea : areaEnd file' = areaEnd file := by rw [areaEnd, hp.word (by omega), areaEnd]
  exact
    { header := ⟨hp.length ▸ h.header.length, (hp.word (by omega)).trans h.header.magic,
        (hp.word (by omega)).trans h.header.cputype⟩
      sizes := fun c hc => by
        rw [hcommands] at hc
        rw [(hheads c hc).2]
        exact h.sizes c hc
      tiles := by rw [hend, h.tiles, harea]
      inside := by rw [harea, hp.length]; exact h.inside
      build := ⟨v, hp.builds h hbuild, by rw [(hheads v hv).2]; exact hlong⟩ }

theorem patchIos_patchable (h : Patchable file) (hbuild : buildVersions file = [v]) :
    patchIos file = (.ok (), stamp file v) := by
  rw [patchIos, patched_patchable h hbuild]

theorem patchIos_not_patchable (h : ¬Patchable file) : ∃ text, patchIos file = (.error (.valueError text), file) := by
  obtain ⟨text, htext⟩ := patched_not_patchable h
  exact ⟨text, by rw [patchIos, htext]⟩

/-- What it raises are its own errors: no access is beyond the end of the file. -/
theorem patchIos_ne_structError : (patchIos file).1 ≠ .error .structError := by
  by_cases h : Patchable file
  · obtain ⟨v, hbuild, -⟩ := h.build
    simp [patchIos_patchable h hbuild]
  · obtain ⟨text, htext⟩ := patchIos_not_patchable h
    simp [htext]

/-- The function raises and leaves the file, or patches its one build version; it does the latter exactly on the
    patchable files, and a second time it changes nothing more. -/
theorem patchIos_allOrNothing (file : List UInt8) :
    ((∃ e, patchIos file = (.error e, file)) ∨
      ∃ v file', buildVersions file = [v] ∧ patchIos file = (.ok (), file') ∧ Patched v file file') ∧
    ((patchIos file).1 = .ok () ↔ Patchable file) ∧
    patchIos (patchIos file).2 = patchIos file := by
  by_cases h : Patchable file
  · obtain ⟨v, hbuild, -⟩ := h.build
    have hp := patched_stamp h hbuild
    obtain ⟨-, -, hroom⟩ := h.room hbuild
    have htwice : stamp (stamp file v) v = stamp file v :=
      splice_splice (by rw [length_buildVersion]; omega)
    rw [patchIos_patchable h hbuild]
    refine ⟨Or.inr ⟨v, _, hbuild, rfl, hp⟩, iff_of_true rfl h, ?_⟩
    rw [patchIos_patchable (hp.patchable h hbuild) (hp.builds h hbuild), htwice]
  · obtain ⟨text, htext⟩ := patchIos_not_patchable h
    rw [htext]
    exact ⟨Or.inl ⟨_, rfl⟩, iff_of_false (fun heq => nomatch heq) h, htext⟩

end File

/-- A file whose only load command is a build version for macOS. -/
example :
    (patchIos ([0xFEEDFACF, 0x100000C, 0, 2, 1, 24, 0, 0, 0x32, 24, 1, 0xB0000, 0xB0000, 0].flatMap (leBytes 4))).2 =
      [0xFEEDFACF, 0x100000C, 0, 2, 1, 24, 0, 0, 0x32, 24, 2, 0xD0000, 0xD0000, 0].flatMap (leBytes 4) := by
  decide +kernel

end BuildLocal
end RadarAim
