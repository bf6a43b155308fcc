import RadarAim.Aslr
import RadarAim.Reflection.Objects
import RadarAim.Theorems.Segments

/-! The base address and the slide, and the configured addresses that they move. The walk of `aslr_get_slide`
    takes the first segment whose name begins with `__TEXT`, the passes of `pat_scan_segment` the first one that
    is named so. -/

namespace RadarAim
namespace Aslr
open MachO Segments

/-! ### The main image -/

section Images
variable (m : Memory)

def loadAddr (infoArrayPtr : UInt64) (i : Nat) : UInt64 :=
  m.ptr (infoArrayPtr + .ofNat i * dyldImageInfoSize + dyldImgOffLoadAddr)

/-- Entry `i` of the list is a main executable that can be read. -/
def Qualifies (infoArrayPtr : UInt64) (i : Nat) : Bool :=
  rmValidatePtr (loadAddr m infoArrayPtr i) &&
    (m.read (loadAddr m infoArrayPtr i) sizeofMachHeader64).any fun mh => magic mh = mhMagic64 ∧ filetype mh = mhExecute

def imageCount (allImageInfoAddr : UInt64) : Nat :=
  (m.read (allImageInfoAddr + dyldAiiOffInfoArrayCount) 4).elim 0 (leNat · 0 4)

def imageArray (allImageInfoAddr : UInt64) : UInt64 := m.ptr (allImageInfoAddr + dyldAiiOffInfoArray)

/-- The load address of the first of the entries that qualifies, or of entry 0. -/
def mainImage (allImageInfoAddr : UInt64) : UInt64 :=
  ((List.range (min (imageCount m allImageInfoAddr) 4096)).find? (Qualifies m (imageArray m allImageInfoAddr))).elim
    (loadAddr m (imageArray m allImageInfoAddr) 0) (loadAddr m (imageArray m allImageInfoAddr))

theorem run_findExecutable (infoArrayPtr : UInt64) (todo i : Nat) :
    (findExecutable infoArrayPtr todo i).run m.host =
      ((List.range' i todo).find? (Qualifies m infoArrayPtr)).elim 0 (loadAddr m infoArrayPtr) := by
  induction todo generalizing i with
  | zero => rfl
  | succ todo ih =>
    have hbytes : m.bytes (loadAddr m infoArrayPtr i) sizeofMachHeader64 =
        m.read (loadAddr m infoArrayPtr i) sizeofMachHeader64 := if_neg (by decide)
    have hload : (readLoadAddr infoArrayPtr i).run m.host = loadAddr m infoArrayPtr i := by
      rw [readLoadAddr, Memory.run_rmReadPtr]
      rfl
    rw [findExecutable, Prog.run_bind, hload, List.range'_succ, List.find?_cons, Prog.run_ite]
    by_cases hvalid : rmValidatePtr (loadAddr m infoArrayPtr i) = true
    · rw [if_pos hvalid, Prog.run_bind, Memory.run_rmRead, hbytes]
      cases hread : m.read (loadAddr m infoArrayPtr i) sizeofMachHeader64 with
      | none =>
        have hno : Qualifies m infoArrayPtr i = false := by simp [Qualifies, hread]
        rw [hno]
        exact ih (i + 1)
      | some mh =>
        have hiff : Qualifies m infoArrayPtr i = decide (magic mh = mhMagic64 ∧ filetype mh = mhExecute) := by
          simp [Qualifies, hvalid, hread]
        rw [Prog.run_ite, hiff]
        by_cases hexec : magic mh = mhMagic64 ∧ filetype mh = mhExecute
        · rw [if_pos hexec, decide_eq_true hexec]
          rfl
        · rw [if_neg hexec, decide_eq_false hexec]
          exact ih (i + 1)
    · have hno : Qualifies m infoArrayPtr i = false := by simp [Qualifies, hvalid]
      rw [if_neg hvalid, hno]
      exact ih (i + 1)

/-- A load address that qualifies is not 0, the value for `not found`. -/
theorem loadAddr_ne_zero {infoArrayPtr : UInt64} {i : Nat} (h : Qualifies m infoArrayPtr i = true) :
    loadAddr m infoArrayPtr i ≠ 0 := by
  intro hzero
  simp [Qualifies, hzero] at h

/-- What the search over the first `limit` entries gives. -/
def firstExecutable (infoArrayPtr : UInt64) (limit : Nat) : UInt64 := (findExecutable infoArrayPtr limit 0).run m.host

theorem mainImage_eq {m : Memory} {allImageInfoAddr : UInt64} {b : Buf}
    (h : m.read (allImageInfoAddr + dyldAiiOffInfoArrayCount) 4 = some b) {main : UInt64}
    (hmain : firstExecutable m (imageArray m allImageInfoAddr) (if leNat b 0 4 > 4096 then 4096 else leNat b 0 4) =
      main) :
    mainImage m allImageInfoAddr =
      if main = 0 then m.ptr (imageArray m allImageInfoAddr + dyldImgOffLoadAddr) else main := by
  have hlimit : (if leNat b 0 4 > 4096 then 4096 else leNat b 0 4) = min (imageCount m allImageInfoAddr) 4096 := by
    rw [imageCount, h, Option.elim_some]
    split <;> omega
  have hentry : loadAddr m (imageArray m allImageInfoAddr) 0 =
      m.ptr (imageArray m allImageInfoAddr + dyldImgOffLoadAddr) := by
    rw [loadAddr, show UInt64.ofNat 0 * dyldImageInfoSize = 0 from rfl, UInt64.add_zero]
  rw [hlimit, firstExecutable, run_findExecutable, ← List.range_eq_range'] at hmain
  rw [mainImage]
  cases hfind : (List.range (min (imageCount m allImageInfoAddr) 4096)).find?
      (Qualifies m (imageArray m allImageInfoAddr)) with
  | none =>
    rw [hfind] at hmain
    subst hmain
    exact hentry
  | some i =>
    rw [hfind] at hmain
    subst hmain
    exact (if_neg (loadAddr_ne_zero m (List.find?_some hfind))).symm

end Images

/-! ### The text segment -/

/-- What the walk of `aslr_get_slide` looks for: only six bytes of the name are compared. -/
def Prefixed (seg : Segment) : Bool := strncmp seg.segname (lit "__TEXT") 6

section Walk
variable {m : Memory}

theorem run_findTextVmaddr {n : Nat} {a v : UInt64} (h : (findTextVmaddr n a).run m.host = some v) :
    ∃ seg, (segmentsFrom m n a).find? Prefixed = some seg ∧ seg.vmaddr = v := by
  induction n generalizing a with
  | zero => cases h
  | succ n ih =>
    rw [findTextVmaddr, Prog.run_bind, Memory.run_rmRead] at h
    have hbytes : m.bytes a sizeofLoadCommand = m.read a sizeofLoadCommand := if_neg (by decide)
    cases hlc : m.read a sizeofLoadCommand with
    | none =>
      rw [hbytes, hlc] at h
      cases h
    | some lc =>
      rw [hbytes, hlc] at h
      simp only [Prog.run_ite] at h
      -- A command that is shorter than its header ends the search.
      by_cases hshort : (cmdsize lc 0).toNat < sizeofLoadCommand
      · rw [if_pos hshort] at h
        cases h
      · rw [if_neg hshort] at h
        have hcommands : loadCommands m (n + 1) a = a :: loadCommands m n (a + (cmdsize lc 0).toUInt64) := by
          rw [loadCommands, hlc]
          exact if_neg hshort
        rw [segmentsFrom, hcommands, List.filterMap_cons]
        by_cases hc : cmd lc 0 = lcSegment64
        · by_cases h72 : (cmdsize lc 0).toNat < sizeofSegmentCommand64
          · rw [if_pos hc, if_pos h72] at h
            cases h
          · rw [if_pos hc, if_neg h72, Prog.run_bind, Memory.run_rmRead] at h
            have hbytes72 : m.bytes a sizeofSegmentCommand64 = m.read a sizeofSegmentCommand64 := if_neg (by decide)
            have hat := segmentAt_eq hlc
            rw [if_pos ⟨hc, Nat.not_lt.mp h72⟩] at hat
            cases hseg : m.read a sizeofSegmentCommand64 with
            | none =>
              rw [hbytes72, hseg] at h
              cases h
            | some seg =>
              rw [hbytes72, hseg, Prog.run_ite] at h
              rw [hat, hseg, Option.map_some, List.find?_cons]
              by_cases hname : strncmp (segname seg 0) (lit "__TEXT") 6 = true
              · rw [if_pos hname] at h
                refine ⟨⟨segname seg 0, vmaddr seg 0, vmsize seg 0⟩, ?_, Option.some.inj h⟩
                simp [Prefixed, hname]
              · -- A segment of another name is passed over.
                rw [if_neg hname] at h
                have hno : Prefixed ⟨segname seg 0, vmaddr seg 0, vmsize seg 0⟩ = false := Bool.eq_false_iff.mpr hname
                rw [hno]
                exact ih h
        · -- So is any other command.
          have hat : segmentAt m a = none := by rw [segmentAt_eq hlc, if_neg fun h => hc h.1]
          rw [if_neg hc] at h
          rw [hat]
          exact ih h

end Walk

/-! ### The result -/

section Result
variable {m : Memory}

theorem slideOf_found {baseAddr : UInt64} {r : AslrResult} (h : (slideOf baseAddr).run m.host = r) (hfound : r.found) :
    r.base = baseAddr ∧ ∃ seg, (segments m baseAddr).find? Prefixed = some seg ∧ r.slide = baseAddr - seg.vmaddr := by
  subst h
  have hbytes : m.bytes baseAddr sizeofMachHeader64 = m.read baseAddr sizeofMachHeader64 := if_neg (by decide)
  rw [slideOf, Prog.run_bind, Memory.run_rmRead, hbytes] at hfound ⊢
  cases hmh : m.read baseAddr sizeofMachHeader64 with
  | none =>
    rw [hmh] at hfound
    cases hfound
  | some mh =>
    have hheader : headerAt m baseAddr = mh := by rw [headerAt, hmh]; rfl
    simp only [hmh, Prog.run_ite] at hfound ⊢
    by_cases hmagic : magic mh ≠ mhMagic64
    · rw [if_pos hmagic] at hfound
      cases hfound
    · rw [if_neg hmagic, Prog.run_bind] at hfound ⊢
      cases htext : (findTextVmaddr (ncmds mh).toNat (baseAddr + .ofNat sizeofMachHeader64)).run m.host with
      | none =>
        rw [htext] at hfound
        cases hfound
      | some v =>
        obtain ⟨seg, hseg, rfl⟩ := run_findTextVmaddr htext
        exact ⟨rfl, seg, by rw [segments, hheader]; exact hseg, rfl⟩

/-- A result is the base address of the main image, with the slide of its first segment whose name begins with
    `__TEXT`. -/
theorem aslrGetSlide_found {portValid : Bool} {allImageInfoAddr : UInt64} {r : AslrResult}
    (h : (aslrGetSlide portValid (some allImageInfoAddr)).run m.host = r) (hfound : r.found) :
    r.base = mainImage m allImageInfoAddr ∧
      ∃ seg, (segments m (mainImage m allImageInfoAddr)).find? Prefixed = some seg ∧
        r.slide = mainImage m allImageInfoAddr - seg.vmaddr := by
  suffices hslide : (slideOf (mainImage m allImageInfoAddr)).run m.host = r from slideOf_found hslide hfound
  subst h
  have hbytes : m.bytes (allImageInfoAddr + dyldAiiOffInfoArrayCount) 4 =
      m.read (allImageInfoAddr + dyldAiiOffInfoArrayCount) 4 := if_neg (by decide)
  simp only [aslrGetSlide, Prog.run_ite, Prog.run_bind, Memory.run_rmRead, hbytes] at hfound ⊢
  cases hvalid : portValid with
  | false =>
    rw [hvalid] at hfound
    cases hfound
  | true =>
    by_cases haddr : allImageInfoAddr = 0
    · rw [hvalid, if_neg (by simp), if_pos haddr] at hfound
      cases hfound
    · rw [hvalid, if_neg (by simp), if_neg haddr] at hfound
      rw [if_neg (by simp), if_neg haddr]
      cases hcount : m.read (allImageInfoAddr + dyldAiiOffInfoArrayCount) 4 with
      | none =>
        rw [hcount] at hfound
        cases hfound
      | some b =>
        obtain ⟨main, hmain⟩ : ∃ main, firstExecutable m (imageArray m allImageInfoAddr)
            (if leNat b 0 4 > 4096 then 4096 else leNat b 0 4) = main := ⟨_, rfl⟩
        rw [mainImage_eq hcount hmain]
        rw [firstExecutable, imageArray] at hmain
        simp only [hcount, Prog.run_ite, Prog.run_bind, Memory.run_rmReadPtr, hmain, Prog.run_pure] at hfound ⊢
        rw [imageArray]
        by_cases hnone : leNat b 0 4 = 0
        · rw [if_pos hnone] at hfound
          cases hfound
        · rw [if_neg hnone] at hfound ⊢
          by_cases harray : m.ptr (allImageInfoAddr + dyldAiiOffInfoArray) = 0
          · rw [if_pos harray] at hfound
            cases hfound
          · rw [if_neg harray] at hfound ⊢
            by_cases hzero : main = 0
            · -- No image is executable, so the first one is taken.
              rw [if_pos hzero] at hfound
              rw [if_pos hzero, if_pos hzero]
              by_cases hentry : m.ptr (m.ptr (allImageInfoAddr + dyldAiiOffInfoArray) + dyldImgOffLoadAddr) = 0
              · rw [if_pos hentry] at hfound
                cases hfound
              · rw [if_neg hentry]
            · rw [if_neg hzero, if_neg hzero]
              exact congrArg (Prog.run m.host) (if_neg hzero).symm

/-- The result is right exactly when the first segment whose name begins with `__TEXT` has the address of the first
    one that is named so. -/
theorem aslrGetSlide_iff {portValid : Bool} {allImageInfoAddr : UInt64} {r : AslrResult}
    (h : (aslrGetSlide portValid (some allImageInfoAddr)).run m.host = r) (hfound : r.found) :
    (r.base = mainImage m allImageInfoAddr ∧
      ∃ text, segmentNamed m (mainImage m allImageInfoAddr) segText = some text ∧
        r.slide = mainImage m allImageInfoAddr - text.vmaddr) ↔
      ∃ text, segmentNamed m (mainImage m allImageInfoAddr) segText = some text ∧
        ∀ seg, (segments m (mainImage m allImageInfoAddr)).find? Prefixed = some seg → seg.vmaddr = text.vmaddr := by
  obtain ⟨hbase, seg, hseg, hslide⟩ := aslrGetSlide_found h hfound
  rw [and_iff_right hbase]
  refine exists_congr fun text => and_congr_right fun _ => ?_
  rw [hslide, hseg]
  constructor
  · rintro heq seg' hsome
    obtain rfl := Option.some.inj hsome
    exact (UInt64.sub_right_inj _).mp heq
  · intro hall
    rw [hall seg rfl]

end Result

/-- The list of images at 0x20000 has one entry, an executable whose segment `__TEXT_EXEC` comes before `__TEXT`. -/
def execFirst : Memory := .ofSegments
  [(0x20000, leBytes 4 0 ++ leBytes 4 1 ++ leBytes 8 0x30000), (0x30000, leBytes 8 0x10000),
   (0x10000, leBytes 4 0xFEEDFACF ++ leBytes 8 0 ++ leBytes 4 2 ++ leBytes 4 2 ++ leBytes 4 144 ++ leBytes 8 0 ++
    leBytes 4 0x19 ++ leBytes 4 72 ++ lit "__TEXT_EXEC" ++ leBytes 5 0 ++ leBytes 8 0x8000 ++ leBytes 40 0 ++
    leBytes 4 0x19 ++ leBytes 4 72 ++ lit "__TEXT" ++ leBytes 10 0 ++ leBytes 8 0x4000 ++ leBytes 40 0)]

def execFirstResult : AslrResult := ⟨true, 0x10000, 0x8000⟩

theorem execFirst_run : (aslrGetSlide true (some 0x20000)).run execFirst.host = execFirstResult := by decide +kernel

theorem aslrGetSlide_iff_execFirst :
    (execFirstResult.base = mainImage execFirst 0x20000 ∧
      ∃ text, segmentNamed execFirst (mainImage execFirst 0x20000) segText = some text ∧
        execFirstResult.slide = mainImage execFirst 0x20000 - text.vmaddr) ↔
      ∃ text, segmentNamed execFirst (mainImage execFirst 0x20000) segText = some text ∧
        ∀ seg, (segments execFirst (mainImage execFirst 0x20000)).find? Prefixed = some seg →
          seg.vmaddr = text.vmaddr :=
  aslrGetSlide_iff execFirst_run rfl

/-- The slide is that of the wrong segment. -/
theorem slide_of_exec_segment :
    ¬∀ (m : Memory) (portValid : Bool) (allImageInfoAddr : UInt64) (r : AslrResult),
      (aslrGetSlide portValid (some allImageInfoAddr)).run m.host = r → r.found →
      r.base = mainImage m allImageInfoAddr ∧
        ∃ text, segmentNamed m (mainImage m allImageInfoAddr) segText = some text ∧
          r.slide = mainImage m allImageInfoAddr - text.vmaddr := by
  intro h
  obtain ⟨-, text, htext, hslide⟩ := h execFirst true 0x20000 _ execFirst_run rfl
  have hfirst : segmentNamed execFirst (mainImage execFirst 0x20000) segText =
      some ⟨lit "__TEXT" ++ leBytes 10 0, 0x4000, 0⟩ := by decide +kernel
  obtain rfl := Option.some.inj (htext.symm.trans hfirst)
  exact absurd hslide (by decide +kernel)

/-! ### Configured addresses -/

section Spellings
variable {p b rva : UInt64}

/-- The sum is computed when it does not overflow. -/
theorem configRuntimeAddress_eq {value base slide : UInt64} (hvalue : value ≠ 0) :
    configRuntimeAddress value base slide =
      if value.toNat + (if value ≥ 0x100000000 then slide else base).toNat < 2 ^ 64 then
        value + if value ≥ 0x100000000 then slide else base
      else 0 := by
  rw [configRuntimeAddress, if_neg hvalue]
  generalize (if value ≥ 0x100000000 then slide else base) = adjustment
  have hguard : value > 0xFFFFFFFFFFFFFFFF - adjustment ↔ ¬value.toNat + adjustment.toNat < 2 ^ 64 := by
    have hlt := adjustment.toNat_lt
    have hmax : (0xFFFFFFFFFFFFFFFF : UInt64).toNat = 2 ^ 64 - 1 := rfl
    rw [gt_iff_lt, UInt64.lt_iff_toNat_lt, UInt64.toNat_sub]
    omega
  simp only [hguard, ite_not]

/-- An RVA is taken relative to the base. -/
theorem configRuntimeAddress_rva (hpos : 0 < rva) (hrva : rva < 0x100000000) (hb : b.toNat + rva.toNat < 2 ^ 64)
    (slide : UInt64) : configRuntimeAddress rva b slide = b + rva := by
  have hsmall : ¬rva ≥ 0x100000000 := UInt64.not_le.mpr hrva
  rw [configRuntimeAddress_eq (UInt64.ne_of_lt hpos).symm, if_neg hsmall, if_pos (by omega), UInt64.add_comm]

/-- A preferred address is moved by the slide, unless the image lies below its preferred address. -/
theorem configRuntimeAddress_preferred (hp : 0x100000000 ≤ p) (hpr : p.toNat + rva.toNat < 2 ^ 64)
    (hb : b.toNat + rva.toNat < 2 ^ 64) :
    configRuntimeAddress (p + rva) b (b - p) = if p ≤ b then b + rva else 0 := by
  have hsum : (p + rva).toNat = p.toNat + rva.toNat := by
    rw [UInt64.toNat_add]
    exact Nat.mod_eq_of_lt hpr
  rw [UInt64.le_iff_toNat_le] at hp
  have hbig : p + rva ≥ 0x100000000 := by
    rw [ge_iff_le, UInt64.le_iff_toNat_le, hsum]
    exact hp.trans (Nat.le_add_right _ _)
  have hne : p + rva ≠ 0 := by
    intro hzero
    rw [hzero] at hbig
    exact absurd hbig (by decide)
  have hfits : (p + rva).toNat + (b - p).toNat < 2 ^ 64 ↔ p ≤ b := by
    have hlt := b.toNat_lt
    rw [hsum, UInt64.toNat_sub, UInt64.le_iff_toNat_le]
    omega
  have hmoved : p + rva + (b - p) = b + rva := by
    rw [UInt64.add_comm p rva, UInt64.add_assoc, UInt64.add_comm p, UInt64.sub_add_cancel, UInt64.add_comm]
  rw [configRuntimeAddress_eq hne, if_pos hbig, hmoved]
  exact if_congr hfits rfl rfl

/-- The two spellings agree exactly when the image is not loaded below its preferred address. -/
theorem configRuntimeAddress_agree_iff (hp : 0x100000000 ≤ p) (hpos : 0 < rva) (hrva : rva < 0x100000000)
    (hpr : p.toNat + rva.toNat < 2 ^ 64) (hb : b.toNat + rva.toNat < 2 ^ 64) :
    (configRuntimeAddress rva b (b - p) = configRuntimeAddress (p + rva) b (b - p) ∧
      configRuntimeAddress (p + rva) b (b - p) = b + rva) ↔ p ≤ b := by
  rw [configRuntimeAddress_rva hpos hrva hb, configRuntimeAddress_preferred hp hpr hb]
  by_cases hle : p ≤ b
  · simp [hle]
  · have hne : b + rva ≠ 0 := by
      intro hzero
      rw [← UInt64.toNat_inj, UInt64.toNat_add, Nat.mod_eq_of_lt hb] at hzero
      rw [UInt64.lt_iff_toNat_lt] at hpos
      have hnone : (0 : UInt64).toNat = 0 := rfl
      omega
    simp [hle, hne, hne.symm]

end Spellings

theorem configRuntimeAddress_agree_iff_below :
    (configRuntimeAddress 0x1234 0x100000000 (0x100000000 - 0x100004000) =
        configRuntimeAddress (0x100004000 + 0x1234) 0x100000000 (0x100000000 - 0x100004000) ∧
      configRuntimeAddress (0x100004000 + 0x1234) 0x100000000 (0x100000000 - 0x100004000) = 0x100000000 + 0x1234) ↔
      (0x100004000 : UInt64) ≤ 0x100000000 :=
  configRuntimeAddress_agree_iff (by decide) (by decide) (by decide) (by decide) (by decide)

/-- An image 16 KB below its preferred address: the preferred spelling gives 0. -/
theorem preferred_spelling_lost :
    ¬∀ p b rva : UInt64, 0x100000000 ≤ p → 0 < rva → rva < 0x100000000 → p.toNat + rva.toNat < 2 ^ 64 →
      b.toNat + rva.toNat < 2 ^ 64 →
      configRuntimeAddress rva b (b - p) = configRuntimeAddress (p + rva) b (b - p) ∧
        configRuntimeAddress (p + rva) b (b - p) = b + rva := by
  intro h
  have hagree := h 0x100004000 0x100000000 0x1234 (by decide) (by decide) (by decide) (by decide) (by decide)
  exact absurd hagree.2 (by decide)

end Aslr
end RadarAim
