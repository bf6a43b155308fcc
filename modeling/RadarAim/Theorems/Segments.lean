import RadarAim.Scan.Segment
import RadarAim.Theorems.PatternScan

/-! The segments of a Mach-O image. The load commands of an image in memory, and what the passes of
    `pat_scan_segment` over them find. -/

namespace RadarAim
namespace Segments
open MachO PatternScan

/-! ### The image in memory -/

structure Segment where
  segname : List UInt8
  vmaddr : UInt64
  vmsize : UInt64
  deriving DecidableEq

def Segment.named (seg : Segment) (name : Str) : Bool := cstr seg.segname == name

section Image
variable (m : Memory)

/-- The addresses of `n` load commands, as far as they can be read. -/
def loadCommands : (n : Nat) → UInt64 → List UInt64
  | 0, _ => []
  | n + 1, a =>
    match m.read a sizeofLoadCommand with
    | none => []
    | some lc =>
      if (cmdsize lc 0).toNat < sizeofLoadCommand then []
      else a :: loadCommands n (a + (cmdsize lc 0).toUInt64)

/-- The segment that the load command at `a` describes. -/
def segmentAt (a : UInt64) : Option Segment :=
  (m.read a sizeofSegmentCommand64).bind fun seg =>
    if cmd seg 0 = lcSegment64 ∧ sizeofSegmentCommand64 ≤ (cmdsize seg 0).toNat then
      some ⟨segname seg 0, vmaddr seg 0, vmsize seg 0⟩
    else none

def segmentsFrom (n : Nat) (a : UInt64) : List Segment := (loadCommands m n a).filterMap (segmentAt m)

def headerAt (base : UInt64) : Buf := (m.read base sizeofMachHeader64).getD zeroBuf

def commandsAddr (base : UInt64) : UInt64 := base + .ofNat sizeofMachHeader64

/-- The segments of the image at `base`, in the order of its load commands. -/
def segments (base : UInt64) : List Segment := segmentsFrom m (ncmds (headerAt m base)).toNat (commandsAddr base)

def segmentNamed (base : UInt64) (name : Str) : Option Segment := (segments m base).find? (·.named name)

/-- `n` load commands from `a` on fit in `left` bytes, and a segment command is no shorter than its fields. -/
def commandsFit : (n : Nat) → UInt64 → (left : Nat) → Bool
  | 0, _, _ => true
  | n + 1, a, left =>
    match m.read a sizeofLoadCommand with
    | none => false
    | some lc =>
      sizeofLoadCommand ≤ (cmdsize lc 0).toNat && (cmdsize lc 0).toNat ≤ left &&
        (cmd lc 0 != lcSegment64 || sizeofSegmentCommand64 ≤ (cmdsize lc 0).toNat) &&
        commandsFit n (a + (cmdsize lc 0).toUInt64) (left - (cmdsize lc 0).toNat)

theorem commandsFit_succ {n left : Nat} {a : UInt64} (h : commandsFit m (n + 1) a left = true) :
    ∃ lc, m.read a sizeofLoadCommand = some lc ∧ sizeofLoadCommand ≤ (cmdsize lc 0).toNat ∧
      (cmdsize lc 0).toNat ≤ left ∧ (cmd lc 0 = lcSegment64 → sizeofSegmentCommand64 ≤ (cmdsize lc 0).toNat) ∧
      commandsFit m n (a + (cmdsize lc 0).toUInt64) (left - (cmdsize lc 0).toNat) = true := by
  rw [commandsFit] at h
  cases hlc : m.read a sizeofLoadCommand with
  | none => simp [hlc] at h
  | some lc =>
    simp only [hlc, Bool.and_eq_true, Bool.or_eq_true, decide_eq_true_eq, bne_iff_ne] at h
    obtain ⟨⟨⟨hge, hle⟩, hseg⟩, hrest⟩ := h
    exact ⟨lc, rfl, hge, hle, fun hc => hseg.resolve_left fun hne => hne hc, hrest⟩

/-- A readable 64-bit image with well-formed load commands, within the limits of `pat_scan_segment`. -/
structure WellFormed (base : UInt64) : Prop where
  header : (m.read base sizeofMachHeader64).isSome
  magic : magic (headerAt m base) = mhMagic64
  ncmds_le : (ncmds (headerAt m base)).toNat ≤ 512
  size_le : (sizeofcmds (headerAt m base)).toNat ≤ 4 * 1024 * 1024
  readable : (m.read (commandsAddr base) (sizeofcmds (headerAt m base)).toNat).isSome
  commands : commandsFit m (ncmds (headerAt m base)).toNat (commandsAddr base)
    (sizeofcmds (headerAt m base)).toNat = true

end Image

/-! ### The passes over the load commands -/

section Passes
variable {m : Memory} {a : UInt64} {cmds : Buf} {size : UInt32}

theorem read_of_le {b : Buf} {n k : Nat} (h : m.read a n = some b) (hk : 0 < k) (hle : k ≤ n) :
    m.read a k = some b := by
  have hpart := m.read_part a n h (i := 0) hk (by omega)
  simpa using hpart

/-- The first fields of a command say whether it is a segment. -/
theorem segmentAt_eq {lc : Buf} (hlc : m.read a sizeofLoadCommand = some lc) :
    segmentAt m a = if cmd lc 0 = lcSegment64 ∧ sizeofSegmentCommand64 ≤ (cmdsize lc 0).toNat then
      (m.read a sizeofSegmentCommand64).map fun seg => ⟨segname seg 0, vmaddr seg 0, vmsize seg 0⟩ else none := by
  unfold segmentAt
  cases hseg : m.read a sizeofSegmentCommand64 with
  | none => split <;> rfl
  | some seg =>
    have hsame := (read_of_le hseg (k := sizeofLoadCommand) (by decide) (by decide)).symm.trans hlc
    obtain rfl := Option.some.inj hsame
    rfl

/-- What the fields of a command are in the buffer of all commands. -/
def bufferSegment (cmds : Buf) (off : UInt32) : Segment :=
  ⟨segname cmds off.toNat, vmaddr cmds off.toNat, vmsize cmds off.toNat⟩

theorem cmd_shift (b : Buf) (k : Nat) : cmd (fun j => b (k + j)) 0 = cmd b k := le32_shift b k 0

theorem cmdsize_shift (b : Buf) (k : Nat) : cmdsize (fun j => b (k + j)) 0 = cmdsize b k := le32_shift b k 4

theorem vmaddr_shift (b : Buf) (k : Nat) : vmaddr (fun j => b (k + j)) 0 = vmaddr b k := le64_shift b k 24

theorem vmsize_shift (b : Buf) (k : Nat) : vmsize (fun j => b (k + j)) 0 = vmsize b k := le64_shift b k 32

theorem segname_shift (b : Buf) (k : Nat) : segname (fun j => b (k + j)) 0 = segname b k := by
  unfold segname
  refine List.map_congr_left fun i _ => ?_
  rw [Nat.zero_add, Nat.add_assoc]

/-- A pass stops at the first segment with the name. -/
theorem findSegment_eq (hcmds : m.read a size.toNat = some cmds) {name : Str} (hlen : name.length ≤ 16)
    (hnul : ∀ c ∈ name, c ≠ 0) {n : Nat} {off : UInt32} (hoff : off ≤ size)
    (hfit : commandsFit m n (a + .ofNat off.toNat) (size.toNat - off.toNat) = true) :
    (findSegment cmds size name n off).map (bufferSegment cmds) =
      (segmentsFrom m n (a + .ofNat off.toNat)).find? (·.named name) := by
  induction n generalizing off with
  | zero => rfl
  | succ n ih =>
    obtain ⟨lc, hlc, hge, hle, hseg, hrest⟩ := commandsFit_succ m hfit
    have hsize := size.toNat_lt
    rw [UInt32.le_iff_toNat_le] at hoff
    have hpart := m.read_part a size.toNat hcmds (i := off.toNat) (k := sizeofLoadCommand) (by decide) (by omega)
    obtain rfl := Option.some.inj (hlc.symm.trans hpart)
    rw [cmdsize_shift] at hge hle hseg hrest
    rw [cmd_shift] at hseg
    -- The command lies within the buffer, so the offset does not wrap.
    have hadd : (off + cmdsize cmds off.toNat).toNat = off.toNat + (cmdsize cmds off.toNat).toNat := by
      rw [UInt32.toNat_add]
      exact Nat.mod_eq_of_lt (by omega)
    have hnext : (findSegment cmds size name n (off + cmdsize cmds off.toNat)).map (bufferSegment cmds) =
        (segmentsFrom m n (a + .ofNat off.toNat + (cmdsize cmds off.toNat).toUInt64)).find? (·.named name) := by
      have haddr : a + .ofNat off.toNat + (cmdsize cmds off.toNat).toUInt64 =
          a + .ofNat (off + cmdsize cmds off.toNat).toNat := by
        rw [hadd, UInt64.ofNat_add, UInt64.add_assoc, UInt64.ofNat_uInt32ToNat (cmdsize cmds off.toNat)]
      have hleft : size.toNat - (off + cmdsize cmds off.toNat).toNat =
          size.toNat - off.toNat - (cmdsize cmds off.toNat).toNat := by omega
      rw [haddr] at hrest ⊢
      exact ih (by rw [UInt32.le_iff_toNat_le]; omega) (hleft ▸ hrest)
    have hcommands : loadCommands m (n + 1) (a + .ofNat off.toNat) = (a + .ofNat off.toNat) ::
        loadCommands m n (a + .ofNat off.toNat + (cmdsize cmds off.toNat).toUInt64) := by
      rw [loadCommands, hlc]
      simp only [cmdsize_shift]
      rw [if_neg (by omega)]
    rw [findSegment, segmentsFrom, hcommands, List.filterMap_cons, if_neg (by omega),
      if_neg (by rw [gt_iff_lt, UInt32.lt_iff_toNat_lt]; omega)]
    by_cases hc : cmd cmds off.toNat = lcSegment64
    · have h72 := hseg hc
      have hfull := m.read_part a size.toNat hcmds (i := off.toNat) (k := sizeofSegmentCommand64) (by decide)
        (by omega)
      have hat : segmentAt m (a + .ofNat off.toNat) = some (bufferSegment cmds off) := by
        rw [segmentAt_eq hlc, cmd_shift, cmdsize_shift, if_pos ⟨hc, h72⟩, hfull, Option.map_some, segname_shift,
          vmaddr_shift, vmsize_shift]
        rfl
      have hnamed : strncmp (segname cmds off.toNat) name 16 = (bufferSegment cmds off).named name :=
        strncmp_field (by simp [segname]) hlen hnul
      rw [hat, List.find?_cons, hnamed]
      cases hname : (bufferSegment cmds off).named name with
      | true => simp [hc, h72]
      | false =>
        -- A segment of another name is passed over.
        rw [if_neg fun h => Bool.false_ne_true h.2.2]
        exact hnext
    · have hat : segmentAt m (a + .ofNat off.toNat) = none := by
        rw [segmentAt_eq hlc, cmd_shift, if_neg fun h => hc h.1]
      rw [hat, if_neg fun h => hc h.1]
      exact hnext

section Image
variable {base : UInt64} (hwf : WellFormed m base)
  (hcmds : m.read (commandsAddr base) (sizeofcmds (headerAt m base)).toNat = some cmds)
include hwf hcmds

/-- A pass over the commands of a well-formed image finds the first segment with the name. -/
theorem findSegment_of_wellFormed {name : Str} (hlen : name.length ≤ 16) (hnul : ∀ c ∈ name, c ≠ 0) :
    (findSegment cmds (sizeofcmds (headerAt m base)) name (ncmds (headerAt m base)).toNat 0).map
      (bufferSegment cmds) = segmentNamed m base name := by
  have hstart : commandsAddr base + .ofNat (0 : UInt32).toNat = commandsAddr base := UInt64.add_zero _
  have hleft : ∀ size : UInt32, size.toNat - (0 : UInt32).toNat = size.toNat := fun size => Nat.sub_zero _
  have hfit := hwf.commands
  rw [← hstart, ← hleft (sizeofcmds _)] at hfit
  have hfound := findSegment_eq hcmds hlen hnul UInt32.zero_le hfit
  rw [hstart] at hfound
  exact hfound

/-- Once the commands have been read, the two passes lead to the scan of the segment. -/
theorem run_scanSegments {text : Segment} (htext : segmentNamed m base segText = some text) {name : Str}
    (hlen : name.length ≤ 16) (hnul : ∀ c ∈ name, c ≠ 0) (p : Pattern) :
    (scanSegments base cmds (ncmds (headerAt m base)).toNat (sizeofcmds (headerAt m base)) name p).run m.host =
      (segmentNamed m base name).elim 0 fun seg =>
        (patScan (seg.vmaddr + (base - text.vmaddr)) seg.vmsize p).run m.host := by
  have hletters : segText.all (· != 0) = true := by decide
  have hnonzero : ∀ c ∈ segText, c ≠ 0 := by simpa only [List.all_eq_true, bne_iff_ne] using hletters
  have hpass := findSegment_of_wellFormed hwf hcmds (by decide : segText.length ≤ 16) hnonzero
  rw [htext, Option.map_eq_some_iff] at hpass
  obtain ⟨textOff, htextOff, rfl⟩ := hpass
  rw [scanSegments, htextOff, ← findSegment_of_wellFormed hwf hcmds hlen hnul]
  cases findSegment cmds (sizeofcmds (headerAt m base)) name (ncmds (headerAt m base)).toNat 0 <;> rfl

end Image

end Passes

/-! ### What `pat_scan_segment` returns -/

/-- One read of a header is taken for a single byte, less than the header has. -/
theorem run_patScanSegment (m : Memory) (base : UInt64) (name : Str) (p : Pattern) :
    (patScanSegment base name p).run m.host = 0 := by
  rw [patScanSegment, Prog.run_ite]
  split
  · rfl
  · rw [Prog.run_bind]
    generalize (rmRead base sizeofMachHeader64).run m.host = hdr
    have hgot : hdr.isSome.toNat < sizeofMachHeader64 := Nat.lt_of_le_of_lt hdr.isSome.toNat_le (by decide)
    simp only [if_pos hgot, Prog.run_pure]

theorem run_patScan_eq_zero_iff (m : Memory) (start size : UInt64) (p : Pattern) :
    (patScan start size p).run m.host = 0 ↔
      ∀ k, FirstHit m start (scanSize size) p k → hitAddress start p k = 0 := by
  constructor
  · intro h k hk
    rwa [run_patScan_of_hit hk] at h
  · intro h
    by_contra hne
    obtain ⟨k, hk, hrun⟩ := firstHit_of_run hne
    exact hne (hrun.trans (h k hk))

/-- `pat_scan_segment` answers like `pat_scan` on the first segment with the name exactly when that scan hits
    nowhere, or first at an address that comes out as 0. -/
theorem patScanSegment_iff (m : Memory) (base : UInt64) (name : Str) (p : Pattern) :
    (∀ text, segmentNamed m base segText = some text →
      (∀ seg, segmentNamed m base name = some seg → (patScanSegment base name p).run m.host =
        (patScan (seg.vmaddr + (base - text.vmaddr)) seg.vmsize p).run m.host) ∧
      (segmentNamed m base name = none → (patScanSegment base name p).run m.host = 0)) ↔
      ∀ text, segmentNamed m base segText = some text → ∀ seg, segmentNamed m base name = some seg →
        ∀ k, FirstHit m (seg.vmaddr + (base - text.vmaddr)) (scanSize seg.vmsize) p k →
          hitAddress (seg.vmaddr + (base - text.vmaddr)) p k = 0 := by
  simp only [run_patScanSegment, implies_true, and_true]
  refine forall₂_congr fun text _ => forall₂_congr fun seg _ => ?_
  rw [eq_comm, run_patScan_eq_zero_iff]

/-- An image with one segment, `__TEXT`, that is loaded at its preferred address. -/
def textImage : Memory := .ofSegments
  [(0x10000, leBytes 4 0xFEEDFACF ++ leBytes 8 0 ++ leBytes 4 2 ++ leBytes 4 1 ++ leBytes 4 72 ++ leBytes 8 0 ++
    leBytes 4 0x19 ++ leBytes 4 72 ++ lit "__TEXT" ++ leBytes 10 0 ++ leBytes 8 0x10000 ++ leBytes 8 104 ++
    leBytes 32 0)]

theorem textImage_wellFormed : WellFormed textImage 0x10000 := by
  constructor <;> decide +kernel

/-- The first byte of the segment is not found. -/
theorem segment_not_scanned :
    ¬∀ (m : Memory) (base : UInt64) (name : Str) (p : Pattern), WellFormed m base →
      ∀ text, segmentNamed m base segText = some text →
        (∀ seg, segmentNamed m base name = some seg → (patScanSegment base name p).run m.host =
          (patScan (seg.vmaddr + (base - text.vmaddr)) seg.vmsize p).run m.host) ∧
        (segmentNamed m base name = none → (patScanSegment base name p).run m.host = 0) := by
  intro h
  let text : Segment := ⟨lit "__TEXT" ++ leBytes 10 0, 0x10000, 104⟩
  have htext : segmentNamed textImage 0x10000 segText = some text := by decide +kernel
  have hscan := (h textImage 0x10000 segText ⟨fun _ => 0xCF, fun _ => 0xFF, 1⟩ textImage_wellFormed
    text htext).1 text htext
  rw [run_patScanSegment] at hscan
  exact absurd hscan (by decide +kernel)

end Segments
end RadarAim
