import RadarAim.Scan.Segment

/-! What the passes of `pat_scan_segment` read of the load commands. The end of a command is computed in 32 bits: a
    command that is long enough seems to end before it begins, and the segment in it may lie beyond the buffer. -/

namespace RadarAim
namespace LoadCommands
open MachO

section Pass
variable (cmds : Buf) (size : UInt32) (name : Str)

/-- A pass: the ranges that it reads, by their offsets and lengths, and what it finds. A segment is inspected as a
    whole. -/
def pass : (todo : Nat) → (cmdOffset : UInt32) → List (Nat × Nat) × Option UInt32
  | 0, _ => ([], none)
  | todo + 1, cmdOffset =>
    let lc := cmdOffset.toNat
    if lc + sizeofLoadCommand > size.toNat then ([], none)
    else
      let header := (lc, sizeofLoadCommand)
      if (cmdsize cmds lc).toNat < sizeofLoadCommand ∨ cmdOffset + cmdsize cmds lc > size then ([header], none)
      else if cmd cmds lc = lcSegment64 ∧ (cmdsize cmds lc).toNat ≥ sizeofSegmentCommand64 then
        let seg := (lc, sizeofSegmentCommand64)
        if strncmp (segname cmds lc) name 16 then ([header, seg], some cmdOffset)
        else
          let rest := pass todo (cmdOffset + cmdsize cmds lc)
          (header :: seg :: rest.1, rest.2)
      else
        let rest := pass todo (cmdOffset + cmdsize cmds lc)
        (header :: rest.1, rest.2)

/-- The pass finds what the scan goes on with. -/
theorem pass_found (todo : Nat) (off : UInt32) :
    (pass cmds size name todo off).2 = findSegment cmds size name todo off := by
  induction todo generalizing off with
  | zero => rfl
  | succ todo ih =>
    rw [pass, findSegment]
    dsimp only
    by_cases hend : off.toNat + sizeofLoadCommand > size.toNat
    · rw [if_pos hend, if_pos hend]
    · rw [if_neg hend, if_neg hend]
      by_cases hbad : (cmdsize cmds off.toNat).toNat < sizeofLoadCommand ∨ off + cmdsize cmds off.toNat > size
      · rw [if_pos hbad, if_pos hbad]
      · rw [if_neg hbad, if_neg hbad]
        by_cases hseg : cmd cmds off.toNat = lcSegment64 ∧ (cmdsize cmds off.toNat).toNat ≥ sizeofSegmentCommand64
        · rw [if_pos hseg]
          by_cases hname : strncmp (segname cmds off.toNat) name 16 = true
          · rw [if_pos hname, if_pos ⟨hseg.1, hseg.2, hname⟩]
          · rw [if_neg hname, if_neg fun h => hname h.2.2]
            exact ih _
        · rw [if_neg hseg, if_neg fun h => hseg ⟨h.1, h.2.1⟩]
          exact ih _

/-- The whole range lies in the buffer. -/
def Inside (range : Nat × Nat) : Prop := range.1 + range.2 ≤ size.toNat

instance (range : Nat × Nat) : Decidable (Inside size range) := inferInstanceAs (Decidable (_ ≤ _))

/-- The pass leaves the command at `off` for the next one. -/
def Passed (off : Nat) : Prop :=
  sizeofLoadCommand ≤ (cmdsize cmds off).toNat ∧ (off + (cmdsize cmds off).toNat) % 2 ^ 32 ≤ size.toNat ∧
    ¬(cmd cmds off = lcSegment64 ∧ sizeofSegmentCommand64 ≤ (cmdsize cmds off).toNat ∧
      strncmp (segname cmds off) name 16 = true)

instance (off : Nat) : Decidable (Passed cmds size name off) := inferInstanceAs (Decidable (_ ∧ _))

/-- The commands that a pass over `n` commands comes to, from the one at `off` on. -/
def reached : (n off : Nat) → List Nat
  | 0, _ => []
  | n + 1, off =>
    if size.toNat < off + sizeofLoadCommand then []
    else off :: if Passed cmds size name off then reached n ((off + (cmdsize cmds off).toNat) % 2 ^ 32) else []

/-- A segment command that is cut off by the end of the buffer, and whose own end is beyond 32 bits, but seems to be in
    the buffer. -/
structure Wraps (off : Nat) : Prop where
  segment : cmd cmds off = lcSegment64
  cutOff : size.toNat < off + sizeofSegmentCommand64
  beyond : 2 ^ 32 ≤ off + (cmdsize cmds off).toNat
  wrapped : off + (cmdsize cmds off).toNat - 2 ^ 32 ≤ size.toNat

end Pass

section Reads
variable {cmds : Buf} {size : UInt32} {name : Str}

/-- A command that is long enough and ends in the buffer, as far as the pass can tell. -/
theorem fits_iff (off : UInt32) :
    ¬((cmdsize cmds off.toNat).toNat < sizeofLoadCommand ∨ off + cmdsize cmds off.toNat > size) ↔
      sizeofLoadCommand ≤ (cmdsize cmds off.toNat).toNat ∧
        (off.toNat + (cmdsize cmds off.toNat).toNat) % 2 ^ 32 ≤ size.toNat := by
  rw [not_or, Nat.not_lt, gt_iff_lt, UInt32.lt_iff_toNat_lt, UInt32.toNat_add, Nat.not_lt]

/-- A segment that is inspected lies in the buffer unless its command wraps. -/
theorem segment_inside_iff (hsize : size.toNat ≤ 4 * 1024 * 1024) {off : Nat} (hoff : off ≤ size.toNat)
    (hend : (off + (cmdsize cmds off).toNat) % 2 ^ 32 ≤ size.toNat) (hcmd : cmd cmds off = lcSegment64)
    (hlong : sizeofSegmentCommand64 ≤ (cmdsize cmds off).toNat) :
    Inside size (off, sizeofSegmentCommand64) ↔ ¬Wraps cmds size off := by
  have hlt : (cmdsize cmds off).toNat < 2 ^ 32 := (cmdsize cmds off).toNat_lt
  rw [Inside]
  constructor
  · intro hin hwraps
    exact absurd hwraps.cutOff (Nat.not_lt.mpr hin)
  · intro hwraps
    by_contra hout
    refine hwraps ⟨hcmd, Nat.not_le.mp hout, ?_, ?_⟩ <;> omega

theorem wraps_long (hsize : size.toNat ≤ 4 * 1024 * 1024) {off : Nat} (hoff : off ≤ size.toNat)
    (h : Wraps cmds size off) : sizeofSegmentCommand64 ≤ (cmdsize cmds off).toNat ∧
      sizeofLoadCommand ≤ (cmdsize cmds off).toNat ∧ (off + (cmdsize cmds off).toNat) % 2 ^ 32 ≤ size.toNat := by
  have hbeyond := h.beyond
  have hwrapped := h.wrapped
  have hlt : (cmdsize cmds off).toNat < 2 ^ 32 := (cmdsize cmds off).toNat_lt
  simp only [sizeofSegmentCommand64, sizeofLoadCommand]
  omega

/-- A pass from any offset reads in the buffer exactly if none of the commands that it comes to wraps. -/
theorem pass_inside_iff (hsize : size.toNat ≤ 4 * 1024 * 1024) (n : Nat) (off : UInt32) :
    (∀ range ∈ (pass cmds size name n off).1, Inside size range) ↔
      ∀ c ∈ reached cmds size name n off.toNat, ¬Wraps cmds size c := by
  induction n generalizing off with
  | zero => exact iff_of_true (fun range hrange => nomatch hrange) fun c hc => nomatch hc
  | succ n ih =>
    rw [pass, reached]
    dsimp only
    by_cases hend : off.toNat + sizeofLoadCommand > size.toNat
    · rw [if_pos hend, if_pos hend]
      exact iff_of_true (fun range hrange => nomatch hrange) fun c hc => nomatch hc
    · rw [if_neg hend, if_neg hend]
      have hheader : Inside size (off.toNat, sizeofLoadCommand) := Nat.not_lt.mp hend
      have hoff : off.toNat ≤ size.toNat := le_trans (Nat.le_add_right _ _) hheader
      have hnext : (off + cmdsize cmds off.toNat).toNat = (off.toNat + (cmdsize cmds off.toNat).toNat) % 2 ^ 32 :=
        UInt32.toNat_add _ _
      by_cases hbad : (cmdsize cmds off.toNat).toNat < sizeofLoadCommand ∨ off + cmdsize cmds off.toNat > size
      · -- A command that does not fit ends the pass after its header.
        have hmisfit := fun hfits => (fits_iff off).mpr hfits hbad
        have hpassed : ¬Passed cmds size name off.toNat := fun h => hmisfit ⟨h.1, h.2.1⟩
        rw [if_pos hbad, if_neg hpassed]
        refine iff_of_true (List.forall_mem_singleton.mpr hheader) (List.forall_mem_singleton.mpr fun hwraps => ?_)
        exact hmisfit (wraps_long hsize hoff hwraps).2
      · rw [if_neg hbad]
        obtain ⟨hlong, hle⟩ := (fits_iff off).mp hbad
        by_cases hseg : cmd cmds off.toNat = lcSegment64 ∧ (cmdsize cmds off.toNat).toNat ≥ sizeofSegmentCommand64
        · rw [if_pos hseg]
          have hinside := segment_inside_iff hsize hoff hle hseg.1 hseg.2
          by_cases hname : strncmp (segname cmds off.toNat) name 16 = true
          · -- The segment looked for ends the pass.
            rw [if_pos hname, if_neg fun hpassed => hpassed.2.2 ⟨hseg.1, hseg.2, hname⟩]
            simp only [List.forall_mem_cons, List.not_mem_nil, false_imp_iff, implies_true, and_true, hheader, true_and,
              hinside]
          · rw [if_neg hname, if_pos ⟨hlong, hle, fun h => hname h.2.2⟩]
            simp only [List.forall_mem_cons, hheader, true_and, hinside, ih, hnext]
        · -- Of a command that is no segment only the header is read.
          have hplain : ¬Wraps cmds size off.toNat := fun hwraps =>
            hseg ⟨hwraps.segment, (wraps_long hsize hoff hwraps).1⟩
          rw [if_neg hseg, if_pos ⟨hlong, hle, fun h => hseg ⟨h.1, h.2.1⟩⟩]
          simp only [List.forall_mem_cons, hheader, true_and, ih, hnext, hplain, not_false_eq_true]

/-- Both passes read in the buffer exactly if no command that one of them comes to is a segment command that is cut off
    by the end of the buffer and wraps. -/
theorem passes_inside_iff (hsize : size.toNat ≤ 4 * 1024 * 1024) (ncmds : Nat) (segmentName : Str) :
    ((∀ range ∈ (pass cmds size segText ncmds 0).1, Inside size range) ∧
      ∀ range ∈ (pass cmds size segmentName ncmds 0).1, Inside size range) ↔
    (∀ c ∈ reached cmds size segText ncmds 0, ¬Wraps cmds size c) ∧
      ∀ c ∈ reached cmds size segmentName ncmds 0, ¬Wraps cmds size c :=
  and_congr (pass_inside_iff hsize ncmds 0) (pass_inside_iff hsize ncmds 0)

end Reads

/-! ### Two commands in 16 bytes -/

/-- The second command is a segment whose size is 8 less than 2^32. -/
def wrapping : Buf := fun i =>
  [1, 0, 0, 0, 8, 0, 0, 0, 0x19, 0, 0, 0, 0xf8, 0xff, 0xff, 0xff].getD i 0

theorem passes_inside_iff_wrapping : ¬(
    (∀ range ∈ (pass wrapping 16 segText 2 0).1, Inside 16 range) ∧
      ∀ range ∈ (pass wrapping 16 (lit "__DATA") 2 0).1, Inside 16 range) := by
  refine (passes_inside_iff (by decide) 2 (lit "__DATA")).not.mpr fun h => ?_
  exact h.1 8 (by decide +kernel) ⟨by decide +kernel, by decide +kernel, by decide +kernel, by decide +kernel⟩

theorem segment_beyond_buffer : ¬∀ (cmds : Buf) (size : UInt32) (ncmds : Nat) (segmentName : Str), ncmds ≤ 512 →
    size.toNat ≤ 4 * 1024 * 1024 →
      (∀ range ∈ (pass cmds size segText ncmds 0).1, Inside size range) ∧
        ∀ range ∈ (pass cmds size segmentName ncmds 0).1, Inside size range := by
  intro h
  have hinside := (h wrapping 16 2 (lit "__DATA") (by decide) (by decide)).1 (8, 72) (by decide +kernel)
  exact absurd hinside (by decide)

end LoadCommands
end RadarAim
