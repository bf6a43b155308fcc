import RadarAim.Scan.Pattern

/-! Mach-O images in memory (`loader.h`), and the scan of one of their segments (`pat_scan_segment`). -/

namespace RadarAim

def mhMagic64 : UInt32 := 0xFEEDFACF
def mhExecute : UInt32 := 2
def lcSegment64 : UInt32 := 0x19

def sizeofMachHeader64 : Nat := 32
def sizeofLoadCommand : Nat := 8
def sizeofSegmentCommand64 : Nat := 72

def segText : Str := lit "__TEXT"

namespace MachO
variable (b : Buf)

/-! ### The fields of `mach_header_64` -/

def magic : UInt32 := le32 b 0
def filetype : UInt32 := le32 b 12
def ncmds : UInt32 := le32 b 16
def sizeofcmds : UInt32 := le32 b 20

/-! ### The fields of a load command at `off` -/

def cmd (off : Nat) : UInt32 := le32 b off
def cmdsize (off : Nat) : UInt32 := le32 b (off + 4)
def segname (off : Nat) : List UInt8 := (List.range 16).map fun i => b (off + 8 + i)
def vmaddr (off : Nat) : UInt64 := le64 b (off + 24)
def vmsize (off : Nat) : UInt64 := le64 b (off + 32)

end MachO
open MachO

/-- The offset of the first segment command with the name; both passes over the load commands look for one. -/
def findSegment (cmds : Buf) (size : UInt32) (segmentName : Str) : (todo : Nat) → (cmdOffset : UInt32) → Option UInt32
  | 0, _ => none
  | todo + 1, cmdOffset =>
    let lc := cmdOffset.toNat
    if lc + sizeofLoadCommand > size.toNat then none
    else if (cmdsize cmds lc).toNat < sizeofLoadCommand ∨ cmdOffset + cmdsize cmds lc > size then none
    else if cmd cmds lc = lcSegment64 ∧ (cmdsize cmds lc).toNat ≥ sizeofSegmentCommand64 ∧
        strncmp (segname cmds lc) segmentName 16 then some cmdOffset
    else findSegment cmds size segmentName todo (cmdOffset + cmdsize cmds lc)

/-- The two passes of `pat_scan_segment` over the load commands that it has read. -/
def scanSegments (imageBase : UInt64) (cmds : Buf) (ncmds : Nat) (size : UInt32) (segmentName : Str) (p : Pattern) :
    Read UInt64 :=
  match findSegment cmds size segText ncmds 0 with
  | none => pure 0
  | some text =>
    let slide := imageBase - vmaddr cmds text.toNat
    match findSegment cmds size segmentName ncmds 0 with
    | none => pure 0
    | some seg => patScan (vmaddr cmds seg.toNat + slide) (vmsize cmds seg.toNat) p

/-- The segment name, the pattern and its mask are given, and `malloc` succeeds. -/
def patScanSegment (imageBase : UInt64) (segmentName : Str) (p : Pattern) : Read UInt64 :=
  if p.patLen = 0 then pure 0
  else do
    let hdr ← rmRead imageBase sizeofMachHeader64
    -- as in `pat_scan`, the `bool` of `rm_read` is taken for the number of bytes
    let got := hdr.isSome.toNat
    let hdr := hdr.getD zeroBuf
    if got < sizeofMachHeader64 then pure 0
    else if magic hdr ≠ mhMagic64 then pure 0
    else if (ncmds hdr).toNat > 512 ∨ (sizeofcmds hdr).toNat > 4 * 1024 * 1024 then pure 0
    else do
      let cmds ← rmRead (imageBase + .ofNat sizeofMachHeader64) (sizeofcmds hdr).toNat
      let got := cmds.isSome.toNat
      if got < (sizeofcmds hdr).toNat then pure 0
      else scanSegments imageBase (cmds.getD zeroBuf) (ncmds hdr).toNat (sizeofcmds hdr) segmentName p

end RadarAim
