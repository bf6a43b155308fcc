import RadarAim.Scan.Segment

/-! The slide of the main executable (`aslr_get_slide`). -/

namespace RadarAim
open MachO

structure AslrResult where
  found : Bool
  base : UInt64
  slide : UInt64
  deriving DecidableEq

def kFailed : AslrResult := ⟨false, 0, 0⟩

def dyldAiiOffInfoArrayCount : UInt64 := 0x04
def dyldAiiOffInfoArray : UInt64 := 0x08
def dyldImgOffLoadAddr : UInt64 := 0x00
def dyldImageInfoSize : UInt64 := 24

def readLoadAddr (infoArrayPtr : UInt64) (i : Nat) : Read UInt64 :=
  rmReadPtr (infoArrayPtr + .ofNat i * dyldImageInfoSize + dyldImgOffLoadAddr)

/-- The load address of the first main executable among the entries `i`, ..., `i + todo - 1`, or 0. -/
def findExecutable (infoArrayPtr : UInt64) : (todo i : Nat) → Read UInt64
  | 0, _ => pure 0
  | todo + 1, i => do
    let loadAddr ← readLoadAddr infoArrayPtr i
    if rmValidatePtr loadAddr then
      match ← rmRead loadAddr sizeofMachHeader64 with
      | none => findExecutable infoArrayPtr todo (i + 1)
      | some mh =>
        if magic mh = mhMagic64 ∧ filetype mh = mhExecute then pure loadAddr
        else findExecutable infoArrayPtr todo (i + 1)
    else findExecutable infoArrayPtr todo (i + 1)

/-- The walk over the load commands: the `vmaddr` of the segment found. -/
def findTextVmaddr : (todo : Nat) → (cmdOffset : UInt64) → Read (Option UInt64)
  | 0, _ => pure none
  | todo + 1, cmdOffset => do
    match ← rmRead cmdOffset sizeofLoadCommand with
    | none => pure none
    | some lc =>
      if (cmdsize lc 0).toNat < sizeofLoadCommand then pure none
      else if cmd lc 0 = lcSegment64 then
        if (cmdsize lc 0).toNat < sizeofSegmentCommand64 then pure none
        else do
          match ← rmRead cmdOffset sizeofSegmentCommand64 with
          | none => pure none
          | some seg =>
            if strncmp (segname seg 0) (lit "__TEXT") 6 then pure (some (vmaddr seg 0))
            else findTextVmaddr todo (cmdOffset + (cmdsize lc 0).toUInt64)
      else findTextVmaddr todo (cmdOffset + (cmdsize lc 0).toUInt64)

/-- The part of `aslr_get_slide` from the base address on. -/
def slideOf (baseAddr : UInt64) : Read AslrResult := do
  match ← rmRead baseAddr sizeofMachHeader64 with
  | none => pure kFailed
  | some mh =>
    if magic mh ≠ mhMagic64 then pure kFailed
    else do
      match ← findTextVmaddr (ncmds mh).toNat (baseAddr + .ofNat sizeofMachHeader64) with
      | none => pure kFailed
      | some textVmaddr => pure ⟨true, baseAddr, baseAddr - textVmaddr⟩

/-- `portValid` is `MACH_PORT_VALID(task)`; `dyldInfo` is the address that `task_info` gives when it succeeds. -/
def aslrGetSlide (portValid : Bool) (dyldInfo : Option UInt64) : Read AslrResult :=
  if !portValid then pure kFailed
  else match dyldInfo with
    | none => pure kFailed
    | some allImageInfoAddr =>
      if allImageInfoAddr = 0 then pure kFailed
      else do
        match ← rmRead (allImageInfoAddr + dyldAiiOffInfoArrayCount) 4 with
        | none => pure kFailed
        | some b =>
          let infoArrayCount := leNat b 0 4
          if infoArrayCount = 0 then pure kFailed
          else do
            let infoArrayPtr ← rmReadPtr (allImageInfoAddr + dyldAiiOffInfoArray)
            if infoArrayPtr = 0 then pure kFailed
            else do
              let limit := if infoArrayCount > 4096 then 4096 else infoArrayCount
              let baseAddr ← findExecutable infoArrayPtr limit 0
              let baseAddr ← if baseAddr = 0 then rmReadPtr (infoArrayPtr + dyldImgOffLoadAddr) else pure baseAddr
              if baseAddr = 0 then pure kFailed else slideOf baseAddr

end RadarAim
