import RadarAim.Lib.Struct

/-! The last step of a build: `patch_ios` of `build_local.py` marks a Mach-O file as built for iOS. The file is its
    contents; what the function raises is its value. -/

namespace RadarAim
namespace BuildLocal
open Struct

/-- `data`, `off` and `found`. -/
structure Walk where
  data : List UInt8
  off : Nat
  found : Nat

/-- The platform, the lowest version of the system and that of the SDK. -/
def buildVersion : List Nat := [2, 0xD0000, 0xD0000]

/-- The body of the loop over the load commands. -/
def patchCommand (stop : Nat) (w : Walk) : Except PyError Walk :=
  if min stop w.data.length < w.off + 8 then throw (.valueError "Truncated load command")
  else do
    let cmd ← unpackFrom w.data w.off
    let size ← unpackFrom w.data (w.off + 4)
    if size < 8 ∨ min stop w.data.length < w.off + size then throw (.valueError "Invalid load command size")
    else if cmd = 0x32 then
      if size < 24 then throw (.valueError "Truncated build version")
      else do
        let data ← packInto w.data (w.off + 8) buildVersion
        pure { data := data, off := w.off + size, found := w.found + 1 }
    else pure { w with off := w.off + size }

def patchCommands (stop : Nat) : Nat → Walk → Except PyError Walk
  | 0, w => pure w
  | n + 1, w => patchCommand stop w >>= patchCommands stop n

/-- The contents that are written. -/
def patched (data : List UInt8) : Except PyError (List UInt8) :=
  if data.length < 32 then throw (.valueError "Expected a 64-bit ARM Mach-O")
  else do
    let magic ← unpackFrom data 0
    let cputype ← unpackFrom data 4
    if magic ≠ 0xFEEDFACF ∨ cputype ≠ 0x100000C then throw (.valueError "Expected a 64-bit ARM Mach-O")
    else do
      let sizeofcmds ← unpackFrom data 20
      let ncmds ← unpackFrom data 16
      let stop := 32 + sizeofcmds
      let w ← patchCommands stop ncmds { data := data, off := 32, found := 0 }
      if w.found ≠ 1 ∨ w.off ≠ stop then throw (.valueError "Expected exactly one LC_BUILD_VERSION")
      else pure w.data

/-- What is raised, and the file afterwards. -/
def patchIos (file : List UInt8) : Except PyError Unit × List UInt8 :=
  match patched file with
  | .error e => (.error e, file)
  | .ok data => (.ok (), data)

end BuildLocal
end RadarAim
