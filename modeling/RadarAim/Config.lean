import RadarAim.Lib.Scanf
import Mathlib.Data.List.DropRight

/-! The configuration file of both programs (`ue4_sdk_config.txt`): `parse_config` of the schema dump and
    `read_config` of the live reader, which each have their own way with white space. -/

namespace RadarAim
open Scanf

structure Config where
  guobjectarray : UInt64
  gnamepool : UInt64
  deriving DecidableEq

def Config.set (c : Config) (key : Str) (val : UInt64) : Config :=
  if key = lit "guobjectarray" then { c with guobjectarray := val }
  else if key = lit "gnamepool" then { c with gnamepool := val }
  else c

/-- `sscanf` with the format `%127[^=]=<pre>%llx`. -/
def scanEntry (bare : Bool) (pre : Str) (s : Str) : Option (Str × UInt64) :=
  match scanUntil 127 0x3d s with
  | none => none
  | some (key, rest) => ((scanLit pre rest).bind (scanHex bare)).map fun val => (key, val)

/-- The body of the loop over the lines; `parse` is what it makes of one. -/
def applyLine (parse : Str → Option (Str × UInt64)) (c : Config) (line : Str) : Config :=
  match parse line with
  | none => c
  | some (key, val) => c.set key val

/-! ### The schema dump -/

def parseConfigLine (bare : Bool) (line : Str) : Option (Str × UInt64) :=
  let p := line.dropWhile isBlank
  if p = [] ∨ p.head? = some 0x0a ∨ p.head? = some 0x23 then none
  else ((scanEntry bare [] p).or (scanEntry bare (lit "0x") p)).map fun (key, val) => (key.rdropWhile isBlank, val)

/-- `parse_config` on the contents of the file, if it can be opened. -/
def parseConfig (bare : Bool) (file : Option Str) : Config :=
  match file with
  | none => ⟨0, 0⟩
  | some contents => ((fgetsLines 512 [] contents).map cstr).foldl (applyLine (parseConfigLine bare)) ⟨0, 0⟩

/-! ### The live reader -/

/-- The format is ` %127[^=]=%llx`. -/
def readConfigLine (bare : Bool) (line : Str) : Option (Str × UInt64) :=
  scanEntry bare [] (line.dropWhile isSpace)

/-- `read_config` on the contents of the file, if it can be opened. -/
def readConfig (bare : Bool) (file : Option Str) : Config :=
  match file with
  | none => ⟨0, 0⟩
  | some contents => ((fgetsLines 256 [] contents).map cstr).foldl (applyLine (readConfigLine bare)) ⟨0, 0⟩

end RadarAim
