import RadarAim.Lib.Bytes

/-! The tail of a log in the manager application: `read_tail` of `main.c`. A file is its contents, if it can be
    opened. -/

namespace RadarAim
namespace App

def newline : UInt8 := 10

/-- The size of the buffer. -/
def tailBuffer : Nat := 3072

/-- What is read: the window is `tailBuffer` bytes long, and one of them is kept for the NUL. -/
def tailWindow (file : List UInt8) : List UInt8 :=
  let off := if tailBuffer < file.length then file.length - tailBuffer else 0
  (file.drop off).take (tailBuffer - 1)

/-- The loop that goes back from index `p` with `c` newlines found, and where it leaves `p`. -/
def tailStart (buf : List UInt8) (linesNeeded : Int) : (p c : Nat) → Nat
  | 0, _ => 0
  | p + 1, c =>
    if buf.getD (p + 1) 0 = newline then
      if linesNeeded ≤ (c + 1 : Nat) then p + 2 else tailStart buf linesNeeded p (c + 1)
    else tailStart buf linesNeeded p c

/-- What is left in `out`. -/
def readTail (file : Option (List UInt8)) (linesNeeded : Int) (maxOut : Nat) : Str :=
  match file with
  | none => snprintf maxOut (lit "[File not available]")
  | some file =>
    let buf := tailWindow file
    let n := buf.length
    if n = 0 then snprintf maxOut (lit "[Empty file]")
    else snprintf maxOut (cstr (buf.drop (tailStart buf linesNeeded (n - 1) 0)))

end App
end RadarAim
