import Mathlib.Logic.Function.Basic
import RadarAim.RemoteMemory

/-! `rm_read_string` on the buffer of its caller, byte by byte. `rmReadString` is what its callers see of it: the
    string that the buffer holds. -/

namespace RadarAim

/-- The scan of a chunk, `n` bytes from `tmp[i]` on: whether it has found the terminator, `pos`, and the buffer. -/
def scanChunk (tmp : Buf) : (n i pos : Nat) → Buf → Bool × Nat × Buf
  | 0, _, pos, buf => (false, pos, buf)
  | n + 1, i, pos, buf =>
    let buf := Function.update buf pos (tmp i)
    if tmp i = 0 then (true, pos, buf) else scanChunk tmp n (i + 1) (pos + 1) buf

/-- The loop over the chunks. Every round but the last adds a byte, so that `fuel = max` is never used up. -/
def readChunks (addr : UInt64) (max : Nat) : (fuel pos : Nat) → Buf → Read (Bool × Buf)
  | 0, _, buf => pure (true, buf)
  | fuel + 1, pos, buf =>
    if pos < max - 1 then do
      let toRead := if 64 > max - 1 - pos then max - 1 - pos else 64
      match ← rmRead (addr + .ofNat pos) toRead with
      | none => if pos = 0 then pure (false, buf) else pure (true, Function.update buf pos 0)
      | some tmp =>
        match scanChunk tmp toRead 0 pos buf with
        | (true, _, buf) => pure (true, buf)
        | (false, pos, buf) => readChunks addr max fuel pos buf
    else pure (true, Function.update buf (max - 1) 0)

/-- `buf` is the memory from the buffer on, if there is one. -/
def rmReadStringInto (addr : UInt64) (buf : Option Buf) (max : Nat) : Read (Bool × Option Buf) :=
  match buf with
  | none => pure (false, none)
  | some buf =>
    if max = 0 then pure (false, some buf)
    else do
      let buf := Function.update buf 0 0
      if max = 1 then pure (true, some buf)
      else do
        let (ok, buf) ← readChunks addr max max 0 buf
        pure (ok, some buf)

end RadarAim
