import RadarAim.RemoteMemory

/-! The pattern scanner (`pat_scan`). It reads the region chunk by chunk into a buffer whose first
    `pat_len - 1` bytes are meant to hold the end of the chunks before. -/

namespace RadarAim

def pageSizeScan : Nat := 4096
def maxScanSize : Nat := 256 * 1024 * 1024

/-- `pattern`, `mask` and `pat_len`. A zero byte of the mask is a wildcard. -/
structure Pattern where
  pattern : Buf
  mask : Buf
  patLen : Nat

def Pattern.overlap (p : Pattern) : Nat := p.patLen - 1

def matchAt (buf : Buf) (pos : Nat) (p : Pattern) : Bool :=
  (List.range p.patLen).all fun i => p.mask i == 0 || buf (pos + i) == p.pattern i

/-- The variables of the loop. -/
structure ScanState where
  buf : Buf
  first : Bool
  offset : Nat

def zeroBuf : Buf := fun _ => 0

def ScanState.start : ScanState := ⟨zeroBuf, true, 0⟩

/-- The first position in `searchStart`, ..., `searchEnd` at which the pattern matches. -/
def searchWindow (buf : Buf) (p : Pattern) (searchStart searchEnd : Nat) : Option Nat :=
  (List.range' searchStart (searchEnd + 1 - searchStart)).find? fun i => matchAt buf i p

/-- One round of the loop: the address to return, or the variables for the next round. -/
def patScanRound (start : UInt64) (size : Nat) (p : Pattern) (s : ScanState) : Read (UInt64 ⊕ ScanState) := do
  let remaining := size - s.offset
  let toRead := if remaining < pageSizeScan then remaining else pageSizeScan
  let buf := if !s.first ∧ 0 < p.overlap then s.buf.write 0 p.overlap fun i => s.buf (pageSizeScan + i) else s.buf
  let page ← rmRead (start + .ofNat s.offset) toRead
  -- `rm_read` returns a `bool`, which the source takes for the number of bytes
  let got := page.isSome.toNat
  let buf := page.elim buf fun page => buf.write p.overlap toRead page
  if got = 0 then pure (.inr ⟨buf.write 0 p.overlap zeroBuf, true, s.offset + toRead⟩)
  else
    let searchStart := if s.first then p.overlap else 0
    let usable := p.overlap + got
    if usable < p.patLen then pure (.inr ⟨buf, false, s.offset + toRead⟩)
    else match searchWindow buf p searchStart (usable - p.patLen) with
      | some i => pure (.inl (start + .ofNat s.offset - .ofNat p.overlap + .ofNat i))
      | none => pure (.inr ⟨buf, false, s.offset + toRead⟩)

/-- Every round but the last moves on by a whole chunk, so that `size / pageSizeScan + 1` rounds are enough. -/
def patScanLoop (start : UInt64) (size : Nat) (p : Pattern) : (fuel : Nat) → ScanState → Read UInt64
  | 0, _ => pure 0
  | fuel + 1, s =>
    if s.offset < size then do
      match ← patScanRound start size p s with
      | .inl addr => pure addr
      | .inr s => patScanLoop start size p fuel s
    else pure 0

def scanSize (size : UInt64) : Nat := if size.toNat > maxScanSize then maxScanSize else size.toNat

/-- The pattern and its mask are given, and `malloc` succeeds. -/
def patScan (start size : UInt64) (p : Pattern) : Read UInt64 :=
  if p.patLen = 0 then pure 0
  else patScanLoop start (scanSize size) p (scanSize size / pageSizeScan + 1) .start

end RadarAim
