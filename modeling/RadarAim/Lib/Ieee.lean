import Mathlib.Algebra.Group.Nat.Defs

/-! Floating-point numbers as their bit patterns. Comparisons are those of the binary interchange formats;
    arithmetic, which rounds, is a parameter of the code that uses it. -/

namespace RadarAim.Ieee

/-- A binary format: the widths of the exponent and of the fraction. -/
structure Format where
  expBits : Nat
  fracBits : Nat

def binary32 : Format := ⟨8, 23⟩
def binary64 : Format := ⟨11, 52⟩

namespace Format
variable (f : Format)

/-- The pattern without its sign. -/
def magnitude (bits : Nat) : Nat := bits % 2 ^ (f.expBits + f.fracBits)

def infinity : Nat := (2 ^ f.expBits - 1) * 2 ^ f.fracBits

def negative (bits : Nat) : Bool := 2 ^ (f.expBits + f.fracBits) ≤ bits

def isFinite (bits : Nat) : Bool := f.magnitude bits < f.infinity

def isNaN (bits : Nat) : Bool := f.infinity < f.magnitude bits

/-- The place of a number in the order of its format; both zeros have the same. -/
def rank (bits : Nat) : Int := if f.negative bits then -(f.magnitude bits : Int) else f.magnitude bits

def lt (a b : Nat) : Bool := !f.isNaN a && !f.isNaN b && f.rank a < f.rank b

def le (a b : Nat) : Bool := !f.isNaN a && !f.isNaN b && f.rank a ≤ f.rank b

end Format

abbrev F32 := UInt32

abbrev F64 := UInt64

namespace F32

def isFinite (x : F32) : Bool := binary32.isFinite x.toNat
def lt (x y : F32) : Bool := binary32.lt x.toNat y.toNat
def le (x y : F32) : Bool := binary32.le x.toNat y.toNat
def neg (x : F32) : F32 := x ^^^ 0x80000000
def abs (x : F32) : F32 := x &&& 0x7fffffff

end F32

def F64.lt (x y : F64) : Bool := binary64.lt x.toNat y.toNat
def F64.le (x y : F64) : Bool := binary64.le x.toNat y.toNat

/-- The arithmetic of the processor and of its mathematical library. -/
structure Arith where
  add : F32 → F32 → F32
  sub : F32 → F32 → F32
  mul : F32 → F32 → F32
  div : F32 → F32 → F32
  sqrtf : F32 → F32
  sinf : F32 → F32
  cosf : F32 → F32
  addDouble : F64 → F64 → F64

end RadarAim.Ieee
