import RadarAim.Lib.Bytes
import RadarAim.Lib.Ieee

/-! The decoder of the shared file (`capture_proof.py`). A `dict` is the list of its entries; the report's entries
    that do not come from the file are left out. -/

namespace RadarAim
namespace CaptureProof
open Ieee

inductive Key where
  | protocolVersion
  | tick
  | status
  | cameraValid
  | playerCount
  | vehicleCount
  | itemCount
  | localPosition
  | cameraPosition
  | name
  | isBot
  | teamId
  | position
  | health
  | healthMax
  | distanceM
  | speedKmh
  | itemId
  | count
  | category
  deriving DecidableEq

inductive Value where
  | int (x : Int)
  | bool (x : Bool)
  | float (x : F32)
  | floats (xs : List F32)
  | str (s : List Char)
  deriving DecidableEq

abbrev Dict := List (Key × Value)

structure Report where
  fields : Dict
  players : List Dict
  vehicles : List Dict
  items : List Dict
  deriving DecidableEq

section Unpack
variable (b : Buf)

/-- `struct.unpack_from` with the format `<I`. -/
def unpackI (off : Nat) : Value := .int (le32 b off).toNat

/-- `struct.unpack_from` with the format `<i`. -/
def unpackSigned (off : Nat) : Value := .int (leI32 b off)

def unpackF (off : Nat) : Value := .float (le32 b off)

/-- `struct.unpack_from` with the format `<3f`. -/
def unpack3f (off : Nat) : Value := .floats [le32 b off, le32 b (off + 4), le32 b (off + 8)]

/-- One character of `decode("ascii", errors="replace")`. -/
def asciiChar (c : UInt8) : Char := if c < 0x80 then Char.ofNat c.toNat else '\uFFFD'

/-- `b[lo : lo + 32].split(b"\x00")[0].decode("ascii", errors="replace")` -/
def rawName (lo : Nat) : Value := .str ((cstr ((List.range 32).map fun i => b (lo + i))).map asciiChar)

def decodePlayer (i : Nat) : Dict :=
  let off := 88 + i * 284
  [(.name, rawName b (off + 32)), (.isBot, .bool (b (off + 28) != 0)), (.teamId, unpackI b (off + 24)),
    (.position, unpack3f b off), (.health, unpackF b (off + 12)), (.healthMax, unpackF b (off + 16)),
    (.distanceM, unpackF b (off + 64))]

def decodeVehicle (i : Nat) : Dict :=
  let off := 28488 + i * 56
  [(.name, rawName b (off + 24)), (.position, unpack3f b off), (.distanceM, unpackF b (off + 12)),
    (.speedKmh, unpackF b (off + 16))]

/-- The position is unpacked too, but it is not an entry of the record. -/
def decodeItem (i : Nat) : Dict :=
  let off := 30168 + i * 60
  let _pos := unpack3f b off
  [(.name, rawName b (off + 28)), (.itemId, unpackSigned b (off + 16)), (.count, unpackSigned b (off + 20)),
    (.category, .int (b (off + 24)).toNat), (.distanceM, unpackF b (off + 12))]

end Unpack

/-- The report on the bytes of the file, if it is one of this version. -/
def decode (file : List UInt8) : Option Report :=
  let b : Buf := fun i => file.getD i 0
  if 33768 ≤ file.length then
    let pcount := (le32 b 12).toNat
    let vcount := (le32 b 16).toNat
    let icount := (le32 b 20).toNat
    if le32 b 0 = 0x52444152 ∧ le32 b 4 = 4 then
      some
        { fields :=
            [(.protocolVersion, unpackI b 4), (.tick, unpackI b 8), (.status, unpackI b 56),
              (.cameraValid, unpackI b 72), (.playerCount, unpackI b 12), (.vehicleCount, unpackI b 16),
              (.itemCount, unpackI b 20), (.localPosition, unpack3f b 24), (.cameraPosition, unpack3f b 60)]
          players := (List.range (min pcount 100)).map (decodePlayer b)
          vehicles := (List.range (min vcount 30)).map (decodeVehicle b)
          items := (List.range (min icount 60)).map (decodeItem b) }
    else none
  else none

end CaptureProof
end RadarAim
