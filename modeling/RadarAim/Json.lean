import RadarAim.Lib.Stdio
import RadarAim.Reflection.Classes

/-! The schema writer (`ue4_json.c`). Only the writes of escaped strings are checked where they are made; the
    others show in the error flag of the stream. -/

namespace RadarAim
open Stdio

def decimalInt (n : Int) : Str := if n < 0 then lit "-" ++ decimal n.natAbs else decimal n.toNat

def hexDigit (n : Nat) : UInt8 := .ofNat (if n < 10 then 0x30 + n else 0x57 + n)

def escapeByte (c : UInt8) : Str :=
  if c = 0x22 then lit "\\\""
  else if c = 0x5c then lit "\\\\"
  else if c = 0x08 then lit "\\b"
  else if c = 0x0c then lit "\\f"
  else if c = 0x0a then lit "\\n"
  else if c = 0x0d then lit "\\r"
  else if c = 0x09 then lit "\\t"
  else if c < 0x20 then lit "\\u00" ++ [hexDigit (c.toNat / 16), hexDigit (c.toNat % 16)]
  else [c]

def writeEscapedBytes : Str → Output Bool
  | [] => pure true
  | c :: cs => andThen (fputs (escapeByte c)) (writeEscapedBytes cs)

def jsonWriteEscaped (s : Str) : Output Bool :=
  andThen (fputs (lit "\"")) (andThen (writeEscapedBytes s) (fputs (lit "\"")))

def separator (last : Bool) : Str := if last then [] else lit ","

def jsonWriteProperty (prop : Ue4Property) (last : Bool) : Output Bool := do
  let _ ← fputs (lit "        \x7b ")
  let _ ← fputs (lit "\"name\": ")
  andThen (jsonWriteEscaped prop.name) do
    let _ ← fputs (lit ", \"type\": ")
    andThen (jsonWriteEscaped prop.type) do
      let _ ← fputs (lit ", \"offset\": " ++ decimalInt prop.offset)
      let _ ← fputs (lit ", \"element_size\": " ++ decimalInt prop.elementSize)
      let _ ← fputs (lit ", \"array_dim\": " ++ decimalInt prop.arrayDim)
      let _ ← fputs (lit " \x7d" ++ separator last ++ lit "\n")
      pure true

def jsonWriteFunction (fn : Ue4Function) (last : Bool) : Output Bool := do
  let _ ← fputs (lit "        \x7b ")
  let _ ← fputs (lit "\"name\": ")
  andThen (jsonWriteEscaped fn.name) do
    let _ ← fputs (lit ", \"flags\": " ++ decimal fn.flags.toNat)
    let _ ← fputs (lit ", \"parameter_size\": " ++ decimal fn.parmsSize.toNat)
    let _ ← fputs (lit " \x7d" ++ separator last ++ lit "\n")
    pure true

/-- The loop over a property or function list; the last element is told that it is the last. -/
def writeList {α : Type} (write : α → Bool → Output Bool) : List α → Output Bool
  | [] => pure true
  | x :: xs => andThen (write x xs.isEmpty) (writeList write xs)

@[irreducible] def jsonWriteClass (cls : Ue4Class) (last : Bool) : Output Bool := do
  let _ ← fputs (lit "    \x7b\n")
  let _ ← fputs (lit "      \"name\": ")
  andThen (jsonWriteEscaped cls.name) do
    let _ ← fputs (lit ",\n")
    let _ ← fputs (lit "      \"super\": ")
    andThen (jsonWriteEscaped cls.superName) do
      let _ ← fputs (lit ",\n")
      let _ ← fputs (lit "      \"size\": " ++ decimalInt cls.structSize ++ lit ",\n")
      let _ ← fputs (lit "      \"properties\": [\n")
      andThen (writeList jsonWriteProperty cls.properties) do
        let _ ← fputs (lit "      ],\n")
        let _ ← fputs (lit "      \"functions\": [\n")
        andThen (writeList jsonWriteFunction cls.functions) do
          let _ ← fputs (lit "      ]\n")
          let _ ← fputs (lit "    \x7d" ++ separator last ++ lit "\n")
          pure true

@[irreducible] def jsonHeader : List Str :=
  [lit "\x7b\n", lit "  \"format\": \"ue4-reflection-schema-v1\",\n",
   lit "  \"scope\": \"type metadata only; no object values\",\n", lit "  \"classes\": [\n"]

def writeHeader : List Str → Output Unit
  | [] => pure ()
  | line :: rest => do
    let _ ← fputs line
    writeHeader rest

/-! ### The batch writer -/

/-- The result of `ue4j_write` on a new stream with the given outcomes, and the stream once closed. -/
def ue4jWrite (outcome : Nat → Outcome) (classes : List Ue4Class) : Int × Stream :=
  let header := (writeHeader jsonHeader (.start outcome)).2
  let res := writeList jsonWriteClass classes header
  if res.1 then
    let footer := (fputs (lit "\x7d\n") (fputs (lit "  ]\n") res.2).2).2
    let flushed := fflush footer
    (if flushed.1 then 0 else -1, (fclose flushed.2).2)
  else (-1, (fclose res.2).2)

/-! ### The streaming writer -/

structure Ue4jWriter where
  fp : Stream
  count : Nat

@[irreducible] def jsonFooter : Str := lit "\n  ]\n\x7d\n"

/-- The writer on a new stream with the given outcomes. -/
def ue4jWriterStart (outcome : Nat → Outcome) : Ue4jWriter := ⟨(writeHeader jsonHeader (.start outcome)).2, 0⟩

def writeComma (count : Nat) : Output Bool := if count > 0 then fputs (lit ",\n") else pure true

/-- The flag says that the class was written and counted. -/
def ue4jWriterWriteClass (w : Ue4jWriter) (cls : Ue4Class) : Bool × Ue4jWriter :=
  let res := jsonWriteClass cls true (writeComma w.count w.fp).2
  (res.1, ⟨res.2, if res.1 then w.count + 1 else w.count⟩)

/-- The number of classes counted, or -1; and the stream once closed. -/
def ue4jWriterClose (w : Ue4jWriter) : Int × Stream :=
  let flushed := fflush (fputs jsonFooter w.fp).2
  let closed := fclose flushed.2
  (if flushed.1 ∧ flushed.2.error = false ∧ closed.1 then w.count else -1, closed.2)

end RadarAim
