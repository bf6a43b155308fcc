import RadarAim.Lib.JsonText
import RadarAim.Theorems.Dump

/-! Both schema writers leave JSON texts of the classes they were given, byte for byte: a name or a type is read
    back as the string that was written, whatever bytes it has. -/

namespace RadarAim
namespace RoundTrip
open Stdio JsonText Dump

/-! ### The values -/

def propertyValue (p : Ue4Property) : Json :=
  .object [(lit "name", .string p.name), (lit "type", .string p.type), (lit "offset", .number p.offset 0),
    (lit "element_size", .number p.elementSize 0), (lit "array_dim", .number p.arrayDim 0)]

def functionValue (f : Ue4Function) : Json :=
  .object [(lit "name", .string f.name), (lit "flags", .number f.flags.toNat 0),
    (lit "parameter_size", .number f.parmsSize.toNat 0)]

def classValue (c : Ue4Class) : Json :=
  .object [(lit "name", .string c.name), (lit "super", .string c.superName), (lit "size", .number c.structSize 0),
    (lit "properties", .array (c.properties.map propertyValue)),
    (lit "functions", .array (c.functions.map functionValue))]

/-- What a schema of `classes` says. -/
def schemaValue (classes : List Ue4Class) : Json :=
  .object [(lit "format", .string (lit "ue4-reflection-schema-v1")),
    (lit "scope", .string (lit "type metadata only; no object values")),
    (lit "classes", .array (classes.map classValue))]

/-! ### Strings and numbers -/

theorem escape_control : ∀ n < 0x20, hexUnit 0x30 0x30 (hexDigit (n / 16)) (hexDigit (n % 16)) = some n := by decide

/-- The bytes that have a letter of their own after the backslash. -/
def lettered : List UInt8 := [0x22, 0x5c, 0x08, 0x0c, 0x0a, 0x0d, 0x09]

theorem escapeByte_lettered {c : UInt8} (h : c ∈ lettered) :
    ∃ e, escapeByte c = [0x5c, e] ∧ escapeValue e = some c := by
  simp only [lettered, List.mem_cons, List.not_mem_nil, or_false] at h
  rcases h with rfl | rfl | rfl | rfl | rfl | rfl | rfl <;> exact ⟨_, rfl, rfl⟩

theorem escapeByte_other {c : UInt8} (h : c ∉ lettered) :
    escapeByte c = if c < 0x20 then lit "\\u00" ++ [hexDigit (c.toNat / 16), hexDigit (c.toNat % 16)] else [c] := by
  simp only [lettered, List.mem_cons, List.not_mem_nil, or_false, not_or] at h
  obtain ⟨h₁, h₂, h₃, h₄, h₅, h₆, h₇⟩ := h
  rw [escapeByte, if_neg h₁, if_neg h₂, if_neg h₃, if_neg h₄, if_neg h₅, if_neg h₆, if_neg h₇]

/-- Every byte is read back from its escape. -/
theorem char_escapeByte (c : UInt8) (rest : Str) : char (escapeByte c ++ rest) = some ([c], rest) := by
  by_cases hc : c ∈ lettered
  · obtain ⟨e, henc, hval⟩ := escapeByte_lettered hc
    rw [henc]
    exact char_escape hval rest
  rw [escapeByte_other hc]
  split
  · rename_i hlow
    have hascii : c < 0x80 := UInt8.lt_trans hlow (by decide)
    exact char_unicode (escape_control c.toNat (UInt8.lt_iff_toNat_lt.mp hlow)) hascii rest
  · rename_i hlow
    have hplain : plain c = true := by
      simp only [lettered, List.mem_cons, not_or] at hc
      simp [plain, UInt8.not_lt.mp hlow, hc.1, hc.2.1]
    exact char_plain hplain rest

theorem reads_escaped (s : Str) (depth : Nat) : Reads (value (depth + 1)) (escaped s) (.string s) :=
  reads_string (fun c _ rest => char_escapeByte c rest) depth

theorem reads_decimalInt (n : Int) (depth : Nat) : Reads (value (depth + 1)) (decimalInt n) (.number n 0) := by
  unfold decimalInt
  split
  · rename_i hneg
    have hn : n = -(n.natAbs : Int) := by omega
    have h := reads_negative n.natAbs depth
    rwa [← hn] at h
  · rename_i hpos
    have hn : (n.toNat : Int) = n := Int.toNat_of_nonneg (by omega)
    have h := reads_decimal n.toNat depth
    rwa [hn] at h

/-! ### Objects -/

/-- The member `key` with its value after a space. -/
def field (key text : Str) (v : Json) : Field := ⟨key, 0x20 :: text, v⟩

theorem field_good {depth : Nat} {key text : Str} {v : Json} (hkey : key.all plain = true)
    (h : Reads (value depth) text v) : (field key text v).Good depth :=
  ⟨List.all_eq_true.mp hkey, h.ws (w := [0x20]) (value_skips depth) (blank rfl)⟩

/-! ### Properties and functions -/

def propertyFields (p : Ue4Property) : List Field :=
  [field (lit "name") (escaped p.name) (.string p.name), field (lit "type") (escaped p.type) (.string p.type),
    field (lit "offset") (decimalInt p.offset) (.number p.offset 0),
    field (lit "element_size") (decimalInt p.elementSize) (.number p.elementSize 0),
    field (lit "array_dim") (decimalInt p.arrayDim) (.number p.arrayDim 0)]

def functionFields (f : Ue4Function) : List Field :=
  [field (lit "name") (escaped f.name) (.string f.name),
    field (lit "flags") (decimal f.flags.toNat) (.number f.flags.toNat 0),
    field (lit "parameter_size") (decimal f.parmsSize.toNat) (.number f.parmsSize.toNat 0)]

/-- An object on a line of its own. -/
def lineText (fields : List Field) : Str := lit "        " ++ 0x7b :: fieldsText (lit " ") (lit " ") fields

theorem propertyText_eq (p : Ue4Property) (last : Bool) :
    propertyText p last = lineText (propertyFields p) ++ (separator last ++ lit "\n") := by
  simp only [propertyText, lineText, propertyFields, fieldsText, field, Field.write, List.append_assoc,
    List.cons_append, List.nil_append, List.append_nil]
  rfl

theorem functionText_eq (f : Ue4Function) (last : Bool) :
    functionText f last = lineText (functionFields f) ++ (separator last ++ lit "\n") := by
  simp only [functionText, lineText, functionFields, fieldsText, field, Field.write, List.append_assoc,
    List.cons_append, List.nil_append, List.append_nil]
  rfl

theorem reads_line {depth : Nat} {fields : List Field} (h : ∀ f ∈ fields, f.Good depth) :
    Reads (value (depth + 1)) (lineText fields) (.object (fields.map Field.member)) :=
  (reads_fields (blank rfl) (blank rfl) h).ws (value_skips _) (blank rfl)

theorem reads_property (p : Ue4Property) (depth : Nat) :
    Reads (value (depth + 2)) (lineText (propertyFields p)) (propertyValue p) := by
  refine reads_line fun f hf => ?_
  simp only [propertyFields, List.mem_cons, List.not_mem_nil, or_false] at hf
  obtain rfl | rfl | rfl | rfl | rfl := hf
  · exact field_good rfl (reads_escaped _ depth)
  · exact field_good rfl (reads_escaped _ depth)
  · exact field_good rfl (reads_decimalInt _ depth)
  · exact field_good rfl (reads_decimalInt _ depth)
  · exact field_good rfl (reads_decimalInt _ depth)

theorem reads_function (f : Ue4Function) (depth : Nat) :
    Reads (value (depth + 2)) (lineText (functionFields f)) (functionValue f) := by
  refine reads_line fun f hf => ?_
  simp only [functionFields, List.mem_cons, List.not_mem_nil, or_false] at hf
  obtain rfl | rfl | rfl := hf
  · exact field_good rfl (reads_escaped _ depth)
  · exact field_good rfl (reads_decimal _ depth)
  · exact field_good rfl (reads_decimal _ depth)

/-! ### Lists -/

section Lists
variable {α : Type} {text : α → Bool → Str} {core : α → Str} {val : α → Json} {depth : Nat}

/-- The separator after an item and the line break are all that the text adds to its core. -/
structure ListItem (depth : Nat) (text : α → Bool → Str) (core : α → Str) (val : α → Json) : Prop where
  text : ∀ x last, text x last = core x ++ (separator last ++ lit "\n")
  reads : ∀ x, Reads (value depth) (core x) (val x)

theorem listText_listed (h : ListItem depth text core val) {tail : Str} (htail : ∀ c ∈ tail, isWs c = true)
    (x : α) (xs : List α) :
    Listed 0x5d (value depth) ((x :: xs).map val) (listText text (x :: xs) ++ (tail ++ [0x5d])) := by
  induction xs generalizing x with
  | nil =>
    have hws : ∀ c ∈ lit "\n" ++ tail, isWs c = true := List.forall_mem_append.mpr ⟨blank rfl, htail⟩
    have hlast : Listed 0x5d _ [val x] _ := .last (h.reads x) hws
    simpa [listText, h.text, separator] using hlast
  | cons y ys ih =>
    have hrest := (ih y).ws (w := lit "\n") (value_skips depth) (blank rfl)
    have hmore := Listed.more (w := []) (h.reads x) (List.forall_mem_nil _) hrest
    rw [listText, h.text x]
    simpa [separator, lit] using hmore

theorem reads_list (h : ListItem depth text core val) {tail : Str} (htail : ∀ c ∈ tail, isWs c = true) (xs : List α) :
    Reads (value (depth + 1)) (lit "[\n" ++ (listText text xs ++ (tail ++ lit "]"))) (.array (xs.map val)) := by
  refine reads_array (t := lit "\n" ++ (listText text xs ++ (tail ++ lit "]"))) ?_
  cases xs with
  | nil =>
    have hws : ∀ c ∈ lit "\n" ++ tail, isWs c = true := List.forall_mem_append.mpr ⟨blank rfl, htail⟩
    rw [listText, List.nil_append, ← List.append_assoc]
    exact .empty hws
  | cons x xs => exact .listed ((listText_listed h htail x xs).ws (value_skips depth) (blank rfl))

end Lists

theorem property_item (depth : Nat) :
    ListItem (depth + 2) propertyText (fun p => lineText (propertyFields p)) propertyValue :=
  ⟨propertyText_eq, fun p => reads_property p depth⟩

theorem function_item (depth : Nat) :
    ListItem (depth + 2) functionText (fun f => lineText (functionFields f)) functionValue :=
  ⟨functionText_eq, fun f => reads_function f depth⟩

/-! ### Classes -/

def classFields (c : Ue4Class) : List Field :=
  [field (lit "name") (escaped c.name) (.string c.name),
    field (lit "super") (escaped c.superName) (.string c.superName),
    field (lit "size") (decimalInt c.structSize) (.number c.structSize 0),
    field (lit "properties") (lit "[\n" ++ (listText propertyText c.properties ++ (lit "      " ++ lit "]")))
      (.array (c.properties.map propertyValue)),
    field (lit "functions") (lit "[\n" ++ (listText functionText c.functions ++ (lit "      " ++ lit "]")))
      (.array (c.functions.map functionValue))]

def classCore (c : Ue4Class) : Str := lit "    " ++ 0x7b :: fieldsText (lit "\n      ") (lit "\n    ") (classFields c)

theorem classText_eq (c : Ue4Class) (last : Bool) :
    classText c last = classCore c ++ (separator last ++ lit "\n") := by
  simp only [classText, classCore, classFields, fieldsText, field, Field.write, List.append_assoc,
    List.cons_append, List.nil_append, List.append_nil]
  rfl

theorem reads_class (c : Ue4Class) (depth : Nat) : Reads (value (depth + 4)) (classCore c) (classValue c) := by
  have hfields : ∀ f ∈ classFields c, f.Good (depth + 3) := by
    intro f hf
    simp only [classFields, List.mem_cons, List.not_mem_nil, or_false] at hf
    obtain rfl | rfl | rfl | rfl | rfl := hf
    · exact field_good rfl (reads_escaped _ (depth + 2))
    · exact field_good rfl (reads_escaped _ (depth + 2))
    · exact field_good rfl (reads_decimalInt _ (depth + 2))
    · exact field_good rfl (reads_list (property_item depth) (blank rfl) c.properties)
    · exact field_good rfl (reads_list (function_item depth) (blank rfl) c.functions)
  exact (reads_fields (blank rfl) (blank rfl) hfields).ws (value_skips _) (blank rfl)

theorem class_item (depth : Nat) : ListItem (depth + 4) classText classCore classValue :=
  ⟨classText_eq, fun c => reads_class c depth⟩

/-! ### Documents -/

def schemaFields (text : Str) (classes : List Ue4Class) : List Field :=
  [field (lit "format") (lit "\"ue4-reflection-schema-v1\"") (.string (lit "ue4-reflection-schema-v1")),
    field (lit "scope") (lit "\"type metadata only; no object values\"")
      (.string (lit "type metadata only; no object values")),
    field (lit "classes") text (.array (classes.map classValue))]

/-- A document around the array `text` of the classes. -/
def schemaText (text : Str) (classes : List Ue4Class) : Str :=
  0x7b :: fieldsText (lit "\n  ") (lit "\n") (schemaFields text classes)

theorem parse_schema {text : Str} {classes : List Ue4Class}
    (h : ∀ depth, Reads (value (depth + 5)) text (.array (classes.map classValue))) :
    parse (schemaText text classes ++ lit "\n") = some (schemaValue classes) := by
  refine parse_reads (d := 6) (fun depth => ?_) ?_ (blank rfl)
  · refine reads_fields (blank rfl) (blank rfl) fun f hf => ?_
    simp only [schemaFields, List.mem_cons, List.not_mem_nil, or_false] at hf
    obtain rfl | rfl | rfl := hf
    · exact field_good rfl (reads_plain (s := lit "ue4-reflection-schema-v1") (List.all_eq_true.mp rfl) (depth + 4))
    · exact field_good rfl (reads_plain (s := lit "type metadata only; no object values")
        (List.all_eq_true.mp rfl) (depth + 4))
    · exact field_good rfl (h depth)
  · exact Nat.le_add_left 6 _

/-! ### The batch writer -/

def batchText (classes : List Ue4Class) : Str :=
  headerText jsonHeader ++ listText classText classes ++ (lit "  ]\n" ++ lit "\x7d\n")

theorem batchText_eq (classes : List Ue4Class) : batchText classes =
    schemaText (lit "[\n" ++ (listText classText classes ++ (lit "  " ++ lit "]"))) classes ++ lit "\n" := by
  simp only [batchText, jsonHeader, headerText, schemaText, schemaFields, fieldsText, field, Field.write,
    List.append_assoc, List.cons_append, List.nil_append, List.append_nil]
  rfl

theorem parse_batchText (classes : List Ue4Class) : parse (batchText classes) = some (schemaValue classes) := by
  rw [batchText_eq]
  exact parse_schema fun depth => reads_list (class_item depth) (blank rfl) classes

section Sound
variable {outcome : Nat → Outcome}

theorem ue4jWrite_file (h : ∀ n kept, outcome n ≠ .failed kept) (classes : List Ue4Class) :
    (ue4jWrite outcome classes).1 = 0 ∧ (ue4jWrite outcome classes).2.file = batchText classes := by
  have hstart : Sound (.start outcome) := ⟨rfl, h⟩
  obtain ⟨hheader, htext⟩ := (writeHeader_puts jsonHeader).of_sound hstart
  have hlist := writeList_checked jsonWriteClass_checked classes
  obtain ⟨hclasses, htext'⟩ := hlist.puts.of_sound hheader
  have hfooter := (fputs_puts (lit "  ]\n")).bind fun _ => fputs_puts (lit "\x7d\n")
  obtain ⟨hend, htext''⟩ := hfooter.of_sound hclasses
  obtain ⟨hflushed, hflush⟩ := fflush_sound hend
  obtain ⟨hfile, hbuf, -⟩ := fflush_file hflushed
  obtain ⟨hclose, -, -⟩ := fflush_file (fflush_sound hflush).1
  rw [ue4jWrite, if_pos (hlist.of_sound hheader)]
  refine ⟨if_pos hflushed, hclose.trans ?_⟩
  rw [Stream.text, hfile, hbuf, htext'', htext', htext, List.append_nil]
  rfl

/-- The text of the batch writer is read as the classes it was given. -/
theorem ue4jWrite_parses (h : ∀ n kept, outcome n ≠ .failed kept) (classes : List Ue4Class) :
    (ue4jWrite outcome classes).1 = 0 ∧
      parse (ue4jWrite outcome classes).2.file = some (schemaValue classes) := by
  obtain ⟨hres, hfile⟩ := ue4jWrite_file h classes
  exact ⟨hres, hfile ▸ parse_batchText classes⟩

end Sound

/-- A class with a quote, a line break and a byte that is not ASCII in its strings. -/
def sampleClass : Ue4Class where
  name := lit "/Script/Engine.\"Actor\""
  superName := []
  structSize := -1
  properties := [⟨lit "a\nb", [0xc3, 0xa9], -8, 4, 1⟩, ⟨[], [0x01], 0, 0, 0⟩]
  functions := []

theorem ue4jWrite_parses_sample : (ue4jWrite (fun _ => .later) [sampleClass]).1 = 0 ∧
    parse (ue4jWrite (fun _ => .later) [sampleClass]).2.file = some (schemaValue [sampleClass]) :=
  ue4jWrite_parses (fun _ _ h => by cases h) [sampleClass]

/-! ### The streaming writer -/

theorem classesText_listed (depth count : Nat) (c : Ue4Class) (cs : List Ue4Class) :
    Listed 0x5d (value (depth + 4)) ((c :: cs).map classValue)
      (classCore c ++ (lit "\n" ++ (classesText (count + 1) cs ++ lit "\n  ]"))) := by
  induction cs generalizing c count with
  | nil => exact .last (reads_class c depth) (blank (w := lit "\n\n  ") rfl)
  | cons d ds ih =>
    have hrest := (ih (count + 1) d).ws (w := lit "\n") (value_skips _) (blank rfl)
    have hmore := Listed.more (w := lit "\n") (reads_class c depth) (blank rfl) hrest
    rw [classesText, commaText, if_pos (Nat.succ_pos count), classText_eq]
    simpa [separator, lit] using hmore

theorem documentText_eq (classes : List Ue4Class) : documentText classes =
    schemaText (lit "[\n" ++ (classesText 0 classes ++ lit "\n  ]")) classes ++ lit "\n" := by
  simp only [documentText, jsonHeader, jsonFooter, headerText, schemaText, schemaFields, fieldsText, field,
    Field.write, List.append_assoc, List.cons_append, List.nil_append, List.append_nil]
  rfl

theorem parse_documentText (classes : List Ue4Class) : parse (documentText classes) = some (schemaValue classes) := by
  rw [documentText_eq]
  refine parse_schema fun depth => reads_array (t := lit "\n" ++ (classesText 0 classes ++ lit "\n  ]")) ?_
  cases classes with
  | nil => exact .empty (blank (w := lit "\n\n  ") rfl)
  | cons c cs =>
    have hlisted := (classesText_listed depth 0 c cs).ws (w := lit "\n") (value_skips _) (blank rfl)
    rw [classesText, classText_eq]
    refine .listed ?_
    simpa [commaText, separator, lit] using hlisted

section Agree
variable {outcome outcome' : Nat → Outcome}

theorem streamed_file (h : ∀ n kept, outcome n ≠ .failed kept) (classes : List Ue4Class) :
    (ue4jWriterClose (streamed outcome classes)).1 = classes.length ∧
      (ue4jWriterClose (streamed outcome classes)).2.file = documentText classes := by
  obtain hfail | hdone := ue4jWriterClose_complete outcome classes
  · have hstart : Sound (.start outcome) := ⟨rfl, h⟩
    have hstreamed := (streamed_wrote outcome classes).1.sound hstart
    obtain ⟨hend, -⟩ := (fputs_puts jsonFooter).of_sound hstreamed
    obtain ⟨hflushed, hflush⟩ := fflush_sound hend
    rw [ue4jWriterClose, if_pos ⟨hflushed, hflush.error, (fflush_sound hflush).1⟩] at hfail
    cases hfail
  · exact hdone

/-- Both writers say the same of the classes. -/
theorem writers_agree (h : ∀ n kept, outcome n ≠ .failed kept) (h' : ∀ n kept, outcome' n ≠ .failed kept)
    (classes : List Ue4Class) :
    (ue4jWriterClose (streamed outcome classes)).1 = classes.length ∧
      ∃ v, parse (ue4jWriterClose (streamed outcome classes)).2.file = some v ∧
        parse (ue4jWrite outcome' classes).2.file = some v := by
  obtain ⟨hcount, hfile⟩ := streamed_file h classes
  obtain ⟨-, hfile'⟩ := ue4jWrite_file h' classes
  exact ⟨hcount, schemaValue classes, hfile ▸ parse_documentText classes, hfile' ▸ parse_batchText classes⟩

end Agree

theorem writers_agree_sample : (ue4jWriterClose (streamed (fun _ => .later) [sampleClass])).1 = 1 ∧
    ∃ v, parse (ue4jWriterClose (streamed (fun _ => .later) [sampleClass])).2.file = some v ∧
      parse (ue4jWrite (fun _ => .done) [sampleClass]).2.file = some v :=
  writers_agree (fun _ _ h => by cases h) (fun _ _ h => by cases h) [sampleClass]

end RoundTrip
end RadarAim
