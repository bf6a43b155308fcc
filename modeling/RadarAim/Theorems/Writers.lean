import RadarAim.Theorems.RoundTrip

/-! What the two writers report. Both look at the writes of strings only; `ue4j_writer_close` asks for the error flag
    of the stream as well, and `ue4j_write` for its last flush alone. -/

namespace RadarAim
namespace Writers
open Stdio Dump RoundTrip

/-! ### The writes of a document -/

def unchecked (t : Str) : Piece := ⟨t, false⟩

def escapedPieces (s : Str) : List Piece :=
  ⟨lit "\"", true⟩ :: (s.map (fun c => ⟨escapeByte c, true⟩) ++ [⟨lit "\"", true⟩])

def propertyPieces (p : Ue4Property) (last : Bool) : List Piece :=
  unchecked (lit "        \x7b ") :: unchecked (lit "\"name\": ") :: (escapedPieces p.name ++
    unchecked (lit ", \"type\": ") :: (escapedPieces p.type ++
      [unchecked (lit ", \"offset\": " ++ decimalInt p.offset),
       unchecked (lit ", \"element_size\": " ++ decimalInt p.elementSize),
       unchecked (lit ", \"array_dim\": " ++ decimalInt p.arrayDim),
       unchecked (lit " \x7d" ++ separator last ++ lit "\n")]))

def functionPieces (f : Ue4Function) (last : Bool) : List Piece :=
  unchecked (lit "        \x7b ") :: unchecked (lit "\"name\": ") :: (escapedPieces f.name ++
    [unchecked (lit ", \"flags\": " ++ decimal f.flags.toNat),
     unchecked (lit ", \"parameter_size\": " ++ decimal f.parmsSize.toNat),
     unchecked (lit " \x7d" ++ separator last ++ lit "\n")])

def listPieces {α : Type} (pieces : α → Bool → List Piece) : List α → List Piece
  | [] => []
  | x :: xs => pieces x xs.isEmpty ++ listPieces pieces xs

def classPieces (c : Ue4Class) (last : Bool) : List Piece :=
  unchecked (lit "    \x7b\n") :: unchecked (lit "      \"name\": ") :: (escapedPieces c.name ++
    unchecked (lit ",\n") :: unchecked (lit "      \"super\": ") :: (escapedPieces c.superName ++
      unchecked (lit ",\n") :: unchecked (lit "      \"size\": " ++ decimalInt c.structSize ++ lit ",\n") ::
        unchecked (lit "      \"properties\": [\n") :: (listPieces propertyPieces c.properties ++
          unchecked (lit "      ],\n") :: unchecked (lit "      \"functions\": [\n") ::
            (listPieces functionPieces c.functions ++
              [unchecked (lit "      ]\n"), unchecked (lit "    \x7d" ++ separator last ++ lit "\n")]))))

/-- The writes of `ue4j_write`. -/
def batchPieces (classes : List Ue4Class) : List Piece :=
  jsonHeader.map unchecked ++ (listPieces classPieces classes ++ [unchecked (lit "  ]\n"), unchecked (lit "\x7d\n")])

section Pieces

theorem runPieces_nil : (pure true : Output Bool) = runPieces [] := rfl

/-- A write whose result is not looked at comes before the others. -/
theorem runPieces_unchecked {q : Output Bool} {ps : List Piece} (hq : q = runPieces ps) (t : Str) :
    (do let _ ← fputs t; q) = runPieces (unchecked t :: ps) := by
  funext s
  rw [runPieces_cons, hq]
  rfl

theorem runPieces_then {p q : Output Bool} {ps qs : List Piece} (hp : p = runPieces ps) (hq : q = runPieces qs) :
    andThen p q = runPieces (ps ++ qs) := by
  rw [hp, hq, runPieces_append]

theorem runPieces_checked (t : Str) : fputs t = runPieces [⟨t, true⟩] := by
  funext s
  rw [runPieces_cons]
  cases hok : fputs t s with
  | mk ok s' => cases ok <;> rfl

theorem jsonWriteEscaped_eq (s : Str) : jsonWriteEscaped s = runPieces (escapedPieces s) := by
  have hbytes : writeEscapedBytes s = runPieces (s.map fun c => ⟨escapeByte c, true⟩) := by
    induction s with
    | nil => rfl
    | cons c cs ih => exact runPieces_then (runPieces_checked _) ih
  exact runPieces_then (runPieces_checked _) (runPieces_then hbytes (runPieces_checked _))

theorem jsonWriteProperty_eq (p : Ue4Property) (last : Bool) :
    jsonWriteProperty p last = runPieces (propertyPieces p last) := by
  refine runPieces_unchecked (runPieces_unchecked (runPieces_then (jsonWriteEscaped_eq _) ?_) _) _
  refine runPieces_unchecked (runPieces_then (jsonWriteEscaped_eq _) ?_) _
  exact runPieces_unchecked (runPieces_unchecked (runPieces_unchecked (runPieces_unchecked runPieces_nil _) _) _) _

theorem jsonWriteFunction_eq (f : Ue4Function) (last : Bool) :
    jsonWriteFunction f last = runPieces (functionPieces f last) := by
  refine runPieces_unchecked (runPieces_unchecked (runPieces_then (jsonWriteEscaped_eq _) ?_) _) _
  exact runPieces_unchecked (runPieces_unchecked (runPieces_unchecked runPieces_nil _) _) _

theorem writeList_eq {α : Type} {write : α → Bool → Output Bool} {pieces : α → Bool → List Piece}
    (h : ∀ x last, write x last = runPieces (pieces x last)) (l : List α) :
    writeList write l = runPieces (listPieces pieces l) := by
  induction l with
  | nil => rfl
  | cons x xs ih => exact runPieces_then (h x xs.isEmpty) ih

theorem jsonWriteClass_eq (c : Ue4Class) (last : Bool) : jsonWriteClass c last = runPieces (classPieces c last) := by
  unfold jsonWriteClass
  refine runPieces_unchecked (runPieces_unchecked (runPieces_then (jsonWriteEscaped_eq _) ?_) _) _
  refine runPieces_unchecked (runPieces_unchecked (runPieces_then (jsonWriteEscaped_eq _) ?_) _) _
  refine runPieces_unchecked (runPieces_unchecked (runPieces_unchecked ?_ _) _) _
  refine runPieces_then (writeList_eq jsonWriteProperty_eq _) (runPieces_unchecked (runPieces_unchecked ?_ _) _)
  exact runPieces_then (writeList_eq jsonWriteFunction_eq _)
    (runPieces_unchecked (runPieces_unchecked runPieces_nil _) _)

/-! Their text. -/

theorem piecesText_escaped (s : Str) : piecesText (escapedPieces s) = escaped s := by
  simp only [escapedPieces, escaped, piecesText, List.flatMap_cons, List.flatMap_append, List.flatMap_map,
    List.flatMap_nil, List.append_nil]

theorem piecesText_list {α : Type} {pieces : α → Bool → List Piece} {text : α → Bool → Str}
    (h : ∀ x last, piecesText (pieces x last) = text x last) (l : List α) :
    piecesText (listPieces pieces l) = listText text l := by
  induction l with
  | nil => rfl
  | cons x xs ih => rw [listPieces, piecesText_append, h, ih, listText]

theorem piecesText_property (p : Ue4Property) (last : Bool) :
    piecesText (propertyPieces p last) = propertyText p last := by
  simp only [propertyPieces, propertyText, piecesText_cons, piecesText_append, piecesText_escaped]
  rfl

theorem piecesText_function (f : Ue4Function) (last : Bool) :
    piecesText (functionPieces f last) = functionText f last := by
  simp only [functionPieces, functionText, piecesText_cons, piecesText_append, piecesText_escaped]
  rfl

theorem piecesText_class (c : Ue4Class) (last : Bool) : piecesText (classPieces c last) = classText c last := by
  simp only [classPieces, classText, piecesText_cons, piecesText_append, piecesText_escaped,
    piecesText_list piecesText_property, piecesText_list piecesText_function]
  rfl

theorem piecesText_batch (classes : List Ue4Class) : piecesText (batchPieces classes) = batchText classes := by
  have hheader : ∀ lines, piecesText (List.map unchecked lines) = headerText lines := by
    intro lines
    induction lines with
    | nil => rfl
    | cons line lines ih => rw [List.map_cons, piecesText_cons, ih, headerText]; rfl
  rw [batchPieces, piecesText_append, piecesText_append, hheader, piecesText_list piecesText_class, batchText,
    List.append_assoc]
  rfl

end Pieces

/-! ### The batch writer -/

section Batch
variable {outcome : Nat → Outcome} {classes : List Ue4Class}

/-- The writer makes the writes of the document and then a flush, and looks at no others than the checked ones. -/
theorem ue4jWrite_eq (outcome : Nat → Outcome) (classes : List Ue4Class) :
    ue4jWrite outcome classes =
      let res := runPieces (batchPieces classes) (.start outcome)
      if res.1 then (if (fflush res.2).1 then 0 else -1, (fclose (fflush res.2).2).2) else (-1, (fclose res.2).2) := by
  have hheader : ∀ (lines : List Str) (ps : List Piece) (s : Stream),
      runPieces (lines.map unchecked ++ ps) s = runPieces ps (writeHeader lines s).2 := by
    intro lines ps
    induction lines with
    | nil => exact fun s => rfl
    | cons line lines ih => exact fun s => ih (fputs line s).2
  rw [batchPieces, hheader, runPieces_append, ← writeList_eq jsonWriteClass_eq, andThen_run, ue4jWrite]
  dsimp only
  cases writeList jsonWriteClass classes (writeHeader jsonHeader (.start outcome)).2 with
  | mk ok s => cases ok <;> rfl

theorem fflush_eq (s : Stream) : (fflush s).1 = !(s.outcome s.next).isFailed := by
  unfold fflush Outcome.isFailed
  cases s.outcome s.next <;> rfl

/-- Success is reported for a complete file exactly when no flush fails before the last one, or one fails where the
    writer looks: while it writes a string, or at the end. -/
theorem batch_iff (h : Loses outcome) :
    ((ue4jWrite outcome classes).1 = 0 → (ue4jWrite outcome classes).2.file = batchText classes) ↔
      Quiet outcome 0 (batchText classes).length ∨ Noticed outcome (batchPieces classes) 0 := by
  have hnoticed := runPieces_noticed (batchPieces classes) (.start outcome)
  have hquiet := runPieces_error (batchPieces classes) (s := .start outcome) rfl
  have hspent := runPieces_spent (s := .start outcome) h (batchPieces classes)
  have hputs := (runPieces_puts (batchPieces classes) (.start outcome)).text
  have hlost := hspent.lt rfl
  rw [ue4jWrite_eq, ← piecesText_batch]
  generalize runPieces (batchPieces classes) (.start outcome) = res at hnoticed hquiet hspent hputs hlost
  obtain ⟨ok, s⟩ := res
  have hstart : (Stream.start outcome).text = [] := rfl
  dsimp only at hnoticed hquiet hputs hlost ⊢
  rw [hstart, List.nil_append] at hputs
  rw [hstart, List.length_nil, Nat.zero_add] at hlost
  cases hok : ok && (fflush s).1 with
  | false =>
    -- a failure is reported
    have hreport : Noticed outcome (batchPieces classes) 0 := by
      refine not_not.mp fun hno => ?_
      obtain ⟨hres, hlast⟩ := hnoticed.mpr hno
      rw [hres, Bool.true_and, fflush_eq, hlast] at hok
      cases hok
    refine iff_of_true (fun hzero => ?_) (Or.inr hreport)
    cases ok with
    | false => cases hzero
    | true =>
      rw [Bool.true_and] at hok
      simp [hok] at hzero
  | true =>
    obtain ⟨hres, hflush⟩ := Bool.and_eq_true_iff.mp hok
    obtain ⟨hfile, hbuf, -⟩ := fflush_file hflush
    have hlast : (s.outcome s.next).isFailed = false := by
      rw [fflush_eq] at hflush
      simpa using hflush
    -- Nothing was noticed, so all depends on whether a byte was lost.
    have hunnoticed : ¬Noticed outcome (batchPieces classes) 0 := hnoticed.mp ⟨hres, hlast⟩
    have hclear : s.error = false ↔ Quiet outcome 0 (piecesText (batchPieces classes)).length := hquiet
    have hclosed : (fclose (fflush s).2).2.file = s.text := by
      rw [← hfile]
      exact fflush_empty hbuf
    simp only [hres, if_true, hflush, true_implies, hclosed]
    rw [or_iff_left hunnoticed, ← hclear]
    constructor
    · -- A lost byte makes the file shorter than the text.
      intro htext
      by_contra herror
      have hlen := hlost (by simpa using herror)
      rw [htext] at hlen
      exact Nat.lt_irrefl _ hlen
    · exact hputs

end Batch

/-! ### Both writers -/

/-- What either writer reports as success is a complete file: of the batch writer a result of 0, of the streaming writer
    a count that is not negative. -/
structure Honest (outcome outcome' : Nat → Outcome) (classes : List Ue4Class) : Prop where
  batch : (ue4jWrite outcome classes).1 = 0 → (ue4jWrite outcome classes).2.file = batchText classes
  streaming : 0 ≤ (ue4jWriterClose (streamed outcome' classes)).1 →
    (ue4jWriterClose (streamed outcome' classes)).2.file = documentText classes

/-- The streaming writer never reports a file that is not complete; the batch writer does unless it looks at a write
    that fails, or none fails. -/
theorem honest_iff {outcome : Nat → Outcome} (h : Loses outcome) (outcome' : Nat → Outcome) (classes : List Ue4Class) :
    Honest outcome outcome' classes ↔
      Quiet outcome 0 (batchText classes).length ∨ Noticed outcome (batchPieces classes) 0 := by
  rw [← batch_iff h]
  refine ⟨Honest.batch, fun hbatch => ⟨hbatch, fun hcount => ?_⟩⟩
  rcases ue4jWriterClose_complete outcome' classes with hfail | ⟨-, hfile⟩
  · omega
  · exact hfile

/-- The disk is full while the first byte is written, and has room again afterwards. -/
def fullAtFirst : Nat → Outcome
  | 0 => .failed 0
  | _ => .later

theorem fullAtFirst_loses : Loses fullAtFirst := by
  intro n kept h
  cases n with
  | zero => exact (Outcome.failed.inj h).symm
  | succ n => cases h

theorem honest_iff_full : Honest (fun _ => .failed 0) fullAtFirst [sampleClass] := by
  have hloses : Loses fun _ => .failed 0 := fun n kept h => (Outcome.failed.inj h).symm
  exact (honest_iff hloses fullAtFirst [sampleClass]).mpr (Or.inr (by decide +kernel))

/-- A document without classes whose first byte is lost is reported as written. -/
theorem first_byte_lost : ¬∀ (outcome outcome' : Nat → Outcome) (classes : List Ue4Class), Loses outcome →
    Loses outcome' → Honest outcome outcome' classes := by
  intro h
  have hhonest := h fullAtFirst fullAtFirst [] fullAtFirst_loses fullAtFirst_loses
  have hlen := congrArg List.length (hhonest.batch (by decide +kernel))
  revert hlen
  decide +kernel

end Writers
end RadarAim
