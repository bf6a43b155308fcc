import RadarAim.Sdk

/-! The schema dump is published whole or not at all: the error flag of the pending stream remembers every
    write that failed, so a count that agrees with the iterator's is the count of a complete document. -/

namespace RadarAim
namespace Dump
open Stdio

/-! ### The document -/

def escaped (s : Str) : Str := lit "\"" ++ (s.flatMap escapeByte ++ lit "\"")

def propertyText (p : Ue4Property) (last : Bool) : Str :=
  lit "        \x7b " ++ (lit "\"name\": " ++ (escaped p.name ++ (lit ", \"type\": " ++ (escaped p.type ++
    (lit ", \"offset\": " ++ decimalInt p.offset ++ (lit ", \"element_size\": " ++ decimalInt p.elementSize ++
      (lit ", \"array_dim\": " ++ decimalInt p.arrayDim ++ (lit " \x7d" ++ separator last ++ lit "\n" ++ []))))))))

def functionText (f : Ue4Function) (last : Bool) : Str :=
  lit "        \x7b " ++ (lit "\"name\": " ++ (escaped f.name ++ (lit ", \"flags\": " ++ decimal f.flags.toNat ++
    (lit ", \"parameter_size\": " ++ decimal f.parmsSize.toNat ++ (lit " \x7d" ++ separator last ++ lit "\n" ++ [])))))

def listText {α : Type} (text : α → Bool → Str) : List α → Str
  | [] => []
  | x :: xs => text x xs.isEmpty ++ listText text xs

def classText (c : Ue4Class) (last : Bool) : Str :=
  lit "    \x7b\n" ++ (lit "      \"name\": " ++ (escaped c.name ++ (lit ",\n" ++ (lit "      \"super\": " ++
    (escaped c.superName ++ (lit ",\n" ++ (lit "      \"size\": " ++ decimalInt c.structSize ++ lit ",\n" ++
      (lit "      \"properties\": [\n" ++ (listText propertyText c.properties ++ (lit "      ],\n" ++
        (lit "      \"functions\": [\n" ++ (listText functionText c.functions ++ (lit "      ]\n" ++
          (lit "    \x7d" ++ separator last ++ lit "\n" ++ []))))))))))))))

def commaText (count : Nat) : Str := if count > 0 then lit ",\n" else []

/-- The text of the classes after `count` others. -/
def classesText : (count : Nat) → List Ue4Class → Str
  | _, [] => []
  | count, c :: cs => commaText count ++ classText c true ++ classesText (count + 1) cs

def headerText : List Str → Str
  | [] => []
  | line :: rest => line ++ headerText rest

def documentText (classes : List Ue4Class) : Str :=
  headerText jsonHeader ++ classesText 0 classes ++ jsonFooter

/-! ### What the writers put -/

theorem writeEscapedBytes_checked (s : Str) : Checked (writeEscapedBytes s) (s.flatMap escapeByte) := by
  induction s with
  | nil => exact Checked.pure_true
  | cons c cs ih => exact (fputs_checked (escapeByte c)).andThen ih

theorem jsonWriteEscaped_checked (s : Str) : Checked (jsonWriteEscaped s) (escaped s) :=
  (fputs_checked _).andThen ((writeEscapedBytes_checked s).andThen (fputs_checked _))

theorem jsonWriteProperty_checked (p : Ue4Property) (last : Bool) :
    Checked (jsonWriteProperty p last) (propertyText p last) := by
  refine .after (fputs_puts _) (.after (fputs_puts _) ((jsonWriteEscaped_checked p.name).andThen ?_))
  refine .after (fputs_puts _) ((jsonWriteEscaped_checked p.type).andThen ?_)
  refine .after (fputs_puts _) (.after (fputs_puts _) (.after (fputs_puts _) ?_))
  exact .after (fputs_puts _) Checked.pure_true

theorem jsonWriteFunction_checked (f : Ue4Function) (last : Bool) :
    Checked (jsonWriteFunction f last) (functionText f last) := by
  refine .after (fputs_puts _) (.after (fputs_puts _) ((jsonWriteEscaped_checked f.name).andThen ?_))
  refine .after (fputs_puts _) (.after (fputs_puts _) ?_)
  exact .after (fputs_puts _) Checked.pure_true

theorem writeList_checked {α : Type} {write : α → Bool → Output Bool} {text : α → Bool → Str}
    (h : ∀ x last, Checked (write x last) (text x last)) (l : List α) :
    Checked (writeList write l) (listText text l) := by
  induction l with
  | nil => exact Checked.pure_true
  | cons x xs ih => exact (h x xs.isEmpty).andThen ih

theorem jsonWriteClass_checked (c : Ue4Class) (last : Bool) : Checked (jsonWriteClass c last) (classText c last) := by
  unfold jsonWriteClass
  refine .after (fputs_puts _) (.after (fputs_puts _) ((jsonWriteEscaped_checked c.name).andThen ?_))
  refine .after (fputs_puts _) (.after (fputs_puts _) ((jsonWriteEscaped_checked c.superName).andThen ?_))
  refine .after (fputs_puts _) (.after (fputs_puts _) (.after (fputs_puts _) ?_))
  refine (writeList_checked jsonWriteProperty_checked c.properties).andThen ?_
  refine .after (fputs_puts _) (.after (fputs_puts _) ?_)
  refine (writeList_checked jsonWriteFunction_checked c.functions).andThen ?_
  exact .after (fputs_puts _) (.after (fputs_puts _) Checked.pure_true)

theorem writeComma_checked (count : Nat) : Checked (writeComma count) (commaText count) := by
  unfold writeComma commaText
  split
  · exact fputs_checked _
  · exact Checked.pure_true

theorem writeHeader_puts (lines : List Str) : Puts (writeHeader lines) (headerText lines) := by
  induction lines with
  | nil => exact fun s => .refl s
  | cons line rest ih => exact (fputs_puts line).bind fun _ => ih

/-! ### Streaming -/

theorem fp_writeClass (w : Ue4jWriter) (c : Ue4Class) :
    (writeClass w c).fp = (jsonWriteClass c true (writeComma w.count w.fp).2).2 := rfl

theorem count_writeClass (w : Ue4jWriter) (c : Ue4Class) :
    (writeClass w c).count =
      if (jsonWriteClass c true (writeComma w.count w.fp).2).1 then w.count + 1 else w.count := rfl

theorem writeClass_wrote (w : Ue4jWriter) (c : Ue4Class) :
    Wrote w.fp (commaText w.count ++ classText c true) (writeClass w c).fp ∧
      ((writeClass w c).fp.error = false → (writeClass w c).count = w.count + 1) := by
  have hcomma := (writeComma_checked w.count).puts w.fp
  have hclass := jsonWriteClass_checked c true
  rw [fp_writeClass, count_writeClass]
  refine ⟨hcomma.trans (hclass.puts _), fun hok => if_pos ?_⟩
  by_contra hres
  exact absurd ((hclass.failed _ (by simpa using hres)).symm.trans hok) (by decide)

theorem writeClasses_wrote (classes : List Ue4Class) (w : Ue4jWriter) :
    Wrote w.fp (classesText w.count classes) (classes.foldl writeClass w).fp ∧
      ((classes.foldl writeClass w).fp.error = false →
        (classes.foldl writeClass w).count = w.count + classes.length) := by
  induction classes generalizing w with
  | nil => exact ⟨.refl w.fp, fun _ => rfl⟩
  | cons c cs ih =>
    obtain ⟨hwrote, hcount⟩ := writeClass_wrote w c
    obtain ⟨hrest, hlength⟩ := ih (writeClass w c)
    have hall := hwrote.trans hrest
    rw [List.foldl_cons]
    refine ⟨⟨hall.sticky, fun hok => ?_, hall.sound⟩, fun hok => ?_⟩
    · rw [hall.text hok, hcount (hrest.clear hok), classesText]
    · rw [hlength hok, hcount (hrest.clear hok), List.length_cons, Nat.add_assoc, Nat.add_comm 1]

/-- The writer after streaming `classes` to a new stream. -/
def streamed (outcome : Nat → Outcome) (classes : List Ue4Class) : Ue4jWriter :=
  classes.foldl writeClass (ue4jWriterStart outcome)

theorem streamed_wrote (outcome : Nat → Outcome) (classes : List Ue4Class) :
    Wrote (.start outcome) (headerText jsonHeader ++ classesText 0 classes) (streamed outcome classes).fp ∧
      ((streamed outcome classes).fp.error = false → (streamed outcome classes).count = classes.length) := by
  have hheader := writeHeader_puts jsonHeader (.start outcome)
  obtain ⟨hclasses, hcount⟩ := writeClasses_wrote classes (ue4jWriterStart outcome)
  refine ⟨hheader.trans hclasses, fun hok => ?_⟩
  rw [streamed, hcount hok]
  exact Nat.zero_add _

/-- A count other than -1 is that of a complete document. -/
theorem ue4jWriterClose_complete (outcome : Nat → Outcome) (classes : List Ue4Class) :
    (ue4jWriterClose (streamed outcome classes)).1 = -1 ∨
      (ue4jWriterClose (streamed outcome classes)).1 = classes.length ∧
        (ue4jWriterClose (streamed outcome classes)).2.file = documentText classes := by
  obtain ⟨hwrote, hcount⟩ := streamed_wrote outcome classes
  have hall := hwrote.trans (fputs_puts jsonFooter (streamed outcome classes).fp)
  have hfooter := fputs_puts jsonFooter (streamed outcome classes).fp
  rw [ue4jWriterClose]
  split
  · rename_i hgood
    obtain ⟨hflushed, herror, hclosed⟩ := hgood
    obtain ⟨hfile, hbuf, hsame⟩ := fflush_file hflushed
    obtain ⟨hfile', -, -⟩ := fflush_file hclosed
    rw [hsame] at herror
    refine Or.inr ⟨congrArg Int.ofNat (hcount (hfooter.clear herror)), ?_⟩
    show (fflush _).2.file = _
    rw [hfile', Stream.text, hfile, hbuf, List.append_nil, hall.text herror]
    rfl
  · exact Or.inl rfl

/-! ### Publication -/

/-- What a dump leaves: the previous contents of the output path with result -1, or the complete document with
    result 0; nothing else was ever seen there, and a pending file that was opened is gone. -/
structure Atomic (files : Files) (classes : List Ue4Class) (count : Int) (r : Int × Files) : Prop where
  output : (r.1 = -1 ∧ r.2.output = files.output) ∨
    (r.1 = 0 ∧ 0 < count ∧ count = classes.length ∧ r.2.output = some (documentText classes))
  seen : ∀ o ∈ r.2.seen, o ∈ files.seen ∨ o = files.output ∨ (r.1 = 0 ∧ o = some (documentText classes))
  pending : r.2.pending = none ∨ r.2 = files

section Publication
variable {files : Files} {classes : List Ue4Class} {count : Int}

theorem Atomic.unchanged : Atomic files classes count (-1, files) :=
  ⟨Or.inl ⟨rfl, rfl⟩, fun _ ho => Or.inl ho, Or.inr rfl⟩

theorem Atomic.dropped {f : Files} (l : List (Option Str)) (houtput : f.output = files.output)
    (hseen : f.seen = files.seen ++ l) (hl : ∀ o ∈ l, o = files.output) :
    Atomic files classes count (-1, f.remove) where
  output := Or.inl ⟨rfl, houtput⟩
  seen o ho := by
    simp only [Files.remove, Files.note, hseen, List.append_assoc, List.mem_append, List.mem_singleton] at ho
    rcases ho with ho | ho | ho
    · exact Or.inl ho
    · exact Or.inr (Or.inl (hl o ho))
    · exact Or.inr (Or.inl (ho.trans houtput))
  pending := Or.inl rfl

theorem finishDump_atomic (faults : Faults) (files : Files) (classes : List Ue4Class) (count : Int) :
    Atomic files classes count (finishDump faults files.truncate (streamed faults.stream classes) count) := by
  rw [finishDump]
  split
  · rename_i hgood
    obtain ⟨hpos, hwritten, -⟩ := hgood
    rcases ue4jWriterClose_complete faults.stream classes with hfail | ⟨hlength, hfile⟩
    · omega
    · refine ⟨Or.inr ⟨rfl, hpos, hwritten.symm.trans hlength, congrArg some hfile⟩, fun o ho => ?_, Or.inl rfl⟩
      simp only [Files.rename, Files.store, Files.truncate, Files.note, hfile, List.append_assoc, List.mem_append,
        List.mem_singleton] at ho
      rcases ho with ho | ho | ho | ho
      · exact Or.inl ho
      · exact Or.inr (Or.inl ho)
      · exact Or.inr (Or.inl ho)
      · exact Or.inr (Or.inr ⟨rfl, ho⟩)
  · refine Atomic.dropped [files.output, files.output] rfl ?_ (by simp)
    simp [Files.store, Files.truncate, Files.note]

theorem ue4jWriterOpen_cases (faults : Faults) (files : Files) :
    ue4jWriterOpen faults files = (none, files) ∨ ue4jWriterOpen faults files = (none, files.truncate) ∨
      ue4jWriterOpen faults files = (some (ue4jWriterStart faults.stream), files.truncate) := by
  unfold ue4jWriterOpen
  split
  · exact Or.inl rfl
  split
  · exact Or.inr (Or.inr rfl)
  · exact Or.inr (Or.inl rfl)

/-- Whatever fails, and whatever the iterator streams and returns. -/
theorem generate_atomic {γ : Type} (faults : Faults) (aslr : Option (UInt64 × UInt64)) (ctx : Option γ)
    (files : Files) (classes : List Ue4Class) (count : Int) :
    Atomic files classes count
      (Id.run (generate faults aslr (fun _ _ => pure ctx) (fun _ cb w => pure (classes.foldl cb w, count)) files)) := by
  unfold generate
  split
  · exact .unchanged
  split
  · exact .unchanged
  cases aslr with
  | none => exact .unchanged
  | some image =>
    cases ctx with
    | none => exact .unchanged
    | some ctx =>
      simp only [pure_bind]
      rcases ue4jWriterOpen_cases faults files with hopen | hopen | hopen <;> rw [hopen]
      · exact Atomic.dropped [] rfl (List.append_nil _).symm (by simp)
      · exact Atomic.dropped [files.output] rfl rfl (by simp)
      · exact finishDump_atomic faults files classes count

end Publication

end Dump
end RadarAim
