import RadarAim.Theorems.DyingTarget
import RadarAim.Theorems.Metaclass
import RadarAim.Theorems.RoundTrip

/-! The schema dump from the process to the file. When a dump says that it succeeded, the file at the output path is a
    JSON text of the classes that the walk over the object table came to, and when it does not, it is the last one. -/

namespace RadarAim
namespace Schema
open Stdio JsonText Dump RoundTrip Walkers DyingTarget Names Objects Contexts Metaclass

/-- The output path holds a JSON text of `classes`, of which there is at least one. -/
def Describes (classes : List Ue4Class) (files : Files) : Prop :=
  classes ≠ [] ∧ ∃ text, files.output = some text ∧ parse text = some (schemaValue classes)

/-- What a dump has done when the walk came to `classes`. -/
structure Dumped (faults : Faults) (files : Files) (classes : List Ue4Class) (r : Int × Files) : Prop where
  outcome : Kept files r ∨ r.1 = 0 ∧ Describes classes r.2
  replaced : Healthy faults → classes ≠ [] → r.1 = 0

section Finish
variable (faults : Faults) (files : Files)

theorem finishDump_dumped (classes : List Ue4Class) :
    Dumped faults files classes (finishDump faults files.truncate (streamed faults.stream classes) classes.length) := by
  refine ⟨?_, fun hhealthy hne => ?_⟩
  · rcases (finishDump_atomic faults files classes classes.length).output with hkept | ⟨hzero, hpos, -, htext⟩
    · exact Or.inl hkept
    · refine Or.inr ⟨hzero, List.ne_nil_of_length_pos (Int.natCast_pos.mp hpos), _, htext, ?_⟩
      exact parse_documentText classes
  · have hpos : (0 : Int) < classes.length := Int.natCast_pos.mpr (List.length_pos_iff.mpr hne)
    rw [finishDump, if_pos ⟨hpos, ue4jWriterClose_sound hhealthy.stream classes, hhealthy.rename⟩]

/-- A bad object table leaves the last dump. -/
theorem finishDump_bad (w : Ue4jWriter) : Dumped faults files [] (finishDump faults files.truncate w (-1)) := by
  refine ⟨Or.inl ((finishDump_kept_or faults _ w _).resolve_right ?_), fun _ hne => absurd rfl hne⟩
  rintro ⟨hpos, -⟩
  exact absurd hpos (by decide)

end Finish

/-! ### A process that changes -/

section Changing
variable (h : Nat → Handler Host) (fuel : Nat)

/-- The iterator of the dump and the list walker, from the same reads on. -/
theorem iterate_streamed (outcome : Nat → Outcome) (k : Nat) (ctx : Ue4rCtx) :
    (evalFrom h k (ue4rIterateClasses fuel writeClass (ue4jWriterStart outcome)) ctx).1.1 =
      (evalFrom h k (ue4rWalkClasses fuel) ctx).1.1.map fun classes =>
        (streamed outcome classes, if badTable h k ctx then -1 else (classes.length : Int)) := by
  simp only [ue4rIterateClasses, ue4rWalkClasses, evalFrom_bind, evalFrom_get, evalFrom_lift]
  rcases hinfo : ((getObjectsInfo ctx.guobjectarray).eval h k).1 with _ | ⟨objectsPtr, numElems⟩
  · have hbad : badTable h k ctx = true := by rw [badTable, hinfo]; rfl
    simp [hbad, streamed]
  · have hgood : badTable h k ctx = false := by rw [badTable, hinfo]; rfl
    simp only [iterate_forWindows, hgood, if_false, evalFrom_map, Bool.false_eq_true]
    rfl

theorem walk_bad {k : Nat} {ctx : Ue4rCtx} (hbad : badTable h k ctx = true) :
    (evalFrom h k (ue4rWalkClasses fuel) ctx).1.1 = some [] := by
  have hinfo : ((getObjectsInfo ctx.guobjectarray).eval h k).1 = none := by simpa [badTable] using hbad
  simp only [ue4rWalkClasses, evalFrom_bind, evalFrom_get, evalFrom_lift, hinfo]
  rfl

theorem finishDump_walked (faults : Faults) (files : Files) {k : Nat} {ctx : Ue4rCtx} {classes : List Ue4Class}
    (hwalk : (evalFrom h k (ue4rWalkClasses fuel) ctx).1.1 = some classes) :
    Dumped faults files classes (finishDump faults files.truncate (streamed faults.stream classes)
      (if badTable h k ctx then -1 else (classes.length : Int))) := by
  cases hbad : badTable h k ctx with
  | true =>
    rw [walk_bad h fuel hbad] at hwalk
    obtain rfl := Option.some.inj hwalk
    exact finishDump_bad faults files _
  | false => exact finishDump_dumped faults files classes

/-- The list that `ue4r_walk_classes` returns of the process, if it comes to an end. -/
def walked (base slide guobjOff gnamesOff : UInt64) : Option (List Ue4Class) :=
  match (ue4rInit base slide guobjOff gnamesOff).eval h 0 with
  | (none, _) => none
  | (some ctx, k) => (evalFrom h k (ue4rWalkClasses fuel) ctx).1.1

/-- The classes that there are to be dumped: none if the image is not found or the walk cannot begin. -/
def Walked (aslr : Option (UInt64 × UInt64)) (guobjOff gnamesOff : UInt64) (classes : List Ue4Class) : Prop :=
  ∃ base slide, aslr = some (base, slide) ∧ walked h fuel base slide guobjOff gnamesOff = some classes

/-- The records of the class objects of the table, one for each and in its order. -/
def Recorded (m : Memory) (aslr : Option (UInt64 × UInt64)) (guobjOff gnamesOff : UInt64) (classes : List Ue4Class) :
    Prop :=
  ∃ base slide ctx objects count, aslr = some (base, slide) ∧
    (ue4rInit base slide guobjOff gnamesOff).run m.host = some ctx ∧
    (getObjectsInfo ctx.guobjectarray).run m.host = some (objects, count) ∧
    List.Forall₂ (RecordOf m (Stored m) (tables ctx) fuel)
      (classObjects m (tables ctx) (visited m objects (min count maxObjects))) classes

def collect (list : List Ue4Class) (c : Ue4Class) : List Ue4Class := list ++ [c]

theorem foldl_collect (list classes : List Ue4Class) : classes.foldl collect list = list ++ classes := by
  induction classes generalizing list with
  | nil => simp
  | cons c classes ih => simp [ih, collect]

/-- The list walker on a process that does not change: its list is what a callback that collects is given. -/
theorem recorded_of_walked {m : Memory} {aslr : Option (UInt64 × UInt64)} {guobjOff gnamesOff : UInt64}
    {classes : List Ue4Class} (hne : classes ≠ [])
    (hwalked : Walked (fun _ => m.host) fuel aslr guobjOff gnamesOff classes) :
    Recorded fuel m aslr guobjOff gnamesOff classes := by
  obtain ⟨base, slide, rfl, hwalked⟩ := hwalked
  rw [walked] at hwalked
  split at hwalked
  · cases hwalked
  rename_i ctx k hinit
  have hinit' : (ue4rInit base slide guobjOff gnamesOff).run m.host = some ctx := by
    rw [← Prog.eval_const 0 m.host, hinit]
  have hlist : (m.exec (ue4rWalkClasses fuel) ctx).1 = some classes := by
    rw [Memory.exec, ← Prog.eval_const k m.host]
    exact hwalked
  rw [ue4rWalkClasses, Memory.exec_bind, Memory.exec_get, Memory.exec_bind, Memory.exec_lift] at hlist
  dsimp only at hlist
  cases hinfo : (getObjectsInfo ctx.guobjectarray).run m.host with
  | none =>
    rw [hinfo] at hlist
    exact absurd (Option.some.inj hlist).symm hne
  | some info =>
    obtain ⟨objects, count⟩ := info
    rw [hinfo] at hlist
    have hgiven :
        (m.exec (visitAll (iterateBody fuel collect) (visited m objects (min count maxObjects)) ([], 0)) ctx).1 =
          some (given collect [] classes) := by
      rw [← exec_allWindows, iterate_forWindows, Memory.exec_map]
      exact congrArg (Option.map (given collect [])) hlist
    have hknows := knows_of_init hinit'
    have hpassed : Passed m (Stored m) (tables ctx) fuel collect ([], 0) (visited m objects (min count maxObjects)) _ :=
      passed_visitAll stored_of_text fuel _ hknows (visits_tested hknows.holds.1 fuel _) ([], 0)
    obtain ⟨records, hrecords, hfold⟩ := hpassed.given _ hgiven
    -- The callback collects the records, so the list it leaves is that of the records.
    have hsame : classes = records := by
      have hlists := congrArg Prod.fst hfold
      simpa only [given, foldl_collect, List.nil_append] using hlists
    exact ⟨base, slide, ctx, objects, count, rfl, hinit', hinfo, hsame ▸ hrecords⟩

/-- What a dump of a process has done, however the process changes meanwhile. -/
structure Dumps (faults : Faults) (aslr : Option (UInt64 × UInt64)) (guobjOff gnamesOff : UInt64) (files : Files)
    (r : Int × Files) : Prop where
  outcome : Kept files r ∨ r.1 = 0 ∧ ∃ classes, Walked h fuel aslr guobjOff gnamesOff classes ∧ Describes classes r.2
  replaced : Healthy faults → ∀ classes, Walked h fuel aslr guobjOff gnamesOff classes → classes ≠ [] → r.1 = 0
  still : ∀ m : Memory, h = (fun _ => m.host) →
    ∀ classes, Walked h fuel aslr guobjOff gnamesOff classes → classes ≠ [] →
    Recorded fuel m aslr guobjOff gnamesOff classes

/-- The walk, if there is one, comes to an end. -/
def Ends (aslr : Option (UInt64 × UInt64)) (guobjOff gnamesOff : UInt64) : Prop :=
  ∀ base slide, aslr = some (base, slide) → ((ue4rInit base slide guobjOff gnamesOff).eval h 0).1 ≠ none →
    walked h fuel base slide guobjOff gnamesOff ≠ none

theorem walked_of_init {base slide guobjOff gnamesOff : UInt64} {ctx : Ue4rCtx}
    (hinit : ((ue4rInit base slide guobjOff gnamesOff).eval h 0).1 = some ctx) :
    walked h fuel base slide guobjOff gnamesOff =
      (evalFrom h ((ue4rInit base slide guobjOff gnamesOff).eval h 0).2 (ue4rWalkClasses fuel) ctx).1.1 := by
  rw [walked]
  split <;> rename_i heq <;> rw [heq] at hinit ⊢ <;> cases hinit
  rfl

/-- A walk that has come to classes has ended. -/
theorem Walked.ends {aslr : Option (UInt64 × UInt64)} {guobjOff gnamesOff : UInt64} {classes : List Ue4Class}
    (hwalked : Walked h fuel aslr guobjOff gnamesOff classes) : Ends h fuel aslr guobjOff gnamesOff := by
  obtain ⟨base, slide, rfl, hclasses⟩ := hwalked
  rintro base' slide' heq -
  cases heq
  rw [hclasses]
  exact Option.some_ne_none classes

/-- When the walk ends, so does the dump. -/
theorem generate_returns (faults : Faults) (aslr : Option (UInt64 × UInt64)) (guobjOff gnamesOff : UInt64)
    (files : Files) (hends : Ends h fuel aslr guobjOff gnamesOff) :
    ∃ r, ((ue4SdkGenerate fuel faults aslr guobjOff gnamesOff files).run.eval h 0).1 = some r := by
  by_cases hearly : ¬(faults.fopen = true ∧ faults.rmTaskAcquire = true) ∨ ∀ base slide, aslr = some (base, slide) →
      ((ue4rInit base slide guobjOff gnamesOff).eval h 0).1 = none
  · exact ⟨_, eval_ue4SdkGenerate_early fuel faults guobjOff gnamesOff files h hearly⟩
  · obtain ⟨⟨hfopen, hacquire⟩, base, slide, rfl, hsome⟩ : (faults.fopen = true ∧ faults.rmTaskAcquire = true) ∧
        ∃ base slide, aslr = some (base, slide) ∧ ((ue4rInit base slide guobjOff gnamesOff).eval h 0).1 ≠ none := by
      simpa only [not_or, not_not, not_forall, exists_prop] using hearly
    obtain ⟨ctx, hinit⟩ := Option.ne_none_iff_exists'.mp hsome
    obtain ⟨classes, hclasses⟩ := Option.ne_none_iff_exists'.mp (hends base slide rfl hsome)
    rw [walked_of_init h fuel hinit] at hclasses
    rw [eval_ue4SdkGenerate fuel faults guobjOff gnamesOff files h hfopen hacquire hinit]
    rcases ue4jWriterOpen_cases faults files with hopen | hopen | hopen <;> rw [hopen]
    · exact ⟨_, rfl⟩
    · exact ⟨_, rfl⟩
    · simp only [iterate_streamed, hclasses, Option.map_some]
      exact ⟨_, rfl⟩

/-- What a dump has done when it returns. -/
theorem dumps_of_run (faults : Faults) (aslr : Option (UInt64 × UInt64)) (guobjOff gnamesOff : UInt64) (files : Files)
    {r : Int × Files} (hrun : ((ue4SdkGenerate fuel faults aslr guobjOff gnamesOff files).run.eval h 0).1 = some r) :
    Dumps h fuel faults aslr guobjOff gnamesOff files r := by
  have hstill : ∀ m : Memory, h = (fun _ => m.host) → ∀ classes, Walked h fuel aslr guobjOff gnamesOff classes →
      classes ≠ [] → Recorded fuel m aslr guobjOff gnamesOff classes := by
    rintro m rfl classes hwalked hne
    exact recorded_of_walked fuel hne hwalked
  -- The call returns early, before it touches a file, or walks the target.
  by_cases hearly : ¬(faults.fopen = true ∧ faults.rmTaskAcquire = true) ∨ ∀ base slide, aslr = some (base, slide) →
      ((ue4rInit base slide guobjOff gnamesOff).eval h 0).1 = none
  · rw [eval_ue4SdkGenerate_early fuel faults guobjOff gnamesOff files h hearly] at hrun
    obtain rfl := Option.some.inj hrun
    refine ⟨Or.inl ⟨rfl, rfl⟩, ?_, hstill⟩
    rintro hhealthy classes ⟨base, slide, rfl, hwalked⟩ -
    rcases hearly with hno | hnone
    · exact absurd ⟨hhealthy.fopen, hhealthy.rmTaskAcquire⟩ hno
    · have hinit := hnone base slide rfl
      rw [walked] at hwalked
      split at hwalked
      · cases hwalked
      · rename_i heq
        rw [heq] at hinit
        cases hinit
  · obtain ⟨⟨hfopen, hacquire⟩, base, slide, rfl, hsome⟩ : (faults.fopen = true ∧ faults.rmTaskAcquire = true) ∧
        ∃ base slide, aslr = some (base, slide) ∧ ((ue4rInit base slide guobjOff gnamesOff).eval h 0).1 ≠ none := by
      simpa only [not_or, not_not, not_forall, exists_prop] using hearly
    obtain ⟨ctx, hinit⟩ := Option.ne_none_iff_exists'.mp hsome
    have hwalk := walked_of_init h fuel hinit
    rw [eval_ue4SdkGenerate fuel faults guobjOff gnamesOff files h hfopen hacquire hinit] at hrun
    -- A healthy system opens the file.
    have hunhealthy : ∀ f, ue4jWriterOpen faults files = (none, f) → ¬Healthy faults := by
      intro f hopen hhealthy
      rw [ue4jWriterOpen, hhealthy.openPending, hhealthy.fdopen, hhealthy.calloc] at hopen
      cases hopen
    rcases ue4jWriterOpen_cases faults files with hopen | hopen | hopen
    · rw [hopen] at hrun
      obtain rfl := Option.some.inj hrun
      exact ⟨Or.inl ⟨rfl, rfl⟩, fun hhealthy => absurd hhealthy (hunhealthy _ hopen), hstill⟩
    · rw [hopen] at hrun
      obtain rfl := Option.some.inj hrun
      exact ⟨Or.inl ⟨rfl, rfl⟩, fun hhealthy => absurd hhealthy (hunhealthy _ hopen), hstill⟩
    · -- All classes have been streamed, and the outcome is that of the last steps.
      simp only [hopen, iterate_streamed, Option.map_map, ← hwalk] at hrun
      obtain ⟨classes, hclasses, rfl⟩ := Option.map_eq_some_iff.mp hrun
      have hdumped : Dumped faults files classes _ :=
        finishDump_walked h fuel faults files (hwalk.symm.trans hclasses)
      refine ⟨hdumped.outcome.imp_right fun hzero => ⟨hzero.1, classes, ⟨base, slide, rfl, hclasses⟩, hzero.2⟩,
        ?_, hstill⟩
      rintro hhealthy classes' ⟨base', slide', heq, hclasses'⟩ hne
      cases heq
      rw [hclasses] at hclasses'
      obtain rfl := Option.some.inj hclasses'
      exact hdumped.replaced hhealthy hne

/-- A dump returns if the walk ends. One that succeeds leaves a JSON text of what the walk came to, one that does not
    leaves the last dump, and whenever there is a class and the system does not fail it, it returns and succeeds. -/
theorem generate_dumps (faults : Faults) (aslr : Option (UInt64 × UInt64)) (guobjOff gnamesOff : UInt64)
    (files : Files) :
    let run := ((ue4SdkGenerate fuel faults aslr guobjOff gnamesOff files).run.eval h 0).1
    (Ends h fuel aslr guobjOff gnamesOff → ∃ r, run = some r) ∧
      (∀ r, run = some r → Dumps h fuel faults aslr guobjOff gnamesOff files r) ∧
      (Healthy faults → ∀ classes, Walked h fuel aslr guobjOff gnamesOff classes → classes ≠ [] →
        ∃ r, run = some r ∧ r.1 = 0 ∧ Describes classes r.2) := by
  refine ⟨generate_returns h fuel faults aslr guobjOff gnamesOff files,
    fun r hrun => dumps_of_run h fuel _ _ _ _ _ hrun, ?_⟩
  intro hhealthy classes hwalked hne
  obtain ⟨r, hrun⟩ := generate_returns h fuel faults aslr guobjOff gnamesOff files (hwalked.ends h fuel)
  have hdumps := dumps_of_run h fuel faults aslr guobjOff gnamesOff files hrun
  have hzero := hdumps.replaced hhealthy classes hwalked hne
  refine ⟨r, hrun, hzero, ?_⟩
  rcases hdumps.outcome with hkept | ⟨-, classes', hwalked', hdescribes⟩
  · cases hkept.1.symm.trans hzero
  · obtain ⟨base, slide, rfl, hclasses⟩ := hwalked
    obtain ⟨base', slide', heq, hclasses'⟩ := hwalked'
    cases heq
    rw [hclasses] at hclasses'
    cases hclasses'
    exact hdescribes

end Changing

theorem generate_dumps_twoClasses : ∃ r : Int × Files, r.1 = 0 ∧
    Dumps (fun _ => twoClasses.host) 30 ⟨true, true, true, true, true, fun _ => .done, true⟩ (some (0, 0))
      0x10000 0x20000
      ⟨some (lit "the last dump"), none, []⟩ r := by
  have hdone : ((ue4SdkGenerate 30 ⟨true, true, true, true, true, fun _ => .done, true⟩ (some (0, 0)) 0x10000 0x20000
      ⟨some (lit "the last dump"), none, []⟩).run.eval (fun _ => twoClasses.host) 0).1.map Prod.fst = some 0 := by
    rw [twoClasses, Memory.ofSegments_eq]
    decide +kernel
  obtain ⟨r, hrun, hzero⟩ := Option.map_eq_some_iff.mp hdone
  exact ⟨r, hzero, (generate_dumps _ 30 _ _ _ _ _).2.1 r hrun⟩

end Schema
end RadarAim
