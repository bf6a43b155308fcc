import RadarAim.Theorems.Dump

/-! A dump of a process that dies half-way. Every list walk ends with the reads, so the dump returns; but the
    iterator goes on over the remaining objects and returns the number of classes that it got to, which the
    writer counted too. So the last dump is kept exactly when no class was recognised in time. -/

namespace RadarAim
namespace DyingTarget
open Stdio Dump

/-! ### The list walks end -/

section Walks
variable {m : Memory} {n : Nat}

theorem readPropertyNode_advances (h : Nat → Handler Host) (k : Nat) (propPtr : UInt64) (c : Ue4rCtx) :
    k < (evalFrom h k (readPropertyNode propPtr) c).2 := by
  rw [readPropertyNode, evalFrom_bind, evalFrom_lift, eval_rmReadPtr_snd]
  exact le_evalFrom h (k + 1) _ _

theorem readFunctionNode_advances (h : Nat → Handler Host) (k : Nat) (child : UInt64) (c : Ue4rCtx) :
    k < (evalFrom h k (readFunctionNode child) c).2 := by
  rw [readFunctionNode, evalFrom_bind, evalFrom_lift, eval_rmReadPtr_snd]
  exact le_evalFrom h (k + 1) _ _

theorem readPropertyNode_dead {k : Nat} (hk : n ≤ k) (propPtr : UInt64) (c : Ue4rCtx) :
    (evalFrom (m.dying n) k (readPropertyNode propPtr) c).1.1.2 = 0 := by
  have later : ∀ {α : Type} (p : Walker α) (j : Nat) (c : Ue4rCtx), n ≤ j → n ≤ (evalFrom (m.dying n) j p c).2 :=
    fun p j c hj => Nat.le_trans hj (le_evalFrom _ _ _ _)
  simp only [readPropertyNode, evalFrom_bind, evalFrom_lift, eval_rmReadPtr_snd]
  split
  · simp only [evalFrom_bind]
    split <;> simp only [evalFrom_bind, evalFrom_lift, evalFrom_pure]
    · exact eval_rmReadPtr_dead m (later _ _ _ (later _ _ _ (Nat.le_succ_of_le hk))) _
    · exact eval_rmReadPtr_dead m (later _ _ _ (Nat.le_succ_of_le hk)) _
  · simp only [evalFrom_bind, evalFrom_lift, evalFrom_pure]
    exact eval_rmReadPtr_dead m (later _ _ _ (Nat.le_succ_of_le hk)) _

theorem readFunctionNode_dead {k : Nat} (hk : n ≤ k) (child : UInt64) (c : Ue4rCtx) :
    (evalFrom (m.dying n) k (readFunctionNode child) c).1.1.2 = 0 := by
  rw [readFunctionNode, evalFrom_bind, evalFrom_lift, eval_rmReadPtr_snd]
  simp only [evalFrom_bind, evalFrom_lift, evalFrom_pure]
  refine eval_rmReadPtr_dead m (Nat.le_trans ?_ (le_evalFrom _ _ _ _)) _
  exact Nat.le_trans (Nat.le_succ_of_le hk) (le_evalFrom _ _ _ _)

/-- A walk needs one round for each read that is left, and two more. -/
theorem readPropertiesLoop_ends (fuel k : Nat) (propPtr : UInt64) (w : ListWalk Ue4Property) (c : Ue4rCtx)
    (hfuel : n - k + 2 ≤ fuel ∨ (propPtr = 0 ∧ 1 ≤ fuel)) :
    ∃ w', (evalFrom (m.dying n) k (readPropertiesLoop fuel propPtr w) c).1.1 = some w' := by
  induction fuel generalizing k propPtr w c with
  | zero => omega
  | succ fuel ih =>
    rw [readPropertiesLoop]
    split
    · rename_i hgo
      rw [evalFrom_bind]
      refine ih _ _ _ _ ?_
      have hadv := readPropertyNode_advances (m.dying n) k propPtr c
      rcases hfuel with hfuel | ⟨rfl, -⟩
      · rcases Nat.lt_or_ge k n with hlt | hge
        · exact Or.inl (by omega)
        · exact Or.inr ⟨readPropertyNode_dead hge propPtr c, by omega⟩
      · exact absurd hgo.1 (by simp)
    · exact ⟨w, rfl⟩

theorem readFunctionsLoop_ends (fuel k : Nat) (child : UInt64) (w : ListWalk Ue4Function) (c : Ue4rCtx)
    (hfuel : n - k + 2 ≤ fuel ∨ (child = 0 ∧ 1 ≤ fuel)) :
    ∃ w', (evalFrom (m.dying n) k (readFunctionsLoop fuel child w) c).1.1 = some w' := by
  induction fuel generalizing k child w c with
  | zero => omega
  | succ fuel ih =>
    rw [readFunctionsLoop]
    split
    · rename_i hgo
      rw [evalFrom_bind]
      refine ih _ _ _ _ ?_
      have hadv := readFunctionNode_advances (m.dying n) k child c
      rcases hfuel with hfuel | ⟨rfl, -⟩
      · rcases Nat.lt_or_ge k n with hlt | hge
        · exact Or.inl (by omega)
        · exact Or.inr ⟨readFunctionNode_dead hge child c, by omega⟩
      · exact absurd hgo.1 (by simp)
    · exact ⟨w, rfl⟩

variable {fuel : Nat} (hfuel : n + 2 ≤ fuel)
include hfuel

theorem readClass_ends (k : Nat) (obj : UInt64) (c : Ue4rCtx) :
    ∃ cls, (evalFrom (m.dying n) k (readClass fuel obj) c).1.1 = some cls := by
  have hprops : ∀ k c, ∃ w, (evalFrom (m.dying n) k (readProperties fuel obj) c).1.1 = some w := fun k c => by
    rw [readProperties, evalFrom_bind]
    exact readPropertiesLoop_ends fuel _ _ _ _ (Or.inl (by omega))
  have hfuncs : ∀ k c, ∃ w, (evalFrom (m.dying n) k (readFunctions fuel obj) c).1.1 = some w := fun k c => by
    rw [readFunctions, evalFrom_bind, evalFrom_bind]
    exact readFunctionsLoop_ends fuel _ _ _ _ (Or.inl (by omega))
  simp only [readClass, evalFrom_bind]
  obtain ⟨w, hw⟩ := hprops _ _
  rw [hw]
  simp only [evalFrom_bind]
  obtain ⟨w', hw'⟩ := hfuncs _ _
  rw [hw']
  exact ⟨_, rfl⟩

end Walks

/-! ### Recognising a class -/

/-- The body that only looks for the first UClass. -/
def probe (obj : UInt64) (found : Bool) : Walker (Option Bool) :=
  if found then pure (some true) else do pure (some (← isUclass obj))

def recognise : Walker (Option Bool) := do
  match ← getObjectsInfo (← get).guobjectarray with
  | none => pure (some false)
  | some (objectsPtr, numElems) =>
    let numElems := min numElems maxObjects
    forWindows objectsPtr probe (windowCount numElems) numElems 0 false

/-- `R` ends the iterator's loop that began with userdata and count `s`, and `P` the search beside it: `R` has
    streamed and counted some classes; while it had none, the two ran alike, and with the first the search
    found it. -/
def Streams {ω : Type} (cb : ω → Ue4Class → ω) (s : ω × Int) (R : (Option (ω × Int) × Ue4rCtx) × Nat)
    (P : (Option Bool × Ue4rCtx) × Nat) : Prop :=
  ∃ classes : List Ue4Class, R.1.1 = some (classes.foldl cb s.1, s.2 + classes.length) ∧
    (classes = [] → P = ((some false, R.1.2), R.2)) ∧ (classes ≠ [] → P.1.1 = some true)

section Probe
variable {h : Nat → Handler Host}

theorem visit_probe_found (obj : UInt64) (k : Nat) (c : Ue4rCtx) :
    evalFrom h k (visit probe obj true) c = ((some true, c), k) := by
  rw [visit]
  split <;> rfl

theorem forWindow_found (fetch : Nat → Read UInt64) (todo i k : Nat) (c : Ue4rCtx) :
    (evalFrom h k (forWindow fetch probe todo i true) c).1.1 = some true := by
  induction todo generalizing i k c with
  | zero => rfl
  | succ todo ih =>
    rw [forWindow, evalFrom_bind, evalFrom_bind, visit_probe_found]
    exact ih _ _ _

theorem forWindows_found (objectsPtr : UInt64) (windows numElems b k : Nat) (c : Ue4rCtx) :
    (evalFrom h k (forWindows objectsPtr probe windows numElems b true) c).1.1 = some true := by
  induction windows generalizing b k c with
  | zero => rfl
  | succ windows ih =>
    simp only [forWindows, evalFrom_bind]
    rw [forWindow_found]
    exact ih _ _ _

theorem probe_eval (obj : UInt64) (k : Nat) (c : Ue4rCtx) :
    evalFrom h k (probe obj false) c =
      ((some (evalFrom h k (isUclass obj) c).1.1, (evalFrom h k (isUclass obj) c).1.2),
        (evalFrom h k (isUclass obj) c).2) := by
  simp only [probe, Bool.false_eq_true, if_false, evalFrom_bind, evalFrom_pure]

end Probe

theorem Streams.nothing {ω : Type} (cb : ω → Ue4Class → ω) (s : ω × Int) (c : Ue4rCtx) (k : Nat) :
    Streams cb s ((some s, c), k) ((some false, c), k) :=
  ⟨[], by simp, fun _ => rfl, fun hne => absurd rfl hne⟩

section Sequence
variable {ω : Type} {cb : ω → Ue4Class → ω} {h : Nat → Handler Host}

theorem Streams.after {β : Type} {s : ω × Int} (p : Walker β) {f : β → Walker (Option (ω × Int))}
    {g : β → Walker (Option Bool)} {k : Nat} {c : Ue4rCtx}
    (hnext : ∀ b k c, Streams cb s (evalFrom h k (f b) c) (evalFrom h k (g b) c)) :
    Streams cb s (evalFrom h k (p >>= f) c) (evalFrom h k (p >>= g) c) := by
  rw [evalFrom_bind h k c p f, evalFrom_bind h k c p g]
  exact hnext _ _ _

/-- Two stages, one after the other: a search that has found a class stays with it. -/
theorem Streams.seq {s : ω × Int} {first : Walker (Option (ω × Int))} {search : Walker (Option Bool)}
    {rest : Option (ω × Int) → Walker (Option (ω × Int))} {searchOn : Option Bool → Walker (Option Bool)}
    {k : Nat} {c : Ue4rCtx} (hfirst : Streams cb s (evalFrom h k first c) (evalFrom h k search c))
    (hrest : ∀ s k c, Streams cb s (evalFrom h k (rest (some s)) c) (evalFrom h k (searchOn (some false)) c))
    (hfound : ∀ k c, (evalFrom h k (searchOn (some true)) c).1.1 = some true) :
    Streams cb s (evalFrom h k (first >>= rest) c) (evalFrom h k (search >>= searchOn) c) := by
  obtain ⟨classes, hR, hsame, hone⟩ := hfirst
  obtain ⟨more, hR', hsame', hone'⟩ := hrest (classes.foldl cb s.1, s.2 + classes.length)
    (evalFrom h k first c).2 (evalFrom h k first c).1.2
  rw [evalFrom_bind, evalFrom_bind, hR]
  dsimp only at hR' hsame' hone' ⊢
  refine ⟨classes ++ more, ?_, fun hnil => ?_, fun hne => ?_⟩
  · rw [hR', List.foldl_append, List.length_append, Int.natCast_add, Int.add_assoc]
  · obtain ⟨rfl, rfl⟩ := List.append_eq_nil_iff.mp hnil
    rw [hsame rfl]
    exact hsame' rfl
  · rcases Decidable.em (classes = []) with rfl | hclasses
    · rw [hsame rfl]
      exact hone' hne
    · rw [hone hclasses]
      exact hfound _ _

end Sequence

section Iterate
variable {m : Memory} {n : Nat} {ω : Type} (cb : ω → Ue4Class → ω) {fuel : Nat} (hfuel : n + 2 ≤ fuel)
include hfuel

/-- One object: it is no class and the search reads just the same, or one class is streamed. -/
theorem visit_streams (obj : UInt64) (s : ω × Int) (k : Nat) (c : Ue4rCtx) :
    Streams cb s (evalFrom (m.dying n) k (visit (iterateBody fuel cb) obj s) c)
      (evalFrom (m.dying n) k (visit probe obj false) c) := by
  rw [visit, visit]
  split
  · rw [probe_eval, iterateBody, evalFrom_bind]
    cases hclass : (evalFrom (m.dying n) k (isUclass obj) c).1.1 with
    | false => exact Streams.nothing cb s _ _
    | true =>
      obtain ⟨cls, hcls⟩ := readClass_ends (m := m) hfuel (evalFrom (m.dying n) k (isUclass obj) c).2 obj
        (evalFrom (m.dying n) k (isUclass obj) c).1.2
      refine ⟨[cls], ?_, fun hnil => absurd hnil (List.cons_ne_nil _ _), fun _ => rfl⟩
      rw [if_pos rfl, evalFrom_bind, hcls]
      rfl
  · exact Streams.nothing cb s c k

theorem forWindow_streams (fetch : Nat → Read UInt64) (todo i : Nat) (s : ω × Int) (k : Nat) (c : Ue4rCtx) :
    Streams cb s (evalFrom (m.dying n) k (forWindow fetch (iterateBody fuel cb) todo i s) c)
      (evalFrom (m.dying n) k (forWindow fetch probe todo i false) c) := by
  induction todo generalizing i s k c with
  | zero => exact Streams.nothing cb s c k
  | succ todo ih =>
    rw [forWindow, forWindow]
    refine Streams.after _ fun obj k c => ?_
    refine Streams.seq (visit_streams cb hfuel obj s k c) (fun s k c => ih (i + 1) s k c) fun k c => ?_
    exact forWindow_found fetch todo (i + 1) k c

theorem forWindows_streams (objectsPtr : UInt64) (windows numElems b : Nat) (s : ω × Int) (k : Nat)
    (c : Ue4rCtx) :
    Streams cb s (evalFrom (m.dying n) k (forWindows objectsPtr (iterateBody fuel cb) windows numElems b s) c)
      (evalFrom (m.dying n) k (forWindows objectsPtr probe windows numElems b false) c) := by
  induction windows generalizing b s k c with
  | zero => exact Streams.nothing cb s c k
  | succ windows ih =>
    rw [forWindows, forWindows]
    refine Streams.after _ fun batch k c => ?_
    refine Streams.seq (forWindow_streams cb hfuel _ _ 0 s k c) (fun s k c => ih (b + batchSize) s k c) fun k c => ?_
    exact forWindows_found objectsPtr windows numElems (b + batchSize) k c

/-- The iterator counts what it streams, or returns -1 without any; and it streams something exactly when the
    search finds a class. -/
theorem ue4rIterateClasses_streams (userdata : ω) (k : Nat) (c : Ue4rCtx) :
    ∃ (classes : List Ue4Class) (count : Int),
      (evalFrom (m.dying n) k (ue4rIterateClasses fuel cb userdata) c).1.1 =
          some (classes.foldl cb userdata, count) ∧
        (classes = [] ∧ count ≤ 0 ∧ (evalFrom (m.dying n) k recognise c).1.1 = some false ∨
          classes ≠ [] ∧ count = classes.length ∧ (evalFrom (m.dying n) k recognise c).1.1 = some true) := by
  rw [ue4rIterateClasses, recognise]
  simp only [evalFrom_bind, evalFrom_get, evalFrom_lift]
  cases ((getObjectsInfo c.guobjectarray).eval (m.dying n) k).1 with
  | none => exact ⟨[], -1, rfl, Or.inl ⟨rfl, by decide, rfl⟩⟩
  | some table =>
    obtain ⟨classes, hR, hnone, hsome⟩ := forWindows_streams (m := m) cb hfuel table.1
      (windowCount (min table.2 maxObjects)) (min table.2 maxObjects) 0 (userdata, 0)
      ((getObjectsInfo c.guobjectarray).eval (m.dying n) k).2 c
    refine ⟨classes, 0 + classes.length, hR, ?_⟩
    rcases Decidable.em (classes = []) with rfl | hne
    · exact Or.inl ⟨rfl, Int.le_refl 0, by simp only [hnone rfl]⟩
    · exact Or.inr ⟨hne, Int.zero_add _, hsome hne⟩

end Iterate

/-! ### The dump -/

/-- Before the reads began to fail, the iterator came to a UClass. -/
def Recognised (m : Memory) (n : Nat) (aslr : Option (UInt64 × UInt64)) (guobjOff gnamesOff : UInt64) : Prop :=
  ∃ base slide ctx, aslr = some (base, slide) ∧
    ((ue4rInit base slide guobjOff gnamesOff).eval (m.dying n) 0).1 = some ctx ∧
    (evalFrom (m.dying n) ((ue4rInit base slide guobjOff gnamesOff).eval (m.dying n) 0).2 recognise ctx).1.1 =
      some true

structure Healthy (faults : Faults) : Prop where
  fopen : faults.fopen = true
  rmTaskAcquire : faults.rmTaskAcquire = true
  openPending : faults.openPending = true
  fdopen : faults.fdopen = true
  calloc : faults.calloc = true
  stream : ∀ i kept, faults.stream i ≠ .failed kept
  rename : faults.rename = true

def Kept (files : Files) (r : Int × Files) : Prop := r.1 = -1 ∧ r.2.output = files.output

theorem finishDump_kept_or (faults : Faults) (files : Files) (w : Ue4jWriter) (count : Int) :
    Kept files (finishDump faults files w count) ∨ 0 < count ∧ (finishDump faults files w count).1 = 0 := by
  rw [finishDump]
  split
  · rename_i hgood
    exact Or.inr ⟨hgood.1, rfl⟩
  · exact Or.inl ⟨rfl, rfl⟩

theorem ue4jWriterClose_sound {outcome : Nat → Outcome} (hout : ∀ i kept, outcome i ≠ .failed kept)
    (classes : List Ue4Class) : (ue4jWriterClose (streamed outcome classes)).1 = classes.length := by
  obtain ⟨hwrote, hcount⟩ := streamed_wrote outcome classes
  have hsound : Sound (streamed outcome classes).fp := hwrote.sound ⟨rfl, hout⟩
  obtain ⟨hflushed, hsound'⟩ := fflush_sound ((fputs_puts jsonFooter (streamed outcome classes).fp).sound hsound)
  obtain ⟨hclosed, -⟩ := fflush_sound hsound'
  rw [ue4jWriterClose]
  rw [if_pos ⟨hflushed, hsound'.error, hclosed⟩]
  exact congrArg Int.ofNat (hcount hsound.error)

section Dump
variable (m : Memory) (n fuel : Nat) (faults : Faults) (guobjOff gnamesOff : UInt64) (files : Files)

theorem eval_ue4SdkGenerate (h : Nat → Handler Host) {base slide : UInt64} {ctx : Ue4rCtx}
    (hfopen : faults.fopen = true) (hacquire : faults.rmTaskAcquire = true)
    (hinit : ((ue4rInit base slide guobjOff gnamesOff).eval h 0).1 = some ctx) :
    ((ue4SdkGenerate fuel faults (some (base, slide)) guobjOff gnamesOff files).run.eval h 0).1 =
      match ue4jWriterOpen faults files with
      | (none, files) => some (-1, files.remove)
      | (some w, files) =>
        ((evalFrom h ((ue4rInit base slide guobjOff gnamesOff).eval h 0).2 (ue4rIterateClasses fuel writeClass w)
          ctx).1.1).map fun s => finishDump faults files s.1 s.2 := by
  simp only [ue4SdkGenerate, generate, hfopen, hacquire, Bool.not_true, Bool.false_eq_true, if_false,
    OptionT.run_bind, OptionT.run_lift, Option.elimM, Prog.eval_bind, hinit]
  rcases ue4jWriterOpen faults files with ⟨_ | w, files⟩
  · rfl
  · simp [evalFrom]

/-- A dump that does not come to the writer leaves the files alone. -/
theorem eval_ue4SdkGenerate_early (h : Nat → Handler Host) {aslr : Option (UInt64 × UInt64)}
    (hearly : ¬(faults.fopen = true ∧ faults.rmTaskAcquire = true) ∨
      ∀ base slide, aslr = some (base, slide) → ((ue4rInit base slide guobjOff gnamesOff).eval h 0).1 = none) :
    ((ue4SdkGenerate fuel faults aslr guobjOff gnamesOff files).run.eval h 0).1 = some (-1, files) := by
  unfold ue4SdkGenerate generate
  split
  · rfl
  split
  · rfl
  rename_i hfopen hacquire
  rcases aslr with _ | ⟨base, slide⟩
  · rfl
  · have hinit := hearly.resolve_left (fun hno => hno ⟨by simpa using hfopen, by simpa using hacquire⟩) base slide rfl
    simp only [OptionT.run_bind, OptionT.run_lift, Option.elimM, Prog.eval_bind, hinit]
    rfl

variable {n fuel} (hfuel : n + 2 ≤ fuel)
include hfuel

/-- The dump returns; it replaces the last one only if a class was recognised, and then always, unless the
    system fails it. -/
theorem ue4SdkGenerate_dying (aslr : Option (UInt64 × UInt64)) :
    ∃ r, ((ue4SdkGenerate fuel faults aslr guobjOff gnamesOff files).run.eval (m.dying n) 0).1 = some r ∧
      (Kept files r ∨ Recognised m n aslr guobjOff gnamesOff ∧ r.1 = 0) ∧
      (Recognised m n aslr guobjOff gnamesOff → Healthy faults → r.1 = 0) := by
  by_cases hearly : ¬(faults.fopen = true ∧ faults.rmTaskAcquire = true) ∨ ∀ base slide, aslr = some (base, slide) →
      ((ue4rInit base slide guobjOff gnamesOff).eval (m.dying n) 0).1 = none
  · -- The call returns before the walk, and the files are as they were.
    refine ⟨_, eval_ue4SdkGenerate_early fuel faults guobjOff gnamesOff files _ hearly, Or.inl ⟨rfl, rfl⟩, ?_⟩
    rintro ⟨base, slide, ctx, rfl, hinit, -⟩ hhealthy
    rcases hearly with hno | hnone
    · exact absurd ⟨hhealthy.fopen, hhealthy.rmTaskAcquire⟩ hno
    · rw [hnone base slide rfl] at hinit
      cases hinit
  · obtain ⟨⟨hfopen, hacquire⟩, base, slide, rfl, hsome⟩ : (faults.fopen = true ∧ faults.rmTaskAcquire = true) ∧
        ∃ base slide, aslr = some (base, slide) ∧
          ((ue4rInit base slide guobjOff gnamesOff).eval (m.dying n) 0).1 ≠ none := by
      simpa only [not_or, not_not, not_forall, exists_prop] using hearly
    obtain ⟨ctx, hinit⟩ := Option.ne_none_iff_exists'.mp hsome
    have hrec : Recognised m n (some (base, slide)) guobjOff gnamesOff ↔
        (evalFrom (m.dying n) ((ue4rInit base slide guobjOff gnamesOff).eval (m.dying n) 0).2 recognise ctx).1.1 =
          some true := by
      refine ⟨?_, fun hfound => ⟨base, slide, ctx, rfl, hinit, hfound⟩⟩
      rintro ⟨base', slide', ctx', heq, hinit', hfound⟩
      cases heq
      rw [hinit] at hinit'
      cases hinit'
      exact hfound
    rw [eval_ue4SdkGenerate fuel faults guobjOff gnamesOff files _ hfopen hacquire hinit, hrec]
    rcases ue4jWriterOpen_cases faults files with hopen | hopen | hopen <;> rw [hopen]
    · refine ⟨_, rfl, Or.inl ⟨rfl, rfl⟩, fun _ hhealthy => ?_⟩
      rw [ue4jWriterOpen, hhealthy.openPending, hhealthy.fdopen, hhealthy.calloc] at hopen
      cases hopen
    · refine ⟨_, rfl, Or.inl ⟨rfl, rfl⟩, fun _ hhealthy => ?_⟩
      rw [ue4jWriterOpen, hhealthy.openPending, hhealthy.fdopen, hhealthy.calloc] at hopen
      cases hopen
    · -- The target is walked as long as it lives, and what was streamed till then is written.
      obtain ⟨classes, count, heval, hcases⟩ := ue4rIterateClasses_streams (m := m) writeClass hfuel
        (ue4jWriterStart faults.stream) ((ue4rInit base slide guobjOff gnamesOff).eval (m.dying n) 0).2 ctx
      refine ⟨_, congrArg (Option.map _) heval, ?_, fun hfound hhealthy => ?_⟩
      · rcases hcases with ⟨-, hcount, -⟩ | ⟨-, -, hfound⟩
        · refine Or.inl ((finishDump_kept_or _ _ _ _).resolve_right fun hpos => ?_)
          exact absurd hpos.1 (Int.not_lt.mpr hcount)
        · exact (finishDump_kept_or _ _ _ _).imp_right fun hzero => ⟨hfound, hzero.2⟩
      · rcases hcases with ⟨-, -, hno⟩ | ⟨hne, rfl, -⟩
        · rw [hno] at hfound
          cases hfound
        · -- A class was written, so the file is renamed, even if the target died in between.
          have hpos : (0 : Int) < classes.length := Int.natCast_pos.mpr (List.length_pos_iff.mpr hne)
          show (finishDump _ _ _ _).1 = 0
          rw [finishDump, if_pos ⟨hpos, ue4jWriterClose_sound hhealthy.stream classes, hhealthy.rename⟩]

end Dump

/-- Whenever the process dies, the last dump stays if no class was recognised before, and only then, unless
    the system fails the dump. -/
theorem dump_kept_iff (m : Memory) (n more : Nat) (faults : Faults) (aslr : Option (UInt64 × UInt64))
    (guobjOff gnamesOff : UInt64) (files : Files) :
    ∃ r, ((ue4SdkGenerate (n + 2 + more) faults aslr guobjOff gnamesOff files).run.eval (m.dying n) 0).1 = some r ∧
      (¬Recognised m n aslr guobjOff gnamesOff → Kept files r) ∧
      (Healthy faults → (Kept files r ↔ ¬Recognised m n aslr guobjOff gnamesOff)) := by
  obtain ⟨r, heval, hkept, hreplaced⟩ :=
    ue4SdkGenerate_dying m faults guobjOff gnamesOff files (Nat.le_add_right (n + 2) more) aslr
  have hkeeps : ¬Recognised m n aslr guobjOff gnamesOff → Kept files r :=
    fun hno => hkept.resolve_right fun h => hno h.1
  refine ⟨r, heval, hkeeps, fun hhealthy => ⟨fun hk hrec => ?_, hkeeps⟩⟩
  exact absurd (hk.1.symm.trans (hreplaced hrec hhealthy)) (by decide)

/-- The iterator up to its last object. -/
def iterateBeforeLast {ω : Type} (fuel : Nat) (cb : ω → Ue4Class → ω) (userdata : ω) :
    Walker (Option (ω × Int)) := do
  match ← getObjectsInfo (← get).guobjectarray with
  | none => pure (some (userdata, -1))
  | some (objectsPtr, numElems) =>
    let numElems := min numElems maxObjects
    let windows := windowCount numElems - 1
    let b := windows * batchSize
    match ← forWindows objectsPtr (iterateBody fuel cb) windows numElems 0 (userdata, 0) with
    | none => pure none
    | some s => do
      let batch ← readBatch objectsPtr b (min (numElems - b) batchSize)
      forWindow (batchObject objectsPtr b batch) (iterateBody fuel cb) (min (numElems - b) batchSize - 1) 0 s

/-- Two classes, `Class` (its own class) and `Pawn`. -/
def twoClasses : Memory := .ofSegments
  [(0x10000, leBytes 16 0 ++ leBytes 8 0x70000 ++ leBytes 12 0 ++ leBytes 4 2),
   (0x20000, leBytes 8 0 ++ leBytes 8 0x30000), (0x30000, leBytes 8 0x40000),
   (0x40000, leBytes 8 0 ++ leBytes 8 0x50000 ++ leBytes 8 0x51000),
   (0x50000, leBytes 12 0 ++ lit "Class" ++ leBytes 60 0), (0x51000, leBytes 12 0 ++ lit "Pawn" ++ leBytes 60 0),
   (0x70000, leBytes 24 0x80000 ++ leBytes 24 0x81000),
   (0x80000, leBytes 16 0 ++ leBytes 8 0x80000 ++ leBytes 8 1 ++ leBytes 64 0),
   (0x81000, leBytes 16 0 ++ leBytes 8 0x80000 ++ leBytes 8 2 ++ leBytes 64 0)]

def twoClassesCtx : Ue4rCtx :=
  { Ue4rCtx.initial 0x10000 0x20000 0x30000 with
    uclassClass := 0x80000
    cachedChunks := Function.update (fun _ => 0) 0 0x40000
    nameCache := Function.update emptyNameCache 1 ⟨1, lit "Class"⟩ }

theorem twoClasses_init :
    (ue4rInit 0 0 0x10000 0x20000).eval (fun _ => twoClasses.host) 0 = (some twoClassesCtx, 12) := by
  rw [twoClasses, Memory.ofSegments_eq]
  rfl

theorem twoClasses_recognised : Recognised twoClasses 28 (some (0, 0)) 0x10000 0x20000 := by
  have hinit : (ue4rInit 0 0 0x10000 0x20000).eval (twoClasses.dying 28) 0 = (some twoClassesCtx, 12) := by
    rw [twoClasses, Memory.ofSegments_eq]
    rfl
  have hfound : (evalFrom (twoClasses.dying 28) 12 recognise twoClassesCtx).1.1 = some true := by
    rw [twoClasses, Memory.ofSegments_eq]
    decide +kernel
  refine ⟨0, 0, twoClassesCtx, rfl, congrArg Prod.fst hinit, ?_⟩
  rw [hinit]
  exact hfound

/-- The process dies between the two classes, and the last dump is replaced by one with only the first. -/
theorem dead_target_replaces :
    ¬∀ (m : Memory) (base slide guobjOff gnamesOff : UInt64) (ctx : Ue4rCtx) (k n fuel : Nat) (faults : Faults)
        (files : Files) (r : Int × Files),
      (ue4rInit base slide guobjOff gnamesOff).eval (fun _ => m.host) 0 = (some ctx, k) →
      k ≤ n → n ≤ (evalFrom (fun _ => m.host) k (iterateBeforeLast fuel (fun (u : Unit) _ => u) ()) ctx).2 →
      Healthy faults →
      ((ue4SdkGenerate fuel faults (some (base, slide)) guobjOff gnamesOff files).run.eval (m.dying n) 0).1 =
        some r →
      Kept files r := by
  intro h
  have healthy : Healthy ⟨true, true, true, true, true, fun _ => .done, true⟩ :=
    ⟨rfl, rfl, rfl, rfl, rfl, fun _ _ hfail => Outcome.noConfusion hfail, rfl⟩
  obtain ⟨r, heval, -, hreplaced⟩ := ue4SdkGenerate_dying twoClasses _ 0x10000 0x20000
    ⟨some (lit "the last dump"), none, []⟩ (Nat.le_refl 30) (some (0, 0))
  have hreads : 28 ≤ (evalFrom (fun _ => twoClasses.host) 12
      (iterateBeforeLast 30 (fun (u : Unit) _ => u) ()) twoClassesCtx).2 := by
    rw [twoClasses, Memory.ofSegments_eq]
    decide +kernel
  have hkept := h twoClasses 0 0 0x10000 0x20000 twoClassesCtx 12 28 30 _ _ r twoClasses_init (by decide) hreads
    healthy heval
  exact absurd (hkept.1.symm.trans (hreplaced twoClasses_recognised healthy)) (by decide)

end DyingTarget
end RadarAim
