import RadarAim.Lib.Bytes

/-! Buffered output streams. A byte put into a stream waits in its buffer until a flush, which may happen
    after any byte and may fail; a failed flush loses what was in the buffer and sets the error flag of the
    stream, which stays set. What a sequence of writes leaves in the file is therefore known as long as the
    flag is clear at its end, whether or not each write was checked. -/

namespace RadarAim.Stdio

/-- What becomes of one operation on a stream. -/
inductive Outcome where
  | later
  | done
  /-- The flush fails; `kept` bytes of the buffer have reached the file. -/
  | failed (kept : Nat)

/-- A stream and the outcomes of the operations to come. -/
structure Stream where
  outcome : Nat → Outcome
  next : Nat
  file : Str
  buf : Str
  error : Bool

def Stream.start (outcome : Nat → Outcome) : Stream := ⟨outcome, 0, [], [], false⟩

/-- The bytes put into the stream, as long as none was lost. -/
def Stream.text (s : Stream) : Str := s.file ++ s.buf

abbrev Output := StateM Stream

def fputc (c : UInt8) : Output Bool := fun s =>
  match s.outcome s.next with
  | .later => (true, { s with next := s.next + 1, buf := s.buf ++ [c] })
  | .done => (true, { s with next := s.next + 1, file := s.file ++ (s.buf ++ [c]), buf := [] })
  | .failed kept =>
    (false, { s with next := s.next + 1, file := s.file ++ (s.buf ++ [c]).take kept, buf := [], error := true })

/-- The flag says that no byte failed; nothing is put after one that did. -/
def fputs : Str → Output Bool
  | [] => pure true
  | c :: cs => do if ← fputc c then fputs cs else pure false

def fflush : Output Bool := fun s =>
  match s.outcome s.next with
  | .failed kept => (false, { s with next := s.next + 1, file := s.file ++ s.buf.take kept, buf := [], error := true })
  | _ => (true, { s with next := s.next + 1, file := s.file ++ s.buf, buf := [] })

def fclose : Output Bool := fflush

/-- `q` after `p`, unless `p` failed. -/
def andThen (p q : Output Bool) : Output Bool := do if ← p then q else pure false

/-! ### What was written -/

/-- No write to the stream has failed, and none will. -/
structure Sound (s : Stream) : Prop where
  error : s.error = false
  outcome : ∀ n kept, s.outcome n ≠ .failed kept

/-- `s'` is `s` after `t` was put into it, or has its error flag set. -/
structure Wrote (s : Stream) (t : Str) (s' : Stream) : Prop where
  sticky : s.error = true → s'.error = true
  text : s'.error = false → s'.text = s.text ++ t
  sound : Sound s → Sound s'

section Wrote
variable {s s' s'' : Stream} {t u : Str}

theorem Wrote.refl (s : Stream) : Wrote s [] s := ⟨id, fun _ => (List.append_nil _).symm, id⟩

theorem Wrote.clear (h : Wrote s t s') (hok : s'.error = false) : s.error = false := by
  cases herr : s.error with
  | false => rfl
  | true => exact (h.sticky herr).symm.trans hok

theorem Wrote.trans (h : Wrote s t s') (h' : Wrote s' u s'') : Wrote s (t ++ u) s'' where
  sticky herr := h'.sticky (h.sticky herr)
  text hok := by rw [h'.text hok, h.text (h'.clear hok), List.append_assoc]
  sound hs := h'.sound (h.sound hs)

theorem Wrote.of_error (h : Wrote s t s') (herr : s'.error = true) : Wrote s u s' :=
  ⟨h.sticky, fun hok => absurd (herr.symm.trans hok) (by decide), h.sound⟩

end Wrote

def Puts {α : Type} (p : Output α) (t : Str) : Prop := ∀ s, Wrote s t (p s).2

/-- `p` puts `t` into the stream, and reports a failure only when the error flag is set. -/
structure Checked (p : Output Bool) (t : Str) : Prop where
  puts : Puts p t
  failed : ∀ s, (p s).1 = false → (p s).2.error = true

section Puts
variable {α β : Type} {t u : Str}

theorem Puts.bind {p : Output α} {f : α → Output β} (hp : Puts p t) (hf : ∀ a, Puts (f a) u) :
    Puts (p >>= f) (t ++ u) := fun s => (hp s).trans (hf (p s).1 (p s).2)

theorem Checked.pure_true : Checked (pure true) [] := ⟨fun s => .refl s, fun _ h => by cases h⟩

theorem andThen_run (p q : Output Bool) (s : Stream) :
    Stdio.andThen p q s = if (p s).1 = true then q (p s).2 else (false, (p s).2) := by
  show (if (p s).1 = true then q else pure false) (p s).2 = _
  split <;> rfl

theorem Checked.andThen {p q : Output Bool} (hp : Checked p t) (hq : Checked q u) :
    Checked (andThen p q) (t ++ u) := by
  refine ⟨fun s => ?_, fun s => ?_⟩ <;> rw [andThen_run] <;> split
  · exact (hp.puts s).trans (hq.puts (p s).2)
  · rename_i hfail
    exact (hp.puts s).of_error (hp.failed s (by simpa using hfail))
  · exact hq.failed (p s).2
  · rename_i hfail
    exact fun _ => hp.failed s (by simpa using hfail)

theorem Checked.after {p : Output α} {q : Output Bool} (hp : Puts p t) (hq : Checked q u) :
    Checked (do let _ ← p; q) (t ++ u) :=
  ⟨hp.bind fun _ => hq.puts, fun s => hq.failed (p s).2⟩

theorem fputc_checked (c : UInt8) : Checked (fputc c) [c] := by
  refine ⟨fun s => ?_, fun s => ?_⟩ <;> unfold fputc <;> cases hout : s.outcome s.next with
  | later => ?_
  | done => ?_
  | failed kept => ?_
  · exact ⟨id, fun _ => (List.append_assoc ..).symm, fun hs => ⟨hs.error, hs.outcome⟩⟩
  · exact ⟨id, fun _ => by simp [Stream.text], fun hs => ⟨hs.error, hs.outcome⟩⟩
  · exact ⟨fun _ => rfl, fun hok => Bool.noConfusion hok, fun hs => absurd hout (hs.outcome _ _)⟩
  · exact fun h => by cases h
  · exact fun h => by cases h
  · exact fun _ => rfl

theorem fputs_checked (t : Str) : Checked (fputs t) t := by
  induction t with
  | nil => exact Checked.pure_true
  | cons c cs ih => exact (fputc_checked c).andThen ih

theorem fputs_puts (t : Str) : Puts (fputs t) t := (fputs_checked t).puts

/-- A flush that is not reported as failed leaves all of the text in the file. -/
theorem fflush_file {s : Stream} (h : (fflush s).1 = true) :
    (fflush s).2.file = s.text ∧ (fflush s).2.buf = [] ∧ (fflush s).2.error = s.error := by
  unfold fflush at h ⊢
  split at h
  · cases h
  · exact ⟨rfl, rfl, rfl⟩

theorem fflush_empty {s : Stream} (h : s.buf = []) : (fflush s).2.file = s.file := by
  unfold fflush
  split <;> simp [h]

theorem fflush_sound {s : Stream} (hs : Sound s) : (fflush s).1 = true ∧ Sound (fflush s).2 := by
  unfold fflush
  split
  · rename_i hout
    exact absurd hout (hs.outcome _ _)
  · exact ⟨rfl, hs.error, hs.outcome⟩

theorem Puts.of_sound {p : Output α} (h : Puts p t) {s : Stream} (hs : Sound s) :
    Sound (p s).2 ∧ (p s).2.text = s.text ++ t :=
  ⟨(h s).sound hs, (h s).text ((h s).sound hs).error⟩

theorem Checked.of_sound {p : Output Bool} (h : Checked p t) {s : Stream} (hs : Sound s) : (p s).1 = true := by
  by_contra hfail
  have herror := h.failed s (by simpa using hfail)
  rw [((h.puts s).sound hs).error] at herror
  cases herror

end Puts

/-! ### Writes of which some are checked -/

/-- A write, and whether its result is looked at. -/
structure Piece where
  text : Str
  checked : Bool

def piecesText (ps : List Piece) : Str := ps.flatMap Piece.text

/-- The writes in turn, up to the first one that fails and is checked. -/
def runPieces : List Piece → Output Bool
  | [] => pure true
  | p :: ps => do
    let ok ← fputs p.text
    if p.checked && !ok then pure false else runPieces ps

def Outcome.isFailed : Outcome → Bool
  | .failed _ => true
  | _ => false

/-- Whether all of `k` bytes get through from operation `n` on, and the operation after them or after the first one
    that does not. -/
def putBytes (outcome : Nat → Outcome) : (k n : Nat) → Bool × Nat
  | 0, n => (true, n)
  | k + 1, n => if (outcome n).isFailed then (false, n + 1) else putBytes outcome k (n + 1)

/-- Of the operations from `n` on, a write that is checked fails, or the flush at the end. -/
def Noticed (outcome : Nat → Outcome) : List Piece → Nat → Prop
  | [], n => (outcome n).isFailed = true
  | p :: ps, n =>
    (p.checked = true ∧ (putBytes outcome p.text.length n).1 = false) ∨
      Noticed outcome ps (putBytes outcome p.text.length n).2

/-- No flush fails during `k` operations from `n` on. -/
def Quiet (outcome : Nat → Outcome) (n k : Nat) : Prop := ∀ i < k, (outcome (n + i)).isFailed = false

/-- A flush that fails loses all of the buffer. -/
def Loses (outcome : Nat → Outcome) : Prop := ∀ n kept, outcome n = .failed kept → kept = 0

instance Noticed.decidable (outcome : Nat → Outcome) : (ps : List Piece) → (n : Nat) → Decidable (Noticed outcome ps n)
  | [], n => inferInstanceAs (Decidable ((outcome n).isFailed = true))
  | p :: ps, n =>
    have := Noticed.decidable outcome ps (putBytes outcome p.text.length n).2
    inferInstanceAs (Decidable (_ ∨ _))

/-- `s'` is `s` after at most `k` bytes, and less than `k` when the first one was lost. -/
structure Spent (s : Stream) (k : Nat) (s' : Stream) : Prop where
  outcome : s'.outcome = s.outcome
  sticky : s.error = true → s'.error = true
  le : s'.text.length ≤ s.text.length + k
  lt : s.error = false → s'.error = true → s'.text.length < s.text.length + k

theorem Spent.refl (s : Stream) (k : Nat) : Spent s k s :=
  ⟨rfl, id, Nat.le_add_right _ _, fun hok herr => absurd (hok.symm.trans herr) Bool.false_ne_true⟩

theorem Spent.trans {s s' s'' : Stream} {k k' : Nat} (h : Spent s k s') (h' : Spent s' k' s'') :
    Spent s (k + k') s'' where
  outcome := h'.outcome.trans h.outcome
  sticky herr := h'.sticky (h.sticky herr)
  le := by
    have := h.le
    have := h'.le
    omega
  lt hok herr := by
    have hle := h.le
    have hle' := h'.le
    cases hmid : s'.error with
    | false =>
      have := h'.lt hmid herr
      omega
    | true =>
      have := h.lt hok hmid
      omega

section Pieces
variable {s : Stream} {p : Piece} {ps qs : List Piece}

theorem piecesText_append (ps qs : List Piece) : piecesText (ps ++ qs) = piecesText ps ++ piecesText qs :=
  List.flatMap_append

theorem piecesText_cons (p : Piece) (ps : List Piece) : piecesText (p :: ps) = p.text ++ piecesText ps := rfl

theorem runPieces_cons (p : Piece) (ps : List Piece) (s : Stream) :
    runPieces (p :: ps) s =
      if (p.checked && !(fputs p.text s).1) = true then (false, (fputs p.text s).2)
        else runPieces ps (fputs p.text s).2 := by
  show (if (p.checked && !(fputs p.text s).1) = true then pure false else runPieces ps) (fputs p.text s).2 = _
  split <;> rfl

theorem runPieces_append (ps qs : List Piece) : runPieces (ps ++ qs) = andThen (runPieces ps) (runPieces qs) := by
  funext s
  induction ps generalizing s with
  | nil => rfl
  | cons p ps ih =>
    rw [List.cons_append, runPieces_cons, andThen_run, runPieces_cons]
    split
    · rfl
    · rw [ih, andThen_run]

theorem fputc_eq (c : UInt8) (s : Stream) :
    (fputc c s).1 = !(s.outcome s.next).isFailed ∧ (fputc c s).2.next = s.next + 1 ∧
      (fputc c s).2.error = (s.error || (s.outcome s.next).isFailed) := by
  unfold fputc Outcome.isFailed
  cases s.outcome s.next <;> simp

theorem fputc_spent (h : Loses s.outcome) (c : UInt8) : Spent s 1 (fputc c s).2 := by
  unfold fputc
  cases hout : s.outcome s.next with
  | later => exact ⟨rfl, id, by simp [Stream.text]; omega, fun hok herr => by simp [hok] at herr⟩
  | done => exact ⟨rfl, id, by simp [Stream.text]; omega, fun hok herr => by simp [hok] at herr⟩
  | failed kept =>
    obtain rfl := h _ _ hout
    have hlost : s.file ++ (s.buf ++ [c]).take 0 ++ [] = s.file := by
      rw [List.take_zero, List.append_nil, List.append_nil]
    have hlength : (s.file ++ (s.buf ++ [c]).take 0 ++ []).length ≤ (s.file ++ s.buf).length := by
      rw [hlost, List.length_append]
      exact Nat.le_add_right _ _
    exact ⟨rfl, fun _ => rfl, Nat.le_succ_of_le hlength, fun _ _ => Nat.lt_succ_of_le hlength⟩

theorem fputs_cons (c : UInt8) (cs : Str) (s : Stream) :
    fputs (c :: cs) s = if (fputc c s).1 = true then fputs cs (fputc c s).2 else (false, (fputc c s).2) :=
  andThen_run (fputc c) (fputs cs) s

theorem outcome_fputc (c : UInt8) (s : Stream) : (fputc c s).2.outcome = s.outcome := by
  unfold fputc
  split <;> rfl

theorem outcome_fputs (t : Str) (s : Stream) : (fputs t s).2.outcome = s.outcome := by
  induction t generalizing s with
  | nil => rfl
  | cons c cs ih =>
    rw [fputs_cons]
    split
    · rw [ih, outcome_fputc]
    · exact outcome_fputc c s

theorem fputs_eq (t : Str) (s : Stream) :
    (fputs t s).1 = (putBytes s.outcome t.length s.next).1 ∧
      (fputs t s).2.next = (putBytes s.outcome t.length s.next).2 ∧
      (fputs t s).2.error = (s.error || !(putBytes s.outcome t.length s.next).1) := by
  induction t generalizing s with
  | nil => exact ⟨rfl, rfl, (Bool.or_false _).symm⟩
  | cons c cs ih =>
    obtain ⟨hok, hnext, herror⟩ := fputc_eq c s
    rw [fputs_cons, List.length_cons, putBytes]
    cases hfail : (s.outcome s.next).isFailed with
    | true =>
      rw [hfail] at hok herror
      simp [hok, hnext, herror]
    | false =>
      obtain ⟨hok', hnext', herror'⟩ := ih (fputc c s).2
      rw [hfail] at hok herror
      rw [outcome_fputc, hnext] at hok' hnext' herror'
      simp [hok, hok', hnext', herror', herror]

theorem fputs_spent (h : Loses s.outcome) (t : Str) : Spent s t.length (fputs t s).2 := by
  induction t generalizing s with
  | nil => exact .refl s 0
  | cons c cs ih =>
    have hc := fputc_spent h c
    rw [fputs_cons, List.length_cons, Nat.add_comm]
    split
    · exact hc.trans (ih (hc.outcome ▸ h))
    · exact hc.trans (.refl _ cs.length)

theorem putBytes_iff (outcome : Nat → Outcome) (k n : Nat) :
    ((putBytes outcome k n).1 = true ↔ Quiet outcome n k) ∧
      ((putBytes outcome k n).1 = true → (putBytes outcome k n).2 = n + k) := by
  induction k generalizing n with
  | zero => exact ⟨iff_of_true rfl fun i hi => absurd hi (Nat.not_lt_zero i), fun _ => rfl⟩
  | succ k ih =>
    obtain ⟨hiff, hnext⟩ := ih (n + 1)
    rw [putBytes]
    cases hfail : (outcome n).isFailed with
    | true =>
      refine ⟨iff_of_false Bool.false_ne_true fun h => ?_, fun h => Bool.noConfusion h⟩
      have hzero := h 0 (Nat.succ_pos k)
      rw [Nat.add_zero, hfail] at hzero
      cases hzero
    | false =>
      rw [if_neg Bool.false_ne_true]
      refine ⟨hiff.trans ⟨fun h i hi => ?_, fun h i hi => ?_⟩, fun hok => by rw [hnext hok]; omega⟩
      · cases i with
        | zero => exact hfail
        | succ i =>
          have hi' := h i (Nat.lt_of_succ_lt_succ hi)
          rwa [Nat.add_assoc, Nat.add_comm 1] at hi'
      · have hi' := h (i + 1) (Nat.succ_lt_succ hi)
        rwa [Nat.add_assoc, Nat.add_comm 1]

theorem Quiet.split {outcome : Nat → Outcome} {n k k' : Nat} :
    Quiet outcome n (k + k') ↔ Quiet outcome n k ∧ Quiet outcome (n + k) k' := by
  constructor
  · intro h
    refine ⟨fun i hi => h i (by omega), fun i hi => ?_⟩
    rw [Nat.add_assoc]
    exact h (k + i) (by omega)
  · rintro ⟨h, h'⟩ i hi
    rcases Nat.lt_or_ge i k with hlt | hge
    · exact h i hlt
    · obtain ⟨j, rfl⟩ := Nat.exists_eq_add_of_le hge
      rw [← Nat.add_assoc]
      exact h' j (by omega)

/-- The stream after the writes, and what they report. -/
theorem runPieces_spent (h : Loses s.outcome) (ps : List Piece) :
    Spent s (piecesText ps).length (runPieces ps s).2 := by
  induction ps generalizing s with
  | nil => exact .refl s 0
  | cons p ps ih =>
    have hp := fputs_spent h p.text
    rw [runPieces_cons, piecesText_cons, List.length_append]
    split
    · exact hp.trans (.refl _ _)
    · exact hp.trans (ih (hp.outcome ▸ h))

/-- The writes go through to a flush that succeeds exactly when no failure is noticed. -/
theorem runPieces_noticed (ps : List Piece) (s : Stream) :
    ((runPieces ps s).1 = true ∧ ((runPieces ps s).2.outcome (runPieces ps s).2.next).isFailed = false) ↔
      ¬Noticed s.outcome ps s.next := by
  induction ps generalizing s with
  | nil =>
    have hnil : runPieces [] s = (true, s) := rfl
    rw [hnil, Noticed, Bool.not_eq_true]
    exact and_iff_right rfl
  | cons p ps ih =>
    obtain ⟨hok, hnext, -⟩ := fputs_eq p.text s
    have hrest := ih (fputs p.text s).2
    rw [outcome_fputs, hnext] at hrest
    rw [runPieces_cons, Noticed, ← hok]
    cases hchecked : p.checked <;> cases hres : (fputs p.text s).1
    · simpa using hrest
    · simpa using hrest
    · simp
    · simpa using hrest

theorem runPieces_puts (ps : List Piece) : Puts (runPieces ps) (piecesText ps) := by
  intro s
  induction ps generalizing s with
  | nil => exact .refl s
  | cons p ps ih =>
    have hp := fputs_puts p.text s
    rw [runPieces_cons, piecesText_cons]
    split
    · rename_i hstop
      obtain ⟨-, hfail⟩ := Bool.and_eq_true_iff.mp hstop
      exact hp.of_error ((fputs_checked p.text).failed s (by simpa using hfail))
    · exact hp.trans (ih (fputs p.text s).2)

theorem error_runPieces (ps : List Piece) (hs : s.error = true) : (runPieces ps s).2.error = true := by
  induction ps generalizing s with
  | nil => exact hs
  | cons p ps ih =>
    have herror := (fputs_eq p.text s).2.2
    rw [hs, Bool.true_or] at herror
    rw [runPieces_cons]
    split
    · exact herror
    · exact ih herror

/-- The error flag is clear after the writes exactly when no flush has failed. -/
theorem runPieces_error (ps : List Piece) {s : Stream} (hs : s.error = false) :
    (runPieces ps s).2.error = false ↔ Quiet s.outcome s.next (piecesText ps).length := by
  induction ps generalizing s with
  | nil => exact iff_of_true hs fun i hi => absurd hi (Nat.not_lt_zero i)
  | cons p ps ih =>
    obtain ⟨hok, hnext, herror⟩ := fputs_eq p.text s
    obtain ⟨hquiet, hend⟩ := putBytes_iff s.outcome p.text.length s.next
    rw [piecesText_cons, List.length_append, Quiet.split, ← hquiet, runPieces_cons, ← hok]
    rw [← hok, hs, Bool.false_or] at herror
    cases hres : (fputs p.text s).1 with
    | true =>
      rw [hres] at herror hok
      have hrest := ih herror
      rw [outcome_fputs, hnext, hend hok.symm] at hrest
      simpa using hrest
    | false =>
      rw [hres] at herror
      have hsticky := error_runPieces ps herror
      cases p.checked <;> simp [hsticky, herror]

end Pieces

end RadarAim.Stdio
