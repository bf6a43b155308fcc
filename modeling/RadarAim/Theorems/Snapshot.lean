import Mathlib.Logic.Relation
import RadarAim.Radar.Snapshot

/-! The snapshot protocol refines a sequence lock: every step of the daemon or of an overlay is a step of
    `Seqlock.Step`, or stutters. So a snapshot that `read_snapshot` accepts is one published frame, as long
    as the sequence word does not go all the way round while it is copied. The word moves on by two when a
    publication begins, whether or not the daemon lives to complete it, so it is the publications begun
    that count. -/

namespace RadarAim.Snapshot

/-! ### The refinement -/

theorem mem_prefixWords {i : Word} : i ∈ prefixWords ↔ i < sequenceWord := by
  unfold prefixWords
  simp

theorem mem_suffixWords {i : Word} : i ∈ suffixWords ↔ sequenceWord < i := by
  unfold suffixWords
  simp

/-- The sequence word between the two regions that `publish` copies. -/
def layout : Seqlock.Layout Word where
  seq := sequenceWord
  pre := prefixWords
  suf := suffixWords
  seq_notMem := by simp [mem_prefixWords, mem_suffixWords]
  cover i hi := by
    rw [List.mem_append, mem_prefixWords, mem_suffixWords]
    exact lt_or_gt_of_ne hi

def Daemon.abs : Daemon → Seqlock.Writer Word 32
  | .running _ (.loaded frame sequence) => .loaded frame sequence
  | .running _ (.copyPrefix frame sequence todo) => .copying frame sequence todo suffixWords
  | .running _ (.copySuffix frame sequence todo) => .copying frame sequence [] todo
  | _ => .idle

def Overlay.abs : Overlay → Seqlock.Reader Word 32
  | .copying _ seq begun completed candidate todo => .copying seq begun completed candidate todo
  | _ => .idle

def System.abs {ρ : Type} (s : System ρ) : Seqlock.State Word ρ 32 :=
  { shared := s.shared, writer := s.daemon.abs, readers := fun r => (s.overlays r).abs
    published := s.published, accepted := s.accepted, begun := s.begun, completed := s.completed }

section Refinement
variable {ρ : Type} [DecidableEq ρ] {s t : System ρ}

theorem abs_update (s : System ρ) (r : ρ) (x : Overlay) :
    (fun r' => (Function.update s.overlays r x r').abs) =
      Function.update (fun r' => (s.overlays r').abs) r x.abs := by
  funext r'
  by_cases h : r' = r
  · rw [h, Function.update_self, Function.update_self]
  · rw [Function.update_of_ne h, Function.update_of_ne h]

theorem abs_setOverlay (s : System ρ) (r : ρ) (x : Overlay) :
    (s.setOverlay r x).abs = { s.abs with readers := Function.update s.abs.readers r x.abs } :=
  congrArg (fun f => ({ s.abs with readers := f } : Seqlock.State Word ρ 32)) (abs_update s r x)

theorem giveUp (s : System ρ) {r : ρ} {x : Overlay} (hx : x.abs = .idle) :
    Seqlock.Step layout snapshotValid s.abs (s.setOverlay r x).abs := by
  rw [abs_setOverlay, hx]
  exact .readerGiveUp

theorem callPublish_sim (s : System ρ) {tick : BitVec 32} {frame : Shared} {status : BitVec 32}
    (hidle : s.daemon.abs = .idle) : Seqlock.Step layout snapshotValid s.abs (s.callPublish tick frame status).abs :=
  .load (stamp frame (tick + 1) status) hidle

/-- Every step of the system is one of the sequence lock, or is none to it. -/
theorem Step.sim (h : Step s t) : Seqlock.Step layout snapshotValid s.abs t.abs ∨ t.abs = s.abs := by
  cases h with
  | radarInit hd => exact Or.inl (callPublish_sim s (by rw [hd]; rfl))
  | publish frame status hd => exact Or.inl (callPublish_sim s (by rw [hd]; rfl))
  | @storeOdd tick frame sequence hd =>
    have hw : s.abs.writer = .loaded frame sequence := by simp [System.abs, hd, Daemon.abs]
    exact Or.inl (.oddStore hw)
  | @prefixWord tick frame sequence todo i hd hi =>
    have hw : s.abs.writer = .copying frame sequence todo suffixWords := by simp [System.abs, hd, Daemon.abs]
    exact Or.inl (.copyPre hw hi)
  | @prefixDone tick frame sequence hd =>
    -- The writer goes on to the other part, and writes nothing.
    right
    simp [System.abs, hd, Daemon.abs]
  | @suffixWord tick frame sequence todo i hd hi =>
    have hw : s.abs.writer = .copying frame sequence [] todo := by simp [System.abs, hd, Daemon.abs]
    exact Or.inl (.copySuf hw hi)
  | @storeEven tick frame sequence hd =>
    have hw : s.abs.writer = .copying frame sequence [] [] := by simp [System.abs, hd, Daemon.abs]
    exact Or.inl (.evenStore hw)
  | die => exact Or.inl .die
  | call | loadOdd | exhausted | changed | rejected => exact Or.inl (giveUp s rfl)
  | @loadEven r n candidate hr hn heven =>
    left
    rw [abs_setOverlay]
    have hidle : s.abs.readers r = .idle := by simp [System.abs, hr, Overlay.abs]
    exact .readerLoad candidate hidle heven fun i _ => List.mem_finRange i
  | @copyWord r n seq b c candidate todo i hr hi =>
    left
    rw [abs_setOverlay]
    have hcopy : s.abs.readers r = .copying seq b c candidate todo := by simp [System.abs, hr, Overlay.abs]
    exact .readerCopy hcopy hi
  | @accepted r n seq b c candidate hr hseq hvalid =>
    left
    have hcopy : s.abs.readers r = .copying seq b c candidate [] := by simp [System.abs, hr, Overlay.abs]
    show Seqlock.Step layout snapshotValid s.abs
      { (s.setOverlay r .idle).abs with accepted := s.accepted ++ [⟨candidate, s.begun - b, s.completed - c⟩] }
    rw [abs_setOverlay]
    exact .readerAccept hcopy hseq hvalid

theorem Reachable.sim (h : Reachable s) : Seqlock.Reachable layout snapshotValid emptyFile s.abs := by
  induction h with
  | boot => exact .start
  | step _ hs ih =>
    rcases hs.sim with hs | heq
    · exact .step ih hs
    · rw [heq]
      exact ih

/-- A snapshot accepted while fewer than `2 ^ 31` publications began is one frame given to `publish`. -/
theorem accepted_oneFrame (h : Reachable s) : ∀ a ∈ s.accepted, a.begun < 2 ^ 31 → OneFrame s a.snapshot := by
  have hinit : ∀ f, Seqlock.Agree layout f emptyFile → snapshotValid f = false := fun f hf => by
    have hmagic : f magicWord = 0 := hf magicWord (by decide)
    simp [snapshotValid, hmagic, radarMagic]
  exact (h.sim.inv (by decide) rfl hinit).accepted

end Refinement

/-! ### Runs of the writer and of a reader -/

section Runs
variable {ρ : Type} [DecidableEq ρ] {s t u : System ρ}

@[simp] theorem setOverlay_self (s : System ρ) (r : ρ) (x : Overlay) : (s.setOverlay r x).overlays r = x :=
  Function.update_self _ _ _

@[simp] theorem setOverlay_setOverlay (s : System ρ) (r : ρ) (x y : Overlay) :
    (s.setOverlay r x).setOverlay r y = s.setOverlay r y := by
  simp [System.setOverlay]

abbrev Steps : System ρ → System ρ → Prop := Relation.ReflTransGen Step

theorem Reachable.steps (h : Reachable s) (hs : Steps s t) : Reachable t := by
  induction hs with
  | refl => exact h
  | tail _ hst ih => exact .step ih hst

/-- The writer went from `s` to `t`: it was given `frames` and completed `n` of them, and no overlay moved. -/
structure Wrote (s t : System ρ) (frames : List Shared) (n : Nat) : Prop where
  steps : Steps s t
  overlays : t.overlays = s.overlays
  accepted : t.accepted = s.accepted
  published : t.published = s.published ++ frames
  completed : t.completed = s.completed + n

theorem Wrote.refl (s : System ρ) : Wrote s s [] 0 :=
  ⟨.refl, rfl, rfl, (List.append_nil _).symm, rfl⟩

theorem Wrote.of_step (h : Step s t) (ho : t.overlays = s.overlays) (ha : t.accepted = s.accepted)
    (hp : t.published = s.published) (hc : t.completed = s.completed) : Wrote s t [] 0 :=
  ⟨.single h, ho, ha, by rw [hp, List.append_nil], hc⟩

theorem Wrote.trans {fs gs : List Shared} {m n : Nat} (h₁ : Wrote s t fs m) (h₂ : Wrote t u gs n) :
    Wrote s u (fs ++ gs) (m + n) where
  steps := h₁.steps.trans h₂.steps
  overlays := h₂.overlays.trans h₁.overlays
  accepted := h₂.accepted.trans h₁.accepted
  published := by rw [h₂.published, h₁.published, List.append_assoc]
  completed := by rw [h₂.completed, h₁.completed, Nat.add_assoc]

/-- The file after the words of `todo` were moved from `frame`. -/
def moved (file frame : Shared) (todo : List Word) : Shared := fun i => if i ∈ todo then frame i else file i

theorem moved_nil (file frame : Shared) : moved file frame [] = file := by
  funext i
  simp [moved]

theorem moved_cons (file frame : Shared) (i : Word) (todo : List Word) :
    moved (Function.update file i (frame i)) frame todo = moved file frame (i :: todo) := by
  funext j
  unfold moved
  by_cases hj : j = i
  · simp [hj]
  · simp [hj, Function.update_of_ne]

/-- One of the two `memcpy` calls, whose control states are `pc todo`, moves every word it has left. -/
theorem copy_run {tick : BitVec 32} {frame : Shared} {pc : List Word → Publish}
    (hstep : ∀ (s : System ρ) (todo : List Word) (i : Word), s.daemon = .running tick (pc todo) → i ∈ todo →
      Step s { s with
        shared := Function.update s.shared i (frame i), daemon := .running tick (pc (todo.erase i)) })
    (todo : List Word) (s : System ρ) (hd : s.daemon = .running tick (pc todo)) :
    Wrote s { s with shared := moved s.shared frame todo, daemon := .running tick (pc []) } [] 0 := by
  induction todo generalizing s with
  | nil =>
    rw [moved_nil, ← hd]
    exact .refl s
  | cons i todo ih =>
    have hfirst := hstep s (i :: todo) i hd List.mem_cons_self
    rw [List.erase_cons_head] at hfirst
    have hrest := ih { s with
      shared := Function.update s.shared i (frame i), daemon := .running tick (pc todo) } rfl
    rw [moved_cons] at hrest
    exact (Wrote.of_step hfirst rfl rfl rfl rfl).trans hrest

theorem publish_run (s : System ρ) {tick : BitVec 32} {frame : Shared} {sequence : BitVec 32}
    (hd : s.daemon = .running tick (.loaded frame sequence)) :
    ∃ t, Wrote s t [] 1 ∧ t.daemon = .running tick .idle ∧
      t.shared sequenceWord = ((sequence + 1) ||| 1) + 1 ∧ ∀ i, i ≠ sequenceWord → t.shared i = frame i := by
  let odd := (sequence + 1) ||| 1
  let s₁ : System ρ := { s with
    shared := Function.update s.shared sequenceWord odd
    daemon := .running tick (.copyPrefix frame odd prefixWords), begun := s.begun + 1 }
  let s₂ : System ρ := { s₁ with
    shared := moved s₁.shared frame prefixWords, daemon := .running tick (.copyPrefix frame odd []) }
  let s₃ : System ρ := { s₂ with daemon := .running tick (.copySuffix frame odd suffixWords) }
  let s₄ : System ρ := { s₃ with
    shared := moved s₃.shared frame suffixWords, daemon := .running tick (.copySuffix frame odd []) }
  let s₅ : System ρ := { s₄ with
    shared := Function.update s₄.shared sequenceWord (odd + 1), daemon := .running tick .idle
    completed := s₄.completed + 1 }
  have h₁ : Wrote s s₁ [] 0 := .of_step (.storeOdd hd) rfl rfl rfl rfl
  have h₂ : Wrote s₁ s₂ [] 0 :=
    @copy_run ρ _ tick frame (.copyPrefix frame odd) (fun _ _ _ => .prefixWord) prefixWords s₁ rfl
  have h₃ : Wrote s₂ s₃ [] 0 := .of_step (.prefixDone rfl) rfl rfl rfl rfl
  have h₄ : Wrote s₃ s₄ [] 0 :=
    @copy_run ρ _ tick frame (.copySuffix frame odd) (fun _ _ _ => .suffixWord) suffixWords s₃ rfl
  have h₅ : Wrote s₄ s₅ [] 1 := ⟨.single (.storeEven rfl), rfl, rfl, (List.append_nil _).symm, rfl⟩
  have hframe : ∀ i, i ≠ sequenceWord → s₅.shared i = frame i := fun i hi => by
    show Function.update s₄.shared sequenceWord (odd + 1) i = frame i
    rw [Function.update_of_ne hi]
    show (if i ∈ suffixWords then frame i else if i ∈ prefixWords then frame i else s₁.shared i) = frame i
    -- The words before the sequence word were copied first, those after it last.
    rcases lt_or_gt_of_ne hi with hlt | hgt
    · simp [mem_prefixWords, hlt]
    · simp [mem_suffixWords, hgt]
  have hsequence : s₅.shared sequenceWord = odd + 1 := by
    show Function.update s₄.shared sequenceWord (odd + 1) sequenceWord = odd + 1
    rw [Function.update_self]
  exact ⟨s₅, h₁.trans (h₂.trans (h₃.trans (h₄.trans h₅))), rfl, hsequence, hframe⟩

theorem callPublish_run {tick : BitVec 32} {frame : Shared} {status : BitVec 32}
    (hcall : Step s (s.callPublish tick frame status)) :
    ∃ t, Wrote s t [stamp frame (tick + 1) status] 1 ∧ t.daemon = .running (tick + 1) .idle ∧
      t.shared sequenceWord = ((s.shared sequenceWord + 1) ||| 1) + 1 ∧
      ∀ i, i ≠ sequenceWord → t.shared i = stamp frame (tick + 1) status i := by
  obtain ⟨t, hw, hd, hseq, hframe⟩ := publish_run (s.callPublish tick frame status) rfl
  have hfirst : Wrote s (s.callPublish tick frame status) [stamp frame (tick + 1) status] 0 :=
    ⟨.single hcall, rfl, rfl, rfl, rfl⟩
  exact ⟨t, hfirst.trans hw, hd, hseq, hframe⟩

/-- `radar_init` and death before the first word: the sequence word has moved on to the next odd one. -/
def System.crash (s : System ρ) : System ρ :=
  { s with
    shared := Function.update s.shared sequenceWord ((s.shared sequenceWord + 1) ||| 1), daemon := .dead
    published := s.published ++ [stamp (fun _ => 0) 1 1], begun := s.begun + 1 }

theorem crash_run (s : System ρ) (hd : s.daemon = .dead) : Wrote s s.crash [stamp (fun _ => 0) 1 1] 0 := by
  have hinit : Step s (s.callPublish 0 (fun _ => 0) 1) := .radarInit hd
  have hodd := @Step.storeOdd ρ _ (s.callPublish 0 (fun _ => 0) 1) _ _ _ rfl
  exact ⟨((Relation.ReflTransGen.single hinit).tail hodd).tail .die, rfl, rfl, rfl, rfl⟩

theorem crashes_run (n : Nat) (s : System ρ) (hd : s.daemon = .dead) :
    Wrote s (System.crash^[n] s) (List.replicate n (stamp (fun _ => 0) 1 1)) 0 := by
  induction n generalizing s with
  | zero => exact .refl s
  | succ n ih =>
    rw [Function.iterate_succ_apply, List.replicate_succ]
    exact (crash_run s hd).trans (ih s.crash rfl)

omit [DecidableEq ρ] in
/-- After `n + 1` crashes over a quiet file the sequence word closes with the `n + 1`-st even word. -/
theorem crashes_sequence (n k : Nat) (s : System ρ) (hs : s.shared sequenceWord = Seqlock.even 32 k) :
    (System.crash^[n + 1] s).shared sequenceWord + 1 = Seqlock.even 32 (k + (n + 1)) := by
  induction n with
  | zero => exact Seqlock.odd_add_one (by decide) (Or.inl hs)
  | succ n ih =>
    rw [Function.iterate_succ_apply']
    exact Seqlock.odd_add_one (by decide) (Or.inr ih)

theorem snapshot_run {r : ρ} {n : Nat} {seq : BitVec 32} {b c : Nat} (todo : List Word) (candidate : Shared)
    (s : System ρ) (hr : s.overlays r = .copying n seq b c candidate todo) :
    Steps s (s.setOverlay r (.copying n seq b c (moved candidate s.shared todo) [])) := by
  induction todo generalizing candidate s with
  | nil =>
    have hsame : s.setOverlay r (.copying n seq b c (moved candidate s.shared []) []) = s := by
      rw [moved_nil, System.setOverlay, ← hr, Function.update_eq_self]
    rw [hsame]
  | cons i todo ih =>
    have hfirst := Step.copyWord hr List.mem_cons_self
    rw [List.erase_cons_head] at hfirst
    have hrest := ih (Function.update candidate i (s.shared i))
      (s.setOverlay r (.copying n seq b c (Function.update candidate i (s.shared i)) todo))
      (setOverlay_self s r _)
    have hshared : moved (Function.update candidate i (s.shared i)) s.shared todo =
        moved candidate s.shared (i :: todo) := moved_cons candidate s.shared i todo
    refine .head hfirst ?_
    rw [setOverlay_setOverlay] at hrest
    rw [← hshared]
    exact hrest

def initFrame : Shared := stamp (fun _ => 0) 1 1

theorem radarInit_run (hd : s.daemon = .dead) :
    ∃ t, Wrote s t [initFrame] 1 ∧ t.daemon = .running 1 .idle ∧
      t.shared sequenceWord = ((s.shared sequenceWord + 1) ||| 1) + 1 ∧
      ∀ i, i ≠ sequenceWord → t.shared i = initFrame i :=
  callPublish_run (.radarInit hd)

abbrev System.load (s : System ρ) : Overlay :=
  .copying 0 (s.shared sequenceWord) s.begun s.completed (fun _ => 0) (List.finRange sharedWords)

theorem load_run {r : ρ} (hr : s.overlays r = .idle) (heven : (s.shared sequenceWord).toNat % 2 = 0) :
    Steps s (s.setOverlay r s.load) := by
  have hload := Step.loadEven (fun _ => 0) (setOverlay_self s r (.retry 0)) (by decide) heven
  rw [setOverlay_setOverlay] at hload
  exact .tail (.single (.call hr)) hload

/-- An overlay copies the words it has left and finds the sequence word as it was. -/
theorem accept_run {r : ρ} {n : Nat} {seq : BitVec 32} {b c : Nat} {candidate : Shared} {todo : List Word}
    (hr : s.overlays r = .copying n seq b c candidate todo) (hseq : s.shared sequenceWord = seq)
    (hvalid : snapshotValid (moved candidate s.shared todo) = true) :
    ∃ t, Steps s t ∧ t.published = s.published ∧
      ⟨moved candidate s.shared todo, s.begun - b, s.completed - c⟩ ∈ t.accepted := by
  let s₁ := s.setOverlay r (.copying n seq b c (moved candidate s.shared todo) [])
  have hcopied : s₁.overlays r = .copying n seq b c (moved candidate s.shared todo) [] :=
    setOverlay_self s r _
  refine ⟨_, (snapshot_run todo candidate s hr).tail (.accepted hcopied hseq hvalid), rfl, ?_⟩
  exact List.mem_append_right _ (List.mem_singleton_self _)

end Runs

theorem accepted_oneFrame_first :
    ∃ s : System Unit, Reachable s ∧ ∃ a ∈ s.accepted, a.begun < 2 ^ 31 ∧ OneFrame s a.snapshot := by
  obtain ⟨s, hw, -, hseq, hframe⟩ := @radarInit_run Unit _ boot rfl
  have hs : Reachable s := Reachable.boot.steps hw.steps
  have heven : s.shared sequenceWord = 2 := by rw [hseq]; decide
  have hload := load_run (congrFun hw.overlays ()) (by rw [heven]; decide)
  have hcopying := setOverlay_self s () s.load
  have hvalid : snapshotValid (moved (fun _ => 0) s.shared (List.finRange sharedWords)) = true := by
    have hcopy : ∀ i, moved (fun _ => 0) s.shared (List.finRange sharedWords) i = s.shared i := fun i => by
      simp [moved]
    simp only [snapshotValid, hcopy]
    rw [hframe _ (by decide), hframe _ (by decide), hframe _ (by decide)]
    decide
  obtain ⟨t, hsteps, -, hmem⟩ := accept_run hcopying rfl hvalid
  have ht : Reachable t := (hs.steps hload).steps hsteps
  have hnone : s.begun - s.begun < 2 ^ 31 := by omega
  exact ⟨t, ht, _, hmem, hnone, accepted_oneFrame ht _ hmem hnone⟩

/-! ### Publications that a death cuts short -/

/-- The frame that a running daemon publishes second, here with status 2. -/
def secondFrame : Shared := stamp (fun _ => 0) 2 2

/-- The tick of the second frame in the words of the first: no daemon published it. -/
theorem mixed_not_oneFrame {s : System Unit} {snapshot : Shared}
    (hpub : ∀ f ∈ s.published, f = initFrame ∨ f = secondFrame) (htick : snapshot tickWord = 2)
    (hstatus : snapshot statusWord = 1) : ¬OneFrame s snapshot := by
  rintro ⟨f, hf, hsame⟩
  rcases hpub f hf with rfl | rfl
  · have := (hsame tickWord (by decide)).symm.trans htick
    revert this
    decide
  · have := (hsame statusWord (by decide)).symm.trans hstatus
    revert this
    decide

/-- An overlay copies the tick of the second frame; the daemon dies, `n + 1` daemons die after their odd
    store, and one more completes its first frame. Where that takes the sequence word all the way round,
    the overlay copies the rest from the new frame and accepts. -/
theorem wrap_run (n : Nat) (hwrap : Seqlock.even 32 (2 + (n + 1) + 1) = Seqlock.even 32 2) :
    ∃ s : System Unit, Reachable s ∧ ∃ a ∈ s.accepted, a.completed = 1 ∧ ¬OneFrame s a.snapshot := by
  -- The daemon has published twice when the overlay loads the sequence word and copies the tick.
  obtain ⟨s₁, hw₁, hd₁, hseq₁, -⟩ := @radarInit_run Unit _ boot rfl
  obtain ⟨s₂, hw₂, -, hseq₂, hframe₂⟩ := callPublish_run (.publish (fun _ => 0) 2 hd₁)
  have heven₂ : s₂.shared sequenceWord = Seqlock.even 32 2 := by rw [hseq₂, hseq₁]; decide
  have hidle₂ : s₂.overlays () = .idle := by rw [hw₂.overlays, hw₁.overlays]; rfl
  have hload := load_run hidle₂ (by rw [heven₂]; decide)
  obtain ⟨todo, htodo⟩ : ∃ todo, (List.finRange sharedWords).erase tickWord = todo := ⟨_, rfl⟩
  let copy : Shared := Function.update (fun _ => 0) tickWord (s₂.shared tickWord)
  let s₃ := s₂.setOverlay ()
    (.copying 0 (s₂.shared sequenceWord) s₂.begun s₂.completed copy todo)
  have htick : Steps s₂ s₃ := by
    have hcopy := Step.copyWord (setOverlay_self s₂ () s₂.load) (List.mem_finRange tickWord)
    rw [setOverlay_setOverlay, htodo] at hcopy
    exact hload.tail hcopy
  -- The daemon dies, others die in their first publication, and the last one completes it.
  have hdie : Wrote s₃ { s₃ with daemon := .dead } [] 0 := .of_step .die rfl rfl rfl rfl
  have hw₄ := hdie.trans (crashes_run (n + 1) { s₃ with daemon := .dead } rfl)
  have hseq₄ := crashes_sequence n 2 { s₃ with daemon := .dead } heven₂
  have hdead₄ : (System.crash^[n + 1] { s₃ with daemon := .dead }).daemon = .dead := by
    rw [Function.iterate_succ_apply']
    rfl
  obtain ⟨s₅, hw₅, -, hseq₅, hframe₅⟩ := radarInit_run hdead₄
  have hw : Wrote s₃ s₅ _ _ := hw₄.trans hw₅
  have hback : s₅.shared sequenceWord = s₂.shared sequenceWord := by
    rw [hseq₅, Seqlock.odd_add_one (by decide) (Or.inr hseq₄), hwrap, heven₂]
  -- The overlay copies the rest and finds the sequence word as it was.
  have hcopying : s₅.overlays () =
      .copying 0 (s₂.shared sequenceWord) s₂.begun s₂.completed copy todo := by
    rw [hw.overlays]
    exact setOverlay_self s₂ () _
  have hrest : ∀ i, i ≠ tickWord → moved copy s₅.shared todo i = s₅.shared i := fun i hi => by
    simp [moved, ← htodo, List.mem_erase_of_ne hi]
  have hfirst : moved copy s₅.shared todo tickWord = 2 := by
    have hnot : tickWord ∉ todo := htodo ▸ (List.nodup_finRange sharedWords).not_mem_erase
    simp only [moved, hnot, ↓reduceIte, copy, Function.update_self]
    rw [hframe₂ _ (by decide)]
    decide
  have hvalid : snapshotValid (moved copy s₅.shared todo) = true := by
    simp only [snapshotValid]
    rw [hrest _ (by decide), hrest _ (by decide), hrest _ (by decide), hframe₅ _ (by decide),
      hframe₅ _ (by decide), hframe₅ _ (by decide)]
    decide
  obtain ⟨t, hsteps, hpub, hmem⟩ := accept_run hcopying hback hvalid
  have hreach : Reachable t :=
    ((((Reachable.boot.steps hw₁.steps).steps hw₂.steps).steps htick).steps hw.steps).steps hsteps
  -- One publication was completed in between, and the copy has the tick of one frame and the rest of another.
  refine ⟨t, hreach, _, hmem, ?_, mixed_not_oneFrame ?_ hfirst ?_⟩
  · show s₅.completed - s₂.completed = 1
    rw [hw.completed]
    show s₂.completed + _ - s₂.completed = 1
    omega
  · intro f hf
    rw [hpub, hw.published] at hf
    have hs₃ : s₃.published = [initFrame] ++ [secondFrame] := by
      show s₂.published = _
      rw [hw₂.published, hw₁.published]
      rfl
    rw [hs₃] at hf
    simp only [List.nil_append, List.mem_append, List.mem_singleton, List.mem_replicate] at hf
    rcases hf with (hf | hf) | ⟨-, hf⟩ | hf
    · exact Or.inl hf
    · exact Or.inr hf
    · exact Or.inl hf
    · exact Or.inl hf
  · show moved copy s₅.shared todo statusWord = 1
    rw [hrest _ (by decide), hframe₅ _ (by decide)]
    decide

/-- Fewer than `2 ^ 31` publications completed within the attempt is not enough. -/
theorem completed_not_enough :
    ¬∀ s : System Unit, Reachable s → ∀ a ∈ s.accepted, a.completed < 2 ^ 31 → OneFrame s a.snapshot := by
  intro h
  obtain ⟨s, hs, a, ha, hone, hnot⟩ := wrap_run (2 ^ 31 - 2) (by decide)
  exact hnot (h s hs a ha (by omega))

end RadarAim.Snapshot
