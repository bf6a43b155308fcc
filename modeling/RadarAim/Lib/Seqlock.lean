import Mathlib.Data.Nat.Bitwise
import Mathlib.Data.Nat.ModEq
import Mathlib.Logic.Function.Basic

/-! A sequence lock. One writer publishes frames of words into shared memory, word by word, and marks
    the time of writing by an odd sequence word; any number of readers copy the words and keep a copy
    when the sequence word was even before and is the same after. The writer may die between any two
    words and be started again over what it left. Every step reads or writes one word, and the words of
    one copy may be moved in any order.

    The sequence word has `w` bits and wraps. `Inv.accepted` is the safety statement: a copy that was
    kept while fewer than `2 ^ (w - 1)` publications began is one published frame. -/

namespace RadarAim.Seqlock

/-- Where the sequence word lies among the words `ι`, and the two copies that move the others. -/
structure Layout (ι : Type) where
  seq : ι
  pre : List ι
  suf : List ι
  seq_notMem : seq ∉ pre ++ suf
  cover : ∀ i, i ≠ seq → i ∈ pre ++ suf

abbrev Frame (ι : Type) (w : Nat) := ι → BitVec w

inductive Writer (ι : Type) (w : Nat) where
  /-- No writer runs, or it runs and publishes nothing. -/
  | idle
  /-- `f` is to be published and the sequence word was read as `seq`. -/
  | loaded (f : Frame ι w) (seq : BitVec w)
  /-- The odd sequence word `odd` is stored; the words of `pre`, then those of `suf`, are still to be
      copied from `f`. -/
  | copying (f : Frame ι w) (odd : BitVec w) (pre suf : List ι)

inductive Reader (ι : Type) (w : Nat) where
  | idle
  /-- The sequence word was read as `seq`, when `begun` publications had begun and `completed` had been
      completed; the words of `todo` are still to be copied into `cand`. -/
  | copying (seq : BitVec w) (begun completed : Nat) (cand : Frame ι w) (todo : List ι)

/-- A copy that a reader kept, with the publications begun and completed while it was made. -/
structure Accepted (ι : Type) (w : Nat) where
  snapshot : Frame ι w
  begun : Nat
  completed : Nat

structure State (ι ρ : Type) (w : Nat) where
  shared : Frame ι w
  writer : Writer ι w
  readers : ρ → Reader ι w
  published : List (Frame ι w)
  accepted : List (Accepted ι w)
  /-- Publications begun: odd stores so far. -/
  begun : Nat
  /-- Publications completed: even stores so far. -/
  completed : Nat

section
variable {ι ρ : Type} [DecidableEq ι] [DecidableEq ρ] {w : Nat}
variable (L : Layout ι) (valid : Frame ι w → Bool)

/-- The words that `f` and `g` hold outside the sequence word are the same. -/
def Agree (f g : Frame ι w) : Prop := ∀ i, i ≠ L.seq → f i = g i

/-- One step of the writer or of one reader. A reader may give up an attempt at any time. -/
inductive Step : State ι ρ w → State ι ρ w → Prop
  | load {s} (f : Frame ι w) : s.writer = .idle →
      Step s { s with writer := .loaded f (s.shared L.seq), published := s.published ++ [f] }
  | oddStore {s f seq} : s.writer = .loaded f seq →
      Step s { s with
        shared := Function.update s.shared L.seq ((seq + 1) ||| 1)
        writer := .copying f ((seq + 1) ||| 1) L.pre L.suf
        begun := s.begun + 1 }
  | copyPre {s f odd pre suf i} : s.writer = .copying f odd pre suf → i ∈ pre →
      Step s { s with
        shared := Function.update s.shared i (f i), writer := .copying f odd (pre.erase i) suf }
  | copySuf {s f odd suf i} : s.writer = .copying f odd [] suf → i ∈ suf →
      Step s { s with
        shared := Function.update s.shared i (f i), writer := .copying f odd [] (suf.erase i) }
  | evenStore {s f odd} : s.writer = .copying f odd [] [] →
      Step s { s with
        shared := Function.update s.shared L.seq (odd + 1), writer := .idle
        completed := s.completed + 1 }
  | die {s} : Step s { s with writer := .idle }
  | readerLoad {s r todo} (cand : Frame ι w) : s.readers r = .idle → (s.shared L.seq).toNat % 2 = 0 →
      (∀ i, i ≠ L.seq → i ∈ todo) →
      Step s { s with
        readers := Function.update s.readers r (.copying (s.shared L.seq) s.begun s.completed cand todo) }
  | readerCopy {s r seq b c cand todo i} : s.readers r = .copying seq b c cand todo → i ∈ todo →
      Step s { s with
        readers := Function.update s.readers r
          (.copying seq b c (Function.update cand i (s.shared i)) (todo.erase i)) }
  | readerAccept {s r seq b c cand} : s.readers r = .copying seq b c cand [] → s.shared L.seq = seq →
      valid cand = true →
      Step s { s with
        readers := Function.update s.readers r .idle
        accepted := s.accepted ++ [⟨cand, s.begun - b, s.completed - c⟩] }
  | readerGiveUp {s r} : Step s { s with readers := Function.update s.readers r .idle }

def start (init : Frame ι w) : State ι ρ w :=
  { shared := init, writer := .idle, readers := fun _ => .idle, published := [], accepted := [],
    begun := 0, completed := 0 }

inductive Reachable (init : Frame ι w) : State ι ρ w → Prop
  | start : Reachable init (start init)
  | step {s t} : Reachable init s → Step L valid s t → Reachable init t

end

/-! ### The sequence word -/

section Sequence
variable {w : Nat}

/-- The sequence word after `n` publications were begun and none is open. -/
def even (w n : Nat) : BitVec w := BitVec.ofNat w (2 * n)

theorem two_dvd (hw : 0 < w) : 2 ∣ 2 ^ w := by
  obtain ⟨k, rfl⟩ := Nat.exists_eq_succ_of_ne_zero hw.ne'
  exact ⟨2 ^ k, by rw [Nat.pow_succ, Nat.mul_comm]⟩

theorem even_parity (hw : 0 < w) (n : Nat) : (even w n).toNat % 2 = 0 := by
  rw [even, BitVec.toNat_ofNat, Nat.mod_mod_of_dvd _ (two_dvd hw)]
  omega

theorem toNat_one (hw : 0 < w) : (1 : BitVec w).toNat = 1 := by
  have : 1 < 2 ^ w := Nat.one_lt_two_pow hw.ne'
  simp [BitVec.toNat_ofNat, Nat.mod_eq_of_lt this]

theorem toNat_add_one_parity (hw : 0 < w) (x : BitVec w) : (x + 1).toNat % 2 = (x.toNat + 1) % 2 := by
  rw [BitVec.toNat_add, toNat_one hw, Nat.mod_mod_of_dvd _ (two_dvd hw)]

theorem nat_or_one (x : Nat) : x ||| 1 = 2 * (x / 2) + 1 := by
  refine Nat.eq_of_testBit_eq fun i => ?_
  cases i with
  | zero => simp
  | succ i => rw [Nat.testBit_succ, Nat.testBit_succ, Nat.or_div_two, Nat.mul_add_div Nat.zero_lt_two]; simp

theorem toNat_or_one (hw : 0 < w) (x : BitVec w) : (x ||| 1).toNat = 2 * (x.toNat / 2) + 1 := by
  rw [BitVec.toNat_or, toNat_one hw, nat_or_one]

theorem or_one_of_odd (hw : 0 < w) {x : BitVec w} (h : x.toNat % 2 = 1) : x ||| 1 = x := by
  apply BitVec.eq_of_toNat_eq
  rw [toNat_or_one hw]
  omega

theorem or_one_of_even (hw : 0 < w) {x : BitVec w} (h : x.toNat % 2 = 0) : x ||| 1 = x + 1 := by
  apply BitVec.eq_of_toNat_eq
  have hlt := x.isLt
  obtain ⟨k, hk⟩ := two_dvd hw
  rw [toNat_or_one hw, BitVec.toNat_add, toNat_one hw, Nat.mod_eq_of_lt (by omega)]
  omega

theorem even_succ (n : Nat) : even w (n + 1) = even w n + 1 + 1 := by
  unfold even
  rw [Nat.mul_add, BitVec.ofNat_add, BitVec.add_assoc]
  congr 1
  apply BitVec.eq_of_toNat_eq
  simp [BitVec.toNat_ofNat, BitVec.toNat_add]

/-- Distinct counts less than `2 ^ (w - 1)` apart have distinct even words. -/
theorem even_inj (hw : 0 < w) {m n : Nat} (hle : m ≤ n) (hlt : n - m < 2 ^ (w - 1)) (h : even w m = even w n) :
    m = n := by
  have hmod : 2 * m % 2 ^ w = 2 * n % 2 ^ w := by
    have := congrArg BitVec.toNat h
    rwa [even, even, BitVec.toNat_ofNat, BitVec.toNat_ofNat] at this
  have hpow : 2 ^ w = 2 * 2 ^ (w - 1) := by
    rw [← Nat.pow_succ', Nat.succ_eq_add_one, Nat.sub_add_cancel hw]
  rw [hpow, Nat.mul_mod_mul_left, Nat.mul_mod_mul_left] at hmod
  have hmod' : m % 2 ^ (w - 1) = n % 2 ^ (w - 1) := by omega
  have hdvd : 2 ^ (w - 1) ∣ n - m := (Nat.modEq_iff_dvd' hle).mp hmod'
  have hzero := Nat.eq_zero_of_dvd_of_lt hdvd hlt
  omega

/-- The odd store closes with the next even word, whether it finds an even word or the odd word that a
    dead writer left. -/
theorem odd_add_one (hw : 0 < w) {seq : BitVec w} {n : Nat} (h : seq = even w n ∨ seq + 1 = even w n) :
    ((seq + 1) ||| 1) + 1 = even w (n + 1) := by
  rw [even_succ]
  rcases h with rfl | h
  · have hodd : (even w n + 1).toNat % 2 = 1 := by
      rw [toNat_add_one_parity hw, Nat.add_mod, even_parity hw]
    rw [or_one_of_odd hw hodd]
  · have heven : (seq + 1).toNat % 2 = 0 := by rw [h]; exact even_parity hw n
    rw [or_one_of_even hw heven, h]

theorem odd_of_add_one (hw : 0 < w) {x : BitVec w} {n : Nat} (h : x + 1 = even w n) : x.toNat % 2 = 1 := by
  have hpar := toNat_add_one_parity hw x
  rw [h, even_parity hw] at hpar
  omega

end Sequence

/-! ### The invariant -/

section Invariant
variable {ι ρ : Type} {w : Nat} {L : Layout ι} {init : Frame ι w} {s t : State ι ρ w}

/-- No publication is open: the sequence word is even, and the words are `init` or one published frame. -/
structure Quiet (L : Layout ι) (init : Frame ι w) (s : State ι ρ w) : Prop where
  seq : s.shared L.seq = even w s.begun
  frame : Agree L s.shared init ∨ ∃ f ∈ s.published, Agree L s.shared f

/-- No publication is open, or one was left or is still open under an odd sequence word. -/
def QuietOrTorn (L : Layout ι) (init : Frame ι w) (s : State ι ρ w) : Prop :=
  Quiet L init s ∨ s.shared L.seq + 1 = even w s.begun

/-- What the writer's control state says about the shared words. -/
def WriterInv (L : Layout ι) (init : Frame ι w) (s : State ι ρ w) : Prop :=
  match s.writer with
  | .idle => QuietOrTorn L init s
  | .loaded f seq => f ∈ s.published ∧ seq = s.shared L.seq ∧ QuietOrTorn L init s
  | .copying f odd pre suf => f ∈ s.published ∧ odd = s.shared L.seq ∧ odd + 1 = even w s.begun ∧
      L.seq ∉ pre ++ suf ∧ ∀ i, i ≠ L.seq → i ∉ pre ++ suf → s.shared i = f i

/-- A reader read an even word after `b` publications; while none begins, the words it copied are still
    the shared ones. -/
def ReaderInv (L : Layout ι) (init : Frame ι w) (s : State ι ρ w) : Reader ι w → Prop
  | .idle => True
  | .copying seq b _ cand todo => b ≤ s.begun ∧ seq = even w b ∧
      (b = s.begun → Quiet L init s ∧ ∀ i, i ≠ L.seq → i ∉ todo → cand i = s.shared i)

structure Inv (L : Layout ι) (init : Frame ι w) (s : State ι ρ w) : Prop where
  writer : WriterInv L init s
  readers : ∀ r, ReaderInv L init s (s.readers r)
  accepted : ∀ a ∈ s.accepted, a.begun < 2 ^ (w - 1) → ∃ f ∈ s.published, Agree L a.snapshot f

theorem Quiet.of_shared (h : Quiet L init s) (hs : t.shared = s.shared) (hb : t.begun = s.begun)
    (hp : s.published ⊆ t.published) : Quiet L init t where
  seq := by rw [hs, hb]; exact h.seq
  frame := by
    rcases h.frame with hf | ⟨f, hf, hag⟩
    · exact Or.inl (hs ▸ hf)
    · exact Or.inr ⟨f, hp hf, hs ▸ hag⟩

theorem QuietOrTorn.of_shared (h : QuietOrTorn L init s) (hs : t.shared = s.shared) (hb : t.begun = s.begun)
    (hp : s.published ⊆ t.published) : QuietOrTorn L init t := by
  rcases h with h | h
  · exact Or.inl (h.of_shared hs hb hp)
  · exact Or.inr (by rw [hs, hb]; exact h)

theorem WriterInv.of_reader (h : WriterInv L init s) (hw : t.writer = s.writer) (hs : t.shared = s.shared)
    (hb : t.begun = s.begun) (hp : t.published = s.published) : WriterInv L init t := by
  have hsub : s.published ⊆ t.published := hp ▸ List.Subset.refl _
  unfold WriterInv at h ⊢
  rw [hw]
  cases hwr : s.writer with
  | idle =>
    rw [hwr] at h
    exact h.of_shared hs hb hsub
  | loaded f seq =>
    rw [hwr] at h
    exact ⟨hsub h.1, hs ▸ h.2.1, h.2.2.of_shared hs hb hsub⟩
  | copying f odd pre suf =>
    rw [hwr] at h
    exact ⟨hsub h.1, hs ▸ h.2.1, hb ▸ h.2.2.1, h.2.2.2.1, hs ▸ h.2.2.2.2⟩

theorem WriterInv.quietOrTorn (h : WriterInv L init s) : QuietOrTorn L init s := by
  unfold WriterInv at h
  cases hw : s.writer with
  | idle => rw [hw] at h; exact h
  | loaded f seq => rw [hw] at h; exact h.2.2
  | copying f odd pre suf =>
    rw [hw] at h
    obtain ⟨-, rfl, hodd, -⟩ := h
    exact Or.inr hodd

/-- An even sequence word is found only while no publication is open. -/
theorem WriterInv.quiet (hw : 0 < w) (h : WriterInv L init s) (heven : (s.shared L.seq).toNat % 2 = 0) :
    Quiet L init s := by
  rcases h.quietOrTorn with hq | ht
  · exact hq
  · have := odd_of_add_one hw ht
    omega

theorem WriterInv.torn {f : Frame ι w} {odd : BitVec w} {pre suf : List ι} (h : WriterInv L init s)
    (hs : s.writer = .copying f odd pre suf) : s.shared L.seq + 1 = even w s.begun := by
  unfold WriterInv at h
  rw [hs] at h
  rw [← h.2.1]
  exact h.2.2.1

/-- A publication that begins makes every attempt under way an old one. -/
theorem ReaderInv.of_begun {x : Reader ι w} (h : ReaderInv L init s x) (hlt : s.begun < t.begun) :
    ReaderInv L init t x := by
  cases x with
  | idle => trivial
  | copying seq b c cand todo => exact ⟨by have := h.1; omega, h.2.1, fun hb => by have := h.1; omega⟩

/-- While a publication is open, no attempt dates from the present count. -/
theorem ReaderInv.of_torn (hw : 0 < w) {x : Reader ι w} (h : ReaderInv L init s x)
    (htorn : s.shared L.seq + 1 = even w s.begun) (hb : t.begun = s.begun) : ReaderInv L init t x := by
  cases x with
  | idle => trivial
  | copying seq b c cand todo =>
    refine ⟨hb ▸ h.1, h.2.1, fun heq => ?_⟩
    have hq := (h.2.2 (heq.trans hb)).1.seq
    have hodd := odd_of_add_one hw htorn
    rw [hq, even_parity hw] at hodd
    cases hodd

theorem ReaderInv.of_shared {x : Reader ι w} (h : ReaderInv L init s x) (hs : t.shared = s.shared)
    (hb : t.begun = s.begun) (hp : s.published ⊆ t.published) : ReaderInv L init t x := by
  cases x with
  | idle => trivial
  | copying seq b c cand todo =>
    refine ⟨hb ▸ h.1, h.2.1, fun heq => ?_⟩
    obtain ⟨hq, hc⟩ := h.2.2 (heq.trans hb)
    exact ⟨hq.of_shared hs hb hp, fun i hi ht => by rw [hs]; exact hc i hi ht⟩

theorem Inv.accepted_mono (h : Inv L init s) (ha : t.accepted = s.accepted) (hp : s.published ⊆ t.published) :
    ∀ a ∈ t.accepted, a.begun < 2 ^ (w - 1) → ∃ f ∈ t.published, Agree L a.snapshot f := fun a hm hlt => by
  obtain ⟨f, hf, hag⟩ := h.accepted a (ha ▸ hm) hlt
  exact ⟨f, hp hf, hag⟩

theorem Inv.accepted_frame {valid : Frame ι w → Bool} (hw : 0 < w)
    (hinit : ∀ f, Agree L f init → valid f = false) (h : Inv L init s) {r : ρ} {seq : BitVec w} {b c : Nat}
    {cand : Frame ι w} (hr : s.readers r = .copying seq b c cand []) (hseq : s.shared L.seq = seq)
    (hvalid : valid cand = true) (hlt : s.begun - b < 2 ^ (w - 1)) : ∃ f ∈ s.published, Agree L cand f := by
  have hri := h.readers r
  rw [hr] at hri
  obtain ⟨hle, hsb, hcopied⟩ := hri
  -- The word is even again, so no publication is open and its count is the one of the first load.
  have hquiet : Quiet L init s := h.writer.quiet hw (by rw [hseq, hsb]; exact even_parity hw b)
  have hb : b = s.begun := even_inj hw hle hlt (by rw [← hsb, ← hseq]; exact hquiet.seq)
  have hcand : Agree L cand s.shared := fun i hi => (hcopied hb).2 i hi List.not_mem_nil
  rcases hquiet.frame with hi | ⟨f, hf, hag⟩
  · have := hinit cand fun i hne => (hcand i hne).trans (hi i hne)
    rw [hvalid] at this
    cases this
  · exact ⟨f, hf, fun i hi => (hcand i hi).trans (hag i hi)⟩

theorem start_inv (hzero : init L.seq = 0) : Inv L init (start init : State ι ρ w) where
  writer := Or.inl ⟨hzero, Or.inl fun _ _ => rfl⟩
  readers := fun _ => trivial
  accepted := fun _ ha => absurd ha List.not_mem_nil

end Invariant

/-! ### Every step keeps it -/

section Lists
variable {ι : Type} [DecidableEq ι]

theorem not_mem_of_erase {l : List ι} {i j : ι} (hne : j ≠ i) (h : j ∉ l.erase i) : j ∉ l := fun hm =>
  h ((List.mem_erase_of_ne hne).mpr hm)

variable {w : Nat} {L : Layout ι} {init : Frame ι w} {ρ : Type} {s : State ι ρ w}

theorem WriterInv.copy {f : Frame ι w} {odd : BitVec w} {pre suf pre' suf' : List ι} {i : ι}
    (h : WriterInv L init s) (hs : s.writer = .copying f odd pre suf) (hi : i ∈ pre ++ suf)
    (hsub : pre' ++ suf' ⊆ pre ++ suf) (hdone : ∀ j, j ≠ i → j ∉ pre' ++ suf' → j ∉ pre ++ suf) :
    WriterInv L init { s with
      shared := Function.update s.shared i (f i), writer := .copying f odd pre' suf' } := by
  unfold WriterInv at h
  rw [hs] at h
  obtain ⟨hf, hodd, hadd, hnot, hcopied⟩ := h
  have hne : L.seq ≠ i := fun he => hnot (he ▸ hi)
  refine ⟨hf, ?_, hadd, fun hm => hnot (hsub hm), fun j hj hm => ?_⟩
  · exact hodd.trans (Function.update_of_ne hne _ _).symm
  · show Function.update s.shared i (f i) j = f j
    by_cases hji : j = i
    · rw [hji, Function.update_self]
    · rw [Function.update_of_ne hji]
      exact hcopied j hj (hdone j hji hm)

end Lists

section Readers
variable {ι ρ : Type} [DecidableEq ρ] {w : Nat} {L : Layout ι} {init : Frame ι w} {s t : State ι ρ w}

theorem update_readers {r : ρ} {x : Reader ι w} (h : ∀ r, ReaderInv L init t (s.readers r))
    (hx : ReaderInv L init t x) : ∀ r', ReaderInv L init t (Function.update s.readers r x r') := fun r' => by
  by_cases hr : r' = r
  · rw [hr, Function.update_self]
    exact hx
  · rw [Function.update_of_ne hr]
    exact h r'

theorem Inv.reader_step (h : Inv L init s) {r : ρ} {x : Reader ι w}
    (hx : ReaderInv L init { s with readers := Function.update s.readers r x } x) :
    Inv L init { s with readers := Function.update s.readers r x } where
  writer := h.writer.of_reader rfl rfl rfl rfl
  readers := update_readers (fun r' => (h.readers r').of_shared rfl rfl (List.Subset.refl _)) hx
  accepted := h.accepted

end Readers

section Steps
variable {ι ρ : Type} [DecidableEq ι] [DecidableEq ρ] {w : Nat} {L : Layout ι} {init : Frame ι w}
variable {valid : Frame ι w → Bool} {s t : State ι ρ w}

theorem Step.inv (hw : 0 < w) (hinit : ∀ f, Agree L f init → valid f = false) (h : Inv L init s)
    (hs : Step L valid s t) : Inv L init t := by
  have hsame : s.published ⊆ s.published := List.Subset.refl _
  cases hs with
  | load f hidle =>
    have hp : s.published ⊆ s.published ++ [f] := List.subset_append_left _ _
    exact
      { writer := ⟨by simp, rfl, h.writer.quietOrTorn.of_shared rfl rfl hp⟩
        readers := fun r => (h.readers r).of_shared rfl rfl hp
        accepted := h.accepted_mono rfl hp }
  | @oddStore f seq hl =>
    have hwr := h.writer
    unfold WriterInv at hwr
    rw [hl] at hwr
    obtain ⟨hf, hseq, hqt⟩ := hwr
    -- A writer that died may have left the word odd, and then `||| 1` leaves it as it is.
    have hnext : ((seq + 1) ||| 1) + 1 = even w (s.begun + 1) := odd_add_one hw <| by
      rw [hseq]
      exact hqt.imp (fun q => q.seq) id
    refine ⟨⟨hf, ?_, hnext, L.seq_notMem, fun i hi hm => absurd (L.cover i hi) hm⟩,
      fun r => (h.readers r).of_begun (Nat.lt_succ_self _), h.accepted_mono rfl hsame⟩
    show (seq + 1) ||| 1 = Function.update s.shared L.seq ((seq + 1) ||| 1) L.seq
    rw [Function.update_self]
  | @copyPre f odd pre suf i hc hi =>
    -- The word that is erased is copied now; every other word is as it was.
    have hsub : pre.erase i ++ suf ⊆ pre ++ suf := fun j hj => by
      rw [List.mem_append] at hj ⊢
      exact hj.imp_left List.mem_of_mem_erase
    have hdone : ∀ j, j ≠ i → j ∉ pre.erase i ++ suf → j ∉ pre ++ suf := fun j hj hm => by
      rw [List.mem_append, not_or] at hm ⊢
      exact ⟨not_mem_of_erase hj hm.1, hm.2⟩
    exact ⟨h.writer.copy hc (List.mem_append_left _ hi) hsub hdone,
      fun r => (h.readers r).of_torn hw (h.writer.torn hc) rfl, h.accepted_mono rfl hsame⟩
  | @copySuf f odd suf i hc hi =>
    have hsub : [] ++ suf.erase i ⊆ [] ++ suf := fun j hj => List.mem_of_mem_erase hj
    have hdone : ∀ j, j ≠ i → j ∉ [] ++ suf.erase i → j ∉ [] ++ suf := fun j hj hm => not_mem_of_erase hj hm
    exact ⟨h.writer.copy hc (List.mem_append_right _ hi) hsub hdone,
      fun r => (h.readers r).of_torn hw (h.writer.torn hc) rfl, h.accepted_mono rfl hsame⟩
  | @evenStore f odd hc =>
    have hwr := h.writer
    unfold WriterInv at hwr
    rw [hc] at hwr
    obtain ⟨hf, -, hadd, -, hcopied⟩ := hwr
    -- No word is left to copy, so the memory agrees with the frame in all of them.
    refine ⟨Or.inl ⟨?_, Or.inr ⟨f, hf, fun i hi => ?_⟩⟩,
      fun r => (h.readers r).of_torn hw (h.writer.torn hc) rfl, h.accepted_mono rfl hsame⟩
    · exact (Function.update_self _ _ _).trans hadd
    · exact (Function.update_of_ne hi _ _).trans (hcopied i hi List.not_mem_nil)
  | die =>
    exact ⟨h.writer.quietOrTorn.of_shared rfl rfl hsame, fun r => (h.readers r).of_shared rfl rfl hsame, h.accepted⟩
  | @readerLoad r todo cand hr heven htodo =>
    -- The word is even, so no copy is under way.
    have hq := h.writer.quiet hw heven
    exact h.reader_step ⟨Nat.le_refl _, hq.seq, fun _ =>
      ⟨hq.of_shared rfl rfl hsame, fun i hi hm => absurd (htodo i hi) hm⟩⟩
  | @readerCopy r seq b c cand todo i hr hi =>
    have hri := h.readers r
    rw [hr] at hri
    obtain ⟨hle, hseq, hcopied⟩ := hri
    refine h.reader_step ⟨hle, hseq, fun hb => ⟨(hcopied hb).1.of_shared rfl rfl hsame, fun j hj hm => ?_⟩⟩
    -- Nothing was published since the load, so the words copied before are still the shared ones.
    show Function.update cand i (s.shared i) j = s.shared j
    by_cases hji : j = i
    · rw [hji, Function.update_self]
    · rw [Function.update_of_ne hji]
      exact (hcopied hb).2 j hj (not_mem_of_erase hji hm)
  | @readerAccept r seq b c cand hr hseq hvalid =>
    refine ⟨h.writer.of_reader rfl rfl rfl rfl,
      update_readers (fun r' => (h.readers r').of_shared rfl rfl hsame) trivial, fun a ha hlt => ?_⟩
    rcases List.mem_append.mp ha with ha | ha
    · exact h.accepted a ha hlt
    · obtain rfl := List.mem_singleton.mp ha
      exact h.accepted_frame hw hinit hr hseq hvalid hlt
  | readerGiveUp => exact h.reader_step trivial

/-- A copy that was kept while fewer than `2 ^ (w - 1)` publications began is one published frame. -/
theorem Reachable.inv (hw : 0 < w) (hzero : init L.seq = 0) (hinit : ∀ f, Agree L f init → valid f = false)
    (h : Reachable L valid init s) : Inv L init s := by
  induction h with
  | start => exact start_inv hzero
  | step _ hs ih => exact hs.inv hw hinit ih

end Steps
end RadarAim.Seqlock
