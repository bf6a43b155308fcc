import RadarAim.Lib.Prog

/-! Protocols of calls. A protocol is an automaton that is told each call of a program and the reply to it: it knows
    which replies the environment may give, and it refuses a call that is not allowed. A program conforms to it when
    no run of the program meets a refusal. A program of `OptionT` may be cut off at any call, so that what is proved
    of all of them holds of every finite part of a run that need not end. -/

namespace RadarAim

structure Protocol (E : Sig) (σ : Type) where
  /-- The environment may give this reply. -/
  answers : σ → (c : E.Call) → E.Reply c → Prop
  /-- The call is allowed, and the automaton may go on to this state. -/
  next : σ → (c : E.Call) → E.Reply c → σ → Prop

namespace Prog
variable {E : Sig} {σ α β : Type}

/-- From `s` on every call of `p` is allowed, and where `p` ends, `Q` holds of its result and of the state. -/
def Conforms (P : Protocol E σ) (Q : α → σ → Prop) : Prog E α → σ → Prop
  | done a, s => Q a s
  | call c k, s => ∀ r, P.answers s c r → ∃ t, P.next s c r t ∧ Conforms P Q (k r) t

section Conforms
variable {P : Protocol E σ} {Q Q' : α → σ → Prop} {s : σ}

theorem Conforms.pure {a : α} (h : Q a s) : Conforms P Q (Pure.pure a) s := h

theorem Conforms.ask {c : E.Call} {Q : E.Reply c → σ → Prop}
    (h : ∀ r, P.answers s c r → ∃ t, P.next s c r t ∧ Q r t) : Conforms P Q (Prog.ask c) s := h

theorem Conforms.bind {R : β → σ → Prop} {p : Prog E β} {f : β → Prog E α} (hp : Conforms P R p s)
    (hf : ∀ b t, R b t → Conforms P Q (f b) t) : Conforms P Q (p >>= f) s := by
  induction p generalizing s with
  | done b => exact hf b s hp
  | call c k ih =>
    intro r hr
    obtain ⟨t, hnext, ht⟩ := hp r hr
    exact ⟨t, hnext, ih r ht⟩

theorem Conforms.imp {p : Prog E α} (h : Conforms P Q p s) (hQ : ∀ a t, Q a t → Q' a t) : Conforms P Q' p s := by
  induction p generalizing s with
  | done a => exact hQ a s h
  | call c k ih =>
    intro r hr
    obtain ⟨t, hnext, ht⟩ := h r hr
    exact ⟨t, hnext, ih r ht⟩

end Conforms

/-! ### Triples -/

/-- From a state of `pre`, `p` conforms, and if it is not cut off, it ends with a result and a state of `post`. -/
def Obeys (P : Protocol E σ) (pre : σ → Prop) (p : OptionT (Prog E) α) (post : α → σ → Prop) : Prop :=
  ∀ s, pre s → Conforms P (fun o t => ∀ a, o = some a → post a t) p.run s

/-- The call, where the program goes on with the reply. -/
def askFor (c : E.Call) : OptionT (Prog E) (E.Reply c) := OptionT.lift (ask c)

section Obeys
variable {P : Protocol E σ} {pre : σ → Prop} {post : α → σ → Prop}

theorem Obeys.pure {a : α} (h : ∀ s, pre s → post a s) : Obeys P pre (Pure.pure a) post := by
  intro s hs b hb
  cases hb
  exact h s hs

/-- The program is cut off. -/
theorem Obeys.failure : Obeys P pre (failure : OptionT (Prog E) α) post := by
  intro s hs b hb
  cases hb

theorem Obeys.ask {c : E.Call} {post : E.Reply c → σ → Prop}
    (h : ∀ s, pre s → ∀ r, P.answers s c r → ∃ t, P.next s c r t ∧ post r t) : Obeys P pre (askFor c) post := by
  intro s hs r hr
  obtain ⟨t, hnext, ht⟩ := h s hs r hr
  refine ⟨t, hnext, fun a ha => ?_⟩
  cases ha
  exact ht

theorem Obeys.bind {mid : β → σ → Prop} {p : OptionT (Prog E) β} {f : β → OptionT (Prog E) α} (hp : Obeys P pre p mid)
    (hf : ∀ b, Obeys P (mid b) (f b) post) : Obeys P pre (p >>= f) post := by
  intro s hs
  rw [OptionT.run_bind, Option.elimM]
  refine (hp s hs).bind fun o t ht => ?_
  cases o with
  | none => exact fun a ha => (by cases ha)
  | some b => exact hf b t (ht b rfl)

theorem Obeys.map {mid : β → σ → Prop} {p : OptionT (Prog E) β} {f : β → α} (hp : Obeys P pre p mid)
    (hf : ∀ b s, mid b s → post (f b) s) : Obeys P pre (f <$> p) post := by
  rw [← bind_pure_comp]
  exact hp.bind fun b => Obeys.pure (hf b)

theorem Obeys.ite {c : Prop} [Decidable c] {p q : OptionT (Prog E) α} (hp : c → Obeys P pre p post)
    (hq : ¬c → Obeys P pre q post) : Obeys P pre (if c then p else q) post := by
  split
  · exact hp ‹_›
  · exact hq ‹_›

theorem Obeys.imp {pre' : σ → Prop} {post' : α → σ → Prop} {p : OptionT (Prog E) α} (h : Obeys P pre p post)
    (hpre : ∀ s, pre' s → pre s) (hpost : ∀ a s, post a s → post' a s) : Obeys P pre' p post' :=
  fun s hs => (h s (hpre s hs)).imp fun _ t ht a ha => hpost a t (ht a ha)

theorem Obeys.from {pre' : σ → Prop} {p : OptionT (Prog E) α} (h : Obeys P pre p post) (hpre : ∀ s, pre' s → pre s) :
    Obeys P pre' p post :=
  fun s hs => h s (hpre s hs)

end Obeys
end Prog
end RadarAim
