import RadarAim.Lib.Prog

/-! Rules of pre- and postconditions for programs that call their environment and have a state. A triple
    holds whatever the environment answers, so that an environment that changes from call to call needs no
    rules of its own. -/

namespace RadarAim.Prog

section Triple
variable {E : Sig} {σ α β : Type}

/-- From a state of `P`, `p` ends with a result and a state of `Q`, whatever the environment answers. -/
def Triple (P : σ → Prop) (p : StateT σ (Prog E) α) (Q : α → σ → Prop) : Prop :=
  ∀ s, P s → ∀ (h : Nat → Handler E) n, Q ((p.run s).eval h n).1.1 ((p.run s).eval h n).1.2

abbrev Keeps (P : σ → Prop) (p : StateT σ (Prog E) α) : Prop := Triple P p fun _ => P

variable {P : σ → Prop} {Q : α → σ → Prop}

theorem Triple.pure {a : α} (h : ∀ s, P s → Q a s) : Triple (E := E) P (Pure.pure a) Q :=
  fun s hs _ _ => h s hs

theorem Triple.bind {R : β → σ → Prop} {p : StateT σ (Prog E) β} {f : β → StateT σ (Prog E) α} (hp : Triple P p R)
    (hf : ∀ b, Triple (R b) (f b) Q) : Triple P (p >>= f) Q := by
  intro s hs h n
  rw [StateT.run_bind, eval_bind]
  exact hf _ _ (hp s hs h n) h _

theorem Triple.lift (p : Prog E α) (h : ∀ a s, P s → Q a s) :
    Triple P (liftM p : StateT σ (Prog E) α) Q := by
  intro s hs g n
  show Q (((StateT.lift p).run s).eval g n).1.1 (((StateT.lift p).run s).eval g n).1.2
  rw [StateT.run_lift, eval_bind]
  exact h _ s hs

theorem Triple.get {Q : σ → σ → Prop} (h : ∀ s, P s → Q s s) : Triple (E := E) P MonadState.get Q :=
  fun s hs _ _ => h s hs

/-- The state that was read is the state that the rest begins in. -/
theorem Triple.bindGet {f : σ → StateT σ (Prog E) α} (h : ∀ s, P s → Triple (fun t => t = s ∧ P t) (f s) Q) :
    Triple P (MonadState.get >>= f) Q := by
  refine Triple.bind (R := fun s t => t = s ∧ P t) (Triple.get fun s hs => ⟨rfl, hs⟩) fun s => ?_
  intro t ht
  exact h s (ht.1 ▸ ht.2) t ht

/-- Of the state that was read, only what `P` says is needed. -/
theorem Triple.getThen {f : σ → StateT σ (Prog E) α} (h : ∀ s, P s → Triple P (f s) Q) :
    Triple P (MonadState.get >>= f) Q :=
  Triple.bindGet fun s hs t ht => h s hs t ht.2

theorem Triple.modify {f : σ → σ} {Q : PUnit → σ → Prop} (h : ∀ s, P s → Q ⟨⟩ (f s)) :
    Triple (E := E) P (modify f) Q :=
  fun s hs _ _ => h s hs

theorem Triple.ite {c : Prop} [Decidable c] {p q : StateT σ (Prog E) α} (hp : c → Triple P p Q)
    (hq : ¬c → Triple P q Q) : Triple P (if c then p else q) Q := by
  split
  · exact hp ‹_›
  · exact hq ‹_›

theorem Triple.imp {P' : σ → Prop} {Q' : α → σ → Prop} {p : StateT σ (Prog E) α} (h : Triple P p Q)
    (hP : ∀ s, P' s → P s) (hQ : ∀ a s, Q a s → Q' a s) : Triple P' p Q' :=
  fun s hs g n => hQ _ _ (h s (hP s hs) g n)

theorem Triple.and {P' : σ → Prop} {Q' : α → σ → Prop} {p : StateT σ (Prog E) α} (h : Triple P p Q)
    (h' : Triple P' p Q') : Triple (fun s => P s ∧ P' s) p fun a s => Q a s ∧ Q' a s :=
  fun s hs g n => ⟨h s hs.1 g n, h' s hs.2 g n⟩

theorem Keeps.lift (p : Prog E α) : Keeps P (liftM p : StateT σ (Prog E) α) := Triple.lift p fun _ _ hs => hs

theorem Keeps.modify {f : σ → σ} (h : ∀ s, P s → P (f s)) : Keeps (E := E) P (modify f) := Triple.modify h

/-- What holds of the result alone is known while the rest runs. -/
theorem Triple.bindGiven {S : σ → Prop} {R : β → Prop} {p : StateT σ (Prog E) β} {f : β → StateT σ (Prog E) α}
    (hp : Triple P p fun b s => S s ∧ R b) (hf : ∀ b, R b → Triple S (f b) Q) : Triple P (p >>= f) Q :=
  Triple.bind hp fun b s hs => hf b hs.2 s hs.1

/-- `X` holds of the result of `p`, whatever the state is that it begins in. -/
def Yields (p : StateT σ (Prog E) α) (X : α → Prop) : Prop := Triple (fun _ => True) p fun a _ => X a

theorem Yields.pure {X : α → Prop} {a : α} (h : X a) : Yields (E := E) (σ := σ) (Pure.pure a) X :=
  Triple.pure fun _ _ => h

theorem Yields.any (p : StateT σ (Prog E) α) : Yields p fun _ => True := fun _ _ _ _ => trivial

theorem Yields.bind {R : β → Prop} {X : α → Prop} {p : StateT σ (Prog E) β} {f : β → StateT σ (Prog E) α}
    (hp : Yields p R) (hf : ∀ b, R b → Yields (f b) X) : Yields (p >>= f) X :=
  Triple.bindGiven (S := fun _ => True) (hp.imp (fun _ hs => hs) fun _ _ hb => ⟨trivial, hb⟩) hf

/-- `P` holds of the result of `p`, whatever the environment answers. -/
def Returns (p : Prog E α) (P : α → Prop) : Prop := ∀ (h : Nat → Handler E) n, P (p.eval h n).1

theorem Returns.pure {P : α → Prop} {a : α} (h : P a) : Returns (E := E) (Pure.pure a) P := fun _ _ => h

theorem Returns.bind {R : β → Prop} {P : α → Prop} {p : Prog E β} {f : β → Prog E α} (hp : Returns p R)
    (hf : ∀ b, R b → Returns (f b) P) : Returns (p >>= f) P := by
  intro h n
  rw [eval_bind]
  exact hf _ (hp h n) h _

theorem Returns.any (p : Prog E α) : Returns p fun _ => True := fun _ _ => trivial

theorem Triple.read {p : Prog E α} {P : α → Prop} {S : σ → Prop} (hp : Returns p P) :
    Triple S (liftM p : StateT σ (Prog E) α) fun a s => S s ∧ P a := by
  intro s hs g n
  show S (((StateT.lift p).run s).eval g n).1.2 ∧ P (((StateT.lift p).run s).eval g n).1.1
  rw [StateT.run_lift, eval_bind]
  exact ⟨hs, hp g n⟩

end Triple

/-! ### One environment -/

section TripleOn
variable {E : Sig} {σ α β : Type} {P : σ → Prop} {Q : α → σ → Prop}

/-- A triple for the environment `h`, whatever calls were made before. -/
def TripleOn (h : Nat → Handler E) (P : σ → Prop) (p : StateT σ (Prog E) α) (Q : α → σ → Prop) : Prop :=
  ∀ s, P s → ∀ n, Q ((p.run s).eval h n).1.1 ((p.run s).eval h n).1.2

theorem Triple.on {p : StateT σ (Prog E) α} (hp : Triple P p Q) (h : Nat → Handler E) : TripleOn h P p Q :=
  fun s hs n => hp s hs h n

variable {h : Nat → Handler E}

theorem TripleOn.bind {R : β → σ → Prop} {p : StateT σ (Prog E) β} {f : β → StateT σ (Prog E) α}
    (hp : TripleOn h P p R) (hf : ∀ b, TripleOn h (R b) (f b) Q) : TripleOn h P (p >>= f) Q := by
  intro s hs n
  rw [StateT.run_bind, eval_bind]
  exact hf _ _ (hp s hs n) _

theorem TripleOn.lift (p : Prog E α) (hp : ∀ n s, P s → Q (p.eval h n).1 s) :
    TripleOn h P (liftM p : StateT σ (Prog E) α) Q := by
  intro s hs n
  show Q (((StateT.lift p).run s).eval h n).1.1 (((StateT.lift p).run s).eval h n).1.2
  rw [StateT.run_lift, eval_bind]
  exact hp _ s hs

theorem TripleOn.bindGet {f : σ → StateT σ (Prog E) α} (hf : ∀ s, P s → TripleOn h (fun t => t = s ∧ P t) (f s) Q) :
    TripleOn h P (MonadState.get >>= f) Q :=
  fun s hs n => hf s hs s ⟨rfl, hs⟩ n

theorem TripleOn.ite {c : Prop} [Decidable c] {p q : StateT σ (Prog E) α} (hp : c → TripleOn h P p Q)
    (hq : ¬c → TripleOn h P q Q) : TripleOn h P (if c then p else q) Q := by
  split
  · exact hp ‹_›
  · exact hq ‹_›

theorem TripleOn.imp {P' : σ → Prop} {Q' : α → σ → Prop} {p : StateT σ (Prog E) α} (hp : TripleOn h P p Q)
    (hP : ∀ s, P' s → P s) (hQ : ∀ a s, Q a s → Q' a s) : TripleOn h P' p Q' :=
  fun s hs n => hQ _ _ (hp s (hP s hs) n)

/-- A fact that is not about the state. -/
theorem TripleOn.given {c : Prop} {p : StateT σ (Prog E) α} (hp : c → TripleOn h P p Q) :
    TripleOn h (fun s => P s ∧ c) p Q :=
  fun s hs n => hp hs.2 s hs.1 n

end TripleOn
end RadarAim.Prog
