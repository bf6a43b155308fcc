import RadarAim.Lib.Triple

/-! Two programs side by side. One simulates the other when from related states, against the same environment, both
    make as many calls and end with related results in related states: they then also go on alike. -/

namespace RadarAim.Prog

section Simulates
variable {E : Sig} {σ τ α β γ δ : Type}

def Simulates (R : σ → τ → Prop) (p : StateT σ (Prog E) α) (q : StateT τ (Prog E) β)
    (S : α → β → σ → τ → Prop) : Prop :=
  ∀ s t, R s t → ∀ (h : Nat → Handler E) n,
    ((p.run s).eval h n).2 = ((q.run t).eval h n).2 ∧
      S ((p.run s).eval h n).1.1 ((q.run t).eval h n).1.1 ((p.run s).eval h n).1.2 ((q.run t).eval h n).1.2

variable {R : σ → τ → Prop} {S : α → β → σ → τ → Prop}

theorem Simulates.pure {a : α} {b : β} (h : ∀ s t, R s t → S a b s t) :
    Simulates (E := E) R (Pure.pure a) (Pure.pure b) S :=
  fun s t hst _ _ => ⟨rfl, h s t hst⟩

theorem Simulates.bind {T : γ → δ → σ → τ → Prop} {p : StateT σ (Prog E) γ} {q : StateT τ (Prog E) δ}
    {f : γ → StateT σ (Prog E) α} {g : δ → StateT τ (Prog E) β} (hp : Simulates R p q T)
    (hf : ∀ c d, Simulates (T c d) (f c) (g d) S) : Simulates R (p >>= f) (q >>= g) S := by
  intro s t hst h n
  obtain ⟨hcalls, hrelated⟩ := hp s t hst h n
  rw [StateT.run_bind, eval_bind, StateT.run_bind, eval_bind, ← hcalls]
  exact hf _ _ _ _ hrelated h _

/-- One step of the one program, two of the other. -/
theorem Simulates.bindTwo {ε : Type} {T : γ → ε → σ → τ → Prop} {p : StateT σ (Prog E) γ} {q : StateT τ (Prog E) δ}
    {q' : δ → StateT τ (Prog E) ε} {f : γ → StateT σ (Prog E) α} {g : ε → StateT τ (Prog E) β}
    (hp : Simulates R p (q >>= q') T) (hf : ∀ c d, Simulates (T c d) (f c) (g d) S) :
    Simulates R (p >>= f) (q >>= fun d => q' d >>= g) S := by
  rw [← LawfulMonad.bind_assoc]
  exact hp.bind hf

/-- The other program ends with a function of its result. -/
theorem Simulates.thenPure {T : α → δ → σ → τ → Prop} {p : StateT σ (Prog E) α} {q : StateT τ (Prog E) δ} {g : δ → β}
    (hp : Simulates R p q T) (h : ∀ a d s t, T a d s t → S a (g d) s t) :
    Simulates R p (q >>= fun d => Pure.pure (g d)) S := by
  intro s t hst k n
  obtain ⟨hcalls, hrelated⟩ := hp s t hst k n
  rw [StateT.run_bind, eval_bind]
  exact ⟨hcalls, h _ _ _ _ hrelated⟩

/-- The other program ends by storing its result. -/
theorem Simulates.thenModify {T : α → δ → σ → τ → Prop} {p : StateT σ (Prog E) α} {q : StateT τ (Prog E) δ}
    {g : δ → τ → τ} {S : α → PUnit → σ → τ → Prop} (hp : Simulates R p q T)
    (h : ∀ a d s t, T a d s t → S a ⟨⟩ s (g d t)) : Simulates R p (q >>= fun d => modify (g d)) S := by
  intro s t hst k n
  obtain ⟨hcalls, hrelated⟩ := hp s t hst k n
  rw [StateT.run_bind, eval_bind]
  exact ⟨hcalls, h _ _ _ _ hrelated⟩

/-- Equal results. -/
theorem Simulates.bindSame {T : σ → τ → Prop} {p : StateT σ (Prog E) γ} {q : StateT τ (Prog E) γ}
    {f : γ → StateT σ (Prog E) α} {g : γ → StateT τ (Prog E) β}
    (hp : Simulates R p q fun c d s t => c = d ∧ T s t) (hf : ∀ c, Simulates T (f c) (g c) S) :
    Simulates R (p >>= f) (q >>= g) S := by
  refine hp.bind fun c d s t hst => ?_
  obtain ⟨rfl, ht⟩ := hst
  exact hf c s t ht

/-- The same calls. -/
theorem Simulates.lift (p : Prog E γ) :
    Simulates R (liftM p : StateT σ (Prog E) γ) (liftM p : StateT τ (Prog E) γ) fun c d s t => c = d ∧ R s t := by
  intro s t hst h n
  have hs : (liftM p : StateT σ (Prog E) γ).run s = p >>= fun a => Pure.pure (a, s) := rfl
  have ht : (liftM p : StateT τ (Prog E) γ).run t = p >>= fun a => Pure.pure (a, t) := rfl
  rw [hs, ht, eval_bind, eval_bind]
  exact ⟨rfl, rfl, hst⟩

/-- The same calls, and what is known of their result. -/
theorem Simulates.bindRead {X : γ → Prop} {p : Prog E γ} {f : γ → StateT σ (Prog E) α} {g : γ → StateT τ (Prog E) β}
    (hp : Returns p X) (hf : ∀ c, X c → Simulates R (f c) (g c) S) :
    Simulates R ((liftM p : StateT σ (Prog E) γ) >>= f) ((liftM p : StateT τ (Prog E) γ) >>= g) S := by
  intro s t hst h n
  have hs : (liftM p : StateT σ (Prog E) γ).run s = p >>= fun a => Pure.pure (a, s) := rfl
  have ht : (liftM p : StateT τ (Prog E) γ).run t = p >>= fun a => Pure.pure (a, t) := rfl
  rw [StateT.run_bind, StateT.run_bind, hs, ht, eval_bind, eval_bind, eval_bind, eval_bind]
  exact hf _ (hp h n) s t hst h _

/-- Only these two states. -/
def At (s : σ) (t : τ) (s' : σ) (t' : τ) : Prop := s' = s ∧ t' = t

theorem Simulates.fix {p : StateT σ (Prog E) α} {q : StateT τ (Prog E) β}
    (h : ∀ s t, R s t → Simulates (At s t) p q S) : Simulates R p q S :=
  fun s t hst => h s t hst s t ⟨rfl, rfl⟩

theorem Simulates.from {p : StateT σ (Prog E) α} {q : StateT τ (Prog E) β} (h : Simulates R p q S) {s : σ} {t : τ}
    (hst : R s t) : Simulates (At s t) p q S := by
  rintro s' t' ⟨rfl, rfl⟩
  exact h s' t' hst

/-- A step of the one program that makes no call. -/
theorem Simulates.left {s u : σ} {t : τ} {c : γ} {p : StateT σ (Prog E) γ} {f : γ → StateT σ (Prog E) α}
    {q : StateT τ (Prog E) β} (hp : p.run s = Pure.pure (c, u)) (hf : Simulates (At u t) (f c) q S) :
    Simulates (At s t) (p >>= f) q S := by
  rintro _ _ ⟨rfl, rfl⟩ h n
  rw [StateT.run_bind, hp, pure_bind]
  exact hf _ _ ⟨rfl, rfl⟩ h n

/-- A step of the other program that makes no call. -/
theorem Simulates.right {s : σ} {t u : τ} {c : γ} {p : StateT σ (Prog E) α} {q : StateT τ (Prog E) γ}
    {g : γ → StateT τ (Prog E) β} (hq : q.run t = Pure.pure (c, u)) (hg : Simulates (At s u) p (g c) S) :
    Simulates (At s t) p (q >>= g) S := by
  rintro _ _ ⟨rfl, rfl⟩ h n
  rw [StateT.run_bind, hq, pure_bind]
  exact hg _ _ ⟨rfl, rfl⟩ h n

theorem Simulates.ends {s s' : σ} {t t' : τ} {a : α} {b : β} {p : StateT σ (Prog E) α} {q : StateT τ (Prog E) β}
    (hp : p.run s = Pure.pure (a, s')) (hq : q.run t = Pure.pure (b, t')) (h : S a b s' t') :
    Simulates (At s t) p q S := by
  rintro _ _ ⟨rfl, rfl⟩ g n
  rw [hp, hq]
  exact ⟨rfl, h⟩

theorem Simulates.bindGet {f : σ → StateT σ (Prog E) α} {g : τ → StateT τ (Prog E) β}
    (h : ∀ s t, R s t → Simulates (At s t) (f s) (g t) S) :
    Simulates R (MonadState.get >>= f) (MonadState.get >>= g) S :=
  fun s t hst k n => h s t hst s t ⟨rfl, rfl⟩ k n

theorem Simulates.modify {f : σ → σ} {g : τ → τ} {S : PUnit → PUnit → σ → τ → Prop}
    (h : ∀ s t, R s t → S ⟨⟩ ⟨⟩ (f s) (g t)) : Simulates (E := E) R (modify f) (modify g) S :=
  fun s t hst _ _ => ⟨rfl, h s t hst⟩

theorem Simulates.ite {c d : Prop} [Decidable c] [Decidable d] {p p' : StateT σ (Prog E) α}
    {q q' : StateT τ (Prog E) β} (hcd : c ↔ d) (hp : c → Simulates R p q S) (hq : ¬c → Simulates R p' q' S) :
    Simulates R (if c then p else p') (if d then q else q') S := by
  by_cases hc : c
  · rw [if_pos hc, if_pos (hcd.mp hc)]
    exact hp hc
  · rw [if_neg hc, if_neg (mt hcd.mpr hc)]
    exact hq hc

theorem Simulates.imp {R' : σ → τ → Prop} {S' : α → β → σ → τ → Prop} {p : StateT σ (Prog E) α}
    {q : StateT τ (Prog E) β} (h : Simulates R p q S) (hR : ∀ s t, R' s t → R s t)
    (hS : ∀ a b s t, S a b s t → S' a b s t) : Simulates R' p q S' :=
  fun s t hst g n => ⟨(h s t (hR s t hst) g n).1, hS _ _ _ _ (h s t (hR s t hst) g n).2⟩

/-- A fact that is not about the states. -/
theorem Simulates.given {c : Prop} {p : StateT σ (Prog E) α} {q : StateT τ (Prog E) β} (h : c → Simulates R p q S) :
    Simulates (fun s t => c ∧ R s t) p q S :=
  fun s t hst => h hst.1 s t hst.2

/-- What holds of the one program alone may be added. -/
theorem Simulates.and {P : σ → Prop} {Q : α → σ → Prop} {p : StateT σ (Prog E) α} {q : StateT τ (Prog E) β}
    (h : Simulates R p q S) (hp : Triple P p Q) :
    Simulates (fun s t => R s t ∧ P s) p q fun a b s t => S a b s t ∧ Q a s :=
  fun s t hst g n => ⟨(h s t hst.1 g n).1, (h s t hst.1 g n).2, hp s hst.2 g n⟩

/-- A program that makes no call, by its triple. -/
theorem Triple.of_run {P : σ → Prop} {Q : α → σ → Prop} {p : StateT σ (Prog E) α} {s s' : σ} {a : α}
    (hp : Triple P p Q) (g : Nat → Handler E) (hs : P s) (hrun : p.run s = Pure.pure (a, s')) : Q a s' := by
  have hpost := hp s hs g 0
  rwa [hrun] at hpost

end Simulates

end RadarAim.Prog
