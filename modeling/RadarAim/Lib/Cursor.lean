/-! Searches that are resumed from where they stopped. Each call gives at most one result; what it gives and
    what is left to find after it must make up what was left before. Then the calls until the search is
    finished give all of it, in order. -/

namespace RadarAim.Cursor

section Cursor
variable {σ α : Type} (call : σ → Option α × σ) (finished : σ → Bool)

/-- The results of at most `n` calls, and the state after them; a finished search is not called again. -/
def collect : Nat → σ → List α × σ
  | 0, s => ([], s)
  | n + 1, s =>
    if finished s then ([], s)
    else ((call s).1.toList ++ (collect n (call s).2).1, (collect n (call s).2).2)

/-- On the states of `Inv`, `remaining` is what is left to find, and `work` bounds the calls that are left. -/
structure Accounts (Inv : σ → Prop) (remaining : σ → List α) (work : σ → Nat) : Prop where
  inv : ∀ s, Inv s → finished s = false → Inv (call s).2
  found : ∀ s, Inv s → finished s = false → remaining s = (call s).1.toList ++ remaining (call s).2
  done : ∀ s, Inv s → finished s = true → remaining s = []
  work : ∀ s, Inv s → finished s = false → work (call s).2 < work s

variable {call finished}

/-- The search finishes, and has found what there was. -/
theorem Accounts.collect {Inv : σ → Prop} {remaining : σ → List α} {work : σ → Nat}
    (h : Accounts call finished Inv remaining work) {s : σ} (hs : Inv s) :
    ∃ n, (collect call finished n s).1 = remaining s ∧ finished (collect call finished n s).2 = true := by
  obtain ⟨w, hw⟩ : ∃ w, work s ≤ w := ⟨work s, Nat.le_refl _⟩
  induction w generalizing s with
  | zero =>
    cases hfin : finished s with
    | true => exact ⟨0, (h.done s hs hfin).symm, hfin⟩
    | false => exact absurd (h.work s hs hfin) (by omega)
  | succ w ih =>
    cases hfin : finished s with
    | true => exact ⟨0, (h.done s hs hfin).symm, hfin⟩
    | false =>
      obtain ⟨n, hfound, hend⟩ := ih (h.inv s hs hfin) (by have := h.work s hs hfin; omega)
      refine ⟨n + 1, ?_, ?_⟩ <;> rw [Cursor.collect, hfin]
      · rw [if_neg Bool.false_ne_true, hfound, ← h.found s hs hfin]
      · rw [if_neg Bool.false_ne_true, hend]

/-- What one more call leaves. -/
theorem collect_succ (n : Nat) (s : σ) : (collect call finished (n + 1) s).2 =
    if finished (collect call finished n s).2 then (collect call finished n s).2
    else (call (collect call finished n s).2).2 := by
  induction n generalizing s with
  | zero => cases hfin : finished s <;> simp [collect, hfin]
  | succ n ih =>
    cases hfin : finished s with
    | true => simp [collect, hfin]
    | false =>
      have hone : ∀ k, (collect call finished (k + 1) s).2 = (collect call finished k (call s).2).2 := fun k => by
        rw [collect, if_neg (by rw [hfin]; exact Bool.false_ne_true)]
      rw [hone, hone, ih]

/-- A search that stays unfinished on the states of `Inv` never finishes. -/
theorem collect_unfinished (Inv : σ → Prop) (hinv : ∀ s, Inv s → Inv (call s).2)
    (hfin : ∀ s, Inv s → finished s = false) {s : σ} (hs : Inv s) (n : Nat) :
    finished (collect call finished n s).2 = false := by
  induction n generalizing s with
  | zero => exact hfin s hs
  | succ n ih =>
    rw [collect, if_neg (by rw [hfin s hs]; exact Bool.false_ne_true)]
    exact ih (hinv s hs)

end Cursor
end RadarAim.Cursor
