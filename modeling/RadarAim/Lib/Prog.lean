/-! Programs that call their environment. A program is a tree of calls: each call is answered by the
    environment, and the program goes on from the reply. The same program can be run against an
    environment that never changes (`run`) or against one that answers every call differently (`eval`),
    so that a fact about a fixed environment and a fact about one that fails half-way speak of one
    definition. -/

namespace RadarAim

/-- The calls that a program may make and the type of the reply to each. -/
structure Sig where
  Call : Type
  Reply : Call → Type

/-- A program that makes calls of `E` and returns a value of type `α`. -/
inductive Prog (E : Sig) (α : Type) : Type where
  | done (a : α)
  | call (c : E.Call) (k : E.Reply c → Prog E α)

abbrev Handler (E : Sig) := (c : E.Call) → E.Reply c

namespace Prog
variable {E : Sig} {α β γ : Type}

def bind : Prog E α → (α → Prog E β) → Prog E β
  | done a, f => f a
  | call c k, f => call c fun r => (k r).bind f

instance : Monad (Prog E) where
  pure := done
  bind := bind

theorem bind_done (p : Prog E α) : p.bind done = p := by
  induction p with
  | done a => rfl
  | call c k ih => exact congrArg (call c) (funext ih)

theorem bind_assoc (p : Prog E α) (f : α → Prog E β) (g : β → Prog E γ) :
    (p.bind f).bind g = p.bind fun a => (f a).bind g := by
  induction p with
  | done a => rfl
  | call c k ih => exact congrArg (call c) (funext ih)

instance : LawfulMonad (Prog E) :=
  LawfulMonad.mk' (Prog E) (fun p => bind_done p) (fun _ _ => rfl) bind_assoc

def ask (c : E.Call) : Prog E (E.Reply c) := call c done

/-! ### A fixed environment -/

/-- The result when every call is answered by `h`. -/
def run (h : Handler E) : Prog E α → α
  | done a => a
  | call c k => (k (h c)).run h

section Run
variable (h : Handler E)

@[simp] theorem run_pure (a : α) : (pure a : Prog E α).run h = a := rfl

@[simp] theorem run_bind (p : Prog E α) (f : α → Prog E β) : (p >>= f).run h = (f (p.run h)).run h := by
  induction p with
  | done a => rfl
  | call c k ih => exact ih (h c)

@[simp] theorem run_map (p : Prog E α) (f : α → β) : (f <$> p).run h = f (p.run h) := by
  rw [← bind_pure_comp, run_bind, run_pure]

theorem run_ite (c : Prop) [Decidable c] (p q : Prog E α) :
    (if c then p else q).run h = if c then p.run h else q.run h := apply_ite (run h) c p q

end Run

/-- The result of a program with a state, and the state after it. -/
def exec {σ : Type} (h : Handler E) (p : StateT σ (Prog E) α) (s : σ) : α × σ := (p.run s).run h

section Exec
variable {σ : Type} (h : Handler E) (s : σ)

@[simp] theorem exec_pure (a : α) : exec h (pure a : StateT σ (Prog E) α) s = (a, s) := rfl

@[simp] theorem exec_bind (p : StateT σ (Prog E) α) (f : α → StateT σ (Prog E) β) :
    exec h (p >>= f) s = exec h (f (exec h p s).1) (exec h p s).2 := by
  simp [exec]

@[simp] theorem exec_lift (p : Prog E α) : exec h (liftM p : StateT σ (Prog E) α) s = (p.run h, s) := by
  show (StateT.run (StateT.lift p) s).run h = _
  simp

@[simp] theorem exec_get : exec h (get : StateT σ (Prog E) σ) s = (s, s) := rfl

@[simp] theorem exec_modify (f : σ → σ) : exec h (modify f : StateT σ (Prog E) Unit) s = ((), f s) := rfl

end Exec

/-! ### An environment that changes from call to call -/

/-- The result when the `n`-th and later calls are answered by `h n`, `h (n + 1)`, ..., together with the
    number of the first call not made. -/
def eval (h : Nat → Handler E) (n : Nat) : Prog E α → α × Nat
  | done a => (a, n)
  | call c k => (k (h n c)).eval h (n + 1)

section Eval
variable (h : Nat → Handler E) (n : Nat)

@[simp] theorem eval_pure (a : α) : (pure a : Prog E α).eval h n = (a, n) := rfl

@[simp] theorem eval_bind (p : Prog E α) (f : α → Prog E β) :
    (p >>= f).eval h n = (f (p.eval h n).1).eval h (p.eval h n).2 := by
  induction p generalizing n with
  | done a => rfl
  | call c k ih => exact ih (h n c) (n + 1)

@[simp] theorem eval_map (p : Prog E α) (f : α → β) :
    (f <$> p).eval h n = (f (p.eval h n).1, (p.eval h n).2) := by
  rw [← bind_pure_comp, eval_bind, eval_pure]

/-- An environment that does not change. -/
theorem eval_const (g : Handler E) (p : Prog E α) : (p.eval (fun _ => g) n).1 = p.run g := by
  induction p generalizing n with
  | done a => rfl
  | call c k ih => exact ih (g c) (n + 1)

theorem le_eval (p : Prog E α) : n ≤ (p.eval h n).2 := by
  induction p generalizing n with
  | done a => exact Nat.le_refl n
  | call c k ih => exact Nat.le_of_succ_le (ih (h n c) (n + 1))

end Eval

end Prog
end RadarAim
