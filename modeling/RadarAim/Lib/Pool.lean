import Mathlib.Data.List.Monad
import Mathlib.Logic.Basic

/-! Pools kept on a stack, as the autorelease pools of a thread. A pool is pushed under a token, and popping a token
    pops what was pushed after it as well. A trace of calls is balanced if it leaves the stack that it found. -/

namespace RadarAim

inductive PoolCall (T A : Type) where
  | push (pool : T)
  | pop (pool : T)
  | act (a : A)

namespace PoolCall
variable {T A : Type} [DecidableEq T]

/-- The stack after a call, the innermost pool first. There is none when a pool is popped that is not on it. -/
def after (stack : List T) : PoolCall T A → Option (List T)
  | .push pool => some (pool :: stack)
  | .pop pool => if pool ∈ stack then some (stack.dropWhile (· ≠ pool)).tail else none
  | .act _ => some stack

def unwind (stack : List T) : List (PoolCall T A) → Option (List T)
  | [] => some stack
  | call :: calls => (after stack call).bind fun stack => unwind stack calls

/-- What is done, inside the pools and out of them. -/
def acts (calls : List (PoolCall T A)) : List A :=
  calls.filterMap fun
    | .act a => some a
    | _ => none

/-- Each pool that is pushed is popped, and no other pool is. -/
def Balanced (calls : List (PoolCall T A)) : Prop := ∀ stack, unwind stack calls = some stack

variable {stack : List T} {calls calls' : List (PoolCall T A)}

theorem unwind_append :
    unwind stack (calls ++ calls') = (unwind stack calls).bind fun stack => unwind stack calls' := by
  induction calls generalizing stack with
  | nil => rfl
  | cons call calls ih => simp only [List.cons_append, unwind, ih, Option.bind_assoc]

omit [DecidableEq T] in
@[simp] theorem acts_append : acts (calls ++ calls') = acts calls ++ acts calls' := List.filterMap_append

omit [DecidableEq T] in
@[simp] theorem acts_map (l : List A) : acts (l.map (act (T := T))) = l := by
  induction l with
  | nil => rfl
  | cons a l ih => exact congrArg (a :: ·) ih

theorem unwind_push (pool : T) : unwind stack (.push pool :: calls) = unwind (pool :: stack) calls := rfl

theorem unwind_pop (pool : T) : unwind (A := A) (pool :: stack) [.pop pool] = some stack := by
  simp [unwind, after]

theorem balanced_nil : Balanced ([] : List (PoolCall T A)) := fun _ => rfl

theorem Balanced.append (h : Balanced calls) (h' : Balanced calls') : Balanced (calls ++ calls') := by
  intro stack
  rw [unwind_append, h stack]
  exact h' stack

theorem balanced_acts (acts : List A) : Balanced (acts.map (act (T := T))) := by
  intro stack
  induction acts with
  | nil => rfl
  | cons a acts ih => simpa [unwind, after] using ih

/-- What is balanced between a push and its pop leaves the whole balanced. -/
theorem Balanced.scope (h : Balanced calls) (pool : T) : Balanced (.push pool :: (calls ++ [.pop pool])) := by
  intro stack
  rw [unwind_push, unwind_append, h (pool :: stack)]
  exact unwind_pop pool

/-- A push without its pop leaves the pool behind. -/
theorem Balanced.leak (h : Balanced calls) (pool : T) : unwind stack (.push pool :: calls) = some (pool :: stack) := by
  rw [unwind_push]
  exact h (pool :: stack)

theorem Balanced.not_balanced_push (h : Balanced calls) (pool : T) : ¬Balanced (.push pool :: calls) := by
  intro hbal
  have hstack := hbal []
  rw [h.leak pool] at hstack
  cases hstack

end PoolCall
end RadarAim
