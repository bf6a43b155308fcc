import RadarAim.Reflection.Classes

/-! The two walkers over the classes. `ue4r_walk_classes` appends each class to a list, `ue4r_iterate_classes`
    gives it to a callback: one is the image of the other, round by round, under the function that gives a whole
    list to the callback. -/

namespace RadarAim
namespace Walkers

/-! ### The window loops under a change of the state that they carry -/

section Windows
variable {σ τ : Type} {body : UInt64 → σ → Walker (Option σ)} {body' : UInt64 → τ → Walker (Option τ)} {f : σ → τ}

theorem visit_map (hbody : ∀ obj s, body' obj (f s) = Option.map f <$> body obj s) (obj : UInt64) (s : σ) :
    visit body' obj (f s) = Option.map f <$> visit body obj s := by
  unfold visit
  split
  · exact hbody obj s
  · rw [map_pure, Option.map_some]

theorem forWindow_map (hbody : ∀ obj s, body' obj (f s) = Option.map f <$> body obj s) (fetch : Nat → Read UInt64)
    (todo k : Nat) (s : σ) : forWindow fetch body' todo k (f s) = Option.map f <$> forWindow fetch body todo k s := by
  induction todo generalizing k s with
  | zero => rw [forWindow, forWindow, map_pure, Option.map_some]
  | succ todo ih =>
    simp only [forWindow, map_bind, visit_map hbody, bind_map_left]
    refine bind_congr fun obj => bind_congr fun r => ?_
    cases r with
    | none => rw [Option.map_none, map_pure, Option.map_none]
    | some s => exact ih (k + 1) s

theorem forWindows_map (hbody : ∀ obj s, body' obj (f s) = Option.map f <$> body obj s) (objectsPtr : UInt64)
    (windows numElems b : Nat) (s : σ) :
    forWindows objectsPtr body' windows numElems b (f s) =
      Option.map f <$> forWindows objectsPtr body windows numElems b s := by
  induction windows generalizing b s with
  | zero => rw [forWindows, forWindows, map_pure, Option.map_some]
  | succ windows ih =>
    simp only [forWindows, map_bind, forWindow_map hbody, bind_map_left]
    refine bind_congr fun batch => bind_congr fun r => ?_
    cases r with
    | none => rw [Option.map_none, map_pure, Option.map_none]
    | some s => exact ih (b + batchSize) s

end Windows

/-! ### The callback and the list -/

section Callback
variable {ω : Type} (cb : ω → Ue4Class → ω) (userdata : ω)

/-- What the iterator holds when its callback has been given the classes of `list`. -/
def given (list : List Ue4Class) : ω × Int := (list.foldl cb userdata, list.length)

theorem given_append (list : List Ue4Class) (c : Ue4Class) :
    given cb userdata (list ++ [c]) = (cb (given cb userdata list).1 c, (given cb userdata list).2 + 1) := by
  simp [given]

theorem iterateBody_eq (fuel : Nat) (obj : UInt64) (list : List Ue4Class) :
    iterateBody fuel cb obj (given cb userdata list) =
      Option.map (given cb userdata) <$> walkBody fuel obj list := by
  simp only [iterateBody, walkBody, map_bind]
  refine bind_congr fun isClass => ?_
  cases isClass with
  | false => rfl
  | true =>
    simp only [if_true, map_bind]
    refine bind_congr fun r => ?_
    cases r with
    | none => rw [map_pure, Option.map_none]
    | some c => rw [map_pure, Option.map_some, given_append]

/-- The windows of a table: the iterator is the image of the list walker, as a program. -/
theorem iterate_forWindows (fuel : Nat) (objectsPtr : UInt64) (numElems : Nat) :
    forWindows objectsPtr (iterateBody fuel cb) (windowCount numElems) numElems 0 (userdata, 0) =
      Option.map (given cb userdata) <$>
        forWindows objectsPtr (walkBody fuel) (windowCount numElems) numElems 0 [] :=
  forWindows_map (f := given cb userdata) (iterateBody_eq cb userdata fuel) objectsPtr
    (windowCount numElems) numElems 0 []

end Callback

/-! ### The walkers -/

section Run
variable {ω : Type} (h : Nat → Handler Host) (k : Nat) (c : Ue4rCtx)

/-- The object table that the context names cannot be read: `ue4r_walk_classes` returns NULL. -/
def badTable : Bool := ((getObjectsInfo c.guobjectarray).eval h k).1.isNone

/-- With the same replies to their reads the iterator gives its callback the classes that the list walker
    returns, in order, and returns their number, or -1 where the object table is bad and the list empty for
    that; one ends when the other does, and they leave the same context after the same reads. -/
theorem iterate_agrees (fuel : Nat) (cb : ω → Ue4Class → ω) (userdata : ω) :
    evalFrom h k (ue4rIterateClasses fuel cb userdata) c =
        (((evalFrom h k (ue4rWalkClasses fuel) c).1.1.map fun list =>
            (list.foldl cb userdata, if badTable h k c then -1 else (list.length : Int)),
          (evalFrom h k (ue4rWalkClasses fuel) c).1.2), (evalFrom h k (ue4rWalkClasses fuel) c).2) ∧
      (badTable h k c → (evalFrom h k (ue4rWalkClasses fuel) c).1.1 = some []) := by
  simp only [ue4rIterateClasses, ue4rWalkClasses, evalFrom_bind, evalFrom_get, evalFrom_lift]
  rcases hinfo : ((getObjectsInfo c.guobjectarray).eval h k).1 with _ | ⟨objectsPtr, numElems⟩
  · have hbad : badTable h k c = true := by rw [badTable, hinfo]; rfl
    simp [hbad]
  · have hgood : badTable h k c = false := by rw [badTable, hinfo]; rfl
    simp only [iterate_forWindows, hgood, if_false, evalFrom_map, Bool.false_eq_true, false_implies, and_true]
    rfl

end Run
end Walkers
end RadarAim
