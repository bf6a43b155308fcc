import Mathlib.Data.List.Basic

/-! Paths of a drawing context. A path is built by moving the current point and by adding lines from it; its segments
    are the lines that were added. -/

namespace RadarAim

inductive PathOp (P : Type) where
  | moveTo (p : P)
  | addLineTo (p : P)

namespace PathOp
variable {P : Type}

/-- The segments that are added from a current point. Without one a line adds nothing. -/
def segmentsFrom : (current : Option P) → List (PathOp P) → List (P × P)
  | _, [] => []
  | _, moveTo p :: ops => segmentsFrom (some p) ops
  | none, addLineTo _ :: ops => segmentsFrom none ops
  | some current, addLineTo p :: ops => (current, p) :: segmentsFrom (some p) ops

def segments (ops : List (PathOp P)) : List (P × P) := segmentsFrom none ops

def line (p q : P) : List (PathOp P) := [moveTo p, addLineTo q]

section Lines
variable {ι : Type} {keep : ι → Bool} {ends : ι → P × P}

theorem segmentsFrom_lines (current : Option P) (l : List ι) :
    segmentsFrom current (l.flatMap fun i => if keep i then line (ends i).1 (ends i).2 else []) =
      (l.filter keep).map ends := by
  induction l generalizing current with
  | nil => cases current <;> rfl
  | cons i l ih =>
    rw [List.flatMap_cons]
    cases hkeep : keep i with
    | false =>
      rw [List.filter_cons_of_neg (by simp [hkeep])]
      exact ih current
    | true =>
      rw [List.filter_cons_of_pos hkeep, List.map_cons]
      have hrest := ih (some (ends i).2)
      cases current <;> exact congrArg (ends i :: ·) hrest

/-- A path of lines, each of them drawn or not, has the segments that are drawn. -/
theorem segments_lines (l : List ι) :
    segments (l.flatMap fun i => if keep i then line (ends i).1 (ends i).2 else []) = (l.filter keep).map ends :=
  segmentsFrom_lines none l

end Lines
end PathOp
end RadarAim
