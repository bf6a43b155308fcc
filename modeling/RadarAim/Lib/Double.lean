import RadarAim.Lib.Ieee

/-! The floating-point numbers of a program as a type of its own. The operations are parameters and nothing is
    assumed of them: a comparison with a NaN, a result that rounds or a value that overflows is whatever the
    type makes of it. -/

namespace RadarAim.Ieee

/-- The operations of `double` and of the mathematical library. -/
class Double (D : Type) extends Add D, Sub D, Mul D, Div D, Neg D, OfScientific D, LT D, LE D where
  decidableLt (x y : D) : Decidable (x < y)
  decidableLe (x y : D) : Decidable (x ≤ y)
  fabs : D → D
  fmin : D → D → D
  fmax : D → D → D
  sin : D → D
  cos : D → D
  tan : D → D
  hypot : D → D → D
  isfinite : D → Bool
  hypotf : F32 → F32 → F32
  ofFloat : F32 → D
  toFloat : D → F32
  ofInt : Int → D

section
variable {D : Type} [Double D] (x y : D)

instance Double.instDecidableLt : Decidable (x < y) := Double.decidableLt x y

instance Double.instDecidableLe : Decidable (x ≤ y) := Double.decidableLe x y

end

/-- What `fmax` and `fmin` promise: they give one of the two, and not the wrong one. -/
structure Double.Extremes (D : Type) [Double D] : Prop where
  irrefl : ∀ x : D, ¬x < x
  fmax : ∀ x y : D, Double.fmax x y = x ∧ ¬x < y ∨ Double.fmax x y = y ∧ ¬y < x
  fmin : ∀ x y : D, Double.fmin x y = x ∧ ¬y < x ∨ Double.fmin x y = y ∧ ¬x < y

/-- A value kept between two bounds is not below the lower one, and not above the upper one unless it is the lower. -/
theorem Double.Extremes.clamp {D : Type} [Double D] (h : Double.Extremes D) (low x high : D) :
    ¬Double.fmax low (Double.fmin x high) < low ∧
      (low < Double.fmax low (Double.fmin x high) → ¬high < Double.fmax low (Double.fmin x high)) := by
  rcases h.fmax low (Double.fmin x high) with ⟨hlow, -⟩ | ⟨hmin, hle⟩
  · rw [hlow]
    exact ⟨h.irrefl low, fun hlt => absurd hlt (h.irrefl low)⟩
  · rw [hmin]
    refine ⟨hle, fun _ => ?_⟩
    rcases h.fmin x high with ⟨hx, hhigh⟩ | ⟨hhigh, -⟩
    · rw [hx]
      exact hhigh
    · rw [hhigh]
      exact h.irrefl high

end RadarAim.Ieee
