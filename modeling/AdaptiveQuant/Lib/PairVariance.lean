import Mathlib.Algebra.Order.Field.Basic
import Mathlib.Tactic.Linarith
import Mathlib.Tactic.Ring

/-! The variance of a portfolio of two assets, as a quadratic form in its weights. -/

namespace PairVariance

variable {K : Type*} [Field K]

/-- The variance of weights `x` and `y` when the assets have the variances `a` and `b` and the
covariance `c`. -/
def variance (a c b x y : K) : K := x * x * a + (x * y * c + x * y * c) + y * y * b

variable {a c b : K}

theorem variance_smul (t x y : K) :
    variance a c b (t * x) (t * y) = t * t * variance a c b x y := by
  unfold variance
  ring

theorem variance_comm (x y : K) : variance a c b x y = variance b c a y x := by
  unfold variance
  ring

variable [LinearOrder K] [IsStrictOrderedRing K]

theorem variance_nonneg (ha : 0 < a) (hdet : c * c ≤ a * b) (x y : K) :
    0 ≤ variance a c b x y := by
  -- the form times `a` is a sum of squares
  have hsquare : a * variance a c b x y = (a * x + c * y) * (a * x + c * y) +
      (a * b - c * c) * (y * y) := by
    unfold variance
    ring
  have hnonneg : 0 ≤ a * variance a c b x y := by
    rw [hsquare]
    exact add_nonneg (mul_self_nonneg _)
      (mul_nonneg (sub_nonneg.mpr hdet) (mul_self_nonneg y))
  exact nonneg_of_mul_nonneg_right hnonneg ha

theorem variance_le_max (hb : 0 ≤ b) (x : K) {y z : K} (hz : 0 ≤ z) (hzy : z ≤ y) :
    variance a c b x z ≤ max (variance a c b x 0) (variance a c b x y) := by
  have hslope : 2 * (x * c) + z * b ≤ 2 * (x * c) + y * b :=
    add_le_add_right (mul_le_mul_of_nonneg_right hzy hb) _
  by_cases hfall : 2 * (x * c) + z * b ≤ 0
  · -- the variance falls from zero to `z`
    refine le_max_of_le_left ?_
    have hstep : variance a c b x z - variance a c b x 0 = z * (2 * (x * c) + z * b) := by
      unfold variance
      ring
    have hprod := mul_nonpos_of_nonneg_of_nonpos hz hfall
    linarith
  · -- it rises from `z` to `y`
    refine le_max_of_le_right ?_
    have hstep : variance a c b x y - variance a c b x z =
        (y - z) * (2 * (x * c) + y * b + z * b) := by
      unfold variance
      ring
    have hrise : 0 ≤ 2 * (x * c) + y * b + z * b := by
      have hzb := mul_nonneg hz hb
      linarith [not_le.mp hfall]
    have hprod := mul_nonneg (sub_nonneg.mpr hzy) hrise
    linarith

theorem variance_le_of_cuts (ha : 0 ≤ a) (hb : 0 ≤ b) {x y x' y' : K} (hx' : 0 ≤ x') (hx : x' ≤ x)
    (hy' : 0 ≤ y') (hy : y' ≤ y) (hcutx : x' = x ∨ variance a c b 0 y ≤ variance a c b x y)
    (hcuty : y' = y ∨ variance a c b x 0 ≤ variance a c b x y) :
    variance a c b x' y' ≤ variance a c b x y := by
  have hsecond : variance a c b x y' ≤ variance a c b x y := by
    rcases hcuty with rfl | hdrop
    · exact le_rfl
    · exact (variance_le_max hb x hy' hy).trans (max_le hdrop le_rfl)
  rcases hcutx with rfl | hdrop
  · exact hsecond
  · have halone : variance a c b 0 y' ≤ variance a c b 0 y := by
      have hsquare : y' * y' ≤ y * y := mul_self_le_mul_self hy' hy
      have hscaled := mul_le_mul_of_nonneg_right hsquare hb
      unfold variance
      linarith
    have hfirst : variance a c b x' y' ≤ max (variance a c b 0 y') (variance a c b x y') := by
      rw [variance_comm x', variance_comm 0, variance_comm x]
      exact variance_le_max ha y' hx' hx
    exact hfirst.trans (max_le (halone.trans hdrop) hsecond)

/-- The second moments of two quantities: `a` and `b` of each, and `c` of their product. -/
structure IsMoments (a c b : K) : Prop where
  first : 0 ≤ a
  second : 0 ≤ b
  mixed : c * c ≤ a * b

theorem IsMoments.variance_nonneg (h : IsMoments a c b) (x y : K) : 0 ≤ variance a c b x y := by
  rcases h.first.eq_or_lt with rfl | hpos
  · have hmixed := h.mixed
    rw [zero_mul] at hmixed
    have hc : c = 0 := mul_self_eq_zero.mp (le_antisymm hmixed (mul_self_nonneg c))
    have hsquare := mul_nonneg (mul_self_nonneg y) h.second
    simpa [variance, hc] using hsquare
  · exact PairVariance.variance_nonneg hpos h.mixed x y

theorem IsMoments.observe (h : IsMoments a c b) {s t : K} (hs : 0 ≤ s) (ht : 0 ≤ t) (x y : K) :
    IsMoments (s * a + t * x * x) (s * c + t * x * y) (s * b + t * y * y) where
  first := add_nonneg (mul_nonneg hs h.first) (by
    rw [mul_assoc]
    exact mul_nonneg ht (mul_self_nonneg x))
  second := add_nonneg (mul_nonneg hs h.second) (by
    rw [mul_assoc]
    exact mul_nonneg ht (mul_self_nonneg y))
  mixed := by
    -- what the new determinant gains is a variance, of weights that tell the observations apart
    have hgain : (s * a + t * x * x) * (s * b + t * y * y) -
        (s * c + t * x * y) * (s * c + t * x * y) =
        s * s * (a * b - c * c) + s * t * variance a c b y (-x) := by
      unfold variance
      ring
    have hdet : 0 ≤ s * s * (a * b - c * c) :=
      mul_nonneg (mul_self_nonneg s) (sub_nonneg.mpr h.mixed)
    have hvariance : 0 ≤ s * t * variance a c b y (-x) :=
      mul_nonneg (mul_nonneg hs ht) (h.variance_nonneg y (-x))
    linarith

theorem IsMoments.shrink (h : IsMoments a c b) {s a' b' : K} (hs : 0 ≤ s) (ha : s * a ≤ a')
    (hb : s * b ≤ b') : IsMoments a' (s * c) b' where
  first := (mul_nonneg hs h.first).trans ha
  second := (mul_nonneg hs h.second).trans hb
  mixed := by
    have hscaled := mul_le_mul_of_nonneg_left h.mixed (mul_self_nonneg s)
    have hdiagonal : s * a * (s * b) ≤ a' * b' :=
      mul_le_mul ha hb (mul_nonneg hs h.second) ((mul_nonneg hs h.first).trans ha)
    linarith [hscaled, hdiagonal]

theorem IsMoments.two_mul_le (h : IsMoments a c b) : 2 * c ≤ a + b := by
  have hspread := h.variance_nonneg 1 (-1)
  unfold variance at hspread
  linarith

end PairVariance
