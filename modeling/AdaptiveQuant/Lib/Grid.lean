import Mathlib.Tactic.Linarith
import Mathlib.Tactic.Ring
import Mathlib.Data.List.Basic

/-! The points that a loop visits from a start, a step at a time, before a stop. -/

namespace Grid

def points (step stop : ℤ) (positive : 0 < step) (start : ℤ) : List ℤ :=
  if start < stop then start :: points step stop positive (start + step) else []
termination_by (stop - start).toNat
decreasing_by omega

variable {step stop : ℤ} {positive : 0 < step}

theorem mem_points {start point : ℤ} : point ∈ points step stop positive start ↔
    ∃ k : ℕ, point = start + k * step ∧ point < stop := by
  fun_induction points step stop positive start with
  | case1 start hlt ih =>
    rw [List.mem_cons, ih]
    constructor
    · rintro (rfl | ⟨k, rfl, hstop⟩)
      · exact ⟨0, by simp, hlt⟩
      · exact ⟨k + 1, by push_cast; ring, hstop⟩
    · rintro ⟨k, rfl, hstop⟩
      cases k with
      | zero => exact .inl (by simp)
      | succ k => exact .inr ⟨k, by push_cast; ring, hstop⟩
  | case2 start hge =>
    constructor
    · intro h
      cases h
    · rintro ⟨k, rfl, hstop⟩
      have hnonneg : 0 ≤ (k : ℤ) * step := mul_nonneg (Int.natCast_nonneg k) positive.le
      omega

theorem points_within {start point : ℤ} (h : point ∈ points step stop positive start) :
    start ≤ point ∧ point < stop := by
  obtain ⟨k, rfl, hstop⟩ := mem_points.mp h
  have hnonneg : 0 ≤ (k : ℤ) * step := mul_nonneg (Int.natCast_nonneg k) positive.le
  exact ⟨by omega, hstop⟩

end Grid
