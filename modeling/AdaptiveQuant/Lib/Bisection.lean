import Mathlib.Algebra.Order.Field.Basic
import Mathlib.Tactic.Linarith
import Mathlib.Tactic.Ring

/-! Bisection: an interval is halved a fixed number of times, and the half is kept whose lower end
passes a test. -/

namespace Bisection

variable {K : Type*} [Field K]

/-- The interval after `n` halvings. -/
def bisect (good : K → Prop) [DecidablePred good] : ℕ → K → K → K × K
  | 0, low, high => (low, high)
  | n + 1, low, high =>
    if good ((low + high) / (1 + 1)) then bisect good n ((low + high) / (1 + 1)) high
    else bisect good n low ((low + high) / (1 + 1))

variable {good : K → Prop} [DecidablePred good]

theorem bisect_succ (n : ℕ) (low high : K) : bisect good (n + 1) low high =
    if good ((low + high) / 2) then bisect good n ((low + high) / 2) high
    else bisect good n low ((low + high) / 2) := by
  rw [bisect, one_add_one_eq_two]

theorem bisect_good {n : ℕ} {low high : K} (h : good low) : good (bisect good n low high).1 := by
  induction n generalizing low high with
  | zero => exact h
  | succ n ih =>
    rw [bisect_succ]
    split
    · rename_i hmid
      exact ih hmid
    · exact ih h

theorem bisect_bad {n : ℕ} {low high : K} (h : ¬good high) : ¬good (bisect good n low high).2 := by
  induction n generalizing low high with
  | zero => exact h
  | succ n ih =>
    rw [bisect_succ]
    split
    · exact ih h
    · rename_i hmid
      exact ih hmid

variable [LinearOrder K] [IsStrictOrderedRing K]

theorem bisect_bounds {n : ℕ} {low high : K} (h : low ≤ high) :
    low ≤ (bisect good n low high).1 ∧
      (bisect good n low high).1 ≤ (bisect good n low high).2 ∧
      (bisect good n low high).2 ≤ high := by
  induction n generalizing low high with
  | zero => exact ⟨le_rfl, h, le_rfl⟩
  | succ n ih =>
    have hlow : low ≤ (low + high) / 2 := by linarith
    have hhigh : (low + high) / 2 ≤ high := by linarith
    rw [bisect_succ]
    split
    · obtain ⟨h1, h2, h3⟩ := ih hhigh
      exact ⟨hlow.trans h1, h2, h3⟩
    · obtain ⟨h1, h2, h3⟩ := ih hlow
      exact ⟨h1, h2, h3.trans hhigh⟩

theorem bisect_width (n : ℕ) (low high : K) :
    (bisect good n low high).2 - (bisect good n low high).1 = (high - low) / 2 ^ n := by
  induction n generalizing low high with
  | zero => simp [bisect]
  | succ n ih =>
    rw [bisect_succ]
    split
    · rw [ih, pow_succ]
      ring
    · rw [ih, pow_succ]
      ring

theorem bisect_converges {n : ℕ} {low high x : K} (hle : low ≤ high) (hhigh : ¬good high)
    (below : ∀ y, low ≤ y → y ≤ x → good y) :
    x ≤ (bisect good n low high).1 + (high - low) / 2 ^ n := by
  obtain ⟨hlow, hmid, -⟩ := @bisect_bounds K _ good _ _ _ n low high hle
  have hless : x < (bisect good n low high).2 :=
    not_le.mp fun hx => bisect_bad hhigh (below _ (hlow.trans hmid) hx)
  have hwidth := @bisect_width K _ good _ _ _ n low high
  linarith

end Bisection
