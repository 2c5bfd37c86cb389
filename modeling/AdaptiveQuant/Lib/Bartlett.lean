import Mathlib.Algebra.BigOperators.Intervals
import Mathlib.Algebra.Order.BigOperators.Ring.Finset
import Mathlib.Tactic.Linarith
import Mathlib.Tactic.Ring

/-! Products of a sequence with itself, shifted, under the triangular weights of Bartlett. -/

namespace Bartlett

open Finset

variable {K : Type*} [CommRing K] (x : ℕ → K) (count lag : ℕ)

/-- The sum of the products of two places at a distance. -/
def lagged (distance : ℕ) : K := ∑ i ∈ Ico distance count, x i * x (i - distance)

/-- The sum over the window of `width` places that ends at `t`. -/
def window (width t : ℕ) : K := ∑ i ∈ range count with i ≤ t ∧ t < i + width, x i

theorem card_windows {i : ℕ} (hi : i < count) (j width : ℕ) :
    (range (count + width) |>.filter fun t => (i ≤ t ∧ t < i + width) ∧ j ≤ t ∧ t <
      j + width).card =
      width - (max i j - min i j) := by
  have hfilter : ((range (count + width)).filter fun t =>
      (i ≤ t ∧ t < i + width) ∧ j ≤ t ∧ t < j + width) = Ico (max i j) (min i j + width) := by
    ext t
    simp only [mem_filter, mem_range, mem_Ico]
    omega
  rw [hfilter, Nat.card_Ico]
  omega

theorem sum_window_sq (width : ℕ) : ∑ t ∈ range (count + width), window x count width t ^ 2 =
    ∑ i ∈ range count, ∑ j ∈ range count,
      ((width - (max i j - min i j) : ℕ) : K) * (x i * x j) := by
  have hsq (t : ℕ) : window x count width t ^ 2 = ∑ i ∈ range count, ∑ j ∈ range count,
      if (i ≤ t ∧ t < i + width) ∧ j ≤ t ∧ t < j + width then x i * x j else 0 := by
    rw [window, sq, sum_filter, sum_mul_sum]
    refine sum_congr rfl fun i _ => sum_congr rfl fun j _ => ?_
    by_cases hi : i ≤ t ∧ t < i + width
    · simp [hi]
    · simp [hi]
  simp only [hsq]
  rw [sum_comm]
  refine sum_congr rfl fun i hi => ?_
  rw [sum_comm]
  refine sum_congr rfl fun j _ => ?_
  rw [← sum_filter, sum_const, card_windows count (mem_range.mp hi), nsmul_eq_mul]

theorem lagged_succ (distance : ℕ) : lagged x (count + 1) distance =
    lagged x count distance + if distance ≤ count then x count * x (count - distance) else 0 := by
  unfold lagged
  by_cases h : distance ≤ count
  · rw [sum_Ico_succ_top h, if_pos h]
  · rw [Ico_eq_empty (by omega), Ico_eq_empty (by omega), if_neg h, sum_empty, add_zero]

theorem sum_last (g : ℕ → K) (vanishes : ∀ k, lag < k → g k = 0) :
    (∑ k ∈ Icc 1 lag, g k * if k ≤ count then x count * x (count - k) else 0) =
      ∑ j ∈ range count, g (count - j) * (x count * x j) := by
  have hdistance : ∑ k ∈ Icc 1 lag, (g k * if k ≤ count then x count * x (count - k) else 0) =
      ∑ k ∈ Icc 1 count, g k * (x count * x (count - k)) := by
    have hsame : (Icc 1 lag).filter (· ≤ count) = (Icc 1 count).filter (· ≤ lag) := by
      ext k
      simp only [mem_filter, mem_Icc]
      omega
    simp only [mul_ite, mul_zero]
    rw [← sum_filter, hsame, sum_filter]
    refine sum_congr rfl fun k _ => ?_
    by_cases hk : k ≤ lag
    · rw [if_pos hk]
    · rw [if_neg hk, vanishes k (by omega), zero_mul]
  rw [hdistance]
  refine sum_nbij' (fun k => count - k) (fun j => count - j) ?_ ?_ ?_ ?_ ?_
  · intro k hk
    simp only [mem_Icc, mem_range] at *
    omega
  · intro j hj
    simp only [mem_Icc, mem_range] at *
    omega
  · intro k hk
    simp only [mem_Icc] at hk
    omega
  · intro j hj
    simp only [mem_range] at hj
    omega
  · intro k hk
    simp only [mem_Icc] at hk
    rw [Nat.sub_sub_self hk.2]

theorem sum_symmetric (g : ℕ → K) (vanishes : ∀ k, lag < k → g k = 0) :
    ∑ i ∈ range count, ∑ j ∈ range count, g (max i j - min i j) * (x i * x j) =
      g 0 * lagged x count 0 + 2 * ∑ k ∈ Icc 1 lag, g k * lagged x count k := by
  induction count with
  | zero => simp [lagged]
  | succ count ih =>
    have hrow : ∑ j ∈ range count, g (max count j - min count j) * (x count * x j) =
        ∑ j ∈ range count, g (count - j) * (x count * x j) := by
      refine sum_congr rfl fun j hj => ?_
      rw [max_eq_left (mem_range.mp hj).le, min_eq_right (mem_range.mp hj).le]
    have hcolumn : ∑ i ∈ range count, g (max i count - min i count) * (x i * x count) =
        ∑ j ∈ range count, g (count - j) * (x count * x j) := by
      refine sum_congr rfl fun i hi => ?_
      rw [max_eq_right (mem_range.mp hi).le, min_eq_left (mem_range.mp hi).le, mul_comm (x i)]
    have hlast := sum_last x count lag g vanishes
    simp only [sum_range_succ, sum_add_distrib, lagged_succ, mul_add, hrow, hcolumn, ih, hlast]
    simp
    ring

theorem weighted_eq_sum_sq : ((lag + 1 : ℕ) : K) * lagged x count 0 +
    2 * ∑ k ∈ Icc 1 lag, ((lag + 1 - k : ℕ) : K) * lagged x count k =
      ∑ t ∈ range (count + (lag + 1)), window x count (lag + 1) t ^ 2 := by
  have hvanishes (k : ℕ) (hk : lag < k) : ((lag + 1 - k : ℕ) : K) = 0 := by
    rw [Nat.sub_eq_zero_of_le hk, Nat.cast_zero]
  rw [sum_window_sq, sum_symmetric x count lag (fun k => ((lag + 1 - k : ℕ) : K)) hvanishes]
  rfl

theorem weighted_nonneg [LinearOrder K] [IsStrictOrderedRing K] :
    0 ≤ ((lag + 1 : ℕ) : K) * lagged x count 0 +
      2 * ∑ k ∈ Icc 1 lag, ((lag + 1 - k : ℕ) : K) * lagged x count k := by
  rw [weighted_eq_sum_sq]
  exact sum_nonneg fun t _ => sq_nonneg _

end Bartlett
