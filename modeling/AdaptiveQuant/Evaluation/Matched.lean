import AdaptiveQuant.Domain.Basic
import AdaptiveQuant.Lib.Bartlett
import Mathlib.Algebra.BigOperators.Field

/-! The maximum drawdown and the Newey-West standard error of `evaluation/matched.py`. -/

namespace AdaptiveQuant.Evaluation

open Guard Finset List

def evaluationError (message : String) : Failure := ⟨.valueError, message, []⟩

structure Drawdown where
  wealth : Decimal
  peak : Decimal
  maximum : Decimal

def Drawdown.step (d : Drawdown) (value : Decimal) : Drawdown :=
  let wealth := d.wealth * (1 + value)
  let peak := max d.peak wealth
  ⟨wealth, peak, max d.maximum ((peak - wealth) / peak)⟩

def maximumDrawdown (returns : List Decimal) : Decimal :=
  (returns.foldl Drawdown.step ⟨1, 1, 0⟩).maximum

/-- The cumulative wealth after the first sessions, from a unit. -/
def wealthAfter (returns : List Decimal) (n : ℕ) : Decimal := ((returns.take n).map (1 + ·)).prod

/-- What is lost between two sessions, as a fraction of the wealth at the first one. -/
def lossBetween (returns : List Decimal) (i j : ℕ) : Decimal :=
  (wealthAfter returns i - wealthAfter returns j) / wealthAfter returns i

/-- The loop knows the wealth, its peak, and the largest loss between two sessions. -/
structure Drawdown.Inv (returns : List Decimal) (d : Drawdown) : Prop where
  wealth : d.wealth = wealthAfter returns returns.length
  peak : IsGreatest {w | ∃ i ≤ returns.length, w = wealthAfter returns i} d.peak
  maximum : IsGreatest {x | ∃ i j, i ≤ j ∧ j ≤ returns.length ∧ x = lossBetween returns i j}
    d.maximum

variable {returns : List Decimal} {value : Decimal}

theorem wealthAfter_pos (h : ∀ r ∈ returns, -1 < r) (n : ℕ) : 0 < wealthAfter returns n := by
  refine prod_pos fun w hw => ?_
  obtain ⟨r, hr, rfl⟩ := mem_map.mp hw
  linarith [h r (mem_of_mem_take hr)]

theorem wealthAfter_append {n : ℕ} (h : n ≤ returns.length) :
    wealthAfter (returns ++ [value]) n = wealthAfter returns n := by
  rw [wealthAfter, take_append_of_le_length h, wealthAfter]

theorem wealthAfter_last : wealthAfter (returns ++ [value]) (returns.length + 1) =
    wealthAfter returns returns.length * (1 + value) := by
  simp [wealthAfter, take_of_length_le]

theorem lossBetween_append {i j : ℕ} (hij : i ≤ j) (hj : j ≤ returns.length) :
    lossBetween (returns ++ [value]) i j = lossBetween returns i j := by
  rw [lossBetween, wealthAfter_append (hij.trans hj), wealthAfter_append hj, lossBetween]

theorem loss_mono {low high wealth : Decimal} (pos : 0 < low) (h : low ≤ high)
    (nonneg : 0 ≤ wealth) :
    (low - wealth) / low ≤ (high - wealth) / high := by
  rw [sub_div, sub_div, div_self pos.ne', div_self (pos.trans_le h).ne']
  exact sub_le_sub_left (div_le_div_of_nonneg_left nonneg pos h) 1

theorem Drawdown.Inv.step {d : Drawdown} (inv : d.Inv returns)
    (h : ∀ r ∈ returns ++ [value], -1 < r) : (d.step value).Inv (returns ++ [value]) := by
  have hpos := wealthAfter_pos h
  have hwealth : (d.step value).wealth = wealthAfter (returns ++ [value]) (returns.length + 1) := by
    rw [wealthAfter_last, ← inv.wealth]
    rfl
  have hlength : (returns ++ [value]).length = returns.length + 1 := by simp
  have hpeak : IsGreatest {w | ∃ i ≤ returns.length + 1, w = wealthAfter (returns ++ [value]) i}
      (d.step value).peak := by
    constructor
    · rcases max_choice d.peak (d.step value).wealth with hmax | hmax
      · obtain ⟨i, hi, heq⟩ := inv.peak.1
        exact ⟨i, by omega, hmax.trans (heq.trans (wealthAfter_append hi).symm)⟩
      · exact ⟨_, le_rfl, hmax.trans hwealth⟩
    · rintro w ⟨i, hi, rfl⟩
      rcases Nat.le_succ_iff.mp hi with hi | rfl
      · rw [wealthAfter_append hi]
        exact le_max_of_le_left (inv.peak.2 ⟨i, hi, rfl⟩)
      · exact le_max_of_le_right hwealth.ge
  obtain ⟨top, htop, hpeakEq⟩ := hpeak.1
  have hlast : ((d.step value).peak - (d.step value).wealth) / (d.step value).peak =
      lossBetween (returns ++ [value]) top (returns.length + 1) := by
    rw [hpeakEq, hwealth, lossBetween]
  refine ⟨hwealth.trans (by rw [hlength]), by rw [hlength]; exact hpeak, ?_⟩
  rw [hlength]
  constructor
  · rcases max_choice d.maximum (((d.step value).peak - (d.step value).wealth) /
      (d.step value).peak) with hmax | hmax
    · obtain ⟨i, j, hij, hj, heq⟩ := inv.maximum.1
      exact ⟨i, j, hij, by omega, hmax.trans (heq.trans (lossBetween_append hij hj).symm)⟩
    · exact ⟨top, _, htop, le_rfl, hmax.trans hlast⟩
  · rintro x ⟨i, j, hij, hj, rfl⟩
    rcases Nat.le_succ_iff.mp hj with hj | rfl
    · rw [lossBetween_append hij hj]
      exact le_max_of_le_left (inv.maximum.2 ⟨i, j, hij, hj, rfl⟩)
    · refine le_max_of_le_right (le_of_le_of_eq ?_ hlast.symm)
      rw [lossBetween, lossBetween, ← hpeakEq]
      exact loss_mono (hpos i) (hpeak.2 ⟨i, hij, rfl⟩) (hpos _).le

theorem drawdown_inv (h : ∀ r ∈ returns, -1 < r) :
    (returns.foldl Drawdown.step ⟨1, 1, 0⟩).Inv returns := by
  induction returns using List.reverseRecOn with
  | nil =>
    refine ⟨rfl, ⟨⟨0, le_rfl, rfl⟩, ?_⟩, ⟨⟨0, 0, le_rfl, le_rfl, by simp [lossBetween]⟩, ?_⟩⟩
    · rintro w ⟨i, -, rfl⟩
      simp [wealthAfter]
    · rintro x ⟨i, j, -, -, rfl⟩
      simp [lossBetween, wealthAfter]
  | append_singleton returns value ih =>
    rw [foldl_append]
    exact (ih fun r hr => h r (mem_append_left _ hr)).step h

/-- The one pass finds the largest loss between two sessions, the initial wealth included, which is
a fraction below one. -/
theorem maximum_drawdown (returns : List Decimal) (h : ∀ r ∈ returns, -1 < r) :
    IsGreatest {x | ∃ i j, i ≤ j ∧ j ≤ returns.length ∧ x = lossBetween returns i j}
      (maximumDrawdown returns) ∧ 0 ≤ maximumDrawdown returns ∧ maximumDrawdown returns < 1 := by
  have inv := (drawdown_inv h).maximum
  have hpos := wealthAfter_pos h
  refine ⟨inv, inv.2 ⟨0, 0, le_rfl, Nat.zero_le _, by simp [lossBetween]⟩, ?_⟩
  obtain ⟨i, j, -, -, heq⟩ := inv.1
  rw [maximumDrawdown, heq, lossBetween, div_lt_one (hpos i)]
  linarith [hpos j]

/-- A gain of a half, a loss of two thirds and a gain of a tenth. -/
theorem two_thirds_lost : maximumDrawdown [1 / 2, -(2 / 3), 1 / 10] = 2 / 3 ∧
    maximumDrawdown [1 / 2, -(2 / 3), 1 / 10] < 1 :=
  ⟨by decide +kernel, (maximum_drawdown [1 / 2, -(2 / 3), 1 / 10] (by norm_num)).2.2⟩

variable (values : List Decimal)

def mean : Decimal := values.sum / values.length

def centered (index : ℕ) : Decimal := values.getD index 0 - mean values

/-- The covariance of the values with those `offset` places before. -/
def autocovariance (offset : ℕ) : Decimal :=
  (∑ index ∈ Ico offset values.length, centered values index * centered values (index - offset)) /
    values.length

def bartlettWeight (lag : ℤ) (offset : ℕ) : Decimal :=
  ((lag + 1 - offset : ℤ) : Decimal) / (lag + 1)

def longRunVariance (lag : ℤ) : Decimal :=
  (List.range' 1 lag.toNat).foldl
    (fun variance offset => variance + 2 * bartlettWeight lag offset * autocovariance values offset)
    (autocovariance values 0)

def neweyWestStandardError (lag : ℤ) : Except Failure Decimal := do
  raiseIf (values = []) (evaluationError "Newey-West calculation requires observations")
  return decimalSqrt (max 0 (longRunVariance values lag) / values.length)

theorem foldl_add_sum (f : ℕ → Decimal) (start : Decimal) (lag : ℕ) :
    (List.range' 1 lag).foldl (fun total offset => total + f offset) start =
      start + ∑ offset ∈ Icc 1 lag, f offset := by
  induction lag with
  | zero => simp
  | succ lag ih =>
    rw [List.range'_concat, foldl_append, ih, sum_Icc_succ_top (by omega), ← add_assoc]
    simp [add_comm]

theorem longRunVariance_eq (lag : ℕ) :
    longRunVariance values lag =
      ((lag + 1 : ℕ) * Bartlett.lagged (centered values) values.length 0 +
      2 * ∑ k ∈ Icc 1 lag, ((lag + 1 - k : ℕ) : Decimal) *
        Bartlett.lagged (centered values) values.length k) / ((lag + 1 : ℕ) * values.length) := by
  have hlag : ((lag + 1 : ℕ) : Decimal) ≠ 0 := by positivity
  have hterm (k : ℕ) (hk : k ∈ Icc 1 lag) :
      2 * bartlettWeight lag k * autocovariance values k = 2 * (((lag + 1 - k : ℕ) : Decimal) *
        Bartlett.lagged (centered values) values.length k) / ((lag + 1 : ℕ) * values.length) := by
    rw [bartlettWeight, autocovariance, ← Bartlett.lagged, Nat.cast_sub (by simp at hk; omega)]
    push_cast
    rw [mul_assoc, div_mul_div_comm, ← mul_div_assoc]
  have hzero : autocovariance values 0 = (lag + 1 : ℕ) * Bartlett.lagged (centered values)
      values.length 0 / ((lag + 1 : ℕ) * values.length) := by
    rw [mul_div_mul_left _ _ hlag]
    rfl
  rw [longRunVariance, Int.toNat_natCast, foldl_add_sum, sum_congr rfl hterm, hzero, ← sum_div,
    ← mul_sum, add_div]

theorem longRunVariance_nonneg (lag : ℤ) :
    0 ≤ longRunVariance values lag := by
  by_cases hlag : 0 ≤ lag
  · obtain ⟨lag, rfl⟩ := Int.eq_ofNat_of_zero_le hlag
    rw [longRunVariance_eq]
    exact div_nonneg (Bartlett.weighted_nonneg _ _ lag) (by positivity)
  · rw [longRunVariance, Int.toNat_of_nonpos (by omega)]
    exact div_nonneg (sum_nonneg fun index _ => mul_self_nonneg _) (by positivity)

/-- The weighted variance is not negative, for any lag, so that its clamp at zero changes
nothing. -/
theorem newey_west_unclamped (values : List Decimal) (lag : ℤ) (h : values ≠ []) :
    0 ≤ longRunVariance values lag ∧ neweyWestStandardError values lag =
      .ok (decimalSqrt (longRunVariance values lag / values.length)) := by
  have hnonneg := longRunVariance_nonneg values lag
  refine ⟨hnonneg, ?_⟩
  rw [neweyWestStandardError, raiseIf_neg _ h, max_eq_right hnonneg]
  rfl

/-- Three alternating values with a lag of five: the autocovariances have both signs. -/
theorem alternating_unclamped : autocovariance [1, -1, 1] 1 < 0 ∧
    longRunVariance [1, -1, 1] 5 = 8 / 81 ∧ neweyWestStandardError [1, -1, 1] 5 =
      .ok (decimalSqrt (longRunVariance [1, -1, 1] 5 / ([1, -1, 1] : List Decimal).length)) :=
  ⟨by decide +kernel, by decide +kernel, (newey_west_unclamped [1, -1, 1] 5 (by decide)).2⟩

end AdaptiveQuant.Evaluation
