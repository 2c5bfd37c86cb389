import AdaptiveQuant.Quant.AllocationBounds
import Mathlib.Tactic.MkIffOfInductiveProp

/-! The cap on the share of SOXX in the variance, `_cap_soxx_risk_contribution`. -/

namespace AdaptiveQuant.Quant

open Guard PairVariance Bisection

section Cap

variable {K : Type} [Field K] [LinearOrder K]

theorem Q1MathConfig.contribution_le_one (config : Q1MathConfig K) :
    config.val.allocation.soxxMaxVarianceContribution ≤ 1 := by
  have h := config.valid
  simp only [Q1MathDocument.check, bind_eq_ok] at h
  obtain ⟨_, -, _, -, _, -, _, hallocation, -⟩ := h
  simp only [AllocationParameters.check, positiveDecimal, unitIntervalDecimal, ok_iff, not_or,
    not_lt] at hallocation
  obtain ⟨-, -, -, -, -, hcontribution, -⟩ := hallocation
  exact hcontribution.2

variable [IsStrictOrderedRing K] {a c b cap x : K}

theorem covariance_eq_zero (hdet : c * c ≤ a * b) {y : K}
    (h : variance a c b x y = 0) : c * x + b * y = 0 := by
  have hsquare : b * variance a c b x y = (c * x + b * y) * (c * x + b * y) +
      (a * b - c * c) * (x * x) := by
    unfold variance
    ring
  have hrest : 0 ≤ (a * b - c * c) * (x * x) :=
    mul_nonneg (sub_nonneg.mpr hdet) (mul_self_nonneg x)
  have hself := mul_self_nonneg (c * x + b * y)
  rw [h, mul_zero] at hsquare
  exact mul_self_eq_zero.mp (le_antisymm (by linarith) hself)

theorem contribution_le_iff (ha : 0 < a) (hdet : c * c ≤ a * b) (hcap : 0 ≤ cap) (y : K) :
    contribution a c b x y ≤ cap ↔ y * (c * x + b * y) ≤ cap * variance a c b x y := by
  have hnonneg := variance_nonneg ha hdet x y
  unfold contribution
  by_cases hzero : variance a c b x y = 0
  · rw [if_pos (.inl hzero), covariance_eq_zero hdet hzero, hzero]
    simpa using hcap
  by_cases hy : y = 0
  · rw [if_pos (.inr hy), hy, zero_mul]
    exact ⟨fun _ => mul_nonneg hcap (hy ▸ hnonneg), fun _ => hcap⟩
  · rw [if_neg (not_or.mpr ⟨hzero, hy⟩)]
    exact div_le_iff₀ (hnonneg.lt_of_ne' hzero)

theorem contribution_le_of_le (ha : 0 < a) (hb : 0 < b) (hdet : c * c ≤ a * b) (hcap : 0 ≤ cap)
    (below : cap ≤ 1) {y z : K} (hz : 0 ≤ z) (hzy : z ≤ y) (h : contribution a c b x y ≤ cap) :
    contribution a c b x z ≤ cap := by
  rw [contribution_le_iff ha hdet hcap] at h ⊢
  rcases hz.eq_or_lt with rfl | hpos
  · rw [zero_mul]
    exact mul_nonneg hcap (variance_nonneg ha hdet x 0)
  have hy : 0 < y := hpos.trans_le hzy
  -- `y` times the quadratic at `z`: the chord between its values at `0` and `y`, less the bend
  have hchord : y * (z * (c * x + b * z) - cap * variance a c b x z) =
      z * (y * (c * x + b * y) - cap * variance a c b x y) - (y - z) * (cap * (x * x * a)) -
        (1 - cap) * b * (y * z * (y - z)) := by
    unfold variance
    ring
  have hend : z * (y * (c * x + b * y) - cap * variance a c b x y) ≤ 0 :=
    mul_nonpos_of_nonneg_of_nonpos hz (sub_nonpos.mpr h)
  have hstart : 0 ≤ (y - z) * (cap * (x * x * a)) :=
    mul_nonneg (sub_nonneg.mpr hzy) (mul_nonneg hcap (mul_nonneg (mul_self_nonneg x) ha.le))
  have hbend : 0 ≤ (1 - cap) * b * (y * z * (y - z)) :=
    mul_nonneg (mul_nonneg (sub_nonneg.mpr below) hb.le)
      (mul_nonneg (mul_nonneg hy.le hz) (sub_nonneg.mpr hzy))
  refine sub_nonpos.mp (nonpos_of_mul_nonpos_right ?_ hy)
  linarith

/-- The cap returns `soxx`, up to `soxxWeight`, with a contribution within the tolerance: the weight
itself if that is within it, and else one whose contribution is at most the cap and that no admitted
weight exceeds by more than the last step of the bisection. -/
@[mk_iff]
structure CapConverges (p : AllocationParameters K) (covariance : CovarianceEstimate K)
    (qqqWeight soxxWeight soxx contributed started : K) : Prop where
  capped : capSoxxRiskContribution p covariance qqqWeight soxxWeight = .ok soxx
  contribution : soxxRiskContribution covariance qqqWeight soxx = .ok contributed
  start : soxxRiskContribution covariance qqqWeight soxxWeight = .ok started
  nonneg : 0 ≤ soxx
  le : soxx ≤ soxxWeight
  within : contributed ≤ p.soxxMaxVarianceContribution + p.riskContributionTolerance
  unchanged : started ≤ p.soxxMaxVarianceContribution + p.riskContributionTolerance →
    soxx = soxxWeight
  optimal : p.soxxMaxVarianceContribution + p.riskContributionTolerance < started →
    contributed ≤ p.soxxMaxVarianceContribution ∧
      ∀ y, 0 ≤ y → y ≤ soxxWeight → ∀ admitted,
        soxxRiskContribution covariance qqqWeight y = .ok admitted →
        admitted ≤ p.soxxMaxVarianceContribution →
        y ≤ soxx + soxxWeight / 2 ^ p.riskContributionBisectionIterations

/-- The cap never raises and converges, for every configuration that is accepted. -/
theorem capSoxxRiskContribution_converges (config : Q1MathConfig K)
    {covariance : CovarianceEstimate K} (h : covariance.IsPositiveSemidefinite a c b)
    (qqqWeight : K) {soxxWeight : K} (hsoxx : 0 ≤ soxxWeight) :
    ∃ soxx contributed started, CapConverges config.val.allocation covariance qqqWeight soxxWeight
      soxx contributed started := by
  let p := config.val.allocation
  let cap := p.soxxMaxVarianceContribution
  obtain ⟨hp, -⟩ := config.bounded
  have hbelow : cap ≤ 1 := config.contribution_le_one
  have htolerance : cap ≤ cap + p.riskContributionTolerance :=
    le_add_of_nonneg_right hp.contributionTolerance.le
  simp only [capConverges_iff, soxxRiskContribution_eq h, Except.ok.injEq, forall_eq']
  obtain ⟨soxx, hresult, hnonneg, hle, hcapped, hkept⟩ :=
    capSoxxRiskContribution_ok hp h qqqWeight hsoxx
  refine ⟨soxx, _, _, hresult, rfl, rfl, hnonneg, hle, hcapped, hkept, fun hstarted => ?_⟩
  have hcurrent := not_le.mpr hstarted
  let good : K → Prop := fun y => contribution a c b qqqWeight y ≤ cap
  have hsoxx' : soxx = (bisect good p.riskContributionBisectionIterations 0 soxxWeight).1 := by
    have hpos : soxxWeight ≠ 0 := by
      rintro rfl
      exact hcurrent (by rw [contribution_zero]; exact hp.contribution.trans htolerance)
    simp only [capSoxxRiskContribution, if_neg hpos, soxxRiskContribution_eq h, ok_bind,
      bisectSoxx_eq (fun y => soxxRiskContribution_eq h qqqWeight y)] at hresult
    rw [if_neg hcurrent] at hresult
    obtain ⟨-, -, heq⟩ := bind_eq_ok.mp hresult
    exact (Except.ok.inj heq).symm
  have hzero : good 0 := by
    show contribution a c b qqqWeight 0 ≤ cap
    rw [contribution_zero]
    exact hp.contribution
  refine ⟨hsoxx' ▸ bisect_good hzero, fun y hy hsmall hadmitted => ?_⟩
  have hhigh : ¬good soxxWeight := fun hle => hcurrent (hle.trans htolerance)
  have hconverges := bisect_converges (n := p.riskContributionBisectionIterations) hsoxx hhigh
    fun z hz hzy => contribution_le_of_le h.qqq h.soxx h.determinant hp.contribution hbelow hz hzy
      hadmitted
  rwa [sub_zero, ← hsoxx'] at hconverges

end Cap

/-- QQQ and SOXX uncorrelated, with variances that give equal weights a contribution of a little
more than the cap. -/
def toleratedCovariance : CovarianceEstimate Decimal :=
  (sampleSignal 1 0 (12222222222222222223 / 10 ^ 19) 1 1).covariance

/-- A contribution above the cap is returned when it is within the tolerance. -/
theorem tolerated_contribution_exceeds_cap :
    capSoxxRiskContribution shippedQ1Config.val.allocation toleratedCovariance (1 / 4) (1 / 4) =
      .ok (1 / 4) ∧
    ∃ contributed, soxxRiskContribution toleratedCovariance (1 / 4) (1 / 4) = .ok contributed ∧
      shippedQ1Config.val.allocation.soxxMaxVarianceContribution < contributed := by
  refine ⟨by decide +kernel, 12222222222222222223 / 22222222222222222223, by decide +kernel, ?_⟩
  decide +kernel

theorem steadyCovariance_converges :
    ∃ soxx contributed started, CapConverges shippedQ1Config.val.allocation steadySignal.covariance
      (1 / 10) (2 / 5) soxx contributed started :=
  capSoxxRiskContribution_converges shippedQ1Config steadySignal_isValid.covariance (1 / 10)
    (by norm_num)

end AdaptiveQuant.Quant
