import AdaptiveQuant.Quant.Allocator

/-! The limits of an allocation: each stage of `allocate_q1` only lowers the weights of the stage
before, so no later stage breaks an earlier limit. -/

namespace AdaptiveQuant.Quant

open Guard PairVariance Bisection List

section Stages

variable {K : Type} [Field K]

theorem mapping_getD (weights : RiskyWeights K) :
    weights.mapping.getD "QQQ" 0 = weights.qqq ∧ weights.mapping.getD "SOXX" 0 = weights.soxx :=
  ⟨rfl, rfl⟩

variable [LinearOrder K] {a c b : K} {p : AllocationParameters K}

/-- Weights that are not negative, and each at most its value in `whole`. -/
structure RiskyWeights.Within (weights whole : RiskyWeights K) : Prop where
  qqq_nonneg : 0 ≤ weights.qqq
  soxx_nonneg : 0 ≤ weights.soxx
  qqq_le : weights.qqq ≤ whole.qqq
  soxx_le : weights.soxx ≤ whole.soxx

theorem RiskyWeights.Within.trans {x y z : RiskyWeights K} (hxy : x.Within y) (hyz : y.Within z) :
    x.Within z where
  qqq_nonneg := hxy.qqq_nonneg
  soxx_nonneg := hxy.soxx_nonneg
  qqq_le := hxy.qqq_le.trans hyz.qqq_le
  soxx_le := hxy.soxx_le.trans hyz.soxx_le

/-- The signal has what the allocation reads of it. -/
structure Q1Signal.IsValid (signal : Q1Signal K) (a c b : K) : Prop where
  covariance : signal.covariance.IsPositiveSemidefinite a c b
  scores : ∀ symbol ∈ ["QQQ", "SOXX"], ∃ score, signal.scoreFor symbol = .ok score ∧ 0 ≤ score
  trends : ∀ symbol ∈ ["QQQ", "SOXX"], ∃ trend, signal.trendFor symbol = .ok trend
  confidence_nonneg : 0 ≤ signal.confidence
  confidence_le_one : signal.confidence ≤ 1

def contribution (a c b x y : K) : K :=
  if variance a c b x y = 0 ∨ y = 0 then 0 else y * (c * x + b * y) / variance a c b x y

theorem contribution_zero (x : K) : contribution a c b x 0 = 0 := by simp [contribution]

theorem bisectSoxx_eq {f} {g : K → K} (h : ∀ x, f x = .ok (g x)) (cap : K) (n : ℕ) (low high : K) :
    bisectSoxx f cap n low high = .ok (bisect (fun x => g x ≤ cap) n low high).1 := by
  induction n generalizing low high with
  | zero => rfl
  | succ n ih =>
    simp only [bisectSoxx, h, ok_bind, bisect_succ]
    split
    · exact ih _ _
    · exact ih _ _

variable {signal : Q1Signal K} {sqrt : K → K} [IsStrictOrderedRing K]

theorem RiskyWeights.Within.sum_le {x y : RiskyWeights K} (h : x.Within y) : x.sum ≤ y.sum :=
  add_le_add h.qqq_le h.soxx_le

theorem rawWeights_ok (h : signal.IsValid a c b) (hsqrt : ∀ x, 0 < x → 0 < sqrt x) :
    ∃ raw, rawWeights sqrt signal = .ok raw ∧ 0 ≤ raw.qqq ∧ 0 ≤ raw.soxx ∧
      raw.sum ≤ signal.confidence := by
  obtain ⟨qqq, hqqq, hqqq0⟩ := h.scores "QQQ" (by simp)
  obtain ⟨soxx, hsoxx, hsoxx0⟩ := h.scores "SOXX" (by simp)
  obtain ⟨ha, -, -, hb⟩ := h.covariance.value_eq
  simp only [rawWeights, hqqq, hsoxx, ok_bind, CovarianceEstimate.variance, ha, hb]
  by_cases hzero : qqq = 0 ∧ soxx = 0
  · rw [if_pos hzero]
    exact ⟨_, rfl, le_rfl, le_rfl, by simpa [RiskyWeights.sum] using h.confidence_nonneg⟩
  · rw [if_neg hzero]
    have hsa := hsqrt a h.covariance.qqq
    have hsb := hsqrt b h.covariance.soxx
    have hqqq1 : 0 ≤ qqq / sqrt a := div_nonneg hqqq0 hsa.le
    have hsoxx1 : 0 ≤ soxx / sqrt b := div_nonneg hsoxx0 hsb.le
    have hsum : 0 < qqq / sqrt a + soxx / sqrt b := by
      rcases not_and_or.mp hzero with hne | hne
      · exact add_pos_of_pos_of_nonneg (div_pos (hqqq0.lt_of_ne' hne) hsa) hsoxx1
      · exact add_pos_of_nonneg_of_pos hqqq1 (div_pos (hsoxx0.lt_of_ne' hne) hsb)
    rw [raiseIf_neg _ (not_le.mpr hsum)]
    refine ⟨_, rfl, ?_, ?_, ?_⟩
    · exact div_nonneg (mul_nonneg h.confidence_nonneg hqqq1) hsum.le
    · exact div_nonneg (mul_nonneg h.confidence_nonneg hsoxx1) hsum.le
    · show signal.confidence * (qqq / sqrt a) / (qqq / sqrt a + soxx / sqrt b) +
        signal.confidence * (soxx / sqrt b) / (qqq / sqrt a + soxx / sqrt b) ≤ signal.confidence
      rw [← add_div, ← mul_add, mul_div_cancel_right₀ _ hsum.ne']

theorem volatilityScale_bounds (hp : p.Bounded) (rawVolatility : K) :
    0 ≤ volatilityScale p rawVolatility ∧ volatilityScale p rawVolatility ≤ 1 := by
  unfold volatilityScale
  split
  · rename_i hless
    have hpos := hp.target.trans hless
    exact ⟨div_nonneg hp.target.le hpos.le, (div_le_one hpos).mpr hless.le⟩
  · exact ⟨zero_le_one, le_rfl⟩

theorem cappedWeights_within (hp : p.Bounded) {scale : K} (hscale0 : 0 ≤ scale)
    (hscale1 : scale ≤ 1) {raw : RiskyWeights K} (hqqq : 0 ≤ raw.qqq) (hsoxx : 0 ≤ raw.soxx) :
    (cappedWeights p scale raw).Within raw where
  qqq_nonneg := le_min (mul_nonneg hqqq hscale0) hp.qqq
  soxx_nonneg := le_min (mul_nonneg hsoxx hscale0) hp.soxx
  qqq_le := (min_le_left _ _).trans (mul_le_of_le_one_right hqqq hscale1)
  soxx_le := (min_le_left _ _).trans (mul_le_of_le_one_right hsoxx hscale1)

theorem grossWeights_eq (hp : p.Bounded) (weights : RiskyWeights K) :
    ∃ factor, 0 ≤ factor ∧ factor ≤ 1 ∧
      grossWeights p weights = ⟨factor * weights.qqq, factor * weights.soxx⟩ ∧
      (grossWeights p weights).sum ≤ p.maxGrossRiskyWeight := by
  unfold grossWeights
  by_cases hgross : p.maxGrossRiskyWeight < weights.sum
  · rw [if_pos hgross]
    have hpos : 0 < weights.sum := hp.gross.1.trans_lt hgross
    refine ⟨p.maxGrossRiskyWeight / weights.sum, div_nonneg hp.gross.1 hpos.le,
      (div_le_one hpos).mpr hgross.le, ?_, ?_⟩
    · rw [mul_comm weights.qqq, mul_comm weights.soxx]
    · show weights.qqq * _ + weights.soxx * _ ≤ _
      rw [← add_mul]
      exact (mul_div_cancel₀ _ hpos.ne').le
  · rw [if_neg hgross]
    exact ⟨1, zero_le_one, le_rfl, by rw [one_mul, one_mul], not_lt.mp hgross⟩

variable {weights : RiskyWeights K}

theorem grossWeights_within (hp : p.Bounded) (hqqq : 0 ≤ weights.qqq)
    (hsoxx : 0 ≤ weights.soxx) : (grossWeights p weights).Within weights := by
  obtain ⟨factor, hfactor0, hfactor1, heq, -⟩ := grossWeights_eq hp weights
  rw [heq]
  exact ⟨mul_nonneg hfactor0 hqqq, mul_nonneg hfactor0 hsoxx, mul_le_of_le_one_left hqqq hfactor1,
    mul_le_of_le_one_left hsoxx hfactor1⟩

variable {covariance : CovarianceEstimate K}

theorem soxxRiskContribution_eq
    (h : covariance.IsPositiveSemidefinite a c b) (qqqWeight soxxWeight : K) :
    soxxRiskContribution covariance qqqWeight soxxWeight =
      .ok (contribution a c b qqqWeight soxxWeight) := by
  obtain ⟨-, -, hc, hb⟩ := h.value_eq
  have hmapping := mapping_getD (RiskyWeights.mk qqqWeight soxxWeight)
  rw [soxxRiskContribution, portfolioVariance_eq h hmapping.1 hmapping.2, ok_bind, contribution]
  split
  · rfl
  · rw [hc, hb]
    rfl

theorem capSoxxRiskContribution_ok (hp : p.Bounded) (h : covariance.IsPositiveSemidefinite a c b)
    (qqqWeight : K) {soxxWeight : K} (hsoxx : 0 ≤ soxxWeight) :
    ∃ soxx, capSoxxRiskContribution p covariance qqqWeight soxxWeight = .ok soxx ∧
      0 ≤ soxx ∧ soxx ≤ soxxWeight ∧
      contribution a c b qqqWeight soxx ≤
        p.soxxMaxVarianceContribution + p.riskContributionTolerance ∧
      (contribution a c b qqqWeight soxxWeight ≤
        p.soxxMaxVarianceContribution + p.riskContributionTolerance → soxx = soxxWeight) := by
  have hcap : 0 ≤ p.soxxMaxVarianceContribution + p.riskContributionTolerance :=
    add_nonneg hp.contribution hp.contributionTolerance.le
  unfold capSoxxRiskContribution
  by_cases hzero : soxxWeight = 0
  · rw [if_pos hzero]
    exact ⟨0, rfl, le_rfl, hsoxx, by rwa [contribution_zero], fun _ => hzero.symm⟩
  · rw [if_neg hzero]
    simp only [soxxRiskContribution_eq h, ok_bind]
    by_cases hcurrent : contribution a c b qqqWeight soxxWeight ≤
        p.soxxMaxVarianceContribution + p.riskContributionTolerance
    · rw [if_pos hcurrent]
      exact ⟨soxxWeight, rfl, hsoxx, le_rfl, hcurrent, fun _ => rfl⟩
    · rw [if_neg hcurrent, bisectSoxx_eq (fun x => soxxRiskContribution_eq h qqqWeight x), ok_bind]
      have hgood := @bisect_good K _ (fun x => contribution a c b qqqWeight x ≤
        p.soxxMaxVarianceContribution) _ p.riskContributionBisectionIterations 0 soxxWeight
        (by rw [contribution_zero]; exact hp.contribution)
      obtain ⟨hlow, hmid, hhigh⟩ := @bisect_bounds K _ (fun x => contribution a c b qqqWeight x ≤
        p.soxxMaxVarianceContribution) _ _ _ p.riskContributionBisectionIterations 0 soxxWeight
        hsoxx
      have hfinal := hgood.trans (le_add_of_nonneg_right hp.contributionTolerance.le)
      rw [raiseIf_neg _ (not_lt.mpr hfinal)]
      exact ⟨_, rfl, hlow, hmid.trans hhigh, hfinal, fun hle => absurd hle hcurrent⟩

def limitedWeights (p : AllocationParameters K) (scale : K) (raw : RiskyWeights K) :
    RiskyWeights K :=
  grossWeights p (cappedWeights p scale raw)

structure AllocationNumbers.Staged (n : AllocationNumbers K) (sqrt : K → K) (signal : Q1Signal K)
    (p : AllocationParameters K) (a c b : K) : Prop where
  raw : rawWeights sqrt signal = .ok n.raw
  rawVolatility : n.rawVolatility = sqrt (variance a c b n.raw.qqq n.raw.soxx)
  scale : n.scale = volatilityScale p n.rawVolatility
  qqq : n.weights.qqq = (limitedWeights p n.scale n.raw).qqq
  soxx : capSoxxRiskContribution p signal.covariance n.weights.qqq
    (limitedWeights p n.scale n.raw).soxx = .ok n.weights.soxx
  contribution : n.soxxContribution = contribution a c b n.weights.qqq n.weights.soxx

structure AllocationNumbers.Limited (n : AllocationNumbers K) (signal : Q1Signal K)
    (p : AllocationParameters K) : Prop where
  within : n.weights.Within (limitedWeights p n.scale n.raw)
  qqq : n.weights.qqq ≤ p.qqqMaxWeight
  soxx : n.weights.soxx ≤ p.soxxMaxWeight
  gross : n.weights.sum ≤ p.maxGrossRiskyWeight
  confidence : n.weights.sum ≤ signal.confidence
  contribution : n.soxxContribution ≤ p.soxxMaxVarianceContribution + p.riskContributionTolerance

theorem allocationNumbers_ok (hp : p.Bounded) (h : signal.IsValid a c b)
    (hsqrt : ∀ x, 0 < x → 0 < sqrt x) :
    ∃ n, allocationNumbers sqrt signal p = .ok n ∧ n.Staged sqrt signal p a c b ∧
      n.Limited signal p := by
  obtain ⟨raw, hraw, hqqq, hsoxx, hconfidence⟩ := rawWeights_ok h hsqrt
  have hvariance : ∀ weights : RiskyWeights K,
      portfolioVariance weights.mapping signal.covariance =
        .ok (variance a c b weights.qqq weights.soxx) := fun weights =>
    portfolioVariance_eq h.covariance (mapping_getD weights).1 (mapping_getD weights).2
  obtain ⟨hscale0, hscale1⟩ :=
    volatilityScale_bounds hp (sqrt (variance a c b raw.qqq raw.soxx))
  set scale := volatilityScale p (sqrt (variance a c b raw.qqq raw.soxx)) with hscale
  have hcapped := cappedWeights_within hp hscale0 hscale1 hqqq hsoxx
  have hlimited := grossWeights_within hp hcapped.qqq_nonneg hcapped.soxx_nonneg
  obtain ⟨-, -, -, -, hgross⟩ := grossWeights_eq hp (cappedWeights p scale raw)
  obtain ⟨soxx, hcap, hsoxx0, hsoxx1, hcontribution, -⟩ := capSoxxRiskContribution_ok hp
    h.covariance (grossWeights p (cappedWeights p scale raw)).qqq hlimited.soxx_nonneg
  have hwithin : (RiskyWeights.mk (grossWeights p (cappedWeights p scale raw)).qqq soxx).Within
      (limitedWeights p scale raw) := ⟨hlimited.qqq_nonneg, hsoxx0, le_rfl, hsoxx1⟩
  refine ⟨{ raw
            rawVolatility := sqrt (variance a c b raw.qqq raw.soxx)
            scale
            weights := ⟨(grossWeights p (cappedWeights p scale raw)).qqq, soxx⟩
            expectedVolatility := sqrt (variance a c b
              (grossWeights p (cappedWeights p scale raw)).qqq soxx)
            soxxContribution := contribution a c b
              (grossWeights p (cappedWeights p scale raw)).qqq soxx }, ?_, ?_, ?_⟩
  · simp only [allocationNumbers, hraw, hvariance, ok_bind, ← hscale, hcap,
      soxxRiskContribution_eq h.covariance]
    rfl
  · exact ⟨hraw, rfl, rfl, rfl, hcap, rfl⟩
  · exact {
      within := hwithin
      qqq := (hlimited.qqq_le).trans (min_le_right _ _)
      soxx := hsoxx1.trans (hlimited.soxx_le.trans (min_le_right _ _))
      gross := hwithin.sum_le.trans hgross
      confidence := (hwithin.sum_le.trans (hlimited.trans hcapped).sum_le).trans hconfidence
      contribution := hcontribution }

/-- The weights of the result keep every limit. -/
structure AllocationResult.WithinLimits (result : AllocationResult K) (signal : Q1Signal K)
    (p : AllocationParameters K) (qqq soxx cash : K) : Prop where
  targets : result.targetWeights = [("QQQ", qqq), ("SOXX", soxx), ("USD_CASH", cash)]
  nonneg : 0 ≤ qqq ∧ 0 ≤ soxx ∧ 0 ≤ cash
  sum : qqq + soxx + cash = 1
  qqq_le : qqq ≤ p.qqqMaxWeight
  soxx_le : soxx ≤ p.soxxMaxWeight
  gross_le : qqq + soxx ≤ p.maxGrossRiskyWeight
  confidence_le : qqq + soxx ≤ signal.confidence
  contribution : soxxRiskContribution signal.covariance qqq soxx =
    .ok result.soxxVarianceContribution
  contribution_le : result.soxxVarianceContribution ≤
    p.soxxMaxVarianceContribution + p.riskContributionTolerance

theorem validateQ1Weights_ok {config} (hqqq : 0 ≤ weights.qqq) (hsoxx : 0 ≤ weights.soxx)
    (hqqq1 : weights.qqq ≤ config.val.allocation.qqqMaxWeight)
    (hsoxx1 : weights.soxx ≤ config.val.allocation.soxxMaxWeight)
    (hgross : weights.sum ≤ config.val.allocation.maxGrossRiskyWeight) :
    validateQ1Weights (weights.mapping.set "USD_CASH" (1 - weights.sum)) config = .ok () := by
  obtain ⟨hp, hrisky, -⟩ := config.bounded
  have hcash : 0 ≤ 1 - weights.sum := sub_nonneg.mpr (hgross.trans hp.gross.2)
  have hvalues : (weights.mapping.set "USD_CASH" (1 - weights.sum)).values =
      [weights.qqq, weights.soxx, 1 - weights.sum] := rfl
  have hget : (weights.mapping.set "USD_CASH" (1 - weights.sum)).getD "QQQ" 0 = weights.qqq ∧
      (weights.mapping.set "USD_CASH" (1 - weights.sum)).getD "SOXX" 0 = weights.soxx := ⟨rfl, rfl⟩
  have htotal : weights.qqq + (weights.soxx + (1 - weights.sum)) - 1 = 0 := by
    unfold RiskyWeights.sum
    ring
  have hgross1 : ¬config.val.allocation.maxGrossRiskyWeight < weights.qqq + weights.soxx :=
    not_lt.mpr hgross
  have hnonneg : ¬∃ value ∈ [weights.qqq, weights.soxx, 1 - weights.sum], value < 0 := by
    rintro ⟨value, hvalue, hneg⟩
    simp only [mem_cons, not_mem_nil, or_false] at hvalue
    rcases hvalue with rfl | rfl | rfl
    · exact absurd hneg (not_lt.mpr hqqq)
    · exact absurd hneg (not_lt.mpr hsoxx)
    · exact absurd hneg (not_lt.mpr hcash)
  simp only [validateQ1Weights, validateBasicWeights, hvalues, hget.1, hget.2, hrisky,
    map_cons, map_nil, sum_cons, sum_nil, add_zero, htotal, abs_zero]
  rw [raiseIf_neg _ hnonneg, raiseIf_neg _ (not_lt.mpr hp.sumTolerance.le),
    raiseIf_neg _ hgross1, raiseIf_neg _ (not_lt.mpr hqqq1),
    raiseIf_neg _ (not_lt.mpr hsoxx1)]
  rfl

theorem allocateQ1_ok (config : Q1MathConfig K) (canonicalHash : AllocationPayload K → String)
    (h : signal.IsValid a c b) (hsqrt : ∀ x, 0 < x → 0 < sqrt x) :
    ∃ result, ∃ n : AllocationNumbers K,
      allocateQ1 sqrt canonicalHash signal config = .ok result ∧
      n.Staged sqrt signal config.val.allocation a c b ∧
      result.WithinLimits signal config.val.allocation n.weights.qqq n.weights.soxx
        (1 - n.weights.sum) := by
  obtain ⟨hp, hrisky, hcash⟩ := config.bounded
  obtain ⟨n, hn, hstaged, hlimited⟩ := allocationNumbers_ok hp h hsqrt
  have hqqq := hlimited.within.qqq_nonneg
  have hsoxx := hlimited.within.soxx_nonneg
  have hvalid := validateQ1Weights_ok hqqq hsoxx hlimited.qqq hlimited.soxx hlimited.gross
  obtain ⟨qqqTrend, hqqqTrend⟩ := h.trends "QQQ" (by simp)
  obtain ⟨soxxTrend, hsoxxTrend⟩ := h.trends "SOXX" (by simp)
  simp only [allocateQ1, hn, ok_bind, hcash, hvalid, q1Diagnostics, hqqqTrend, hsoxxTrend,
    pure_bind]
  refine ⟨_, n, rfl, hstaged, ?_⟩
  constructor
  case targets =>
    rw [hrisky]
    rfl
  case nonneg => exact ⟨hqqq, hsoxx, sub_nonneg.mpr (hlimited.gross.trans hp.gross.2)⟩
  case sum =>
    unfold RiskyWeights.sum
    ring
  case qqq_le => exact hlimited.qqq
  case soxx_le => exact hlimited.soxx
  case gross_le => exact hlimited.gross
  case confidence_le => exact hlimited.confidence
  case contribution => rw [soxxRiskContribution_eq h.covariance, ← hstaged.contribution]
  case contribution_le => exact hlimited.contribution

/-- With every positive square root of positive numbers, and for every valid signal and
configuration: the allocation does not fail, and its weights keep all limits. -/
theorem allocation_within_limits (config : Q1MathConfig K)
    (canonicalHash : AllocationPayload K → String) (h : signal.IsValid a c b)
    (hsqrt : ∀ x, 0 < x → 0 < sqrt x) :
    ∃ result qqq soxx cash, allocateQ1 sqrt canonicalHash signal config = .ok result ∧
      result.WithinLimits signal config.val.allocation qqq soxx cash := by
  obtain ⟨result, n, hresult, -, hlimits⟩ := allocateQ1_ok config canonicalHash h hsqrt
  exact ⟨result, _, _, _, hresult, hlimits⟩

end Stages

def sampleRoot (x : Decimal) : Decimal :=
  if x = 1 / 25 then 1 / 5
  else if x = 9 / 100 then 3 / 10
  else if x = 81 / 2500 then 9 / 50
  else if x = 81 / 400 then 9 / 20
  else if x = 9 / 400 then 3 / 20
  else x + 1

theorem sampleRoot_pos (x : Decimal) (hx : 0 < x) : 0 < sampleRoot x := by
  unfold sampleRoot
  split_ifs <;> linarith

def sampleSignal (a c b qqqScore soxxScore : Decimal) : Q1Signal Decimal where
  calendarSessionId := "session"
  latestCompletedSessionId := "last"
  scheduledAt := 0
  signalDataCutoff := 0
  completedSessionIds := ["last"]
  sourceBarIds := ["bar"]
  covariance :=
    { symbols := ["QQQ", "SOXX"]
      matrix := [[a, c], [c, b]]
      ewmaUnannualized := [[a, c], [c, b]]
      decayLambda := 1 / 2
      returnObservations := 120 }
  trends := [⟨"QQQ", [], [], qqqScore, 0⟩, ⟨"SOXX", [], [], soxxScore, 0⟩]
  relativeStrength := 0
  spreadReturn := 0
  spreadVariance := a + b - 2 * c
  marketGate := 1
  rawScores := [("QQQ", qqqScore), ("SOXX", soxxScore)]
  confidence := 1
  configManifestHash := "config"
  signalModelVersion := "q1_math_signal_v1"
  signalHash := "signal"

theorem sampleSignal_isValid {a c b qqqScore soxxScore : Decimal} (ha : 0 < a) (hb : 0 < b)
    (hdet : c * c ≤ a * b) (hqqq : 0 ≤ qqqScore) (hsoxx : 0 ≤ soxxScore) :
    (sampleSignal a c b qqqScore soxxScore).IsValid a c b where
  covariance := ⟨rfl, rfl, ha, hb, hdet⟩
  scores symbol hsymbol := by
    simp only [mem_cons, not_mem_nil, or_false] at hsymbol
    rcases hsymbol with rfl | rfl
    · exact ⟨qqqScore, rfl, hqqq⟩
    · exact ⟨soxxScore, rfl, hsoxx⟩
  trends symbol hsymbol := by
    simp only [mem_cons, not_mem_nil, or_false] at hsymbol
    rcases hsymbol with rfl | rfl
    · exact ⟨_, rfl⟩
    · exact ⟨_, rfl⟩
  confidence_nonneg := zero_le_one
  confidence_le_one := le_rfl

/-- QQQ with a volatility of 0.2 and SOXX with one of 0.3, a little correlated. -/
def steadySignal : Q1Signal Decimal := sampleSignal (1 / 25) (3 / 400) (9 / 100) 1 1

theorem steadySignal_isValid : steadySignal.IsValid (1 / 25) (3 / 400) (9 / 100) :=
  sampleSignal_isValid (by norm_num) (by norm_num) (by norm_num) (by norm_num) (by norm_num)

theorem steadySignal_within_limits :
    ∃ result qqq soxx cash,
      allocateQ1 sampleRoot (fun _ => "digest") steadySignal shippedQ1Config = .ok result ∧
      result.WithinLimits steadySignal shippedQ1Config.val.allocation qqq soxx cash :=
  allocation_within_limits shippedQ1Config (fun _ => "digest") steadySignal_isValid sampleRoot_pos

end AdaptiveQuant.Quant
