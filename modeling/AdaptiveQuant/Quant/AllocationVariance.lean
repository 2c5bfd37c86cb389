import AdaptiveQuant.Quant.AllocationBounds

/-! The variance of an allocation. -/

namespace AdaptiveQuant.Quant

open Guard PairVariance

section Variance

variable {K : Type} [Field K] [LinearOrder K] {a c b : K} {p : AllocationParameters K}
  {signal : Q1Signal K} {sqrt : K → K}

/-- The root may exceed the true one but is never below it. -/
def IsSquareRoot (sqrt : K → K) : Prop := ∀ x, 0 ≤ x → 0 ≤ sqrt x ∧ x ≤ sqrt x * sqrt x

/-- The variance of every allocation is at most the squared target. -/
def VarianceWithinTarget (sqrt : K → K) (canonicalHash : AllocationPayload K → String)
    (signal : Q1Signal K) (config : Q1MathConfig K) : Prop :=
  ∀ result qqq soxx cash variance,
    allocateQ1 sqrt canonicalHash signal config = .ok result →
    result.targetWeights = [("QQQ", qqq), ("SOXX", soxx), ("USD_CASH", cash)] →
    portfolioVariance (RiskyWeights.mk qqq soxx).mapping signal.covariance = .ok variance →
    variance ≤ config.val.allocation.q1TargetVol * config.val.allocation.q1TargetVol

def rawScale (sqrt : K → K) (p : AllocationParameters K) (a c b : K) (raw : RiskyWeights K) : K :=
  volatilityScale p (sqrt (variance a c b raw.qqq raw.soxx))

/-- No cap cuts a leg that hedges the other: each leg is left alone after the volatility scaling, or
the raw portfolio has no more variance without it. -/
structure KeepsHedge (sqrt : K → K) (signal : Q1Signal K) (p : AllocationParameters K)
    (a c b : K) : Prop where
  qqq : ∀ raw, rawWeights sqrt signal = .ok raw →
    raw.qqq * rawScale sqrt p a c b raw ≤ p.qqqMaxWeight ∨
      variance a c b 0 raw.soxx ≤ variance a c b raw.qqq raw.soxx
  soxx : ∀ raw, rawWeights sqrt signal = .ok raw →
    (raw.soxx * rawScale sqrt p a c b raw ≤ p.soxxMaxWeight ∧
        contribution a c b (limitedWeights p (rawScale sqrt p a c b raw) raw).qqq
            (limitedWeights p (rawScale sqrt p a c b raw) raw).soxx ≤
          p.soxxMaxVarianceContribution + p.riskContributionTolerance) ∨
      variance a c b raw.qqq 0 ≤ variance a c b raw.qqq raw.soxx

theorem IsSquareRoot.pos (hsqrt : IsSquareRoot sqrt) {x : K} (hx : 0 < x) : 0 < sqrt x := by
  obtain ⟨hnonneg, hsquare⟩ := hsqrt x hx.le
  refine hnonneg.lt_of_ne' fun hzero => ?_
  rw [hzero, mul_zero] at hsquare
  exact absurd hx (not_lt.mpr hsquare)

variable [IsStrictOrderedRing K]

theorem scaled_variance_le (hp : p.Bounded) (hsqrt : IsSquareRoot sqrt)
    (h : signal.covariance.IsPositiveSemidefinite a c b) (raw : RiskyWeights K) :
    variance a c b (rawScale sqrt p a c b raw * raw.qqq) (rawScale sqrt p a c b raw * raw.soxx) ≤
      p.q1TargetVol * p.q1TargetVol := by
  have hvariance := variance_nonneg h.qqq h.determinant raw.qqq raw.soxx
  obtain ⟨hroot, hsquare⟩ := hsqrt _ hvariance
  rw [variance_smul, rawScale, volatilityScale]
  set root := sqrt (variance a c b raw.qqq raw.soxx)
  split
  · rename_i hless
    have hpos : 0 < root := hp.target.trans hless
    calc p.q1TargetVol / root * (p.q1TargetVol / root) * variance a c b raw.qqq raw.soxx
      _ ≤ p.q1TargetVol / root * (p.q1TargetVol / root) * (root * root) :=
        mul_le_mul_of_nonneg_left hsquare (mul_self_nonneg _)
      _ = p.q1TargetVol * p.q1TargetVol := by field_simp
  · rename_i hmore
    rw [one_mul, one_mul]
    exact hsquare.trans (mul_self_le_mul_self hroot (not_lt.mp hmore))

theorem scaled_drop_le {k x y x' y' : K} (h : variance a c b x' y' ≤ variance a c b x y) :
    variance a c b (k * x') (k * y') ≤ variance a c b (k * x) (k * y) := by
  rw [variance_smul, variance_smul]
  exact mul_le_mul_of_nonneg_left h (mul_self_nonneg k)

theorem finalWeights_eq (hp : p.Bounded) (h : signal.IsValid a c b)
    {n : AllocationNumbers K} (hn : n.Staged sqrt signal p a c b)
    (hraw : 0 ≤ n.raw.qqq ∧ 0 ≤ n.raw.soxx) (hscale : 0 ≤ n.scale) :
    ∃ factor soxx, 0 ≤ factor ∧ factor ≤ 1 ∧ 0 ≤ soxx ∧
      soxx ≤ (cappedWeights p n.scale n.raw).soxx ∧
      n.weights.qqq = factor * (cappedWeights p n.scale n.raw).qqq ∧
      n.weights.soxx = factor * soxx ∧
      (contribution a c b (limitedWeights p n.scale n.raw).qqq
          (limitedWeights p n.scale n.raw).soxx ≤
        p.soxxMaxVarianceContribution + p.riskContributionTolerance →
        soxx = (cappedWeights p n.scale n.raw).soxx) := by
  set capped := cappedWeights p n.scale n.raw with hcapped
  have hcapped0 : 0 ≤ capped.soxx := le_min (mul_nonneg hraw.2 hscale) hp.soxx
  obtain ⟨factor, hfactor0, hfactor1, hgross, -⟩ := grossWeights_eq hp capped
  have hlimited : limitedWeights p n.scale n.raw = ⟨factor * capped.qqq, factor * capped.soxx⟩ :=
    hgross
  have hqqq := hn.qqq
  have hsoxx := hn.soxx
  rw [hlimited] at hqqq hsoxx ⊢
  obtain ⟨cut, hcut, hcut0, hcut1, -, hwhole⟩ := capSoxxRiskContribution_ok hp h.covariance
    n.weights.qqq (mul_nonneg hfactor0 hcapped0)
  have hsame : n.weights.soxx = cut := by
    rw [hsoxx] at hcut
    exact Except.ok.inj hcut
  rcases hfactor0.eq_or_lt with hzero | hpos
  · -- nothing is left
    refine ⟨factor, capped.soxx, hfactor0, hfactor1, hcapped0, le_rfl, hqqq, ?_, fun _ => rfl⟩
    rw [← hzero, zero_mul] at hcut1 ⊢
    rw [hsame]
    exact le_antisymm hcut1 hcut0
  · refine ⟨factor, cut / factor, hfactor0, hfactor1, div_nonneg hcut0 hfactor0, ?_, hqqq, ?_, ?_⟩
    · rw [div_le_iff₀ hpos, mul_comm]
      exact hcut1
    · rw [hsame, mul_div_cancel₀ _ hpos.ne']
    · intro hcontribution
      rw [← hqqq] at hcontribution
      rw [hwhole hcontribution, mul_div_cancel_left₀ _ hpos.ne']

/-- If no cap cuts a leg that hedges the other, the variance of the allocation is within the
target. -/
theorem allocation_variance_le (config : Q1MathConfig K)
    (canonicalHash : AllocationPayload K → String) (h : signal.IsValid a c b)
    (hsqrt : IsSquareRoot sqrt) (hhedge : KeepsHedge sqrt signal config.val.allocation a c b) :
    VarianceWithinTarget sqrt canonicalHash signal config := by
  obtain ⟨hp, -, -⟩ := config.bounded
  obtain ⟨result, n, hresult, hn, hlimits⟩ :=
    allocateQ1_ok config canonicalHash h fun x hx => hsqrt.pos hx
  intro result' qqq soxx cash value hresult' htargets hvalue
  rw [hresult] at hresult'
  cases hresult'
  rw [hlimits.targets] at htargets
  simp only [List.cons.injEq, Prod.mk.injEq, true_and, and_true] at htargets
  obtain ⟨rfl, rfl, -⟩ := htargets
  have hmapping := mapping_getD (RiskyWeights.mk n.weights.qqq n.weights.soxx)
  rw [portfolioVariance_eq h.covariance hmapping.1 hmapping.2] at hvalue
  rw [← Except.ok.inj hvalue]
  -- the stages before the caps
  obtain ⟨raw, hraw, hqqq0, hsoxx0, -⟩ := rawWeights_ok h fun x hx => hsqrt.pos hx
  have hsame : n.raw = raw := Except.ok.inj (hn.raw.symm.trans hraw)
  have hscale : n.scale = rawScale sqrt config.val.allocation a c b raw := by
    rw [hn.scale, hn.rawVolatility, hsame, rawScale]
  obtain ⟨hscale0, -⟩ := volatilityScale_bounds hp (sqrt (variance a c b raw.qqq raw.soxx))
  have hscaled := scaled_variance_le hp hsqrt h.covariance raw
  have hhedgeQqq := hhedge.qqq raw hraw
  have hhedgeSoxx := hhedge.soxx raw hraw
  change 0 ≤ rawScale sqrt config.val.allocation a c b raw at hscale0
  rw [← hscale] at hscaled hhedgeQqq hhedgeSoxx hscale0
  obtain ⟨factor, cut, hfactor0, hfactor1, hcut0, hcut1, hqqq, hsoxx, hwhole⟩ :=
    finalWeights_eq hp h hn (by rw [hsame]; exact ⟨hqqq0, hsoxx0⟩) hscale0
  rw [hsame] at hcut1 hqqq hwhole
  have hfirst : 0 ≤ (cappedWeights config.val.allocation n.scale raw).qqq :=
    le_min (mul_nonneg hqqq0 hscale0) hp.qqq
  -- the caps do not lift the variance
  have hcuts : variance a c b (cappedWeights config.val.allocation n.scale raw).qqq cut ≤
      variance a c b (n.scale * raw.qqq) (n.scale * raw.soxx) := by
    refine variance_le_of_cuts h.covariance.qqq.le h.covariance.soxx.le hfirst ?_ hcut0 ?_ ?_ ?_
    · rw [mul_comm n.scale]
      exact min_le_left _ _
    · rw [mul_comm n.scale]
      exact hcut1.trans (min_le_left _ _)
    · rcases hhedgeQqq with hle | hdrop
      · left
        rw [mul_comm n.scale]
        exact min_eq_left hle
      · right
        simpa using scaled_drop_le hdrop (k := n.scale)
    · rcases hhedgeSoxx with ⟨hle, hcontribution⟩ | hdrop
      · left
        rw [hwhole hcontribution, mul_comm n.scale]
        exact min_eq_left hle
      · right
        simpa using scaled_drop_le hdrop (k := n.scale)
  have hnonneg := variance_nonneg h.covariance.qqq h.covariance.determinant
    (cappedWeights config.val.allocation n.scale raw).qqq cut
  have hfactor : factor * factor ≤ 1 := by nlinarith
  rw [hqqq, hsoxx, variance_smul]
  exact ((mul_le_of_le_one_left hnonneg hfactor).trans hcuts).trans hscaled

end Variance

theorem sampleRoot_isSquareRoot : IsSquareRoot sampleRoot := by
  intro x hx
  unfold sampleRoot
  split_ifs <;> constructor <;> nlinarith

theorem steadySignal_raw : rawWeights sampleRoot steadySignal = .ok ⟨3 / 5, 2 / 5⟩ := by
  have hraw : (rawWeights sampleRoot steadySignal).toOption.any
      (fun raw => raw = ⟨3 / 5, 2 / 5⟩) = true := by decide +kernel
  obtain ⟨raw, hok, heq⟩ := exists_of_any hraw
  rw [hok, of_decide_eq_true heq]

theorem steadySignal_keepsHedge :
    KeepsHedge sampleRoot steadySignal shippedQ1Config.val.allocation (1 / 25) (3 / 400)
      (9 / 100) where
  qqq raw hraw := by
    rw [steadySignal_raw] at hraw
    cases hraw
    right
    norm_num [variance]
  soxx raw hraw := by
    rw [steadySignal_raw] at hraw
    cases hraw
    right
    norm_num [variance]

theorem steadySignal_variance_le :
    VarianceWithinTarget sampleRoot (fun _ => "digest") steadySignal shippedQ1Config :=
  allocation_variance_le shippedQ1Config (fun _ => "digest") steadySignal_isValid
    sampleRoot_isSquareRoot steadySignal_keepsHedge

/-- QQQ with a volatility of 0.45 and SOXX with one of 0.3, with a correlation of -0.75. -/
def hedgedSignal : Q1Signal Decimal :=
  sampleSignal (81 / 400) (-81 / 800) (9 / 100) (9 / 10) (6 / 10)

/-- The cap on SOXX cuts the hedge from 0.50 to 0.45, and the variance rises from 0.0225 to
0.0232875. -/
theorem hedgedSignal_variance_gt :
    hedgedSignal.IsValid (81 / 400) (-81 / 800) (9 / 100) ∧ IsSquareRoot sampleRoot ∧
      ¬VarianceWithinTarget sampleRoot (fun _ => "digest") hedgedSignal shippedQ1Config := by
  have hvalid : hedgedSignal.IsValid (81 / 400) (-81 / 800) (9 / 100) :=
    sampleSignal_isValid (by norm_num) (by norm_num) (by norm_num) (by norm_num) (by norm_num)
  refine ⟨hvalid, sampleRoot_isSquareRoot, fun hwithin => ?_⟩
  have hresult : (allocateQ1 sampleRoot (fun _ => "digest") hedgedSignal
      shippedQ1Config).toOption.any (fun result => result.targetWeights =
        [("QQQ", 1 / 2), ("SOXX", 9 / 20), ("USD_CASH", 1 / 20)]) = true := by decide +kernel
  obtain ⟨result, hok, htargets⟩ := exists_of_any hresult
  have hmapping := mapping_getD (RiskyWeights.mk (1 / 2 : Decimal) (9 / 20))
  have hvariance := hwithin result (1 / 2) (9 / 20) (1 / 20) _ hok (of_decide_eq_true htargets)
    (portfolioVariance_eq hvalid.covariance hmapping.1 hmapping.2)
  have htarget : shippedQ1Config.val.allocation.q1TargetVol = 15 / 100 := rfl
  rw [htarget] at hvariance
  norm_num [variance] at hvariance

end AdaptiveQuant.Quant
