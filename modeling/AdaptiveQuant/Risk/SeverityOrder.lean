import AdaptiveQuant.Risk.EpisodeRun

/-! How the severity that `evaluateRiskCheck` indicates depends on its inputs. -/

namespace AdaptiveQuant

open Guard

theorem decimalSqrt_nonneg (value : Decimal) : 0 ≤ decimalSqrt value := by
  unfold decimalSqrt
  split
  · exact le_rfl
  · exact mul_nonneg (Nat.cast_nonneg _) (zpow_nonneg (by norm_num) _)

theorem clip_mono {value value' lower upper : Decimal} (h : value ≤ value') :
    clip value lower upper ≤ clip value' lower upper :=
  min_le_min_left upper (max_le_max_left lower h)

def lossFraction (reference nav : Decimal) : Decimal := max 0 ((reference - nav) / reference)

theorem lossFraction_antitone {reference nav nav' : Decimal} (hpos : 0 < reference)
    (h : nav ≤ nav') : lossFraction reference nav' ≤ lossFraction reference nav := by
  apply max_le_max_left
  apply div_le_div_of_nonneg_right _ hpos.le
  linarith

theorem drawdown_antitone {peak nav nav' : Decimal} (hpos : 0 < peak) (h : nav ≤ nav') :
    lossFraction (max peak nav') nav' ≤ lossFraction (max peak nav) nav := by
  by_cases hpeak : nav' ≤ peak
  · rw [max_eq_left hpeak, max_eq_left (h.trans hpeak)]
    exact lossFraction_antitone hpos h
  · rw [max_eq_right (le_of_not_ge hpeak)]
    have hzero : lossFraction nav' nav' = 0 := by simp [lossFraction]
    rw [hzero]
    exact le_max_left 0 _

def dailyThreshold (config : RiskEngineConfig) (multiple floor ceiling : Decimal)
    (volatility : Option Decimal) : Decimal :=
  clip (multiple * (volatility.map (· / decimalSqrt config.annualizationSessions)).getD 0) floor
    ceiling

variable {config : RiskEngineConfig}

theorem dailyThreshold_mono {multiple floor ceiling : Decimal} {volatility volatility'}
    (hmultiple : 0 ≤ multiple) (h : volatility.getD 0 ≤ volatility'.getD 0) :
    dailyThreshold config multiple floor ceiling volatility ≤
      dailyThreshold config multiple floor ceiling volatility' := by
  have hsigma (v : Option Decimal) : (v.map (· / decimalSqrt config.annualizationSessions)).getD 0 =
      v.getD 0 / decimalSqrt config.annualizationSessions := by
    cases v with
    | none => simp
    | some value => rfl
  apply clip_mono
  rw [hsigma, hsigma]
  apply mul_le_mul_of_nonneg_left _ hmultiple
  exact div_le_div_of_nonneg_right h (decimalSqrt_nonneg _)

def severityOf (critical hard soft : Prop) [Decidable critical] [Decidable hard]
    [Decidable soft] : RiskSeverity :=
  if critical then .criticalExit else if hard then .hardReduce else if soft then .softStop
  else .normal

theorem severityOf_mono {critical hard soft critical' hard' soft' : Prop} [Decidable critical]
    [Decidable hard] [Decidable soft] [Decidable critical'] [Decidable hard'] [Decidable soft']
    (hcritical : critical → critical') (hhard : hard → hard') (hsoft : soft → soft') :
    (severityOf critical hard soft).rank ≤ (severityOf critical' hard' soft').rank := by
  unfold severityOf
  by_cases h3 : critical
  · rw [if_pos h3, if_pos (hcritical h3)]
  by_cases h2 : hard
  · rw [if_neg h3, if_pos h2, if_pos (hhard h2)]
    split <;> decide
  by_cases h1 : soft
  · rw [if_neg h3, if_neg h2, if_pos h1, if_pos (hsoft h1)]
    split
    · decide
    · split <;> decide
  · rw [if_neg h3, if_neg h2, if_neg h1]
    exact Nat.zero_le _

theorem evaluateRiskCheck_severity {check metrics}
    (h : evaluateRiskCheck check config = .ok metrics) :
    let nav := metrics.currentNavUsd
    let loss := lossFraction check.sessionOpenNavUsd nav
    let drawdown := lossFraction (max check.runningPeakNavUsd nav) nav
    let volatility := check.portfolioAnnualizedVol
    metrics.indicatedSeverity = severityOf
      (config.criticalDrawdownThreshold ≤ drawdown ∨ check.criticalReconciliationCondition)
      (dailyThreshold config config.hardSigmaMultiple config.hardDailyFloor config.hardDailyCeiling
        volatility ≤ loss ∨ config.hardDrawdownThreshold ≤ drawdown)
      (dailyThreshold config config.softSigmaMultiple config.softDailyFloor config.softDailyCeiling
        volatility ≤ loss ∨ config.softDrawdownThreshold ≤ drawdown) := by
  simp only [evaluateRiskCheck, ok_iff] at h
  obtain ⟨value, -, -, rfl⟩ := h
  rfl

theorem RiskEngineConfig.multiples_nonneg (config : RiskEngineConfig) :
    0 ≤ config.softSigmaMultiple ∧ 0 ≤ config.hardSigmaMultiple := by
  have h := config.valid
  simp only [RiskEngineConfigFields.validate, ok_iff, not_or, not_lt] at h
  exact h.2.2.1

theorem RiskCheckInput.baselines_pos (check : RiskCheckInput) :
    0 < check.sessionOpenNavUsd ∧ 0 < check.runningPeakNavUsd := by
  have h := check.valid
  simp only [RiskCheckFields.validate, ok_iff, not_or, not_le] at h
  exact h.2.2.2.1

/-- Of two checks with the same baselines, the one with the lower NAV, the lower volatility and the
raised reconciliation flag has at least the severity of the other. -/
theorem severity_le {check check' : RiskCheckInput} {config : RiskEngineConfig}
    {metrics metrics' : RiskMetrics} (h : evaluateRiskCheck check config = .ok metrics)
    (h' : evaluateRiskCheck check' config = .ok metrics')
    (hopen : check.sessionOpenNavUsd = check'.sessionOpenNavUsd)
    (hpeak : check.runningPeakNavUsd = check'.runningPeakNavUsd)
    (hnav : metrics.currentNavUsd ≤ metrics'.currentNavUsd)
    (hvolatility : check.portfolioAnnualizedVol.getD 0 ≤ check'.portfolioAnnualizedVol.getD 0)
    (hflag : check'.criticalReconciliationCondition → check.criticalReconciliationCondition) :
    metrics'.indicatedSeverity.rank ≤ metrics.indicatedSeverity.rank := by
  obtain ⟨hopenPos, hpeakPos⟩ := check.baselines_pos
  obtain ⟨hsoft, hhard⟩ := config.multiples_nonneg
  have hloss := lossFraction_antitone hopenPos hnav
  have hdrawdown := drawdown_antitone hpeakPos hnav
  rw [evaluateRiskCheck_severity h, evaluateRiskCheck_severity h', ← hopen, ← hpeak]
  apply severityOf_mono
  · rintro (hexceeds | hraised)
    · exact .inl (hexceeds.trans hdrawdown)
    · exact .inr (hflag hraised)
  · rintro (hexceeds | hexceeds)
    · exact .inl ((dailyThreshold_mono hhard hvolatility).trans (hexceeds.trans hloss))
    · exact .inr (hexceeds.trans hdrawdown)
  · rintro (hexceeds | hexceeds)
    · exact .inl ((dailyThreshold_mono hsoft hvolatility).trans (hexceeds.trans hloss))
    · exact .inr (hexceeds.trans hdrawdown)

def smallLossFields (volatility : Decimal) : RiskCheckFields :=
  { sampleCheckFields "first" 1 true 98 false with portfolioAnnualizedVol := some volatility }

theorem calm_valid : (smallLossFields (1 / 10)).validate = .ok () := by decide +kernel

theorem turbulent_valid : (smallLossFields (3 / 10)).validate = .ok () := by decide +kernel

def calmCheck : RiskCheckInput := ⟨smallLossFields (1 / 10), calm_valid⟩

def turbulentCheck : RiskCheckInput := ⟨smallLossFields (3 / 10), turbulent_valid⟩

theorem small_loss_severities : ∃ calm turbulent,
    evaluateRiskCheck calmCheck sampleRiskConfig = .ok calm ∧
    evaluateRiskCheck turbulentCheck sampleRiskConfig = .ok turbulent ∧
    calm.currentNavUsd = turbulent.currentNavUsd ∧ calm.indicatedSeverity = .softStop ∧
    turbulent.indicatedSeverity = .normal := by
  have heval : (evaluateRiskCheck calmCheck sampleRiskConfig).toOption.any (fun calm =>
      (evaluateRiskCheck turbulentCheck sampleRiskConfig).toOption.any fun turbulent =>
        calm.currentNavUsd = turbulent.currentNavUsd ∧ calm.indicatedSeverity = .softStop ∧
          turbulent.indicatedSeverity = .normal) = true := by
    decide +kernel
  obtain ⟨calm, hcalm, hrest⟩ := exists_of_any heval
  obtain ⟨turbulent, hturbulent, hsame⟩ := exists_of_any hrest
  exact ⟨calm, turbulent, hcalm, hturbulent, of_decide_eq_true hsame⟩

/-- The higher volatility has the lower severity. -/
theorem volatility_lowers_severity : ∃ calm turbulent,
    evaluateRiskCheck calmCheck sampleRiskConfig = .ok calm ∧
    evaluateRiskCheck turbulentCheck sampleRiskConfig = .ok turbulent ∧
    calm.currentNavUsd = turbulent.currentNavUsd ∧
    calmCheck.portfolioAnnualizedVol.getD 0 < turbulentCheck.portfolioAnnualizedVol.getD 0 ∧
    turbulent.indicatedSeverity.rank < calm.indicatedSeverity.rank := by
  obtain ⟨calm, turbulent, hcalm, hturbulent, hnav, hsoft, hnormal⟩ := small_loss_severities
  refine ⟨calm, turbulent, hcalm, hturbulent, hnav, by decide +kernel, ?_⟩
  rw [hsoft, hnormal]
  decide

theorem calm_severity_ge : ∃ calm turbulent,
    evaluateRiskCheck calmCheck sampleRiskConfig = .ok calm ∧
    evaluateRiskCheck turbulentCheck sampleRiskConfig = .ok turbulent ∧
    turbulent.indicatedSeverity.rank ≤ calm.indicatedSeverity.rank := by
  obtain ⟨calm, turbulent, hcalm, hturbulent, hnav, -, -⟩ := small_loss_severities
  exact ⟨calm, turbulent, hcalm, hturbulent, severity_le hcalm hturbulent rfl rfl hnav.le
    (by decide +kernel) (by decide)⟩

end AdaptiveQuant
