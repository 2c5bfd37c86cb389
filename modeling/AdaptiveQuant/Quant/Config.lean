import AdaptiveQuant.Domain.Basic
import Mathlib.Algebra.Order.Ring.Defs

/-! `quant/config.py`: the versioned configuration of the Q1 mathematics, and what
`parse_q1_math_config` checks of a loaded document. -/

namespace AdaptiveQuant.Quant

open Guard

def q1ConfigError (message : String) : Failure := ⟨.q1ConfigError, message, []⟩

structure CovarianceParameters (K : Type) where
  halfLifeSessions : ℕ
  lambdaBase : K
  annualizationSessions : ℕ
  fullWeight : K
  diagonalWeight : K
  initialization : String
  varianceEpsilon : K
  psdTolerance : K
  decimalPrecision : ℕ

structure SignalParameters (K : Type) where
  minimumCompletedSessions : ℕ
  horizonsSessions : List ℕ
  relativeStrengthHorizonSessions : ℕ
  zScoreClip : K
  relativeStrengthCoefficient : K
  marketGateOffset : K
  marketGateWidth : K
  marketGateMin : K
  marketGateMax : K
  confidenceDenominator : K
  confidenceMin : K
  confidenceMax : K
  returnQuantum : K
  numericRounding : String

structure AllocationParameters (K : Type) where
  b0VolTarget : K
  q1TargetVol : K
  maxGrossRiskyWeight : K
  qqqMaxWeight : K
  soxxMaxWeight : K
  soxxMaxVarianceContribution : K
  allowVolatilityScaleUp : Bool
  riskContributionBisectionIterations : ℕ
  riskContributionTolerance : K
  weightSumTolerance : K

structure TurnoverParameters (K : Type) where
  normalDailyOneWayCap : K
  noTradeOneWayThreshold : K
  minimumOrderNotionalUsd : K
  minimumOrderNavFraction : K
  emergencyBypassesTurnoverCap : Bool
  emergencyBypassesMinimumOrder : Bool

structure Q1MathConfigFields (K : Type) where
  version : String
  algorithmVersion : String
  signalModelVersion : String
  riskySymbols : List String
  cashSymbol : String
  disabledSymbols : List String
  inheritedSellOnlySymbols : List String
  covariance : CovarianceParameters K
  signal : SignalParameters K
  allocation : AllocationParameters K
  turnover : TurnoverParameters K

structure Q1MathDocument (K : Type) extends Q1MathConfigFields K where
  realOrderRouting : Bool
  strategySymbols : List String
  longOnly : Bool
  allowShortSelling : Bool
  allowLeverage : Bool

section Checks

variable {K : Type} [Field K] [LinearOrder K]

def positiveInt (name : String) (value : ℕ) : Except Failure Unit :=
  raiseIf (value = 0) (q1ConfigError s!"{name} must be a positive integer")

def positiveDecimal (name : String) (value : K) : Except Failure Unit :=
  raiseIf (value ≤ 0) (q1ConfigError s!"{name} must be positive")

def nonNegativeDecimal (name : String) (value : K) : Except Failure Unit :=
  raiseIf (value < 0) (q1ConfigError s!"{name} must be non-negative")

def unitIntervalDecimal (name : String) (value : K) : Except Failure Unit :=
  raiseIf (value < 0 ∨ 1 < value) (q1ConfigError s!"{name} must be inside [0, 1]")

def strictUnitDecimal (name : String) (value : K) : Except Failure Unit :=
  raiseIf (value ≤ 0 ∨ 1 ≤ value) (q1ConfigError s!"{name} must be strictly inside [0, 1]")

def Q1MathDocument.checkUniverse (d : Q1MathDocument K) : Except Failure Unit := do
  raiseIf (d.version ≠ "q1_math_core_v1")
    (q1ConfigError "Q1 config version must be q1_math_core_v1")
  raiseIf (d.algorithmVersion ≠ "q1_math_core_v1")
    (q1ConfigError "Q1 algorithm_version must be q1_math_core_v1")
  raiseIf (d.realOrderRouting = true) (q1ConfigError "Q1 real_order_routing must be false")
  raiseIf (d.strategySymbols ≠ ["QQQ", "SOXX", "USD_CASH"])
    (q1ConfigError "Q1 strategy universe must be exactly QQQ, SOXX, USD_CASH")
  raiseIf (d.riskySymbols ≠ ["QQQ", "SOXX"])
    (q1ConfigError "Q1 risky universe must be exactly QQQ, SOXX")
  raiseIf (d.cashSymbol ≠ "USD_CASH") (q1ConfigError "Q1 cash symbol must be USD_CASH")
  raiseIf (d.disabledSymbols ≠ ["SOXS"])
    (q1ConfigError "SOXS must be the explicitly disabled Q1 symbol")
  raiseIf (∃ symbol ∈ d.inheritedSellOnlySymbols, symbol ∈ d.strategySymbols)
    (q1ConfigError "inherited sell-only symbols cannot enter strategy arms")
  raiseIf ("SOXL" ∉ d.inheritedSellOnlySymbols)
    (q1ConfigError "SOXL must remain inherited sell-only")
  raiseIf (d.longOnly = false) (q1ConfigError "Q1 allocation must remain long-only")
  raiseIf (d.allowShortSelling = true) (q1ConfigError "Q1 short selling must remain disabled")
  raiseIf (d.allowLeverage = true) (q1ConfigError "Q1 leverage must remain disabled")

def SignalParameters.check (p : SignalParameters K) : Except Failure Unit := do
  p.horizonsSessions.forM (positiveInt "signal.horizons_sessions")
  positiveInt "signal.minimum_completed_sessions" p.minimumCompletedSessions
  positiveInt "signal.relative_strength_horizon_sessions" p.relativeStrengthHorizonSessions
  positiveDecimal "z_score_clip" p.zScoreClip
  nonNegativeDecimal "relative_strength_coefficient" p.relativeStrengthCoefficient
  positiveDecimal "market_gate_width" p.marketGateWidth
  positiveDecimal "confidence_denominator" p.confidenceDenominator
  positiveDecimal "return_quantum" p.returnQuantum
  raiseIf (p.horizonsSessions ≠ [20, 60, 120])
    (q1ConfigError "Q1 signal horizons must be exactly 20, 60, 120")
  raiseIf (p.relativeStrengthHorizonSessions ∉ p.horizonsSessions)
    (q1ConfigError "relative-strength horizon must be one of the trend horizons")
  raiseIf (p.minimumCompletedSessions ≤ p.horizonsSessions.foldl max 0)
    (q1ConfigError "minimum completed sessions must exceed the longest horizon")
  raiseIf (p.marketGateMax ≤ p.marketGateMin) (q1ConfigError "market-gate bounds are invalid")
  raiseIf (p.confidenceMax ≤ p.confidenceMin) (q1ConfigError "confidence bounds are invalid")
  raiseIf (p.numericRounding ≠ "HALF_EVEN")
    (q1ConfigError "q1_math_core_v1 numeric rounding must be HALF_EVEN")

def CovarianceParameters.check (p : CovarianceParameters K) : Except Failure Unit := do
  positiveInt "signal.covariance_half_life_sessions" p.halfLifeSessions
  strictUnitDecimal "covariance_lambda_base" p.lambdaBase
  positiveInt "signal.annualization_sessions" p.annualizationSessions
  unitIntervalDecimal "covariance_full_weight" p.fullWeight
  unitIntervalDecimal "covariance_diagonal_weight" p.diagonalWeight
  positiveDecimal "variance_epsilon" p.varianceEpsilon
  nonNegativeDecimal "psd_tolerance" p.psdTolerance
  positiveInt "signal.decimal_precision" p.decimalPrecision
  raiseIf (p.fullWeight + p.diagonalWeight ≠ 1)
    (q1ConfigError "covariance weights must sum to one")
  raiseIf (p.initialization ≠ "ZERO")
    (q1ConfigError "q1_math_core_v1 covariance initialization must be ZERO")

def AllocationParameters.check (p : AllocationParameters K) : Except Failure Unit := do
  positiveDecimal "b0_vol_target_annualized_volatility" p.b0VolTarget
  positiveDecimal "q1_target_annualized_volatility" p.q1TargetVol
  unitIntervalDecimal "max_gross_risky_weight" p.maxGrossRiskyWeight
  unitIntervalDecimal "qqq_max_weight" p.qqqMaxWeight
  unitIntervalDecimal "soxx_max_weight" p.soxxMaxWeight
  unitIntervalDecimal "soxx_max_variance_contribution" p.soxxMaxVarianceContribution
  positiveInt "allocation.risk_contribution_bisection_iterations"
    p.riskContributionBisectionIterations
  positiveDecimal "risk_contribution_tolerance" p.riskContributionTolerance
  positiveDecimal "weight_sum_tolerance" p.weightSumTolerance
  raiseIf (p.allowVolatilityScaleUp = true)
    (q1ConfigError "q1_math_core_v1 may not scale exposure upward for volatility")

def TurnoverParameters.check (p : TurnoverParameters K) : Except Failure Unit := do
  strictUnitDecimal "normal_daily_one_way_cap" p.normalDailyOneWayCap
  strictUnitDecimal "no_trade_one_way_threshold" p.noTradeOneWayThreshold
  positiveDecimal "minimum_order_notional_usd" p.minimumOrderNotionalUsd
  strictUnitDecimal "minimum_order_nav_fraction" p.minimumOrderNavFraction
  raiseIf (p.normalDailyOneWayCap ≤ p.noTradeOneWayThreshold)
    (q1ConfigError "no-trade threshold must be below the daily turnover cap")

def Q1MathDocument.check (d : Q1MathDocument K) : Except Failure Unit := do
  d.checkUniverse
  d.signal.check
  d.covariance.check
  d.allocation.check
  d.turnover.check

end Checks

/-- `Q1MathConfig`: a document that was parsed. -/
abbrev Q1MathConfig (K : Type) [Field K] [LinearOrder K] :=
  Validated (Q1MathDocument.check (K := K))

def shippedQ1Config : Q1MathConfig Decimal where
  val :=
    { version := "q1_math_core_v1"
      algorithmVersion := "q1_math_core_v1"
      signalModelVersion := "q1_math_signal_v1"
      riskySymbols := ["QQQ", "SOXX"]
      cashSymbol := "USD_CASH"
      disabledSymbols := ["SOXS"]
      inheritedSellOnlySymbols := ["NVDA", "TSM", "KLAC", "LRCX", "MU", "SOXL", "SGOV"]
      covariance :=
        { halfLifeSessions := 20
          lambdaBase := 1 / 2
          annualizationSessions := 252
          fullWeight := 3 / 4
          diagonalWeight := 1 / 4
          initialization := "ZERO"
          varianceEpsilon := 1 / 10 ^ 12
          psdTolerance := 1 / 10 ^ 24
          decimalPrecision := 40 }
      signal :=
        { minimumCompletedSessions := 121
          horizonsSessions := [20, 60, 120]
          relativeStrengthHorizonSessions := 60
          zScoreClip := 3
          relativeStrengthCoefficient := 1 / 2
          marketGateOffset := 1 / 2
          marketGateWidth := 1
          marketGateMin := 0
          marketGateMax := 1
          confidenceDenominator := 3 / 2
          confidenceMin := 0
          confidenceMax := 1
          returnQuantum := 1 / 10 ^ 18
          numericRounding := "HALF_EVEN" }
      allocation :=
        { b0VolTarget := 12 / 100
          q1TargetVol := 15 / 100
          maxGrossRiskyWeight := 1
          qqqMaxWeight := 80 / 100
          soxxMaxWeight := 45 / 100
          soxxMaxVarianceContribution := 55 / 100
          allowVolatilityScaleUp := false
          riskContributionBisectionIterations := 96
          riskContributionTolerance := 1 / 10 ^ 18
          weightSumTolerance := 1 / 10 ^ 18 }
      turnover :=
        { normalDailyOneWayCap := 20 / 100
          noTradeOneWayThreshold := 2 / 100
          minimumOrderNotionalUsd := 25
          minimumOrderNavFraction := 25 / 10000
          emergencyBypassesTurnoverCap := true
          emergencyBypassesMinimumOrder := true }
      realOrderRouting := false
      strategySymbols := ["QQQ", "SOXX", "USD_CASH"]
      longOnly := true
      allowShortSelling := false
      allowLeverage := false }
  valid := by decide +kernel

/-- The bounds that the allocation relies on. -/
structure AllocationParameters.Bounded {K : Type} [Field K] [LinearOrder K]
    (p : AllocationParameters K) : Prop where
  target : 0 < p.q1TargetVol
  gross : 0 ≤ p.maxGrossRiskyWeight ∧ p.maxGrossRiskyWeight ≤ 1
  qqq : 0 ≤ p.qqqMaxWeight
  soxx : 0 ≤ p.soxxMaxWeight
  contribution : 0 ≤ p.soxxMaxVarianceContribution
  contributionTolerance : 0 < p.riskContributionTolerance
  sumTolerance : 0 < p.weightSumTolerance

variable {K : Type} [Field K] [LinearOrder K]

theorem AllocationParameters.bounded_of_check {p : AllocationParameters K}
    (h : p.check = .ok ()) : p.Bounded := by
  simp only [AllocationParameters.check, positiveDecimal, unitIntervalDecimal, positiveInt, ok_iff,
    not_le, not_or, not_lt] at h
  obtain ⟨-, htarget, hgross, hqqq, hsoxx, hcontribution, -, htolerance, hsum, -⟩ := h
  exact ⟨htarget, hgross, hqqq.1, hsoxx.1, hcontribution.1, htolerance, hsum⟩

theorem Q1MathConfig.bounded (config : Q1MathConfig K) :
    config.val.allocation.Bounded ∧ config.val.riskySymbols = ["QQQ", "SOXX"] ∧
      config.val.cashSymbol = "USD_CASH" := by
  have h := config.valid
  simp only [Q1MathDocument.check, bind_eq_ok] at h
  obtain ⟨_, huniverse, _, -, _, -, _, hallocation, -⟩ := h
  simp only [Q1MathDocument.checkUniverse, ok_iff, not_not] at huniverse
  obtain ⟨-, -, -, -, hrisky, hcash, -⟩ := huniverse
  exact ⟨AllocationParameters.bounded_of_check hallocation, hrisky, hcash⟩

end AdaptiveQuant.Quant
