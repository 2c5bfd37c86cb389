import AdaptiveQuant.Lib.Bisection
import AdaptiveQuant.Quant.Covariance

/-! The Q1 allocation of `quant/allocator.py`.  `Decimal.sqrt` and `canonical_hash` are parameters,
and all other arithmetic is exact. -/

namespace AdaptiveQuant.Quant

open Guard

def lookup {κ K : Type} [DecidableEq κ] [ToString κ] (items : List (κ × K)) (key : κ) :
    Except Failure K :=
  match items.find? (·.1 = key) with
  | some item => .ok item.2
  | none => .error (q1MathError s!"missing diagnostic value for {key}")

structure AssetTrend (K : Type) where
  symbol : String
  logReturnsByHorizon : List (ℕ × K)
  zScoresByHorizon : List (ℕ × K)
  trendScore : K
  annualizedSigma : K

structure Q1Signal (K : Type) where
  calendarSessionId : String
  latestCompletedSessionId : String
  scheduledAt : Instant
  signalDataCutoff : Instant
  completedSessionIds : List String
  sourceBarIds : List String
  covariance : CovarianceEstimate K
  trends : List (AssetTrend K)
  relativeStrength : K
  spreadReturn : K
  spreadVariance : K
  marketGate : K
  rawScores : List (String × K)
  confidence : K
  configManifestHash : String
  signalModelVersion : String
  signalHash : String

section Lookup

variable {K : Type}

def Q1Signal.trendFor (signal : Q1Signal K) (symbol : String) : Except Failure (AssetTrend K) :=
  match signal.trends.find? (·.symbol = symbol) with
  | some trend => .ok trend
  | none => .error (q1MathError s!"missing trend for {symbol}")

def Q1Signal.scoreFor (signal : Q1Signal K) (symbol : String) : Except Failure K :=
  lookup signal.rawScores symbol

end Lookup

structure RiskyWeights (K : Type) where
  qqq : K
  soxx : K
deriving DecidableEq

structure Q1Diagnostics (K : Type) where
  covarianceMatrix : List (String × List (String × K))
  trendZScores : List (String × List (ℕ × K))
  tQqq : K
  tSoxx : K
  rs : K
  spreadReturn60 : K
  spreadVariance : K
  marketGate : K
  rawScores : List (String × K)
  confidence : K
  rawWeights : List (String × K)
  constrainedWeights : List (String × K)
  volatilityScale : K
  rawPortfolioAnnualizedVolatility : K
  expectedAnnualizedVolatility : K
  soxxRiskContribution : K
  finalCashWeight : K

structure AllocationPayload (K : Type) where
  algorithmVersion : String
  configManifestHash : String
  signalHash : String
  armKind : String
  diagnostics : Q1Diagnostics K

/-- `AllocationResult`, as `allocate_q1` makes it. -/
structure AllocationResult (K : Type) where
  armKind : String
  targetWeights : List (String × K)
  unconstrainedWeights : List (String × K)
  volatilityScale : K
  rawPortfolioAnnualizedVolatility : K
  expectedAnnualizedVolatility : K
  soxxVarianceContribution : K
  diagnostics : Q1Diagnostics K
  allocationHash : String

section Allocation

variable {K : Type} [Field K] [LinearOrder K]

def RiskyWeights.mapping (weights : RiskyWeights K) : Dict String K :=
  (Dict.empty.set "QQQ" weights.qqq).set "SOXX" weights.soxx

def RiskyWeights.sum (weights : RiskyWeights K) : K := weights.qqq + weights.soxx

variable (p : AllocationParameters K) (covariance : CovarianceEstimate K)

def CovarianceEstimate.asMapping :
    List (String × List (String × K)) :=
  covariance.symbols.zip (covariance.matrix.map covariance.symbols.zip)

def rawWeights (sqrt : K → K) (signal : Q1Signal K) : Except Failure (RiskyWeights K) := do
  let qqqScore ← signal.scoreFor "QQQ"
  let soxxScore ← signal.scoreFor "SOXX"
  if qqqScore = 0 ∧ soxxScore = 0 then
    return ⟨0, 0⟩
  else
    let qqqVariance ← signal.covariance.variance "QQQ"
    let soxxVariance ← signal.covariance.variance "SOXX"
    let qqqInverse := qqqScore / sqrt qqqVariance
    let soxxInverse := soxxScore / sqrt soxxVariance
    let scoreSum := qqqInverse + soxxInverse
    raiseIf (scoreSum ≤ 0)
      (q1MathError "positive Q1 scores produced no inverse-volatility budget")
    return ⟨signal.confidence * qqqInverse / scoreSum, signal.confidence * soxxInverse / scoreSum⟩

def volatilityScale (rawVolatility : K) : K :=
  if p.q1TargetVol < rawVolatility then p.q1TargetVol / rawVolatility else 1

def cappedWeights (scale : K) (raw : RiskyWeights K) :
    RiskyWeights K where
  qqq := min (raw.qqq * scale) p.qqqMaxWeight
  soxx := min (raw.soxx * scale) p.soxxMaxWeight

def grossWeights (weights : RiskyWeights K) : RiskyWeights K :=
  if p.maxGrossRiskyWeight < weights.sum then
    ⟨weights.qqq * (p.maxGrossRiskyWeight / weights.sum),
      weights.soxx * (p.maxGrossRiskyWeight / weights.sum)⟩
  else weights

def soxxRiskContribution (qqqWeight soxxWeight : K) :
    Except Failure K := do
  let variance ← portfolioVariance (RiskyWeights.mk qqqWeight soxxWeight).mapping covariance
  if variance = 0 ∨ soxxWeight = 0 then
    return 0
  else
    let soxxQqq ← covariance.value "SOXX" "QQQ"
    let soxxSoxx ← covariance.value "SOXX" "SOXX"
    return soxxWeight * (soxxQqq * qqqWeight + soxxSoxx * soxxWeight) / variance

def bisectSoxx (contribution : K → Except Failure K) (cap : K) : ℕ → K → K → Except Failure K
  | 0, low, _ => .ok low
  | n + 1, low, high => do
    let midpoint := (low + high) / 2
    let value ← contribution midpoint
    if value ≤ cap then bisectSoxx contribution cap n midpoint high
    else bisectSoxx contribution cap n low midpoint

def capSoxxRiskContribution
    (qqqWeight soxxWeight : K) : Except Failure K :=
  if soxxWeight = 0 then .ok 0
  else do
    let cap := p.soxxMaxVarianceContribution
    let current ← soxxRiskContribution covariance qqqWeight soxxWeight
    if current ≤ cap + p.riskContributionTolerance then
      return soxxWeight
    else
      let result ← bisectSoxx (soxxRiskContribution covariance qqqWeight) cap
        p.riskContributionBisectionIterations 0 soxxWeight
      let final ← soxxRiskContribution covariance qqqWeight result
      raiseIf (cap + p.riskContributionTolerance < final)
        (q1MathError "SOXX risk-contribution cap did not converge")
      return result

def validateBasicWeights (weights : Dict String K) (p : AllocationParameters K) :
    Except Failure Unit := do
  raiseIf (∃ value ∈ weights.values, value < 0)
    (q1MathError "portfolio weights must be non-negative and finite")
  raiseIf (p.weightSumTolerance < |weights.values.sum - 1|)
    (q1MathError "portfolio weights must sum to one")

def validateQ1Weights (weights : Dict String K) (config : Q1MathConfig K) :
    Except Failure Unit := do
  let p := config.val.allocation
  validateBasicWeights weights p
  raiseIf (p.maxGrossRiskyWeight <
      (config.val.riskySymbols.map fun symbol => weights.getD symbol 0).sum)
    (q1MathError "portfolio exceeds gross risky-weight cap")
  raiseIf (p.qqqMaxWeight < weights.getD "QQQ" 0) (q1MathError "portfolio exceeds QQQ cap")
  raiseIf (p.soxxMaxWeight < weights.getD "SOXX" 0) (q1MathError "portfolio exceeds SOXX cap")

structure AllocationNumbers (K : Type) where
  raw : RiskyWeights K
  rawVolatility : K
  scale : K
  weights : RiskyWeights K
  expectedVolatility : K
  soxxContribution : K

/-- The stages of `allocate_q1`, up to the validation. -/
def allocationNumbers (sqrt : K → K) (signal : Q1Signal K) (p : AllocationParameters K) :
    Except Failure (AllocationNumbers K) := do
  let raw ← rawWeights sqrt signal
  let rawVariance ← portfolioVariance raw.mapping signal.covariance
  let scale := volatilityScale p (sqrt rawVariance)
  let limited := grossWeights p (cappedWeights p scale raw)
  let soxx ← capSoxxRiskContribution p signal.covariance limited.qqq limited.soxx
  let weights : RiskyWeights K := ⟨limited.qqq, soxx⟩
  let finalVariance ← portfolioVariance weights.mapping signal.covariance
  let soxxContribution ← soxxRiskContribution signal.covariance weights.qqq weights.soxx
  return {
    raw
    rawVolatility := sqrt rawVariance
    scale
    weights
    expectedVolatility := sqrt finalVariance
    soxxContribution }

def q1Diagnostics (signal : Q1Signal K) (n : AllocationNumbers K) (cashSymbol : String)
    (final : Dict String K) : Except Failure (Q1Diagnostics K) := do
  let qqqTrend ← signal.trendFor "QQQ"
  let soxxTrend ← signal.trendFor "SOXX"
  return {
    covarianceMatrix := signal.covariance.asMapping
    trendZScores := signal.trends.map fun trend => (trend.symbol, trend.zScoresByHorizon)
    tQqq := qqqTrend.trendScore
    tSoxx := soxxTrend.trendScore
    rs := signal.relativeStrength
    spreadReturn60 := signal.spreadReturn
    spreadVariance := signal.spreadVariance
    marketGate := signal.marketGate
    rawScores := signal.rawScores
    confidence := signal.confidence
    rawWeights := n.raw.mapping.entries ++ [(cashSymbol, 1 - n.raw.sum)]
    constrainedWeights := final.entries
    volatilityScale := n.scale
    rawPortfolioAnnualizedVolatility := n.rawVolatility
    expectedAnnualizedVolatility := n.expectedVolatility
    soxxRiskContribution := n.soxxContribution
    finalCashWeight := 1 - n.weights.sum }

def allocateQ1 (sqrt : K → K) (canonicalHash : AllocationPayload K → String)
    (signal : Q1Signal K) (config : Q1MathConfig K) : Except Failure (AllocationResult K) := do
  let c := config.val
  let n ← allocationNumbers sqrt signal c.allocation
  let final := n.weights.mapping.set c.cashSymbol (1 - n.weights.sum)
  validateQ1Weights final config
  let diagnostics ← q1Diagnostics signal n c.cashSymbol final
  return {
    armKind := "Q1"
    targetWeights := (c.riskySymbols ++ [c.cashSymbol]).map fun symbol =>
      (symbol, final.getD symbol 0)
    unconstrainedWeights := (c.riskySymbols ++ [c.cashSymbol]).map fun symbol =>
      (symbol, n.raw.mapping.getD symbol (1 - n.raw.sum))
    volatilityScale := n.scale
    rawPortfolioAnnualizedVolatility := n.rawVolatility
    expectedAnnualizedVolatility := n.expectedVolatility
    soxxVarianceContribution := n.soxxContribution
    diagnostics
    allocationHash := canonicalHash
      { algorithmVersion := c.algorithmVersion
        configManifestHash := signal.configManifestHash
        signalHash := signal.signalHash
        armKind := "Q1"
        diagnostics } }

end Allocation

end AdaptiveQuant.Quant
