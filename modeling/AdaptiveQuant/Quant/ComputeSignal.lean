import AdaptiveQuant.Quant.Allocator
import AdaptiveQuant.Quant.PointInTimePrices

/-! `compute_q1_signal` of `quant/signals.py`: the signal of one session from adjusted closes. -/

namespace AdaptiveQuant.Quant

open Guard

/-- The functions of Python that a signal uses: `normalize` is `symbol.strip().upper()`. -/
structure SignalEnvironment where
  normalize : String → String
  functions : DecimalFunctions Decimal
  hash : Hashing

structure SignalConfig where
  config : Q1MathConfig Decimal
  returnQuantum : Quantum
  written : returnQuantum.value = config.val.signal.returnQuantum

theorem shippedQ1Config_written :
    (⟨1, -18⟩ : Quantum).value = shippedQ1Config.val.signal.returnQuantum := by decide +kernel

/-- The keyword arguments of `compute_q1_signal`, without the configuration. -/
structure SignalRequest where
  completedSessionIds : List String
  calendarSessionId : String
  expectedLatestCompletedSessionId : String
  currentSessionOpenAt : Instant
  scheduledAt : Instant
  signalDataCutoff : Instant
  configManifestHash : String

def SignalRequest.check (request : SignalRequest) (c : SignalConfig) : Except Failure Unit := do
  let sessions := request.completedSessionIds
  raiseIf (request.scheduledAt < request.signalDataCutoff)
    (q1MathError "signal_data_cutoff must not exceed scheduled_at")
  raiseIf (sessions.length < c.config.val.signal.minimumCompletedSessions)
    (q1MathError "insufficient completed sessions")
  raiseIf (¬sessions.Nodup ∨ "" ∈ sessions)
    (q1MathError "completed session IDs must be unique and non-empty")
  raiseIf (request.calendarSessionId = "") (q1MathError "calendar_session_id is required")
  raiseIf (request.expectedLatestCompletedSessionId = "" ∨
      sessions.getLast? ≠ some request.expectedLatestCompletedSessionId)
    (q1MathError "completed daily data is stale for the versioned market calendar")
  raiseIf (request.configManifestHash = "") (q1MathError "config_manifest_hash is required")

/-- The arguments of `_select_point_in_time_prices`. -/
def SignalRequest.window (request : SignalRequest) (c : SignalConfig) : PriceWindow where
  symbols := c.config.val.riskySymbols
  completedSessionIds := request.completedSessionIds
  currentSessionOpenAt := request.currentSessionOpenAt
  cutoff := request.signalDataCutoff

section Numbers

variable (env : SignalEnvironment) (c : SignalConfig)

def quantizeReturn (value : Decimal) : Except Failure Decimal := do
  raiseIf (c.config.val.signal.numericRounding ≠ "HALF_EVEN")
    (q1MathError "unsupported numeric rounding mode")
  return quantizeHalfEven value c.returnQuantum

def clip (value lower upper : Decimal) : Decimal := max lower (min upper value)

def returnBetween (earlier later : Decimal) : Except Failure Decimal :=
  quantizeReturn c (env.functions.ln (later / earlier))

def dailyReturns (prices : List Decimal) : Except Failure (List Decimal) :=
  (prices.zip prices.tail).mapM fun pair => returnBetween env c pair.1 pair.2

def priceBack (prices : List Decimal) (horizon : ℕ) : Except Failure Decimal :=
  match prices.reverse[horizon]? with
  | some price => .ok price
  | none => .error ⟨.indexError, "tuple index out of range", []⟩

/-- One pass of the loop of `_asset_trend`: the horizon, its return and its z-score. -/
def horizonScore (prices : List Decimal) (variance : Decimal) (horizon : ℕ) :
    Except Failure (ℕ × Decimal × Decimal) := do
  let p := c.config.val.signal
  let last ← priceBack prices 0
  let earlier ← priceBack prices horizon
  let horizonReturn ← returnBetween env c earlier last
  let denominator :=
    env.functions.sqrt (horizon / c.config.val.covariance.annualizationSessions * variance)
  return (horizon, horizonReturn, clip (horizonReturn / denominator) (-p.zScoreClip) p.zScoreClip)

def assetTrend (symbol : String) (prices : List Decimal) (covariance : CovarianceEstimate Decimal) :
    Except Failure (AssetTrend Decimal) := do
  let variance ← covariance.variance symbol
  let scores ← c.config.val.signal.horizonsSessions.mapM (horizonScore env c prices variance)
  let ordered := Sequence.sortedBy id (scores.map (·.2.2))
  match ordered[ordered.length / 2]? with
  | none => .error ⟨.indexError, "list index out of range", []⟩
  | some trendScore =>
    return {
      symbol
      logReturnsByHorizon := scores.map fun score => (score.1, score.2.1)
      zScoresByHorizon := scores.map fun score => (score.1, score.2.2)
      trendScore
      annualizedSigma := env.functions.sqrt variance }

def pricesOf (prices : List (String × List Decimal)) (symbol : String) :
    Except Failure (List Decimal) :=
  match prices.find? (·.1 = symbol) with
  | some item => .ok item.2
  | none => .error ⟨.keyError, symbol, []⟩

def nextTrend (trends : List (AssetTrend Decimal)) (symbol : String) :
    Except Failure (AssetTrend Decimal) :=
  match trends.find? (·.symbol = symbol) with
  | some trend => .ok trend
  | none => .error ⟨.stopIteration, "", []⟩

def returnFor (trend : AssetTrend Decimal) (horizon : ℕ) : Except Failure Decimal :=
  lookup trend.logReturnsByHorizon horizon

structure SignalNumbers where
  covariance : CovarianceEstimate Decimal
  trends : List (AssetTrend Decimal)
  spreadReturn : Decimal
  spreadVariance : Decimal
  relativeStrength : Decimal
  marketGate : Decimal
  rawScores : List (String × Decimal)
  confidence : Decimal

/-- What `compute_q1_signal` computes from the selected prices. -/
def signalNumbers (prices : List (String × List Decimal)) : Except Failure SignalNumbers := do
  let p := c.config.val.signal
  let returns ← prices.mapM fun item => do
    let daily ← dailyReturns env c item.2
    return (item.1, daily)
  let covariance ← ewmaCovariance env.functions returns c.config.val.covariance
  let trends ← c.config.val.riskySymbols.mapM fun symbol => do
    let closes ← pricesOf prices symbol
    assetTrend env c symbol closes covariance
  let qqq ← nextTrend trends "QQQ"
  let soxx ← nextTrend trends "SOXX"
  let relativeHorizon := p.relativeStrengthHorizonSessions
  let soxxReturn ← returnFor soxx relativeHorizon
  let qqqReturn ← returnFor qqq relativeHorizon
  let spreadReturn := soxxReturn - qqqReturn
  let qqqVariance ← covariance.variance "QQQ"
  let soxxVariance ← covariance.variance "SOXX"
  let shared ← covariance.value "QQQ" "SOXX"
  let spreadVariance := qqqVariance + soxxVariance - 2 * shared
  raiseIf (spreadVariance ≤ 0)
    (q1MathError "relative-strength spread variance must be positive")
  let spreadDenominator := env.functions.sqrt
    (relativeHorizon / c.config.val.covariance.annualizationSessions * spreadVariance)
  let relativeStrength :=
    clip (spreadReturn / spreadDenominator) (-p.zScoreClip) p.zScoreClip
  let marketGate := clip ((qqq.trendScore + p.marketGateOffset) / p.marketGateWidth)
    p.marketGateMin p.marketGateMax
  let qqqScore := max 0 qqq.trendScore
  let soxxScore :=
    max 0 (soxx.trendScore + p.relativeStrengthCoefficient * relativeStrength) * marketGate
  return {
    covariance
    trends
    spreadReturn
    spreadVariance
    relativeStrength
    marketGate
    rawScores := [("QQQ", qqqScore), ("SOXX", soxxScore)]
    confidence := clip ((qqqScore + soxxScore) / p.confidenceDenominator)
      p.confidenceMin p.confidenceMax }

end Numbers

def horizonItems (items : List (ℕ × Decimal)) : Canonical :=
  .list (items.map fun item => .list [.int item.1, .decimal item.2])

def trendPayload (trend : AssetTrend Decimal) : Canonical :=
  .dict [
    ("symbol", .str trend.symbol),
    ("returns", horizonItems trend.logReturnsByHorizon),
    ("z_scores", horizonItems trend.zScoresByHorizon),
    ("trend", .decimal trend.trendScore),
    ("annualized_sigma", .decimal trend.annualizedSigma)]

def covariancePayload (covariance : CovarianceEstimate Decimal) : Canonical :=
  .dict (covariance.asMapping.map fun row =>
    (row.1, .dict (row.2.map fun item => (item.1, .decimal item.2))))

/-- `selected_adjusted_closes`. -/
def closesPayload (texts : List (String × List String)) : Canonical :=
  .dict (texts.map fun item => (item.1, .list (item.2.map .str)))

def signalPayload (c : SignalConfig) (request : SignalRequest) (sourceIds : List String)
    (texts : List (String × List String)) (n : SignalNumbers) : Canonical :=
  .dict [
    ("algorithm_version", .str c.config.val.algorithmVersion),
    ("signal_model_version", .str c.config.val.signalModelVersion),
    ("config_manifest_hash", .str request.configManifestHash),
    ("calendar_session_id", .str request.calendarSessionId),
    ("latest_completed_session_id", .str request.expectedLatestCompletedSessionId),
    ("scheduled_at", .instant request.scheduledAt),
    ("signal_data_cutoff", .instant request.signalDataCutoff),
    ("completed_session_ids", .list (request.completedSessionIds.map .str)),
    ("source_bar_ids", .list (sourceIds.map .str)),
    ("selected_adjusted_closes", closesPayload texts),
    ("covariance", covariancePayload n.covariance),
    ("trends", .list (n.trends.map trendPayload)),
    ("spread_return", .decimal n.spreadReturn),
    ("spread_variance", .decimal n.spreadVariance),
    ("relative_strength", .decimal n.relativeStrength),
    ("market_gate", .decimal n.marketGate),
    ("raw_scores", .list (n.rawScores.map fun item => .list [.str item.1, .decimal item.2])),
    ("confidence", .decimal n.confidence)]

def signalOf (env : SignalEnvironment) (c : SignalConfig) (request : SignalRequest)
    (selected : SelectedPrices) : Except Failure (Q1Signal Decimal) := do
  let n ← signalNumbers env c selected.values
  return {
    calendarSessionId := request.calendarSessionId
    latestCompletedSessionId := request.expectedLatestCompletedSessionId
    scheduledAt := request.scheduledAt
    signalDataCutoff := request.signalDataCutoff
    completedSessionIds := request.completedSessionIds
    sourceBarIds := selected.sourceIds
    covariance := n.covariance
    trends := n.trends
    relativeStrength := n.relativeStrength
    spreadReturn := n.spreadReturn
    spreadVariance := n.spreadVariance
    marketGate := n.marketGate
    rawScores := n.rawScores
    confidence := n.confidence
    configManifestHash := request.configManifestHash
    signalModelVersion := c.config.val.signalModelVersion
    signalHash := env.hash.canonicalHash
      (signalPayload c request selected.sourceIds selected.texts n) }

def computeQ1Signal (env : SignalEnvironment) (c : SignalConfig) (request : SignalRequest)
    (observations : List AdjustedCloseObservation) : Except Failure (Q1Signal Decimal) := do
  request.check c
  let selected ← (request.window c).selectPrices env.normalize observations
  signalOf env c request selected

end AdaptiveQuant.Quant
