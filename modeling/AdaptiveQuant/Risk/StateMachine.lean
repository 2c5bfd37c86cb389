import AdaptiveQuant.Domain.RiskEpisode
import AdaptiveQuant.Lib.Dict
import Mathlib.Data.String.Basic

/-! The loss overlay of `risk/state_machine.py`: risk checks, the transitions that they call for,
and the progress of the targets. -/

namespace AdaptiveQuant

open Guard Sequence

def q1RiskError (message : String) : Failure := ⟨.q1RiskError, message, []⟩

structure RiskEngineConfigFields where
  version : String
  annualizationSessions : Decimal
  softSigmaMultiple : Decimal
  hardSigmaMultiple : Decimal
  softDailyFloor : Decimal
  softDailyCeiling : Decimal
  hardDailyFloor : Decimal
  hardDailyCeiling : Decimal
  softDrawdownThreshold : Decimal
  hardDrawdownThreshold : Decimal
  criticalDrawdownThreshold : Decimal
  q1HardGrossCap : Decimal
  q1HardSoxxWeightCap : Decimal
  liveMirrorSemiconductorWeightCap : Decimal
  releaseDailyLossSoftFraction : Decimal
  releaseDrawdownThreshold : Decimal
  releaseConsecutiveValidChecks : ℕ
  quantityPrecision : Quantum
  leveragedSymbols : List String
  semiconductorSymbols : List String
deriving DecidableEq

/-- The fractions that `RiskEngineConfig.__post_init__` keeps within [0, 1]. -/
def RiskEngineConfigFields.fractions (c : RiskEngineConfigFields) : List Decimal :=
  [c.softDailyFloor, c.softDailyCeiling, c.hardDailyFloor, c.hardDailyCeiling,
    c.softDrawdownThreshold, c.hardDrawdownThreshold, c.criticalDrawdownThreshold,
    c.q1HardGrossCap, c.q1HardSoxxWeightCap, c.liveMirrorSemiconductorWeightCap,
    c.releaseDailyLossSoftFraction, c.releaseDrawdownThreshold]

def RiskEngineConfigFields.validate (c : RiskEngineConfigFields) : Except Failure Unit := do
  raiseIf (c.version = "") (q1RiskError "Risk config version is required")
  raiseIf (c.annualizationSessions ≤ 0) (q1RiskError "Annualization sessions must be positive")
  raiseIf (c.softSigmaMultiple < 0 ∨ c.hardSigmaMultiple < 0)
    (q1RiskError "Sigma multiples cannot be negative")
  raiseIf (∃ value ∈ c.fractions, value < 0 ∨ 1 < value)
    (q1RiskError "Risk fractions must be within [0, 1]")
  raiseIf (c.softDailyCeiling < c.softDailyFloor)
    (q1RiskError "Soft daily threshold bounds are inverted")
  raiseIf (c.hardDailyCeiling < c.hardDailyFloor)
    (q1RiskError "Hard daily threshold bounds are inverted")
  raiseIf (c.hardDrawdownThreshold ≤ c.softDrawdownThreshold)
    (q1RiskError "Soft drawdown must be below hard drawdown")
  raiseIf (c.criticalDrawdownThreshold ≤ c.hardDrawdownThreshold)
    (q1RiskError "Hard drawdown must be below critical drawdown")
  raiseIf (c.releaseConsecutiveValidChecks = 0)
    (q1RiskError "Release check count must be positive")
  raiseIf (c.quantityPrecision.value ≤ 0) (q1RiskError "Quantity precision must be positive")

structure RiskEngineConfig extends RiskEngineConfigFields where
  valid : toRiskEngineConfigFields.validate = .ok ()

/-- `RiskQuote`, with its `__post_init__` checks. -/
structure RiskQuote where
  symbol : String
  quoteId : String
  midpoint : Decimal
  identified : symbol ≠ "" ∧ quoteId ≠ ""
  midpoint_pos : 0 < midpoint

structure RiskCheckFields where
  armId : Q1ArmId
  calendarSessionId : String
  scheduledAt : Instant
  decisionCreatedAt : Instant
  positions : Dict String Decimal
  settledCashUsd : Decimal
  unsettledReceivablesUsd : Decimal
  quotes : Dict String RiskQuote
  sessionOpenNavUsd : Decimal
  runningPeakNavUsd : Decimal
  portfolioAnnualizedVol : Option Decimal
  reconciliationOk : Bool
  criticalReconciliationCondition : Bool
  reconciliationStatus : String := "OK"

/-- `RiskCheckInput.__post_init__`. -/
def RiskCheckFields.validate (c : RiskCheckFields) : Except Failure Unit := do
  raiseIf (c.calendarSessionId = "") (q1RiskError "Calendar-session ID is required")
  raiseIf (c.decisionCreatedAt < c.scheduledAt)
    (q1RiskError "Risk decision cannot be created before scheduled_at")
  raiseIf (c.settledCashUsd < 0 ∨ c.unsettledReceivablesUsd < 0)
    (q1RiskError "Cash balances cannot be negative")
  raiseIf (c.sessionOpenNavUsd ≤ 0 ∨ c.runningPeakNavUsd ≤ 0)
    (q1RiskError "Session-open and running-peak NAV must be positive")
  raiseIf (c.portfolioAnnualizedVol.any (decide <| · < 0))
    (q1RiskError "Portfolio volatility cannot be negative")
  raiseIf (∃ quantity ∈ c.positions.values, quantity < 0)
    (q1RiskError "Q1 risk engine prohibits short positions")
  raiseIf (c.reconciliationStatus = "") (q1RiskError "Reconciliation status is required")
  raiseIf (c.reconciliationOk ≠ decide (c.reconciliationStatus = "OK"))
    (q1RiskError "Reconciliation status and ok flag are inconsistent")

structure RiskCheckInput extends RiskCheckFields where
  valid : toRiskCheckFields.validate = .ok ()

structure RiskMetrics where
  currentNavUsd : Decimal
  dailyLoss : Decimal
  runDrawdown : Decimal
  dailySigma : Option Decimal
  softDailyThreshold : Decimal
  hardDailyThreshold : Decimal
  indicatedSeverity : RiskSeverity
deriving DecidableEq

structure RiskEpisodeProvenanceFields where
  runId : String
  configManifestHash : String
  codeVersion : String
  modelVersion : String
  sourceManifestHash : String
  workerFenceToken : String
  cycleAttemptCount : ℕ
deriving DecidableEq

def RiskEpisodeProvenanceFields.validate (p : RiskEpisodeProvenanceFields) :
    Except Failure Unit := do
  raiseIf (p.runId = "" ∨ p.configManifestHash = "" ∨ p.codeVersion = "" ∨ p.modelVersion = "" ∨
      p.sourceManifestHash = "" ∨ p.workerFenceToken = "")
    (q1RiskError "Complete risk-episode provenance is required")
  raiseIf (p.cycleAttemptCount = 0) (q1RiskError "Cycle attempt count must be positive")

structure RiskEpisodeProvenance extends RiskEpisodeProvenanceFields where
  valid : toRiskEpisodeProvenanceFields.validate = .ok ()

structure RiskTransition where
  effectiveSeverity : RiskSeverity
  blockNewBuys : Bool
  cancelPendingBuys : Bool
  activeEpisode : Option RiskEpisode
  newEpisode : Option RiskEpisode
  newEvents : List RiskEpisodeEvent
  executableResidualTargets : List RiskTarget
  requiredQuoteSymbols : List String
  releaseAllowsAutomaticBuys : Bool := false

def clip (value lower upper : Decimal) : Decimal := min upper (max lower value)

def heldValue (positions : Dict String Decimal) (quotes : Dict String RiskQuote) :
    Except Failure Decimal := do
  let held := positions.filter fun _ quantity => 0 < quantity
  let missing := sortedBy id (held.keys.filter fun symbol => symbol ∉ quotes.keys)
  raiseIf (missing ≠ [])
    (q1RiskError s!"Fresh quotes missing for held risk assets: {reprList missing}")
  return (held.entries.map fun entry =>
    entry.2 * ((quotes.get? entry.1).map (·.midpoint)).getD 0).sum

def evaluateRiskCheck (check : RiskCheckInput) (config : RiskEngineConfig) :
    Except Failure RiskMetrics := do
  let positionValue ← heldValue check.positions check.quotes
  let currentNav := check.settledCashUsd + check.unsettledReceivablesUsd + positionValue
  raiseIf (currentNav ≤ 0) (q1RiskError "Current NAV must be positive")
  let dailyLoss := max 0 ((check.sessionOpenNavUsd - currentNav) / check.sessionOpenNavUsd)
  let effectivePeak := max check.runningPeakNavUsd currentNav
  let runDrawdown := max 0 ((effectivePeak - currentNav) / effectivePeak)
  let dailySigma := check.portfolioAnnualizedVol.map
    (· / decimalSqrt config.annualizationSessions)
  let sigmaForThreshold := dailySigma.getD 0
  let softDaily := clip (config.softSigmaMultiple * sigmaForThreshold) config.softDailyFloor
    config.softDailyCeiling
  let hardDaily := clip (config.hardSigmaMultiple * sigmaForThreshold) config.hardDailyFloor
    config.hardDailyCeiling
  let severity :=
    if config.criticalDrawdownThreshold ≤ runDrawdown ∨ check.criticalReconciliationCondition then
      RiskSeverity.criticalExit
    else if hardDaily ≤ dailyLoss ∨ config.hardDrawdownThreshold ≤ runDrawdown then .hardReduce
    else if softDaily ≤ dailyLoss ∨ config.softDrawdownThreshold ≤ runDrawdown then .softStop
    else .normal
  return {
    currentNavUsd := currentNav
    dailyLoss := dailyLoss
    runDrawdown := runDrawdown
    dailySigma := dailySigma
    softDailyThreshold := softDaily
    hardDailyThreshold := hardDaily
    indicatedSeverity := severity }

/-- The loop variables of `_validate_episode_event_stream`. -/
structure StreamState where
  released : Bool
  severity : RiskSeverity
  generation : ℕ
deriving DecidableEq

variable (episode : RiskEpisode) (events : List RiskEpisodeEvent)

def StreamState.start : StreamState := ⟨false, episode.severity, 1⟩

def validateEpisodeEvent (acc : StreamState) (event : RiskEpisodeEvent) :
    Except Failure StreamState := do
  raiseIf acc.released (q1RiskError "No risk episode event may follow RELEASE")
  raiseIf (event.severity.rank < acc.severity.rank)
    (q1RiskError "Risk episode cannot silently downgrade")
  match event.eventType with
  | .escalate => do
    raiseIf (acc.severity ≠ .hardReduce) (q1RiskError "Only HARD_REDUCE may escalate")
    raiseIf (event.severity ≠ .criticalExit)
      (q1RiskError "Only CRITICAL_EXIT escalation is permitted")
    raiseIf (event.targetGeneration ≠ acc.generation + 1)
      (q1RiskError "Escalation must advance target generation by one")
    return { acc with generation := event.targetGeneration, severity := event.severity }
  | .activate => do
    raiseIf (event.eventSequence ≠ 1 ∨ event.targetGeneration ≠ 1)
      (q1RiskError "Activation must create target generation one")
    return acc
  | .release => do
    raiseIf (event.targetGeneration ≠ acc.generation)
      (q1RiskError "Only escalation may change target generation")
    return { acc with released := true }
  | .targetProgress | .targetReached => do
    raiseIf (event.targetGeneration ≠ acc.generation)
      (q1RiskError "Only escalation may change target generation")
    return acc

def validateEpisodeEventStream :
    Except Failure Unit := do
  raiseIf (∃ event ∈ events, event.riskEpisodeId ≠ episode.riskEpisodeId)
    (q1RiskError "Risk episode event references another episode")
  raiseIf (¬(events.map (·.riskEpisodeEventId)).Nodup ∨ ¬(events.map (·.idempotencyKey)).Nodup)
    (q1RiskError "Duplicate risk episode event")
  let ordered := sortedBy (·.eventSequence) events
  raiseIf (¬Numbered (·.eventSequence) ordered)
    (q1RiskError "Risk episode event sequence must be contiguous")
  let _ ← ordered.foldlM validateEpisodeEvent (.start episode)

def episodeTargets :
    Except Failure (List RiskTarget) := do
  let targets := (sortedBy (·.eventSequence) events).foldl (fun targets event =>
    if event.eventType ∈ [RiskEpisodeEventType.activate, .escalate] then event.targets
    else targets) episode.targets
  raiseIf (targets = []) (q1RiskError "Active risk episode cannot have empty targets")
  return targets

def episodeTargetGeneration : ℕ :=
  (sortedBy (·.eventSequence) events).foldl (fun _ event => event.targetGeneration) 1

def readSeverity (acc : RiskSeverity × Bool) (event : RiskEpisodeEvent) : RiskSeverity × Bool :=
  match event.eventType with
  | .escalate => (acc.1.worst event.severity, acc.2)
  | .release => (acc.1, true)
  | _ => acc

def episodeSeverity : RiskSeverity :=
  let read := (sortedBy (·.eventSequence) events).foldl readSeverity (episode.severity, false)
  if read.2 then .normal else read.1

def latestObservedQuantities : Dict String Decimal :=
  (sortedBy (·.eventSequence) events).foldl (fun result event =>
    match event.targetSymbol, event.observedQuantity with
    | some symbol, some observed => result.set symbol observed
    | _, _ => result) .empty

def quoteMidpoint (quotes : Dict String RiskQuote) (symbol : String) : Except Failure Decimal :=
  match quotes.get? symbol with
  | some quote => .ok quote.midpoint
  | none => .error ⟨.keyError, symbol, []⟩

def q1HardTargets (positions : Dict String Decimal) (quotes : Dict String RiskQuote)
    (nav : Decimal) (config : RiskEngineConfig) : Except Failure (List (String × Decimal)) := do
  let eligible := (positions.filter fun symbol _ => symbol ∈ ["QQQ", "SOXX"]).entries
  let values ← eligible.mapM fun (symbol, quantity) => do
    let midpoint ← quoteMidpoint quotes symbol
    return (symbol, quantity * midpoint)
  let values := values.map fun (symbol, value) =>
    (symbol, if symbol = "SOXX" then min value (nav * config.q1HardSoxxWeightCap) else value)
  let gross := (values.map (·.2)).sum
  let grossCap := nav * config.q1HardGrossCap
  let values := if grossCap < gross then
      values.map fun (symbol, value) => (symbol, value * (grossCap / gross))
    else values
  values.mapM fun (symbol, value) => do
    let midpoint ← quoteMidpoint quotes symbol
    return (symbol, quantizeDown (value / midpoint) config.quantityPrecision)

def liveMirrorHardTargets (positions : Dict String Decimal) (quotes : Dict String RiskQuote)
    (nav : Decimal) (config : RiskEngineConfig) : Except Failure (List (String × Decimal)) := do
  let leveraged := (positions.filter fun symbol quantity =>
    0 < quantity ∧ symbol ∈ config.leveragedSymbols).entries
  let semiconductors := (positions.filter fun symbol quantity =>
    0 < quantity ∧ symbol ∈ config.semiconductorSymbols ∧ symbol ∉ config.leveragedSymbols).entries
  let values ← semiconductors.mapM fun (symbol, quantity) => do
    let midpoint ← quoteMidpoint quotes symbol
    return quantity * midpoint
  let cap := nav * config.liveMirrorSemiconductorWeightCap
  let scale := if values.sum ≤ cap then 1 else cap / values.sum
  return leveraged.map (fun (symbol, _) => (symbol, (0 : Decimal))) ++
    semiconductors.map fun (symbol, quantity) =>
      (symbol, quantizeDown (quantity * scale) config.quantityPrecision)

section Planning

variable (hash : Hashing)

variable (episode : RiskEpisode) (check : RiskCheckInput) (existingEvents : List RiskEpisodeEvent)
  (metrics : RiskMetrics)

def targetQuantities (severity : RiskSeverity)
    (config : RiskEngineConfig) (positive : Dict String Decimal) :
    Except Failure (List (String × Decimal)) :=
  match severity, check.armId with
  | .criticalExit, _ => .ok (positive.entries.map fun (symbol, _) => (symbol, 0))
  | _, .q1Det | _, .q1Llm => q1HardTargets positive check.quotes metrics.currentNavUsd config
  | _, .liveMirror => liveMirrorHardTargets positive check.quotes metrics.currentNavUsd config
  | _, armId =>
    .error (q1RiskError s!"Deterministic loss overlay is not permitted for {armId.value}")

def buildTarget (targetGeneration : ℕ)
    (positive : Dict String Decimal) (entry : String × Decimal) : Except Failure RiskTarget :=
  let (symbol, quantity) := entry
  match check.quotes.get? symbol with
  | none => .error (q1RiskError s!"Trigger quote missing for target symbol {symbol}")
  | some quote => RiskTarget.construct {
      symbol := symbol
      targetQuantity := quantity
      triggerQuoteId := quote.quoteId
      targetGeneration := targetGeneration
      targetId := some (hash.stableId "q1-risk-target" [.dict [
        ("arm_id", .str check.armId.value),
        ("symbol", .str symbol),
        ("target_quantity", .decimal quantity),
        ("quote_id", .str quote.quoteId),
        ("triggered_at", .instant check.scheduledAt),
        ("target_generation", .int targetGeneration)]])
      triggerQuantity := some (positive.getD symbol 0)
      triggerPrice := some quote.midpoint
      targetWeight := some (quantity * quote.midpoint / metrics.currentNavUsd) }

def buildTargets (severity : RiskSeverity)
    (config : RiskEngineConfig) (targetGeneration : ℕ) : Except Failure (List RiskTarget) :=
  let positive := check.positions.filter fun _ quantity => 0 < quantity
  if positive.entries = [] then .ok [] else do
    let quantities ← targetQuantities check metrics severity config positive
    (sortedBy (·.1) quantities).mapM (buildTarget hash check metrics targetGeneration positive)

def createEpisode (severity : RiskSeverity)
    (targets : List RiskTarget) (provenance : RiskEpisodeProvenance) :
    Except Failure RiskEpisode := do
  raiseIf (targets = []) (q1RiskError "Empty targets cannot activate a typed risk episode")
  let targetManifestHash := hash.canonicalHash (canonicalTargets targets)
  let identity : List (String × Canonical) := [
    ("run_id", .str provenance.runId),
    ("arm_id", .str check.armId.value),
    ("calendar_session_id", .str check.calendarSessionId),
    ("severity", .str severity.value),
    ("triggered_at", .instant check.scheduledAt),
    ("target_manifest_hash", .str targetManifestHash)]
  RiskEpisode.construct {
    riskEpisodeId := hash.stableId "q1-risk-episode" [.dict identity]
    runId := provenance.runId
    armId := check.armId
    severity := severity
    calendarSessionId := check.calendarSessionId
    triggeredAt := check.scheduledAt
    triggerNavUsd := metrics.currentNavUsd
    sessionOpenNavUsd := check.sessionOpenNavUsd
    runningPeakNavUsd := check.runningPeakNavUsd
    dailyLoss := metrics.dailyLoss
    runDrawdown := metrics.runDrawdown
    portfolioAnnualizedVol := check.portfolioAnnualizedVol
    softDailyThreshold := metrics.softDailyThreshold
    hardDailyThreshold := metrics.hardDailyThreshold
    reconciliationStatus := check.reconciliationStatus
    targets := targets
    targetManifestHash := targetManifestHash
    episodeHash := hash.canonicalHash (.dict (identity ++ [
      ("trigger_nav_usd", .decimal metrics.currentNavUsd),
      ("daily_loss", .decimal metrics.dailyLoss),
      ("run_drawdown", .decimal metrics.runDrawdown),
      ("config_manifest_hash", .str provenance.configManifestHash),
      ("code_version", .str provenance.codeVersion),
      ("model_version", .str provenance.modelVersion),
      ("source_manifest_hash", .str provenance.sourceManifestHash)]))
    createdAt := check.decisionCreatedAt
    configManifestHash := provenance.configManifestHash
    codeVersion := provenance.codeVersion
    modelVersion := provenance.modelVersion
    sourceManifestHash := provenance.sourceManifestHash }

/-- The arguments of `_episode_event` that say what happened. -/
structure EpisodeEventRequest where
  eventType : RiskEpisodeEventType
  severity : RiskSeverity
  targets : List RiskTarget := []
  targetSymbol : Option String := none
  observedQuantity : Option Decimal := none
  residualQuantity : Option Decimal := none
  consecutiveValidChecks : ℕ := 0

def episodeEventIdentity (request : EpisodeEventRequest)
    (sequence targetGeneration : ℕ) (occurredAt : Instant) (sourceCycleId : Option String) :
    List (String × Canonical) := [
  ("risk_episode_id", .str episode.riskEpisodeId),
  ("event_type", .str request.eventType.value),
  ("event_sequence", .int sequence),
  ("severity", .str request.severity.value),
  ("target_generation", .int targetGeneration),
  ("targets", canonicalTargets request.targets),
  ("target_symbol", .optStr request.targetSymbol),
  ("observed_quantity", .optDecimal request.observedQuantity),
  ("residual_quantity", .optDecimal request.residualQuantity),
  ("occurred_at", .instant occurredAt),
  ("source_cycle_id", .optStr sourceCycleId)]

def eventGeneration (request : EpisodeEventRequest) (existingEvents : List RiskEpisodeEvent) : ℕ :=
  (request.targets.head?.map (·.targetGeneration)).getD (episodeTargetGeneration existingEvents)

def episodeEvent
    (request : EpisodeEventRequest) (check : RiskCheckInput) (provenance : RiskEpisodeProvenance)
    (sourceCycleId : Option String) : Except Failure RiskEpisodeEvent := do
  validateEpisodeEventStream episode existingEvents
  let sequence := existingEvents.length + 1
  let targetGeneration := eventGeneration request existingEvents
  raiseIf (∃ target ∈ request.targets, target.targetGeneration ≠ targetGeneration)
    (q1RiskError "Risk event targets must use one target generation")
  let identity := episodeEventIdentity episode request sequence targetGeneration check.scheduledAt
    sourceCycleId
  let eventId := hash.stableId "q1-risk-episode-event" [.dict identity]
  RiskEpisodeEvent.construct {
    riskEpisodeEventId := eventId
    riskEpisodeId := episode.riskEpisodeId
    eventType := request.eventType
    eventSequence := sequence
    severity := request.severity
    targetGeneration := targetGeneration
    occurredAt := check.scheduledAt
    availableAt := check.decisionCreatedAt
    targets := request.targets
    targetSymbol := request.targetSymbol
    observedQuantity := request.observedQuantity
    residualQuantity := request.residualQuantity
    consecutiveValidChecks := request.consecutiveValidChecks
    sourceCycleId := sourceCycleId
    workerFenceToken := provenance.workerFenceToken
    cycleAttemptCount := provenance.cycleAttemptCount
    idempotencyKey := hash.stableId "q1-risk-event-idem" [.str eventId]
    eventHash := hash.canonicalHash (.dict (identity ++ [
      ("config_manifest_hash", .str provenance.configManifestHash),
      ("code_version", .str provenance.codeVersion),
      ("model_version", .str provenance.modelVersion),
      ("source_manifest_hash", .str provenance.sourceManifestHash)]))
    configManifestHash := provenance.configManifestHash
    codeVersion := provenance.codeVersion
    modelVersion := provenance.modelVersion
    sourceManifestHash := provenance.sourceManifestHash }

def residualTargets (targets : List RiskTarget) (positions : Dict String Decimal) :
    List RiskTarget :=
  targets.filter fun target => target.targetQuantity < positions.getD target.symbol 0

def requiredResidualQuoteSymbols (targets : List RiskTarget) (positions : Dict String Decimal) :
    List String :=
  (residualTargets targets positions).map (·.symbol)

/-- The arguments of `plan_risk_transition` besides the engine's configuration and the episode. -/
structure RiskStep where
  check : RiskCheckInput
  metrics : RiskMetrics
  provenance : RiskEpisodeProvenance
  isNextSessionStrategicCycle : Bool := false
  consecutiveValidReleaseChecks : ℕ := 0
  sourceCycleId : Option String := none

def canRelease (config : RiskEngineConfig) (step : RiskStep) (activeEpisode : RiskEpisode) : Bool :=
  step.check.calendarSessionId ≠ activeEpisode.calendarSessionId ∧
    step.isNextSessionStrategicCycle ∧
    step.check.reconciliationOk ∧
    ¬step.check.criticalReconciliationCondition ∧
    config.releaseConsecutiveValidChecks ≤ step.consecutiveValidReleaseChecks ∧
    step.metrics.dailyLoss <
      config.releaseDailyLossSoftFraction * step.metrics.softDailyThreshold ∧
    step.metrics.runDrawdown < config.releaseDrawdownThreshold

def planActivation (config : RiskEngineConfig) (step : RiskStep)
    (active : Option (RiskEpisode × List RiskEpisodeEvent)) :
    Except Failure (RiskSeverity × Option RiskEpisode × Option RiskEpisode ×
      List RiskEpisodeEvent) :=
  let indicated := step.metrics.indicatedSeverity
  match active with
  | none =>
    if indicated = .hardReduce ∨ indicated = .criticalExit then do
      let targets ← buildTargets hash step.check step.metrics indicated config 1
      if targets = [] then return (indicated, none, none, [])
      let episode ← createEpisode hash step.check step.metrics indicated targets step.provenance
      let event ← episodeEvent hash episode []
        { eventType := .activate, severity := indicated, targets := targets } step.check
        step.provenance step.sourceCycleId
      return (RiskSeverity.normal.worst indicated, some episode, some episode, [event])
    else return (RiskSeverity.normal.worst indicated, none, none, [])
  | some (episode, events) => do
    validateEpisodeEventStream episode events
    let activeSeverity := episodeSeverity episode events
    if activeSeverity = .hardReduce ∧ indicated = .criticalExit then
      let targets ← buildTargets hash step.check step.metrics .criticalExit config
        (episodeTargetGeneration events + 1)
      if targets = [] then return (.criticalExit, some episode, none, [])
      let event ← episodeEvent hash episode events
        { eventType := .escalate, severity := .criticalExit, targets := targets } step.check
        step.provenance step.sourceCycleId
      return (.criticalExit, some episode, none, [event])
    else return (activeSeverity.worst indicated, some episode, none, [])

def planRiskTransition (config : RiskEngineConfig) (step : RiskStep)
    (active : Option (RiskEpisode × List RiskEpisodeEvent)) : Except Failure RiskTransition := do
  let existing := (active.map (·.2)).getD []
  let (effective, episode, newEpisode, newEvents) ← planActivation hash config step active
  match episode with
  | none => return {
      effectiveSeverity := effective
      blockNewBuys := effective ≠ .normal
      cancelPendingBuys := effective ≠ .normal
      activeEpisode := none
      newEpisode := newEpisode
      newEvents := newEvents
      executableResidualTargets := []
      requiredQuoteSymbols := [] }
  | some episode =>
    let currentTargets ← episodeTargets episode (existing ++ newEvents)
    if canRelease config step episode then
      let release ← episodeEvent hash episode (existing ++ newEvents)
        { eventType := .release
          severity := episodeSeverity episode (existing ++ newEvents)
          consecutiveValidChecks := step.consecutiveValidReleaseChecks } step.check
        step.provenance step.sourceCycleId
      return {
        effectiveSeverity := .normal
        blockNewBuys := false
        cancelPendingBuys := false
        activeEpisode := none
        newEpisode := newEpisode
        newEvents := newEvents ++ [release]
        executableResidualTargets := []
        requiredQuoteSymbols := [] }
    return {
      effectiveSeverity := effective
      blockNewBuys := effective ≠ .normal
      cancelPendingBuys := effective ≠ .normal
      activeEpisode := some episode
      newEpisode := newEpisode
      newEvents := newEvents
      executableResidualTargets := residualTargets currentTargets step.check.positions
      requiredQuoteSymbols := requiredResidualQuoteSymbols currentTargets step.check.positions }

def targetProgressEvent
    (positions : Dict String Decimal) (check : RiskCheckInput) (provenance : RiskEpisodeProvenance)
    (sourceCycleId : Option String) (result : List RiskEpisodeEvent) (target : RiskTarget) :
    Except Failure (List RiskEpisodeEvent) :=
  let observed := positions.getD target.symbol 0
  if (latestObservedQuantities existingEvents).get? target.symbol = some observed then return result
  else do
    let residual := max 0 (observed - target.targetQuantity)
    let event ← episodeEvent hash episode (existingEvents ++ result)
      { eventType := if residual = 0 then .targetReached else .targetProgress
        severity := episodeSeverity episode existingEvents
        targetSymbol := some target.symbol
        observedQuantity := some observed
        residualQuantity := some residual } check provenance sourceCycleId
    return result ++ [event]

def targetProgressEvents
    (positions : Dict String Decimal) (check : RiskCheckInput) (provenance : RiskEpisodeProvenance)
    (sourceCycleId : Option String) : Except Failure (List RiskEpisodeEvent) := do
  validateEpisodeEventStream episode existingEvents
  let targets ← episodeTargets episode existingEvents
  targets.foldlM (targetProgressEvent hash episode existingEvents positions check provenance
    sourceCycleId) []

end Planning

end AdaptiveQuant
