import AdaptiveQuant.Risk.EpisodeRun
import AdaptiveQuant.Risk.Reconciliation
import AdaptiveQuant.Runtime.ArmState

/-! The NAV snapshots of an arm (`runtime/q1_cycle.py`). -/

namespace AdaptiveQuant

namespace Settlement.Q1ArmState

def totalCashUsd (s : Q1ArmState) : Decimal := s.val.settledCashUsd + s.unsettledCashUsd

def held (s : Q1ArmState) : Dict String Decimal :=
  s.val.positions.filter fun _ quantity => 0 < quantity

def nav (s : Q1ArmState) (prices : Dict String Decimal) : Except Failure Decimal := do
  let missing := Sequence.sortedBy id (s.held.keys.filter fun symbol => symbol ∉ prices.keys)
  Guard.raiseIf (missing ≠ []) (valueError s!"Missing NAV prices for: {reprList missing}")
  return s.totalCashUsd +
    (s.held.entries.map fun entry => entry.2 * prices.getD entry.1 0).sum

end Settlement.Q1ArmState

namespace Q1Cycle

open Guard Sequence
open Settlement (Q1ArmState)

def q1CycleNotReady (message : String) : Failure := ⟨.q1CycleNotReady, message, []⟩

def q1CycleError (message : String) : Failure := ⟨.q1CycleError, message, []⟩

def q1PlanningError (message : String) : Failure := ⟨.q1PlanningError, message, []⟩

def q1RuntimePersistenceError (message : String) : Failure :=
  ⟨.q1RuntimePersistenceError, message, []⟩

structure LatestQuote where
  quoteId : String
  bidPrice : Decimal
  askPrice : Decimal
  eventTime : Instant
  availableAt : Instant
deriving DecidableEq

/-- `DecisionQuote` of `runtime/q1_planning.py`. -/
structure DecisionQuoteFields where
  symbol : String
  quoteId : String
  bid : Decimal
  ask : Decimal
  availableAt : Instant
deriving DecidableEq

/-- `DecisionQuote.__post_init__`. -/
def DecisionQuoteFields.check (q : DecisionQuoteFields) : Except Failure Unit := do
  raiseIf (q.symbol = "" ∨ q.quoteId = "") (q1PlanningError "Decision quote identity is required")
  raiseIf (q.bid ≤ 0 ∨ q.ask ≤ 0 ∨ q.ask < q.bid)
    (q1PlanningError "Decision quote is not executable")

abbrev DecisionQuote := Validated DecisionQuoteFields.check

def DecisionQuote.midpoint (q : DecisionQuote) : Decimal := (q.val.bid + q.val.ask) / 2

def freshDecisionQuote (maximumAge : ℤ) (latest : Dict String LatestQuote) (asOf : Instant)
    (symbol : String) : Except Failure DecisionQuote :=
  match latest.get? symbol with
  | none => .error (q1CycleNotReady s!"Fresh quote missing for {symbol}")
  | some row => do
    let age := asOf - row.eventTime
    raiseIf (age < 0 ∨ maximumAge < age ∨ asOf < row.availableAt ∨ row.bidPrice ≤ 0 ∨
        row.askPrice ≤ 0 ∨ row.askPrice < row.bidPrice)
      (q1CycleNotReady s!"Quote for {symbol} is stale or invalid")
    validate DecisionQuoteFields.check
      ⟨symbol, row.quoteId, row.bidPrice, row.askPrice, row.availableAt⟩

/-- One entry of `frozen_achieved_target_valuations`. -/
structure FrozenValuation where
  targetId : Option String
  triggerQuoteId : String
  triggerPrice : Decimal
deriving DecidableEq

structure NavPayload where
  calendarSessionId : String
  sessionOpenBaseline : Bool
  settledCashUsd : Decimal
  unsettledReceivablesUsd : Decimal
  positionsMarketValueUsd : Decimal
  actualWeights : List (String × Decimal)
  riskState : String
  releaseConditionValid : Bool
  reconciliationOk : Bool
  reconciliationStatus : String
  frozenAchievedTargetValuations : List (String × FrozenValuation)
deriving DecidableEq

def FrozenValuation.canonical (f : FrozenValuation) : Canonical := .dict [
  ("target_id", .optStr f.targetId),
  ("trigger_quote_id", .str f.triggerQuoteId),
  ("trigger_price", .decimal f.triggerPrice)]

def NavPayload.canonical (p : NavPayload) : Canonical := .dict ([
  ("calendar_session_id", .str p.calendarSessionId),
  ("settled_cash_usd", .decimal p.settledCashUsd),
  ("unsettled_receivables_usd", .decimal p.unsettledReceivablesUsd),
  ("positions_market_value_usd", .decimal p.positionsMarketValueUsd),
  ("actual_weights", .dict (p.actualWeights.map fun entry => (entry.1, .decimal entry.2))),
  ("risk_state", .str p.riskState),
  ("release_condition_valid", .bool p.releaseConditionValid),
  ("reconciliation_ok", .bool p.reconciliationOk),
  ("reconciliation_status", .str p.reconciliationStatus)] ++
  if p.sessionOpenBaseline then [("session_open_baseline", .bool true)]
  else [("frozen_achieved_target_valuations", .dict
    (p.frozenAchievedTargetValuations.map fun entry => (entry.1, entry.2.canonical)))])

structure NavSnapshotRow where
  navSnapshotId : String
  sourceCycleId : String
  sourceManifestHash : String
  asOf : Instant
  navUsd : Decimal
  payload : NavPayload
deriving DecidableEq

structure NavCycle where
  cycleId : String
  scheduledAt : Instant
  now : Instant
  calendarSessionId : String
  provenance : RiskEpisodeProvenance

/-- What the cycles of one arm have in common. -/
structure NavSettings where
  armId : Q1ArmId
  config : RiskEngineConfig
  criticalConditions : List String
  maximumQuoteAge : ℤ

/-- The valuations and the risk episodes of one arm. -/
structure ArmRisk where
  navSnapshots : List NavSnapshotRow
  episodes : List EpisodeLog

def ArmRisk.empty : ArmRisk := ⟨[], []⟩

def generalWeights (state : Q1ArmState) (prices : Dict String Decimal) :
    Except Failure (List (String × Decimal)) := do
  let nav ← state.nav prices
  raiseIf (nav ≤ 0) (q1CycleError "Portfolio NAV must be positive")
  let weights := (sortedBy (·.1) state.held.entries).map fun entry =>
    (entry.1, entry.2 * prices.getD entry.1 0 / nav)
  let riskyWeight := (weights.map (·.2)).sum
  raiseIf (1 < riskyWeight) (q1CycleError "Portfolio weights imply leverage")
  return weights ++ [("USD_CASH", 1 - riskyWeight)]

variable (settings : NavSettings) (hash : Hashing) (rows : List NavSnapshotRow)

def appendNavSnapshot (settings : NavSettings) (cycle : NavCycle)
    (rows : List NavSnapshotRow) (navUsd : Decimal) (payload : NavPayload) :
    Except Failure (List NavSnapshotRow) :=
  let rowId := hash.stableId "q1-nav" [.str cycle.provenance.runId, .str settings.armId.value,
    .str cycle.cycleId, .instant cycle.now, .str (hash.canonicalHash payload.canonical)]
  match rows.find? fun row => row.navSnapshotId = rowId with
  | some existing =>
    if existing.sourceManifestHash = cycle.provenance.sourceManifestHash then .ok rows
    else .error (q1RuntimePersistenceError "Q1 NAV identity conflict")
  | none => .ok (rows ++ [
      { navSnapshotId := rowId
        sourceCycleId := cycle.cycleId
        sourceManifestHash := cycle.provenance.sourceManifestHash
        asOf := cycle.now
        navUsd := navUsd
        payload := payload }])

def riskNavBaselines
    (calendarSessionId : String) (currentNav : Decimal) : Except Failure (Decimal × Decimal) :=
  let ordered := sortedBy (fun row : NavSnapshotRow => toLex (row.asOf, row.navSnapshotId)) rows
  match ordered.find? fun row => row.payload.calendarSessionId = calendarSessionId ∧
      row.payload.sessionOpenBaseline with
  | none => .error (q1CycleNotReady
      s!"Session-open NAV baseline is missing for {settings.armId.value}")
  | some baseline => .ok (baseline.navUsd, (rows.map (·.navUsd)).foldl max currentNav)

def countedChecks (calendarSessionId : String) : List NavSnapshotRow → List NavSnapshotRow
  | [] => []
  | row :: rest =>
    if row.payload.calendarSessionId ≠ calendarSessionId then countedChecks calendarSessionId rest
    else if row.payload.releaseConditionValid ∧ row.payload.reconciliationOk then
      row :: countedChecks calendarSessionId rest
    else []

def validReleaseChecks (calendarSessionId : String) (asOf : Instant) :
    List NavSnapshotRow :=
  let newestFirst := (sortedBy (fun row : NavSnapshotRow => toLex (row.asOf, row.navSnapshotId))
    (rows.filter fun row => row.asOf ≤ asOf)).reverse
  countedChecks calendarSessionId newestFirst

def consecutiveValidReleaseChecks (calendarSessionId : String)
    (asOf : Instant) : ℕ :=
  (validReleaseChecks rows calendarSessionId asOf).length

def releaseConditionValid (metrics : RiskMetrics) (config : RiskEngineConfig) : Bool :=
  metrics.dailyLoss < config.releaseDailyLossSoftFraction * metrics.softDailyThreshold ∧
    metrics.runDrawdown < config.releaseDrawdownThreshold

def riskArms : List Q1ArmId := [.liveMirror, .q1Det, .q1Llm]

def openSession (settings : NavSettings) (s : ArmRisk) (cycle : NavCycle)
    (state : Q1ArmState) (prices : Dict String Decimal) : Except Failure ArmRisk := do
  let nav ← state.nav prices
  raiseIf (nav ≤ 0) (q1CycleError "Session-open paper NAV must be positive")
  let weights ← generalWeights state prices
  let rows ← appendNavSnapshot hash settings cycle s.navSnapshots nav {
    calendarSessionId := cycle.calendarSessionId
    sessionOpenBaseline := true
    settledCashUsd := state.val.settledCashUsd
    unsettledReceivablesUsd := state.unsettledCashUsd
    positionsMarketValueUsd := nav - state.totalCashUsd
    actualWeights := weights
    riskState := if settings.armId ∈ riskArms then "NORMAL" else "NOT_APPLICABLE"
    releaseConditionValid := false
    reconciliationOk := true
    reconciliationStatus := "OK"
    frozenAchievedTargetValuations := [] }
  return { s with navSnapshots := rows }

def achievedTarget (targets : List RiskTarget) (symbol : String) (quantity : Decimal) :
    Option (RiskTarget × Decimal) :=
  match (targets.reverse.find? fun target => target.symbol = symbol) with
  | none => none
  | some target =>
    match target.triggerPrice with
    | none => none
    | some price => if target.targetQuantity < quantity then none else some (target, price)

/-- What the arm is valued with: the fresh quotes of its held symbols, and the achieved targets of
those that have none. -/
structure Valuation where
  quotes : Dict String DecisionQuote
  frozen : List (String × RiskTarget × Decimal)

def Valuation.prices (v : Valuation) : Dict String Decimal :=
  v.frozen.foldl (fun prices entry => prices.set entry.1 entry.2.2)
    (v.quotes.mapVal fun _ quote => quote.midpoint)

/-- The quote of a symbol that can do without: only a `Q1CycleNotReady` is caught. -/
def optionalQuote (latest : Dict String LatestQuote) (now : Instant)
    (symbol : String) : Except Failure (Option DecisionQuote) :=
  match freshDecisionQuote settings.maximumQuoteAge latest now symbol with
  | .ok quote => .ok (some quote)
  | .error failure =>
    if failure.exception = .q1CycleNotReady then .ok none else .error failure

/-- The first part of `_process_nav_risk`: a held symbol needs a fresh quote unless its target is
achieved. -/
def valueArm (latest : Dict String LatestQuote) (now : Instant)
    (state : Q1ArmState) (targets : List RiskTarget) : Except Failure Valuation := do
  let held := sortedBy (·.1) state.held.entries
  let required := held.filter fun entry =>
    settings.armId ∈ riskArms ∧ achievedTarget targets entry.1 entry.2 = none
  let quotes ← required.foldlM (fun quotes entry => do
    let quote ← freshDecisionQuote settings.maximumQuoteAge latest now entry.1
    return quotes.set entry.1 quote) Dict.empty
  let quotes ← held.foldlM (fun quotes entry =>
    if entry.1 ∈ quotes.keys then .ok quotes
    else do
      let quote ← optionalQuote settings latest now entry.1
      return match quote with
        | some quote => quotes.set entry.1 quote
        | none => quotes) quotes
  return {
    quotes := quotes
    frozen := state.held.entries.filterMap fun entry =>
      if entry.1 ∈ quotes.keys then none
      else (achievedTarget targets entry.1 entry.2).map fun target => (entry.1, target) }

def riskCheckQuotes (state : Q1ArmState)
    (quotes : Dict String DecisionQuote) (targets : List RiskTarget) :
    Except Failure (Dict String RiskQuote) :=
  state.held.entries.foldlM (fun result (symbol, quantity) => do
    let quote ← quoteFor symbol quantity
    return result.set symbol quote) Dict.empty
where
  quoteFor (symbol : String) (quantity : Decimal) : Except Failure RiskQuote :=
    match quotes.get? symbol with
    | some fresh => riskQuote symbol fresh.val.quoteId fresh.midpoint
    | none =>
      match achievedTarget targets symbol quantity with
      | none => .error (q1CycleNotReady
          s!"Fresh risk quote missing for {settings.armId.value}/{symbol}")
      | some (target, price) => riskQuote symbol target.triggerQuoteId price
  /-- `RiskQuote(...)`. -/
  riskQuote (symbol quoteId : String) (midpoint : Decimal) : Except Failure RiskQuote :=
    if named : symbol ≠ "" ∧ quoteId ≠ "" then
      if positive : 0 < midpoint then .ok ⟨symbol, quoteId, midpoint, named, positive⟩
      else .error (q1RiskError "Risk quote midpoint must be positive")
    else .error (q1RiskError "Risk quote identity is required")

/-- `RiskCheckInput(...)`. -/
def riskCheckInput (fields : RiskCheckFields) : Except Failure RiskCheckInput :=
  match valid : fields.validate with
  | .ok () => .ok ⟨fields, valid⟩
  | .error failure => .error failure

/-- What a risk or a strategic cycle knows of an arm when it measures the arm's loss. -/
structure Observation where
  cycle : NavCycle
  state : Q1ArmState
  reconciliation : Q1ReconciliationResult
  volatility : Option Decimal

def observedCheck (o : Observation)
    (currentNav : Decimal) (quotes : Dict String RiskQuote) : Except Failure RiskCheckInput := do
  let (sessionOpen, runningPeak) ← riskNavBaselines settings rows o.cycle.calendarSessionId
    currentNav
  riskCheckInput {
    armId := settings.armId
    calendarSessionId := o.cycle.calendarSessionId
    scheduledAt := o.cycle.scheduledAt
    decisionCreatedAt := o.cycle.now
    positions := o.state.val.positions
    settledCashUsd := o.state.val.settledCashUsd
    unsettledReceivablesUsd := o.state.unsettledCashUsd
    quotes := quotes
    sessionOpenNavUsd := sessionOpen
    runningPeakNavUsd := runningPeak
    portfolioAnnualizedVol := o.volatility
    reconciliationOk := o.reconciliation.ok
    criticalReconciliationCondition := o.reconciliation.isCritical settings.criticalConditions
    reconciliationStatus := o.reconciliation.status }

def activeRiskEpisode (s : ArmRisk) : Option (RiskEpisode × List RiskEpisodeEvent) :=
  (RiskEpisodeRepository.active s.episodes).map fun log => (log.episode, log.events)

def latchedTargets (s : ArmRisk) : Except Failure (List RiskTarget) :=
  if settings.armId ∉ riskArms then .ok []
  else match activeRiskEpisode s with
    | none => .ok []
    | some (episode, events) => do
      validateEpisodeEventStream episode events
      episodeTargets episode events

structure RiskMeasure where
  valuation : Valuation
  nav : Decimal
  check : RiskCheckInput
  metrics : RiskMetrics

def measureRisk (s : ArmRisk) (latest : Dict String LatestQuote)
    (o : Observation) : Except Failure RiskMeasure := do
  let targets ← latchedTargets settings s
  let valuation ← valueArm settings latest o.cycle.now o.state targets
  let nav ← o.state.nav valuation.prices
  let quotes ← riskCheckQuotes settings o.state valuation.quotes targets
  let check ← observedCheck settings s.navSnapshots o nav quotes
  let metrics ← evaluateRiskCheck check settings.config
  return ⟨valuation, nav, check, metrics⟩

def plannedMetrics (s : ArmRisk) (m : RiskMeasure) :
    Except Failure RiskMetrics :=
  if m.valuation.frozen = [] then .ok m.metrics
  else match activeRiskEpisode s with
    | none => .error (q1CycleError "Frozen target valuation requires an active episode")
    | some (episode, events) =>
      let activeSeverity := (events.getLast?.map (·.severity)).getD episode.severity
      .ok { m.metrics with
        indicatedSeverity :=
          if m.check.criticalReconciliationCondition then .criticalExit else activeSeverity }

def recordTransition (logs : List EpisodeLog) (session : String) (transition : RiskTransition)
    (progress : List RiskEpisodeEvent) : List EpisodeLog :=
  match transition.newEpisode with
  | some episode =>
    logs ++ [⟨episode, (transition.newEvents ++ progress).map (LoggedEvent.mk session)⟩]
  | none => recordEvents logs session (transition.newEvents ++ progress)

def cycleProgress (o : Observation) (check : RiskCheckInput)
    (existing : List RiskEpisodeEvent) (transition : RiskTransition) :
    Except Failure (List RiskEpisodeEvent) :=
  match transition.activeEpisode with
  | none => .ok []
  | some episode => targetProgressEvents hash episode (existing ++ transition.newEvents)
      o.state.val.positions check o.cycle.provenance (some o.cycle.cycleId)

def navRiskCycle (settings : NavSettings) (s : ArmRisk)
    (latest : Dict String LatestQuote) (o : Observation) : Except Failure ArmRisk := do
  let m ← measureRisk settings s latest o
  let metrics ← plannedMetrics s m
  let active := activeRiskEpisode s
  let existing := (active.map (·.2)).getD []
  let transition ← planRiskTransition hash settings.config
    { check := m.check
      metrics := metrics
      provenance := o.cycle.provenance
      sourceCycleId := some o.cycle.cycleId } active
  let progress ← cycleProgress hash o m.check existing transition
  let weights ← generalWeights o.state m.valuation.prices
  let rows ← appendNavSnapshot hash settings o.cycle s.navSnapshots m.nav {
    calendarSessionId := o.cycle.calendarSessionId
    sessionOpenBaseline := false
    settledCashUsd := o.state.val.settledCashUsd
    unsettledReceivablesUsd := o.state.unsettledCashUsd
    positionsMarketValueUsd := m.nav - o.state.totalCashUsd
    actualWeights := weights
    riskState := transition.effectiveSeverity.value
    releaseConditionValid := releaseConditionValid metrics settings.config
    reconciliationOk := o.reconciliation.ok
    reconciliationStatus := o.reconciliation.status
    frozenAchievedTargetValuations := m.valuation.frozen.map fun entry =>
      (entry.1, ⟨entry.2.1.targetId, entry.2.1.triggerQuoteId, entry.2.2⟩) }
  return ⟨rows, recordTransition s.episodes o.cycle.calendarSessionId transition progress⟩

def navOnlyCycle (settings : NavSettings) (s : ArmRisk)
    (latest : Dict String LatestQuote) (o : Observation) : Except Failure ArmRisk := do
  let valuation ← valueArm settings latest o.cycle.now o.state []
  if o.state.held.keys.any fun symbol => symbol ∉ valuation.prices.keys then return s
  let nav ← o.state.nav valuation.prices
  let weights ← generalWeights o.state valuation.prices
  let rows ← appendNavSnapshot hash settings o.cycle s.navSnapshots nav {
    calendarSessionId := o.cycle.calendarSessionId
    sessionOpenBaseline := false
    settledCashUsd := o.state.val.settledCashUsd
    unsettledReceivablesUsd := o.state.unsettledCashUsd
    positionsMarketValueUsd := nav - o.state.totalCashUsd
    actualWeights := weights
    riskState := "NOT_APPLICABLE"
    releaseConditionValid := false
    reconciliationOk := true
    reconciliationStatus := "NOT_APPLICABLE"
    frozenAchievedTargetValuations := [] }
  return { s with navSnapshots := rows }

def strategicCycle (settings : NavSettings) (s : ArmRisk)
    (quotes : Dict String DecisionQuote) (o : Observation) : Except Failure ArmRisk :=
  if settings.armId ∉ riskArms then .ok s
  else do
    let nav ← o.state.nav (quotes.mapVal fun _ quote => quote.midpoint)
    let riskQuotes ← riskCheckQuotes settings o.state quotes []
    let check ← observedCheck settings s.navSnapshots o nav riskQuotes
    let metrics ← evaluateRiskCheck check settings.config
    let transition ← planRiskTransition hash settings.config
      { check := check
        metrics := metrics
        provenance := o.cycle.provenance
        isNextSessionStrategicCycle := true
        consecutiveValidReleaseChecks := consecutiveValidReleaseChecks s.navSnapshots
          o.cycle.calendarSessionId o.cycle.now
        sourceCycleId := some o.cycle.cycleId } (activeRiskEpisode s)
    return { s with
      episodes := recordTransition s.episodes o.cycle.calendarSessionId transition [] }

/-- One cycle of the arm's session. -/
inductive NavInput
  | openSession (cycle : NavCycle) (state : Q1ArmState) (prices : Dict String Decimal)
  | navRisk (latest : Dict String LatestQuote) (o : Observation)
  | strategic (quotes : Dict String DecisionQuote) (o : Observation)

def stepArmRisk (settings : NavSettings) (s : ArmRisk) :
    NavInput → Except Failure ArmRisk
  | .openSession cycle state prices => openSession hash settings s cycle state prices
  | .navRisk latest o =>
    if settings.armId ∈ riskArms then navRiskCycle hash settings s latest o
    else navOnlyCycle hash settings s latest o
  | .strategic quotes o => strategicCycle hash settings s quotes o

end Q1Cycle

end AdaptiveQuant
