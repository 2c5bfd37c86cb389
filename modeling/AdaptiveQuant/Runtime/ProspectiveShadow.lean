import AdaptiveQuant.Persistence.ResearchShadow
import AdaptiveQuant.Runtime.ProspectiveTargets

/-! The bridge from prospective executions to shadow cycles, `TrustedProspectiveShadowOperations` of
`runtime/prospective_shadow.py`. -/

namespace AdaptiveQuant.Shadow

open Guard Sequence

/-- `ProspectiveSourceBarV1`. -/
structure ProspectiveSourceBar where
  barId : String
  symbol : String
  sessionDate : ℤ
  sourceEventTime : Instant
  availableAt : Instant
  payloadHash : String
deriving DecidableEq

/-- The fields of `ProspectiveSourceManifestV1` that the bridge reads. -/
structure ProspectiveSourceManifest where
  parentDecisionHash : String
  parentInputManifestHash : String
  hostConfigManifestHash : String
  marketDatasetVersion : String
  sourceBars : List ProspectiveSourceBar
  manifestHash : String

/-- The fields of `ProspectiveRequestEvidenceV1` that the bridge reads. -/
structure ProspectiveRequestEvidence (F : Type) [CandidateNumber F] where
  challengerId : String
  candidateArtifactHash : String
  candidateConfigHash : String
  strategyConfigContentSha256 : String
  parentRunId : String
  parentPortfolioDecisionId : String
  sourceManifest : ProspectiveSourceManifest
  request : CandidateRequest F
  evidenceHash : String

structure ProspectiveRequestRow (F : Type) [CandidateNumber F] where
  prospectiveRequestId : String
  challengerId : String
  candidateArtifactBundleId : String
  parentPortfolioDecisionId : String
  parentScheduledAt : Instant
  requestHash : String
  evidenceHash : String
  recordedAt : Instant
  payload : ProspectiveRequestEvidence F

inductive ProspectiveExecutionStatus
  | succeeded
  | failed
deriving DecidableEq

/-- The fields of `ProspectiveExecutionEvidenceV1` that the bridge reads. -/
structure ProspectiveExecutionEvidence (hash : Hashing) (F : Type) [CandidateNumber F] where
  executionId : String
  prospectiveRequestId : String
  status : ProspectiveExecutionStatus
  runtimeAttestationHash : String
  securityContractHash : String
  primaryResponse : Option (CandidateResponse hash F)
  replayResponse : Option (CandidateResponse hash F)
  deterministicMatch : Bool
  executionHash : String

structure ProspectiveExecutionRow (hash : Hashing) (F : Type) [CandidateNumber F] where
  recordedAt : Instant
  payload : ProspectiveExecutionEvidence hash F

namespace ProspectiveExecutionRow

variable {hash : Hashing} {F : Type} [CandidateNumber F] (row : ProspectiveExecutionRow hash F)

/-- `success_identity`, as `record_execution` sets it. -/
def successIdentity : Option String :=
  if row.payload.status = .succeeded then some row.payload.prospectiveRequestId else none

def primaryResponseHash : Option String := row.payload.primaryResponse.map (·.val.outputHash)

def replayResponseHash : Option String := row.payload.replayResponse.map (·.val.outputHash)

end ProspectiveExecutionRow

structure ParentDecisionRow where
  portfolioDecisionId : String
  validUntil : Instant
  decisionHash : String
  payload : StrategyDecision

structure CandidateArtifactRow where
  bundleId : String
  challengerId : String
  bundleHash : String
  configHash : String
  realOrderRouting : Bool
deriving DecidableEq

structure ChallengerManifestRow where
  challengerId : String
  proposalId : String
  strategyId : String
  strategyVersion : String
  configHash : String
deriving DecidableEq

structure AlgorithmProposalRow where
  proposalId : String
  parentStrategyId : String
  parentStrategyVersion : String
deriving DecidableEq

structure MarketQuoteRow where
  quoteId : String
  provider : String
  feed : String
  symbol : String
  eventTime : Instant
  availableAt : Instant
  bidPrice : Decimal
  askPrice : Decimal
  bidSizeRoundLots : ℤ
  askSizeRoundLots : ℤ
  payloadHash : String
deriving DecidableEq

/-- A row of `market_bars`, with the two texts that the bridge reads from its payload. -/
structure MarketBarRow where
  barId : String
  symbol : String
  provider : String
  feed : String
  timeframe : String
  eventTime : Instant
  availableAt : Instant
  volume : Decimal
  payloadHash : String
  adjustment : Option String
  datasetVersion : Option String
deriving DecidableEq

structure MarketStreamStatus where
  provider : String
  feed : String
  state : String
deriving DecidableEq

/-- `ProspectiveMarketDataConfigV1`. -/
structure ProspectiveMarketConfig where
  provider : String
  feed : String
  timeframe : String
  adjustment : String
  datasetVersion : String

/-- `ProspectiveCandidateConfigBundle`. -/
structure ProspectiveConfig where
  strategyId : String
  strategyVersion : String
  referenceUniverse : List String
  strategyConfigContentSha256 : String
  marketData : ProspectiveMarketConfig
  manifestHash : String

/-- The tables that the bridge reads, and the shadow store that it writes. -/
structure ProspectiveStore (hash : Hashing) (F : Type) [CandidateNumber F] where
  shadow : ShadowStore hash := {}
  requests : List (ProspectiveRequestRow F) := []
  executions : List (ProspectiveExecutionRow hash F) := []
  decisions : List ParentDecisionRow := []
  artifacts : List CandidateArtifactRow := []
  manifests : List ChallengerManifestRow := []
  proposals : List AlgorithmProposalRow := []
  streams : List MarketStreamStatus := []
  quotes : List MarketQuoteRow := []
  bars : List MarketBarRow := []

section Operations

variable {hash : Hashing} {F : Type} [CandidateNumber F] (store : ProspectiveStore hash F)

def AlreadyCommitted (runId requestId : String) : Prop :=
  ∃ event ∈ store.shadow.rows.filterMap Row.event?, event.aggregateType = .prospectiveShadowSource ∧
    event.aggregateId = runId ∧ event.correlationId = requestId

instance (runId requestId : String) : Decidable (AlreadyCommitted store runId requestId) := by
  unfold AlreadyCommitted; infer_instance

structure JoinedRequest (hash : Hashing) (F : Type) [CandidateNumber F] where
  request : ProspectiveRequestRow F
  execution : ProspectiveExecutionRow hash F
  parent : ParentDecisionRow

def joinedRequests : List (JoinedRequest hash F) :=
  store.requests.flatMap fun request => store.executions.flatMap fun execution =>
    store.decisions.filterMap fun parent =>
      if execution.payload.prospectiveRequestId = request.prospectiveRequestId ∧
          parent.portfolioDecisionId = request.parentPortfolioDecisionId then
        some ⟨request, execution, parent⟩ else none

/-- The conditions of `next_eligible_request_id`, the validity aside. -/
def Pending (runId : String) (spec : PairRuntimeSpecFields) (j : JoinedRequest hash F) : Prop :=
  j.request.challengerId = spec.challengerId ∧ spec.createdAt ≤ j.request.recordedAt ∧
    spec.createdAt ≤ j.execution.recordedAt ∧ j.execution.payload.status = .succeeded ∧
    ¬AlreadyCommitted store runId j.request.prospectiveRequestId

instance (runId : String) (spec : PairRuntimeSpecFields) (j : JoinedRequest hash F) :
    Decidable (Pending store runId spec j) := by unfold Pending; infer_instance

def nextEligibleRequestId (runId : String) (instant : Instant) :
    Except Failure (Option String) := do
  let spec ← store.shadow.loadSpec runId
  let eligible := (joinedRequests store).filter fun j =>
    Pending store runId spec.val j ∧ instant < j.parent.validUntil
  return (sortedBy (fun j => toLex (j.request.parentScheduledAt, j.request.prospectiveRequestId))
    eligible).head?.map (·.request.prospectiveRequestId)

def freshQuotes (market : ProspectiveMarketConfig) (symbol : String) (maximumAge : ℕ)
    (decisionAvailableAt quoteAsOf : Instant) : List MarketQuoteRow :=
  store.quotes.filter fun row => row.provider = market.provider ∧ row.feed = market.feed ∧
    row.symbol = symbol ∧ row.eventTime > decisionAvailableAt ∧
    row.eventTime ≥ quoteAsOf - maximumAge * 1000000 ∧ row.eventTime ≤ quoteAsOf ∧
    row.availableAt > decisionAvailableAt ∧ row.availableAt ≤ quoteAsOf ∧ row.bidPrice > 0 ∧
    row.askPrice > 0 ∧ row.askPrice ≥ row.bidPrice ∧ row.bidSizeRoundLots > 0 ∧
    row.askSizeRoundLots > 0

def dateOf (instant : Instant) : ℤ := Int.fdiv instant 86400000000

def BarBound (market : ProspectiveMarketConfig) (symbol : String) (cutoff : Instant)
    (source : ProspectiveSourceBar) (row : MarketBarRow) : Prop :=
  row.symbol = symbol ∧ row.provider = market.provider ∧ row.feed = market.feed ∧
    row.timeframe = market.timeframe ∧ row.payloadHash = source.payloadHash ∧
    row.eventTime = source.sourceEventTime ∧ row.availableAt = source.availableAt ∧
    row.availableAt ≤ cutoff ∧ row.adjustment = some market.adjustment ∧
    row.datasetVersion = some market.datasetVersion ∧ 0 < row.volume

instance (market : ProspectiveMarketConfig) (symbol : String) (cutoff : Instant)
    (source : ProspectiveSourceBar) (row : MarketBarRow) :
    Decidable (BarBound market symbol cutoff source row) := by unfold BarBound; infer_instance

def advSource (market : ProspectiveMarketConfig) (evidence : ProspectiveRequestEvidence F)
    (lookback : ℕ) (symbol : String) : Except Failure Decimal := do
  let sources := evidence.sourceManifest.sourceBars.filter (·.symbol = symbol)
  let dates := sources.map (·.sessionDate)
  raiseIf (¬dates.Nodup ∨ ∃ date ∈ dates, date ≥ dateOf evidence.request.decisionTime)
    (operationError "PROSPECTIVE_SHADOW_ADV_SESSION_SET_INVALID")
  let ordered := sortedBy (fun source => toLex (source.sessionDate, source.barId)) sources
  let selected := ordered.drop (ordered.length - lookback)
  raiseIf (selected.length ≠ lookback)
    (operationError "PROSPECTIVE_SHADOW_ADV_HISTORY_INCOMPLETE")
  let volumes ← selected.mapM fun source =>
    match store.bars.find? (·.barId = source.barId) with
    | none => throw (operationError "PROSPECTIVE_SHADOW_ADV_SOURCE_BINDING_INVALID")
    | some row => do
      raiseIf (¬BarBound market symbol evidence.request.signalDataCutoff source row)
        (operationError "PROSPECTIVE_SHADOW_ADV_SOURCE_BINDING_INVALID")
      return row.volume
  let average := volumes.sum / lookback
  raiseIf (average ≤ 0) (operationError "PROSPECTIVE_SHADOW_ADV_NON_POSITIVE")
  return average

def shadowQuote (parameters : PaperParameters) (row : MarketQuoteRow) (adv : Decimal) :
    Except Failure Quote :=
  validate _ ⟨row.quoteId, row.symbol, row.eventTime, row.availableAt, row.bidPrice, row.askPrice,
    row.bidSizeRoundLots * parameters.displayedSizeUnitShares,
    row.askSizeRoundLots * parameters.displayedSizeUnitShares, adv, row.payloadHash⟩

variable (config : ProspectiveConfig)

def marketBundle (spec : PairRuntimeSpec hash)
    (evidence : ProspectiveRequestEvidence F) (symbols : List String)
    (decisionAvailableAt quoteAsOf : Instant) : Except Failure (QuoteBundle hash) := do
  let parameters := spec.val.paperParameters
  let market := config.marketData
  raiseIf (¬∃ status ∈ store.streams, status.provider = market.provider ∧
      status.feed = market.feed ∧ status.state = "CONNECTED")
    (operationError "PROSPECTIVE_SHADOW_MARKET_STREAM_NOT_CONNECTED")
  let rows ← symbols.mapM fun symbol =>
    let fresh := freshQuotes store market symbol parameters.maximumQuoteAgeSeconds
      decisionAvailableAt quoteAsOf
    match (sortedBy (fun row => toLex (row.availableAt, toLex (row.eventTime, row.quoteId)))
        fresh).getLast? with
    | none => throw (operationError "PROSPECTIVE_SHADOW_FRESH_MATCHED_QUOTES_NOT_AVAILABLE")
    | some row => return row
  raiseIf (∃ a ∈ rows, ∃ b ∈ rows, a.eventTime - b.eventTime >
      parameters.maximumMultiSymbolQuoteSkewSeconds * 1000000)
    (operationError "PROSPECTIVE_SHADOW_QUOTE_SKEW_EXCEEDED")
  let adv ← symbols.mapM (advSource store market evidence parameters.advLookbackCompletedSessions)
  let quotes ← (rows.zip adv).mapM fun item => shadowQuote parameters item.1 item.2
  buildMatchedQuoteBundle hash spec.val.executionContract.marketInputManifestHash quoteAsOf quotes

structure StoredEvidence (hash : Hashing) (F : Type) [CandidateNumber F] where
  request : ProspectiveRequestRow F
  execution : ProspectiveExecutionRow hash F
  parent : ParentDecisionRow
  artifact : CandidateArtifactRow
  manifest : ChallengerManifestRow
  proposal : AlgorithmProposalRow

def BindingsValid (spec : PairRuntimeSpecFields)
    (stored : StoredEvidence hash F) (primary replay : CandidateResponse hash F) : Prop :=
  let row := stored.request
  let request := row.payload
  let execution := stored.execution
  let parent := stored.parent.payload.val
  let artifact := stored.artifact
  let manifest := stored.manifest
  request.challengerId = spec.challengerId ∧
    request.candidateArtifactHash = spec.challenger.artifactHash ∧
    request.request.strategyId = spec.challenger.strategyId ∧
    request.request.strategyVersion = spec.challenger.strategyVersion ∧
    request.request.strategyId = config.strategyId ∧
    request.request.strategyVersion = config.strategyVersion ∧
    request.request.instruments = config.referenceUniverse ∧
    request.sourceManifest.hostConfigManifestHash = config.manifestHash ∧
    request.sourceManifest.marketDatasetVersion = config.marketData.datasetVersion ∧
    request.strategyConfigContentSha256 = config.strategyConfigContentSha256 ∧
    request.evidenceHash = row.evidenceHash ∧ request.request.requestHash = row.requestHash ∧
    execution.primaryResponseHash = some primary.val.outputHash ∧
    execution.replayResponseHash = some replay.val.outputHash ∧
    execution.payload.deterministicMatch = true ∧
    primary.val.outputHash = replay.val.outputHash ∧
    parent.portfolioDecisionId = request.parentPortfolioDecisionId ∧
    parent.runId = request.parentRunId ∧ parent.armId = .q1Det ∧
    parent.algorithmVersion = "q1_math_core_v1" ∧ parent.decisionKind = "STRATEGIC_TARGET" ∧
    parent.decisionHash = stored.parent.decisionHash ∧
    parent.inputManifest.manifestHash = request.sourceManifest.parentInputManifestHash ∧
    parent.decisionHash = request.sourceManifest.parentDecisionHash ∧
    artifact.bundleHash = request.candidateArtifactHash ∧
    artifact.challengerId = spec.challengerId ∧ artifact.configHash = request.candidateConfigHash ∧
    artifact.realOrderRouting = false ∧ manifest.challengerId = spec.challengerId ∧
    manifest.strategyId = spec.challenger.strategyId ∧
    manifest.strategyVersion = spec.challenger.strategyVersion ∧
    manifest.configHash = request.candidateConfigHash ∧
    stored.proposal.parentStrategyId = spec.champion.strategyId ∧
    stored.proposal.parentStrategyVersion = spec.champion.strategyVersion ∧
    spec.createdAt ≤ row.recordedAt ∧ spec.createdAt ≤ execution.recordedAt ∧
    spec.createdAt ≤ parent.decisionCreatedAt

instance (config : ProspectiveConfig) (spec : PairRuntimeSpecFields)
    (stored : StoredEvidence hash F) (primary replay : CandidateResponse hash F) :
    Decidable (BindingsValid config spec stored primary replay) := by
  unfold BindingsValid; infer_instance

/-- The rows that `prepare` reads. -/
def storedEvidence (spec : PairRuntimeSpecFields) (requestId : String) :
    Except Failure (StoredEvidence hash F) :=
  match store.requests.find? (·.prospectiveRequestId = requestId),
      store.executions.find? (·.successIdentity = some requestId) with
  | some request, some execution =>
    let manifest := store.manifests.find? (·.challengerId = spec.challengerId)
    match store.decisions.find? (·.portfolioDecisionId = request.parentPortfolioDecisionId),
        store.artifacts.find? (·.bundleId = request.candidateArtifactBundleId), manifest,
        manifest.bind fun row => store.proposals.find? (·.proposalId = row.proposalId) with
    | some parent, some artifact, some manifest, some proposal =>
      .ok ⟨request, execution, parent, artifact, manifest, proposal⟩
    | _, _, _, _ => .error (operationError "PROSPECTIVE_SHADOW_DATABASE_BINDING_INCOMPLETE")
  | _, _ => .error (operationError "PROSPECTIVE_SHADOW_EVIDENCE_NOT_AVAILABLE")

def decisionAvailableAt (request : ProspectiveRequestRow F)
    (execution : ProspectiveExecutionRow hash F) (parent : ParentDecisionRow) : Instant :=
  max (max request.recordedAt execution.recordedAt) parent.payload.val.decisionCreatedAt

def targetId (hash : Hashing) (runId requestId : String) (role : ArmRole) : String :=
  hash.stableId "prospective-shadow-target" [.str runId, .str requestId, .str role.value]

/-- What `provenance_hash` is a digest of: the fields that the model has. -/
def ProspectiveSource.payload (p : ProspectiveSource) : Canonical :=
  let texts (items : List (String × String)) : Canonical :=
    .dict (items.map fun item => (item.1, .str item.2))
  .dict [("provenance_id", .str p.provenanceId), ("run_id", .str p.runId),
    ("shadow_pair_id", .str p.shadowPairId), ("challenger_id", .str p.challengerId),
    ("prospective_request_id", .str p.prospectiveRequestId),
    ("prospective_execution_id", .str p.prospectiveExecutionId),
    ("champion_target_hash", .str p.championTargetHash),
    ("challenger_target_hash", .str p.challengerTargetHash),
    ("quote_bundle_hash", .str p.quoteBundleHash),
    ("quote_manifest_hash", .str p.quoteManifestHash),
    ("quote_id_by_symbol", texts p.quoteIdBySymbol),
    ("quote_source_hash_by_symbol", texts p.quoteSourceHashBySymbol),
    ("decision_available_at", .instant p.decisionAvailableAt),
    ("quote_as_of", .instant p.quoteAsOf), ("recorded_at", .instant p.recordedAt)]

/-- The fields of `build_prospective_shadow_cycle_source` that an append reads, with the digest of
them. -/
def buildProspectiveSource (spec : PairRuntimeSpecFields) (requestId : String)
    (execution : ProspectiveExecutionEvidence hash F) (input : CycleInput hash)
    (decisionAvailableAt recordedAt : Instant) : Except Failure ProspectiveSource := do
  let bundle := input.bundle.val
  let source : ProspectiveSource :=
    { provenanceId := hash.stableId "prospective-shadow-cycle-source"
        [.str spec.runId, .str requestId, .str execution.executionHash]
      runId := spec.runId
      shadowPairId := spec.shadowPairId
      challengerId := spec.challengerId
      prospectiveRequestId := requestId
      prospectiveExecutionId := execution.executionId
      championTargetHash := input.championTarget.val.targetHash
      challengerTargetHash := input.challengerTarget.val.targetHash
      quoteBundleHash := bundle.bundleHash
      quoteManifestHash := bundle.quoteManifestHash
      quoteIdBySymbol := bundle.quotes.map fun q => (q.val.instrumentId, q.val.quoteId)
      quoteSourceHashBySymbol := bundle.quotes.map fun q => (q.val.instrumentId, q.val.sourceHash)
      decisionAvailableAt := decisionAvailableAt
      quoteAsOf := bundle.asOf
      recordedAt := recordedAt
      provenanceHash := "" }
  let raise (message : String) : Failure := .record "ProspectiveShadowCycleSourceV1" message
  raiseIf (bundle.quotes = []) (raise "prospective shadow quote and ADV symbols differ")
  raiseIf (¬(bundle.quotes.map (·.val.quoteId)).Nodup)
    (raise "prospective shadow quote IDs must be unique")
  raiseIf (source.quoteAsOf ≤ decisionAvailableAt ∨ recordedAt < source.quoteAsOf)
    (raise "prospective shadow source times are invalid")
  return { source with provenanceHash := hash.canonicalHash source.payload }

/-- `PreparedProspectiveShadowCycle`. -/
structure PreparedCycle (hash : Hashing) where
  provenance : ProspectiveSource
  input : CycleInput hash

def requiredSymbols (weights : List (Dict String Decimal)) (states : List (ArmState hash))
    (requestSymbols : List String) : List String :=
  let symbols := sortedBy id ((weights.flatMap fun w => w.keys.filter (· ≠ usdCash)) ++
    states.flatMap fun state => (positionMap state).keys).dedup
  if symbols = [] then requestSymbols.head?.toList else symbols

def prepare (now : Instant) (asOf : Option Instant)
    (runId requestId : String) : Except Failure (PreparedCycle hash) := do
  let quoteAsOf := asOf.getD now
  let spec ← store.shadow.loadSpec runId
  raiseIf (quoteAsOf > now ∨
      now - quoteAsOf > spec.val.paperParameters.maximumQuoteAgeSeconds * 1000000)
    (operationError "PROSPECTIVE_SHADOW_AS_OF_NOT_CURRENT")
  let stored ← storedEvidence store spec.val requestId
  let evidence := stored.request.payload
  let parent := stored.parent.payload
  match stored.execution.payload.primaryResponse, stored.execution.payload.replayResponse with
  | some primary, some replay =>
    primary.val.assertBoundTo evidence.request
    replay.val.assertBoundTo evidence.request
    raiseIf (¬BindingsValid config spec.val stored primary replay)
      (operationError "PROSPECTIVE_SHADOW_SOURCE_BINDING_MISMATCH")
    let availableAt := decisionAvailableAt stored.request stored.execution stored.parent
    raiseIf (availableAt ≥ parent.val.validUntil ∨ quoteAsOf ≤ availableAt ∨
        quoteAsOf ≥ parent.val.validUntil)
      (operationError "PROSPECTIVE_SHADOW_DECISION_WINDOW_CLOSED")
    let champion := championWeights parent.val
    let challenger ← challengerWeights primary.val
    let championState ← store.shadow.latestState runId spec.val.champion.armId
    let challengerState ← store.shadow.latestState runId spec.val.challenger.armId
    let requestSymbols := evidence.request.instruments
    let symbols := requiredSymbols [champion, challenger] [championState, challengerState]
      requestSymbols
    raiseIf (∃ symbol ∈ symbols, symbol ∉ requestSymbols)
      (operationError "PROSPECTIVE_SHADOW_TARGET_OUTSIDE_REQUEST_UNIVERSE")
    let bundle ← marketBundle store config spec evidence symbols availableAt quoteAsOf
    let build (role : ArmRole) (weights : Dict String Decimal) :=
      buildShadowTargetDecision (targetId hash runId requestId role) spec role availableAt
        evidence.request.signalDataCutoff parent.val.validUntil bundle.val.quoteManifestHash weights
    let championTarget ← build .champion champion
    let challengerTarget ← build .challenger challenger
    let input : CycleInput hash := ⟨championTarget, challengerTarget, bundle⟩
    let provenance ← buildProspectiveSource spec.val requestId stored.execution.payload input
      availableAt now
    return ⟨provenance, input⟩
  | _, _ => .error (operationError "PROSPECTIVE_SHADOW_SUCCESS_OUTPUT_MISSING")

/-- `CommittedProspectiveShadowCycle`. -/
structure CommittedCycle (hash : Hashing) where
  prepared : PreparedCycle hash
  cycle : MatchedCycleResult hash
  replayHash : String

def commit (now : Instant) (asOf : Option Instant)
    (runId requestId : String) :
      Except Failure (CommittedCycle hash × ProspectiveStore hash F) := do
  let prepared ← prepare store config now asOf runId requestId
  let (cycle, shadow) ← appendMatchedCycle store.shadow
    ⟨runId, prepared.input, some prepared.provenance⟩
  let replayHash ← deterministicReplayHash shadow runId
  return (⟨prepared, cycle, replayHash⟩, { store with shadow := shadow })

end Operations

end AdaptiveQuant.Shadow
