import AdaptiveQuant.Domain.OrderEvent
import AdaptiveQuant.Research.Challenger
import AdaptiveQuant.Research.ShadowCycle

/-! The durable side of the shadow runtime, `persistence/research_shadow.py`. -/

namespace AdaptiveQuant.Shadow

open Guard Ledger Sequence

def shadowRuntimeVersion : String := "research_shadow_runtime_v1"

structure RunRow (hash : Hashing) where
  runId : String
  experimentVersion : String
  configManifestHash : String
  codeCommit : String
  resultManifest : Option (PairRuntimeSpec hash)
  resultHash : String
deriving DecidableEq

structure ShadowOrderEvent where
  orderEventId : String
  orderIntentId : String
  eventSequence : ℕ
  eventType : OrderEventType
  quantityDelta : Decimal
  commissionDeltaUsd : Decimal
  remainingQuantity : Decimal
  cumulativeFilledQuantity : Decimal
  cumulativeCommissionUsd : Decimal
  quoteId : Option String
  occurredAt : Instant
  reason : String
  idempotencyKey : String
deriving DecidableEq

/-- `ProspectiveShadowCycleSourceV1`: the fields that an append reads. -/
structure ProspectiveSource where
  provenanceId : String
  runId : String
  shadowPairId : String
  challengerId : String
  prospectiveRequestId : String
  prospectiveExecutionId : String
  championTargetHash : String
  challengerTargetHash : String
  quoteBundleHash : String
  quoteManifestHash : String
  quoteIdBySymbol : List (String × String)
  quoteSourceHashBySymbol : List (String × String)
  decisionAvailableAt : Instant
  quoteAsOf : Instant
  recordedAt : Instant
  provenanceHash : String
deriving DecidableEq

inductive AggregateType
  | matchedShadowCycle
  | prospectiveShadowSource
deriving DecidableEq

inductive EventType
  | trustedCycle
  | unattestedCycle
  | sourceVerified
deriving DecidableEq

inductive EventPayload (hash : Hashing)
  | cycle (result : MatchedCycleResult hash)
  | source (provenance : ProspectiveSource)
deriving DecidableEq

structure EventRow (hash : Hashing) where
  eventId : String
  aggregateType : AggregateType
  aggregateId : String
  eventType : EventType
  occurredAt : Instant
  payload : EventPayload hash
  payloadHash : String
  causationId : Option String
  correlationId : String
  idempotencyKey : String
deriving DecidableEq

inductive Row (hash : Hashing)
  | run (row : RunRow hash)
  | arm (armInstanceId runId armId : String)
  | state (snapshotId stateHash : String) (state : ArmState hash)
  | decision (portfolioDecisionId runId : String) (inputStateSequence : ℕ)
      (target : TargetDecision hash)
  | order (runId : String) (order : OrderIntent)
  | fill (runId quoteId : String) (fill : Fill) (cost : FillCost)
  | orderEvent (runId : String) (event : ShadowOrderEvent)
  | transaction (runId : String) (transaction : LedgerTransaction)
  | posting (posting : LedgerPosting)
  | nav (runId : String) (nav : NavSnapshot)
  | event (event : EventRow hash)
deriving DecidableEq

namespace Row

variable {hash : Hashing}

def keys : Row hash → List (String × List Canonical)
  | run row => [("runs.run_id", [.str row.runId])]
  | arm armInstanceId runId armId =>
    [("shadow_arms.arm_instance_id", [.str armInstanceId]),
    ("uq_run_arm", [.str runId, .str armId])]
  | state snapshotId _ s =>
    [("arm_state_snapshots.arm_state_snapshot_id", [.str snapshotId]),
      ("uq_arm_state_sequence", [.str s.val.runId, .str s.val.armId, .int s.val.sequence])]
  | decision portfolioDecisionId _ _ _ =>
    [("portfolio_decisions.portfolio_decision_id", [.str portfolioDecisionId])]
  | order _ o =>
    [("order_intents.order_intent_id", [.str o.val.orderIntentId]),
      ("order_intents.idempotency_key", [.str o.val.idempotencyKey])]
  | fill _ quoteId f _ =>
    [("fills.fill_id", [.str f.val.fillId]),
      ("uq_fill_order_quote_scenario", [.str f.val.orderIntentId, .str quoteId,
        .str f.val.executionScenarioId])]
  | orderEvent _ e =>
    [("order_events.order_event_id", [.str e.orderEventId]),
      ("uq_order_event_sequence", [.str e.orderIntentId, .int e.eventSequence]),
      ("order_events.idempotency_key", [.str e.idempotencyKey])]
  | transaction _ t =>
    [("ledger_transactions.ledger_transaction_id", [.str t.ledgerTransactionId])]
  | posting p => [("ledger_postings.posting_id", [.str p.postingId])]
  | nav _ n => [("nav_snapshots.nav_snapshot_id", [.str n.navSnapshotId])]
  | event e =>
    [("domain_events.event_id", [.str e.eventId]),
      ("domain_events.idempotency_key", [.str e.idempotencyKey])]

def run? : Row hash → Option (RunRow hash)
  | run row => some row
  | _ => none

def event? : Row hash → Option (EventRow hash)
  | event e => some e
  | _ => none

def state? : Row hash → Option (String × ArmState hash)
  | state _ stateHash s => some (stateHash, s)
  | _ => none

def arm? : Row hash → Option (String × String)
  | arm _ runId armId => some (runId, armId)
  | _ => none

end Row

/-- The rows of the shadow tables, with the lifecycle events they are gated by. -/
structure ShadowStore (hash : Hashing) where
  rows : List (Row hash) := []
  lifecycle : List ChallengerEvent := []

def shadowError (message : String) : Failure := ⟨.researchShadowPersistenceError, message, []⟩

def insertRow {hash : Hashing} (rows : List (Row hash)) (row : Row hash) :
    Except Failure (List (Row hash)) := do
  raiseIf (∃ stored ∈ rows, ∃ key ∈ stored.keys, key ∈ row.keys)
    ⟨.integrityError, "UNIQUE constraint failed", []⟩
  return rows ++ [row]

def insertRows {hash : Hashing} (rows added : List (Row hash)) : Except Failure (List (Row hash)) :=
  added.foldlM insertRow rows

namespace ShadowStore

variable {hash : Hashing} (store : ShadowStore hash)

def findRun (runId : String) : Option (RunRow hash) :=
  (store.rows.filterMap Row.run?).find? (·.runId = runId)

def findEvent (eventId : String) : Option (EventRow hash) :=
  (store.rows.filterMap Row.event?).find? (·.eventId = eventId)

def specFromRun (run : RunRow hash) : Except Failure (PairRuntimeSpec hash) := do
  match run.resultManifest with
  | none => throw (shadowError "shadow run lacks immutable spec")
  | some spec =>
    raiseIf (run.resultHash ≠ spec.val.specHash ∨
        run.configManifestHash ≠ spec.val.runtimeContractHash ∨
        run.codeCommit ≠ spec.val.codeVersion) (shadowError "shadow run spec binding mismatch")
    return spec

def loadSpec (runId : String) : Except Failure (PairRuntimeSpec hash) :=
  match store.findRun runId with
  | none => .error (shadowError "unknown shadow run")
  | some run => specFromRun run

def requireLifecycleShadowStart (challengerId : String) : Except Failure Unit := do
  let events := sortedBy (·.sequence) (store.lifecycle.filter (·.challengerId = challengerId))
  raiseIf (¬∃ event ∈ events, event.toStatus = .shadowRunning ∧
      event.reasonCode = "EXPLICIT_SHADOW_START")
    (shadowError "ResearchLifecycle.start_shadow must run before paper runtime")
  raiseIf (¬∃ event ∈ events.getLast?, event.toStatus = .shadowRunning ∨
      event.toStatus = .promotionEligible)
    (shadowError "Research Lifecycle no longer permits shadow execution")

def lockPairArms (spec : PairRuntimeSpecFields) : Except Failure Unit :=
  let arms := (store.rows.filterMap Row.arm?).filter fun arm =>
    arm.1 = spec.runId ∧ (arm.2 = spec.champion.armId ∨ arm.2 = spec.challenger.armId)
  raiseIf (arms.length ≠ 2) (shadowError "matched shadow run lost an independent arm")

def snapshots (runId armId : String) : List (String × ArmState hash) :=
  sortedBy (fun snapshot => toLex (snapshot.2.val.sequence, snapshot.2.val.asOf))
    ((store.rows.filterMap Row.state?).filter fun snapshot =>
      snapshot.2.val.runId = runId ∧ snapshot.2.val.armId = armId)

def latestState (runId armId : String) : Except Failure (ArmState hash) :=
  match (store.snapshots runId armId).getLast? with
  | none => .error (shadowError "shadow arm state is missing")
  | some (stateHash, state) => do
    raiseIf (state.val.stateHash ≠ stateHash) (shadowError "shadow state row hash mismatch")
    return state

/-- `MatchedShadowCycleResultV1.model_validate(payload_json)`. -/
def cyclePayload : EventPayload hash → Except Failure (MatchedCycleResult hash)
  | .cycle result => .ok result
  | .source _ => .error (.validation "MatchedShadowCycleResultV1" [])

def cycleEvents (runId : String) : List (EventRow hash) :=
  sortedBy (fun event => toLex (event.occurredAt, event.eventId))
    ((store.rows.filterMap Row.event?).filter fun event =>
      event.aggregateType = .matchedShadowCycle ∧ event.aggregateId = runId)

def cycleResults (runId : String) : Except Failure (List (MatchedCycleResult hash)) := do
  let spec ← store.loadSpec runId
  let results ← (store.cycleEvents spec.val.runId).mapM fun event => cyclePayload event.payload
  raiseIf (∃ result ∈ results, result.val.runId ≠ runId)
    (shadowError "shadow event belongs to another run")
  return results

end ShadowStore

section Rows

variable {hash : Hashing}

def stateRow (state : ArmState hash) : Row hash :=
  .state (hash.stableId "research-shadow-state" [.str state.val.runId, .str state.val.armId,
    .int state.val.sequence, .str state.val.stateHash]) state.val.stateHash state

def ledgerRows (runId : String) (entry : LedgerEntry) : List (Row hash) :=
  .transaction runId entry.transaction :: entry.postings.map .posting

def initialArmRows (spec : PairRuntimeSpec hash) (role : ArmRole) :
    Except Failure (List (Row hash)) := do
  let binding := spec.val.bindingFor role
  let runId := spec.val.runId
  let capital := spec.val.executionContract.startingCapitalUsd
  let state ← buildInitialShadowState spec role
  let opening ← openingEntry hash binding.armId
    (hash.stableId "research-shadow-opening" [.str runId, .str binding.armId]) capital
    spec.val.createdAt
  let nav ← calculateNav hash binding.armId spec.val.createdAt capital Dict.empty Dict.empty
  return [.arm (hash.stableId "research-shadow-arm-instance" [.str runId, .str binding.armId]) runId
      binding.armId, stateRow state] ++ ledgerRows runId opening ++ [.nav runId nav]

def orderEventSteps (bundle : QuoteBundle hash) (order : OrderIntentFields) :
    Option Fill → List (OrderEventType × Decimal × Decimal × Option String × String)
  | some fill =>
    let quoteId := ((quoteMap bundle).get? order.symbol).map (·.val.quoteId)
    let fillType : OrderEventType :=
      if fill.val.quantity = order.quantity then .filled else .partiallyFilled
    [(.created, 0, 0, none, "HOST_VALIDATED_TARGET"),
      (fillType, fill.val.quantity, fill.val.commissionUsd, quoteId,
        "CONSERVATIVE_MATCHED_PAPER_FILL")] ++
      if fill.val.quantity < order.quantity then
        [(.expired, 0, 0, none, "UNFILLED_RESIDUAL_EXPIRED")] else []
  | none => [(.created, 0, 0, none, "HOST_VALIDATED_TARGET"),
      (.expired, 0, 0, none, "LIQUIDITY_OR_CASH_CAP_PREVENTED_FILL")]

structure OrderTally where
  sequence : ℕ := 0
  remaining : Decimal
  cumulative : Decimal := 0
  commission : Decimal := 0
  events : List ShadowOrderEvent := []

def orderEvents (bundle : QuoteBundle hash) (order : OrderIntentFields) (fill : Option Fill) :
    List ShadowOrderEvent :=
  let add (tally : OrderTally)
      (step : OrderEventType × Decimal × Decimal × Option String × String) : OrderTally :=
    let (eventType, quantity, fee, quoteId, reason) := step
    let sequence := tally.sequence + 1
    let eventId := hash.stableId "research-shadow-order-event"
      [.str order.orderIntentId, .int sequence]
    { sequence := sequence
      remaining := tally.remaining - quantity
      cumulative := tally.cumulative + quantity
      commission := tally.commission + fee
      events := tally.events ++ [⟨eventId, order.orderIntentId, sequence, eventType, quantity, fee,
        tally.remaining - quantity, tally.cumulative + quantity, tally.commission + fee, quoteId,
        bundle.val.asOf, reason,
        hash.stableId "research-shadow-order-event-idempotency" [.str eventId]⟩] }
  ((orderEventSteps bundle order fill).foldl add { remaining := order.quantity }).events

def armCycleRows (spec : PairRuntimeSpec hash) (bundle : QuoteBundle hash)
    (r : ArmCycleResult hash) : List (Row hash) :=
  let runId := spec.val.runId
  let fillOf (order : OrderIntent) : Option Fill :=
    r.fills.reverse.find? (·.val.orderIntentId = order.val.orderIntentId)
  let costOf (fill : Fill) : Option FillCost :=
    r.fillCosts.reverse.find? (·.fillId = fill.val.fillId)
  let quoteId (fill : Fill) : String :=
    ((quoteMap bundle).get? fill.val.symbol).elim "" (·.val.quoteId)
  [.decision (hash.stableId "research-shadow-decision" [.str r.target.val.targetHash]) runId
      (r.nextState.val.sequence - 1) r.target] ++
    r.orders.map (.order runId ·) ++
    r.fills.filterMap (fun fill => (costOf fill).map (.fill runId (quoteId fill) fill ·)) ++
    r.orders.flatMap (fun order => (orderEvents bundle order.val (fillOf order)).map
      (.orderEvent runId ·)) ++
    r.ledgerEntries.flatMap (ledgerRows runId) ++
    [.nav runId r.nav, stateRow r.nextState]

def runRow (spec : PairRuntimeSpec hash) : Row hash :=
  .run ⟨spec.val.runId, shadowRuntimeVersion, spec.val.runtimeContractHash, spec.val.codeVersion,
    some spec, spec.val.specHash⟩

end Rows

def sameRuntimeBinding (existing requested : PairRuntimeSpecFields) : Prop :=
  existing.runId = requested.runId ∧ existing.shadowPairId = requested.shadowPairId ∧
    existing.challengerId = requested.challengerId ∧ existing.champion = requested.champion ∧
    existing.challenger = requested.challenger ∧
    existing.executionContract = requested.executionContract ∧
    existing.executionContractHash = requested.executionContractHash ∧
    existing.paperParameters = requested.paperParameters ∧
    existing.runtimeContractHash = requested.runtimeContractHash ∧
    existing.codeVersion = requested.codeVersion

instance (existing requested : PairRuntimeSpecFields) :
    Decidable (sameRuntimeBinding existing requested) := by
  unfold sameRuntimeBinding; infer_instance

structure PairRegistration where
  shadowPairId : String
  challengerId : String
  champion : StrategyBinding
  challenger : StrategyBinding
  contract : ExecutionContract
  parameters : PaperParameters
  codeVersion : String
  createdAt : Instant

def initializeFromLifecycle {hash : Hashing} (store : ShadowStore hash) (pair : PairRegistration) :
    Except Failure (PairRuntimeSpec hash × ShadowStore hash) := do
  store.requireLifecycleShadowStart pair.challengerId
  let spec ← buildShadowPairRuntimeSpec hash pair.shadowPairId pair.challengerId pair.champion
    pair.challenger pair.contract pair.parameters pair.codeVersion pair.createdAt
  match store.findRun spec.val.runId with
  | some existing =>
    let stored ← ShadowStore.specFromRun existing
    raiseIf (¬sameRuntimeBinding stored.val spec.val)
      (shadowError "shadow initialization idempotency conflict")
    return (stored, store)
  | none =>
    let champion ← initialArmRows spec .champion
    let challenger ← initialArmRows spec .challenger
    let rows ← insertRows store.rows (runRow spec :: champion ++ challenger)
    return (spec, { store with rows := rows })

structure AppendRequest (hash : Hashing) where
  runId : String
  input : CycleInput hash
  provenance : Option ProspectiveSource

namespace AppendRequest

variable {hash : Hashing} (request : AppendRequest hash)

def cycleEventId : String :=
  hash.stableId "research-shadow-cycle"
    [.str request.runId, .instant request.input.championTarget.val.decisionTime]

/-- `_validate_provenance_binding`. -/
def provenanceBound (spec : PairRuntimeSpecFields) (p : ProspectiveSource) : Prop :=
  let bundle := request.input.bundle.val
  p.runId = spec.runId ∧ p.shadowPairId = spec.shadowPairId ∧ p.challengerId = spec.challengerId ∧
    p.championTargetHash = request.input.championTarget.val.targetHash ∧
    p.challengerTargetHash = request.input.challengerTarget.val.targetHash ∧
    p.quoteBundleHash = bundle.bundleHash ∧ p.quoteManifestHash = bundle.quoteManifestHash ∧
    p.quoteAsOf = bundle.asOf ∧
    p.quoteIdBySymbol = bundle.quotes.map (fun q => (q.val.instrumentId, q.val.quoteId)) ∧
    p.quoteSourceHashBySymbol =
      bundle.quotes.map (fun q => (q.val.instrumentId, q.val.sourceHash)) ∧
    p.decisionAvailableAt = request.input.championTarget.val.decisionTime ∧
    p.decisionAvailableAt = request.input.challengerTarget.val.decisionTime

instance (spec : PairRuntimeSpecFields) (p : ProspectiveSource) :
    Decidable (request.provenanceBound spec p) := by unfold provenanceBound; infer_instance

end AppendRequest

section Provenance

variable {hash : Hashing}

def sourceEvent (p : ProspectiveSource) : EventRow hash where
  eventId := p.provenanceId
  aggregateType := .prospectiveShadowSource
  aggregateId := p.runId
  eventType := .sourceVerified
  occurredAt := p.quoteAsOf
  payload := .source p
  payloadHash := p.provenanceHash
  causationId := some p.prospectiveExecutionId
  correlationId := p.prospectiveRequestId
  idempotencyKey := hash.stableId "prospective-shadow-source-idempotency" [.str p.provenanceId]

def SourceMatches (event : EventRow hash) (p : ProspectiveSource) : Prop :=
  event.aggregateType = .prospectiveShadowSource ∧ event.aggregateId = p.runId ∧
    event.eventType = .sourceVerified ∧ event.payloadHash = p.provenanceHash ∧
    event.causationId = some p.prospectiveExecutionId ∧
    event.correlationId = p.prospectiveRequestId

instance (event : EventRow hash) (p : ProspectiveSource) : Decidable (SourceMatches event p) := by
  unfold SourceMatches; infer_instance

def provenanceRows (store : ShadowStore hash) (p : ProspectiveSource) :
    Except Failure (List (Row hash)) :=
  match store.findEvent p.provenanceId with
  | some existing => do
    raiseIf (¬SourceMatches existing p) (shadowError "prospective shadow provenance conflict")
    return []
  | none => return [.event (sourceEvent p)]

def validateExistingProvenance (store : ShadowStore hash) (event : EventRow hash)
    (provenance : Option ProspectiveSource) : Except Failure Unit := do
  raiseIf (event.eventType ≠ if provenance.isSome then .trustedCycle else .unattestedCycle)
    (shadowError "shadow cycle trust classification mismatch")
  match provenance with
  | none =>
    raiseIf (event.causationId ≠ none)
      (shadowError "unattested shadow cycle unexpectedly has provenance")
  | some p =>
    let matched := (store.findEvent p.provenanceId).any fun source =>
      decide (SourceMatches source p)
    raiseIf (event.causationId ≠ some p.provenanceId ∨ matched = false)
      (shadowError "trusted shadow cycle lost its source provenance")

end Provenance

def cycleEvent {hash : Hashing} (request : AppendRequest hash) (spec : PairRuntimeSpecFields)
    (result : MatchedCycleResult hash) : EventRow hash where
  eventId := request.cycleEventId
  aggregateType := .matchedShadowCycle
  aggregateId := spec.runId
  eventType := if request.provenance.isSome then .trustedCycle else .unattestedCycle
  occurredAt := request.input.bundle.val.asOf
  payload := .cycle result
  payloadHash := result.val.resultHash
  causationId := request.provenance.map (·.provenanceId)
  correlationId := spec.shadowPairId
  idempotencyKey := hash.stableId "research-shadow-cycle-idempotency"
    [.str request.runId, .instant request.input.championTarget.val.decisionTime]

def answerStored {hash : Hashing} (store : ShadowStore hash) (request : AppendRequest hash)
    (existing : EventRow hash) : Except Failure (MatchedCycleResult hash) := do
  let result ← ShadowStore.cyclePayload existing.payload
  raiseIf (result.val.champion.target.val.targetHash ≠
        request.input.championTarget.val.targetHash ∨
      result.val.challenger.target.val.targetHash ≠
        request.input.challengerTarget.val.targetHash ∨
      result.val.quoteBundle.val.bundleHash ≠ request.input.bundle.val.bundleHash)
    (shadowError "shadow cycle idempotency binding mismatch")
  validateExistingProvenance store existing request.provenance
  return result

def newCycleRows {hash : Hashing} (store : ShadowStore hash) (request : AppendRequest hash)
    (spec : PairRuntimeSpec hash) (result : MatchedCycleResult hash) :
    Except Failure (List (Row hash)) := do
  let source ← match request.provenance with
    | none => pure []
    | some p => do
      raiseIf (¬request.provenanceBound spec.val p)
        (shadowError "prospective shadow provenance binding mismatch")
      provenanceRows store p
  return source ++ armCycleRows spec request.input.bundle result.val.champion ++
    armCycleRows spec request.input.bundle result.val.challenger ++
    [.event (cycleEvent request spec.val result)]

def appendMatchedCycle {hash : Hashing} (store : ShadowStore hash) (request : AppendRequest hash) :
    Except Failure (MatchedCycleResult hash × ShadowStore hash) :=
  match store.findRun request.runId with
  | none => .error (shadowError "unknown shadow run")
  | some run => do
    let spec ← ShadowStore.specFromRun run
    raiseIf (run.experimentVersion ≠ shadowRuntimeVersion)
      (shadowError "run is not a Research shadow runtime")
    match store.findEvent request.cycleEventId with
    | some existing =>
      let result ← answerStored store request existing
      return (result, store)
    | none =>
      store.requireLifecycleShadowStart spec.val.challengerId
      store.lockPairArms spec.val
      let champion ← store.latestState request.runId spec.val.champion.armId
      let challenger ← store.latestState request.runId spec.val.challenger.armId
      let result ← (request.input.cycle spec ⟨champion, challenger, []⟩).execute
      let added ← newCycleRows store request spec result
      let rows ← insertRows store.rows added
      return (result, { store with rows := rows })

def replayCycle {hash : Hashing} (spec : PairRuntimeSpec hash)
    (replayed : PairState hash) (expected : MatchedCycleResult hash) :
    Except Failure (PairState hash) := do
  let input : CycleInput hash :=
    ⟨expected.val.champion.target, expected.val.challenger.target, expected.val.quoteBundle⟩
  let actual ← (input.cycle spec replayed).execute
  raiseIf (actual.val.resultHash ≠ expected.val.resultHash)
    (shadowError "stored shadow cycle failed deterministic replay")
  return ⟨actual.val.champion.nextState, actual.val.challenger.nextState,
    replayed.results ++ [actual]⟩

def deterministicReplayHash {hash : Hashing} (store : ShadowStore hash) (runId : String) :
    Except Failure String := do
  let spec ← store.loadSpec runId
  let stored ← store.cycleResults runId
  let champion ← buildInitialShadowState spec .champion
  let challenger ← buildInitialShadowState spec .challenger
  let replayed ← stored.foldlM (replayCycle spec) ⟨champion, challenger, []⟩
  return hash.canonicalHash (.dict [("schema_version", .str "research_shadow_replay_v1"),
    ("run_id", .str runId), ("spec_hash", .str spec.val.specHash),
    ("cycle_hashes", .list (replayed.results.map fun result => .str result.val.resultHash))])

end AdaptiveQuant.Shadow
