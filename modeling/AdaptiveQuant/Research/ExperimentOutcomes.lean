import AdaptiveQuant.Persistence.OosBudget

/-! The contracts of `research/experiment_outcomes.py`. -/

namespace AdaptiveQuant.ResearchPlane

open Guard Sequence

/-- The floating-point operations on outcome values, all of them finite. -/
class OutcomeNumber (R : Type) extends LinearOrder R, Sub R where
  fmean : List R → R
  abs : R → R
  canonical : R → Canonical

instance : OutcomeNumber ℚ where
  fmean values := values.sum / values.length
  abs value := |value|
  canonical := .decimal

inductive ExperimentInformationRole
  | discovery
  | learningForward
  | promotionOos
  | metaAudit
deriving DecidableEq

def ExperimentInformationRole.value : ExperimentInformationRole → String
  | .discovery => "DISCOVERY"
  | .learningForward => "LEARNING_FORWARD"
  | .promotionOos => "PROMOTION_OOS"
  | .metaAudit => "META_AUDIT"

inductive ExperimentMaturityStatus
  | pending
  | matured
  | censored
  | invalidated
  | superseded
deriving DecidableEq

def ExperimentMaturityStatus.value : ExperimentMaturityStatus → String
  | .pending => "PENDING"
  | .matured => "MATURED"
  | .censored => "CENSORED"
  | .invalidated => "INVALIDATED"
  | .superseded => "SUPERSEDED"

inductive ExperimentOutcomeEventKind
  | experimentRegistered
  | technicalOutcomeRecorded
  | economicOutcomeMatured
  | outcomeCensored
  | outcomeInvalidated
  | outcomeCorrected
deriving DecidableEq

def ExperimentOutcomeEventKind.value : ExperimentOutcomeEventKind → String
  | .experimentRegistered => "EXPERIMENT_REGISTERED"
  | .technicalOutcomeRecorded => "TECHNICAL_OUTCOME_RECORDED"
  | .economicOutcomeMatured => "ECONOMIC_OUTCOME_MATURED"
  | .outcomeCensored => "OUTCOME_CENSORED"
  | .outcomeInvalidated => "OUTCOME_INVALIDATED"
  | .outcomeCorrected => "OUTCOME_CORRECTED"

inductive ExperimentStage
  | proposal
  | build
  | test
  | replay
  | falsification
  | oos
  | shadow
  | promotion
  | forward
  | duplicate
deriving DecidableEq

def ExperimentStage.value : ExperimentStage → String
  | .proposal => "PROPOSAL"
  | .build => "BUILD"
  | .test => "TEST"
  | .replay => "REPLAY"
  | .falsification => "FALSIFICATION"
  | .oos => "OOS"
  | .shadow => "SHADOW"
  | .promotion => "PROMOTION"
  | .forward => "FORWARD"
  | .duplicate => "DUPLICATE"

structure ExperimentOrigin (R : Type) where
  researchCycleId : String
  proposalId : String
  challengerId : String
  parentStrategyId : String
  parentStrategyVersion : String
  candidateStrategyVersion : String
  primaryActionKind : ResearchActionKind
  secondaryActionKinds : List ResearchActionKind
  mechanismTags : List String
  informationRole : ExperimentInformationRole
  decisionAt : Instant
  maturityDueAt : Instant
  predictedDeltaSharpeLower : Option R
  predictedDeltaSharpeMedian : Option R
  predictedDeltaSharpeUpper : Option R
  complexityDelta : R
  candidateArtifactHash : Option String
deriving DecidableEq

structure ResearchExperimentAction (R : Type) where
  actionId : String
  experimentId : String
  origin : ExperimentOrigin R
  predictedFailureCodes : List String
  evaluationContractHash : String
  sourceArtifactHashes : List String
  sourceDataAvailableAt : List Instant
  legacyProposal : Bool
  metaTrainingPermitted : Bool
  idempotencyKey : String
  createdAt : Instant
  actionHash : String
deriving DecidableEq

/-- The fields of an outcome that an event takes over from its input. -/
structure OutcomeContent (R : Type) where
  eventKind : ExperimentOutcomeEventKind
  experimentStage : ExperimentStage
  evaluationWindowStart : Option Instant
  evaluationWindowEnd : Option Instant
  availableAt : Instant
  maturityStatus : ExperimentMaturityStatus
  technicalSuccess : Option Bool
  technicalFailureCodes : List String
  portfolioDeltaSharpePoint : Option R
  portfolioDeltaSharpeLcb : Option R
  portfolioDeltaSharpeUcb : Option R
  worstCostDeltaSharpeLcb : Option R
  drawdownDelta : Option R
  tailLossDelta : Option R
  turnoverDelta : Option R
  costDeltaBps : Option R
  evaluationContractHash : String
  sourceArtifactHashes : List String
  sourceDataAvailableAt : List Instant
  supersedesEventId : Option String
  idempotencyKey : String
  createdAt : Instant
deriving DecidableEq

/-- `ExperimentOutcomeMaturationInputV1`. -/
structure OutcomeMaturationInput (R : Type) where
  experimentId : String
  outcome : OutcomeContent R
deriving DecidableEq

structure ExperimentOutcomeEvent (R : Type) where
  eventId : String
  experimentId : String
  origin : ExperimentOrigin R
  eventSequence : ℕ
  outcome : OutcomeContent R
  predictionError : Option R
  eligibleForMetaTraining : Bool
  previousEventHash : Option String
  maturationInputHash : String
  eventHash : String
deriving DecidableEq

section Data

variable {R : Type} [OutcomeNumber R]

def optNumber (value : Option R) : Canonical := value.elim .null OutcomeNumber.canonical

def strings (values : List String) : Canonical := .list (values.map .str)

def instants (values : List Instant) : Canonical := .list (values.map .instant)

def ExperimentOrigin.entries (o : ExperimentOrigin R) : List (String × Canonical) :=
  [("research_cycle_id", .str o.researchCycleId), ("proposal_id", .str o.proposalId),
    ("challenger_id", .str o.challengerId), ("parent_strategy_id", .str o.parentStrategyId),
    ("parent_strategy_version", .str o.parentStrategyVersion),
    ("candidate_strategy_version", .str o.candidateStrategyVersion),
    ("primary_action_kind", .str o.primaryActionKind.value),
    ("secondary_action_kinds", strings (o.secondaryActionKinds.map (·.value))),
    ("mechanism_tags", strings o.mechanismTags),
    ("information_role", .str o.informationRole.value), ("decision_at", .instant o.decisionAt),
    ("maturity_due_at", .instant o.maturityDueAt),
    ("predicted_delta_sharpe_lower", optNumber o.predictedDeltaSharpeLower),
    ("predicted_delta_sharpe_median", optNumber o.predictedDeltaSharpeMedian),
    ("predicted_delta_sharpe_upper", optNumber o.predictedDeltaSharpeUpper),
    ("complexity_delta", OutcomeNumber.canonical o.complexityDelta),
    ("candidate_artifact_hash", .optStr o.candidateArtifactHash)]

def ResearchExperimentAction.data (a : ResearchExperimentAction R) : Canonical :=
  .dict ([("schema_version", .str "research_experiment_action_v1"), ("action_id", .str a.actionId),
    ("experiment_id", .str a.experimentId)] ++ a.origin.entries ++
    [("predicted_failure_codes", strings a.predictedFailureCodes),
      ("evaluation_contract_hash", .str a.evaluationContractHash),
      ("source_artifact_hashes", strings a.sourceArtifactHashes),
      ("source_data_available_at", instants a.sourceDataAvailableAt),
      ("legacy_proposal", .bool a.legacyProposal),
      ("meta_training_permitted", .bool a.metaTrainingPermitted),
      ("idempotency_key", .str a.idempotencyKey), ("created_at", .instant a.createdAt)])

def OutcomeContent.entries (c : OutcomeContent R) : List (String × Canonical) :=
  [("event_kind", .str c.eventKind.value), ("experiment_stage", .str c.experimentStage.value),
    ("evaluation_window_start", .optInstant c.evaluationWindowStart),
    ("evaluation_window_end", .optInstant c.evaluationWindowEnd),
    ("available_at", .instant c.availableAt), ("maturity_status", .str c.maturityStatus.value),
    ("technical_success", c.technicalSuccess.elim .null .bool),
    ("technical_failure_codes", strings c.technicalFailureCodes),
    ("portfolio_delta_sharpe_point", optNumber c.portfolioDeltaSharpePoint),
    ("portfolio_delta_sharpe_lcb", optNumber c.portfolioDeltaSharpeLcb),
    ("portfolio_delta_sharpe_ucb", optNumber c.portfolioDeltaSharpeUcb),
    ("worst_cost_delta_sharpe_lcb", optNumber c.worstCostDeltaSharpeLcb),
    ("drawdown_delta", optNumber c.drawdownDelta),
    ("tail_loss_delta", optNumber c.tailLossDelta),
    ("turnover_delta", optNumber c.turnoverDelta), ("cost_delta_bps", optNumber c.costDeltaBps),
    ("evaluation_contract_hash", .str c.evaluationContractHash),
    ("source_artifact_hashes", strings c.sourceArtifactHashes),
    ("source_data_available_at", instants c.sourceDataAvailableAt),
    ("supersedes_event_id", .optStr c.supersedesEventId),
    ("idempotency_key", .str c.idempotencyKey), ("created_at", .instant c.createdAt)]

def OutcomeMaturationInput.data (m : OutcomeMaturationInput R) : Canonical :=
  .dict ([("schema_version", .str "experiment_outcome_maturation_input_v1"),
    ("experiment_id", .str m.experimentId)] ++ m.outcome.entries)

def ExperimentOutcomeEvent.data (e : ExperimentOutcomeEvent R) : Canonical :=
  .dict ([("schema_version", .str "experiment_outcome_event_v1"), ("event_id", .str e.eventId),
    ("experiment_id", .str e.experimentId)] ++ e.origin.entries ++
    [("event_sequence", .int e.eventSequence)] ++ e.outcome.entries ++
    [("prediction_error", optNumber e.predictionError),
      ("eligible_for_meta_training", .bool e.eligibleForMetaTraining),
      ("previous_event_hash", .optStr e.previousEventHash),
      ("maturation_input_hash", .str e.maturationInputHash)])

end Data

/-- The pattern `^[A-Za-z0-9][A-Za-z0-9._+-]{0,79}$`. -/
def isVersion (text : String) : Bool :=
  match text.toList with
  | [] => false
  | first :: rest => first.isAlphanum && rest.length ≤ 79 &&
      rest.all fun c => c.isAlphanum || "._+-".toList.contains c

def versionCheck (field value : String) : List FieldError :=
  fieldCheck field (isVersion value)
    "String should match pattern '^[A-Za-z0-9][A-Za-z0-9._+-]\x7b0,79\x7d$'"

def requireSortedUnique (model field : String) (values : List String) : Except Failure Unit := do
  raiseIf (¬values.Nodup) (.record model (field ++ " must be unique"))
  raiseIf (sortedBy id values ≠ values) (.record model (field ++ " must be sorted"))

def requireHashSequence (model : String) (values : List String) : Except Failure Unit := do
  raiseIf (¬values.Nodup) (.record model "artifact hashes must be unique")
  raiseIf (¬∀ value ∈ values, Control.isHash value)
    (.record model "artifact hashes must be lowercase SHA-256 values")

def sourceKey (source : String × Instant) : Instant ×ₗ String := toLex (source.2, source.1)

def requireCanonicalSourceProvenance (model label : String) (hashes : List String)
    (times : List Instant) : Except Failure Unit := do
  requireHashSequence model hashes
  raiseIf (hashes.length ≠ times.length)
    (.record model "every source artifact hash requires an availability time")
  raiseIf (sortedBy sourceKey (hashes.zip times) ≠ hashes.zip times)
    (.record model (label ++ " source provenance pairs must be sorted"))

def canonicalSourceProvenance (hashes : List String) (times : List Instant) :
    Except Failure (List String × List Instant) := do
  raiseIf (hashes.length ≠ times.length)
    (valueError "every source artifact hash requires an availability time")
  let paired := sortedBy sourceKey (hashes.zip times)
  return (paired.map (·.1), paired.map (·.2))

section Checks

variable {R : Type} [OutcomeNumber R]

variable (o : ExperimentOrigin R) (c : OutcomeContent R)

def OutcomeContent.economicValues : List (Option R) :=
  [c.portfolioDeltaSharpePoint, c.portfolioDeltaSharpeLcb, c.portfolioDeltaSharpeUcb,
    c.worstCostDeltaSharpeLcb, c.drawdownDelta, c.tailLossDelta, c.turnoverDelta, c.costDeltaBps]

def OutcomeContent.hasEconomicValues : Bool :=
  c.economicValues.any (·.isSome)

def ExperimentOrigin.predictions : List (Option R) :=
  [o.predictedDeltaSharpeLower, o.predictedDeltaSharpeMedian, o.predictedDeltaSharpeUpper]

def checkPredictions (model : String) (o : ExperimentOrigin R) : Except Failure Unit := do
  raiseIf (o.predictions.any (·.isNone) ≠ o.predictions.all (·.isNone))
    (.record model "predicted Sharpe bounds must be all present or all absent")
  match o.predictedDeltaSharpeLower, o.predictedDeltaSharpeMedian, o.predictedDeltaSharpeUpper with
  | some lower, some median, some upper =>
    raiseIf (¬(lower ≤ median ∧ median ≤ upper))
      (.record model "predicted Sharpe bounds are not ordered")
  | _, _, _ => pure ()

def ExperimentOrigin.fieldErrors : List FieldError :=
  identifierCheck "research_cycle_id" o.researchCycleId ++
    identifierCheck "proposal_id" o.proposalId ++
    identifierCheck "challenger_id" o.challengerId ++
    identifierCheck "parent_strategy_id" o.parentStrategyId ++
    versionCheck "parent_strategy_version" o.parentStrategyVersion ++
    versionCheck "candidate_strategy_version" o.candidateStrategyVersion ++
    Control.itemsCheck "secondary_action_kinds" 3 o.secondaryActionKinds ++
    Control.itemsCheck "mechanism_tags" 64 o.mechanismTags ++
    optionalCheck (hashCheck "candidate_artifact_hash") o.candidateArtifactHash

def OutcomeContent.fieldErrors : List FieldError :=
  Control.itemsCheck "technical_failure_codes" 64 c.technicalFailureCodes ++
    hashCheck "evaluation_contract_hash" c.evaluationContractHash ++
    Control.itemsCheck "source_artifact_hashes" 512 c.sourceArtifactHashes ++
    Control.itemsCheck "source_data_available_at" 512 c.sourceDataAvailableAt ++
    optionalCheck (identifierCheck "supersedes_event_id") c.supersedesEventId ++
    identifierCheck "idempotency_key" c.idempotencyKey

def ResearchExperimentAction.fieldErrors (a : ResearchExperimentAction R) : List FieldError :=
  identifierCheck "action_id" a.actionId ++ identifierCheck "experiment_id" a.experimentId ++
    a.origin.fieldErrors ++
    Control.itemsCheck "predicted_failure_codes" 64 a.predictedFailureCodes ++
    hashCheck "evaluation_contract_hash" a.evaluationContractHash ++
    Control.itemsCheck "source_artifact_hashes" 512 a.sourceArtifactHashes ++
    Control.itemsCheck "source_data_available_at" 512 a.sourceDataAvailableAt ++
    identifierCheck "idempotency_key" a.idempotencyKey ++ hashCheck "action_hash" a.actionHash

def actionFailure (message : String) : Failure := .record "ResearchExperimentActionV1" message

def validateAction (hash : Hashing) (a : ResearchExperimentAction R) : Except Failure Unit := do
  raiseIf (a.fieldErrors ≠ []) (.validation "ResearchExperimentActionV1" a.fieldErrors)
  raiseIf (a.origin.maturityDueAt < a.origin.decisionAt)
    (actionFailure "maturity_due_at cannot precede decision_at")
  raiseIf (a.createdAt < a.origin.decisionAt)
    (actionFailure "action cannot be created before its decision")
  raiseIf (a.createdAt > a.origin.maturityDueAt)
    (actionFailure "action must be registered before maturity_due_at")
  raiseIf (¬a.origin.secondaryActionKinds.Nodup)
    (actionFailure "secondary action kinds must be unique")
  raiseIf (a.origin.primaryActionKind ∈ a.origin.secondaryActionKinds)
    (actionFailure "primary action cannot also be secondary")
  requireSortedUnique "ResearchExperimentActionV1" "mechanism_tags" a.origin.mechanismTags
  requireSortedUnique "ResearchExperimentActionV1" "predicted_failure_codes"
    a.predictedFailureCodes
  requireCanonicalSourceProvenance "ResearchExperimentActionV1" "action" a.sourceArtifactHashes
    a.sourceDataAvailableAt
  raiseIf (∃ time ∈ a.sourceDataAvailableAt, time > a.origin.decisionAt)
    (actionFailure "action source data was unavailable at decision time")
  checkPredictions "ResearchExperimentActionV1" a.origin
  raiseIf (a.metaTrainingPermitted ≠ (a.origin.informationRole = .learningForward ∧
      ¬a.legacyProposal ∧ a.origin.primaryActionKind ≠ .unknownLegacy ∧
      a.origin.candidateArtifactHash.isSome : Bool))
    (actionFailure "meta-training permission does not match action provenance")
  raiseIf (a.legacyProposal ≠ (a.origin.primaryActionKind = .unknownLegacy : Bool))
    (actionFailure "legacy proposal must map only to UNKNOWN_LEGACY")
  raiseIf (hash.canonicalHash a.data ≠ a.actionHash)
    (actionFailure "research experiment action hash mismatch")

def validateOutcomeValues (model : String) (c : OutcomeContent R) : Except Failure Unit := do
  raiseIf (c.createdAt < c.availableAt)
    (.record model "outcome cannot be created before it is available")
  raiseIf (c.evaluationWindowStart.isNone ≠ c.evaluationWindowEnd.isNone)
    (.record model "evaluation window bounds must be both present or absent")
  raiseIf (c.evaluationWindowStart.any (fun start =>
      c.evaluationWindowEnd.any fun stop => stop < start ∨ stop > c.availableAt) = true)
    (.record model "evaluation window is invalid at outcome availability")
  raiseIf (c.maturityStatus ≠ .matured ∧ c.hasEconomicValues)
    (.record model "economic metrics must remain None until MATURED")
  raiseIf (c.hasEconomicValues ∧ (c.evaluationWindowStart = none ∨ c.evaluationWindowEnd = none))
    (.record model "economic metrics require an evaluation window")
  raiseIf (c.technicalSuccess = some true ∧ c.technicalFailureCodes ≠ [])
    (.record model "technical success cannot carry failure codes")
  raiseIf (c.technicalSuccess = some false ∧ c.technicalFailureCodes = [])
    (.record model "technical failure requires a failure code")
  raiseIf (c.technicalSuccess = none ∧ c.technicalFailureCodes ≠ [])
    (.record model "technical failure codes require a technical outcome")

def validateEventSemantics (model : String) (c : OutcomeContent R) : Except Failure Unit := do
  match c.eventKind with
  | .experimentRegistered =>
    raiseIf (c.maturityStatus ≠ .pending ∨ c.technicalSuccess ≠ none ∨ c.hasEconomicValues)
      (.record model "EXPERIMENT_REGISTERED must be a pending non-outcome event")
  | .technicalOutcomeRecorded =>
    raiseIf (c.maturityStatus ≠ .matured ∨ c.technicalSuccess = none ∨ c.hasEconomicValues)
      (.record model "TECHNICAL_OUTCOME_RECORDED requires a mature technical outcome")
  | .economicOutcomeMatured =>
    raiseIf (c.maturityStatus ≠ .matured ∨ ¬c.hasEconomicValues)
      (.record model "ECONOMIC_OUTCOME_MATURED requires mature economic values")
  | .outcomeCensored =>
    raiseIf (c.maturityStatus ≠ .censored)
      (.record model "OUTCOME_CENSORED requires CENSORED status")
  | .outcomeInvalidated =>
    raiseIf (c.maturityStatus ≠ .invalidated)
      (.record model "OUTCOME_INVALIDATED requires INVALIDATED status")
  | .outcomeCorrected => pure ()
  raiseIf ((c.eventKind = .outcomeCorrected : Bool) ≠ c.supersedesEventId.isSome)
    (.record model "only OUTCOME_CORRECTED may declare supersedes_event_id")
  raiseIf (c.eventKind = .outcomeCorrected ∧ c.maturityStatus = .pending)
    (.record model "OUTCOME_CORRECTED cannot remain PENDING")
  raiseIf (c.maturityStatus = .superseded ∧ c.eventKind ≠ .outcomeCorrected)
    (.record model "SUPERSEDED status requires a correction event")

def metaTrainingEligible : Bool :=
  o.informationRole = .learningForward &&
    (c.eventKind = .economicOutcomeMatured || c.eventKind = .outcomeCorrected) &&
    c.maturityStatus = .matured && o.primaryActionKind ≠ .unknownLegacy &&
    o.candidateArtifactHash.isSome && c.hasEconomicValues

def predictionErrorOf : Option R :=
  match c.portfolioDeltaSharpePoint, o.predictedDeltaSharpeMedian with
  | some point, some median => some (point - median)
  | _, _ => none

def OutcomeMaturationInput.fieldErrors (m : OutcomeMaturationInput R) : List FieldError :=
  identifierCheck "experiment_id" m.experimentId ++ m.outcome.fieldErrors

def validateMaturation (m : OutcomeMaturationInput R) : Except Failure Unit := do
  let model := "ExperimentOutcomeMaturationInputV1"
  raiseIf (m.fieldErrors ≠ []) (.validation model m.fieldErrors)
  validateOutcomeValues model m.outcome
  validateEventSemantics model m.outcome
  requireSortedUnique model "technical_failure_codes" m.outcome.technicalFailureCodes
  requireCanonicalSourceProvenance model "outcome input" m.outcome.sourceArtifactHashes
    m.outcome.sourceDataAvailableAt
  raiseIf (∃ time ∈ m.outcome.sourceDataAvailableAt, time > m.outcome.availableAt)
    (.record model "source data was unavailable at outcome availability")

def ExperimentOutcomeEvent.fieldErrors (e : ExperimentOutcomeEvent R) : List FieldError :=
  identifierCheck "event_id" e.eventId ++ identifierCheck "experiment_id" e.experimentId ++
    e.origin.fieldErrors ++
    geCheck "event_sequence" 1 e.eventSequence ++ e.outcome.fieldErrors ++
    optionalCheck (hashCheck "previous_event_hash") e.previousEventHash ++
    hashCheck "maturation_input_hash" e.maturationInputHash ++ hashCheck "event_hash" e.eventHash

def validateEvent (hash : Hashing) (e : ExperimentOutcomeEvent R) : Except Failure Unit := do
  let model := "ExperimentOutcomeEventV1"
  raiseIf (e.fieldErrors ≠ []) (.validation model e.fieldErrors)
  raiseIf (e.origin.maturityDueAt < e.origin.decisionAt)
    (.record model "maturity_due_at cannot precede decision_at")
  raiseIf ((e.eventSequence = 1 : Bool) ≠ e.previousEventHash.isNone)
    (.record model "event-chain predecessor does not match sequence")
  raiseIf (e.outcome.supersedesEventId = some e.eventId)
    (.record model "an outcome event cannot supersede itself")
  validateOutcomeValues model e.outcome
  validateEventSemantics model e.outcome
  requireSortedUnique model "technical_failure_codes" e.outcome.technicalFailureCodes
  requireSortedUnique model "mechanism_tags" e.origin.mechanismTags
  requireCanonicalSourceProvenance model "outcome event" e.outcome.sourceArtifactHashes
    e.outcome.sourceDataAvailableAt
  raiseIf (∃ time ∈ e.outcome.sourceDataAvailableAt, time > e.outcome.availableAt)
    (.record model "source data was unavailable at outcome availability")
  checkPredictions model e.origin
  raiseIf (e.predictionError ≠ predictionErrorOf e.origin e.outcome)
    (.record model "prediction_error arithmetic mismatch")
  raiseIf (e.eligibleForMetaTraining ≠ metaTrainingEligible e.origin e.outcome)
    (.record model "meta-training eligibility mismatch")
  raiseIf (e.outcome.hasEconomicValues ∧ e.outcome.availableAt < e.origin.maturityDueAt)
    (.record model "economic outcome matured before maturity_due_at")
  raiseIf (hash.canonicalHash e.data ≠ e.eventHash)
    (.record model "experiment outcome event hash mismatch")

def outcomeEvent (hash : Hashing) (a : ResearchExperimentAction R) (m : OutcomeMaturationInput R)
    (previous : Option (ExperimentOutcomeEvent R)) (hashes : List String) (times : List Instant) :
    ExperimentOutcomeEvent R :=
  let outcome : OutcomeContent R :=
    { m.outcome with sourceArtifactHashes := hashes, sourceDataAvailableAt := times }
  let unsigned : ExperimentOutcomeEvent R :=
    { eventId := hash.stableId "experiment-outcome-event"
        [.str a.experimentId, .str m.outcome.idempotencyKey]
      experimentId := a.experimentId
      origin := a.origin
      eventSequence := (previous.map (·.eventSequence)).getD 0 + 1
      outcome := outcome
      predictionError := predictionErrorOf a.origin m.outcome
      eligibleForMetaTraining := metaTrainingEligible a.origin m.outcome
      previousEventHash := previous.map (·.eventHash)
      maturationInputHash := hash.canonicalHash m.data
      eventHash := "" }
  { unsigned with eventHash := hash.canonicalHash unsigned.data }

def buildOutcomeEvent (hash : Hashing) (a : ResearchExperimentAction R)
    (m : OutcomeMaturationInput R) (previous : Option (ExperimentOutcomeEvent R)) :
    Except Failure (ExperimentOutcomeEvent R) := do
  let registeredAt := max a.origin.decisionAt a.createdAt
  raiseIf (m.experimentId ≠ a.experimentId)
    (valueError "maturation input belongs to another experiment")
  raiseIf (m.outcome.evaluationContractHash ≠ a.evaluationContractHash)
    (valueError "maturation evaluation contract differs from action")
  raiseIf (m.outcome.hasEconomicValues ∧ m.outcome.availableAt < a.origin.maturityDueAt)
    (valueError "economic outcome cannot mature before maturity_due_at")
  raiseIf (m.outcome.hasEconomicValues ∧ m.outcome.evaluationWindowStart.all (· < registeredAt))
    (valueError "economic evaluation window predates experiment registration")
  raiseIf (previous.any (·.experimentId ≠ a.experimentId) = true)
    (valueError "previous event belongs to another experiment")
  raiseIf (previous.any (m.outcome.createdAt < ·.outcome.createdAt) = true)
    (valueError "outcome event creation time cannot regress")
  raiseIf (m.outcome.createdAt < a.createdAt)
    (valueError "outcome event cannot predate its registered action")
  raiseIf (m.outcome.availableAt < registeredAt)
    (valueError "outcome availability cannot predate its registered action")
  raiseIf (previous.any (m.outcome.availableAt < ·.outcome.availableAt) = true)
    (valueError "outcome availability time cannot regress")
  let (hashes, times) ← canonicalSourceProvenance m.outcome.sourceArtifactHashes
    m.outcome.sourceDataAvailableAt
  let event := outcomeEvent hash a m previous hashes times
  validateEvent hash event
  return event

end Checks

end AdaptiveQuant.ResearchPlane
