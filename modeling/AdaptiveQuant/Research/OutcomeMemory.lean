import AdaptiveQuant.Research.ExperimentOutcomes
import Mathlib.Order.OrderDual

/-! The research memory of `research/experiment_outcomes.py`. -/

namespace AdaptiveQuant.ResearchPlane

open Guard Sequence

structure ResearchActionStatistic (R : Type) where
  primaryActionKind : ResearchActionKind
  includedEventCount : ℕ
  maturedEconomicOutcomeCount : ℕ
  technicalSuccessCount : ℕ
  technicalFailureCount : ℕ
  meanPortfolioDeltaSharpe : Option R
  meanPortfolioDeltaSharpeLcb : Option R
  meanPredictionError : Option R
deriving DecidableEq

structure ResearchFailureCluster where
  failureCode : String
  eventCount : ℕ
  actionKinds : List ResearchActionKind
deriving DecidableEq

structure HistoricalExperimentAnalog (R : Type) where
  eventHash : String
  experimentId : String
  primaryActionKind : ResearchActionKind
  mechanismTags : List String
  portfolioDeltaSharpeLcb : Option R
  worstCostDeltaSharpeLcb : Option R
  availableAt : Instant
deriving DecidableEq

structure PredictionCalibrationSummary (R : Type) where
  observationCount : ℕ
  meanError : Option R
  meanAbsoluteError : Option R
deriving DecidableEq

/-- The part of a snapshot that summarises the included events. -/
structure MemoryStatistics (R : Type) where
  includedEventHashes : List String
  actionStatistics : List (ResearchActionStatistic R)
  recentFailureClusters : List ResearchFailureCluster
  nearestHistoricalAnalogs : List (HistoricalExperimentAnalog R)
  predictionCalibrationSummary : PredictionCalibrationSummary R
deriving DecidableEq

structure ResearchMemorySnapshot (R : Type) where
  snapshotId : String
  asOf : Instant
  dataAvailableCutoff : Instant
  excludedFutureEventCount : ℕ
  excludedUnmaturedEventCount : ℕ
  excludedOosEventCount : ℕ
  excludedMetaAuditEventCount : ℕ
  excludedInvalidEventCount : ℕ
  statistics : MemoryStatistics R
  createdAt : Instant
  snapshotHash : String
deriving DecidableEq

inductive MemoryClass
  | future
  | oos
  | metaAudit
  | unmatured
  | invalid
  | included
deriving DecidableEq

section Memory

variable {R : Type} [OutcomeNumber R]

def recordedBy (asOf : Instant) (events : List (ExperimentOutcomeEvent R)) :
    List (ExperimentOutcomeEvent R) :=
  events.filter (·.outcome.createdAt ≤ asOf)

def supersededIds (asOf cutoff : Instant) (events : List (ExperimentOutcomeEvent R)) :
    List String :=
  ((recordedBy asOf events).filter (·.outcome.availableAt ≤ cutoff)).filterMap
    (·.outcome.supersedesEventId)

def memoryClass (cutoff : Instant) (superseded : List String) (event : ExperimentOutcomeEvent R) :
    MemoryClass :=
  if event.outcome.availableAt > cutoff then .future
  else if event.origin.informationRole = .promotionOos then .oos
  else if event.origin.informationRole = .metaAudit then .metaAudit
  else if event.outcome.maturityStatus = .pending then .unmatured
  else if event.outcome.maturityStatus ∈
      [ExperimentMaturityStatus.censored, .invalidated, .superseded] ∨
      event.eventId ∈ superseded then .invalid
  else .included

def memoryKey (event : ExperimentOutcomeEvent R) : Instant ×ₗ String ×ₗ ℕ ×ₗ String :=
  toLex (event.outcome.availableAt, toLex (event.experimentId,
    toLex (event.eventSequence, event.eventId)))

def includedEvents (asOf cutoff : Instant) (events : List (ExperimentOutcomeEvent R)) :
    List (ExperimentOutcomeEvent R) :=
  sortedBy memoryKey ((recordedBy asOf events).filter fun event =>
    memoryClass cutoff (supersededIds asOf cutoff events) event = .included)

def memoryCount (asOf cutoff : Instant) (events : List (ExperimentOutcomeEvent R))
    (branch : MemoryClass) : ℕ :=
  (recordedBy asOf events).countP fun event =>
    memoryClass cutoff (supersededIds asOf cutoff events) event = branch

/-- `None if not values else fmean(values)`. -/
def optionalMean (values : List R) : Option R :=
  if values.isEmpty then none else some (OutcomeNumber.fmean values)

def actionKindsOf (events : List (ExperimentOutcomeEvent R)) : List ResearchActionKind :=
  sortedBy (·.value) (events.map (·.origin.primaryActionKind)).dedup

def actionStatistic (events : List (ExperimentOutcomeEvent R)) (kind : ResearchActionKind) :
    ResearchActionStatistic R :=
  let items := events.filter (·.origin.primaryActionKind = kind)
  let economic := items.filter (·.eligibleForMetaTraining)
  { primaryActionKind := kind
    includedEventCount := items.length
    maturedEconomicOutcomeCount := economic.length
    technicalSuccessCount := items.countP (·.outcome.technicalSuccess = some true)
    technicalFailureCount := items.countP (·.outcome.technicalSuccess = some false)
    meanPortfolioDeltaSharpe := optionalMean (economic.filterMap
      (·.outcome.portfolioDeltaSharpePoint))
    meanPortfolioDeltaSharpeLcb := optionalMean (economic.filterMap
      (·.outcome.portfolioDeltaSharpeLcb))
    meanPredictionError := optionalMean (economic.filterMap (·.predictionError)) }

def actionStatistics (events : List (ExperimentOutcomeEvent R)) :
    List (ResearchActionStatistic R) :=
  (actionKindsOf events).map (actionStatistic events)

def failureCodes (events : List (ExperimentOutcomeEvent R)) : List String :=
  events.flatMap (·.outcome.technicalFailureCodes)

def failureClusters (events : List (ExperimentOutcomeEvent R)) : List ResearchFailureCluster :=
  let codes := failureCodes events
  (sortedBy (fun code => (toLex (-(codes.count code : ℤ), code) : ℤ ×ₗ String)) codes.dedup).map
    fun code =>
      { failureCode := code
        eventCount := codes.count code
        actionKinds := actionKindsOf (events.filter (code ∈ ·.outcome.technicalFailureCodes)) }

def analogKey (event : ExperimentOutcomeEvent R) : (Instant ×ₗ String ×ₗ ℕ)ᵒᵈ :=
  OrderDual.toDual (toLex (event.outcome.availableAt,
    toLex (event.experimentId, event.eventSequence)))

def historicalAnalog (event : ExperimentOutcomeEvent R) : HistoricalExperimentAnalog R where
  eventHash := event.eventHash
  experimentId := event.experimentId
  primaryActionKind := event.origin.primaryActionKind
  mechanismTags := event.origin.mechanismTags
  portfolioDeltaSharpeLcb := event.outcome.portfolioDeltaSharpeLcb
  worstCostDeltaSharpeLcb := event.outcome.worstCostDeltaSharpeLcb
  availableAt := event.outcome.availableAt

def memoryStatistics (included : List (ExperimentOutcomeEvent R)) : MemoryStatistics R :=
  let economic := included.filter (·.eligibleForMetaTraining)
  let errors := economic.filterMap (·.predictionError)
  { includedEventHashes := included.map (·.eventHash)
    actionStatistics := actionStatistics included
    recentFailureClusters := failureClusters included
    nearestHistoricalAnalogs := (sortedBy analogKey economic).map historicalAnalog
    predictionCalibrationSummary :=
      { observationCount := errors.length
        meanError := optionalMean errors
        meanAbsoluteError := optionalMean (errors.map OutcomeNumber.abs) } }

def ResearchActionStatistic.data (s : ResearchActionStatistic R) : Canonical :=
  .dict [("primary_action_kind", .str s.primaryActionKind.value),
    ("included_event_count", .int s.includedEventCount),
    ("matured_economic_outcome_count", .int s.maturedEconomicOutcomeCount),
    ("technical_success_count", .int s.technicalSuccessCount),
    ("technical_failure_count", .int s.technicalFailureCount),
    ("mean_portfolio_delta_sharpe", optNumber s.meanPortfolioDeltaSharpe),
    ("mean_portfolio_delta_sharpe_lcb", optNumber s.meanPortfolioDeltaSharpeLcb),
    ("mean_prediction_error", optNumber s.meanPredictionError)]

def ResearchFailureCluster.data (c : ResearchFailureCluster) : Canonical :=
  .dict [("failure_code", .str c.failureCode), ("event_count", .int c.eventCount),
    ("action_kinds", strings (c.actionKinds.map (·.value)))]

def HistoricalExperimentAnalog.data (a : HistoricalExperimentAnalog R) : Canonical :=
  .dict [("event_hash", .str a.eventHash), ("experiment_id", .str a.experimentId),
    ("primary_action_kind", .str a.primaryActionKind.value),
    ("mechanism_tags", strings a.mechanismTags),
    ("portfolio_delta_sharpe_lcb", optNumber a.portfolioDeltaSharpeLcb),
    ("worst_cost_delta_sharpe_lcb", optNumber a.worstCostDeltaSharpeLcb),
    ("available_at", .instant a.availableAt)]

def PredictionCalibrationSummary.data (c : PredictionCalibrationSummary R) : Canonical :=
  .dict [("observation_count", .int c.observationCount), ("mean_error", optNumber c.meanError),
    ("mean_absolute_error", optNumber c.meanAbsoluteError)]

def ResearchMemorySnapshot.data (m : ResearchMemorySnapshot R) : Canonical :=
  .dict [("schema_version", .str "research_memory_snapshot_v1"), ("snapshot_id", .str m.snapshotId),
    ("as_of", .instant m.asOf), ("data_available_cutoff", .instant m.dataAvailableCutoff),
    ("included_event_hashes", strings m.statistics.includedEventHashes),
    ("excluded_future_event_count", .int m.excludedFutureEventCount),
    ("excluded_unmatured_event_count", .int m.excludedUnmaturedEventCount),
    ("excluded_oos_event_count", .int m.excludedOosEventCount),
    ("excluded_meta_audit_event_count", .int m.excludedMetaAuditEventCount),
    ("excluded_invalid_event_count", .int m.excludedInvalidEventCount),
    ("action_statistics", .list (m.statistics.actionStatistics.map (·.data))),
    ("recent_failure_clusters", .list (m.statistics.recentFailureClusters.map (·.data))),
    ("regime_action_statistics", .nil),
    ("nearest_historical_analogs", .list (m.statistics.nearestHistoricalAnalogs.map (·.data))),
    ("prediction_calibration_summary", m.statistics.predictionCalibrationSummary.data),
    ("created_at", .instant m.createdAt)]

/-- The check of `ResearchFailureClusterV1` that may fail: the code of an event is any text. -/
def checkFailureCluster (cluster : ResearchFailureCluster) : Except Failure Unit :=
  raiseIf (identifierCheck "failure_code" cluster.failureCode ≠ [])
    (.validation "ResearchFailureClusterV1" (identifierCheck "failure_code" cluster.failureCode))

def validateSnapshot (hash : Hashing) (m : ResearchMemorySnapshot R) : Except Failure Unit := do
  raiseIf (m.dataAvailableCutoff > m.asOf)
    (.record "ResearchMemorySnapshotV1" "memory data cutoff cannot exceed as_of")
  raiseIf (m.createdAt < m.asOf)
    (.record "ResearchMemorySnapshotV1" "memory snapshot cannot be created before as_of")
  requireHashSequence "ResearchMemorySnapshotV1" m.statistics.includedEventHashes
  raiseIf (hash.canonicalHash m.data ≠ m.snapshotHash)
    (.record "ResearchMemorySnapshotV1" "research memory snapshot hash mismatch")

def memorySnapshot (hash : Hashing) (events : List (ExperimentOutcomeEvent R))
    (asOf cutoff createdAt : Instant) : ResearchMemorySnapshot R :=
  let statistics := memoryStatistics (includedEvents asOf cutoff events)
  let unsigned : ResearchMemorySnapshot R :=
    { snapshotId := hash.stableId "research-memory-snapshot" [.instant asOf, .instant cutoff,
        strings statistics.includedEventHashes, .instant createdAt]
      asOf := asOf
      dataAvailableCutoff := cutoff
      excludedFutureEventCount := memoryCount asOf cutoff events .future
      excludedUnmaturedEventCount := memoryCount asOf cutoff events .unmatured
      excludedOosEventCount := memoryCount asOf cutoff events .oos
      excludedMetaAuditEventCount := memoryCount asOf cutoff events .metaAudit
      excludedInvalidEventCount := memoryCount asOf cutoff events .invalid
      statistics := statistics
      createdAt := createdAt
      snapshotHash := "" }
  { unsigned with snapshotHash := hash.canonicalHash unsigned.data }

def buildResearchMemorySnapshot (hash : Hashing) (events : List (ExperimentOutcomeEvent R))
    (asOf cutoff createdAt : Instant) : Except Failure (ResearchMemorySnapshot R) := do
  raiseIf (cutoff > asOf) (valueError "memory data cutoff cannot exceed as_of")
  let snapshot := memorySnapshot hash events asOf cutoff createdAt
  snapshot.statistics.recentFailureClusters.forM checkFailureCluster
  validateSnapshot hash snapshot
  return snapshot

end Memory

end AdaptiveQuant.ResearchPlane
