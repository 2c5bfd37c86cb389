import AdaptiveQuant.Lib.Apportionment
import AdaptiveQuant.Research.OutcomeMemory

/-! The meta controller of `research/meta_controller.py`: the plan that divides the submissions
among the best kinds of action. Numbers are those of an ordered field; the square root, the
logarithm and the digests are parameters. -/

namespace AdaptiveQuant.MetaController

open Guard Sequence
open ResearchPlane (ExperimentOutcomeEvent ResearchMemorySnapshot ResearchActionKind)

variable {K : Type} [Field K] [LinearOrder K]

inductive MetaControllerReasonCode
  | exactContext
  | backoffRegimeFailure
  | backoffFailure
  | backoffRegime
  | backoffAction
  | untriedExploration
  | positiveMaturedReward
  | technicalFailurePenalty
deriving DecidableEq

structure ResearchContext where
  regimeClusterId : String
  failureClusterId : String
  portfolioExposureClusterId : String
  contextHash : String
deriving DecidableEq

/-- `MetaControllerObservationV1`, without its own digest. -/
structure MetaControllerObservation (K : Type) where
  eventHash : String
  researchCycleId : String
  primaryActionKind : ResearchActionKind
  context : Option ResearchContext
  availableAt : Instant
  technicalSuccess : Option Bool
  portfolioDeltaSharpeLcb : Option K
  turnoverDelta : Option K
  drawdownDelta : Option K
  costDeltaBps : Option K
  complexityDelta : K
deriving DecidableEq

structure MetaControllerTrainingView (K : Type) where
  researchMemorySnapshotHash : String
  dataAvailableCutoff : Instant
  observations : List (MetaControllerObservation K)
  viewHash : String
deriving DecidableEq

structure MetaControllerParameters (K : Type) [Field K] [LinearOrder K] where
  policyVersion : String
  maximumActionsPerCycle : ℕ
  priorStrength : K
  explorationCoefficient : K
  explorationFloor : K
  technicalFailureWeight : K
  rewardClip : K
  turnoverPenaltyWeight : K
  turnoverScale : K
  drawdownPenaltyWeight : K
  drawdownScale : K
  costPenaltyWeight : K
  costScaleBps : K
  complexityPenaltyWeight : K
  complexityScale : K
  maximumActionsPerCycle_pos : 0 < maximumActionsPerCycle
  priorStrength_pos : 0 < priorStrength
  explorationCoefficient_nonneg : 0 ≤ explorationCoefficient
  explorationFloor_nonneg : 0 ≤ explorationFloor
  technicalFailureWeight_nonneg : 0 ≤ technicalFailureWeight
  rewardClip_pos : 0 < rewardClip
  penaltyWeights_nonneg : 0 ≤ turnoverPenaltyWeight ∧ 0 ≤ drawdownPenaltyWeight ∧
    0 ≤ costPenaltyWeight ∧ 0 ≤ complexityPenaltyWeight
  scales_pos : 0 < turnoverScale ∧ 0 < drawdownScale ∧ 0 < costScaleBps ∧ 0 < complexityScale

structure RankedResearchAction (K : Type) where
  actionKind : ResearchActionKind
  score : K
  shrunkRewardMean : K
  explorationBonus : K
  technicalFailurePenalty : K
  maturedSampleCount : ℕ
  totalAttemptCount : ℕ
  allocatedSubmissionBudget : ℕ
  reasonCodes : List MetaControllerReasonCode
deriving DecidableEq

def RankedResearchAction.check (action : RankedResearchAction K) : Except Failure Unit := do
  let fields :=
    fieldCheck "exploration_bonus" (0 ≤ action.explorationBonus)
      "Input should be greater than or equal to 0" ++
    fieldCheck "technical_failure_penalty" (0 ≤ action.technicalFailurePenalty)
      "Input should be greater than or equal to 0"
  raiseIf (fields ≠ []) (.validation "RankedResearchActionV1" fields)
  raiseIf (action.actionKind = .unknownLegacy)
    (.record "RankedResearchActionV1" "UNKNOWN_LEGACY cannot be ranked")
  raiseIf (¬action.reasonCodes.Nodup)
    (.record "RankedResearchActionV1" "Meta Controller reason codes must be unique")

/-- `ResearchActionPlanV1`, without its own digest. -/
structure ResearchActionPlanContent (K : Type) where
  actionPlanId : String
  researchCycleId : String
  policyVersion : String
  researchMemorySnapshotHash : String
  trainingViewHash : String
  context : ResearchContext
  contextHash : String
  configHash : String
  rankedActions : List (RankedResearchAction K)
  maximumActions : ℕ
  maximumTotalSubmissions : ℕ
  idempotencyKey : String
  generatedAt : Instant
deriving DecidableEq

structure ResearchActionPlan (K : Type) extends ResearchActionPlanContent K where
  planHash : String
deriving DecidableEq

structure PlanDigests (K : Type) where
  view : String → Instant → List (MetaControllerObservation K) → String
  plan : ResearchActionPlanContent K → String
  planId : String → String → String → String → String → Instant → String

def hasEconomicReward (event : ExperimentOutcomeEvent K) : Bool :=
  event.eligibleForMetaTraining && event.outcome.portfolioDeltaSharpeLcb.isSome

def observationOf (contexts : Dict String ResearchContext) (event : ExperimentOutcomeEvent K) :
    Option (MetaControllerObservation K) :=
  if event.origin.informationRole ≠ .learningForward ∨
      event.origin.primaryActionKind = .unknownLegacy then none
  else if ¬hasEconomicReward event ∧ event.outcome.technicalSuccess = none then none
  else some {
    eventHash := event.eventHash
    researchCycleId := event.origin.researchCycleId
    primaryActionKind := event.origin.primaryActionKind
    context := contexts.get? event.origin.researchCycleId
    availableAt := event.outcome.availableAt
    technicalSuccess := event.outcome.technicalSuccess
    portfolioDeltaSharpeLcb :=
      if hasEconomicReward event then event.outcome.portfolioDeltaSharpeLcb else none
    turnoverDelta := if hasEconomicReward event then event.outcome.turnoverDelta else none
    drawdownDelta := if hasEconomicReward event then event.outcome.drawdownDelta else none
    costDeltaBps := if hasEconomicReward event then event.outcome.costDeltaBps else none
    complexityDelta := event.origin.complexityDelta }

def observationKey (observation : MetaControllerObservation K) : Instant ×ₗ String :=
  toLex (observation.availableAt, observation.eventHash)

/-- `MetaControllerTrainingViewV1.validate_view`. -/
def MetaControllerTrainingView.check (digests : PlanDigests K)
    (view : MetaControllerTrainingView K) : Except Failure Unit := do
  raiseIf (∃ observation ∈ view.observations, view.dataAvailableCutoff < observation.availableAt)
    (.record "MetaControllerTrainingViewV1" "Meta Controller training view contains future data")
  raiseIf (sortedBy observationKey view.observations ≠ view.observations)
    (.record "MetaControllerTrainingViewV1" "Meta Controller observations must be ordered")
  raiseIf (¬(view.observations.map (·.eventHash)).Nodup)
    (.record "MetaControllerTrainingViewV1" "Meta Controller observations must be unique")
  raiseIf (digests.view view.researchMemorySnapshotHash view.dataAvailableCutoff
      view.observations ≠ view.viewHash)
    (.record "MetaControllerTrainingViewV1" "Meta Controller training view hash mismatch")

def eventByHash (events : List (ExperimentOutcomeEvent K)) (hash : String) :
    Except Failure (ExperimentOutcomeEvent K) :=
  match events.find? (·.eventHash = hash) with
  | some event => .ok event
  | none => .error ⟨.keyError, hash, []⟩

def includedEvent (snapshot : ResearchMemorySnapshot K) (events : List (ExperimentOutcomeEvent K))
    (hash : String) : Except Failure (ExperimentOutcomeEvent K) := do
  let event ← eventByHash events hash
  raiseIf (snapshot.dataAvailableCutoff < event.outcome.availableAt)
    ⟨.valueError, "snapshot event became available after its cutoff", []⟩
  return event

def buildMetaControllerTrainingView (digests : PlanDigests K) (snapshot : ResearchMemorySnapshot K)
    (verifiedEvents : List (ExperimentOutcomeEvent K)) (contexts : Dict String ResearchContext) :
    Except Failure (MetaControllerTrainingView K) := do
  let hashes := verifiedEvents.map (·.eventHash)
  let included := snapshot.statistics.includedEventHashes
  raiseIf (¬hashes.Nodup) ⟨.valueError, "verified event set contains duplicate hashes", []⟩
  raiseIf (¬(hashes ⊆ included ∧ included ⊆ hashes))
    ⟨.valueError, "verified events do not match the immutable memory snapshot", []⟩
  let events ← included.mapM (includedEvent snapshot verifiedEvents)
  let observations := sortedBy observationKey (events.filterMap (observationOf contexts))
  let view : MetaControllerTrainingView K :=
    { researchMemorySnapshotHash := snapshot.snapshotHash
      dataAvailableCutoff := snapshot.dataAvailableCutoff
      observations
      viewHash := digests.view snapshot.snapshotHash snapshot.dataAvailableCutoff observations }
  view.check digests
  return view

def fmean (values : List K) : K := values.sum / values.length

def changePenalty (weight scale change : K) : K := weight * max 0 (change / scale)

variable (parameters : MetaControllerParameters K)

def economicReward
    (observation : MetaControllerObservation K) : Option K :=
  observation.portfolioDeltaSharpeLcb.map fun lcb =>
    let raw := lcb -
      changePenalty parameters.turnoverPenaltyWeight parameters.turnoverScale
        (observation.turnoverDelta.getD 0) -
      changePenalty parameters.drawdownPenaltyWeight parameters.drawdownScale
        (observation.drawdownDelta.getD 0) -
      changePenalty parameters.costPenaltyWeight parameters.costScaleBps
        (observation.costDeltaBps.getD 0) -
      changePenalty parameters.complexityPenaltyWeight parameters.complexityScale
        observation.complexityDelta
    max (-parameters.rewardClip) (min parameters.rewardClip raw)

def rewards
    (observations : List (MetaControllerObservation K)) : List K :=
  observations.filterMap (economicReward parameters)

def globalMean
    (observations : List (MetaControllerObservation K)) : K :=
  if rewards parameters observations = [] then 0 else fmean (rewards parameters observations)

/-- Observations that agree with the context as far as the reason says. -/
structure Bucket (K : Type) where
  reason : MetaControllerReasonCode
  observations : List (MetaControllerObservation K)

/-- Whether an observation agrees with the context, for each of the narrower buckets. -/
def agreements (context : ResearchContext) :
    List (MetaControllerReasonCode × (ResearchContext → Bool)) :=
  [(.exactContext, fun other => other = context),
    (.backoffRegimeFailure, fun other => other.regimeClusterId = context.regimeClusterId ∧
      other.failureClusterId = context.failureClusterId),
    (.backoffFailure, fun other => other.failureClusterId = context.failureClusterId),
    (.backoffRegime, fun other => other.regimeClusterId = context.regimeClusterId)]

def narrowBuckets (context : ResearchContext)
    (actionObservations : List (MetaControllerObservation K)) : List (Bucket K) :=
  (agreements context).map fun agreement =>
    ⟨agreement.1, actionObservations.filter fun observation =>
      observation.context.any agreement.2⟩

/-- The first bucket that is not empty, or else the widest one, and the buckets after it. -/
def selectBucket (widest : Bucket K) : List (Bucket K) → Bucket K × List (Bucket K)
  | [] => (widest, [])
  | bucket :: rest =>
    if bucket.observations ≠ [] then (bucket, rest ++ [widest]) else selectBucket widest rest

def parentMean (globalMean : K)
    (parents : List (Bucket K)) : K :=
  (parents.findSome? fun parent =>
    if rewards parameters parent.observations = [] then none
    else some (fmean (rewards parameters parent.observations))).getD globalMean

def shrunkMean (priorStrength parent : K) (selected : List K) : K :=
  (priorStrength * parent + selected.sum) / (priorStrength + selected.length)

section Plan

variable (sqrt log1p : K → K) (digests : PlanDigests K)

def scoredAction (action : ResearchActionKind) (context : ResearchContext)
    (observations : List (MetaControllerObservation K)) (parameters : MetaControllerParameters K)
    (globalMean : K) (totalMatured : ℕ) : RankedResearchAction K :=
  let actionObservations := observations.filter (·.primaryActionKind = action)
  let (selected, parents) := selectBucket ⟨.backoffAction, actionObservations⟩
    (narrowBuckets context actionObservations)
  let selectedRewards := rewards parameters selected.observations
  let shrunk := shrunkMean parameters.priorStrength (parentMean parameters globalMean parents)
    selectedRewards
  let bonus := max parameters.explorationFloor (parameters.explorationCoefficient *
    sqrt (log1p totalMatured / (parameters.priorStrength + selectedRewards.length)))
  let attempts := selected.observations.length
  let technicalFailures := selected.observations.countP (·.technicalSuccess = some false)
  let penalty := parameters.technicalFailureWeight *
    (technicalFailures / (max 1 attempts : ℕ))
  { actionKind := action
    score := shrunk + bonus - penalty
    shrunkRewardMean := shrunk
    explorationBonus := bonus
    technicalFailurePenalty := penalty
    maturedSampleCount := selectedRewards.length
    totalAttemptCount := attempts
    allocatedSubmissionBudget := 0
    reasonCodes := [selected.reason] ++
      (if actionObservations = [] then [.untriedExploration] else []) ++
      (if ∃ value ∈ selectedRewards, 0 < value then [.positiveMaturedReward] else []) ++
      (if 0 < technicalFailures then [.technicalFailurePenalty] else []) }

def scoreAction (action : ResearchActionKind) (context : ResearchContext)
    (observations : List (MetaControllerObservation K)) (parameters : MetaControllerParameters K)
    (globalMean : K) (totalMatured : ℕ) : Except Failure (RankedResearchAction K) := do
  let entry := scoredAction sqrt log1p action context observations parameters globalMean
    totalMatured
  entry.check
  return entry

def rankingKey (action : RankedResearchAction K) : K ×ₗ String :=
  toLex (-action.score, action.actionKind.value)

/-- `ResearchActionPlanV1.validate_plan`. -/
def ResearchActionPlan.check (plan : ResearchActionPlan K) : Except Failure Unit := do
  raiseIf (plan.contextHash ≠ plan.context.contextHash)
    (.record "ResearchActionPlanV1" "action plan context hash mismatch")
  raiseIf (¬(plan.rankedActions.map (·.actionKind)).Nodup)
    (.record "ResearchActionPlanV1" "action plan contains duplicate actions")
  raiseIf ((plan.rankedActions.map (·.allocatedSubmissionBudget)).sum ≠
      plan.maximumTotalSubmissions)
    (.record "ResearchActionPlanV1" "action plan submission budget arithmetic mismatch")
  raiseIf (plan.maximumActions < plan.rankedActions.countP (0 < ·.allocatedSubmissionBudget))
    (.record "ResearchActionPlanV1" "action plan funds too many actions")
  raiseIf (sortedBy rankingKey plan.rankedActions ≠ plan.rankedActions)
    (.record "ResearchActionPlanV1" "action plan ranking is not deterministic")
  raiseIf (digests.plan plan.toResearchActionPlanContent ≠ plan.planHash)
    (.record "ResearchActionPlanV1" "research action plan hash mismatch")

def allocate (maximumTotalSubmissions fundedCount : ℕ) (ranked : List (RankedResearchAction K)) :
    List (RankedResearchAction K) :=
  ranked.mapIdx fun index item => { item with
    allocatedSubmissionBudget := Apportionment.share maximumTotalSubmissions fundedCount index }

structure PlanRequest (K : Type) [Field K] [LinearOrder K] where
  researchCycleId : String
  context : ResearchContext
  parameters : MetaControllerParameters K
  configHash : String
  availableActionKinds : List ResearchActionKind
  maximumTotalSubmissions : ℕ
  idempotencyKey : String
  generatedAt : Instant

variable (request : PlanRequest K)

def rankActions (observations : List (MetaControllerObservation K)) :
    Except Failure (List (RankedResearchAction K)) := do
  let actions := sortedBy ResearchActionKind.value request.availableActionKinds.dedup
  raiseIf (actions = [] ∨ .unknownLegacy ∈ actions)
    ⟨.valueError, "available actions must be typed non-legacy actions", []⟩
  let entries ← actions.mapM fun action => scoreAction sqrt log1p action request.context
    observations request.parameters (globalMean request.parameters observations)
    (rewards request.parameters observations).length
  return sortedBy rankingKey entries

def fundedCount (ranked : List (RankedResearchAction K)) : ℕ :=
  min (min request.parameters.maximumActionsPerCycle request.maximumTotalSubmissions) ranked.length

/-- `payload`. -/
def planContent (snapshot : ResearchMemorySnapshot K)
    (trainingView : MetaControllerTrainingView K) (ranked : List (RankedResearchAction K)) :
    ResearchActionPlanContent K where
  actionPlanId := digests.planId request.researchCycleId snapshot.snapshotHash
    trainingView.viewHash request.context.contextHash request.configHash request.generatedAt
  researchCycleId := request.researchCycleId
  policyVersion := request.parameters.policyVersion
  researchMemorySnapshotHash := snapshot.snapshotHash
  trainingViewHash := trainingView.viewHash
  context := request.context
  contextHash := request.context.contextHash
  configHash := request.configHash
  rankedActions := allocate request.maximumTotalSubmissions (fundedCount request ranked) ranked
  maximumActions := request.parameters.maximumActionsPerCycle
  maximumTotalSubmissions := request.maximumTotalSubmissions
  idempotencyKey := request.idempotencyKey
  generatedAt := request.generatedAt

def buildResearchActionPlan (snapshot : ResearchMemorySnapshot K)
    (trainingView : MetaControllerTrainingView K) : Except Failure (ResearchActionPlan K) := do
  raiseIf (trainingView.researchMemorySnapshotHash ≠ snapshot.snapshotHash)
    ⟨.valueError, "Meta Controller view belongs to another snapshot", []⟩
  raiseIf (∃ observation ∈ trainingView.observations,
      observation.eventHash ∉ snapshot.statistics.includedEventHashes)
    ⟨.valueError, "Meta Controller view is outside its memory snapshot", []⟩
  raiseIf (request.generatedAt < snapshot.createdAt)
    ⟨.valueError, "action plan cannot predate its memory snapshot", []⟩
  raiseIf (request.maximumTotalSubmissions = 0)
    ⟨.valueError, "Meta Controller requires a positive submission budget", []⟩
  let ranked ← rankActions sqrt log1p request trainingView.observations
  let content := planContent digests request snapshot trainingView ranked
  let plan : ResearchActionPlan K := ⟨content, digests.plan content⟩
  plan.check digests
  return plan

end Plan

end AdaptiveQuant.MetaController
