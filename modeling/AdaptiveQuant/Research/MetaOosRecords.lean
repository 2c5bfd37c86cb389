import AdaptiveQuant.Research.MetaOosContracts

/-! The records of `research/chronological_meta_oos.py` and their checks. -/

namespace AdaptiveQuant.ResearchPlane

open Guard Sequence

structure MetaOosCandidateAvailability where
  candidateId : String
  candidateArtifactHash : String
  firstAvailableAt : Instant
  proposalCreatedAt : Instant
  sourceAvailableAt : List Instant
  availabilityHash : String
deriving DecidableEq

def MetaOosCandidateAvailability.isAvailable (c : MetaOosCandidateAvailability)
    (decisionAt : Instant) : Bool :=
  c.firstAvailableAt ≤ decisionAt ∧ c.proposalCreatedAt ≤ decisionAt ∧
    ∀ time ∈ c.sourceAvailableAt, time ≤ decisionAt

abbrev CandidateCatalog := Dict String MetaOosCandidateAvailability

structure MetaOosBudget where
  candidateGenerationBudget : ℕ
  oosBudget : ℕ
deriving DecidableEq

structure MetaOosEpochContext where
  planId : String
  planHash : String
  epochId : String
  arm : MetaOosPolicyArm
  decisionAt : Instant
  contextKey : String
  marketDataManifestHash : String
  availableCandidateIds : List String
  contextHash : String
deriving DecidableEq

def MetaOosEpochContext.data (c : MetaOosEpochContext) : Canonical :=
  .dict [("schema_version", .str "meta_oos_epoch_context_v1"), ("plan_id", .str c.planId),
    ("plan_hash", .str c.planHash), ("epoch_id", .str c.epochId), ("arm", .str c.arm.value),
    ("decision_at", .instant c.decisionAt), ("context_key", .str c.contextKey),
    ("market_data_manifest_hash", .str c.marketDataManifestHash),
    ("available_candidate_ids", strings c.availableCandidateIds)]

structure MetaOosLearningOutcome (R : Type) where
  outcomeId : String
  arm : MetaOosPolicyArm
  epochId : String
  contextKey : String
  actionKind : String
  informationRole : ExperimentInformationRole
  availableAt : Instant
  matured : Bool
  reward : R
  technicalFailure : Bool
  outcomeHash : String

/-- `MetaOosMemorySnapshotV1`: its arm is always the adaptive one. -/
structure MetaOosMemorySnapshot (R : Type) where
  snapshotId : String
  asOf : Instant
  outcomes : List (MetaOosLearningOutcome R)
  outcomeHashes : List String
  snapshotHash : String

structure MetaOosPolicyDecision (R : Type) where
  decisionId : String
  planId : String
  planHash : String
  epochId : String
  arm : MetaOosPolicyArm
  contextHash : String
  decisionKind : MetaOosDecisionKind
  actionKind : Option String
  candidateId : Option String
  researchMemorySnapshotHash : Option String
  commanderInvocation : Option MetaOosCommanderInvocation
  predictedReward : Option R
  createdAt : Instant
  decisionHash : String

def MetaOosPolicyDecision.action {R : Type} (d : MetaOosPolicyDecision R) : String :=
  match d.actionKind with
  | some action => if action = "" then "NO_CHANGE" else action
  | none => "NO_CHANGE"

/-- `ResearchPolicyAdapter`. -/
structure ResearchPolicyAdapter (R : Type) where
  identity : ℕ
  adapterVersion : String
  planResearch : MetaOosEpochContext → Option (MetaOosMemorySnapshot R) → MetaOosBudget →
    Except Failure (MetaOosPolicyDecision R)

structure MetaOosPrivateSessionObservation (R : Type) where
  sessionKey : String
  occurredAt : Instant
  availableAt : Instant
  netReturn : R
  turnover : R
  regime : String

structure MetaOosPrivateEpochEvaluation (R : Type) where
  epochId : String
  observations : List (MetaOosPrivateSessionObservation R)
  candidateCount : ℤ
  oosUseCount : ℤ
  promotionEligibleCount : ℤ
  technicalFailure : Bool
  informationRole : ExperimentInformationRole
  learningReward : R
  candidateArtifactHash : Option String

/-- The arguments of `execute_epoch` apart from the plan. -/
structure EnvironmentCall (R : Type) where
  epoch : MetaOosEpoch
  arm : MetaOosPolicyArm
  decision : MetaOosPolicyDecision R

/-- `MetaOosEnvironment`. -/
structure MetaOosEnvironment (R : Type) where
  executeEpoch : ChronologicalMetaOosPlan → List (EnvironmentCall R) → EnvironmentCall R →
    Except Failure (MetaOosPrivateEpochEvaluation R)

structure MetaOosEpochArmAuditRecord where
  recordId : String
  planId : String
  planHash : String
  epochId : String
  arm : MetaOosPolicyArm
  decisionHash : String
  memorySnapshotHash : Option String
  candidateArtifactHash : Option String
  privateOutcomeHash : String
  sessionCount : ℕ
  experimentCount : ℕ
  candidateCount : ℤ
  oosUseCount : ℤ
  positiveMaturedOutcomeCount : ℕ
  technicalFailureCount : ℕ
  promotionEligibleCount : ℤ
  outcomeAvailableAt : Instant
  createdAt : Instant
  recordHash : String

def MetaOosEpochArmAuditRecord.data (r : MetaOosEpochArmAuditRecord) : Canonical :=
  .dict [("schema_version", .str "meta_oos_epoch_arm_audit_record_v1"),
    ("record_id", .str r.recordId), ("plan_id", .str r.planId), ("plan_hash", .str r.planHash),
    ("epoch_id", .str r.epochId), ("arm", .str r.arm.value), ("decision_hash", .str r.decisionHash),
    ("memory_snapshot_hash", .optStr r.memorySnapshotHash),
    ("candidate_artifact_hash", .optStr r.candidateArtifactHash),
    ("private_outcome_hash", .str r.privateOutcomeHash), ("session_count", .int r.sessionCount),
    ("experiment_count", .int r.experimentCount), ("candidate_count", .int r.candidateCount),
    ("oos_use_count", .int r.oosUseCount),
    ("positive_matured_outcome_count", .int r.positiveMaturedOutcomeCount),
    ("technical_failure_count", .int r.technicalFailureCount),
    ("promotion_eligible_count", .int r.promotionEligibleCount),
    ("outcome_available_at", .instant r.outcomeAvailableAt), ("created_at", .instant r.createdAt),
    ("real_order_routing", .bool false)]

section Records

variable {R : Type} [MetaOosFloat R]

def MetaOosLearningOutcome.data (o : MetaOosLearningOutcome R) : List (String × Canonical) :=
  [("schema_version", .str "meta_oos_learning_outcome_v1"), ("outcome_id", .str o.outcomeId),
    ("arm", .str o.arm.value), ("epoch_id", .str o.epochId), ("context_key", .str o.contextKey),
    ("action_kind", .str o.actionKind), ("information_role", .str o.informationRole.value),
    ("available_at", .instant o.availableAt), ("matured", .bool o.matured),
    ("reward", MetaOosFloat.canonical o.reward), ("technical_failure", .bool o.technicalFailure)]

def MetaOosMemorySnapshot.data (m : MetaOosMemorySnapshot R) : Canonical :=
  .dict [("schema_version", .str "meta_oos_memory_snapshot_v1"), ("snapshot_id", .str m.snapshotId),
    ("arm", .str MetaOosPolicyArm.adaptiveMetaController.value), ("as_of", .instant m.asOf),
    ("outcomes", .list (m.outcomes.map fun o =>
      .dict (o.data ++ [("outcome_hash", .str o.outcomeHash)]))),
    ("outcome_hashes", strings m.outcomeHashes)]

def MetaOosLearningOutcome.fieldErrors (o : MetaOosLearningOutcome R) : List FieldError :=
  identifierCheck "outcome_id" o.outcomeId ++ identifierCheck "epoch_id" o.epochId ++
    identifierCheck "context_key" o.contextKey ++ identifierCheck "action_kind" o.actionKind ++
    fieldCheck "reward" (MetaOosFloat.isFinite o.reward)
      "Value error, meta-OOS reward must be finite" ++
    hashCheck "outcome_hash" o.outcomeHash

def validateLearningOutcome (hash : Hashing) (o : MetaOosLearningOutcome R) :
    Except Failure Unit := do
  raiseIf (o.fieldErrors ≠ []) (.validation "MetaOosLearningOutcomeV1" o.fieldErrors)
  raiseIf (hash.canonicalHash (.dict o.data) ≠ o.outcomeHash)
    (.record "MetaOosLearningOutcomeV1" "meta-OOS learning outcome hash mismatch")

def snapshotFailure (message : String) : Failure := .record "MetaOosMemorySnapshotV1" message

def MetaOosLearningOutcome.isEligible (o : MetaOosLearningOutcome R) (cutoff : Instant) : Bool :=
  o.arm = .adaptiveMetaController ∧ o.matured ∧ o.availableAt ≤ cutoff ∧
    o.informationRole = .learningForward

def validateMetaOosSnapshot (hash : Hashing) (m : MetaOosMemorySnapshot R) :
    Except Failure Unit := do
  let errors := identifierCheck "snapshot_id" m.snapshotId ++
    hashCheck "snapshot_hash" m.snapshotHash
  raiseIf (errors ≠ []) (.validation "MetaOosMemorySnapshotV1" errors)
  raiseIf (m.outcomeHashes ≠ m.outcomes.map (·.outcomeHash))
    (snapshotFailure "meta-OOS memory outcome hashes do not match")
  raiseIf (m.outcomes.any (fun o => !o.isEligible m.asOf) = true)
    (snapshotFailure "meta-OOS memory contains protected or future outcome")
  raiseIf (hash.canonicalHash m.data ≠ m.snapshotHash)
    (snapshotFailure "meta-OOS memory snapshot hash mismatch")

/-- `MetaOosEpochArmAuditRecordV1.validate_record`, after the checks of the fields that come from
the environment. -/
def validateAuditRecord (hash : Hashing) (r : MetaOosEpochArmAuditRecord) :
    Except Failure Unit := do
  let errors := optionalCheck (hashCheck "candidate_artifact_hash") r.candidateArtifactHash
  raiseIf (errors ≠ []) (.validation "MetaOosEpochArmAuditRecordV1" errors)
  raiseIf (r.createdAt < r.outcomeAvailableAt)
    (.record "MetaOosEpochArmAuditRecordV1" "meta-OOS audit record predates outcome")
  raiseIf (hash.canonicalHash r.data ≠ r.recordHash)
    (.record "MetaOosEpochArmAuditRecordV1" "meta-OOS epoch audit record hash mismatch")

def verifyChronologicalMetaOosPlan (plan : ChronologicalMetaOosPlan)
    (contract : MetaOosEvaluationContract R) : Except Failure Unit := do
  raiseIf (plan.evaluationContractHash ≠ contract.contractHash)
    (metaOosError "META_OOS_EVALUATION_CONTRACT_MISMATCH")
  raiseIf (plan.epochs.length < contract.minimumEpochs)
    (metaOosError "META_OOS_INSUFFICIENT_EPOCHS")
  raiseIf (plan.epochs.length > contract.maximumEpochs) (metaOosError "META_OOS_TOO_MANY_EPOCHS")
  raiseIf (plan.outerAuditBudgetOrdinal > contract.maximumOuterAuditUsesPerDataset)
    (metaOosError "META_OOS_OUTER_AUDIT_BUDGET_EXCEEDED")
  raiseIf (∃ epoch ∈ plan.epochs,
      epoch.candidateGenerationBudget > contract.maximumCandidateGenerationBudgetPerEpoch ∨
        epoch.oosBudget > contract.maximumOosBudgetPerEpoch)
    (metaOosError "META_OOS_EPOCH_BUDGET_EXCEEDED")

variable (decision : MetaOosPolicyDecision R)

def validateDecisionContext (context : MetaOosEpochContext) :
    Except Failure Unit :=
  raiseIf (decision.planId ≠ context.planId ∨ decision.planHash ≠ context.planHash ∨
      decision.epochId ≠ context.epochId ∨ decision.arm ≠ context.arm ∨
      decision.contextHash ≠ context.contextHash ∨ decision.createdAt > context.decisionAt)
    (metaOosError "META_OOS_DECISION_CONTEXT_MISMATCH")

def validateDecisionMemory (arm : MetaOosPolicyArm)
    (memory : Option (MetaOosMemorySnapshot R)) : Except Failure Unit :=
  if arm = .adaptiveMetaController then
    raiseIf (memory.all (fun m => decision.researchMemorySnapshotHash ≠ some m.snapshotHash) = true)
      (metaOosError "ADAPTIVE_MEMORY_BINDING_MISMATCH")
  else
    raiseIf decision.researchMemorySnapshotHash.isSome
      (metaOosError "NON_ADAPTIVE_ARM_BINDS_MEMORY")

def validateCommanderInvocation (invocation : Option MetaOosCommanderInvocation)
    (binding : MetaOosCommanderBinding) (decisionAt : Instant) : Except Failure Unit :=
  match invocation with
  | none => .error (metaOosError "META_OOS_COMMANDER_INVOCATION_MISSING")
  | some i => raiseIf (i.commanderBindingHash ≠ binding.bindingHash ∨
      i.modelFamily ≠ binding.modelFamily ∨ i.modelVersion ≠ binding.modelVersion ∨
      i.reasoningProfile ≠ binding.reasoningProfile ∨
      i.requestSchemaHash ≠ binding.requestSchemaHash ∨
      i.outputSchemaHash ≠ binding.outputSchemaHash ∨ i.invokedAt > decisionAt)
    (metaOosError "META_OOS_COMMANDER_INVOCATION_MISMATCH")

def validateDecisionCommander (plan : ChronologicalMetaOosPlan)
    (decision : MetaOosPolicyDecision R) : Except Failure Unit :=
  let check := validateCommanderInvocation decision.commanderInvocation plan.commanderBinding
    decision.createdAt
  if plan.auditMode = .syntheticFixture then
    if decision.commanderInvocation.isSome then check else .ok ()
  else if decision.arm ∈ [MetaOosPolicyArm.memorylessCommander, .adaptiveMetaController] then check
  else raiseIf decision.commanderInvocation.isSome (metaOosError "NON_COMMANDER_ARM_HAS_INVOCATION")

def validateCandidateSelection (catalog : CandidateCatalog)
    (decisionAt : Instant) : Except Failure Unit :=
  match decision.candidateId with
  | none => .ok ()
  | some candidateId => match catalog.get? candidateId with
    | none => .error (metaOosError "META_OOS_CANDIDATE_UNKNOWN")
    | some candidate => raiseIf (¬candidate.isAvailable decisionAt)
        (metaOosError "META_OOS_CANDIDATE_NOT_POINT_IN_TIME")

/-- The body of the loop over the observations in `_validate_private_epoch`. -/
def checkObservation (epoch : MetaOosEpoch) (contract : MetaOosEvaluationContract R)
    (keys : List String) (item : MetaOosPrivateSessionObservation R) :
    Except Failure (List String) := do
  raiseIf (item.sessionKey ∈ keys) (metaOosError "META_OOS_DUPLICATE_PRIVATE_SESSION")
  raiseIf (¬(epoch.forwardWindowStart ≤ item.occurredAt ∧ item.occurredAt ≤ epoch.forwardWindowEnd ∧
      item.occurredAt ≤ item.availableAt ∧ item.availableAt ≤ epoch.outcomeAvailableAt))
    (metaOosError "META_OOS_PRIVATE_PIT_VIOLATION")
  raiseIf (¬MetaOosFloat.isFinite item.netReturn ∨ ¬MetaOosFloat.isFinite item.turnover ∨
      MetaOosFloat.lt item.turnover MetaOosFloat.zero ∨
      MetaOosFloat.le item.netReturn MetaOosFloat.minusOne ∨
      MetaOosFloat.lt contract.maximumAbsoluteDailyReturn (MetaOosFloat.abs item.netReturn))
    (metaOosError "META_OOS_PRIVATE_METRIC_INVALID")
  return keys ++ [item.sessionKey]

def validatePrivateEpoch (priv : MetaOosPrivateEpochEvaluation R) (epoch : MetaOosEpoch)
    (contract : MetaOosEvaluationContract R) : Except Failure Unit := do
  raiseIf (priv.epochId ≠ epoch.epochId) (metaOosError "META_OOS_PRIVATE_EPOCH_MISMATCH")
  raiseIf (priv.candidateCount < 0 ∨ priv.oosUseCount < 0 ∨ priv.promotionEligibleCount < 0 ∨
      priv.observations.length < 2) (metaOosError "META_OOS_PRIVATE_COUNT_INVALID")
  let _ ← priv.observations.foldlM (checkObservation epoch contract) []
  raiseIf (¬MetaOosFloat.isFinite priv.learningReward)
    (metaOosError "META_OOS_PRIVATE_REWARD_INVALID")

structure PolicyChoice (R : Type) where
  decisionKind : MetaOosDecisionKind := .noChange
  actionKind : Option String := none
  researchMemorySnapshotHash : Option String := none
  predictedReward : Option R := none

/-- The decision that `build_meta_oos_policy_decision` seals. -/
def policyDecision (hash : Hashing) (context : MetaOosEpochContext) (choice : PolicyChoice R) :
    MetaOosPolicyDecision R :=
  { decisionId := hash.stableId "meta-oos-decision"
      [.str context.planHash, .str context.epochId, .str context.arm.value]
    planId := context.planId
    planHash := context.planHash
    epochId := context.epochId
    arm := context.arm
    contextHash := context.contextHash
    decisionKind := choice.decisionKind
    actionKind := choice.actionKind
    candidateId := none
    researchMemorySnapshotHash := choice.researchMemorySnapshotHash
    commanderInvocation := none
    predictedReward := choice.predictedReward
    createdAt := context.decisionAt
    decisionHash := "" }

end Records

end AdaptiveQuant.ResearchPlane
