import AdaptiveQuant.Research.MetaOosRecords

/-! `run_chronological_meta_oos` of `research/chronological_meta_oos.py`, up to the statistics that
it computes from the finished loop. -/

namespace AdaptiveQuant.ResearchPlane

open Guard Sequence

variable {R : Type} [MetaOosFloat R]

def outcomeKey (o : MetaOosLearningOutcome R) : Instant ×ₗ String ×ₗ String :=
  toLex (o.availableAt, toLex (o.epochId, o.outcomeId))

def eligibleOutcomes (outcomes : List (MetaOosLearningOutcome R)) (cutoff : Instant) :
    List (MetaOosLearningOutcome R) :=
  sortedBy outcomeKey (outcomes.filter (·.isEligible cutoff))

def metaOosSnapshot (hash : Hashing) (outcomes : List (MetaOosLearningOutcome R))
    (cutoff : Instant) : MetaOosMemorySnapshot R :=
  let eligible := eligibleOutcomes outcomes cutoff
  let hashes := eligible.map (·.outcomeHash)
  { snapshotId := hash.stableId "meta-oos-memory" [.instant cutoff, strings hashes]
    asOf := cutoff
    outcomes := eligible
    outcomeHashes := hashes
    snapshotHash := "" }

def buildMetaOosMemorySnapshot (hash : Hashing) (outcomes : List (MetaOosLearningOutcome R))
    (asOf : Instant) : Except Failure (MetaOosMemorySnapshot R) := do
  let payload := metaOosSnapshot hash outcomes asOf
  let snapshot := { payload with snapshotHash := hash.canonicalHash payload.data }
  validateMetaOosSnapshot hash snapshot
  return snapshot

/-- The arguments of `run_chronological_meta_oos` apart from the environment. -/
structure MetaOosAudit (R : Type) (hash : Hashing) where
  plan : Validated (validatePlan hash)
  evaluationContract : MetaOosEvaluationContract R
  adapters : Dict MetaOosPolicyArm (ResearchPolicyAdapter R)
  candidateCatalog : CandidateCatalog
  evaluatedAt : Instant

def availableCandidates (catalog : CandidateCatalog) (decisionAt : Instant) : List String :=
  sortedBy id (catalog.filter fun _ candidate => candidate.isAvailable decisionAt).keys

def epochContext (hash : Hashing) (plan : ChronologicalMetaOosPlan) (catalog : CandidateCatalog)
    (epoch : MetaOosEpoch) (arm : MetaOosPolicyArm) : MetaOosEpochContext :=
  let payload : MetaOosEpochContext :=
    { planId := plan.planId
      planHash := plan.planHash
      epochId := epoch.epochId
      arm := arm
      decisionAt := epoch.decisionAt
      contextKey := epoch.contextKey
      marketDataManifestHash := epoch.marketDataManifestHash
      availableCandidateIds := availableCandidates catalog epoch.decisionAt
      contextHash := "" }
  { payload with contextHash := hash.canonicalHash payload.data }

def MetaOosEpoch.budget (epoch : MetaOosEpoch) : MetaOosBudget :=
  ⟨epoch.candidateGenerationBudget, epoch.oosBudget⟩

def armMemory (hash : Hashing) (outcomes : List (MetaOosLearningOutcome R)) (epoch : MetaOosEpoch)
    (arm : MetaOosPolicyArm) : Except Failure (Option (MetaOosMemorySnapshot R)) :=
  if arm = .adaptiveMetaController then
    some <$> buildMetaOosMemorySnapshot hash outcomes epoch.decisionAt
  else .ok none

def MetaOosAudit.planResearch {hash : Hashing} (audit : MetaOosAudit R hash)
    (arm : MetaOosPolicyArm) (context : MetaOosEpochContext)
    (memory : Option (MetaOosMemorySnapshot R)) (budget : MetaOosBudget) :
    Except Failure (MetaOosPolicyDecision R) :=
  match audit.adapters.get? arm with
  | none => .error ⟨.keyError, arm.value, []⟩
  | some adapter => adapter.planResearch context memory budget

def decideArm (hash : Hashing) (audit : MetaOosAudit R hash)
    (outcomes : List (MetaOosLearningOutcome R)) (epoch : MetaOosEpoch) (arm : MetaOosPolicyArm) :
    Except Failure (Option (MetaOosMemorySnapshot R) × MetaOosPolicyDecision R) := do
  let context := epochContext hash audit.plan.val audit.candidateCatalog epoch arm
  let memory ← armMemory hash outcomes epoch arm
  let decision ← audit.planResearch arm context memory epoch.budget
  validateDecisionContext decision context
  validateDecisionMemory decision arm memory
  validateDecisionCommander audit.plan.val decision
  validateCandidateSelection decision audit.candidateCatalog epoch.decisionAt
  return (memory, decision)

structure ArmEvaluation (R : Type) where
  arm : MetaOosPolicyArm
  decision : MetaOosPolicyDecision R
  memory : Option (MetaOosMemorySnapshot R)
  priv : MetaOosPrivateEpochEvaluation R

def learningOutcome (hash : Hashing) (epoch : MetaOosEpoch) (e : ArmEvaluation R) :
    MetaOosLearningOutcome R :=
  { outcomeId := hash.stableId "meta-oos-learning-outcome"
      [.str e.decision.decisionHash, .instant epoch.outcomeAvailableAt]
    arm := e.arm
    epochId := epoch.epochId
    contextKey := epoch.contextKey
    actionKind := e.decision.action
    informationRole := e.priv.informationRole
    availableAt := epoch.outcomeAvailableAt
    matured := true
    reward := e.priv.learningReward
    technicalFailure := e.priv.technicalFailure
    outcomeHash := "" }

def learningRecord (hash : Hashing) (epoch : MetaOosEpoch) (e : ArmEvaluation R) :
    MetaOosLearningOutcome R :=
  { learningOutcome hash epoch e with
    outcomeHash := hash.canonicalHash (.dict (learningOutcome hash epoch e).data) }

def buildLearningOutcome (hash : Hashing) (epoch : MetaOosEpoch) (e : ArmEvaluation R) :
    Except Failure (MetaOosLearningOutcome R) := do
  validateLearningOutcome hash (learningRecord hash epoch e)
  return learningRecord hash epoch e

def privateOutcomeHash (hash : Hashing) (priv : MetaOosPrivateEpochEvaluation R) : String :=
  hash.canonicalHash (.dict [("epoch_id", .str priv.epochId),
    ("observations", .list (priv.observations.map fun item =>
      .dict [("session_key", .str item.sessionKey), ("occurred_at", .instant item.occurredAt),
        ("available_at", .instant item.availableAt),
        ("net_return", MetaOosFloat.canonical item.netReturn),
        ("turnover", MetaOosFloat.canonical item.turnover), ("regime", .str item.regime)])),
    ("candidate_count", .int priv.candidateCount), ("oos_use_count", .int priv.oosUseCount),
    ("promotion_eligible_count", .int priv.promotionEligibleCount),
    ("technical_failure", .bool priv.technicalFailure),
    ("information_role", .str priv.informationRole.value),
    ("learning_reward", MetaOosFloat.canonical priv.learningReward),
    ("candidate_artifact_hash", .optStr priv.candidateArtifactHash)])

def epochAuditRecord (hash : Hashing) (plan : ChronologicalMetaOosPlan) (epoch : MetaOosEpoch)
    (e : ArmEvaluation R) : MetaOosEpochArmAuditRecord :=
  { recordId := hash.stableId "meta-oos-epoch-arm-record"
      [.str plan.planHash, .str epoch.epochId, .str e.arm.value]
    planId := plan.planId
    planHash := plan.planHash
    epochId := epoch.epochId
    arm := e.arm
    decisionHash := e.decision.decisionHash
    memorySnapshotHash := e.memory.map (·.snapshotHash)
    candidateArtifactHash := e.priv.candidateArtifactHash
    privateOutcomeHash := privateOutcomeHash hash e.priv
    sessionCount := e.priv.observations.length
    experimentCount := if e.decision.decisionKind = .runAction then 1 else 0
    candidateCount := e.priv.candidateCount
    oosUseCount := e.priv.oosUseCount
    positiveMaturedOutcomeCount := if e.priv.informationRole = .learningForward ∧
      MetaOosFloat.lt MetaOosFloat.zero e.priv.learningReward ∧
        ¬e.priv.technicalFailure then 1 else 0
    technicalFailureCount := if e.priv.technicalFailure then 1 else 0
    promotionEligibleCount := e.priv.promotionEligibleCount
    outcomeAvailableAt := epoch.outcomeAvailableAt
    createdAt := epoch.outcomeAvailableAt
    recordHash := "" }

def buildEpochAuditRecord (hash : Hashing) (plan : ChronologicalMetaOosPlan) (epoch : MetaOosEpoch)
    (e : ArmEvaluation R) : Except Failure MetaOosEpochArmAuditRecord := do
  let payload := epochAuditRecord hash plan epoch e
  let record := { payload with recordHash := hash.canonicalHash payload.data }
  validateAuditRecord hash record
  return record

structure EpochEvaluation (R : Type) where
  epoch : MetaOosEpoch
  arms : List (ArmEvaluation R)

/-- The accumulators of the loop over the epochs, with the calls that the environment answered and
the evaluations of the epochs so far. -/
structure MetaOosState (R : Type) where
  calls : List (EnvironmentCall R) := []
  outcomes : MetaOosPolicyArm → List (MetaOosLearningOutcome R) := fun _ => []
  privateSessions : MetaOosPolicyArm →
    List (MetaOosPrivateSessionObservation R × String × Option R) := fun _ => []
  predictionPairs : MetaOosPolicyArm → List (R × R) := fun _ => []
  auditRecords : List MetaOosEpochArmAuditRecord := []
  evaluated : List (EpochEvaluation R) := []

def evaluateArm (hash : Hashing) (audit : MetaOosAudit R hash) (environment : MetaOosEnvironment R)
    (outcomes : MetaOosPolicyArm → List (MetaOosLearningOutcome R)) (epoch : MetaOosEpoch)
    (acc : List (EnvironmentCall R) × List (ArmEvaluation R)) (arm : MetaOosPolicyArm) :
    Except Failure (List (EnvironmentCall R) × List (ArmEvaluation R)) := do
  let (memory, decision) ← decideArm hash audit (outcomes arm) epoch arm
  let call := ⟨epoch, arm, decision⟩
  let priv ← environment.executeEpoch audit.plan.val acc.1 call
  validatePrivateEpoch priv epoch audit.evaluationContract
  raiseIf (priv.candidateCount > epoch.candidateGenerationBudget ∨
    priv.oosUseCount > epoch.oosBudget) (metaOosError "META_OOS_EPOCH_BUDGET_EXCEEDED")
  return (acc.1 ++ [call], acc.2 ++ [⟨arm, decision, memory, priv⟩])

def ArmEvaluation.sessionKeys (e : ArmEvaluation R) : List String :=
  e.priv.observations.map (·.sessionKey)

def referenceKeys (evaluations : List (ArmEvaluation R)) : List String :=
  ((evaluations.find? (·.arm = .staticChampion)).map (·.sessionKeys)).getD []

def appended {α : Type} (lists : MetaOosPolicyArm → List α) (arm : MetaOosPolicyArm)
    (items : List α) : MetaOosPolicyArm → List α :=
  Function.update lists arm (lists arm ++ items)

def MetaOosState.record (s : MetaOosState R) (e : ArmEvaluation R)
    (learning : MetaOosLearningOutcome R) (record : MetaOosEpochArmAuditRecord) : MetaOosState R :=
  { s with
    outcomes := appended s.outcomes e.arm [learning]
    privateSessions := appended s.privateSessions e.arm
      (e.priv.observations.map fun item => (item, e.decision.action, e.decision.predictedReward))
    predictionPairs := appended s.predictionPairs e.arm
      (e.decision.predictedReward.toList.map fun predicted => (predicted, learning.reward))
    auditRecords := s.auditRecords ++ [record] }

def recordArm (hash : Hashing) (plan : ChronologicalMetaOosPlan) (epoch : MetaOosEpoch)
    (keys : List String) (s : MetaOosState R) (e : ArmEvaluation R) :
    Except Failure (MetaOosState R) := do
  raiseIf (e.sessionKeys ≠ keys) (metaOosError "META_OOS_ARM_SESSION_MISMATCH")
  let learning ← buildLearningOutcome hash epoch e
  let record ← buildEpochAuditRecord hash plan epoch e
  return s.record e learning record

def evaluateEpoch (hash : Hashing) (audit : MetaOosAudit R hash)
    (environment : MetaOosEnvironment R)
    (s : MetaOosState R) (epoch : MetaOosEpoch) : Except Failure (MetaOosState R) := do
  let (calls, evaluations) ←
    metaOosPolicyArms.foldlM (evaluateArm hash audit environment s.outcomes epoch) (s.calls, [])
  let recorded ← evaluations.foldlM
    (recordArm hash audit.plan.val epoch (referenceKeys evaluations)) s
  return { recorded with calls, evaluated := s.evaluated ++ [⟨epoch, evaluations⟩] }

def checkAudit (hash : Hashing) (audit : MetaOosAudit R hash) : Except Failure Unit := do
  verifyChronologicalMetaOosPlan audit.plan.val audit.evaluationContract
  raiseIf (¬∀ arm ∈ metaOosPolicyArms, arm ∈ audit.adapters.keys)
    (metaOosError "META_OOS_POLICY_ADAPTER_SET_MISMATCH")
  raiseIf (¬(audit.adapters.values.map (·.identity)).Nodup)
    (metaOosError "META_OOS_POLICY_ADAPTER_STATE_SHARED")
  raiseIf (∃ entry ∈ audit.adapters.entries,
      audit.plan.val.policyAdapterVersions.get? entry.1 ≠ some entry.2.adapterVersion)
    (metaOosError "META_OOS_POLICY_ADAPTER_VERSION_MISMATCH")
  raiseIf (∃ last ∈ audit.plan.val.epochs.getLast?, audit.evaluatedAt < last.outcomeAvailableAt)
    (metaOosError "META_OOS_RESULT_PRECEDES_FINAL_OUTCOME")

def runChronologicalMetaOos (hash : Hashing) (audit : MetaOosAudit R hash)
    (environment : MetaOosEnvironment R) : Except Failure (MetaOosState R) := do
  checkAudit hash audit
  let s ← audit.plan.val.epochs.foldlM (evaluateEpoch hash audit environment) {}
  let keys arm := (s.privateSessions arm).map (·.1.sessionKey)
  raiseIf (∃ arm ∈ metaOosPolicyArms, keys arm ≠ keys .staticChampion)
    (metaOosError "META_OOS_GLOBAL_SESSION_MISMATCH")
  return s

end AdaptiveQuant.ResearchPlane
