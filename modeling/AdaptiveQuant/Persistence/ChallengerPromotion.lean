import AdaptiveQuant.Persistence.ChallengerEvidence
import AdaptiveQuant.Persistence.ResearchShadow

/-! The promotion of a Challenger in `persistence/research.py`, from the shadow summaries to the
designation of the Champion. -/

namespace AdaptiveQuant.ResearchPlane

open Guard Sequence

section Operations

variable (hash : Hashing)

/-- What the queries of `_validate_shadow_performance_summary` return. -/
structure DailyEvidence where
  events : List (Shadow.EventRow hash × Option (Shadow.EventRow hash × Instant))
  run : Option (Shadow.RunRow hash)

def ShadowArmRow.payload (row : ShadowArmRow) : Canonical :=
  .dict [("schema_version", .str "research_shadow_arm_registration_v1"),
    ("shadow_pair_id", .str row.shadowPairId), ("challenger_id", .str row.challengerId),
    ("oos_result_id", .str row.oosResultId), ("arm_role", .str row.armRole.value),
    ("arm_id", .str row.identity.armId), ("strategy_id", .str row.identity.strategyId),
    ("strategy_version", .str row.identity.strategyVersion),
    ("execution_contract", row.identity.contract.payload),
    ("execution_contract_hash", .str row.executionContractHash),
    ("real_order_routing", .bool row.realOrderRouting), ("created_at", .instant row.createdAt)]

variable {hash} in
/-- `ProspectiveShadowCycleSourceV1.model_validate(payload_json)`. -/
def sourcePayload : Shadow.EventPayload hash → Option Shadow.ProspectiveSource
  | .source provenance => some provenance
  | .cycle _ => none

variable {hash} in
def dailyCycle (summary : ShadowPerformanceSummaryV1)
    (read : Shadow.EventRow hash × Option (Shadow.EventRow hash × Instant)) :
    Except Failure (String × Shadow.MatchedCycleResult hash) := do
  let event := read.1
  raiseIf (event.eventType ≠ .trustedCycle ∨ event.causationId = none)
    (persistenceError "shadow summary contains unattested daily evidence")
  match read.2 with
  | none => .error (persistenceError "shadow summary lost its prospective source evidence")
  | some (sourceRow, availableAt) =>
    raiseIf (sourceRow.aggregateType ≠ .prospectiveShadowSource ∨
        sourceRow.aggregateId ≠ summary.runId ∨ sourceRow.eventType ≠ .sourceVerified ∨
        summary.dataAvailableCutoff < availableAt)
      (persistenceError "shadow summary lost its prospective source evidence")
    match sourcePayload sourceRow.payload, Shadow.ShadowStore.cyclePayload event.payload with
    | some source, .ok cycle =>
      raiseIf (source.provenanceId ≠ sourceRow.eventId ∨
          source.provenanceHash ≠ sourceRow.payloadHash ∨ source.runId ≠ summary.runId ∨
          source.shadowPairId ≠ summary.shadowPairId ∨
          source.challengerId ≠ summary.challengerId ∨
          source.prospectiveRequestId ≠ sourceRow.correlationId ∨
          some source.prospectiveExecutionId ≠ sourceRow.causationId ∨
          source.championTargetHash ≠ cycle.val.champion.target.val.targetHash ∨
          source.challengerTargetHash ≠ cycle.val.challenger.target.val.targetHash ∨
          source.quoteBundleHash ≠ cycle.val.quoteBundle.val.bundleHash ∨
          source.quoteManifestHash ≠ cycle.val.quoteBundle.val.quoteManifestHash ∨
          cycle.val.resultHash ≠ event.payloadHash)
        (persistenceError "shadow summary prospective source binding mismatch")
      return (source.provenanceId, cycle)
    | _, _ => .error (persistenceError "shadow summary source evidence is invalid")

def validateDailyEvidence (evidence : DailyEvidence hash) (summary : ShadowPerformanceSummaryV1) :
    Except Failure Unit := do
  let read ← evidence.events.mapM (dailyCycle summary)
  raiseIf (evidence.events.map (·.1.payloadHash) ≠ summary.dailyEvidenceHashes ∨
      evidence.events.length ≠ summary.forwardSessions ∨ ¬(read.map (·.1)).Nodup)
    (persistenceError "shadow summary does not match immutable daily evidence")
  match evidence.run with
  | none => .error (persistenceError "shadow summary lacks its versioned runtime contract")
  | some run =>
    raiseIf (run.experimentVersion ≠ Shadow.shadowRuntimeVersion)
      (persistenceError "shadow summary lacks its versioned runtime contract")
    match run.resultManifest with
    | none => .error (persistenceError "shadow summary lacks its versioned runtime contract")
    | some spec =>
      raiseIf (run.resultHash ≠ spec.val.specHash)
        (persistenceError "shadow summary runtime evidence is invalid")
      let cycles := read.map (·.2)
      let replayHash := hash.canonicalHash (.dict
        [("schema_version", .str "research_shadow_replay_v1"), ("run_id", .str summary.runId),
          ("spec_hash", .str spec.val.specHash),
          ("cycle_hashes", .list (cycles.map fun cycle => .str cycle.val.resultHash))])
      match Shadow.summarizeMatchedShadowResults spec cycles replayHash with
      | .error _ => .error (persistenceError "shadow summary runtime evidence is invalid")
      | .ok expected =>
        raiseIf (expected.val.summaryHash ≠ summary.sourceSummary.summaryHash)
          (persistenceError "shadow summary metrics do not match immutable cycles")

variable (store : LifecycleStore)

def LifecycleStore.findOosResult (oosResultId : String) :
    Option OosResultRow :=
  store.oosResults.find? (·.oosResultId = oosResultId)

def armOf (registrations : List ShadowArmRow) (role : Shadow.ArmRole) : Option ShadowArmRow :=
  registrations.find? (·.armRole = role)

def validateShadowPerformanceSummary (evidence : DailyEvidence hash)
    (row : ManifestRow) (summary : ShadowPerformanceSummaryV1) : Except Failure Unit := do
  raiseIf (summary.challengerId ≠ row.challengerId ∨
      summary.candidateVersion ≠ row.manifest.strategyVersion)
    (persistenceError "shadow summary does not match Challenger manifest")
  let registrations := store.armsOf row.challengerId
  raiseIf (registrations.length ≠ 2 ∨ (∃ arm ∈ registrations,
      arm.shadowPairId ≠ summary.shadowPairId ∨ arm.realOrderRouting = true))
    (persistenceError "shadow summary requires its registered matched paper pair")
  match armOf registrations .champion, armOf registrations .challenger with
  | some champion, some challenger =>
    raiseIf (champion.identity.strategyVersion ≠ summary.currentChampionVersion ∨
        challenger.identity.strategyVersion ≠ summary.candidateVersion ∨
        champion.executionContractHash ≠ summary.executionContractHash ∨
        challenger.executionContractHash ≠ summary.executionContractHash ∨
        hash.canonicalHash champion.payload ≠ summary.championRegistrationHash ∨
        hash.canonicalHash challenger.payload ≠ summary.challengerRegistrationHash)
      (persistenceError "shadow summary registration binding mismatch")
    raiseIf (¬∃ oos ∈ store.findOosResult challenger.oosResultId,
        oos.result.verdict = .pass ∧
          oos.result.candidateArtifactHash = summary.candidateArtifactHash)
      (persistenceError "shadow summary candidate artifact is not OOS-approved")
    validateDailyEvidence hash evidence summary
  | _, _ =>
    .error (persistenceError "shadow summary requires its registered matched paper pair")

/-- The constraints of `research_shadow_performance_summaries`. -/
def summaryConflict (summary old : StoredSummary) : Bool :=
  old.base.summaryId = summary.base.summaryId ∨
    old.sourceSummaryHash = summary.sourceSummaryHash ∨
    old.base.summaryHash = summary.base.summaryHash ∨
    (old.base.challengerId = summary.base.challengerId ∧
      old.base.materializedEvidenceHash = summary.base.materializedEvidenceHash)

def LifecycleStore.findSummary (summaryId : String) :
    Option StoredSummary :=
  store.summaries.find? (·.base.summaryId = summaryId)

def recordShadowPerformanceSummary (evidence : DailyEvidence hash)
    (summary : ShadowPerformanceSummaryV1) : Except Failure (Bool × LifecycleStore) := do
  let row ← store.challengerForUpdate summary.challengerId
  match store.findSummary summary.summaryId with
  | some existing =>
    raiseIf (existing.base.summaryHash ≠ summary.summaryHash)
      (persistenceError "shadow performance summary hash conflict")
    return (false, store)
  | none =>
    raiseIf (store.currentStatus row ≠ .shadowRunning)
      (persistenceError "shadow summary requires SHADOW_RUNNING")
    validateShadowPerformanceSummary hash store evidence row summary
    let summaries ← insertUnique summaryConflict store.summaries (.v1 summary)
    return (true, { store with summaries := summaries })

def recordShadowPerformanceSummaryV2
    (summary : ShadowPerformanceSummaryV2) : Except Failure (Bool × LifecycleStore) := do
  let row ← store.challengerForUpdate summary.challengerId
  match store.findSummary summary.summaryId with
  | some existing =>
    raiseIf (existing.base.summaryHash ≠ summary.summaryHash)
      (persistenceError "shadow V2 performance summary hash conflict")
    return (false, store)
  | none =>
    raiseIf (store.currentStatus row ≠ .shadowRunning)
      (persistenceError "shadow V2 summary requires SHADOW_RUNNING")
    match store.comparisons.find? fun comparison =>
        comparison.challengerId = summary.challengerId ∧
          comparison.contract.contractHash = summary.portfolioComparisonContractHash ∧
          comparison.contract.candidateArtifactHash = summary.candidateArtifactHash with
    | none => .error (persistenceError "shadow V2 summary lost its portfolio contract")
    | some comparison =>
      raiseIf (comparison.contract.championPortfolioManifestHash ≠
            summary.championPortfolioManifestHash ∨
          comparison.contract.candidatePortfolioManifestHash ≠
            summary.candidatePortfolioManifestHash)
        (persistenceError "shadow V2 portfolio manifest binding mismatch")
      let registrations := store.armsOf summary.challengerId
      raiseIf (registrations.length ≠ 2 ∨ (∃ arm ∈ registrations,
          arm.shadowPairId ≠ summary.shadowPairId ∨
          arm.executionContractHash ≠ summary.executionContractHash ∨
          arm.realOrderRouting = true))
        (persistenceError "shadow V2 matched execution binding mismatch")
      match store.oosResults.find? fun oos =>
          oos.result.challengerId = summary.challengerId ∧
            oos.result.candidateArtifactHash = summary.candidateArtifactHash ∧
            oos.result.verdict = .pass with
      | none => .error (persistenceError "shadow V2 summary requires passed OOS V2")
      | some oos =>
        match oos.portfolio with
        | none => .error (persistenceError "shadow V2 summary requires an OOS V2 result")
        | some portfolio =>
          raiseIf (portfolio.portfolioComparisonContractHash ≠
              summary.portfolioComparisonContractHash)
            (persistenceError "shadow and OOS portfolio contracts differ")
          let summaries ← insertUnique summaryConflict store.summaries (.v2 summary)
          return (true, { store with summaries := summaries })

def LifecycleStore.latestChampionDesignation :
    Option ChampionDesignation :=
  (sortedBy (·.sequence) store.designations).getLast?

def validatePromotionEvidenceBinding (daily : DailyEvidence hash)
    (row : ManifestRow) (evidence : PromotionEvidenceV1) : Except Failure StoredSummary := do
  raiseIf (evidence.challengerId ≠ row.challengerId ∨
      evidence.candidateVersion ≠ row.manifest.strategyVersion)
    (persistenceError "promotion evidence does not match Challenger")
  match store.summaries.find? fun stored => stored.base.challengerId = row.challengerId ∧
      stored.base.summaryHash = evidence.shadowSummaryHash with
  | none => .error (persistenceError "promotion evidence lacks its persisted shadow summary")
  | some (.v2 _) => .error (.validation "TrustedShadowPerformanceSummaryV1" [])
  | some (.v1 summary) =>
    validateShadowPerformanceSummary hash store daily row summary
    raiseIf (evidence.forwardSessions ≠ summary.forwardSessions ∨
        evidence.independentTrades ≠ summary.independentTrades ∨
        evidence.metrics ≠ summary.metrics)
      (persistenceError "promotion metrics do not match shadow summary")
    match
      store.reports.find? (fun report => report.challengerId = row.challengerId ∧
        report.reportHash = evidence.falsificationReportHash ∧ report.mandatoryPassed = true),
      store.oosResults.find? (fun oos => oos.result.challengerId = row.challengerId ∧
        oos.result.resultHash = evidence.oosResultHash ∧
        oos.result.candidateArtifactHash = evidence.candidateArtifactHash ∧
        oos.result.verdict = .pass),
      store.replays.find? (fun replay => replay.challengerId = row.challengerId ∧
        replay.candidateArtifactHash = evidence.candidateArtifactHash ∧
        replay.firstReplayHash = evidence.replayHash ∧
        replay.secondReplayHash = evidence.replayHash ∧ replay.deterministicMatch = true)
      with
    | some _, some oos, some _ =>
      raiseIf (evidence.commonOosSessions ≠ oos.result.commonSessions ∨
          evidence.mandatoryTestsPassed = false ∨ evidence.replayReproducible = false ∨
          evidence.candidateVersion ≠ summary.candidateVersion ∨
          evidence.currentChampionVersion ≠ summary.currentChampionVersion)
        (persistenceError "promotion evidence prerequisite flags are invalid")
      raiseIf (∃ latest ∈ store.latestChampionDesignation,
          latest.strategyVersion ≠ evidence.currentChampionVersion)
        (persistenceError "promotion evidence is stale against current Champion")
      return .v1 summary
    | _, _, _ => .error (persistenceError "promotion evidence artifact binding failed")

/-- The constraints of `research_promotion_evidence`. -/
def evidenceConflict (row old : EvidenceRow) : Bool :=
  old.evidence.evidenceId = row.evidence.evidenceId ∨
    old.evidence.evidenceHash = row.evidence.evidenceHash

/-- The constraints of `research_promotion_decisions`. -/
def decisionConflict (decision old : PromotionDecision) : Bool :=
  old.promotionDecisionId = decision.promotionDecisionId ∨
    old.decisionHash = decision.decisionHash

/-- The constraints of `trusted_promotion_evaluations`. -/
def evaluationConflict (row old : EvaluationRow) : Bool :=
  old.evaluation.evaluationId = row.evaluation.evaluationId ∨
    (old.evaluation.evidenceHash = row.evaluation.evidenceHash ∧
      old.evaluation.contractHash = row.evaluation.contractHash) ∨
    old.evaluation.evaluationHash = row.evaluation.evaluationHash

def addPromotionDecision (decision : PromotionDecision) :
    Except Failure LifecycleStore := do
  let decisions ← insertUnique decisionConflict store.decisions decision
  return { store with decisions := decisions }

/-- The texts in which the two generations of `record_trusted_promotion_evaluation` differ. -/
structure EvaluationTexts where
  evidenceConflict : String
  eligibleReason : String
  eligibleKey : String

def storePromotionEvidence (conflict : String) (rows : List EvidenceRow) (row : EvidenceRow) :
    Except Failure (List EvidenceRow) :=
  match rows.find? fun old => old.evidence.evidenceId = row.evidence.evidenceId with
  | some existing => do
    raiseIf (existing.evidence.evidenceHash ≠ row.evidence.evidenceHash)
      (persistenceError conflict)
    return rows
  | none => insertUnique evidenceConflict rows row

def storeEvaluation (texts : EvaluationTexts) (store : LifecycleStore) (row : ManifestRow)
    (evidenceRow : EvidenceRow) (evaluation : TrustedPromotionEvaluation) :
    Except Failure (Bool × LifecycleStore) := do
  let evidenceRows ← storePromotionEvidence texts.evidenceConflict store.evidence evidenceRow
  let store ← addPromotionDecision { store with evidence := evidenceRows } evaluation.decision
  let evaluations ← insertUnique evaluationConflict store.evaluations
    ⟨evidenceRow.evidence.evidenceId, row.challengerId, evaluation⟩
  let store := { store with evaluations := evaluations }
  if evaluation.decision.verdict = .eligibleRequiresManualApproval then
    let (_, store) ← appendChallengerTransition hash store row
      { toStatus := .promotionEligible
        reasonCode := texts.eligibleReason
        artifactHash := some evaluation.evaluationHash
        idempotencyKey := texts.eligibleKey ++ evaluation.evaluationHash
        createdAt := evaluation.createdAt }
    return (true, store)
  else return (true, store)

def LifecycleStore.findEvaluation (evaluationId : String) :
    Option EvaluationRow :=
  store.evaluations.find? (·.evaluation.evaluationId = evaluationId)

def recordTrustedPromotionEvaluation (daily : DailyEvidence hash)
    (evidence : PromotionEvidenceV1) (contract : PromotionThresholds)
    (evaluation : TrustedPromotionEvaluation) : Except Failure (Bool × LifecycleStore) := do
  let expected ← evaluateTrustedPromotionEvidence hash evidence contract evaluation.createdAt
  raiseIf (expected.evaluationHash ≠ evaluation.evaluationHash)
    (persistenceError "trusted promotion evaluation does not match its contract")
  let row ← store.challengerForUpdate evidence.challengerId
  match store.findEvaluation evaluation.evaluationId with
  | some existing =>
    raiseIf (existing.evaluation.evaluationHash ≠ evaluation.evaluationHash)
      (persistenceError "trusted promotion evaluation hash conflict")
    return (false, store)
  | none =>
    raiseIf (store.currentStatus row ≠ .shadowRunning)
      (persistenceError "trusted promotion evaluation requires SHADOW_RUNNING")
    let summary ← validatePromotionEvidenceBinding hash store daily row evidence
    let decision := evaluation.decision
    raiseIf (evaluation.evidenceHash ≠ evidence.evidenceHash ∨
        decision.challengerId ≠ evidence.challengerId ∨
        decision.currentChampionVersion ≠ evidence.currentChampionVersion ∨
        decision.candidateVersion ≠ evidence.candidateVersion ∨
        decision.replayHash ≠ evidence.replayHash)
      (persistenceError "trusted promotion evaluation binding mismatch")
    storeEvaluation hash
      ⟨"promotion evidence hash conflict", "TRUSTED_PROMOTION_CRITERIA_SATISFIED",
        "trusted-promotion:"⟩
      store row ⟨summary.base.summaryId, evidence.toPromotionEvidence⟩ evaluation

def recordTrustedPromotionEvaluationV2 (evidence : PromotionEvidenceV2)
    (contract : PromotionEvaluationContractV2) (evaluation : TrustedPromotionEvaluation) :
    Except Failure (Bool × LifecycleStore) := do
  let expected ← evaluateTrustedPromotionEvidenceV2 hash evidence contract evaluation.createdAt
  raiseIf (expected.evaluationHash ≠ evaluation.evaluationHash)
    (persistenceError "trusted promotion V2 evaluation does not match its contract")
  let row ← store.challengerForUpdate evidence.challengerId
  match store.findEvaluation evaluation.evaluationId with
  | some existing =>
    raiseIf (existing.evaluation.evaluationHash ≠ evaluation.evaluationHash)
      (persistenceError "trusted promotion V2 evaluation hash conflict")
    return (false, store)
  | none =>
    raiseIf (store.currentStatus row ≠ .shadowRunning)
      (persistenceError "trusted promotion V2 evaluation requires SHADOW_RUNNING")
    match store.findSummary evidence.shadowSummary.summaryId with
    | none => .error (persistenceError "trusted promotion V2 evidence binding mismatch")
    | some summary =>
      raiseIf (summary.base.summaryHash ≠ evidence.shadowSummary.summaryHash ∨
          (¬∃ comparison ∈ store.comparisons, comparison.challengerId = evidence.challengerId ∧
            comparison.contract.contractHash = evidence.portfolioComparisonContractHash) ∨
          (¬∃ oos ∈ store.oosResults, oos.result.challengerId = evidence.challengerId ∧
            oos.result.resultHash = evidence.oosResult.resultHash ∧ oos.result.verdict = .pass) ∨
          evidence.portfolioContractBindingValid = false ∨
          evidence.allocationPolicyFixedBeforeOos = false)
        (persistenceError "trusted promotion V2 evidence binding mismatch")
      let decision := evaluation.decision
      raiseIf (evaluation.evidenceHash ≠ evidence.evidenceHash ∨
          evaluation.portfolioComparisonContractHash ≠
            some evidence.portfolioComparisonContractHash ∨
          decision.challengerId ≠ evidence.challengerId ∨
          decision.currentChampionVersion ≠ evidence.currentChampionVersion ∨
          decision.candidateVersion ≠ evidence.candidateVersion ∨
          decision.replayHash ≠ evidence.replayHash)
        (persistenceError "trusted promotion V2 decision binding mismatch")
      storeEvaluation hash
        ⟨"promotion V2 evidence hash conflict",
          "PORTFOLIO_DELTA_SHARPE_PROMOTION_CRITERIA_SATISFIED", "trusted-promotion-v2:"⟩
        store row ⟨summary.base.summaryId, evidence.toPromotionEvidence⟩ evaluation

def LifecycleStore.latestTrustedEligibleEvaluation
    (challengerId : String) : Option EvaluationRow :=
  (sortedBy (fun row : EvaluationRow =>
    toLex (row.evaluation.createdAt, row.evaluation.evaluationId))
    (store.evaluations.filter fun row => row.challengerId = challengerId ∧
      row.evaluation.decision.verdict = .eligibleRequiresManualApproval)).getLast?

def LifecycleStore.manualApprovals (challengerId : String) :
    List PromotionDecision :=
  store.decisions.filter fun decision =>
    decision.challengerId = challengerId ∧ decision.verdict = .manuallyApproved

def strip (text : String) : String :=
  String.ofList (rstrip isSpace (text.toList.dropWhile isSpace))

def recordTrustedManualPromotionApproval
    (challengerId approvedBy : String) (createdAt : Instant) :
    Except Failure ((PromotionDecision × Bool) × LifecycleStore) := do
  let approver := strip approvedBy
  raiseIf (approver = "") (persistenceError "manual approver is required")
  let row ← store.challengerForUpdate challengerId
  raiseIf (store.currentStatus row ≠ .promotionEligible)
    (persistenceError "manual approval requires PROMOTION_ELIGIBLE")
  match store.latestTrustedEligibleEvaluation challengerId with
  | none => .error (persistenceError "manual action requires trusted promotion eligibility")
  | some evaluationRow =>
    let evaluation := evaluationRow.evaluation
    let eligible := evaluation.decision
    raiseIf (∃ latest ∈ store.latestChampionDesignation,
        latest.strategyVersion ≠ eligible.currentChampionVersion)
      (persistenceError "manual approval is stale against the current Champion")
    match (store.manualApprovals challengerId).head? with
    | some decision =>
      raiseIf (decision.approvedBy ≠ some approver ∨
          decision.currentChampionVersion ≠ eligible.currentChampionVersion ∨
          decision.candidateVersion ≠ eligible.candidateVersion)
        (persistenceError "Challenger already has a different manual approval")
      return ((decision, false), store)
    | none =>
      raiseIf (createdAt < evaluation.createdAt)
        (persistenceError "manual approval predates trusted evaluation")
      let decision ← sealDecision hash
        { promotionDecisionId := hash.stableId "trusted-manual-promotion-approval"
            [.str evaluation.evaluationHash, .str approver]
          challengerId := challengerId
          currentChampionVersion := eligible.currentChampionVersion
          candidateVersion := eligible.candidateVersion
          verdict := .manuallyApproved
          criteria := eligible.criteria
          failedReasonCodes := []
          replayHash := eligible.replayHash
          approvedBy := some approver
          createdAt := createdAt
          decisionHash := "" }
      let store ← addPromotionDecision store decision
      return ((decision, true), store)

def SameCriteria (a b : Dict String Bool) : Prop := a.sortedItems = b.sortedItems

instance (a b : Dict String Bool) : Decidable (SameCriteria a b) :=
  inferInstanceAs (Decidable (a.sortedItems = b.sortedItems))

/-- The constraints of `research_champion_designations`. -/
def designationConflict (designation old : ChampionDesignation) : Bool :=
  old.designationId = designation.designationId ∨ old.sequence = designation.sequence ∨
    (old.strategyId = designation.strategyId ∧
      old.strategyVersion = designation.strategyVersion) ∨
    old.idempotencyKey = designation.idempotencyKey ∨
    old.designationHash = designation.designationHash

/-- The arguments of `designate_champion`. -/
structure DesignateCall where
  challengerId : String
  expectedCurrentVersion : String
  designatedBy : String
  idempotencyKey : String
  designatedAt : Instant
deriving DecidableEq

def nextDesignation (call : DesignateCall) (row : ManifestRow) (latest : Option ChampionDesignation)
    (evaluation : TrustedPromotionEvaluation) (manual : PromotionDecision)
    (candidateArtifactHash : String) : ChampionDesignation :=
  let sequence : ℕ := match latest with
    | none => 1
    | some latest => latest.sequence + 1
  let unsigned : ChampionDesignation :=
    { designationId := hash.stableId "champion-designation" [.int sequence,
        .str call.challengerId, .str evaluation.evaluationHash, .str manual.decisionHash]
      sequence := sequence
      strategyId := row.manifest.strategyId
      strategyVersion := row.manifest.strategyVersion
      candidateArtifactHash := candidateArtifactHash
      sourceChallengerId := call.challengerId
      trustedEvaluationId := evaluation.evaluationId
      trustedEvaluationHash := evaluation.evaluationHash
      manualApprovalDecisionId := manual.promotionDecisionId
      manualApprovalDecisionHash := manual.decisionHash
      previousDesignationId := latest.map (·.designationId)
      expectedCurrentVersion := call.expectedCurrentVersion
      designatedBy := strip call.designatedBy
      idempotencyKey := call.idempotencyKey
      designatedAt := call.designatedAt
      designationHash := "" }
  { unsigned with designationHash := hash.canonicalHash unsigned.payload }

def LifecycleStore.findDesignation (idempotencyKey : String) :
    Option ChampionDesignation :=
  store.designations.find? (·.idempotencyKey = idempotencyKey)

def designateChampionOnce (call : DesignateCall) :
    Except Failure ((ChampionDesignation × Bool) × LifecycleStore) := do
  match store.findDesignation call.idempotencyKey with
  | some designation =>
    raiseIf (designation.sourceChallengerId ≠ call.challengerId ∨
        designation.expectedCurrentVersion ≠ call.expectedCurrentVersion ∨
        designation.designatedBy ≠ strip call.designatedBy)
      (persistenceError "Champion designation idempotency conflict")
    return ((designation, false), store)
  | none =>
    let row ← store.challengerForUpdate call.challengerId
    raiseIf (store.currentStatus row ≠ .promotionEligible)
      (persistenceError "Champion designation requires PROMOTION_ELIGIBLE")
    match store.latestTrustedEligibleEvaluation call.challengerId with
    | none => .error (persistenceError "manual action requires trusted promotion eligibility")
    | some evaluationRow =>
      let evaluation := evaluationRow.evaluation
      let eligible := evaluation.decision
      match (sortedBy (fun decision : PromotionDecision =>
          toLex (decision.createdAt, decision.promotionDecisionId))
          (store.manualApprovals call.challengerId)).getLast? with
      | none =>
        .error (persistenceError "Champion designation requires explicit manual approval")
      | some manual =>
        raiseIf (manual.currentChampionVersion ≠ eligible.currentChampionVersion ∨
            manual.candidateVersion ≠ eligible.candidateVersion ∨
            ¬SameCriteria manual.criteria eligible.criteria ∨
            manual.replayHash ≠ eligible.replayHash ∨ manual.createdAt < evaluation.createdAt)
          (persistenceError "manual approval does not match trusted evaluation")
        let latest := store.latestChampionDesignation
        let actualCurrentVersion :=
          (latest.map (·.strategyVersion)).getD eligible.currentChampionVersion
        raiseIf (call.expectedCurrentVersion ≠ actualCurrentVersion)
          (persistenceError "Champion expected-current-version conflict")
        raiseIf (eligible.currentChampionVersion ≠ actualCurrentVersion)
          (persistenceError "trusted evaluation is stale against current Champion")
        raiseIf (call.designatedAt < manual.createdAt)
          (persistenceError "Champion designation predates manual approval")
        match store.evidence.find? (·.evidence.evidenceId = evaluationRow.evidenceId) with
        | none =>
          .error (persistenceError "trusted evaluation lost its promotion evidence")
        | some evidenceRow =>
          let designation := nextDesignation hash call row latest evaluation manual
            evidenceRow.evidence.candidateArtifactHash
          designation.check hash
          let designations ← insertUnique designationConflict store.designations designation
          let (_, store) ← appendChallengerTransition hash
            { store with designations := designations } row
            { toStatus := .promoted
              reasonCode := "EXPLICIT_HUMAN_CHAMPION_DESIGNATION"
              artifactHash := some designation.designationHash
              idempotencyKey := "champion-designation:" ++ designation.designationHash
              createdAt := call.designatedAt }
          return ((designation, true), store)

def designateChampion (call : DesignateCall) :
    Except Failure ((ChampionDesignation × Bool) × LifecycleStore) := do
  raiseIf (strip call.designatedBy = "") (persistenceError "Champion designator is required")
  orConflict "concurrent Champion designation conflict" (designateChampionOnce hash store call)

def validatePromotionBinding (row : ManifestRow)
    (decision : PromotionDecision) (expectedStatus : ChallengerStatus) : Except Failure Unit := do
  let current := store.currentStatus row
  raiseIf (current ≠ expectedStatus)
    (persistenceError s!"promotion decision requires {expectedStatus.value}, got {current.value}")
  let mismatch := criteriaMismatch requiredPromotionCriteria decision.criteria
  raiseIf (mismatch.1 ≠ [] ∨ mismatch.2 ≠ [])
    (persistenceError (criteriaMismatchText mismatch))
  let expectedFailures := failedCriteria requiredPromotionCriteria decision.criteria
  raiseIf (sortedBy id decision.failedReasonCodes.dedup ≠ sortedBy id expectedFailures.dedup)
    (persistenceError "promotion failed_reason_codes do not match criteria")
  raiseIf (decision.candidateVersion ≠ row.manifest.strategyVersion)
    (persistenceError "promotion candidate version does not match Challenger")
  raiseIf (decision.currentChampionVersion ≠ row.manifest.parentVersion)
    (persistenceError "promotion Champion version does not match Challenger parent")
  match store.replays.find? fun replay => replay.challengerId = decision.challengerId ∧
      replay.deterministicMatch = true ∧ replay.firstReplayHash = decision.replayHash ∧
      replay.secondReplayHash = decision.replayHash with
  | none =>
    .error (persistenceError "promotion replay hash does not match deterministic replay")
  | some replay =>
    raiseIf (store.findPassedReport decision.challengerId = none)
      (persistenceError "promotion requires passed mandatory falsification")
    raiseIf (¬∃ oos ∈ store.oosResults, oos.result.challengerId = decision.challengerId ∧
        oos.result.verdict = .pass ∧
        oos.result.candidateArtifactHash = replay.candidateArtifactHash)
      (persistenceError "promotion requires candidate-bound passed OOS")
    let registrations := store.armsOf decision.challengerId
    raiseIf (¬MatchedPaperPair registrations)
      (persistenceError "promotion requires a matched paper-only shadow pair")
    raiseIf ((∃ arm ∈ armOf registrations .champion,
          arm.identity.strategyVersion ≠ decision.currentChampionVersion) ∨
        ∃ arm ∈ armOf registrations .challenger,
          arm.identity.strategyVersion ≠ decision.candidateVersion)
      (persistenceError "promotion versions do not match shadow registrations")
    raiseIf (decision.verdict = .manuallyApproved ∧
        (decision.approvedBy = none ∨ decision.approvedBy = some "" ∨ expectedFailures ≠ []))
      (persistenceError "manual approval requires approver and all criteria")
    raiseIf (decision.verdict ≠ .manuallyApproved ∧ decision.approvedBy ≠ none)
      (persistenceError "eligibility decisions cannot contain an approver")

def LifecycleStore.findDecision (promotionDecisionId : String) :
    Option PromotionDecision :=
  store.decisions.find? (·.promotionDecisionId = promotionDecisionId)

def recordPromotionEligibility (decision : PromotionDecision) :
    Except Failure (Bool × LifecycleStore) := do
  raiseIf (decision.verdict ≠ .ineligible ∧ decision.verdict ≠ .eligibleRequiresManualApproval)
    (persistenceError ("eligibility gate accepts only INELIGIBLE or " ++
      "ELIGIBLE_REQUIRES_MANUAL_APPROVAL"))
  let row ← store.challengerForUpdate decision.challengerId
  match store.findDecision decision.promotionDecisionId with
  | some existing =>
    raiseIf (existing.decisionHash ≠ decision.decisionHash)
      (persistenceError "promotion decision hash conflict")
    return (false, store)
  | none =>
    validatePromotionBinding store row decision .shadowRunning
    let store ← addPromotionDecision store decision
    if decision.verdict = .eligibleRequiresManualApproval then
      let (_, store) ← appendChallengerTransition hash store row
        { toStatus := .promotionEligible
          reasonCode := "PROMOTION_CRITERIA_SATISFIED"
          artifactHash := some decision.decisionHash
          idempotencyKey := "promotion-eligible:" ++ decision.decisionHash
          createdAt := decision.createdAt }
      return (true, store)
    else return (true, store)

def recordManualPromotionApproval (decision : PromotionDecision) :
    Except Failure (Bool × LifecycleStore) := do
  raiseIf (decision.verdict ≠ .manuallyApproved)
    (persistenceError "manual approval path requires MANUALLY_APPROVED")
  let row ← store.challengerForUpdate decision.challengerId
  match store.findDecision decision.promotionDecisionId with
  | some existing =>
    raiseIf (existing.decisionHash ≠ decision.decisionHash)
      (persistenceError "promotion decision hash conflict")
    return (false, store)
  | none =>
    raiseIf (store.manualApprovals decision.challengerId ≠ [])
      (persistenceError "Challenger already has a manual promotion approval")
    validatePromotionBinding store row decision .promotionEligible
    match (sortedBy (fun eligible : PromotionDecision => eligible.createdAt)
        (store.decisions.filter fun eligible => eligible.challengerId = decision.challengerId ∧
          eligible.verdict = .eligibleRequiresManualApproval)).getLast? with
    | none =>
      .error (persistenceError "manual approval requires a persisted eligibility decision")
    | some eligible =>
      raiseIf (eligible.currentChampionVersion ≠ decision.currentChampionVersion ∨
          eligible.candidateVersion ≠ decision.candidateVersion ∨
          ¬SameCriteria eligible.criteria decision.criteria ∨
          eligible.replayHash ≠ decision.replayHash)
        (persistenceError "manual approval does not match eligibility decision")
      let store ← addPromotionDecision store decision
      return (true, store)

end Operations

end AdaptiveQuant.ResearchPlane
