import AdaptiveQuant.Research.ChallengerPath
import AdaptiveQuant.Research.CycleContracts
import AdaptiveQuant.Research.ShadowResults

/-! The records of a Challenger's lifecycle (`research/contracts.py`, `candidate_artifact.py`,
`replay.py`, `shadow.py`, `promotion_evidence.py` and `promotion_v2.py`). -/

namespace AdaptiveQuant.ResearchPlane

open Guard

structure ChallengerManifest where
  challengerId : String
  strategyId : String
  strategyVersion : String
  parentVersion : String
  hypothesisId : String
  experimentFamily : String
  sourceCommit : String
  patchHash : String
  proposalHash : String
  codeHash : String
  configHash : String
  testManifestHash : String
  createdByCommander : ResearchCommanderKind
  evidenceSourceIds : List String
  requiredData : List String
  decisionHorizon : String
  executionUniverse : List String
  estimatedTurnover : Canonical
  estimatedCapacity : Canonical
  status : ChallengerStatus
  createdAt : Instant
  manifestHash : String
deriving DecidableEq

structure CandidateRequestBinding where
  requestId : String
  researchCycleId : String
  contextManifestHash : String
  sourceSnapshotCommit : String
  championVersion : String
  experimentFamily : String
  selectedCommander : ResearchCommanderKind
  commanderSelectionId : String
  commanderSelectionVersion : ℕ
deriving DecidableEq

structure CandidateArtifactBundle where
  bundleId : String
  challengerId : String
  requestBinding : CandidateRequestBinding
  candidateTreeHash : String
  codeHash : String
  configHash : String
  patchHash : String
  proposalHash : String
  testManifestHash : String
  challengerManifestHash : String
  declaredEntrypoint : String
  bundleHash : String
deriving DecidableEq

structure CandidateTestFailure where
  challengerId : String
  candidateManifestHash : String
  proposalHash : String
  patchHash : String
  testManifestHash : String
  failureReasonCode : String
  createdAt : Instant
  failureHash : String
  others : Canonical
deriving DecidableEq

/-- `DeterministicReplayArtifactV1`. -/
structure ReplayArtifact where
  challengerId : String
  candidateArtifactHash : String
  configHash : String
  codeHash : String
  dataManifestHash : String
  firstReplayHash : String
  secondReplayHash : String
  createdAt : Instant
deriving DecidableEq

def ReplayArtifact.deterministicMatch (a : ReplayArtifact) : Bool :=
  a.firstReplayHash = a.secondReplayHash

/-- What `artifact_hash` is a digest of. -/
def ReplayArtifact.payload (a : ReplayArtifact) : Canonical :=
  .dict [("schema_version", .str "deterministic_replay_artifact_v1"),
    ("challenger_id", .str a.challengerId),
    ("candidate_artifact_hash", .str a.candidateArtifactHash), ("config_hash", .str a.configHash),
    ("code_hash", .str a.codeHash), ("data_manifest_hash", .str a.dataManifestHash),
    ("first_replay_hash", .str a.firstReplayHash), ("second_replay_hash", .str a.secondReplayHash),
    ("deterministic_match", .bool a.deterministicMatch), ("created_at", .instant a.createdAt)]

def ReplayArtifact.artifactHash (hash : Hashing) (a : ReplayArtifact) : String :=
  hash.canonicalHash a.payload

/-- `FalsificationTestResultV1`: its metrics are the values of a JSON object. -/
structure FalsificationTestResult where
  testId : String
  metrics : List (String × Canonical)
deriving DecidableEq

structure FalsificationReport where
  challengerId : String
  results : List FalsificationTestResult
  mandatoryPassed : Bool
  createdAt : Instant
  reportHash : String
deriving DecidableEq

inductive OosVerdict
  | pass
  | fail
deriving DecidableEq

structure OosLockboxResult where
  challengerId : String
  experimentFamily : String
  submissionNumber : ℤ
  candidateArtifactHash : String
  evaluationContractHash : String
  verdict : OosVerdict
  commonSessions : ℕ
  evaluatedAt : Instant
  resultHash : String
deriving DecidableEq

/-- What `OosLockboxResultV2` has besides the fields of the first generation. -/
structure OosPortfolioResult where
  portfolioComparisonContractHash : String
  portfolioContractBindingValid : Bool
  allocationPolicyFixedBeforeOos : Bool
  independentTrades : ℕ
  deltaSharpeLcb : Option ℚ
  worstCostDeltaSharpeLcb : Option ℚ
deriving DecidableEq

structure OosLockboxResultV2 extends OosLockboxResult where
  portfolio : OosPortfolioResult
deriving DecidableEq

structure PortfolioComparisonContract where
  comparisonContractId : String
  candidateArtifactHash : String
  championPortfolioManifestHash : String
  candidatePortfolioManifestHash : String
  allocationPolicyHash : String
  contractHash : String
  createdAt : Instant
deriving DecidableEq

structure ShadowExecutionContract where
  marketInputManifestHash : String
  decisionScheduleVersion : String
  executionScenarioVersion : String
  costModelVersion : String
  startingCapitalUsd : String
  liquidityPolicyVersion : String
deriving DecidableEq

def ShadowExecutionContract.payload (c : ShadowExecutionContract) : Canonical :=
  .dict [("market_input_manifest_hash", .str c.marketInputManifestHash),
    ("decision_schedule_version", .str c.decisionScheduleVersion),
    ("execution_scenario_version", .str c.executionScenarioVersion),
    ("cost_model_version", .str c.costModelVersion),
    ("starting_capital_usd", .str c.startingCapitalUsd),
    ("liquidity_policy_version", .str c.liquidityPolicyVersion)]

structure ShadowArmIdentity where
  armId : String
  strategyId : String
  strategyVersion : String
  contract : ShadowExecutionContract
deriving DecidableEq

def requireMatchedShadowContract (champion challenger : ShadowArmIdentity) :
    Except Failure Unit := do
  raiseIf (champion.armId = challenger.armId)
    ⟨.valueError, "Champion and Challenger need independent shadow arms", []⟩
  raiseIf (champion.strategyVersion = challenger.strategyVersion)
    ⟨.valueError, "Challenger cannot reuse Champion strategy version", []⟩
  raiseIf (champion.contract ≠ challenger.contract)
    ⟨.valueError, "matched shadow arms must share execution conditions", []⟩

/-- The metrics of a promotion, which a summary measures and the evidence repeats. -/
structure PromotionMetrics where
  annualizedNetExcessReturnAfterCost : ℚ
  matchedAnnualizedDifference : ℚ
  economicEffect : ℚ
  maximumDrawdown : ℚ
  tailLoss : ℚ
  annualizedTurnover : ℚ
  estimatedCapacityUsd : ℚ
  regimePassFraction : ℚ
  runtimeErrorRate : ℚ
deriving DecidableEq

/-- What `TrustedShadowPerformanceSummaryV1` and `TrustedShadowPerformanceSummaryV2` share. -/
structure ShadowPerformanceSummary where
  summaryId : String
  challengerId : String
  shadowPairId : String
  runId : String
  currentChampionVersion : String
  candidateVersion : String
  candidateArtifactHash : String
  executionContractHash : String
  dailyEvidenceHashes : List String
  materializedEvidenceHash : String
  forwardSessions : ℕ
  independentTrades : ℕ
  metrics : PromotionMetrics
  dataAvailableCutoff : Instant
  createdAt : Instant
  summaryHash : String
deriving DecidableEq

/-- `TrustedShadowPerformanceSummaryV1`. -/
structure ShadowPerformanceSummaryV1 extends ShadowPerformanceSummary where
  championRegistrationHash : String
  challengerRegistrationHash : String
  sourceSummary : Shadow.PerformanceSummaryFields
deriving DecidableEq

/-- `TrustedShadowPerformanceSummaryV2`. -/
structure ShadowPerformanceSummaryV2 extends ShadowPerformanceSummary where
  championPortfolioManifestHash : String
  candidatePortfolioManifestHash : String
  portfolioComparisonContractHash : String
  shadowDeltaSharpeLcb : ℚ
  shadowWorstCostDeltaSharpeLcb : ℚ
deriving DecidableEq

inductive PromotionVerdict
  | ineligible
  | eligibleRequiresManualApproval
  | manuallyApproved
  | rejected
deriving DecidableEq

def PromotionVerdict.value : PromotionVerdict → String
  | .ineligible => "INELIGIBLE"
  | .eligibleRequiresManualApproval => "ELIGIBLE_REQUIRES_MANUAL_APPROVAL"
  | .manuallyApproved => "MANUALLY_APPROVED"
  | .rejected => "REJECTED"

structure PromotionDecision where
  promotionDecisionId : String
  challengerId : String
  currentChampionVersion : String
  candidateVersion : String
  verdict : PromotionVerdict
  criteria : Dict String Bool
  failedReasonCodes : List String
  replayHash : String
  approvedBy : Option String
  createdAt : Instant
  decisionHash : String
deriving DecidableEq

/-- What `decision_hash` is a digest of. -/
def PromotionDecision.payload (d : PromotionDecision) : Canonical :=
  .dict [("schema_version", .str "promotion_decision_v1"),
    ("promotion_decision_id", .str d.promotionDecisionId), ("challenger_id", .str d.challengerId),
    ("current_champion_version", .str d.currentChampionVersion),
    ("candidate_version", .str d.candidateVersion), ("verdict", .str d.verdict.value),
    ("criteria", .dict (d.criteria.sortedItems.map fun item => (item.1, .bool item.2))),
    ("failed_reason_codes", .list (d.failedReasonCodes.map .str)),
    ("replay_hash", .str d.replayHash), ("automatic_promotion_enabled", .bool false),
    ("approved_by", .optStr d.approvedBy), ("created_at", .instant d.createdAt)]

def PromotionDecision.check (hash : Hashing) (d : PromotionDecision) : Except Failure Unit := do
  let eligible := d.criteria.values.all id
  raiseIf (d.verdict = .eligibleRequiresManualApproval ∧
      (eligible = false ∨ d.failedReasonCodes ≠ []))
    (.record "PromotionDecisionV1" "eligible promotion has unmet criteria")
  raiseIf (d.verdict = .manuallyApproved ∧
      (eligible = false ∨ d.approvedBy = none ∨ d.approvedBy = some ""))
    (.record "PromotionDecisionV1" "manual promotion requires approver and all criteria")
  raiseIf (d.verdict = .ineligible ∧ eligible = true)
    (.record "PromotionDecisionV1" "ineligible verdict requires a failed criterion")
  raiseIf (hash.canonicalHash d.payload ≠ d.decisionHash)
    (.record "PromotionDecisionV1" "promotion decision hash mismatch")

/-- What `PromotionEvidenceV1` and `PromotionEvidenceV2` share. -/
structure PromotionEvidence where
  evidenceId : String
  challengerId : String
  currentChampionVersion : String
  candidateVersion : String
  candidateArtifactHash : String
  falsificationReportHash : String
  replayHash : String
  metrics : PromotionMetrics
  replayReproducible : Bool
  mandatoryTestsPassed : Bool
  dataAvailableCutoff : Instant
  createdAt : Instant
  evidenceHash : String
deriving DecidableEq

structure PromotionEvidenceV1 extends PromotionEvidence where
  oosResultHash : String
  shadowSummaryHash : String
  commonOosSessions : ℕ
  forwardSessions : ℕ
  independentTrades : ℕ
deriving DecidableEq

structure PromotionEvidenceV2 extends PromotionEvidence where
  portfolioComparisonContractHash : String
  oosResult : OosLockboxResultV2
  shadowSummary : ShadowPerformanceSummaryV2
  allocationPolicyFixedBeforeOos : Bool
  portfolioContractBindingValid : Bool
deriving DecidableEq

/-- What `PromotionEvaluationContractV1` and `PromotionEvaluationContractV2` share. -/
structure PromotionThresholds where
  contractVersion : String
  minimumCommonOosSessions : ℕ
  minimumForwardSessions : ℕ
  minimumIndependentTrades : ℕ
  minimumAnnualizedNetExcessReturnAfterCost : ℚ
  minimumMatchedAnnualizedDifference : ℚ
  minimumEconomicEffect : ℚ
  maximumDrawdown : ℚ
  maximumTailLoss : ℚ
  maximumAnnualizedTurnover : ℚ
  minimumCapacityUsd : ℚ
  minimumRegimePassFraction : ℚ
  maximumRuntimeErrorRate : ℚ
deriving DecidableEq

def PromotionThresholds.items (t : PromotionThresholds) : List (String × Canonical) :=
  [("contract_version", .str t.contractVersion),
    ("minimum_common_oos_sessions", .int t.minimumCommonOosSessions),
    ("minimum_forward_sessions", .int t.minimumForwardSessions),
    ("minimum_independent_trades", .int t.minimumIndependentTrades),
    ("minimum_annualized_net_excess_return_after_cost",
      .decimal t.minimumAnnualizedNetExcessReturnAfterCost),
    ("minimum_matched_annualized_difference", .decimal t.minimumMatchedAnnualizedDifference),
    ("minimum_economic_effect", .decimal t.minimumEconomicEffect),
    ("maximum_drawdown", .decimal t.maximumDrawdown),
    ("maximum_tail_loss", .decimal t.maximumTailLoss),
    ("maximum_annualized_turnover", .decimal t.maximumAnnualizedTurnover),
    ("minimum_capacity_usd", .decimal t.minimumCapacityUsd),
    ("minimum_regime_pass_fraction", .decimal t.minimumRegimePassFraction),
    ("maximum_runtime_error_rate", .decimal t.maximumRuntimeErrorRate)]

/-- `PromotionEvaluationContractV1`. -/
def PromotionThresholds.payload (t : PromotionThresholds) : Canonical :=
  .dict (("schema_version", .str "promotion_evaluation_contract_v1") :: t.items)

structure PromotionEvaluationContractV2 extends PromotionThresholds where
  minimumOosDeltaSharpeLcb : ℚ
  minimumShadowDeltaSharpeLcb : ℚ
  minimumWorstCostDeltaSharpeLcb : ℚ
deriving DecidableEq

def PromotionEvaluationContractV2.payload (c : PromotionEvaluationContractV2) : Canonical :=
  .dict (("schema_version", .str "promotion_evaluation_contract_v2") ::
    c.toPromotionThresholds.items ++
    [("minimum_oos_delta_sharpe_lcb", .decimal c.minimumOosDeltaSharpeLcb),
      ("minimum_shadow_delta_sharpe_lcb", .decimal c.minimumShadowDeltaSharpeLcb),
      ("minimum_worst_cost_delta_sharpe_lcb", .decimal c.minimumWorstCostDeltaSharpeLcb)])

/-- `TrustedPromotionEvaluationV1`, and `TrustedPromotionEvaluationV2` when it has the digest of a
portfolio comparison. -/
structure TrustedPromotionEvaluation where
  evaluationId : String
  evidenceHash : String
  contractHash : String
  portfolioComparisonContractHash : Option String
  decision : PromotionDecision
  createdAt : Instant
  evaluationHash : String
deriving DecidableEq

/-- What `evaluation_hash` is a digest of. -/
def TrustedPromotionEvaluation.payload (e : TrustedPromotionEvaluation) : Canonical :=
  let comparison : List (String × Canonical) := match e.portfolioComparisonContractHash with
    | none => [("schema_version", .str "trusted_promotion_evaluation_v1")]
    | some comparisonHash => [("schema_version", .str "trusted_promotion_evaluation_v2"),
        ("portfolio_comparison_contract_hash", .str comparisonHash),
        ("automatic_promotion_enabled", .bool false)]
  .dict (comparison ++ [("evaluation_id", .str e.evaluationId),
    ("evidence_hash", .str e.evidenceHash), ("contract_hash", .str e.contractHash),
    ("decision", .dict [("payload", e.decision.payload),
      ("decision_hash", .str e.decision.decisionHash)]), ("created_at", .instant e.createdAt)])

structure ChampionDesignation where
  designationId : String
  sequence : ℕ
  strategyId : String
  strategyVersion : String
  candidateArtifactHash : String
  sourceChallengerId : String
  trustedEvaluationId : String
  trustedEvaluationHash : String
  manualApprovalDecisionId : String
  manualApprovalDecisionHash : String
  previousDesignationId : Option String
  expectedCurrentVersion : String
  designatedBy : String
  idempotencyKey : String
  designatedAt : Instant
  designationHash : String
deriving DecidableEq

/-- What `designation_hash` is a digest of. -/
def ChampionDesignation.payload (d : ChampionDesignation) : Canonical :=
  .dict [("schema_version", .str "champion_designation_v1"),
    ("designation_id", .str d.designationId), ("sequence", .int d.sequence),
    ("strategy_id", .str d.strategyId), ("strategy_version", .str d.strategyVersion),
    ("candidate_artifact_hash", .str d.candidateArtifactHash),
    ("source_challenger_id", .str d.sourceChallengerId),
    ("trusted_evaluation_id", .str d.trustedEvaluationId),
    ("trusted_evaluation_hash", .str d.trustedEvaluationHash),
    ("manual_approval_decision_id", .str d.manualApprovalDecisionId),
    ("manual_approval_decision_hash", .str d.manualApprovalDecisionHash),
    ("previous_designation_id", .optStr d.previousDesignationId),
    ("expected_current_version", .str d.expectedCurrentVersion),
    ("designated_by", .str d.designatedBy), ("idempotency_key", .str d.idempotencyKey),
    ("designated_at", .instant d.designatedAt), ("automatic_promotion_enabled", .bool false),
    ("real_order_routing", .bool false)]

def ChampionDesignation.check (hash : Hashing) (d : ChampionDesignation) :
    Except Failure Unit := do
  raiseIf (d.strategyVersion = d.expectedCurrentVersion)
    (.record "ChampionDesignationV1" "Champion designation must select a new version")
  raiseIf (d.sequence = 1 ∧ d.previousDesignationId ≠ none)
    (.record "ChampionDesignationV1" "first Champion designation cannot have a predecessor")
  raiseIf (1 < d.sequence ∧ d.previousDesignationId = none)
    (.record "ChampionDesignationV1" "later Champion designation requires a predecessor")
  raiseIf (hash.canonicalHash d.payload ≠ d.designationHash)
    (.record "ChampionDesignationV1" "Champion designation hash mismatch")

end AdaptiveQuant.ResearchPlane
