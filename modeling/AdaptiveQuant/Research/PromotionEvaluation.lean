import AdaptiveQuant.Research.LifecycleRecords

/-! The evaluation of promotion evidence against a contract (`research/promotion.py`, and
`evaluate_trusted_promotion_evidence` of both generations). -/

namespace AdaptiveQuant.ResearchPlane

open Guard Sequence

def requiredPromotionCriteria : List String :=
  ["minimum_independent_trades", "minimum_forward_period", "net_excess_return_after_cost",
    "matched_baseline_improvement", "minimum_economic_effect", "maximum_drawdown", "tail_risk",
    "turnover", "capacity", "regime_robustness", "error_rate", "replay_reproducible",
    "mandatory_tests"]

def requiredPromotionCriteriaV2 : List String :=
  requiredPromotionCriteria ++ ["oos_portfolio_delta_sharpe_lcb",
    "shadow_portfolio_delta_sharpe_lcb", "worst_cost_portfolio_delta_sharpe_lcb",
    "portfolio_comparison_contract_binding", "allocation_policy_fixed_before_oos"]

def namesRepr (names : List String) : String :=
  "[" ++ String.intercalate ", " (names.map fun name => "'" ++ name ++ "'") ++ "]"

def criteriaMismatch (required : List String) (criteria : Dict String Bool) :
    List String × List String :=
  (sortedBy id (required.filter (· ∉ criteria.keys)),
    sortedBy id (criteria.keys.filter (· ∉ required)))

def criteriaMismatchText (mismatch : List String × List String) : String :=
  s!"promotion criteria mismatch missing={namesRepr mismatch.1} unknown={namesRepr mismatch.2}"

/-- `[name.upper() for name in required_criteria if not criteria[name]]`. -/
def failedCriteria (required : List String) (criteria : Dict String Bool) : List String :=
  (required.filter fun name => criteria.get? name ≠ some true).map String.toUpper

structure PromotionSubject where
  promotionDecisionId : String
  challengerId : String
  currentChampionVersion : String
  candidateVersion : String
  replayHash : String
  createdAt : Instant

/-- A decision with its digest, as `model_validate` accepts it. -/
def sealDecision (hash : Hashing) (decision : PromotionDecision) :
    Except Failure PromotionDecision := do
  let signed := { decision with decisionHash := hash.canonicalHash decision.payload }
  signed.check hash
  return signed

def evaluatePromotionEligibility (hash : Hashing) (subject : PromotionSubject)
    (criteria : Dict String Bool) (required : List String) : Except Failure PromotionDecision := do
  let mismatch := criteriaMismatch required criteria
  raiseIf (mismatch.1 ≠ [] ∨ mismatch.2 ≠ [])
    ⟨.valueError, criteriaMismatchText mismatch, []⟩
  let failed := failedCriteria required criteria
  sealDecision hash
    { promotionDecisionId := subject.promotionDecisionId
      challengerId := subject.challengerId
      currentChampionVersion := subject.currentChampionVersion
      candidateVersion := subject.candidateVersion
      verdict := if failed = [] then .eligibleRequiresManualApproval else .ineligible
      criteria := criteria
      failedReasonCodes := failed
      replayHash := subject.replayHash
      approvedBy := none
      createdAt := subject.createdAt
      decisionHash := "" }

def metricCriteria (m : PromotionMetrics) (t : PromotionThresholds) : List (String × Bool) :=
  [("net_excess_return_after_cost",
      t.minimumAnnualizedNetExcessReturnAfterCost ≤ m.annualizedNetExcessReturnAfterCost),
    ("matched_baseline_improvement",
      t.minimumMatchedAnnualizedDifference ≤ m.matchedAnnualizedDifference),
    ("minimum_economic_effect", t.minimumEconomicEffect ≤ m.economicEffect),
    ("maximum_drawdown", m.maximumDrawdown ≤ t.maximumDrawdown),
    ("tail_risk", m.tailLoss ≤ t.maximumTailLoss),
    ("turnover", m.annualizedTurnover ≤ t.maximumAnnualizedTurnover),
    ("capacity", t.minimumCapacityUsd ≤ m.estimatedCapacityUsd),
    ("regime_robustness", t.minimumRegimePassFraction ≤ m.regimePassFraction),
    ("error_rate", m.runtimeErrorRate ≤ t.maximumRuntimeErrorRate)]

def evidenceLength (trades forward : Prop) [Decidable trades] [Decidable forward] :
    List (String × Bool) :=
  [("minimum_independent_trades", trades), ("minimum_forward_period", forward)]

def testCriteria (evidence : PromotionEvidence) : List (String × Bool) :=
  [("replay_reproducible", evidence.replayReproducible),
    ("mandatory_tests", evidence.mandatoryTestsPassed)]

def evidenceCriteria (evidence : PromotionEvidenceV1) (contract : PromotionThresholds) :
    Dict String Bool where
  entries :=
    evidenceLength (contract.minimumIndependentTrades ≤ evidence.independentTrades)
      (contract.minimumForwardSessions ≤ evidence.forwardSessions ∧
        contract.minimumCommonOosSessions ≤ evidence.commonOosSessions) ++
    metricCriteria evidence.metrics contract ++ testCriteria evidence.toPromotionEvidence
  nodup := by simp [evidenceLength, metricCriteria, testCriteria]

def portfolioCriteria (evidence : PromotionEvidenceV2)
    (contract : PromotionEvaluationContractV2) : List (String × Bool) :=
  let oos := evidence.oosResult
  let shadow := evidence.shadowSummary
  [("oos_portfolio_delta_sharpe_lcb", oos.verdict = .pass ∧
      ∃ lcb ∈ oos.portfolio.deltaSharpeLcb, contract.minimumOosDeltaSharpeLcb < lcb),
    ("shadow_portfolio_delta_sharpe_lcb",
      contract.minimumShadowDeltaSharpeLcb < shadow.shadowDeltaSharpeLcb),
    ("worst_cost_portfolio_delta_sharpe_lcb", ∃ lcb ∈ oos.portfolio.worstCostDeltaSharpeLcb,
      contract.minimumWorstCostDeltaSharpeLcb ≤ min lcb shadow.shadowWorstCostDeltaSharpeLcb),
    ("portfolio_comparison_contract_binding", evidence.portfolioContractBindingValid),
    ("allocation_policy_fixed_before_oos", evidence.allocationPolicyFixedBeforeOos)]

def evidenceCriteriaV2 (evidence : PromotionEvidenceV2) (contract : PromotionEvaluationContractV2) :
    Dict String Bool where
  entries :=
    evidenceLength (contract.minimumIndependentTrades ≤
        min evidence.oosResult.portfolio.independentTrades evidence.shadowSummary.independentTrades)
      (contract.minimumCommonOosSessions ≤ evidence.oosResult.commonSessions ∧
        contract.minimumForwardSessions ≤ evidence.shadowSummary.forwardSessions) ++
    metricCriteria evidence.metrics contract.toPromotionThresholds ++
    testCriteria evidence.toPromotionEvidence ++ portfolioCriteria evidence contract
  nodup := by simp [evidenceLength, metricCriteria, testCriteria, portfolioCriteria]

structure EvaluationNames where
  evaluationTag : String
  decisionTag : String
  predates : String
  required : List String

def evaluateCriteria (hash : Hashing) (names : EvaluationNames) (evidence : PromotionEvidence)
    (contractHash : String) (comparisonHash : Option String) (criteria : Dict String Bool)
    (createdAt : Instant) : Except Failure TrustedPromotionEvaluation := do
  raiseIf (createdAt < evidence.createdAt) ⟨.valueError, names.predates, []⟩
  let evaluationId := hash.stableId names.evaluationTag
    [.str evidence.challengerId, .str evidence.evidenceHash, .str contractHash]
  let decision ← evaluatePromotionEligibility hash
    { promotionDecisionId :=
        hash.stableId names.decisionTag [.str evaluationId, .str evidence.replayHash]
      challengerId := evidence.challengerId
      currentChampionVersion := evidence.currentChampionVersion
      candidateVersion := evidence.candidateVersion
      replayHash := evidence.replayHash
      createdAt := createdAt }
    criteria names.required
  let evaluation : TrustedPromotionEvaluation :=
    { evaluationId := evaluationId
      evidenceHash := evidence.evidenceHash
      contractHash := contractHash
      portfolioComparisonContractHash := comparisonHash
      decision := decision
      createdAt := createdAt
      evaluationHash := "" }
  return { evaluation with evaluationHash := hash.canonicalHash evaluation.payload }

def evaluateTrustedPromotionEvidence (hash : Hashing) (evidence : PromotionEvidenceV1)
    (contract : PromotionThresholds) (createdAt : Instant) :
    Except Failure TrustedPromotionEvaluation :=
  evaluateCriteria hash
    ⟨"trusted-promotion-evaluation", "promotion-decision",
      "promotion evaluation predates its evidence", requiredPromotionCriteria⟩
    evidence.toPromotionEvidence (hash.canonicalHash contract.payload) none
    (evidenceCriteria evidence contract) createdAt

def evaluateTrustedPromotionEvidenceV2 (hash : Hashing) (evidence : PromotionEvidenceV2)
    (contract : PromotionEvaluationContractV2) (createdAt : Instant) :
    Except Failure TrustedPromotionEvaluation :=
  evaluateCriteria hash
    ⟨"trusted-promotion-evaluation-v2", "promotion-decision-v2",
      "promotion V2 evaluation predates its evidence", requiredPromotionCriteriaV2⟩
    evidence.toPromotionEvidence (hash.canonicalHash contract.payload)
    (some evidence.portfolioComparisonContractHash) (evidenceCriteriaV2 evidence contract) createdAt

end AdaptiveQuant.ResearchPlane
