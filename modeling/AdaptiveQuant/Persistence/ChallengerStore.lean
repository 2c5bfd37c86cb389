import AdaptiveQuant.Persistence.OosBudget
import AdaptiveQuant.Research.PromotionEvaluation

/-! The tables of the Challengers in `persistence/research.py` and the log of their statuses. -/

namespace AdaptiveQuant.ResearchPlane

open Guard Sequence

structure ManifestRow where
  proposalId : String
  manifest : ChallengerManifest
deriving DecidableEq

abbrev ManifestRow.challengerId (row : ManifestRow) : String := row.manifest.challengerId

structure CandidateArtifactRow where
  proposalId : String
  bundle : CandidateArtifactBundle
  createdAt : Instant
deriving DecidableEq

structure ComparisonRow where
  challengerId : String
  contract : PortfolioComparisonContract
deriving DecidableEq

structure OosResultRow where
  oosResultId : String
  result : OosLockboxResult
  portfolio : Option OosPortfolioResult
  createdAt : Instant
deriving DecidableEq

structure ShadowArmRow where
  shadowRegistrationId : String
  shadowPairId : String
  challengerId : String
  oosResultId : String
  armRole : Shadow.ArmRole
  identity : ShadowArmIdentity
  executionContractHash : String
  realOrderRouting : Bool
  createdAt : Instant
deriving DecidableEq

/-- `payload_json` of a row of `research_shadow_performance_summaries`. -/
inductive StoredSummary
  | v1 (summary : ShadowPerformanceSummaryV1)
  | v2 (summary : ShadowPerformanceSummaryV2)
deriving DecidableEq

def StoredSummary.base : StoredSummary → ShadowPerformanceSummary
  | .v1 summary => summary.toShadowPerformanceSummary
  | .v2 summary => summary.toShadowPerformanceSummary

def StoredSummary.sourceSummaryHash : StoredSummary → String
  | .v1 summary => summary.sourceSummary.summaryHash
  | .v2 summary => summary.materializedEvidenceHash

structure EvidenceRow where
  shadowSummaryId : String
  evidence : PromotionEvidence
deriving DecidableEq

structure EvaluationRow where
  evidenceId : String
  challengerId : String
  evaluation : TrustedPromotionEvaluation
deriving DecidableEq

/-- The tables of the research lifecycle. -/
structure LifecycleStore where
  cycles : CycleStore := {}
  budget : BudgetStore := {}
  manifests : List ManifestRow := []
  artifacts : List CandidateArtifactRow := []
  replays : List ReplayArtifact := []
  reports : List FalsificationReport := []
  comparisons : List ComparisonRow := []
  oosResults : List OosResultRow := []
  arms : List ShadowArmRow := []
  summaries : List StoredSummary := []
  evidence : List EvidenceRow := []
  evaluations : List EvaluationRow := []
  decisions : List PromotionDecision := []
  designations : List ChampionDesignation := []
  events : List ChallengerEvent := []
deriving DecidableEq

def insertUnique {α : Type} (conflict : α → α → Bool) (rows : List α) (row : α) :
    Except Failure (List α) := do
  raiseIf (rows.any (conflict row) = true) uniqueFailed
  return rows ++ [row]

theorem insertUnique_ok {α : Type} {conflict} {rows rows' : List α} {row : α}
    (h : insertUnique conflict rows row = .ok rows') :
    rows' = rows ++ [row] ∧ ∀ old ∈ rows, conflict row old = false := by
  simp only [insertUnique, ok_iff, Bool.not_eq_true, List.any_eq_false] at h
  exact ⟨h.2.symm, h.1⟩

/-- `IntegrityError` as a `ResearchPersistenceError`. -/
def orConflict {α : Type} (message : String) (x : Except Failure α) : Except Failure α :=
  x.mapError fun failure =>
    if failure.exception = .integrityError then persistenceError message else failure

theorem orConflict_eq_ok {α : Type} {message : String} {x} {a : α} :
    orConflict message x = .ok a ↔ x = .ok a := by
  cases x with
  | ok b => rfl
  | error failure => simp [orConflict, Except.mapError]

def mismatches (bindings : List (String × Bool)) : List String :=
  (bindings.filter fun binding => !binding.2).map (·.1)

namespace LifecycleStore

variable (store : LifecycleStore)

variable (challengerId : String)

def eventsOf : List ChallengerEvent :=
  store.events.filter (·.challengerId = challengerId)

def latestEvent : Option ChallengerEvent :=
  (sortedBy (·.sequence) (store.eventsOf challengerId)).getLast?

def currentStatus (row : ManifestRow) : ChallengerStatus :=
  ((store.latestEvent row.challengerId).map (·.toStatus)).getD row.manifest.status

def findManifest : Option ManifestRow :=
  store.manifests.find? (·.challengerId = challengerId)

def challengerForUpdate : Except Failure ManifestRow :=
  match store.findManifest challengerId with
  | none => .error (persistenceError "unknown Challenger")
  | some row => .ok row

def challengerStatus : Except Failure ChallengerStatus := do
  let row ← store.challengerForUpdate challengerId
  return store.currentStatus row

def findEventKey (challengerId key : String) : Option ChallengerEvent :=
  store.events.find? fun event =>
    event.challengerId = challengerId ∧ event.idempotencyKey = key

end LifecycleStore

/-- The arguments of `_append_challenger_transition`. -/
structure StatusChange where
  toStatus : ChallengerStatus
  reasonCode : String
  artifactHash : Option String
  idempotencyKey : String
  createdAt : Instant
  artifactPayload : Option Canonical := none
deriving DecidableEq

/-- What `event_hash` is a digest of. -/
def StatusChange.payload (change : StatusChange) (challengerId : String) (sequence : ℕ)
    (current : ChallengerStatus) : Canonical :=
  .dict ([("challenger_id", .str challengerId), ("sequence", .int sequence),
    ("from_status", .str current.value), ("to_status", .str change.toStatus.value),
    ("reason_code", .str change.reasonCode), ("artifact_hash", .optStr change.artifactHash),
    ("idempotency_key", .str change.idempotencyKey),
    ("created_at", .instant change.createdAt)] ++
    change.artifactPayload.toList.map fun payload => ("artifact_payload", payload))

def eventConflict (event old : ChallengerEvent) : Bool :=
  old.challengerEventId = event.challengerEventId ∨
    (old.challengerId = event.challengerId ∧
      (old.idempotencyKey = event.idempotencyKey ∨ old.sequence = event.sequence)) ∨
    old.eventHash = event.eventHash

section Operations

variable (hash : Hashing)

variable (store : LifecycleStore)

def nextEvent (row : ManifestRow) (change : StatusChange) :
    ChallengerEvent :=
  let sequence := match store.latestEvent row.challengerId with
    | none => 1
    | some latest => latest.sequence + 1
  { challengerEventId := hash.stableId "challenger-event"
      [.str row.challengerId, .str change.idempotencyKey]
    challengerId := row.challengerId
    sequence := sequence
    fromStatus := store.currentStatus row
    toStatus := change.toStatus
    reasonCode := change.reasonCode
    artifactHash := change.artifactHash
    idempotencyKey := change.idempotencyKey
    eventHash := hash.canonicalHash
      (change.payload row.challengerId sequence (store.currentStatus row))
    createdAt := change.createdAt }

def appendChallengerTransition (row : ManifestRow)
    (change : StatusChange) : Except Failure (Bool × LifecycleStore) :=
  match store.findEventKey row.challengerId change.idempotencyKey with
  | some existing => do
    raiseIf (existing.toStatus ≠ change.toStatus)
      (persistenceError "idempotency key status conflict")
    return (false, store)
  | none => do
    let current := store.currentStatus row
    raiseIf (¬current.Moves change.toStatus)
      (persistenceError
        s!"invalid Challenger transition {current.value}->{change.toStatus.value}")
    let events ← insertUnique eventConflict store.events (nextEvent hash store row change)
    return (true, { store with events := events })

def transitionChallenger (challengerId : String) (change : StatusChange) :
    Except Failure (Bool × LifecycleStore) := do
  raiseIf (change.toStatus ∈ ChallengerStatus.lifecycleGated)
    (persistenceError s!"{change.toStatus.value} requires the trusted Research Lifecycle gate")
  let row ← store.challengerForUpdate challengerId
  appendChallengerTransition hash store row change

def validateChallengerRegistration (manifest : ChallengerManifest) (proposal : AlgorithmProposal)
    (cycle : CycleRow) : Except Failure Unit :=
  let wrong := mismatches
    [("proposal_hash", manifest.proposalHash = proposal.proposalHash),
      ("strategy_id", manifest.strategyId = proposal.proposedStrategyId),
      ("strategy_version", manifest.strategyVersion = proposal.proposedStrategyVersion),
      ("parent_version", manifest.parentVersion = proposal.parentStrategyVersion),
      ("hypothesis_id", manifest.hypothesisId = proposal.hypothesisId),
      ("experiment_family", manifest.experimentFamily = cycle.payload.experimentFamily),
      ("created_by_commander", manifest.createdByCommander = cycle.selectedCommander),
      ("evidence_source_ids",
        sortedBy id manifest.evidenceSourceIds = sortedBy id proposal.evidenceSourceIds),
      ("required_data", manifest.requiredData = proposal.requiredData),
      ("decision_horizon", manifest.decisionHorizon = proposal.targetHorizon),
      ("execution_universe", manifest.executionUniverse = proposal.targetUniverse),
      ("estimated_turnover", manifest.estimatedTurnover = proposal.estimatedTurnover),
      ("estimated_capacity", manifest.estimatedCapacity = proposal.estimatedCapacity)]
  raiseIf (wrong ≠ []) (persistenceError
    ("Challenger manifest does not match its accepted proposal: " ++ joined wrong))

def manifestConflict (row old : ManifestRow) : Bool :=
  old.challengerId = row.challengerId ∨
    (old.manifest.strategyId = row.manifest.strategyId ∧
      old.manifest.strategyVersion = row.manifest.strategyVersion) ∨
    old.manifest.manifestHash = row.manifest.manifestHash

def registerChallenger (manifest : ChallengerManifest)
    (proposalId : String) : Except Failure (Bool × LifecycleStore) := do
  raiseIf (manifest.status ≠ .proposed) (persistenceError "new Challenger must start PROPOSED")
  match findProposal store.cycles.proposals proposalId with
  | none => .error (persistenceError "unknown accepted proposal")
  | some proposalRow =>
    match store.cycles.findCycle proposalRow.researchCycleId with
    | none => .error (persistenceError "accepted proposal Research cycle is missing")
    | some cycle =>
      validateChallengerRegistration manifest proposalRow.proposal cycle
      match store.findManifest manifest.challengerId with
      | some existing =>
        raiseIf (existing.manifest.manifestHash ≠ manifest.manifestHash ∨
            existing.proposalId ≠ proposalId) (persistenceError "challenger ID hash conflict")
        return (false, store)
      | none =>
        raiseIf (∃ row ∈ store.manifests, row.manifest.strategyId = manifest.strategyId ∧
            row.manifest.strategyVersion = manifest.strategyVersion)
          (persistenceError "Challenger strategy version is already registered")
        let manifests ← orConflict "Challenger identity or strategy version conflict"
          (insertUnique manifestConflict store.manifests ⟨proposalId, manifest⟩)
        return (true, { store with manifests := manifests })

def CandidateArtifactBundle.assertBoundTo (bundle : CandidateArtifactBundle)
    (request : ResearchRequest) (proposal : AlgorithmProposal) (manifest : ChallengerManifest) :
    Except Failure Unit := do
  let binding := bundle.requestBinding
  raiseIf (¬(binding.requestId = request.requestId ∧
      binding.researchCycleId = request.researchCycleId ∧
      binding.contextManifestHash = request.contextManifestHash ∧
      binding.sourceSnapshotCommit = request.sourceSnapshotCommit ∧
      binding.championVersion = request.championVersion ∧
      binding.experimentFamily = request.experimentFamily ∧
      binding.selectedCommander = request.selectedCommander ∧
      binding.commanderSelectionId = request.commanderSelectionId ∧
      binding.commanderSelectionVersion = request.commanderSelectionVersion))
    ⟨.valueError, "Candidate artifact request binding mismatch", []⟩
  raiseIf (¬(bundle.challengerId = manifest.challengerId ∧
      bundle.challengerManifestHash = manifest.manifestHash ∧
      bundle.codeHash = manifest.codeHash ∧ bundle.configHash = manifest.configHash ∧
      bundle.patchHash = manifest.patchHash ∧ bundle.proposalHash = manifest.proposalHash ∧
      bundle.testManifestHash = manifest.testManifestHash ∧
      manifest.sourceCommit = request.sourceSnapshotCommit ∧
      manifest.experimentFamily = request.experimentFamily))
    ⟨.valueError, "Candidate artifact Challenger binding mismatch", []⟩
  raiseIf (¬(bundle.proposalHash = proposal.proposalHash ∧
      manifest.hypothesisId = proposal.hypothesisId ∧
      manifest.strategyId = proposal.proposedStrategyId ∧
      manifest.strategyVersion = proposal.proposedStrategyVersion ∧
      manifest.parentVersion = proposal.parentStrategyVersion ∧
      manifest.requiredData = proposal.requiredData ∧
      manifest.decisionHorizon = proposal.targetHorizon ∧
      manifest.executionUniverse = proposal.targetUniverse))
    ⟨.valueError, "Candidate artifact proposal binding mismatch", []⟩

def validateStoredCandidateArtifact (bundle : CandidateArtifactBundle)
    (row : CandidateArtifactRow) : Except Failure Unit :=
  let wrong := mismatches
    [("bundle_id", bundle.bundleId = row.bundle.bundleId),
      ("challenger_id", bundle.challengerId = row.bundle.challengerId),
      ("research_cycle_id",
        bundle.requestBinding.researchCycleId = row.bundle.requestBinding.researchCycleId),
      ("candidate_tree_hash", bundle.candidateTreeHash = row.bundle.candidateTreeHash),
      ("code_hash", bundle.codeHash = row.bundle.codeHash),
      ("config_hash", bundle.configHash = row.bundle.configHash),
      ("test_manifest_hash", bundle.testManifestHash = row.bundle.testManifestHash),
      ("declared_entrypoint", bundle.declaredEntrypoint = row.bundle.declaredEntrypoint),
      ("bundle_hash", bundle.bundleHash = row.bundle.bundleHash)]
  raiseIf (wrong ≠ [])
    (persistenceError ("stored candidate artifact binding mismatch: " ++ joined wrong))

def artifactConflict (row old : CandidateArtifactRow) : Bool :=
  old.bundle.bundleId = row.bundle.bundleId ∨ old.bundle.challengerId = row.bundle.challengerId ∨
    old.bundle.bundleHash = row.bundle.bundleHash

def LifecycleStore.findBundle (bundleId : String) :
    Option CandidateArtifactRow :=
  store.artifacts.find? (·.bundle.bundleId = bundleId)

def LifecycleStore.findArtifact (challengerId : String) :
    Option CandidateArtifactRow :=
  store.artifacts.find? (·.bundle.challengerId = challengerId)

def registerCandidateArtifact (bundle : CandidateArtifactBundle)
    (createdAt : Instant) : Except Failure (Bool × LifecycleStore) := do
  let row ← store.challengerForUpdate bundle.challengerId
  match (store.findBundle bundle.bundleId).or (store.findArtifact bundle.challengerId) with
  | some existing =>
    raiseIf (existing.bundle.bundleId ≠ bundle.bundleId ∨
        existing.bundle.challengerId ≠ bundle.challengerId ∨
        existing.bundle.bundleHash ≠ bundle.bundleHash)
      (persistenceError "candidate artifact identity or Challenger conflict")
    validateStoredCandidateArtifact bundle existing
    return (false, store)
  | none =>
    match findProposal store.cycles.proposals row.proposalId with
    | none => .error (persistenceError "candidate artifact proposal is missing")
    | some proposalRow =>
      match store.cycles.findCycle proposalRow.researchCycleId with
      | none => .error (persistenceError "candidate artifact Research cycle is missing")
      | some cycle =>
        (bundle.assertBoundTo cycle.payload proposalRow.proposal row.manifest).mapError fun _ =>
          persistenceError "candidate artifact trusted-input binding mismatch"
        validateChallengerRegistration row.manifest proposalRow.proposal cycle
        let artifacts ← orConflict "candidate artifact registration conflict"
          (insertUnique artifactConflict store.artifacts ⟨row.proposalId, bundle, createdAt⟩)
        return (true, { store with artifacts := artifacts })

/-- `model_payload(failure)`. -/
def CandidateTestFailure.payload (failure : CandidateTestFailure) : Canonical :=
  .dict [("challenger_id", .str failure.challengerId),
    ("candidate_manifest_hash", .str failure.candidateManifestHash),
    ("proposal_hash", .str failure.proposalHash), ("patch_hash", .str failure.patchHash),
    ("test_manifest_hash", .str failure.testManifestHash),
    ("failure_reason_code", .str failure.failureReasonCode), ("others", failure.others),
    ("created_at", .instant failure.createdAt), ("failure_hash", .str failure.failureHash)]

def recordCandidateTestFailure (failure : CandidateTestFailure) :
    Except Failure (Bool × LifecycleStore) := do
  let row ← store.challengerForUpdate failure.challengerId
  let manifest := row.manifest
  match findProposal store.cycles.proposals row.proposalId with
  | none => .error (persistenceError "Candidate test failure proposal is missing")
  | some proposalRow =>
    raiseIf (manifest.proposalHash ≠ proposalRow.proposal.proposalHash)
      (persistenceError "stored Candidate test failure bindings are invalid")
    raiseIf (failure.createdAt < manifest.createdAt)
      (persistenceError "Candidate test failure predates its Challenger manifest")
    let wrong := mismatches
      [("challenger_id", failure.challengerId = manifest.challengerId),
        ("candidate_manifest_hash", failure.candidateManifestHash = manifest.manifestHash),
        ("proposal_hash", failure.proposalHash = manifest.proposalHash),
        ("stored_proposal_hash", failure.proposalHash = proposalRow.proposal.proposalHash),
        ("patch_hash", failure.patchHash = manifest.patchHash),
        ("test_manifest_hash", failure.testManifestHash = manifest.testManifestHash)]
    raiseIf (wrong ≠ [])
      (persistenceError ("Candidate test failure binding mismatch: " ++ joined wrong))
    raiseIf (store.findArtifact failure.challengerId).isSome
      (persistenceError ("pre-artifact Candidate test failure cannot follow " ++
        "candidate artifact registration"))
    let key := "candidate-test-failure:" ++ failure.failureHash
    raiseIf (store.findEventKey failure.challengerId key = none ∧
        store.currentStatus row ≠ .proposed)
      (persistenceError "Candidate test failure requires PROPOSED")
    appendChallengerTransition hash store row
      { toStatus := .testFailed
        reasonCode := failure.failureReasonCode
        artifactHash := some failure.failureHash
        idempotencyKey := key
        createdAt := failure.createdAt
        artifactPayload := some failure.payload }

def portfolioSharpeError (message : String) : Failure :=
  ⟨.portfolioSharpePersistenceError, message, []⟩

def comparisonConflict (row old : ComparisonRow) : Bool :=
  old.contract.comparisonContractId = row.contract.comparisonContractId ∨
    (old.challengerId = row.challengerId ∧
      old.contract.candidateArtifactHash = row.contract.candidateArtifactHash) ∨
    old.contract.contractHash = row.contract.contractHash

def storeComparisonContract (challengerId : String)
    (contract : PortfolioComparisonContract) : Except Failure (Bool × LifecycleStore) := do
  raiseIf ((store.findManifest challengerId).isNone) (portfolioSharpeError "unknown Challenger")
  raiseIf (¬∃ row ∈ store.artifacts, row.bundle.challengerId = challengerId ∧
      row.bundle.bundleHash = contract.candidateArtifactHash)
    (portfolioSharpeError "portfolio contract Candidate artifact is not registered")
  match store.comparisons.find?
    (·.contract.comparisonContractId = contract.comparisonContractId) with
  | some existing =>
    raiseIf (existing.challengerId ≠ challengerId ∨
        existing.contract.contractHash ≠ contract.contractHash)
      (portfolioSharpeError "portfolio comparison contract identity conflict")
    raiseIf (existing.contract.candidateArtifactHash ≠ contract.candidateArtifactHash ∨
        existing.contract.championPortfolioManifestHash ≠ contract.championPortfolioManifestHash ∨
        existing.contract.candidatePortfolioManifestHash ≠
          contract.candidatePortfolioManifestHash ∨
        existing.contract.allocationPolicyHash ≠ contract.allocationPolicyHash)
      (portfolioSharpeError "stored portfolio comparison columns do not match payload")
    return (false, store)
  | none =>
    raiseIf (∃ row ∈ store.comparisons, row.challengerId = challengerId ∧
        row.contract.candidateArtifactHash = contract.candidateArtifactHash)
      (portfolioSharpeError "Candidate artifact already has a portfolio contract")
    raiseIf ((∃ row ∈ store.budget.reservations, row.challengerId = challengerId) ∨
        ∃ row ∈ store.oosResults, row.result.challengerId = challengerId)
      (portfolioSharpeError "portfolio allocation cannot change after OOS begins")
    match insertUnique comparisonConflict store.comparisons ⟨challengerId, contract⟩ with
    | .error _ => .error (portfolioSharpeError "portfolio comparison contract conflict")
    | .ok comparisons => return (true, { store with comparisons := comparisons })

end Operations

end AdaptiveQuant.ResearchPlane
