import AdaptiveQuant.Persistence.ChallengerStore

/-! The gates before the shadow arms in `persistence/research.py`. -/

namespace AdaptiveQuant.ResearchPlane

open Guard Control

def requireRegisteredCandidateArtifact (store : LifecycleStore) (challengerId : String)
    (candidateArtifactHash : Option String) : Except Failure CandidateArtifactBundle :=
  match store.artifacts.find? fun row => row.bundle.challengerId = challengerId ∧
      candidateArtifactHash.all (row.bundle.bundleHash = ·) with
  | none => .error (persistenceError "registered candidate artifact is required")
  | some row => .ok row.bundle

section Operations

variable (hash : Hashing)

def replayConflict (artifact old : ReplayArtifact) : Bool :=
  old.challengerId = artifact.challengerId ∨ old.artifactHash hash = artifact.artifactHash hash

variable (store : LifecycleStore) (challengerId : String)

def LifecycleStore.findReplay :
    Option ReplayArtifact :=
  store.replays.find? (·.challengerId = challengerId)

def LifecycleStore.findMatchingReplay
    (challengerId candidateArtifactHash : String) : Option ReplayArtifact :=
  store.replays.find? fun replay => replay.challengerId = challengerId ∧
    replay.candidateArtifactHash = candidateArtifactHash ∧ replay.deterministicMatch = true

def recordReplayArtifact (artifact : ReplayArtifact) :
    Except Failure (Bool × LifecycleStore) := do
  let row ← store.challengerForUpdate artifact.challengerId
  let candidate ← requireRegisteredCandidateArtifact store artifact.challengerId
    (some artifact.candidateArtifactHash)
  match store.findReplay artifact.challengerId with
  | some existing =>
    raiseIf (existing.artifactHash hash ≠ artifact.artifactHash hash)
      (persistenceError "Challenger already has a different replay artifact")
    return (false, store)
  | none =>
    raiseIf (artifact.configHash ≠ row.manifest.configHash ∨
        artifact.codeHash ≠ row.manifest.codeHash ∨
        artifact.configHash ≠ candidate.configHash ∨ artifact.codeHash ≠ candidate.codeHash)
      (persistenceError "replay artifact code/config binding mismatch")
    let current := store.currentStatus row
    raiseIf (current ≠ .proposed)
      (persistenceError s!"replay verification requires PROPOSED, got {current.value}")
    let replays ← insertUnique (replayConflict hash) store.replays artifact
    let store := { store with replays := replays }
    if artifact.deterministicMatch then return (true, store)
    else
      let (_, store) ← appendChallengerTransition hash store row
        { toStatus := .replayFailed
          reasonCode := "DETERMINISTIC_REPLAY_HASH_MISMATCH"
          artifactHash := some (artifact.artifactHash hash)
          idempotencyKey := "replay:" ++ artifact.artifactHash hash
          createdAt := artifact.createdAt }
      return (true, store)

structure FalsificationBindings where
  candidateArtifactHash : String
  evaluationContractHash : String
  dataManifestHash : String
  replayHash : String
  deterministicSeed : ℤ
deriving DecidableEq

def hashMetric (result : FalsificationTestResult) (field : String) : Except Failure String :=
  match result.metrics.lookup field with
  | some (.str value) => do
    raiseIf (isHash value = false)
      (persistenceError s!"falsification result is missing a valid {field} binding")
    return value
  | _ => .error (persistenceError s!"falsification result is missing a valid {field} binding")

def resultBindings (result : FalsificationTestResult) : Except Failure FalsificationBindings := do
  let candidateArtifactHash ← hashMetric result "candidate_artifact_hash"
  let evaluationContractHash ← hashMetric result "evaluation_contract_hash"
  let dataManifestHash ← hashMetric result "data_manifest_hash"
  let replayHash ← hashMetric result "replay_hash"
  match result.metrics.lookup "deterministic_seed" with
  | some (.int seed) =>
    raiseIf (seed < 0)
      (persistenceError "falsification result is missing a valid deterministic_seed")
    return ⟨candidateArtifactHash, evaluationContractHash, dataManifestHash, replayHash, seed⟩
  | _ =>
    .error (persistenceError "falsification result is missing a valid deterministic_seed")

def sameBindings (expected : Option FalsificationBindings) (result : FalsificationTestResult) :
    Except Failure (Option FalsificationBindings) := do
  let values ← resultBindings result
  match expected with
  | none => return some values
  | some bindings =>
    raiseIf (values ≠ bindings)
      (persistenceError "falsification result bindings are inconsistent")
    return some bindings

def falsificationBindings (report : FalsificationReport) :
    Except Failure FalsificationBindings := do
  match ← report.results.foldlM sameBindings none with
  | none => .error (persistenceError "falsification report has no binding-bearing results")
  | some bindings => return bindings

def requireFalsificationBindings (report : FalsificationReport)
    (candidateArtifactHash dataManifestHash replayHash : String)
    (evaluationContractHash : Option String) : Except Failure Unit := do
  let bindings ← falsificationBindings report
  let wrong := mismatches
    [("candidate_artifact_hash", bindings.candidateArtifactHash = candidateArtifactHash),
      ("data_manifest_hash", bindings.dataManifestHash = dataManifestHash),
      ("replay_hash", bindings.replayHash = replayHash),
      ("evaluation_contract_hash",
        evaluationContractHash.all (bindings.evaluationContractHash = ·))]
  raiseIf (wrong ≠ []) (persistenceError ("falsification binding mismatch: " ++ joined wrong))

def reportConflict (report old : FalsificationReport) : Bool :=
  old.challengerId = report.challengerId ∨ old.reportHash = report.reportHash

def LifecycleStore.findReport :
    Option FalsificationReport :=
  store.reports.find? (·.challengerId = challengerId)

def recordFalsificationReport (report : FalsificationReport) :
    Except Failure (Bool × LifecycleStore) := do
  let row ← store.challengerForUpdate report.challengerId
  let candidate ← requireRegisteredCandidateArtifact store report.challengerId none
  match store.findMatchingReplay report.challengerId candidate.bundleHash with
  | none =>
    .error (persistenceError "falsification requires a matching deterministic replay")
  | some replay =>
    requireFalsificationBindings report candidate.bundleHash replay.dataManifestHash
      (replay.artifactHash hash) none
    match store.findReport report.challengerId with
    | some existing =>
      raiseIf (existing.reportHash ≠ report.reportHash)
        (persistenceError "Challenger already has a different falsification report")
      return (false, store)
    | none =>
      let current := store.currentStatus row
      raiseIf (current ≠ .proposed)
        (persistenceError s!"falsification requires PROPOSED, got {current.value}")
      let reports ← insertUnique reportConflict store.reports report
      let store := { store with reports := reports }
      if report.mandatoryPassed then return (true, store)
      else
        let (_, store) ← appendChallengerTransition hash store row
          { toStatus := .testFailed
            reasonCode := "MANDATORY_FALSIFICATION_FAILED"
            artifactHash := some report.reportHash
            idempotencyKey := "falsification:" ++ report.reportHash
            createdAt := report.createdAt }
        return (true, store)

def validateShadowPair (row : ManifestRow)
    (champion challenger : ShadowArmIdentity) : Except Failure Unit := do
  (requireMatchedShadowContract champion challenger).mapError fun failure =>
    persistenceError failure.message
  raiseIf (challenger.strategyId ≠ row.manifest.strategyId ∨
      challenger.strategyVersion ≠ row.manifest.strategyVersion)
    (persistenceError "Challenger shadow identity does not match manifest")
  match findProposal store.cycles.proposals row.proposalId with
  | none => .error (persistenceError "Challenger proposal is missing")
  | some proposalRow =>
    raiseIf (champion.strategyId ≠ proposalRow.proposal.parentStrategyId ∨
        champion.strategyVersion ≠ proposalRow.proposal.parentStrategyVersion)
      (persistenceError "Champion shadow identity does not match parent strategy")

/-- The constraints of `research_shadow_arm_registrations`. -/
def armConflict (row old : ShadowArmRow) : Bool :=
  old.shadowRegistrationId = row.shadowRegistrationId ∨
    (old.shadowPairId = row.shadowPairId ∧ old.armRole = row.armRole) ∨
    (old.challengerId = row.challengerId ∧ old.armRole = row.armRole) ∨
    old.identity.armId = row.identity.armId

def shadowArmRow (challengerId oosResultId shadowPairId contractHash : String)
    (role : Shadow.ArmRole) (identity : ShadowArmIdentity) (createdAt : Instant) :
    ShadowArmRow where
  shadowRegistrationId :=
    hash.stableId "research-shadow-arm" [.str shadowPairId, .str role.value]
  shadowPairId := shadowPairId
  challengerId := challengerId
  oosResultId := oosResultId
  armRole := role
  identity := identity
  executionContractHash := contractHash
  realOrderRouting := false
  createdAt := createdAt

def registerShadowPair (challengerId oosResultId resultHash : String)
    (champion challenger : ShadowArmIdentity) (createdAt : Instant) :
    Except Failure LifecycleStore := do
  let contractHash := hash.canonicalHash champion.contract.payload
  let shadowPairId := hash.stableId "research-shadow-pair"
    [.str challengerId, .str resultHash, .str contractHash]
  let arms ← insertUnique armConflict store.arms
    (shadowArmRow hash challengerId oosResultId shadowPairId contractHash .champion champion
      createdAt)
  let arms ← insertUnique armConflict arms
    (shadowArmRow hash challengerId oosResultId shadowPairId contractHash .challenger challenger
      createdAt)
  return { store with arms := arms }

def LifecycleStore.armsOf : List ShadowArmRow :=
  store.arms.filter (·.challengerId = challengerId)

def MatchedPaperPair (arms : List ShadowArmRow) : Prop :=
  arms.length = 2 ∧ (∃ arm ∈ arms, arm.armRole = .champion) ∧
    (∃ arm ∈ arms, arm.armRole = .challenger) ∧
    (arms.map (·.shadowPairId)).dedup.length = 1 ∧
    (arms.map (·.executionContractHash)).dedup.length = 1 ∧
    ∀ arm ∈ arms, arm.realOrderRouting = false

instance (arms : List ShadowArmRow) : Decidable (MatchedPaperPair arms) := by
  unfold MatchedPaperPair
  infer_instance

def oosConflict (row old : OosResultRow) : Bool :=
  old.oosResultId = row.oosResultId ∨
    (old.result.challengerId = row.result.challengerId ∧
      old.result.submissionNumber = row.result.submissionNumber) ∨
    old.result.resultHash = row.result.resultHash

/-- The texts and names in which the two generations of `store_oos_result` differ. -/
structure OosTexts where
  generation : String
  submissionConflict : String
  passRequires : String
  failForbids : String
  rejectedReason : String
  rejectedKey : String
  passedReason : String
  passedKey : String

/-- The shadow arms that a result of each verdict comes with. -/
structure ShadowArms where
  champion : Option ShadowArmIdentity
  challenger : Option ShadowArmIdentity
deriving DecidableEq

def applyOosGate (texts : OosTexts) (store : LifecycleStore) (row : ManifestRow)
    (resultRow : OosResultRow) (arms : ShadowArms) : Except Failure (Bool × LifecycleStore) := do
  let result := resultRow.result
  match store.oosResults.find? fun old => old.result.challengerId = result.challengerId ∧
      old.result.submissionNumber = result.submissionNumber with
  | some existing =>
    raiseIf (existing.result.resultHash ≠ result.resultHash)
      (persistenceError texts.submissionConflict)
    return (false, store)
  | none =>
    let current := store.currentStatus row
    raiseIf (current ≠ .proposed)
      (persistenceError s!"{texts.generation} requires PROPOSED, got {current.value}")
    match result.verdict, arms.champion, arms.challenger with
    | .pass, some champion, some challenger =>
      validateShadowPair store row champion challenger
      let oosResults ← insertUnique oosConflict store.oosResults resultRow
      let store ← registerShadowPair hash { store with oosResults := oosResults }
        row.challengerId resultRow.oosResultId result.resultHash champion challenger
        resultRow.createdAt
      let (_, store) ← appendChallengerTransition hash store row
        { toStatus := .shadowPending
          reasonCode := texts.passedReason
          artifactHash := some result.resultHash
          idempotencyKey := texts.passedKey ++ result.resultHash
          createdAt := resultRow.createdAt }
      return (true, store)
    | .pass, _, _ => .error (persistenceError texts.passRequires)
    | .fail, none, none =>
      let oosResults ← insertUnique oosConflict store.oosResults resultRow
      let (_, store) ← appendChallengerTransition hash { store with oosResults := oosResults } row
        { toStatus := .oosRejected
          reasonCode := texts.rejectedReason
          artifactHash := some result.resultHash
          idempotencyKey := texts.rejectedKey ++ result.resultHash
          createdAt := resultRow.createdAt }
      return (true, store)
    | .fail, _, _ => .error (persistenceError texts.failForbids)

def LifecycleStore.findPassedReport :
    Option FalsificationReport :=
  store.reports.find? fun report =>
    report.challengerId = challengerId ∧ report.mandatoryPassed = true

def storeOosResult (result : OosLockboxResult)
    (candidateArtifactHash : String) (arms : ShadowArms) (createdAt : Instant) :
    Except Failure (Bool × LifecycleStore) := do
  raiseIf (result.candidateArtifactHash ≠ candidateArtifactHash)
    (persistenceError "OOS result candidate artifact binding mismatch")
  let row ← store.challengerForUpdate result.challengerId
  let candidate ← requireRegisteredCandidateArtifact store result.challengerId
    (some candidateArtifactHash)
  match store.findPassedReport result.challengerId with
  | none => .error (persistenceError "OOS requires a passed mandatory falsification report")
  | some report =>
    match store.findMatchingReplay result.challengerId candidateArtifactHash with
    | none =>
      .error (persistenceError "OOS requires a matching deterministic replay artifact")
    | some replay =>
      requireFalsificationBindings report candidate.bundleHash replay.dataManifestHash
        (replay.artifactHash hash) (some result.evaluationContractHash)
      raiseIf (result.experimentFamily ≠ row.manifest.experimentFamily)
        (persistenceError "OOS experiment family does not match Challenger")
      applyOosGate hash
        { generation := "OOS"
          submissionConflict := "OOS submission hash conflict"
          passRequires := "passed OOS requires matched Champion and Challenger shadow arms"
          failForbids := "failed OOS cannot register shadow arms"
          rejectedReason := "OOS_LOCKBOX_REJECTED"
          rejectedKey := "oos-rejected:"
          passedReason := "OOS_LOCKBOX_PASSED"
          passedKey := "shadow-pending:" }
        store row
        { oosResultId := hash.stableId "oos-result"
            [.str result.challengerId, .int result.submissionNumber]
          result := result
          portfolio := none
          createdAt := createdAt }
        arms

def storeOosResultV2 (result : OosLockboxResultV2)
    (candidateArtifactHash : String) (arms : ShadowArms) (createdAt : Instant) :
    Except Failure (Bool × LifecycleStore) := do
  raiseIf (result.candidateArtifactHash ≠ candidateArtifactHash)
    (persistenceError "OOS V2 result Candidate artifact binding mismatch")
  let row ← store.challengerForUpdate result.challengerId
  let candidate ← requireRegisteredCandidateArtifact store result.challengerId
    (some candidateArtifactHash)
  match store.comparisons.find? fun comparison =>
      comparison.challengerId = result.challengerId ∧
        comparison.contract.candidateArtifactHash = candidateArtifactHash ∧
        comparison.contract.contractHash = result.portfolio.portfolioComparisonContractHash with
  | none => .error (persistenceError "OOS V2 requires its immutable portfolio contract")
  | some comparison =>
    raiseIf (comparison.contract.candidateArtifactHash ≠ candidate.bundleHash ∨
        result.evaluatedAt < comparison.contract.createdAt ∨
        result.portfolio.portfolioContractBindingValid = false ∨
        result.portfolio.allocationPolicyFixedBeforeOos = false)
      (persistenceError "OOS V2 portfolio contract binding is invalid")
    match store.findPassedReport result.challengerId,
        store.findMatchingReplay result.challengerId candidateArtifactHash with
    | some report, some replay =>
      requireFalsificationBindings report candidate.bundleHash replay.dataManifestHash
        (replay.artifactHash hash) (some result.evaluationContractHash)
      raiseIf (result.experimentFamily ≠ row.manifest.experimentFamily)
        (persistenceError "OOS V2 experiment family does not match Challenger")
      applyOosGate hash
        { generation := "OOS V2"
          submissionConflict := "OOS V2 submission hash conflict"
          passRequires := "passed OOS V2 requires matched shadow arms"
          failForbids := "failed OOS V2 cannot register shadow arms"
          rejectedReason := "PORTFOLIO_DELTA_SHARPE_OOS_REJECTED"
          rejectedKey := "oos-v2-rejected:"
          passedReason := "PORTFOLIO_DELTA_SHARPE_OOS_PASSED"
          passedKey := "shadow-v2-pending:" }
        store row
        { oosResultId := hash.stableId "oos-result-v2" [.str result.challengerId,
            .int result.submissionNumber,
            .str result.portfolio.portfolioComparisonContractHash]
          result := result.toOosLockboxResult
          portfolio := some result.portfolio
          createdAt := createdAt }
        arms
    | _, _ => .error (persistenceError "OOS V2 requires falsification and replay")

def startShadowEvaluation (challengerId idempotencyKey : String)
    (createdAt : Instant) : Except Failure (Bool × LifecycleStore) := do
  let row ← store.challengerForUpdate challengerId
  let registrations := store.armsOf challengerId
  raiseIf (¬MatchedPaperPair registrations)
    (persistenceError "shadow start requires one matched paper-only arm pair")
  appendChallengerTransition hash store row
    { toStatus := .shadowRunning
      reasonCode := "EXPLICIT_SHADOW_START"
      artifactHash := registrations.head?.map fun arm => hash.canonicalHash (.str arm.shadowPairId)
      idempotencyKey := idempotencyKey
      createdAt := createdAt }

end Operations

end AdaptiveQuant.ResearchPlane
