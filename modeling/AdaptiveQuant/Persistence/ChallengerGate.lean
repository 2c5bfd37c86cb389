import AdaptiveQuant.Lib.Run
import AdaptiveQuant.Persistence.PromotionEffects

/-! The gate of the Challengers. -/

namespace AdaptiveQuant.ResearchPlane

open Guard Sequence Trail ChallengerStatus List

variable {hash : Hashing} {s s' : LifecycleStore} {row : ManifestRow} {challengerId : String}
  {call : Option DesignateCall}

theorem LifecycleGrows.findManifest (grows : LifecycleGrows s s')
    (h : s.findManifest challengerId = some row) :
    s'.findManifest challengerId = some row :=
  grows.manifests.find?_eq_some h

theorem PassedTests.mono {artifactHash : String} (h : PassedTests s challengerId artifactHash)
    (grows : LifecycleGrows s s') : PassedTests s' challengerId artifactHash := by
  obtain ⟨⟨artifact, hartifact, hbound⟩, ⟨replay, hreplay, hmatch⟩, report, hreport, hpassed⟩ := h
  exact ⟨⟨artifact, grows.artifacts.subset hartifact, hbound⟩,
    ⟨replay, grows.replays.subset hreplay, hmatch⟩, report, grows.reports.subset hreport, hpassed⟩

theorem armsOf_eq_filter : s.armsOf challengerId = s.arms.filter (·.challengerId = challengerId) :=
  rfl

theorem LifecycleEffect.armsOf_eq (effect : LifecycleEffect call s s')
    (h : MatchedPaperPair (s.armsOf challengerId)) :
    s'.armsOf challengerId = s.armsOf challengerId := by
  rcases effect.arms with harms |
    ⟨row, -, champion, challenger, -, -, hnone, harms, hid, -, hid', -⟩
  · rw [armsOf_eq_filter, harms, armsOf_eq_filter]
  · have hother : row.challengerId ≠ challengerId := by
      rintro rfl
      have hlength := h.1
      rw [hnone] at hlength
      exact absurd hlength (by decide)
    rw [armsOf_eq_filter, harms, filter_append]
    simp [hid, hid', hother, armsOf_eq_filter]

theorem PassedGate.mono (h : PassedGate s challengerId) (effect : LifecycleEffect call s s') :
    PassedGate s' challengerId := by
  obtain ⟨artifactHash, htests, ⟨oos, hoos, hpass⟩, hpair⟩ := h
  refine ⟨artifactHash, htests.mono effect.grows,
    ⟨oos, effect.grows.oosResults.subset hoos, hpass⟩, ?_⟩
  rw [effect.armsOf_eq hpair]
  exact hpair

theorem Promotion.mono (h : Promotion s challengerId) (grows : LifecycleGrows s s') :
    Promotion s' challengerId := by
  obtain ⟨row, hrow, hid, hverdict, manual, hmanual, hof, happroved, hcriteria, hreplay,
    designation, hdesignation, hbound⟩ := h
  exact ⟨row, grows.evaluations.subset hrow, hid, hverdict, manual,
    grows.decisions.subset hmanual, hof, happroved, hcriteria, hreplay, designation,
    grows.designations.subset hdesignation, hbound⟩

structure GateInv (s : LifecycleStore) : Prop where
  started : ∀ row ∈ s.manifests, row.manifest.status = .proposed
  numbered : ∀ challengerId, Numbered (·.sequence) (s.eventsOf challengerId)
  follows : ∀ challengerId, EventsFollow .proposed (s.eventsOf challengerId)
  gate : ∀ event ∈ s.events, event.toStatus = .shadowPending → PassedGate s event.challengerId
  promotion : ∀ event ∈ s.events, event.toStatus = .promoted → Promotion s event.challengerId

theorem gateInv_start : GateInv {} where
  started := fun _ hrow => absurd hrow not_mem_nil
  numbered := fun _ => .nil
  follows := fun _ => trivial
  gate := fun _ hevent => absurd hevent not_mem_nil
  promotion := fun _ hevent => absurd hevent not_mem_nil

theorem mem_of_findManifest (h : s.findManifest challengerId = some row) : row ∈ s.manifests :=
  mem_of_find?_eq_some h

namespace GateInv

variable (inv : GateInv s)

include inv

theorem latestEvent_eq : s.latestEvent challengerId = (s.eventsOf challengerId).getLast? := by
  unfold LifecycleStore.latestEvent
  rw [(inv.numbered challengerId).sortedBy_eq]

theorem currentStatus_eq (hrow : row ∈ s.manifests) :
    s.currentStatus row =
      final ChallengerEvent.toStatus .proposed (s.eventsOf row.challengerId) := by
  unfold LifecycleStore.currentStatus
  rw [inv.latestEvent_eq, inv.started row hrow, final_eq_getLast?]

theorem next_sequence : ((s.latestEvent challengerId).elim 0 (·.sequence)) + 1 =
    (s.eventsOf challengerId).length + 1 := by
  rw [inv.latestEvent_eq, (inv.numbered challengerId).elim_getLast?]

theorem effect (effect : LifecycleEffect call s s') : GateInv s' := by
  have hstarted : ∀ row ∈ s'.manifests, row.manifest.status = .proposed := by
    intro row hrow
    rcases effect.started row hrow with hold | hnew
    · exact inv.started row hold
    · exact hnew
  rcases effect.events with hsame | ⟨event, hevent, hgate, hpromotion⟩
  · have hof : ∀ challengerId, s'.eventsOf challengerId = s.eventsOf challengerId := by
      intro challengerId
      unfold LifecycleStore.eventsOf
      rw [hsame]
    refine ⟨hstarted, fun c => ?_, fun c => ?_, fun event hevent hto => ?_,
      fun event hevent hto => ?_⟩
    · rw [hof]
      exact inv.numbered c
    · rw [hof]
      exact inv.follows c
    · exact (inv.gate event (hsame ▸ hevent) hto).mono effect
    · exact (inv.promotion event (hsame ▸ hevent) hto).mono effect.grows
  · obtain ⟨row, hrow, hevents, hid, hsequence, hfrom, hmove⟩ := hevent
    rw [inv.next_sequence] at hsequence
    rw [inv.currentStatus_eq (mem_of_findManifest hrow)] at hfrom hmove
    have hown : s'.eventsOf row.challengerId = s.eventsOf row.challengerId ++ [event] := by
      unfold LifecycleStore.eventsOf
      rw [hevents, filter_append]
      simp [hid]
    have hother : ∀ c, c ≠ row.challengerId → s'.eventsOf c = s.eventsOf c := by
      intro c hne
      unfold LifecycleStore.eventsOf
      rw [hevents, filter_append]
      simp [hid, Ne.symm hne]
    refine ⟨hstarted, fun c => ?_, fun c => ?_, fun e he hto => ?_, fun e he hto => ?_⟩
    · by_cases hc : c = row.challengerId
      · rw [hc, hown]
        exact numbered_concat.mpr ⟨inv.numbered _, hsequence⟩
      · rw [hother c hc]
        exact inv.numbered c
    · by_cases hc : c = row.challengerId
      · rw [hc, hown]
        exact follows_concat.mpr ⟨inv.follows _, hfrom, hmove⟩
      · rw [hother c hc]
        exact inv.follows c
    · rw [hevents] at he
      rcases mem_append.mp he with he | he
      · exact (inv.gate e he hto).mono effect
      · obtain rfl := mem_singleton.mp he
        exact hgate hto
    · rw [hevents] at he
      rcases mem_append.mp he with he | he
      · exact (inv.promotion e he hto).mono effect.grows
      · obtain rfl := mem_singleton.mp he
        exact hpromotion hto

end GateInv

theorem mem_eventsOf {event} :
    event ∈ s.eventsOf challengerId ↔ event ∈ s.events ∧ event.challengerId = challengerId := by
  simp [LifecycleStore.eventsOf]

theorem GateInv.keep (s : LifecycleStore) (call : LifecycleCall hash) (s' : LifecycleStore)
    (inv : GateInv s) (h : lifecycleStep hash s call = .ok s') : GateInv s' :=
  inv.effect (lifecycleStep_effect h)

theorem GateInv.status_of_terminal (inv : GateInv s) (effect : LifecycleEffect call s s')
    (hrow : row ∈ s.manifests) (hterminal : (s.currentStatus row).Terminal) :
    s'.currentStatus row = s.currentStatus row := by
  have hlog : s'.eventsOf row.challengerId = s.eventsOf row.challengerId := by
    unfold LifecycleStore.eventsOf
    rcases effect.events with hsame | ⟨event, ⟨moved, hmoved, hevents, hid, -, -, hmove⟩, -⟩
    · rw [hsame]
    · have hother : moved.challengerId ≠ row.challengerId := by
        intro heq
        have hstatus : s.currentStatus moved = s.currentStatus row := by
          rw [inv.currentStatus_eq (mem_of_findManifest hmoved), heq, inv.currentStatus_eq hrow]
        rw [hstatus, Moves, hterminal] at hmove
        cases hmove
      rw [hevents, filter_append]
      simp [hid, hother]
  rw [(inv.effect effect).currentStatus_eq (effect.grows.manifests.subset hrow), hlog,
    inv.currentStatus_eq hrow]

theorem GateInv.rank_le (inv : GateInv s) (effect : LifecycleEffect call s s')
    (hrow : row ∈ s.manifests) : (s.currentStatus row).rank ≤ (s'.currentStatus row).rank := by
  rw [(inv.effect effect).currentStatus_eq (effect.grows.manifests.subset hrow),
    inv.currentStatus_eq hrow]
  rcases effect.events with hsame | ⟨event, ⟨moved, hmoved, hevents, hid, -, -, hmove⟩, -⟩
  · unfold LifecycleStore.eventsOf
    rw [hsame]
  · by_cases hown : moved.challengerId = row.challengerId
    · have hlog : s'.eventsOf row.challengerId = s.eventsOf row.challengerId ++ [event] := by
        unfold LifecycleStore.eventsOf
        rw [hevents, filter_append]
        simp [hid, hown]
      rw [inv.currentStatus_eq (mem_of_findManifest hmoved), hown] at hmove
      rw [hlog, final_concat]
      exact le_of_lt (rank_lt _ _ hmove)
    · have hlog : s'.eventsOf row.challengerId = s.eventsOf row.challengerId := by
        unfold LifecycleStore.eventsOf
        rw [hevents, filter_append]
        simp [hid, hown]
      rw [hlog]

theorem GateInv.terminal_of_run {later} (inv : GateInv s) (hrow : row ∈ s.manifests)
    (hterminal : (s.currentStatus row).Terminal) (run : Run (lifecycleStep hash) s later s') :
    s'.currentStatus row = s.currentStatus row := by
  have hkept : GateInv s' ∧ row ∈ s'.manifests ∧ s'.currentStatus row = s.currentStatus row := by
    refine run.inv (I := fun t => GateInv t ∧ row ∈ t.manifests ∧
      t.currentStatus row = s.currentStatus row) ⟨inv, hrow, rfl⟩ ?_
    rintro before call after ⟨hinv, hmem, hstatus⟩ hstep
    have heffect := lifecycleStep_effect hstep
    refine ⟨hinv.effect heffect, heffect.grows.manifests.subset hmem, ?_⟩
    rw [hinv.status_of_terminal heffect hmem (hstatus ▸ hterminal), hstatus]
  exact hkept.2.2

theorem GateInv.passedGate (inv : GateInv s) (hrow : row ∈ s.manifests)
    (hgated : s.currentStatus row ∈ gated) : PassedGate s row.challengerId := by
  rw [inv.currentStatus_eq hrow] at hgated
  obtain ⟨event, hevent, hto⟩ := exists_shadowPending (inv.follows _) hgated
  obtain ⟨hmem, hid⟩ := mem_eventsOf.mp hevent
  exact hid ▸ inv.gate event hmem hto

theorem GateInv.promoted (inv : GateInv s) (hrow : row ∈ s.manifests)
    (hpromoted : s.currentStatus row = .promoted) : Promotion s row.challengerId := by
  rw [inv.currentStatus_eq hrow] at hpromoted
  obtain ⟨event, hevent, hto⟩ := exists_of_final (by decide) hpromoted
  obtain ⟨hmem, hid⟩ := mem_eventsOf.mp hevent
  exact hid ▸ inv.promotion event hmem hto

/-- After any run of calls: the log of a Challenger is numbered and follows the allowed moves, no
call moves it out of a terminal status, and its status has the evidence that it needs. -/
theorem challenger_gate {taken : List (LifecycleStore × LifecycleCall hash)}
    (run : Run (lifecycleStep hash) {} taken s) (hrow : row ∈ s.manifests) :
    Numbered (·.sequence) (s.eventsOf row.challengerId) ∧
    EventsFollow .proposed (s.eventsOf row.challengerId) ∧
    s.currentStatus row = final ChallengerEvent.toStatus .proposed (s.eventsOf row.challengerId) ∧
    ((s.currentStatus row).Terminal → ∀ later s', Run (lifecycleStep hash) s later s' →
      s'.currentStatus row = s.currentStatus row) ∧
    (s.currentStatus row ∈ gated → PassedGate s row.challengerId) ∧
    (s.currentStatus row = .promoted → Promotion s row.challengerId) := by
  have inv : GateInv s := run.inv gateInv_start GateInv.keep
  exact ⟨inv.numbered _, inv.follows _, inv.currentStatus_eq hrow,
    fun hterminal _ _ later => inv.terminal_of_run hrow hterminal later,
    fun hgated => inv.passedGate hrow hgated, fun hpromoted => inv.promoted hrow hpromoted⟩

def sampleHashing : Hashing where
  canonicalHash value := String.ofList (hexDigits 64 value.checksum)
  stableId := Hashing.short.stableId

structure SampleLine where
  strategyId : String
  strategyVersion : String
  parentId : String
  parentVersion : String
  start : Instant

namespace SampleLine

variable (line : SampleLine)

def digest (text : String) : String := line.strategyId ++ text

def bound : String :=
  if line.start = 10 then "0000000000000000000000000000000000000000000000000000000000000000"
  else "0000000000000000000000000000000000000000000000000000000000000001"

def request : ResearchRequest where
  requestId := line.strategyId ++ "-request"
  researchCycleId := line.strategyId ++ "-cycle"
  selectedCommander := .codexSolMax
  commanderSelectionId := sampleHashing.stableId "research-selection"
    [.int 1, .str "CODEX_SOL_MAX", .str "config", .instant 0]
  commanderSelectionVersion := 1
  createdAt := line.start
  expiresAt := line.start + 50
  sourceSnapshotCommit := "commit"
  championVersion := line.parentVersion
  experimentFamily := "family"
  championStrategyId := none
  evidenceBundleHashes := []
  availableDataCatalogHash := "catalog"
  allowedChangeScope := ["research/candidates/**"]
  forbiddenChangeScope := ["src/**"]
  actionPlan := none
  contextManifestHash := line.digest "context"
  others := .null

def proposal : AlgorithmProposal where
  proposalId := line.strategyId ++ "-proposal"
  hypothesisId := "hypothesis"
  parentStrategyId := line.parentId
  parentStrategyVersion := line.parentVersion
  proposedStrategyId := line.strategyId
  proposedStrategyVersion := line.strategyVersion
  targetHorizon := "1d"
  targetUniverse := ["SPY"]
  requiredData := ["daily-bars"]
  estimatedCapacity := .null
  estimatedTurnover := .null
  filesAllowedToChange := ["research/candidates/strategy.py"]
  evidenceSourceIds := ["source"]
  primaryActionKind := none
  proposalHash := line.digest "proposal"

def decision : ResearchDecision where
  requestId := line.request.requestId
  researchCycleId := line.request.researchCycleId
  selectedCommander := .codexSolMax
  commanderSelectionId := line.request.commanderSelectionId
  commanderSelectionVersion := 1
  sourceSnapshotCommit := "commit"
  championVersion := line.parentVersion
  experimentFamily := "family"
  contextManifestHash := line.digest "context"
  requestSchemaVersion := "research_request_v1"
  requestExpiresAt := line.start + 50
  proposal := some line.proposal
  planHashes := none
  createdAt := line.start + 1
  outputHash := line.digest "output"

def manifest : ChallengerManifest where
  challengerId := line.strategyId ++ "-challenger"
  strategyId := line.strategyId
  strategyVersion := line.strategyVersion
  parentVersion := line.parentVersion
  hypothesisId := "hypothesis"
  experimentFamily := "family"
  sourceCommit := "commit"
  patchHash := line.digest "patch"
  proposalHash := line.digest "proposal"
  codeHash := line.digest "code"
  configHash := line.digest "config"
  testManifestHash := line.digest "tests"
  createdByCommander := .codexSolMax
  evidenceSourceIds := ["source"]
  requiredData := ["daily-bars"]
  decisionHorizon := "1d"
  executionUniverse := ["SPY"]
  estimatedTurnover := .null
  estimatedCapacity := .null
  status := .proposed
  createdAt := line.start + 2
  manifestHash := line.digest "manifest"

def bundle : CandidateArtifactBundle where
  bundleId := line.strategyId ++ "-bundle"
  challengerId := line.manifest.challengerId
  requestBinding :=
    { requestId := line.request.requestId
      researchCycleId := line.request.researchCycleId
      contextManifestHash := line.digest "context"
      sourceSnapshotCommit := "commit"
      championVersion := line.parentVersion
      experimentFamily := "family"
      selectedCommander := .codexSolMax
      commanderSelectionId := line.request.commanderSelectionId
      commanderSelectionVersion := 1 }
  candidateTreeHash := line.digest "tree"
  codeHash := line.digest "code"
  configHash := line.digest "config"
  patchHash := line.digest "patch"
  proposalHash := line.digest "proposal"
  testManifestHash := line.digest "tests"
  challengerManifestHash := line.digest "manifest"
  declaredEntrypoint := "strategy:decide"
  bundleHash := line.bound

def replay : ReplayArtifact where
  challengerId := line.manifest.challengerId
  candidateArtifactHash := line.bound
  configHash := line.digest "config"
  codeHash := line.digest "code"
  dataManifestHash := line.bound
  firstReplayHash := line.digest "replay"
  secondReplayHash := line.digest "replay"
  createdAt := line.start + 3

def report : FalsificationReport where
  challengerId := line.manifest.challengerId
  results := [⟨"placebo", [("candidate_artifact_hash", .str line.bound),
    ("evaluation_contract_hash", .str line.bound),
    ("data_manifest_hash", .str line.bound),
    ("replay_hash", .str (line.replay.artifactHash sampleHashing)),
    ("deterministic_seed", .int 7)]⟩]
  mandatoryPassed := true
  createdAt := line.start + 4
  reportHash := line.digest "report"

def comparison : PortfolioComparisonContract where
  comparisonContractId := line.strategyId ++ "-comparison"
  candidateArtifactHash := line.bound
  championPortfolioManifestHash := line.digest "champion-portfolio"
  candidatePortfolioManifestHash := line.digest "candidate-portfolio"
  allocationPolicyHash := line.digest "policy"
  contractHash := line.digest "comparison"
  createdAt := line.start + 5

def oosResult : OosLockboxResultV2 where
  challengerId := line.manifest.challengerId
  experimentFamily := "family"
  submissionNumber := 1
  candidateArtifactHash := line.bound
  evaluationContractHash := line.bound
  verdict := .pass
  commonSessions := 20
  evaluatedAt := line.start + 6
  resultHash := line.digest "oos"
  portfolio := ⟨line.digest "comparison", true, true, 20, some 1, some 1⟩

def execution : ShadowExecutionContract :=
  ⟨line.digest "market", "schedule-v1", "scenario-v1", "cost-v1", "100000", "liquidity-v1"⟩

def arms : ShadowArms where
  champion := some ⟨line.strategyId ++ "-champion-arm", line.parentId, line.parentVersion,
    line.execution⟩
  challenger := some ⟨line.strategyId ++ "-challenger-arm", line.strategyId,
    line.strategyVersion, line.execution⟩

def metrics : PromotionMetrics := ⟨1, 1, 1, 0, 0, 0, 1, 1, 0⟩

def summary : ShadowPerformanceSummaryV2 where
  summaryId := line.strategyId ++ "-summary"
  challengerId := line.manifest.challengerId
  shadowPairId := sampleHashing.stableId "research-shadow-pair" [.str line.manifest.challengerId,
    .str (line.digest "oos"), .str (sampleHashing.canonicalHash line.execution.payload)]
  runId := line.strategyId ++ "-run"
  currentChampionVersion := line.parentVersion
  candidateVersion := line.strategyVersion
  candidateArtifactHash := line.bound
  executionContractHash := sampleHashing.canonicalHash line.execution.payload
  dailyEvidenceHashes := []
  materializedEvidenceHash := line.digest "materialized"
  forwardSessions := 20
  independentTrades := 20
  metrics := metrics
  dataAvailableCutoff := line.start + 7
  createdAt := line.start + 7
  summaryHash := line.digest "summary"
  championPortfolioManifestHash := line.digest "champion-portfolio"
  candidatePortfolioManifestHash := line.digest "candidate-portfolio"
  portfolioComparisonContractHash := line.digest "comparison"
  shadowDeltaSharpeLcb := 1
  shadowWorstCostDeltaSharpeLcb := 1

def evidence : PromotionEvidenceV2 where
  evidenceId := line.strategyId ++ "-evidence"
  challengerId := line.manifest.challengerId
  currentChampionVersion := line.parentVersion
  candidateVersion := line.strategyVersion
  candidateArtifactHash := line.bound
  falsificationReportHash := line.digest "report"
  replayHash := line.digest "replay"
  metrics := metrics
  replayReproducible := true
  mandatoryTestsPassed := true
  dataAvailableCutoff := line.start + 8
  createdAt := line.start + 8
  evidenceHash := line.digest "evidence"
  portfolioComparisonContractHash := line.digest "comparison"
  oosResult := line.oosResult
  shadowSummary := line.summary
  allocationPolicyFixedBeforeOos := true
  portfolioContractBindingValid := true

def thresholds : PromotionEvaluationContractV2 where
  contractVersion := "v1"
  minimumCommonOosSessions := 20
  minimumForwardSessions := 20
  minimumIndependentTrades := 20
  minimumAnnualizedNetExcessReturnAfterCost := 0
  minimumMatchedAnnualizedDifference := 0
  minimumEconomicEffect := 0
  maximumDrawdown := 1
  maximumTailLoss := 1
  maximumAnnualizedTurnover := 1
  minimumCapacityUsd := 0
  minimumRegimePassFraction := 0
  maximumRuntimeErrorRate := 1
  minimumOosDeltaSharpeLcb := 0
  minimumShadowDeltaSharpeLcb := 0
  minimumWorstCostDeltaSharpeLcb := 0

def evaluationId : String :=
  sampleHashing.stableId "trusted-promotion-evaluation-v2" [.str line.manifest.challengerId,
    .str line.evidence.evidenceHash, .str (sampleHashing.canonicalHash thresholds.payload)]

def promotion : PromotionDecision where
  promotionDecisionId := sampleHashing.stableId "promotion-decision-v2"
    [.str line.evaluationId, .str line.evidence.replayHash]
  challengerId := line.manifest.challengerId
  currentChampionVersion := line.parentVersion
  candidateVersion := line.strategyVersion
  verdict := .eligibleRequiresManualApproval
  criteria := evidenceCriteriaV2 line.evidence thresholds
  failedReasonCodes := []
  replayHash := line.evidence.replayHash
  approvedBy := none
  createdAt := line.start + 9
  decisionHash := ""

def evaluation : TrustedPromotionEvaluation :=
  let unsigned : TrustedPromotionEvaluation :=
    { evaluationId := line.evaluationId
      evidenceHash := line.evidence.evidenceHash
      contractHash := sampleHashing.canonicalHash thresholds.payload
      portfolioComparisonContractHash := some line.comparison.contractHash
      decision := { line.promotion with
        decisionHash := sampleHashing.canonicalHash line.promotion.payload }
      createdAt := line.start + 9
      evaluationHash := "" }
  { unsigned with evaluationHash := sampleHashing.canonicalHash unsigned.payload }

def calls : List (LifecycleCall sampleHashing) :=
  let challenger := line.manifest.challengerId
  [.cycle (.create line.request), .cycle (.decision line.decision (line.start + 2)),
    .register line.manifest line.proposal.proposalId, .artifact line.bundle (line.start + 3),
    .replay line.replay, .falsification line.report, .comparison challenger line.comparison,
    .oosResultV2 line.oosResult line.bound line.arms (line.start + 6),
    .startShadow challenger "start" (line.start + 7), .summaryV2 line.summary,
    .evaluationV2 line.evidence thresholds line.evaluation, .approve challenger "operator"
      (line.start + 10),
    .designate ⟨challenger, line.parentVersion, "operator", line.strategyId ++ "-designation",
      line.start + 11⟩]

end SampleLine

/-- A Challenger of the strategy `core` of version `v1`. -/
def firstLine : SampleLine := ⟨"alpha", "v2", "core", "v1", 10⟩

/-- The calls of two Challengers, the second a successor of the strategy `parentId`. -/
def lineCalls (parentId : String) : List (LifecycleCall sampleHashing) :=
  .cycle (.select .codexSolMax "config" 0 5 none) ::
    (firstLine.calls ++ SampleLine.calls ⟨"beta", "v3", parentId, "v2", 100⟩)

theorem clashing_run : ∃ taken s, Run (lifecycleStep sampleHashing) {} taken s ∧
    (∃ row ∈ s.manifests, s.currentStatus row = .promoted) ∧
    ∃ first second, s.designations = [first, second] ∧
      ∀ arm ∈ s.armsOf second.sourceChallengerId, arm.identity.strategyId ≠ first.strategyId := by
  have heval : ((lineCalls "gamma").foldlM (lifecycleStep sampleHashing) {}).toOption.any (fun s =>
      (∃ row ∈ s.manifests, s.currentStatus row = .promoted) ∧ s.designations.length = 2 ∧
      ∀ first ∈ s.designations.head?, ∀ second ∈ s.designations.getLast?,
      ∀ arm ∈ s.armsOf second.sourceChallengerId, arm.identity.strategyId ≠ first.strategyId) =
      true := by
    decide +kernel
  obtain ⟨s, hrun, hs⟩ := exists_of_any heval
  obtain ⟨taken, -, run⟩ := Run.of_foldlM hrun
  obtain ⟨hpromoted, hlength, harms⟩ := of_decide_eq_true hs
  obtain ⟨first, second, hdesignations⟩ := length_eq_two.mp hlength
  exact ⟨taken, s, run, hpromoted, first, second, hdesignations,
    harms first (by simp [hdesignations]) second (by simp [hdesignations])⟩

/-- A Champion, with the evidence behind its status. -/
theorem promoted_after_gate : ∃ taken s row, Run (lifecycleStep sampleHashing) {} taken s ∧
    row ∈ s.manifests ∧ s.currentStatus row = .promoted ∧ PassedGate s row.challengerId ∧
    Promotion s row.challengerId := by
  obtain ⟨taken, s, run, ⟨row, hrow, hpromoted⟩, -⟩ := clashing_run
  obtain ⟨-, -, -, -, hgate, hpromotion⟩ := challenger_gate run hrow
  exact ⟨taken, s, row, run, hrow, hpromoted, hgate (by simp [hpromoted, gated]),
    hpromotion hpromoted⟩

end AdaptiveQuant.ResearchPlane
