import AdaptiveQuant.Persistence.ChallengerPromotion

/-! What an operation on the Challengers can do to the tables. -/

namespace AdaptiveQuant.ResearchPlane

open Guard Sequence List

def PassedTests (store : LifecycleStore) (challengerId artifactHash : String) : Prop :=
  (∃ artifact ∈ store.artifacts, artifact.bundle.challengerId = challengerId ∧
      artifact.bundle.bundleHash = artifactHash) ∧
    (∃ replay ∈ store.replays, replay.challengerId = challengerId ∧
      replay.candidateArtifactHash = artifactHash ∧ replay.deterministicMatch = true) ∧
    ∃ report ∈ store.reports, report.challengerId = challengerId ∧
      report.mandatoryPassed = true ∧ ∃ bindings, falsificationBindings report = .ok bindings ∧
      bindings.candidateArtifactHash = artifactHash

/-- Everything that stands before the shadow of a Challenger, all for one artifact. -/
def PassedGate (store : LifecycleStore) (challengerId : String) : Prop :=
  ∃ artifactHash, PassedTests store challengerId artifactHash ∧
    (∃ oos ∈ store.oosResults, oos.result.challengerId = challengerId ∧
      oos.result.verdict = .pass ∧ oos.result.candidateArtifactHash = artifactHash) ∧
    MatchedPaperPair (store.armsOf challengerId)

/-- Evaluated, approved by hand on the same evidence, and designated. -/
def Promotion (store : LifecycleStore) (challengerId : String) : Prop :=
  ∃ row ∈ store.evaluations, row.challengerId = challengerId ∧
    row.evaluation.decision.verdict = .eligibleRequiresManualApproval ∧
    ∃ manual ∈ store.decisions, manual.challengerId = challengerId ∧
      manual.verdict = .manuallyApproved ∧
      SameCriteria manual.criteria row.evaluation.decision.criteria ∧
      manual.replayHash = row.evaluation.decision.replayHash ∧
      ∃ designation ∈ store.designations, designation.sourceChallengerId = challengerId ∧
        designation.trustedEvaluationId = row.evaluation.evaluationId ∧
        designation.manualApprovalDecisionId = manual.promotionDecisionId

/-- The rows of a store are the first rows of another, in the tables that a status rests on. -/
structure LifecycleGrows (s s' : LifecycleStore) : Prop where
  cycles : Grows s.cycles s'.cycles
  manifests : s.manifests <+: s'.manifests
  artifacts : s.artifacts <+: s'.artifacts
  replays : s.replays <+: s'.replays
  reports : s.reports <+: s'.reports
  comparisons : s.comparisons <+: s'.comparisons
  oosResults : s.oosResults <+: s'.oosResults
  arms : s.arms <+: s'.arms
  summaries : s.summaries <+: s'.summaries
  evaluations : s.evaluations <+: s'.evaluations
  decisions : s.decisions <+: s'.decisions
  designations : s.designations <+: s'.designations
  events : s.events <+: s'.events

theorem LifecycleGrows.refl (s : LifecycleStore) : LifecycleGrows s s :=
  ⟨.refl _, prefix_rfl, prefix_rfl, prefix_rfl, prefix_rfl, prefix_rfl,
    prefix_rfl, prefix_rfl, prefix_rfl, prefix_rfl, prefix_rfl,
    prefix_rfl, prefix_rfl⟩

theorem LifecycleGrows.trans {a b c} (h : LifecycleGrows a b) (h' : LifecycleGrows b c) :
    LifecycleGrows a c :=
  ⟨h.cycles.trans h'.cycles, h.manifests.trans h'.manifests, h.artifacts.trans h'.artifacts,
    h.replays.trans h'.replays, h.reports.trans h'.reports, h.comparisons.trans h'.comparisons,
    h.oosResults.trans h'.oosResults, h.arms.trans h'.arms, h.summaries.trans h'.summaries,
    h.evaluations.trans h'.evaluations, h.decisions.trans h'.decisions,
    h.designations.trans h'.designations, h.events.trans h'.events⟩

variable (s s' : LifecycleStore)

def RegistersPair : Prop :=
  ∃ row proposal champion challenger, s.findManifest row.challengerId = some row ∧
    findProposal s.cycles.proposals row.proposalId = some proposal ∧
    s.armsOf row.challengerId = [] ∧ s'.arms = s.arms ++ [champion, challenger] ∧
    champion.challengerId = row.challengerId ∧ champion.armRole = .champion ∧
    challenger.challengerId = row.challengerId ∧ challenger.armRole = .challenger ∧
    champion.identity.strategyId = proposal.proposal.parentStrategyId ∧
    champion.identity.strategyVersion = proposal.proposal.parentStrategyVersion

def Designates (call : DesignateCall) (row : ManifestRow) : Prop :=
  row.challengerId = call.challengerId ∧ s.findDesignation call.idempotencyKey = none ∧
    s.findManifest row.challengerId = some row ∧ s.currentStatus row = .promotionEligible ∧
    ∃ designation, s'.designations = s.designations ++ [designation] ∧
      designation.sourceChallengerId = row.challengerId ∧
      designation.strategyId = row.manifest.strategyId ∧
      designation.strategyVersion = row.manifest.strategyVersion ∧
      designation.sequence = (s.latestChampionDesignation.elim 0 (·.sequence)) + 1 ∧
      designation.previousDesignationId = s.latestChampionDesignation.map (·.designationId)

def AppendsEvent (event : ChallengerEvent) : Prop :=
  ∃ row, s.findManifest row.challengerId = some row ∧ s'.events = s.events ++ [event] ∧
    event.challengerId = row.challengerId ∧
    event.sequence = ((s.latestEvent row.challengerId).elim 0 (·.sequence)) + 1 ∧
    event.fromStatus = s.currentStatus row ∧ (s.currentStatus row).Moves event.toStatus

def Evaluates : Prop :=
  ∃ row evaluation, s.findManifest row.challengerId = some row ∧
    s.currentStatus row = .shadowRunning ∧ s'.evaluations = s.evaluations ++ [evaluation] ∧
    evaluation.challengerId = row.challengerId

/-- What an operation can do. -/
structure LifecycleEffect (call : Option DesignateCall) (s s' : LifecycleStore) : Prop where
  grows : LifecycleGrows s s'
  started : ∀ row ∈ s'.manifests, row ∈ s.manifests ∨ row.manifest.status = .proposed
  arms : s'.arms = s.arms ∨ RegistersPair s s'
  evaluations : s'.evaluations = s.evaluations ∨ Evaluates s s'
  designations : (s'.designations = s.designations ∧
      ∀ c ∈ call, s.findDesignation c.idempotencyKey ≠ none) ∨ ∃ c ∈ call, ∃ row,
    Designates s s' c row ∧
    ∃ event ∈ s'.events, event.challengerId = row.challengerId ∧ event.toStatus = .promoted
  events : s'.events = s.events ∨ ∃ event, AppendsEvent s s' event ∧
    (event.toStatus = .shadowPending → PassedGate s' event.challengerId) ∧
    (event.toStatus = .promoted → Promotion s' event.challengerId)

theorem LifecycleEffect.quiet {s s'} (grows : LifecycleGrows s s')
    (manifests : s'.manifests = s.manifests) (arms : s'.arms = s.arms)
    (evaluations : s'.evaluations = s.evaluations) (designations : s'.designations = s.designations)
    (events : s'.events = s.events) :
    LifecycleEffect none s s' where
  grows := grows
  started := fun _ hrow => .inl (manifests ▸ hrow)
  arms := .inl arms
  evaluations := .inl evaluations
  designations := .inl ⟨designations, nofun⟩
  events := .inl events

theorem LifecycleEffect.refl (s : LifecycleStore) : LifecycleEffect none s s :=
  .quiet (.refl s) rfl rfl rfl rfl rfl

variable {hash : Hashing} {s s₁ s' : LifecycleStore} {row : ManifestRow} {created : Bool}

theorem challengerForUpdate_eq_ok {challengerId : String} :
    s.challengerForUpdate challengerId = .ok row ↔ s.findManifest challengerId = some row := by
  unfold LifecycleStore.challengerForUpdate
  cases s.findManifest challengerId with
  | none => simp
  | some found => simp

theorem challengerId_of_find {challengerId : String} (h : s.findManifest challengerId = some row) :
    row.challengerId = challengerId := by
  simpa using List.find?_some h

theorem appendChallengerTransition_cases {change}
    (h : appendChallengerTransition hash s row change = .ok (created, s')) :
    (created = false ∧ s' = s ∧ ∃ event,
      s.findEventKey row.challengerId change.idempotencyKey = some event ∧
        event.toStatus = change.toStatus) ∨
    (created = true ∧ s.findEventKey row.challengerId change.idempotencyKey = none ∧
      (s.currentStatus row).Moves change.toStatus ∧
      s' = { s with events := s.events ++ [nextEvent hash s row change] }) := by
  unfold appendChallengerTransition at h
  cases hkey : s.findEventKey row.challengerId change.idempotencyKey with
  | some event =>
    simp only [hkey, ok_iff, Prod.mk.injEq, not_not] at h
    obtain ⟨hstatus, rfl, rfl⟩ := h
    exact .inl ⟨rfl, rfl, event, rfl, hstatus⟩
  | none =>
    simp only [hkey, ok_iff, Prod.mk.injEq, not_not] at h
    obtain ⟨hmove, events, hinsert, rfl, rfl⟩ := h
    obtain ⟨rfl, -⟩ := insertUnique_ok hinsert
    exact .inr ⟨rfl, rfl, hmove, rfl⟩

theorem nextEvent_sequence {change} : (nextEvent hash s row change).sequence =
    ((s.latestEvent row.challengerId).elim 0 (·.sequence)) + 1 := by
  unfold nextEvent
  cases s.latestEvent row.challengerId with
  | none => rfl
  | some latest => rfl

theorem LifecycleEffect.of_append {call change}
    (h : appendChallengerTransition hash s₁ row change = .ok (created, s'))
    (hrow : s.findManifest row.challengerId = some row) (grows : LifecycleGrows s s₁)
    (manifests : s₁.manifests = s.manifests) (hevents : s₁.events = s.events)
    (arms : s₁.arms = s.arms ∨ RegistersPair s s₁)
    (evaluations : s₁.evaluations = s.evaluations ∨ Evaluates s s₁)
    (designations : (s₁.designations = s.designations ∧
        ∀ c ∈ call, s.findDesignation c.idempotencyKey ≠ none) ∨
      change.toStatus = .promoted ∧ ∃ c ∈ call, Designates s s₁ c row)
    (gate : change.toStatus = .shadowPending → PassedGate s₁ row.challengerId)
    (promotion : change.toStatus = .promoted → Promotion s₁ row.challengerId) :
    LifecycleEffect call s s' := by
  have hstatus : s₁.currentStatus row = s.currentStatus row := by
    unfold LifecycleStore.currentStatus LifecycleStore.latestEvent LifecycleStore.eventsOf
    rw [hevents]
  have hsequence : (nextEvent hash s₁ row change).sequence =
      ((s.latestEvent row.challengerId).elim 0 (·.sequence)) + 1 := by
    rw [nextEvent_sequence]
    unfold LifecycleStore.latestEvent LifecycleStore.eventsOf
    rw [hevents]
  rcases appendChallengerTransition_cases h with ⟨-, rfl, event, hkey, hto⟩ | ⟨-, -, hmove, rfl⟩
  · refine ⟨grows, fun old hold => .inl (manifests ▸ hold), arms, evaluations, ?_,
      .inl hevents⟩
    refine designations.imp_right fun ⟨hpromoted, c, hc, hdesignates⟩ =>
      ⟨c, hc, row, hdesignates, event, ?_⟩
    have hfound := List.find?_some hkey
    have hmem := mem_of_find?_eq_some hkey
    simp only [decide_eq_true_eq] at hfound
    exact ⟨hmem, hfound.1, hto.trans hpromoted⟩
  · refine ⟨grows.trans { LifecycleGrows.refl s₁ with events := prefix_append _ _ },
      fun old hold => .inl (manifests ▸ hold), arms, evaluations, ?_,
      .inr ⟨nextEvent hash s₁ row change, ?_⟩⟩
    · refine designations.imp_right fun ⟨hpromoted, c, hc, hdesignates⟩ =>
        ⟨c, hc, row, hdesignates, ?_⟩
      exact ⟨nextEvent hash s₁ row change, by simp, rfl, hpromoted⟩
    · refine ⟨⟨row, hrow, by simp [hevents], rfl, hsequence, hstatus, hstatus ▸ hmove⟩, ?_⟩
      exact ⟨fun hpending => gate hpending, fun hpromoted => promotion hpromoted⟩

/-- The tables as they are, or with one transition more that is about neither the shadow pair nor
the Champion. -/
def MayMove (hash : Hashing) (row : ManifestRow) (s s' : LifecycleStore) : Prop :=
  s' = s ∨ ∃ change created, appendChallengerTransition hash s row change = .ok (created, s') ∧
    change.toStatus ≠ .shadowPending ∧ change.toStatus ≠ .promoted

theorem MayMove.tables (h : MayMove hash row s s') :
    s'.replays = s.replays ∧ s'.reports = s.reports := by
  obtain rfl | ⟨change, created, happend, -⟩ := h
  · exact ⟨rfl, rfl⟩
  · rcases appendChallengerTransition_cases happend with ⟨-, rfl, -⟩ | ⟨-, -, -, rfl⟩
    · exact ⟨rfl, rfl⟩
    · exact ⟨rfl, rfl⟩

theorem LifecycleEffect.of_mayMove (h : MayMove hash row s₁ s')
    (hrow : s.findManifest row.challengerId = some row) (grows : LifecycleGrows s s₁)
    (manifests : s₁.manifests = s.manifests) (arms : s₁.arms = s.arms)
    (evaluations : s₁.evaluations = s.evaluations)
    (designations : s₁.designations = s.designations) (events : s₁.events = s.events) :
    LifecycleEffect none s s' := by
  obtain rfl | ⟨change, created, happend, hpending, hpromoted⟩ := h
  · exact .quiet grows manifests arms evaluations designations events
  · exact .of_append happend hrow grows manifests events (.inl arms) (.inl evaluations)
      (.inl ⟨designations, nofun⟩) (fun heq => absurd heq hpending) fun heq => absurd heq hpromoted

theorem LifecycleEffect.of_move {change} (hrow : s.findManifest row.challengerId = some row)
    (h : appendChallengerTransition hash s row change = .ok (created, s'))
    (hpending : change.toStatus ≠ .shadowPending) (hpromoted : change.toStatus ≠ .promoted) :
    LifecycleEffect none s s' :=
  .of_mayMove (.inr ⟨change, created, h, hpending, hpromoted⟩) hrow (.refl s) rfl rfl rfl rfl rfl

theorem registerChallenger_effect {manifest} {proposalId : String}
    (h : registerChallenger s manifest proposalId = .ok (created, s')) :
    LifecycleEffect none s s' := by
  simp only [registerChallenger, ok_iff, not_not] at h
  obtain ⟨hproposed, h⟩ := h
  cases hproposal : findProposal s.cycles.proposals proposalId with
  | none => simp [hproposal] at h
  | some proposal =>
    cases hcycle : s.cycles.findCycle proposal.researchCycleId with
    | none => simp [hproposal, hcycle] at h
    | some cycle =>
      simp only [hproposal, hcycle, bind_eq_ok] at h
      obtain ⟨-, -, h⟩ := h
      cases hfind : s.findManifest manifest.challengerId with
      | some existing =>
        simp only [hfind, ok_iff, Prod.mk.injEq] at h
        obtain ⟨-, -, rfl⟩ := h
        exact .refl s
      | none =>
        simp only [hfind, ok_iff, Prod.mk.injEq, orConflict_eq_ok] at h
        obtain ⟨-, manifests, hinsert, -, rfl⟩ := h
        obtain ⟨rfl, -⟩ := insertUnique_ok hinsert
        refine ⟨{ LifecycleGrows.refl s with manifests := prefix_append _ _ }, ?_, .inl rfl,
          .inl rfl, .inl ⟨rfl, nofun⟩, .inl rfl⟩
        intro row hrow
        rcases mem_append.mp hrow with hrow | hrow
        · exact .inl hrow
        · obtain rfl := mem_singleton.mp hrow
          exact .inr hproposed

variable {createdAt : Instant}

theorem registerCandidateArtifact_cases {bundle}
    (h : registerCandidateArtifact s bundle createdAt = .ok (created, s')) :
    ∃ row, s.findManifest bundle.challengerId = some row ∧
      ((s' = s ∧ ∃ existing,
          (s.findBundle bundle.bundleId).or (s.findArtifact bundle.challengerId) = some existing ∧
          existing.bundle.bundleId = bundle.bundleId ∧
          existing.bundle.challengerId = bundle.challengerId ∧
          existing.bundle.bundleHash = bundle.bundleHash ∧
          validateStoredCandidateArtifact bundle existing = .ok ()) ∨
        (s.findBundle bundle.bundleId = none ∧
          s' = { s with artifacts := s.artifacts ++ [⟨row.proposalId, bundle, createdAt⟩] })) := by
  simp only [registerCandidateArtifact, bind_eq_ok, challengerForUpdate_eq_ok] at h
  obtain ⟨row, hrow, h⟩ := h
  refine ⟨row, hrow, ?_⟩
  cases hfind : (s.findBundle bundle.bundleId).or (s.findArtifact bundle.challengerId) with
  | some existing =>
    simp only [hfind, ok_iff, Prod.mk.injEq, not_or, not_not] at h
    obtain ⟨⟨hid, hchallenger, hhash⟩, ⟨⟩, hstored, -, rfl⟩ := h
    exact .inl ⟨rfl, existing, rfl, hid, hchallenger, hhash, hstored⟩
  | none =>
    cases hproposal : findProposal s.cycles.proposals row.proposalId with
    | none => simp [hfind, hproposal] at h
    | some proposal =>
      cases hcycle : s.cycles.findCycle proposal.researchCycleId with
      | none => simp [hfind, hproposal, hcycle] at h
      | some cycle =>
        simp only [hfind, hproposal, hcycle, ok_iff, Prod.mk.injEq, orConflict_eq_ok] at h
        obtain ⟨-, -, -, -, artifacts, hinsert, -, rfl⟩ := h
        obtain ⟨rfl, -⟩ := insertUnique_ok hinsert
        exact .inr ⟨(Option.or_eq_none_iff.mp hfind).1, rfl⟩

theorem registerCandidateArtifact_effect {bundle}
    (h : registerCandidateArtifact s bundle createdAt = .ok (created, s')) :
    LifecycleEffect none s s' := by
  obtain ⟨row, -, ⟨rfl, -⟩ | ⟨-, rfl⟩⟩ := registerCandidateArtifact_cases h
  · exact .refl s'
  · exact .quiet { LifecycleGrows.refl s with artifacts := prefix_append _ _ } rfl rfl rfl
      rfl rfl

theorem recordCandidateTestFailure_effect {failure}
    (h : recordCandidateTestFailure hash s failure = .ok (created, s')) :
    LifecycleEffect none s s' := by
  simp only [recordCandidateTestFailure, bind_eq_ok, challengerForUpdate_eq_ok] at h
  obtain ⟨row, hrow, h⟩ := h
  cases hproposal : findProposal s.cycles.proposals row.proposalId with
  | none => simp [hproposal] at h
  | some proposal =>
    simp only [hproposal, ok_iff] at h
    obtain ⟨-, -, -, -, -, h⟩ := h
    rw [← challengerId_of_find hrow] at hrow
    exact .of_move hrow h nofun nofun

theorem storeComparisonContract_effect {challengerId : String} {contract}
    (h : storeComparisonContract s challengerId contract = .ok (created, s')) :
    LifecycleEffect none s s' := by
  simp only [storeComparisonContract, ok_iff] at h
  obtain ⟨-, -, h⟩ := h
  cases hfind : s.comparisons.find? fun row =>
      row.contract.comparisonContractId = contract.comparisonContractId with
  | some existing =>
    simp only [hfind, ok_iff, Prod.mk.injEq] at h
    obtain ⟨-, -, -, rfl⟩ := h
    exact .refl s
  | none =>
    simp only [hfind, ok_iff] at h
    obtain ⟨-, -, h⟩ := h
    cases hinsert : insertUnique comparisonConflict s.comparisons ⟨challengerId, contract⟩ with
    | error failure => simp [hinsert] at h
    | ok comparisons =>
      simp only [hinsert, pure_eq_ok, Prod.mk.injEq] at h
      obtain ⟨-, rfl⟩ := h
      obtain ⟨rfl, -⟩ := insertUnique_ok hinsert
      exact .quiet { LifecycleGrows.refl s with comparisons := prefix_append _ _ } rfl rfl rfl
        rfl rfl

theorem transitionChallenger_effect {challengerId : String} {change}
    (h : transitionChallenger hash s challengerId change = .ok (created, s')) :
    LifecycleEffect none s s' := by
  simp only [transitionChallenger, ok_iff, challengerForUpdate_eq_ok] at h
  obtain ⟨hgated, row, hrow, h⟩ := h
  rw [← challengerId_of_find hrow] at hrow
  refine .of_move hrow h ?_ ?_
  · intro hpending
    exact hgated (by simp [hpending, ChallengerStatus.lifecycleGated])
  · intro hpromoted
    exact hgated (by simp [hpromoted, ChallengerStatus.lifecycleGated])

theorem recordReplayArtifact_cases {artifact}
    (h : recordReplayArtifact hash s artifact = .ok (created, s')) :
    ∃ row candidate, s.findManifest artifact.challengerId = some row ∧
      requireRegisteredCandidateArtifact s artifact.challengerId
        (some artifact.candidateArtifactHash) = .ok candidate ∧
      ((s' = s ∧ ∃ existing, s.findReplay artifact.challengerId = some existing ∧
          existing.artifactHash hash = artifact.artifactHash hash) ∨
        (s.findReplay artifact.challengerId = none ∧
          MayMove hash row { s with replays := s.replays ++ [artifact] } s')) := by
  simp only [recordReplayArtifact, bind_eq_ok, challengerForUpdate_eq_ok] at h
  obtain ⟨row, hrow, candidate, hcandidate, h⟩ := h
  refine ⟨row, candidate, hrow, hcandidate, ?_⟩
  cases hfind : s.findReplay artifact.challengerId with
  | some existing =>
    simp only [hfind, ok_iff, Prod.mk.injEq, not_not] at h
    obtain ⟨hsame, -, rfl⟩ := h
    exact .inl ⟨rfl, existing, rfl, hsame⟩
  | none =>
    simp only [hfind, ok_iff] at h
    obtain ⟨-, -, replays, hinsert, h⟩ := h
    obtain ⟨rfl, -⟩ := insertUnique_ok hinsert
    refine .inr ⟨rfl, ?_⟩
    split at h
    · simp only [pure_eq_ok, Prod.mk.injEq] at h
      exact .inl h.2.symm
    · simp only [ok_iff, Prod.exists, Prod.mk.injEq] at h
      obtain ⟨changed, store, happend, -, rfl⟩ := h
      exact .inr ⟨_, changed, happend, by simp, by simp⟩

theorem recordReplayArtifact_effect {artifact}
    (h : recordReplayArtifact hash s artifact = .ok (created, s')) : LifecycleEffect none s s' := by
  obtain ⟨row, candidate, hrow, -, ⟨rfl, -⟩ | ⟨-, hmove⟩⟩ := recordReplayArtifact_cases h
  · exact .refl s'
  · rw [← challengerId_of_find hrow] at hrow
    exact .of_mayMove hmove hrow { LifecycleGrows.refl s with replays := prefix_append _ _ }
      rfl rfl rfl rfl rfl

theorem recordFalsificationReport_cases {report}
    (h : recordFalsificationReport hash s report = .ok (created, s')) :
    ∃ row candidate replay, s.findManifest report.challengerId = some row ∧
      requireRegisteredCandidateArtifact s report.challengerId none = .ok candidate ∧
      s.findMatchingReplay report.challengerId candidate.bundleHash = some replay ∧
      requireFalsificationBindings report candidate.bundleHash replay.dataManifestHash
        (replay.artifactHash hash) none = .ok () ∧
      ((s' = s ∧ ∃ existing, s.findReport report.challengerId = some existing ∧
          existing.reportHash = report.reportHash) ∨
        (s.findReport report.challengerId = none ∧
          MayMove hash row { s with reports := s.reports ++ [report] } s')) := by
  simp only [recordFalsificationReport, bind_eq_ok, challengerForUpdate_eq_ok] at h
  obtain ⟨row, hrow, candidate, hcandidate, h⟩ := h
  cases hreplay : s.findMatchingReplay report.challengerId candidate.bundleHash with
  | none => simp [hreplay] at h
  | some replay =>
    simp only [hreplay, bind_eq_ok] at h
    obtain ⟨⟨⟩, hbindings, h⟩ := h
    refine ⟨row, candidate, replay, hrow, hcandidate, hreplay, hbindings, ?_⟩
    cases hfind : s.findReport report.challengerId with
    | some existing =>
      simp only [hfind, ok_iff, Prod.mk.injEq, not_not] at h
      obtain ⟨hsame, -, rfl⟩ := h
      exact .inl ⟨rfl, existing, rfl, hsame⟩
    | none =>
      simp only [hfind, ok_iff] at h
      obtain ⟨-, reports, hinsert, h⟩ := h
      obtain ⟨rfl, -⟩ := insertUnique_ok hinsert
      refine .inr ⟨rfl, ?_⟩
      split at h
      · simp only [pure_eq_ok, Prod.mk.injEq] at h
        exact .inl h.2.symm
      · simp only [ok_iff, Prod.exists, Prod.mk.injEq] at h
        obtain ⟨changed, store, happend, -, rfl⟩ := h
        exact .inr ⟨_, changed, happend, by simp, by simp⟩

theorem recordFalsificationReport_effect {report}
    (h : recordFalsificationReport hash s report = .ok (created, s')) :
    LifecycleEffect none s s' := by
  obtain ⟨row, candidate, replay, hrow, -, -, -, ⟨rfl, -⟩ | ⟨-, hmove⟩⟩ :=
    recordFalsificationReport_cases h
  · exact .refl s'
  · rw [← challengerId_of_find hrow] at hrow
    exact .of_mayMove hmove hrow { LifecycleGrows.refl s with reports := prefix_append _ _ }
      rfl rfl rfl rfl rfl

theorem startShadowEvaluation_effect {challengerId idempotencyKey : String}
    (h : startShadowEvaluation hash s challengerId idempotencyKey createdAt = .ok (created, s')) :
    LifecycleEffect none s s' := by
  simp only [startShadowEvaluation, ok_iff, challengerForUpdate_eq_ok] at h
  obtain ⟨row, hrow, -, h⟩ := h
  rw [← challengerId_of_find hrow] at hrow
  exact .of_move hrow h (by simp) (by simp)

theorem mismatches_eq_nil {bindings} :
    mismatches bindings = [] ↔ ∀ binding ∈ bindings, binding.2 = true := by
  simp [mismatches, filter_eq_nil_iff]

theorem requireRegisteredCandidateArtifact_ok {challengerId artifactHash : String} {bundle}
    (h : requireRegisteredCandidateArtifact s challengerId (some artifactHash) = .ok bundle) :
    ∃ row ∈ s.artifacts, row.bundle = bundle ∧ bundle.challengerId = challengerId ∧
      bundle.bundleHash = artifactHash := by
  unfold requireRegisteredCandidateArtifact at h
  split at h
  · cases h
  · rename_i row hfind
    obtain rfl : row.bundle = bundle := by simpa using h
    have hfound := List.find?_some hfind
    simp only [Option.all_some, decide_eq_true_eq, Bool.decide_and, Bool.and_eq_true] at hfound
    exact ⟨row, mem_of_find?_eq_some hfind, rfl, hfound.1, hfound.2⟩

variable {contractHash : Option String}

theorem requireFalsificationBindings_ok {report : FalsificationReport}
    {artifactHash dataHash replayHash : String}
    (h : requireFalsificationBindings report artifactHash dataHash replayHash contractHash =
      .ok ()) :
    ∃ bindings, falsificationBindings report = .ok bindings ∧
      bindings.candidateArtifactHash = artifactHash := by
  simp only [requireFalsificationBindings, ok_iff, not_not, mismatches_eq_nil] at h
  obtain ⟨bindings, hbindings, hmatch⟩ := h
  exact ⟨bindings, hbindings, by simpa using hmatch _ mem_cons_self⟩

theorem registerShadowPair_ok {challengerId oosResultId resultHash : String}
    {champion challenger : ShadowArmIdentity}
    (h : registerShadowPair hash s challengerId oosResultId resultHash champion challenger
      createdAt = .ok s') :
    ∃ first second, s' = { s with arms := s.arms ++ [first, second] } ∧
      first.challengerId = challengerId ∧ first.armRole = .champion ∧
      second.challengerId = challengerId ∧ second.armRole = .challenger ∧
      first.identity = champion ∧ s.armsOf challengerId = [] ∧
        MatchedPaperPair [first, second] := by
  simp only [registerShadowPair, ok_iff] at h
  obtain ⟨arms, hfirst, arms', hsecond, rfl⟩ := h
  obtain ⟨rfl, hchampion⟩ := insertUnique_ok hfirst
  obtain ⟨rfl, hchallenger⟩ := insertUnique_ok hsecond
  refine ⟨_, _, by rw [append_assoc]; rfl, rfl, rfl, rfl, rfl, rfl, ?_, ?_⟩
  · -- an arm of either role that is there already is in conflict with one of the two
    refine filter_eq_nil_iff.mpr fun arm harm hid => ?_
    have hfree := of_decide_eq_false (hchampion arm harm)
    have hfree' := of_decide_eq_false (hchallenger arm (mem_append_left _ harm))
    have hsame : arm.challengerId = challengerId := of_decide_eq_true hid
    cases hrole : arm.armRole with
    | champion => exact hfree (.inr (.inr (.inl ⟨hsame, hrole⟩)))
    | challenger => exact hfree' (.inr (.inr (.inl ⟨hsame, hrole⟩)))
  · exact ⟨rfl, ⟨_, mem_cons_self, rfl⟩,
      ⟨_, mem_cons_of_mem _ mem_cons_self, rfl⟩,
      by simp [shadowArmRow, dedup_cons_of_mem],
      by simp [shadowArmRow, dedup_cons_of_mem], by simp [shadowArmRow]⟩

theorem validateShadowPair_ok {champion challenger}
    (h : validateShadowPair s row champion challenger = .ok ()) :
    ∃ proposal, findProposal s.cycles.proposals row.proposalId = some proposal ∧
      champion.strategyId = proposal.proposal.parentStrategyId ∧
      champion.strategyVersion = proposal.proposal.parentStrategyVersion := by
  simp only [validateShadowPair, bind_eq_ok] at h
  obtain ⟨-, -, -, -, h⟩ := h
  cases hproposal : findProposal s.cycles.proposals row.proposalId with
  | none => simp [hproposal] at h
  | some proposal =>
    simp only [hproposal, raiseIf_eq_ok, not_or, not_not] at h
    exact ⟨proposal, rfl, h⟩

theorem applyOosGate_effect {texts : OosTexts} {resultRow} {arms : ShadowArms}
    (hrow : s.findManifest row.challengerId = some row)
    (hid : resultRow.result.challengerId = row.challengerId)
    (htests : PassedTests s row.challengerId resultRow.result.candidateArtifactHash)
    (h : applyOosGate hash texts s row resultRow arms = .ok (created, s')) :
    LifecycleEffect none s s' := by
  simp only [applyOosGate] at h
  split at h
  · simp only [ok_iff, Prod.mk.injEq] at h
    obtain ⟨-, -, rfl⟩ := h
    exact .refl s
  · simp only [ok_iff] at h
    obtain ⟨-, h⟩ := h
    split at h
    · rename_i champion challenger hverdict _ _
      simp only [ok_iff, Prod.exists, Prod.mk.injEq] at h
      obtain ⟨⟨⟩, hpair, oosResults, hinsert, store, hregister, changed, final, happend, -, rfl⟩ :=
        h
      obtain ⟨rfl, -⟩ := insertUnique_ok hinsert
      obtain ⟨proposal, hproposal, hparent⟩ := validateShadowPair_ok hpair
      obtain ⟨first, second, rfl, hfirst, hrole, hsecond, hrole', hchampion, hnone, hmatched⟩ :=
        registerShadowPair_ok hregister
      refine .of_append happend hrow ?_ rfl rfl (.inr ?_) (.inl rfl) (.inl ⟨rfl, by simp⟩)
        (fun _ => ?_)
        (by simp)
      · exact { LifecycleGrows.refl s with
          oosResults := prefix_append _ _, arms := prefix_append _ _ }
      · exact ⟨row, proposal, first, second, hrow, hproposal, hnone, rfl, hfirst, hrole, hsecond,
          hrole', hchampion ▸ hparent.1, hchampion ▸ hparent.2⟩
      · refine ⟨_, htests, ⟨resultRow, by simp, hid, hverdict, rfl⟩, ?_⟩
        have harms : LifecycleStore.armsOf { s with
            oosResults := s.oosResults ++ [resultRow], arms := s.arms ++ [first, second] }
            row.challengerId = [first, second] := by
          have hbefore : s.arms.filter (·.challengerId = row.challengerId) = [] := hnone
          simp [LifecycleStore.armsOf, filter_append, hbefore, hfirst, hsecond]
        rw [harms]
        exact hmatched
    · simp at h
    · simp only [ok_iff, Prod.exists, Prod.mk.injEq] at h
      obtain ⟨oosResults, hinsert, changed, final, happend, -, rfl⟩ := h
      obtain ⟨rfl, -⟩ := insertUnique_ok hinsert
      refine .of_append happend hrow ?_ rfl rfl (.inl rfl) (.inl rfl) (.inl ⟨rfl, by simp⟩)
        (by simp)
        (by simp)
      exact { LifecycleGrows.refl s with oosResults := prefix_append _ _ }
    · simp at h

theorem passedTests_of_found {challengerId artifactHash : String}
    {candidate : CandidateArtifactBundle} {report : FalsificationReport} {replay : ReplayArtifact}
    {dataHash replayHash : String}
    (hcandidate : requireRegisteredCandidateArtifact s challengerId (some artifactHash) =
      .ok candidate)
    (hreport : s.findPassedReport challengerId = some report)
    (hreplay : s.findMatchingReplay challengerId artifactHash = some replay)
    (hbindings : requireFalsificationBindings report candidate.bundleHash dataHash replayHash
      contractHash = .ok ()) : PassedTests s challengerId artifactHash := by
  obtain ⟨artifact, hartifact, rfl, hid, rfl⟩ := requireRegisteredCandidateArtifact_ok hcandidate
  have hpassed := List.find?_some hreport
  have hmatch := List.find?_some hreplay
  simp only [decide_eq_true_eq, Bool.decide_and, Bool.and_eq_true] at hpassed hmatch
  refine ⟨⟨artifact, hartifact, hid, rfl⟩, ⟨replay, mem_of_find?_eq_some hreplay, ?_⟩,
    report, mem_of_find?_eq_some hreport, hpassed.1, ?_, requireFalsificationBindings_ok
      hbindings⟩
  · simpa using hmatch
  · simpa using hpassed.2

theorem storeOosResult_effect {result} {artifactHash : String} {arms : ShadowArms}
    (h : storeOosResult hash s result artifactHash arms createdAt = .ok (created, s')) :
    LifecycleEffect none s s' := by
  simp only [storeOosResult, ok_iff, not_not, challengerForUpdate_eq_ok] at h
  obtain ⟨rfl, row, hrow, candidate, hcandidate, h⟩ := h
  have hid := challengerId_of_find hrow
  cases hreport : s.findPassedReport result.challengerId with
  | none => simp [hreport] at h
  | some report =>
    cases hreplay : s.findMatchingReplay result.challengerId result.candidateArtifactHash with
    | none => simp [hreport, hreplay] at h
    | some replay =>
      simp only [hreport, hreplay, ok_iff] at h
      obtain ⟨⟨⟩, hbindings, -, h⟩ := h
      have htests := passedTests_of_found hcandidate hreport hreplay hbindings
      rw [← hid] at hrow htests
      exact applyOosGate_effect hrow hid.symm htests h

theorem storeOosResultV2_effect {result} {artifactHash : String} {arms : ShadowArms}
    (h : storeOosResultV2 hash s result artifactHash arms createdAt = .ok (created, s')) :
    LifecycleEffect none s s' := by
  simp only [storeOosResultV2, ok_iff, not_not, challengerForUpdate_eq_ok] at h
  obtain ⟨rfl, row, hrow, candidate, hcandidate, h⟩ := h
  have hid := challengerId_of_find hrow
  split at h
  · simp at h
  · simp only [ok_iff] at h
    obtain ⟨-, h⟩ := h
    split at h
    · rename_i report replay hreport hreplay
      simp only [ok_iff] at h
      obtain ⟨⟨⟩, hbindings, -, h⟩ := h
      have htests := passedTests_of_found hcandidate hreport hreplay hbindings
      rw [← hid] at hrow htests
      exact applyOosGate_effect hrow hid.symm htests h
    · simp at h

end AdaptiveQuant.ResearchPlane
