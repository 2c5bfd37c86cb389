import AdaptiveQuant.Persistence.ChallengerEffects

/-! What the operations on the promotion of a Challenger do to the tables, and
`lifecycleStep_effect`: every call of the repository has the effect of one of them. -/

namespace AdaptiveQuant.ResearchPlane

open Guard Sequence List

variable {hash : Hashing} {s s' : LifecycleStore} {row : ManifestRow} {created : Bool}

def KeepsSummary (s : LifecycleStore) (summary : StoredSummary) (s' : LifecycleStore) : Prop :=
  (s' = s ∧ ∃ existing, s.findSummary summary.base.summaryId = some existing ∧
    existing.base.summaryHash = summary.base.summaryHash) ∨
  (s.findSummary summary.base.summaryId = none ∧
    s' = { s with summaries := s.summaries ++ [summary] })

theorem LifecycleEffect.of_summary {summary} (h : KeepsSummary s summary s') :
    LifecycleEffect none s s' := by
  obtain ⟨rfl, -⟩ | ⟨-, rfl⟩ := h
  · exact .refl s'
  · exact .quiet { LifecycleGrows.refl s with summaries := prefix_append _ _ } rfl rfl rfl
      rfl rfl

theorem recordShadowPerformanceSummary_cases {evidence summary}
    (h : recordShadowPerformanceSummary hash s evidence summary = .ok (created, s')) :
    (∃ row, s.findManifest summary.challengerId = some row) ∧
      KeepsSummary s (.v1 summary) s' := by
  simp only [recordShadowPerformanceSummary, bind_eq_ok, challengerForUpdate_eq_ok] at h
  obtain ⟨row, hrow, h⟩ := h
  refine ⟨⟨row, hrow⟩, ?_⟩
  cases hfind : s.findSummary summary.summaryId with
  | some existing =>
    simp only [hfind, ok_iff, Prod.mk.injEq, not_not] at h
    obtain ⟨hsame, -, rfl⟩ := h
    exact .inl ⟨rfl, existing, hfind, hsame⟩
  | none =>
    simp only [hfind, ok_iff, Prod.mk.injEq] at h
    obtain ⟨-, -, -, summaries, hinsert, -, rfl⟩ := h
    obtain ⟨rfl, -⟩ := insertUnique_ok hinsert
    exact .inr ⟨hfind, rfl⟩

theorem recordShadowPerformanceSummary_effect {evidence summary}
    (h : recordShadowPerformanceSummary hash s evidence summary = .ok (created, s')) :
    LifecycleEffect none s s' :=
  .of_summary (recordShadowPerformanceSummary_cases h).2

theorem recordShadowPerformanceSummaryV2_cases {summary}
    (h : recordShadowPerformanceSummaryV2 s summary = .ok (created, s')) :
    (∃ row, s.findManifest summary.challengerId = some row) ∧
      KeepsSummary s (.v2 summary) s' := by
  simp only [recordShadowPerformanceSummaryV2, bind_eq_ok, challengerForUpdate_eq_ok] at h
  obtain ⟨row, hrow, h⟩ := h
  refine ⟨⟨row, hrow⟩, ?_⟩
  cases hfind : s.findSummary summary.summaryId with
  | some existing =>
    simp only [hfind, ok_iff, Prod.mk.injEq, not_not] at h
    obtain ⟨hsame, -, rfl⟩ := h
    exact .inl ⟨rfl, existing, hfind, hsame⟩
  | none =>
    simp only [hfind, ok_iff] at h
    obtain ⟨-, h⟩ := h
    split at h
    · simp at h
    · simp only [ok_iff] at h
      obtain ⟨-, -, h⟩ := h
      split at h
      · simp at h
      · split at h
        · simp at h
        · simp only [ok_iff, Prod.mk.injEq] at h
          obtain ⟨-, summaries, hinsert, -, rfl⟩ := h
          obtain ⟨rfl, -⟩ := insertUnique_ok hinsert
          exact .inr ⟨hfind, rfl⟩

theorem recordShadowPerformanceSummaryV2_effect {summary}
    (h : recordShadowPerformanceSummaryV2 s summary = .ok (created, s')) :
    LifecycleEffect none s s' :=
  .of_summary (recordShadowPerformanceSummaryV2_cases h).2

theorem addPromotionDecision_ok {decision} (h : addPromotionDecision s decision = .ok s') :
    s' = { s with decisions := s.decisions ++ [decision] } := by
  simp only [addPromotionDecision, ok_iff] at h
  obtain ⟨decisions, hinsert, rfl⟩ := h
  obtain ⟨rfl, -⟩ := insertUnique_ok hinsert
  rfl

theorem storeEvaluation_effect {texts evidenceRow evaluation}
    (hrow : s.findManifest row.challengerId = some row)
    (hstatus : s.currentStatus row = .shadowRunning)
    (h : storeEvaluation hash texts s row evidenceRow evaluation = .ok (created, s')) :
    LifecycleEffect none s s' := by
  simp only [storeEvaluation, bind_eq_ok] at h
  obtain ⟨evidenceRows, -, store, hdecision, evaluations, hinsert, h⟩ := h
  obtain rfl := addPromotionDecision_ok hdecision
  obtain ⟨rfl, -⟩ := insertUnique_ok hinsert
  split at h
  · simp only [ok_iff, Prod.exists, Prod.mk.injEq] at h
    obtain ⟨changed, store, happend, -, rfl⟩ := h
    refine .of_append happend hrow ?_ rfl rfl (.inl rfl) (.inr ?_) (.inl ⟨rfl, by simp⟩) (by simp)
      (by simp)
    · exact { LifecycleGrows.refl s with
        decisions := prefix_append _ _, evaluations := prefix_append _ _ }
    · exact ⟨row, _, hrow, hstatus, rfl, rfl⟩
  · simp only [pure_eq_ok, Prod.mk.injEq] at h
    obtain ⟨-, rfl⟩ := h
    refine ⟨?_, fun _ hrow => .inl hrow, .inl rfl, .inr ?_, .inl ⟨rfl, by simp⟩, .inl rfl⟩
    · exact { LifecycleGrows.refl s with
        decisions := prefix_append _ _, evaluations := prefix_append _ _ }
    · exact ⟨row, _, hrow, hstatus, rfl, rfl⟩

theorem recordTrustedPromotionEvaluation_effect {daily : DailyEvidence hash}
    {evidence : PromotionEvidenceV1} {contract : PromotionThresholds}
    {evaluation : TrustedPromotionEvaluation}
    (h : recordTrustedPromotionEvaluation hash s daily evidence contract evaluation =
      .ok (created, s')) : LifecycleEffect none s s' := by
  simp only [recordTrustedPromotionEvaluation, ok_iff, challengerForUpdate_eq_ok] at h
  obtain ⟨-, -, -, row, hrow, h⟩ := h
  rw [← challengerId_of_find hrow] at hrow
  cases hfind : s.findEvaluation evaluation.evaluationId with
  | some existing =>
    simp only [hfind, ok_iff, Prod.mk.injEq] at h
    obtain ⟨-, -, rfl⟩ := h
    exact .refl s
  | none =>
    simp only [hfind, ok_iff, not_not] at h
    obtain ⟨hstatus, summary, -, -, h⟩ := h
    exact storeEvaluation_effect hrow hstatus h

theorem recordTrustedPromotionEvaluationV2_effect {evidence : PromotionEvidenceV2}
    {contract : PromotionEvaluationContractV2} {evaluation : TrustedPromotionEvaluation}
    (h : recordTrustedPromotionEvaluationV2 hash s evidence contract evaluation =
      .ok (created, s')) : LifecycleEffect none s s' := by
  simp only [recordTrustedPromotionEvaluationV2, ok_iff, challengerForUpdate_eq_ok] at h
  obtain ⟨-, -, -, row, hrow, h⟩ := h
  rw [← challengerId_of_find hrow] at hrow
  cases hfind : s.findEvaluation evaluation.evaluationId with
  | some existing =>
    simp only [hfind, ok_iff, Prod.mk.injEq] at h
    obtain ⟨-, -, rfl⟩ := h
    exact .refl s
  | none =>
    simp only [hfind, ok_iff, not_not] at h
    obtain ⟨hstatus, h⟩ := h
    split at h
    · simp at h
    · simp only [ok_iff] at h
      obtain ⟨-, -, h⟩ := h
      exact storeEvaluation_effect hrow hstatus h

theorem LifecycleEffect.of_decision {decision} (h : addPromotionDecision s decision = .ok s') :
    LifecycleEffect none s s' := by
  obtain rfl := addPromotionDecision_ok h
  exact .quiet { LifecycleGrows.refl s with decisions := prefix_append _ _ } rfl rfl rfl rfl rfl

theorem recordTrustedManualPromotionApproval_effect {challengerId approvedBy : String}
    {createdAt : Instant} {decision : PromotionDecision}
    (h : recordTrustedManualPromotionApproval hash s challengerId approvedBy createdAt =
      .ok ((decision, created), s')) : LifecycleEffect none s s' := by
  simp only [recordTrustedManualPromotionApproval, ok_iff] at h
  obtain ⟨-, row, -, -, h⟩ := h
  cases hfind : s.latestTrustedEligibleEvaluation challengerId with
  | none => simp [hfind] at h
  | some evaluationRow =>
    simp only [hfind, ok_iff] at h
    obtain ⟨-, h⟩ := h
    split at h
    · simp only [ok_iff, Prod.mk.injEq] at h
      obtain ⟨-, -, rfl⟩ := h
      exact .refl s
    · simp only [ok_iff, Prod.mk.injEq] at h
      obtain ⟨-, sealed, -, store, hadd, -, rfl⟩ := h
      exact .of_decision hadd

theorem recordPromotionEligibility_effect {decision}
    (h : recordPromotionEligibility hash s decision = .ok (created, s')) :
    LifecycleEffect none s s' := by
  simp only [recordPromotionEligibility, ok_iff, challengerForUpdate_eq_ok] at h
  obtain ⟨-, row, hrow, h⟩ := h
  rw [← challengerId_of_find hrow] at hrow
  split at h
  · simp only [ok_iff, Prod.mk.injEq] at h
    obtain ⟨-, -, rfl⟩ := h
    exact .refl s
  · simp only [bind_eq_ok] at h
    obtain ⟨-, -, store, hadd, h⟩ := h
    split at h
    · simp only [ok_iff, Prod.exists, Prod.mk.injEq] at h
      obtain ⟨changed, final, happend, -, rfl⟩ := h
      obtain rfl := addPromotionDecision_ok hadd
      refine .of_append happend hrow ?_ rfl rfl (.inl rfl) (.inl rfl)
        (.inl ⟨rfl, nofun⟩) nofun nofun
      exact { LifecycleGrows.refl s with decisions := prefix_append _ _ }
    · simp only [pure_eq_ok, Prod.mk.injEq] at h
      obtain ⟨-, rfl⟩ := h
      exact .of_decision hadd

theorem recordManualPromotionApproval_effect {decision}
    (h : recordManualPromotionApproval s decision = .ok (created, s')) :
    LifecycleEffect none s s' := by
  simp only [recordManualPromotionApproval, ok_iff] at h
  obtain ⟨-, row, -, h⟩ := h
  split at h
  · simp only [ok_iff, Prod.mk.injEq] at h
    obtain ⟨-, -, rfl⟩ := h
    exact .refl s
  · simp only [ok_iff] at h
    obtain ⟨-, -, -, h⟩ := h
    split at h
    · simp at h
    · simp only [ok_iff, Prod.mk.injEq] at h
      obtain ⟨-, store, hadd, -, rfl⟩ := h
      exact .of_decision hadd

theorem latestTrustedEligibleEvaluation_mem {challengerId : String} {found}
    (h : s.latestTrustedEligibleEvaluation challengerId = some found) :
    found ∈ s.evaluations ∧ found.challengerId = challengerId ∧
      found.evaluation.decision.verdict = .eligibleRequiresManualApproval := by
  have hmem := (getLast?_sortedBy _ h).1
  simpa using mem_filter.mp hmem

theorem mem_manualApprovals {challengerId : String} {decision} :
    decision ∈ s.manualApprovals challengerId ↔ decision ∈ s.decisions ∧
      decision.challengerId = challengerId ∧ decision.verdict = .manuallyApproved := by
  simp [LifecycleStore.manualApprovals]

theorem nextDesignation_sequence {call latest evaluation manual} {artifactHash : String} :
    (nextDesignation hash call row latest evaluation manual artifactHash).sequence =
      (latest.elim 0 (·.sequence)) + 1 := by
  cases latest with
  | none => rfl
  | some designation => rfl

variable {designation : ChampionDesignation}

theorem designateChampionOnce_effect {call}
    (h : designateChampionOnce hash s call = .ok ((designation, created), s')) :
    LifecycleEffect (some call) s s' := by
  simp only [designateChampionOnce] at h
  split at h
  · rename_i known hknown
    simp only [ok_iff, Prod.mk.injEq] at h
    obtain ⟨-, -, rfl⟩ := h
    refine ⟨.refl s, fun _ hrow => .inl hrow, .inl rfl, .inl rfl, .inl ⟨rfl, ?_⟩, .inl rfl⟩
    simp [hknown]
  · rename_i hnew
    simp only [ok_iff, not_not, challengerForUpdate_eq_ok] at h
    obtain ⟨row, hrow, hstatus, h⟩ := h
    have hid := challengerId_of_find hrow
    rw [← hid] at hrow h
    split at h
    · simp at h
    · rename_i evaluationRow hevaluation
      obtain ⟨hmem, hchallenger, hverdict⟩ := latestTrustedEligibleEvaluation_mem hevaluation
      split at h
      · simp at h
      · rename_i manual hmanual
        have happroval := mem_manualApprovals.mp (getLast?_sortedBy _ hmanual).1
        simp only [ok_iff, not_or, not_not] at h
        obtain ⟨⟨-, -, hcriteria, hreplay, -⟩, -, -, -, h⟩ := h
        split at h
        · simp at h
        · simp only [ok_iff, Prod.exists, Prod.mk.injEq] at h
          obtain ⟨-, -, designations, hinsert, changed, final, happend, -, rfl⟩ := h
          obtain ⟨rfl, -⟩ := insertUnique_ok hinsert
          refine .of_append happend hrow ?_ rfl rfl (.inl rfl) (.inl rfl)
            (.inr ⟨rfl, call, rfl, ?_⟩)
            (by simp) fun _ => ?_
          · exact { LifecycleGrows.refl s with designations := prefix_append _ _ }
          · exact ⟨hid, hnew, hrow, hstatus, _, rfl, hid.symm, rfl, rfl,
              nextDesignation_sequence, rfl⟩
          · refine ⟨evaluationRow, hmem, hchallenger, hverdict, manual, happroval.1,
              happroval.2.1, happroval.2.2, hcriteria, hreplay, nextDesignation hash _ _ _ _ _ _,
              mem_append_right _ mem_cons_self, hid.symm, rfl, rfl⟩

theorem designateChampion_effect {call}
    (h : designateChampion hash s call = .ok ((designation, created), s')) :
    LifecycleEffect (some call) s s' := by
  simp only [designateChampion, bind_eq_ok, orConflict_eq_ok] at h
  obtain ⟨-, -, h⟩ := h
  exact designateChampionOnce_effect h

/-- Every operation of the lifecycle repository. -/
inductive LifecycleCall (hash : Hashing)
  | cycle (call : CycleCall)
  | budget (call : BudgetEventCall)
  | reserve (call : ReserveCall)
  | register (manifest : ChallengerManifest) (proposalId : String)
  | artifact (bundle : CandidateArtifactBundle) (createdAt : Instant)
  | testFailure (failure : CandidateTestFailure)
  | comparison (challengerId : String) (contract : PortfolioComparisonContract)
  | transition (challengerId : String) (change : StatusChange)
  | replay (artifact : ReplayArtifact)
  | falsification (report : FalsificationReport)
  | oosResult (result : OosLockboxResult) (artifactHash : String) (arms : ShadowArms)
      (createdAt : Instant)
  | oosResultV2 (result : OosLockboxResultV2) (artifactHash : String) (arms : ShadowArms)
      (createdAt : Instant)
  | startShadow (challengerId idempotencyKey : String) (createdAt : Instant)
  | summary (evidence : DailyEvidence hash) (summary : ShadowPerformanceSummaryV1)
  | summaryV2 (summary : ShadowPerformanceSummaryV2)
  | evaluation (daily : DailyEvidence hash) (evidence : PromotionEvidenceV1)
      (contract : PromotionThresholds) (evaluation : TrustedPromotionEvaluation)
  | evaluationV2 (evidence : PromotionEvidenceV2) (contract : PromotionEvaluationContractV2)
      (evaluation : TrustedPromotionEvaluation)
  | approve (challengerId approvedBy : String) (createdAt : Instant)
  | designate (call : DesignateCall)
  | eligibility (decision : PromotionDecision)
  | manualApproval (decision : PromotionDecision)

def reserveForChallenger (hash : Hashing) (s : LifecycleStore) (call : ReserveCall) :
    Except Failure LifecycleStore := do
  checkReserveCall call
  let challengers := s.manifests.map (·.challengerId)
  let (_, budget) ← reserveOosBudgetOnce hash { s.budget with challengers := challengers } call
  return { s with budget := budget }

/-- One call on the tables, what it answers aside. -/
def lifecycleStep (hash : Hashing) (s : LifecycleStore) :
    LifecycleCall hash → Except Failure LifecycleStore
  | .cycle call => (fun cycles => { s with cycles := cycles }) <$> cycleStep hash s.cycles call
  | .budget call =>
    (fun result => { s with budget := result.2 }) <$> appendBudgetEvent hash s.budget call
  | .reserve call => reserveForChallenger hash s call
  | .register manifest proposalId => (·.2) <$> registerChallenger s manifest proposalId
  | .artifact bundle createdAt => (·.2) <$> registerCandidateArtifact s bundle createdAt
  | .testFailure failure => (·.2) <$> recordCandidateTestFailure hash s failure
  | .comparison challengerId contract => (·.2) <$> storeComparisonContract s challengerId contract
  | .transition challengerId change => (·.2) <$> transitionChallenger hash s challengerId change
  | .replay artifact => (·.2) <$> recordReplayArtifact hash s artifact
  | .falsification report => (·.2) <$> recordFalsificationReport hash s report
  | .oosResult result artifactHash arms createdAt =>
    (·.2) <$> storeOosResult hash s result artifactHash arms createdAt
  | .oosResultV2 result artifactHash arms createdAt =>
    (·.2) <$> storeOosResultV2 hash s result artifactHash arms createdAt
  | .startShadow challengerId idempotencyKey createdAt =>
    (·.2) <$> startShadowEvaluation hash s challengerId idempotencyKey createdAt
  | .summary evidence summary => (·.2) <$> recordShadowPerformanceSummary hash s evidence summary
  | .summaryV2 summary => (·.2) <$> recordShadowPerformanceSummaryV2 s summary
  | .evaluation daily evidence contract evaluation =>
    (·.2) <$> recordTrustedPromotionEvaluation hash s daily evidence contract evaluation
  | .evaluationV2 evidence contract evaluation =>
    (·.2) <$> recordTrustedPromotionEvaluationV2 hash s evidence contract evaluation
  | .approve challengerId approvedBy createdAt =>
    (·.2) <$> recordTrustedManualPromotionApproval hash s challengerId approvedBy createdAt
  | .designate call => (·.2) <$> designateChampion hash s call
  | .eligibility decision => (·.2) <$> recordPromotionEligibility hash s decision
  | .manualApproval decision => (·.2) <$> recordManualPromotionApproval s decision

theorem effect_of_snd {α : Type} {designate : Option DesignateCall}
    {x : Except Failure (α × LifecycleStore)} (h : (·.2) <$> x = .ok s')
    (effect : ∀ a, x = .ok (a, s') → LifecycleEffect designate s s') :
    LifecycleEffect designate s s' := by
  rw [map_eq_ok] at h
  obtain ⟨result, hresult, rfl⟩ := h
  exact effect result.1 hresult

def LifecycleCall.designateCall : LifecycleCall hash → Option DesignateCall
  | .designate call => some call
  | _ => none

theorem lifecycleStep_effect {call : LifecycleCall hash} (h : lifecycleStep hash s call = .ok s') :
    LifecycleEffect call.designateCall s s' := by
  cases call with
  | cycle call =>
    simp only [lifecycleStep, map_eq_ok] at h
    obtain ⟨cycles, hstep, rfl⟩ := h
    exact .quiet { LifecycleGrows.refl s with cycles := cycleStep_grows hstep } rfl rfl rfl rfl rfl
  | budget call =>
    simp only [lifecycleStep, map_eq_ok] at h
    obtain ⟨result, -, rfl⟩ := h
    exact .quiet { LifecycleGrows.refl s with } rfl rfl rfl rfl rfl
  | reserve call =>
    simp only [lifecycleStep, reserveForChallenger, ok_iff] at h
    obtain ⟨-, -, result, -, rfl⟩ := h
    exact .quiet { LifecycleGrows.refl s with } rfl rfl rfl rfl rfl
  | register _ _ => exact effect_of_snd h fun _ => registerChallenger_effect
  | artifact _ _ => exact effect_of_snd h fun _ => registerCandidateArtifact_effect
  | testFailure _ => exact effect_of_snd h fun _ => recordCandidateTestFailure_effect
  | comparison _ _ => exact effect_of_snd h fun _ => storeComparisonContract_effect
  | transition _ _ => exact effect_of_snd h fun _ => transitionChallenger_effect
  | replay _ => exact effect_of_snd h fun _ => recordReplayArtifact_effect
  | falsification _ => exact effect_of_snd h fun _ => recordFalsificationReport_effect
  | oosResult _ _ _ _ => exact effect_of_snd h fun _ => storeOosResult_effect
  | oosResultV2 _ _ _ _ => exact effect_of_snd h fun _ => storeOosResultV2_effect
  | startShadow _ _ _ => exact effect_of_snd h fun _ => startShadowEvaluation_effect
  | summary _ _ => exact effect_of_snd h fun _ => recordShadowPerformanceSummary_effect
  | summaryV2 _ => exact effect_of_snd h fun _ => recordShadowPerformanceSummaryV2_effect
  | evaluation _ _ _ _ => exact effect_of_snd h fun _ => recordTrustedPromotionEvaluation_effect
  | evaluationV2 _ _ _ => exact effect_of_snd h fun _ => recordTrustedPromotionEvaluationV2_effect
  | approve _ _ _ =>
    exact effect_of_snd h fun _ => recordTrustedManualPromotionApproval_effect
  | designate _ => exact effect_of_snd h fun _ => designateChampion_effect
  | eligibility _ => exact effect_of_snd h fun _ => recordPromotionEligibility_effect
  | manualApproval _ => exact effect_of_snd h fun _ => recordManualPromotionApproval_effect

end AdaptiveQuant.ResearchPlane
