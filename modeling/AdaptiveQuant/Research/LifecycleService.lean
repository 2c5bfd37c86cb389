import AdaptiveQuant.Lib.Effect
import AdaptiveQuant.Persistence.ChallengerGate

/-! The calls of `ResearchLifecycleService` in `research/lifecycle.py` that record something of a
Challenger, and what a repetition of them returns. -/

namespace AdaptiveQuant.ResearchPlane

open Guard Sequence Trail ChallengerStatus

def lifecycleError (message : String) : Failure := ⟨.researchLifecycleError, message, []⟩

/-- `ResearchPersistenceError` as a `ResearchLifecycleError`. -/
def asLifecycleError {α : Type} (x : Except Failure α) : Except Failure α :=
  x.mapError fun failure =>
    if failure.exception = .researchPersistenceError then lifecycleError failure.message
    else failure

/-- A transaction of the repository: what it stored stays, also when the service fails after it. -/
def transact {α : Type} (f : LifecycleStore → Except Failure (α × LifecycleStore)) :
    Effect LifecycleStore Failure α := fun s =>
  match asLifecycleError (f s) with
  | .ok (value, s') => (.ok value, s')
  | .error failure => (.error failure, s)

structure LifecycleResult where
  challengerId : String
  created : Bool
  status : ChallengerStatus
  artifactHash : String
deriving DecidableEq

structure ManualPromotionApprovalResult where
  decision : PromotionDecision
  created : Bool
  status : ChallengerStatus
deriving DecidableEq

def recordWithStatus {α : Type} (challengerId : String) (expected : ChallengerStatus)
    (message : ChallengerStatus → String)
    (f : LifecycleStore → Except Failure (α × LifecycleStore)) :
    Effect LifecycleStore Failure (α × ChallengerStatus) := do
  let value ← transact f
  let current ← Effect.reads fun s => asLifecycleError (s.challengerStatus challengerId)
  let status ← Effect.ofExcept current
  Effect.ofExcept (raiseIf (status ≠ expected) (lifecycleError (message status)))
  return (value, status)

def lifecycleResult (challengerId artifactHash : String) (expected : ChallengerStatus)
    (message : ChallengerStatus → String)
    (f : LifecycleStore → Except Failure (Bool × LifecycleStore)) :
    Effect LifecycleStore Failure LifecycleResult := do
  let (created, status) ← recordWithStatus challengerId expected message f
  return ⟨challengerId, created, status, artifactHash⟩

namespace ResearchLifecycleService

variable (hash : Hashing)

def recordFalsification (report : FalsificationReport) :
    Effect LifecycleStore Failure LifecycleResult :=
  lifecycleResult report.challengerId report.reportHash
    (if report.mandatoryPassed then .proposed else .testFailed)
    (fun status => s!"unexpected post-falsification status {status.value}")
    (recordFalsificationReport hash · report)

def recordDeterministicReplay (artifact : ReplayArtifact) :
    Effect LifecycleStore Failure LifecycleResult :=
  lifecycleResult artifact.challengerId (artifact.artifactHash hash)
    (if artifact.deterministicMatch then .proposed else .replayFailed)
    (fun status => s!"unexpected replay status {status.value}")
    (recordReplayArtifact hash · artifact)

def registerCandidateArtifact (bundle : CandidateArtifactBundle) (createdAt : Instant) :
    Effect LifecycleStore Failure LifecycleResult :=
  lifecycleResult bundle.challengerId bundle.bundleHash .proposed
    (fun _ => "candidate artifact registration requires PROPOSED")
    (ResearchPlane.registerCandidateArtifact · bundle createdAt)

def recordShadowPerformanceSummary (evidence : DailyEvidence hash)
    (summary : ShadowPerformanceSummaryV1) :
    Effect LifecycleStore Failure LifecycleResult :=
  lifecycleResult summary.challengerId summary.summaryHash .shadowRunning
    (fun _ => "shadow summary cannot alter Challenger status")
    (ResearchPlane.recordShadowPerformanceSummary hash · evidence summary)

def recordShadowPerformanceSummaryV2 (summary : ShadowPerformanceSummaryV2) :
    Effect LifecycleStore Failure LifecycleResult :=
  lifecycleResult summary.challengerId summary.summaryHash .shadowRunning
    (fun _ => "shadow V2 summary cannot alter Challenger status")
    (ResearchPlane.recordShadowPerformanceSummaryV2 · summary)

def startShadow (challengerId idempotencyKey : String) (createdAt : Instant) :
    Effect LifecycleStore Failure LifecycleResult :=
  lifecycleResult challengerId (hash.canonicalHash (.str idempotencyKey)) .shadowRunning
    (fun status => s!"unexpected shadow status {status.value}")
    (startShadowEvaluation hash · challengerId idempotencyKey createdAt)

def approveTrustedPromotion (challengerId approvedBy : String) (createdAt : Instant) :
    Effect LifecycleStore Failure ManualPromotionApprovalResult := do
  let ((decision, created), status) ← recordWithStatus challengerId .promotionEligible
    (fun _ => "manual approval must not designate the Champion")
    (recordTrustedManualPromotionApproval hash · challengerId approvedBy createdAt)
  return ⟨decision, created, status⟩

end ResearchLifecycleService

inductive ServiceResult
  | lifecycle (result : LifecycleResult)
  | approval (result : ManualPromotionApprovalResult)
deriving DecidableEq

def ServiceResult.created : ServiceResult → Bool
  | .lifecycle result => result.created
  | .approval result => result.created

/-- Every operation of the lifecycle service. -/
inductive ServiceCall (hash : Hashing)
  | falsification (report : FalsificationReport)
  | replay (replayed : ReplayArtifact)
  | artifact (bundle : CandidateArtifactBundle) (createdAt : Instant)
  | summary (evidence : DailyEvidence hash) (measured : ShadowPerformanceSummaryV1)
  | summaryV2 (measured : ShadowPerformanceSummaryV2)
  | startShadow (challengerId idempotencyKey : String) (createdAt : Instant)
  | approve (challengerId approvedBy : String) (createdAt : Instant)

variable {hash : Hashing}

open ResearchLifecycleService in
def ServiceCall.perform : ServiceCall hash → Effect LifecycleStore Failure ServiceResult
  | .falsification report => do return .lifecycle (← recordFalsification hash report)
  | .replay replayed => do return .lifecycle (← recordDeterministicReplay hash replayed)
  | .artifact bundle createdAt => do
    return .lifecycle (← ResearchLifecycleService.registerCandidateArtifact bundle createdAt)
  | .summary evidence measured => do
    return .lifecycle
      (← ResearchLifecycleService.recordShadowPerformanceSummary hash evidence measured)
  | .summaryV2 measured => do
    return .lifecycle (← ResearchLifecycleService.recordShadowPerformanceSummaryV2 measured)
  | .startShadow challengerId idempotencyKey createdAt => do
    return .lifecycle
      (← ResearchLifecycleService.startShadow hash challengerId idempotencyKey createdAt)
  | .approve challengerId approvedBy createdAt => do
    return .approval (← approveTrustedPromotion hash challengerId approvedBy createdAt)

/-- No later Champion than the one that the evaluation was made against. -/
def CurrentChampion (s : LifecycleStore) (challengerId : String) : Prop :=
  ∀ latest ∈ s.latestChampionDesignation,
    ∀ row ∈ s.latestTrustedEligibleEvaluation challengerId,
      latest.strategyVersion = row.evaluation.decision.currentChampionVersion

/-- The Challenger has the status that the call left it with, and for an approval the Champion is
still the one that the Challenger was evaluated against. -/
def ServiceCall.Settled (s : LifecycleStore) : ServiceCall hash → Prop
  | .falsification report => s.challengerStatus report.challengerId =
      .ok (if report.mandatoryPassed then .proposed else .testFailed)
  | .replay replayed => s.challengerStatus replayed.challengerId =
      .ok (if replayed.deterministicMatch then .proposed else .replayFailed)
  | .artifact bundle _ => s.challengerStatus bundle.challengerId = .ok .proposed
  | .summary _ measured => s.challengerStatus measured.challengerId = .ok .shadowRunning
  | .summaryV2 measured => s.challengerStatus measured.challengerId = .ok .shadowRunning
  | .startShadow challengerId _ _ => s.challengerStatus challengerId = .ok .shadowRunning
  | .approve challengerId _ _ =>
    s.challengerStatus challengerId = .ok .promotionEligible ∧ CurrentChampion s challengerId

variable {s s' t : LifecycleStore} {row : ManifestRow} {challengerId : String}
  {created : Bool}

theorem LifecycleGrows.requireRegistered (grows : LifecycleGrows s s') {artifactHash bundle}
    (h : requireRegisteredCandidateArtifact s challengerId artifactHash = .ok bundle) :
    requireRegisteredCandidateArtifact s' challengerId artifactHash = .ok bundle := by
  unfold requireRegisteredCandidateArtifact at *
  split at h
  · cases h
  · rename_i found hfind
    rw [grows.artifacts.find?_eq_some hfind]
    exact h

theorem find?_concat_of_none {α : Type*} {p : α → Bool} {xs : List α} {x : α}
    (h : xs.find? p = none) (hx : p x = true) : (xs ++ [x]).find? p = some x := by
  rw [List.find?_append, h, Option.none_or, List.find?_cons_of_pos hx]

theorem recordFalsificationReport_again {report : FalsificationReport}
    (h : recordFalsificationReport hash s report = .ok (created, s'))
    (grows : LifecycleGrows s' t) : recordFalsificationReport hash t report = .ok (false, t) := by
  have hgrows := (recordFalsificationReport_effect h).grows.trans grows
  obtain ⟨row, candidate, replay, hrow, hcandidate, hreplay, hbindings, h⟩ :=
    recordFalsificationReport_cases h
  have hreplay' : t.findMatchingReplay report.challengerId candidate.bundleHash = some replay :=
    hgrows.replays.find?_eq_some hreplay
  have hfound : ∃ existing, s'.findReport report.challengerId = some existing ∧
      existing.reportHash = report.reportHash := by
    rcases h with ⟨rfl, hfound⟩ | ⟨hnone, hmove⟩
    · exact hfound
    · refine ⟨report, ?_, rfl⟩
      rw [LifecycleStore.findReport, hmove.tables.2]
      exact find?_concat_of_none hnone (by simp)
  obtain ⟨existing, hexisting, hsame⟩ := hfound
  have hexisting' : t.findReport report.challengerId = some existing :=
    grows.reports.find?_eq_some hexisting
  simp only [recordFalsificationReport, bind_eq_ok, challengerForUpdate_eq_ok]
  refine ⟨row, hgrows.findManifest hrow, candidate, hgrows.requireRegistered hcandidate, ?_⟩
  simp [hreplay', hbindings, hexisting', hsame]

theorem recordReplayArtifact_again {artifact}
    (h : recordReplayArtifact hash s artifact = .ok (created, s')) (grows : LifecycleGrows s' t) :
    recordReplayArtifact hash t artifact = .ok (false, t) := by
  have hgrows := (recordReplayArtifact_effect h).grows.trans grows
  obtain ⟨row, candidate, hrow, hcandidate, h⟩ := recordReplayArtifact_cases h
  have hfound : ∃ existing, s'.findReplay artifact.challengerId = some existing ∧
      existing.artifactHash hash = artifact.artifactHash hash := by
    rcases h with ⟨rfl, hfound⟩ | ⟨hnone, hmove⟩
    · exact hfound
    · refine ⟨artifact, ?_, rfl⟩
      rw [LifecycleStore.findReplay, hmove.tables.1]
      exact find?_concat_of_none hnone (by simp)
  obtain ⟨existing, hexisting, hsame⟩ := hfound
  have hexisting' : t.findReplay artifact.challengerId = some existing :=
    grows.replays.find?_eq_some hexisting
  simp only [recordReplayArtifact, bind_eq_ok, challengerForUpdate_eq_ok]
  refine ⟨row, hgrows.findManifest hrow, candidate, hgrows.requireRegistered hcandidate, ?_⟩
  simp [hexisting', hsame]

variable {createdAt : Instant}

theorem registerCandidateArtifact_again {bundle}
    (h : registerCandidateArtifact s bundle createdAt = .ok (created, s'))
    (grows : LifecycleGrows s' t) :
    registerCandidateArtifact t bundle createdAt = .ok (false, t) := by
  have hgrows := (registerCandidateArtifact_effect h).grows.trans grows
  obtain ⟨row, hrow, h⟩ := registerCandidateArtifact_cases h
  have hfound : ∃ existing, s'.findBundle bundle.bundleId = some existing ∧
      existing.bundle.bundleId = bundle.bundleId ∧
      existing.bundle.challengerId = bundle.challengerId ∧
      existing.bundle.bundleHash = bundle.bundleHash ∧
      validateStoredCandidateArtifact bundle existing = .ok () := by
    rcases h with ⟨rfl, existing, hfind, hbound⟩ | ⟨hnone, rfl⟩
    · refine ⟨existing, ?_, hbound⟩
      rcases Option.or_eq_some_iff.mp hfind with hbundle | ⟨hnone, hother⟩
      · exact hbundle
      · -- what has the name of the bundle is found under it first
        have hmem := List.mem_of_find?_eq_some hother
        have hnot := List.find?_eq_none.mp hnone existing hmem
        simp [hbound.1] at hnot
    · refine ⟨_, find?_concat_of_none hnone (by simp), rfl, rfl, rfl, ?_⟩
      simp [validateStoredCandidateArtifact, mismatches]
  obtain ⟨existing, hexisting, hid, hchallenger, hhash, hstored⟩ := hfound
  have hexisting' : t.findBundle bundle.bundleId = some existing :=
    grows.artifacts.find?_eq_some hexisting
  simp only [registerCandidateArtifact, bind_eq_ok, challengerForUpdate_eq_ok]
  refine ⟨row, hgrows.findManifest hrow, ?_⟩
  simp [hexisting', hid, hchallenger, hhash, hstored]

theorem KeepsSummary.again {summary} (h : KeepsSummary s summary s') (grows : LifecycleGrows s' t) :
    ∃ existing,
      t.findSummary summary.base.summaryId = some existing ∧
        existing.base.summaryHash = summary.base.summaryHash := by
  rcases h with ⟨rfl, existing, hfind, hsame⟩ | ⟨hnone, rfl⟩
  · exact ⟨existing, grows.summaries.find?_eq_some hfind, hsame⟩
  · exact ⟨summary, grows.summaries.find?_eq_some (find?_concat_of_none hnone (by simp)), rfl⟩

theorem recordShadowPerformanceSummary_again {evidence summary}
    (h : recordShadowPerformanceSummary hash s evidence summary = .ok (created, s'))
    (grows : LifecycleGrows s' t) :
    recordShadowPerformanceSummary hash t evidence summary = .ok (false, t) := by
  have hgrows := (recordShadowPerformanceSummary_effect h).grows.trans grows
  obtain ⟨⟨row, hrow⟩, hkept⟩ := recordShadowPerformanceSummary_cases h
  obtain ⟨existing, hfind, hsame⟩ : ∃ existing, t.findSummary summary.summaryId = some existing ∧
      existing.base.summaryHash = summary.summaryHash := hkept.again grows
  simp only [recordShadowPerformanceSummary, bind_eq_ok, challengerForUpdate_eq_ok]
  refine ⟨row, hgrows.findManifest hrow, ?_⟩
  simp [hfind, hsame]

theorem recordShadowPerformanceSummaryV2_again {summary}
    (h : recordShadowPerformanceSummaryV2 s summary = .ok (created, s'))
    (grows : LifecycleGrows s' t) :
    recordShadowPerformanceSummaryV2 t summary = .ok (false, t) := by
  have hgrows := (recordShadowPerformanceSummaryV2_effect h).grows.trans grows
  obtain ⟨⟨row, hrow⟩, hkept⟩ := recordShadowPerformanceSummaryV2_cases h
  obtain ⟨existing, hfind, hsame⟩ : ∃ existing, t.findSummary summary.summaryId = some existing ∧
      existing.base.summaryHash = summary.summaryHash := hkept.again grows
  simp only [recordShadowPerformanceSummaryV2, bind_eq_ok, challengerForUpdate_eq_ok]
  refine ⟨row, hgrows.findManifest hrow, ?_⟩
  simp [hfind, hsame]

theorem startShadowEvaluation_again {idempotencyKey : String}
    (h : startShadowEvaluation hash s challengerId idempotencyKey createdAt = .ok (created, s'))
    (grows : LifecycleGrows s' t)
    (arms : MatchedPaperPair (s'.armsOf challengerId) → t.armsOf challengerId =
      s'.armsOf challengerId) :
    startShadowEvaluation hash t challengerId idempotencyKey createdAt = .ok (false, t) := by
  have hgrows := (startShadowEvaluation_effect h).grows.trans grows
  simp only [startShadowEvaluation, ok_iff, challengerForUpdate_eq_ok, not_not] at h ⊢
  obtain ⟨row, hrow, hpair, happend⟩ := h
  have hfound : s'.armsOf challengerId = s.armsOf challengerId ∧ ∃ event,
      s'.findEventKey row.challengerId idempotencyKey = some event ∧
      event.toStatus = .shadowRunning := by
    rcases appendChallengerTransition_cases happend with ⟨-, rfl, event, hkey, hto⟩ |
      ⟨-, hnone, -, rfl⟩
    · exact ⟨rfl, event, hkey, hto⟩
    · exact ⟨rfl, _, find?_concat_of_none hnone (by simp [nextEvent]), rfl⟩
  obtain ⟨hsame, event, hkey, hto⟩ := hfound
  have hkey' : t.findEventKey row.challengerId idempotencyKey = some event :=
    grows.events.find?_eq_some hkey
  have harms := (arms (hsame ▸ hpair)).trans hsame
  refine ⟨row, hgrows.findManifest hrow, harms ▸ hpair, ?_⟩
  simp [appendChallengerTransition, hkey', hto]

def LifecycleStore.eligibleEvaluations (s : LifecycleStore) (challengerId : String) :
    List EvaluationRow :=
  s.evaluations.filter fun row => row.challengerId = challengerId ∧
    row.evaluation.decision.verdict = .eligibleRequiresManualApproval

theorem latestTrustedEligibleEvaluation_congr
    (h : t.eligibleEvaluations challengerId = s.eligibleEvaluations challengerId) :
    t.latestTrustedEligibleEvaluation challengerId =
      s.latestTrustedEligibleEvaluation challengerId := by
  unfold LifecycleStore.latestTrustedEligibleEvaluation
  exact congrArg (fun rows => (sortedBy _ rows).getLast?) h

def Approved (s : LifecycleStore) (challengerId approver : String) : Prop :=
  ∃ evaluation decision, s.latestTrustedEligibleEvaluation challengerId = some evaluation ∧
    (s.manualApprovals challengerId).head? = some decision ∧ decision.approvedBy = some approver ∧
    decision.currentChampionVersion = evaluation.evaluation.decision.currentChampionVersion ∧
    decision.candidateVersion = evaluation.evaluation.decision.candidateVersion

theorem sealDecision_ok {decision signed} (h : sealDecision hash decision = .ok signed) :
    signed = { decision with decisionHash := hash.canonicalHash decision.payload } := by
  simp only [sealDecision, ok_iff] at h
  obtain ⟨-, -, h⟩ := h
  exact h.symm

variable {approvedBy : String}

theorem approved_of_ok {decision : PromotionDecision}
    (h : recordTrustedManualPromotionApproval hash s challengerId approvedBy createdAt =
      .ok ((decision, created), s')) : Approved s' challengerId (strip approvedBy) := by
  simp only [recordTrustedManualPromotionApproval, ok_iff] at h
  obtain ⟨-, row, -, -, h⟩ := h
  cases hlatest : s.latestTrustedEligibleEvaluation challengerId with
  | none => simp [hlatest] at h
  | some evaluation =>
    simp only [hlatest, ok_iff] at h
    obtain ⟨-, h⟩ := h
    cases hmanual : (s.manualApprovals challengerId).head? with
    | some known =>
      simp only [hmanual, ok_iff, Prod.mk.injEq, not_or, not_not] at h
      obtain ⟨⟨happrover, hchampion, hcandidate⟩, -, rfl⟩ := h
      exact ⟨evaluation, known, hlatest, hmanual, happrover, hchampion, hcandidate⟩
    | none =>
      simp only [hmanual, ok_iff, Prod.mk.injEq] at h
      obtain ⟨-, signed, hsigned, store, hadd, -, rfl⟩ := h
      obtain rfl := addPromotionDecision_ok hadd
      have hfields := sealDecision_ok hsigned
      refine ⟨evaluation, signed, hlatest, ?_, by rw [hfields], by rw [hfields], by rw [hfields]⟩
      have hbefore := List.head?_eq_none_iff.mp hmanual
      unfold LifecycleStore.manualApprovals at hbefore ⊢
      rw [List.filter_append, hbefore]
      simp [hfields]

theorem Approved.mono {approver : String} (h : Approved s challengerId approver)
    (grows : LifecycleGrows s t)
    (evaluations : t.eligibleEvaluations challengerId = s.eligibleEvaluations challengerId) :
    Approved t challengerId approver := by
  obtain ⟨evaluation, decision, hlatest, hmanual, hbound⟩ := h
  refine ⟨evaluation, decision, (latestTrustedEligibleEvaluation_congr evaluations).trans hlatest,
    ?_, hbound⟩
  unfold LifecycleStore.manualApprovals at hmanual ⊢
  rw [List.head?_filter] at hmanual ⊢
  exact grows.decisions.find?_eq_some hmanual

theorem recordTrustedManualPromotionApproval_again {approvedBy : String} {createdAt : Instant}
    (hname : strip approvedBy ≠ "") (happroved : Approved s challengerId (strip approvedBy))
    (hrow : s.findManifest challengerId = some row) :
    (∃ decision, recordTrustedManualPromotionApproval hash s challengerId approvedBy createdAt =
      .ok ((decision, false), s)) ↔
    s.currentStatus row = .promotionEligible ∧ CurrentChampion s challengerId := by
  obtain ⟨evaluation, known, hlatest, hmanual, happrover, hchampion, hcandidate⟩ := happroved
  have hstale : CurrentChampion s challengerId ↔ ¬∃ latest ∈ s.latestChampionDesignation,
      latest.strategyVersion ≠ evaluation.evaluation.decision.currentChampionVersion := by
    simp [CurrentChampion, hlatest]
  rw [hstale]
  simp only [recordTrustedManualPromotionApproval, ok_iff, challengerForUpdate_eq_ok, hrow,
    Option.some.injEq, exists_eq_left', not_not, hlatest, hmanual, Prod.mk.injEq]
  constructor
  · rintro ⟨decision, -, hstatus, hcurrent, -⟩
    exact ⟨hstatus, hcurrent⟩
  · rintro ⟨hstatus, hcurrent⟩
    exact ⟨known, hname, hstatus, hcurrent, by simp [happrover, hchampion, hcandidate], by simp⟩

theorem grows_of_run {later} (run : Run (lifecycleStep hash) s later t) : LifecycleGrows s t :=
  run.inv (.refl s) fun _ _ _ hgrows hstep => hgrows.trans (lifecycleStep_effect hstep).grows

theorem armsOf_of_run {later} (run : Run (lifecycleStep hash) s later t)
    (h : MatchedPaperPair (s.armsOf challengerId)) :
    t.armsOf challengerId = s.armsOf challengerId := by
  refine run.inv (I := fun u => u.armsOf challengerId = s.armsOf challengerId) rfl ?_
  intro before call after hsame hstep
  rw [(lifecycleStep_effect hstep).armsOf_eq (hsame ▸ h), hsame]

theorem eligibleEvaluations_of_effect {call} (effect : LifecycleEffect call s s')
    (hrow : s.findManifest challengerId = some row)
    (hrank : rank .promotionEligible ≤ (s.currentStatus row).rank) :
    s'.eligibleEvaluations challengerId = s.eligibleEvaluations challengerId := by
  unfold LifecycleStore.eligibleEvaluations
  rcases effect.evaluations with hsame | ⟨row', evaluation, hrow', hstatus, hevaluations, hid⟩
  · rw [hsame]
  · have hother : row'.challengerId ≠ challengerId := by
      intro heq
      rw [heq, hrow] at hrow'
      obtain rfl := Option.some.inj hrow'
      rw [hstatus] at hrank
      exact absurd hrank (by decide)
    rw [hevaluations, List.filter_append]
    simp [hid, hother]

theorem eligibleEvaluations_of_run {later : List (LifecycleStore × LifecycleCall hash)}
    (inv : GateInv s) (hrow : s.findManifest challengerId = some row)
    (hstatus : s.currentStatus row = .promotionEligible)
    (run : Run (lifecycleStep hash) s later t) :
    t.eligibleEvaluations challengerId = s.eligibleEvaluations challengerId := by
  have hkept : GateInv t ∧ t.findManifest challengerId = some row ∧
      rank .promotionEligible ≤ (t.currentStatus row).rank ∧
      t.eligibleEvaluations challengerId = s.eligibleEvaluations challengerId := by
    refine run.inv (I := fun u => GateInv u ∧ u.findManifest challengerId = some row ∧
      rank .promotionEligible ≤ (u.currentStatus row).rank ∧
      u.eligibleEvaluations challengerId = s.eligibleEvaluations challengerId)
      ⟨inv, hrow, by rw [hstatus], rfl⟩ ?_
    rintro before call after ⟨hinv, hfound, hrank, hsame⟩ hstep
    have heffect := lifecycleStep_effect hstep
    refine ⟨hinv.effect heffect, heffect.grows.findManifest hfound, ?_, ?_⟩
    · exact hrank.trans (hinv.rank_le heffect (mem_of_findManifest hfound))
    · rw [eligibleEvaluations_of_effect heffect hfound hrank, hsame]
  exact hkept.2.2.2

variable {α : Type}

theorem asLifecycleError_eq_ok {x} {a : α} :
    asLifecycleError x = .ok a ↔ x = .ok a := by
  cases x with
  | error failure => simp [asLifecycleError, Except.mapError]
  | ok b => rfl

theorem transact_eq_ok {f} {a : α} : transact f s = (.ok a, s') ↔ f s = .ok (a, s') := by
  unfold transact
  cases h : f s with
  | error failure => simp [asLifecycleError, Except.mapError]
  | ok result => simp [asLifecycleError, Except.mapError, Prod.ext_iff]

variable {expected : ChallengerStatus} {message : ChallengerStatus → String}

theorem recordWithStatus_eq_ok {status f} {a : α} :
    recordWithStatus challengerId expected message f s = (.ok (a, status), s') ↔
      f s = .ok (a, s') ∧ s'.challengerStatus challengerId = .ok expected ∧ status = expected := by
  unfold recordWithStatus
  simp only [Effect.bind_run_eq_ok, transact_eq_ok, Effect.reads_run, Effect.ofExcept_run,
    Effect.pure_run, Prod.mk.injEq, Except.ok.injEq, raiseIf_eq_ok, not_not]
  constructor
  · rintro ⟨_, _, hf, _, _, ⟨rfl, rfl⟩, _, _, ⟨hcurrent, rfl⟩, _, _, ⟨rfl, rfl⟩, ⟨rfl, rfl⟩, rfl⟩
    rw [asLifecycleError_eq_ok] at hcurrent
    exact ⟨hf, hcurrent, rfl⟩
  · rintro ⟨hf, hstatus, rfl⟩
    exact ⟨a, s', hf, _, s', ⟨rfl, rfl⟩, status, s', ⟨asLifecycleError_eq_ok.mpr hstatus, rfl⟩, (),
      s', ⟨rfl, rfl⟩, ⟨rfl, rfl⟩, rfl⟩

variable {result : ServiceResult}

variable {f : LifecycleStore → Except Failure (Bool × LifecycleStore)}

theorem lifecycleResult_eq_ok {artifactHash : String} :
    (do return .lifecycle (← lifecycleResult challengerId artifactHash expected message f) :
      Effect LifecycleStore Failure ServiceResult) s = (.ok result, s') ↔
    ∃ created, f s = .ok (created, s') ∧ s'.challengerStatus challengerId = .ok expected ∧
      result = .lifecycle ⟨challengerId, created, expected, artifactHash⟩ := by
  simp only [lifecycleResult, Effect.bind_run_eq_ok, Effect.pure_run, Prod.mk.injEq,
    Except.ok.injEq, Prod.exists, recordWithStatus_eq_ok]
  constructor
  · rintro ⟨_, _, ⟨created, _, _, ⟨hf, hstatus, rfl⟩, rfl, rfl⟩, rfl, rfl⟩
    exact ⟨created, hf, hstatus, rfl⟩
  · rintro ⟨created, hf, hstatus, rfl⟩
    exact ⟨_, s', ⟨created, expected, s', ⟨hf, hstatus, rfl⟩, rfl, rfl⟩, rfl, rfl⟩

theorem lifecycleResult_again {artifactHash : String} (again : f t = .ok (false, t)) :
    (∃ result, (do return .lifecycle (← lifecycleResult challengerId artifactHash expected message
      f) : Effect LifecycleStore Failure ServiceResult) t = (.ok result, t) ∧
        result.created = false) ↔
    t.challengerStatus challengerId = .ok expected := by
  constructor
  · rintro ⟨result, hok, -⟩
    obtain ⟨-, -, hstatus, -⟩ := lifecycleResult_eq_ok.mp hok
    exact hstatus
  · intro hstatus
    exact ⟨_, lifecycleResult_eq_ok.mpr ⟨false, again, hstatus, rfl⟩, rfl⟩

theorem approveTrustedPromotion_eq_ok :
    (ServiceCall.approve challengerId approvedBy createdAt : ServiceCall hash).perform s =
      (.ok result, s') ↔
    ∃ decision created, recordTrustedManualPromotionApproval hash s challengerId approvedBy
        createdAt = .ok ((decision, created), s') ∧
      s'.challengerStatus challengerId = .ok .promotionEligible ∧
      result = .approval ⟨decision, created, .promotionEligible⟩ := by
  simp only [ServiceCall.perform, ResearchLifecycleService.approveTrustedPromotion,
    Effect.bind_run_eq_ok, Effect.pure_run, Prod.mk.injEq, Except.ok.injEq, Prod.exists,
    recordWithStatus_eq_ok]
  constructor
  · rintro ⟨_, _, ⟨decision, created, _, _, ⟨hf, hstatus, rfl⟩, rfl, rfl⟩, rfl, rfl⟩
    exact ⟨decision, created, hf, hstatus, rfl⟩
  · rintro ⟨decision, created, hf, hstatus, rfl⟩
    exact ⟨_, s', ⟨decision, created, _, s', ⟨hf, hstatus, rfl⟩, rfl, rfl⟩, rfl, rfl⟩

theorem challengerStatus_eq_ok {status} :
    s.challengerStatus challengerId = .ok status ↔
      ∃ row, s.findManifest challengerId = some row ∧ s.currentStatus row = status := by
  simp only [LifecycleStore.challengerStatus, ok_iff, challengerForUpdate_eq_ok]

theorem approve_again {later} (inv : GateInv s')
    (h : (ServiceCall.approve challengerId approvedBy createdAt : ServiceCall hash).perform s =
    (.ok result, s'))
    (run : Run (lifecycleStep hash) s' later t) :
    (∃ again, (ServiceCall.approve challengerId approvedBy createdAt :
        ServiceCall hash).perform t = (.ok again, t) ∧ again.created = false) ↔
      t.challengerStatus challengerId = .ok .promotionEligible ∧
        CurrentChampion t challengerId := by
  obtain ⟨decision, created, hok, hstatus, -⟩ := approveTrustedPromotion_eq_ok.mp h
  obtain ⟨row, hrow, hcurrent⟩ := challengerStatus_eq_ok.mp hstatus
  have hname : strip approvedBy ≠ "" := by
    simp only [recordTrustedManualPromotionApproval, ok_iff] at hok
    exact hok.1
  have hgrows := grows_of_run run
  have hrow' := hgrows.findManifest hrow
  have happroved := (approved_of_ok hok).mono hgrows
    (eligibleEvaluations_of_run inv hrow hcurrent run)
  have hagain := @recordTrustedManualPromotionApproval_again hash _ _ _ _ createdAt
    hname happroved hrow'
  constructor
  · rintro ⟨again, hperform, hcreated⟩
    obtain ⟨decision', created', hok', hstatus', rfl⟩ := approveTrustedPromotion_eq_ok.mp hperform
    obtain rfl : created' = false := hcreated
    exact ⟨hstatus', (hagain.mp ⟨decision', hok'⟩).2⟩
  · rintro ⟨hstatus', hchampion⟩
    obtain ⟨row', hfound, hcurrent'⟩ := challengerStatus_eq_ok.mp hstatus'
    obtain rfl := Option.some.inj (hrow'.symm.trans hfound)
    obtain ⟨decision', hok'⟩ := hagain.mpr ⟨hcurrent', hchampion⟩
    exact ⟨_, approveTrustedPromotion_eq_ok.mpr ⟨decision', false, hok', hstatus', rfl⟩, rfl⟩

/-- A call that was accepted is repeated after any later calls of the repository: it changes nothing
and reports nothing new exactly when the Challenger is settled as the call left it. -/
theorem retry_iff {taken later : List (LifecycleStore × LifecycleCall hash)}
    {call : ServiceCall hash} {result : ServiceResult}
    (before : Run (lifecycleStep hash) {} taken s) (accepted : call.perform s = (.ok result, s'))
    (after : Run (lifecycleStep hash) s' later t) :
    (∃ again, call.perform t = (.ok again, t) ∧ again.created = false) ↔ call.Settled t := by
  have hgrows := grows_of_run after
  cases call with
  | falsification report =>
    obtain ⟨created, hok, -⟩ := lifecycleResult_eq_ok.mp accepted
    exact lifecycleResult_again (recordFalsificationReport_again hok hgrows)
  | replay artifact =>
    obtain ⟨created, hok, -⟩ := lifecycleResult_eq_ok.mp accepted
    exact lifecycleResult_again (recordReplayArtifact_again hok hgrows)
  | artifact bundle createdAt =>
    obtain ⟨created, hok, -⟩ := lifecycleResult_eq_ok.mp accepted
    exact lifecycleResult_again (registerCandidateArtifact_again hok hgrows)
  | summary evidence summary =>
    obtain ⟨created, hok, -⟩ := lifecycleResult_eq_ok.mp accepted
    exact lifecycleResult_again (recordShadowPerformanceSummary_again hok hgrows)
  | summaryV2 summary =>
    obtain ⟨created, hok, -⟩ := lifecycleResult_eq_ok.mp accepted
    exact lifecycleResult_again (recordShadowPerformanceSummaryV2_again hok hgrows)
  | startShadow challengerId idempotencyKey createdAt =>
    obtain ⟨created, hok, -⟩ := lifecycleResult_eq_ok.mp accepted
    exact lifecycleResult_again
      (startShadowEvaluation_again hok hgrows fun hpair => armsOf_of_run after hpair)
  | approve challengerId approvedBy createdAt =>
    obtain ⟨decision, created, hok, -⟩ := approveTrustedPromotion_eq_ok.mp accepted
    have inv : GateInv s := before.inv gateInv_start GateInv.keep
    exact approve_again (inv.effect (recordTrustedManualPromotionApproval_effect hok))
      accepted after

def firstArtifact : ServiceCall sampleHashing := .artifact firstLine.bundle 13

theorem firstArtifact_run : ∃ taken s result s' later t,
    Run (lifecycleStep sampleHashing) {} taken s ∧ firstArtifact.perform s = (.ok result, s') ∧
    Run (lifecycleStep sampleHashing) s' later t ∧
    t.challengerStatus firstLine.manifest.challengerId = .ok .shadowPending := by
  have heval : (((lineCalls "gamma").take 4).foldlM (lifecycleStep sampleHashing) {}).toOption.any
      (fun s => (firstArtifact.perform s).1.toOption.any (fun _ => true) ∧
        ((((lineCalls "gamma").drop 5).take 4).foldlM (lifecycleStep sampleHashing)
          (firstArtifact.perform s).2).toOption.any fun t =>
          (t.challengerStatus firstLine.manifest.challengerId).toOption.any (· = .shadowPending)) =
      true := by
    decide +kernel
  obtain ⟨s, hbefore, hs⟩ := exists_of_any heval
  obtain ⟨hfirst, hlater⟩ := of_decide_eq_true hs
  obtain ⟨t, hafter, ht⟩ := exists_of_any hlater
  obtain ⟨taken, -, before⟩ := Run.of_foldlM hbefore
  obtain ⟨later, -, after⟩ := Run.of_foldlM hafter
  obtain ⟨result, hresult, -⟩ := exists_of_any hfirst
  obtain ⟨status, hstatus, hpending⟩ := exists_of_any ht
  obtain rfl := of_decide_eq_true hpending
  exact ⟨taken, s, result, _, later, t, before, Prod.ext hresult rfl, after, hstatus⟩

/-- The Challenger is past `PROPOSED`, so that the same registration is refused. -/
theorem firstArtifact_refused : ∃ taken s result s' later t,
    Run (lifecycleStep sampleHashing) {} taken s ∧ firstArtifact.perform s = (.ok result, s') ∧
    Run (lifecycleStep sampleHashing) s' later t ∧
    ¬∃ again, firstArtifact.perform t = (.ok again, t) ∧ again.created = false := by
  obtain ⟨taken, s, result, s', later, t, before, accepted, after, hstatus⟩ := firstArtifact_run
  refine ⟨taken, s, result, s', later, t, before, accepted, after, ?_⟩
  rintro ⟨again, hagain, -⟩
  obtain ⟨-, -, hproposed, -⟩ := lifecycleResult_eq_ok.mp hagain
  exact absurd (hstatus.symm.trans hproposed) (by decide)

/-- Before that the registration may be repeated. -/
theorem firstArtifact_repeated : ∃ s s' again, firstArtifact.perform s = (.ok again, s') ∧
    ∃ again, firstArtifact.perform s' = (.ok again, s') ∧ again.created = false := by
  obtain ⟨taken, s, result, s', later, t, before, accepted, -, -⟩ := firstArtifact_run
  obtain ⟨created, -, hstatus, -⟩ := lifecycleResult_eq_ok.mp accepted
  exact ⟨s, s', result, accepted, (retry_iff before accepted .start).mpr hstatus⟩

end AdaptiveQuant.ResearchPlane
