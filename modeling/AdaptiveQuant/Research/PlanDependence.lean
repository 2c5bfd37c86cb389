import AdaptiveQuant.Research.ActionPlan
import Mathlib.Analysis.SpecialFunctions.Log.Basic
import Mathlib.Data.List.Forall2

/-! What a plan depends on: the events that may be learned from, in any order, and each result in
the direction of its improvement. -/

namespace AdaptiveQuant.MetaController

open Guard Sequence Relator List
open ResearchPlane (ExperimentOutcomeEvent ResearchMemorySnapshot ResearchActionKind)

variable {K : Type}

/-- The same observation, with a result that is at least as good. -/
structure LcbRaised [LE K] (observation raised : MetaControllerObservation K) : Prop where
  rest : raised = { observation with
    portfolioDeltaSharpeLcb := raised.portfolioDeltaSharpeLcb }
  lcb : Option.Rel (· ≤ ·) observation.portfolioDeltaSharpeLcb raised.portfolioDeltaSharpeLcb

/-- The same observations, with lower bounds that are no smaller. -/
abbrev Raised [LE K] (observations raised : List (MetaControllerObservation K)) : Prop :=
  List.Forall₂ LcbRaised observations raised

section Raised

variable [LE K] {observations raised : List (MetaControllerObservation K)}

variable {p : MetaControllerObservation K → Bool}

theorem Raised.filter
    (hp : ∀ observation lcb, p { observation with portfolioDeltaSharpeLcb := lcb } = p observation)
    (h : Raised observations raised) : Raised (observations.filter p) (raised.filter p) := by
  refine rel_filter (fun observation other hother => ?_) h
  show p observation = true ↔ p other = true
  rw [hother.rest, hp observation other.portfolioDeltaSharpeLcb]

theorem Raised.countP
    (hp : ∀ observation lcb, p { observation with portfolioDeltaSharpeLcb := lcb } = p observation)
    (h : Raised observations raised) : raised.countP p = observations.countP p := by
  rw [countP_eq_length_filter, countP_eq_length_filter, (h.filter hp).length_eq]

end Raised

variable [Field K] [LinearOrder K] [IsStrictOrderedRing K]

section Scores

variable {parameters : MetaControllerParameters K}
  {observations raised : List (MetaControllerObservation K)}

theorem rel_map {α β : Type} {r : α → α → Prop} {s : β → β → Prop} {f g : α → β}
    (hfg : ∀ a b, r a b → s (f a) (g b)) {x y : Option α} (h : Option.Rel r x y) :
    Option.Rel s (x.map f) (y.map g) := by
  cases h with
  | none => exact .none
  | some hab => exact .some (hfg _ _ hab)

theorem economicReward_raised {observation other} (h : LcbRaised observation other) :
    Option.Rel (· ≤ ·) (economicReward parameters observation)
      (economicReward parameters other) := by
  have hlcb := h.lcb
  rw [h.rest] at hlcb ⊢
  refine rel_map (fun lcb lcb' hle => max_le_max_left _ (min_le_min_left _ ?_)) hlcb
  dsimp only
  linarith

theorem Raised.rewards (parameters : MetaControllerParameters K) (h : Raised observations raised) :
    List.Forall₂ (· ≤ ·) (rewards parameters observations) (rewards parameters raised) :=
  rel_filterMap (fun _ _ hraised => economicReward_raised hraised) h

theorem fmean_le {values others : List K} (h : List.Forall₂ (· ≤ ·) values others) :
    fmean values ≤ fmean others := by
  unfold fmean
  rw [← h.length_eq]
  exact div_le_div_of_nonneg_right h.sum_le_sum (Nat.cast_nonneg _)

theorem eq_nil_iff {α β : Type} {r : α → β → Prop} {values : List α} {others : List β}
    (h : List.Forall₂ r values others) : values = [] ↔ others = [] := by
  rw [← length_eq_zero_iff, ← length_eq_zero_iff, h.length_eq]

theorem globalMean_raised (h : Raised observations raised) :
    globalMean parameters observations ≤ globalMean parameters raised := by
  have hrewards := h.rewards parameters
  unfold globalMean
  by_cases hnil : MetaController.rewards parameters observations = []
  · rw [if_pos hnil, if_pos ((eq_nil_iff hrewards).mp hnil)]
  · rw [if_neg hnil, if_neg (fun hnil' => hnil ((eq_nil_iff hrewards).mpr hnil'))]
    exact fmean_le hrewards

/-- Buckets of one reason, with better results in the second. -/
structure BucketRaised (bucket other : Bucket K) : Prop where
  reason : bucket.reason = other.reason
  observations : Raised bucket.observations other.observations

theorem parentMean_raised (parameters : MetaControllerParameters K) {mean mean' : K}
    (hmean : mean ≤ mean') {parents parents'} (h : List.Forall₂ BucketRaised parents parents') :
    parentMean parameters mean parents ≤ parentMean parameters mean' parents' := by
  induction h with
  | nil => exact hmean
  | @cons parent parent' parents parents' hparent _ ih =>
    have hrewards := hparent.observations.rewards parameters
    unfold parentMean at ih ⊢
    rw [List.findSome?_cons, List.findSome?_cons]
    by_cases hnil : MetaController.rewards parameters parent.observations = []
    · rw [if_pos hnil, if_pos ((eq_nil_iff hrewards).mp hnil)]
      exact ih
    · rw [if_neg hnil, if_neg (fun hnil' => hnil ((eq_nil_iff hrewards).mpr hnil'))]
      exact fmean_le hrewards

theorem shrunkMean_raised {priorStrength parent parent' : K} (hprior : 0 < priorStrength)
    (hparent : parent ≤ parent') {selected selected' : List K}
    (h : List.Forall₂ (· ≤ ·) selected selected') :
    shrunkMean priorStrength parent selected ≤ shrunkMean priorStrength parent' selected' := by
  have hsum := h.sum_le_sum
  have hshare := mul_le_mul_of_nonneg_left hparent hprior.le
  unfold shrunkMean
  rw [← h.length_eq]
  refine div_le_div_of_nonneg_right (by linarith) ?_
  positivity

omit [Field K] [IsStrictOrderedRing K] in
theorem narrowBuckets_raised {context} (h : Raised observations raised) :
    List.Forall₂ BucketRaised (narrowBuckets context observations)
      (narrowBuckets context raised) := by
  unfold narrowBuckets
  rw [forall₂_map_left_iff, forall₂_map_right_iff]
  exact forall₂_same.mpr fun agreement _ => ⟨rfl, h.filter fun _ _ => rfl⟩

omit [Field K] [IsStrictOrderedRing K] in
theorem selectBucket_raised {widest widest' : Bucket K} (hwidest : BucketRaised widest widest')
    {buckets buckets'} (h : List.Forall₂ BucketRaised buckets buckets') :
    BucketRaised (selectBucket widest buckets).1 (selectBucket widest' buckets').1 ∧
      List.Forall₂ BucketRaised (selectBucket widest buckets).2
        (selectBucket widest' buckets').2 := by
  induction h with
  | nil => exact ⟨hwidest, .nil⟩
  | @cons bucket bucket' rest rest' hbucket hrest ih =>
    unfold selectBucket
    by_cases hnil : bucket.observations = []
    · rw [if_neg (not_not.mpr hnil),
        if_neg (not_not.mpr ((eq_nil_iff hbucket.observations).mp hnil))]
      exact ih
    · rw [if_pos hnil, if_pos (fun hnil' => hnil ((eq_nil_iff hbucket.observations).mpr hnil'))]
      exact ⟨hbucket, rel_append hrest (.cons hwidest .nil)⟩

variable {sqrt log1p : K → K} {context : ResearchContext}

theorem scoredAction_raised (h : Raised observations raised) (action : ResearchActionKind)
    {mean mean' : K} (hmean : mean ≤ mean') (total : ℕ) :
    (scoredAction sqrt log1p action context observations parameters mean total).score ≤
      (scoredAction sqrt log1p action context raised parameters mean' total).score := by
  have hactions := h.filter (p := (·.primaryActionKind = action)) fun _ _ => rfl
  have hwidest : BucketRaised
      ⟨.backoffAction, observations.filter (·.primaryActionKind = action)⟩
      ⟨.backoffAction, raised.filter (·.primaryActionKind = action)⟩ := ⟨rfl, hactions⟩
  have hnarrow := @narrowBuckets_raised K _ _ _ context hactions
  obtain ⟨hselected, hparents⟩ := selectBucket_raised hwidest hnarrow
  have hrewards := hselected.observations.rewards parameters
  have hfailures := hselected.observations.countP (p := (·.technicalSuccess = some false))
    fun _ _ => rfl
  have hshrunk := shrunkMean_raised parameters.priorStrength_pos
    (parentMean_raised parameters hmean hparents) hrewards
  simp only [scoredAction, ← hrewards.length_eq, ← hselected.observations.length_eq, hfailures]
  linarith

end Scores

section Plan

variable {sqrt log1p : K → K} {digests : PlanDigests K} {contexts : Dict String ResearchContext}
  {snapshot : ResearchMemorySnapshot K} {events : List (ExperimentOutcomeEvent K)}
  {request : PlanRequest K}

/-- The requests may differ in what they identify, not in what they ask. -/
structure PlanRequest.SameQuestion (request other : PlanRequest K) : Prop where
  context : request.context = other.context
  parameters : request.parameters = other.parameters
  available : request.availableActionKinds = other.availableActionKinds
  total : request.maximumTotalSubmissions = other.maximumTotalSubmissions

omit [IsStrictOrderedRing K] in
theorem rankedActions_eq {other snapshot' view view' plan plan'} (same : request.SameQuestion other)
    (hobservations : view.observations = view'.observations)
    (h : buildResearchActionPlan sqrt log1p digests request snapshot view = .ok plan)
    (h' : buildResearchActionPlan sqrt log1p digests other snapshot' view' = .ok plan') :
    plan.rankedActions = plan'.rankedActions := by
  rw [plan_rankedActions h, plan_rankedActions h']
  unfold fundedCount ranking entryOf
  rw [same.context, same.parameters, same.available, same.total, hobservations]

theorem scores_raised {view view' plan plan'}
    (hraised : Raised view.observations view'.observations)
    (h : buildResearchActionPlan sqrt log1p digests request snapshot view = .ok plan)
    (h' : buildResearchActionPlan sqrt log1p digests request snapshot view' = .ok plan') :
    ∀ item ∈ plan.rankedActions, ∃ raised ∈ plan'.rankedActions,
      raised.actionKind = item.actionKind ∧ item.score ≤ raised.score := by
  intro item hitem
  rw [plan_rankedActions h] at hitem
  rw [plan_rankedActions h']
  obtain ⟨entry, hentry, heq⟩ := mem_allocate hitem
  obtain ⟨action, haction, rfl⟩ := mem_ranking.mp hentry
  obtain ⟨raised, hmem, hkind, hscore⟩ := exists_mem_allocate
    (mem_ranking.mpr ⟨action, haction, rfl⟩ :
      entryOf sqrt log1p request view'.observations action ∈ _)
  refine ⟨raised, hmem, ?_, ?_⟩
  · rw [hkind, heq]
    rfl
  · rw [hscore, heq]
    unfold entryOf
    rw [← (hraised.rewards request.parameters).length_eq]
    exact scoredAction_raised hraised action (globalMean_raised hraised) _

/-- The plan of a snapshot and its verified events: it is built and passes its validation, its
ranking depends on the events that may be learned from and not on their order, and better results
lower no score. -/
theorem research_action_plan (matched : MatchesSnapshot snapshot events)
    (accepted : request.Accepted snapshot) :
    ∃ view plan, buildMetaControllerTrainingView digests snapshot events contexts = .ok view ∧
      buildResearchActionPlan sqrt log1p digests request snapshot view = .ok plan ∧
      PlanSound digests request plan ∧
      (∀ snapshot' events' other view' plan', MatchesSnapshot snapshot' events' →
        (events.filter Learnable).Perm (events'.filter Learnable) → request.SameQuestion other →
        buildMetaControllerTrainingView digests snapshot' events' contexts = .ok view' →
        buildResearchActionPlan sqrt log1p digests other snapshot' view' = .ok plan' →
        plan.rankedActions = plan'.rankedActions) ∧
      ∀ view' plan', Raised view.observations view'.observations →
        buildResearchActionPlan sqrt log1p digests request snapshot view' = .ok plan' →
        ∀ item ∈ plan.rankedActions, ∃ raised ∈ plan'.rankedActions,
          raised.actionKind = item.actionKind ∧ item.score ≤ raised.score := by
  obtain ⟨view, hview, hviewOf⟩ := matched.view_ok digests contexts
  obtain ⟨plan, hplan, hsound⟩ := plan_ok accepted hviewOf.snapshot_hash hviewOf.included
  refine ⟨view, plan, hview, hplan, hsound, ?_, ?_⟩
  · intro snapshot' events' other view' plan' matched' hlearnable same hview' hplan'
    obtain ⟨_, hbuilt, hviewOf'⟩ := matched'.view_ok digests contexts
    rw [hview', Except.ok.injEq] at hbuilt
    subst hbuilt
    refine rankedActions_eq same ?_ hplan hplan'
    rw [hviewOf.observations, hviewOf'.observations]
    exact sortedObservations_eq matched.hashes_nodup hlearnable
  · exact fun view' plan' hraised hplan' => scores_raised hraised hplan hplan'

end Plan

/-- An experiment with a new feature whose difference of Sharpe ratios is at least one. -/
def sampleEvent (K : Type) [Field K] : ExperimentOutcomeEvent K where
  eventId := "event"
  experimentId := "experiment"
  origin :=
    { researchCycleId := "cycle"
      proposalId := "proposal"
      challengerId := "challenger"
      parentStrategyId := "core"
      parentStrategyVersion := "v1"
      candidateStrategyVersion := "v2"
      primaryActionKind := .addFeature
      secondaryActionKinds := []
      mechanismTags := []
      informationRole := .learningForward
      decisionAt := 10
      maturityDueAt := 90
      predictedDeltaSharpeLower := none
      predictedDeltaSharpeMedian := none
      predictedDeltaSharpeUpper := none
      complexityDelta := 0
      candidateArtifactHash := none }
  eventSequence := 1
  outcome :=
    { eventKind := .economicOutcomeMatured
      experimentStage := .forward
      evaluationWindowStart := none
      evaluationWindowEnd := none
      availableAt := 100
      maturityStatus := .matured
      technicalSuccess := some true
      technicalFailureCodes := []
      portfolioDeltaSharpePoint := some 1
      portfolioDeltaSharpeLcb := some 1
      portfolioDeltaSharpeUcb := none
      worstCostDeltaSharpeLcb := none
      drawdownDelta := none
      tailLossDelta := none
      turnoverDelta := none
      costDeltaBps := none
      evaluationContractHash := "contract"
      sourceArtifactHashes := []
      sourceDataAvailableAt := []
      supersedesEventId := none
      idempotencyKey := "outcome"
      createdAt := 100 }
  predictionError := none
  eligibleForMetaTraining := true
  previousEventHash := none
  maturationInputHash := "maturation"
  eventHash := "hash"

/-- A later one without a feature, which did worse than its parent. -/
def worseEvent (K : Type) [Field K] : ExperimentOutcomeEvent K :=
  { sampleEvent K with
    eventId := "worse"
    experimentId := "second"
    origin := { (sampleEvent K).origin with primaryActionKind := .removeFeature }
    outcome :=
      { (sampleEvent K).outcome with
        availableAt := 150
        portfolioDeltaSharpePoint := some (-1)
        portfolioDeltaSharpeLcb := some (-1) }
    eventHash := "worse-hash" }

def sampleEvents (K : Type) [Field K] : List (ExperimentOutcomeEvent K) :=
  [sampleEvent K, worseEvent K]

def sampleSnapshot (K : Type) : ResearchMemorySnapshot K where
  snapshotId := "snapshot"
  asOf := 200
  dataAvailableCutoff := 200
  excludedFutureEventCount := 0
  excludedUnmaturedEventCount := 0
  excludedOosEventCount := 0
  excludedMetaAuditEventCount := 0
  excludedInvalidEventCount := 0
  statistics := ⟨["hash", "worse-hash"], [], [], [], ⟨0, none, none⟩⟩
  createdAt := 200
  snapshotHash := "snapshot-hash"

def sampleRequest (K : Type) [Field K] [LinearOrder K] [IsStrictOrderedRing K] : PlanRequest K where
  researchCycleId := "next"
  context := ⟨"regime", "failure", "exposure", "context-hash"⟩
  parameters :=
    { policyVersion := "policy"
      maximumActionsPerCycle := 2
      priorStrength := 1
      explorationCoefficient := 1
      explorationFloor := 1 / 10
      technicalFailureWeight := 1
      rewardClip := 1
      turnoverPenaltyWeight := 1
      turnoverScale := 1
      drawdownPenaltyWeight := 1
      drawdownScale := 1
      costPenaltyWeight := 1
      costScaleBps := 1
      complexityPenaltyWeight := 1
      complexityScale := 1
      maximumActionsPerCycle_pos := by decide
      priorStrength_pos := by positivity
      explorationCoefficient_nonneg := by positivity
      explorationFloor_nonneg := by positivity
      technicalFailureWeight_nonneg := by positivity
      rewardClip_pos := by positivity
      penaltyWeights_nonneg := ⟨zero_le_one, zero_le_one, zero_le_one, zero_le_one⟩
      scales_pos := ⟨one_pos, one_pos, one_pos, one_pos⟩ }
  configHash := "config"
  availableActionKinds := [.removeFeature, .addFeature, .changeExitRule]
  maximumTotalSubmissions := 5
  idempotencyKey := "key"
  generatedAt := 200

def sampleDigests (K : Type) : PlanDigests K :=
  ⟨fun _ _ _ => "view", fun _ => "plan", fun _ _ _ _ _ _ => "id"⟩

omit [LinearOrder K] [IsStrictOrderedRing K] in
theorem sampleSnapshot_matches {events} (h : events.Perm (sampleEvents K)) :
    MatchesSnapshot (sampleSnapshot K) events where
  hashes_nodup := (h.map _).nodup_iff.mpr (show ["hash", "worse-hash"].Nodup by decide)
  included_nodup := show ["hash", "worse-hash"].Nodup by decide
  same hash := (h.map _).mem_iff
  available event hevent := by
    have hmem : event ∈ [sampleEvent K, worseEvent K] := h.mem_iff.mp hevent
    rcases mem_pair.mp hmem with rfl | rfl
    · exact show (100 : Instant) ≤ 200 by decide
    · exact show (150 : Instant) ≤ 200 by decide

theorem sampleRequest_accepted : (sampleRequest K).Accepted (sampleSnapshot K) where
  after := le_refl (200 : Instant)
  budget := Nat.succ_pos 4
  available := cons_ne_nil _ _
  typed := by
    show ResearchActionKind.unknownLegacy ∉ [.removeFeature, .addFeature, .changeExitRule]
    decide

/-- With the real root and logarithm, and the two events in either order. -/
theorem sample_plan : ∃ view plan view' plan',
    buildMetaControllerTrainingView (sampleDigests ℝ) (sampleSnapshot ℝ) (sampleEvents ℝ) .empty =
      .ok view ∧
    buildResearchActionPlan Real.sqrt (fun x => Real.log (1 + x)) (sampleDigests ℝ)
      (sampleRequest ℝ)
      (sampleSnapshot ℝ) view = .ok plan ∧
    PlanSound (sampleDigests ℝ) (sampleRequest ℝ) plan ∧
    buildMetaControllerTrainingView (sampleDigests ℝ) (sampleSnapshot ℝ) (sampleEvents ℝ).reverse
      .empty = .ok view' ∧
    buildResearchActionPlan Real.sqrt (fun x => Real.log (1 + x)) (sampleDigests ℝ)
      (sampleRequest ℝ)
      (sampleSnapshot ℝ) view' = .ok plan' ∧
    plan.rankedActions = plan'.rankedActions := by
  have planned := fun events (h : events.Perm (sampleEvents ℝ)) =>
    @research_action_plan ℝ _ _ _ Real.sqrt (fun x => Real.log (1 + x)) (sampleDigests ℝ) .empty
      (sampleSnapshot ℝ) events (sampleRequest ℝ) (sampleSnapshot_matches h) sampleRequest_accepted
  have hreverse := reverse_perm (sampleEvents ℝ)
  obtain ⟨view, plan, hview, hplan, hsound, hsame, -⟩ := planned _ (.refl _)
  obtain ⟨view', plan', hview', hplan', -⟩ := planned _ hreverse
  exact ⟨view, plan, view', plan', hview, hplan, hsound, hview', hplan',
    hsame _ _ _ view' plan' (sampleSnapshot_matches hreverse) (hreverse.symm.filter _)
      ⟨rfl, rfl, rfl, rfl⟩ hview' hplan'⟩

end AdaptiveQuant.MetaController
