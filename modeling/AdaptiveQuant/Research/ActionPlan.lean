import AdaptiveQuant.Research.TrainingView
import Mathlib.Tactic.Positivity

/-! The action plan of a training view. -/

namespace AdaptiveQuant.MetaController

open Guard Sequence List
open ResearchPlane (ExperimentOutcomeEvent ResearchMemorySnapshot ResearchActionKind)

variable {K : Type} [Field K] [LinearOrder K] [IsStrictOrderedRing K]

section Bounds

variable {bound : K}

theorem sum_within {values : List K} (h : ∀ value ∈ values, -bound ≤ value ∧ value ≤ bound) :
    -(values.length * bound) ≤ values.sum ∧ values.sum ≤ values.length * bound := by
  induction values with
  | nil => simp
  | cons value values ih =>
    rw [forall_mem_cons] at h
    obtain ⟨hlow, hhigh⟩ := ih h.2
    obtain ⟨hvalue, hvalue'⟩ := h.1
    rw [sum_cons, length_cons]
    push_cast
    constructor
    · linarith
    · linarith

theorem fmean_within {values : List K} (hne : values ≠ [])
    (h : ∀ value ∈ values, -bound ≤ value ∧ value ≤ bound) :
    -bound ≤ fmean values ∧ fmean values ≤ bound := by
  have hpos : (0 : K) < values.length := by exact_mod_cast length_pos_iff.mpr hne
  obtain ⟨hlow, hhigh⟩ := sum_within h
  unfold fmean
  rw [le_div_iff₀ hpos, div_le_iff₀ hpos]
  constructor
  · linarith
  · linarith

theorem shrunkMean_within {priorStrength parent : K} {selected : List K}
    (hprior : 0 < priorStrength) (hparent : -bound ≤ parent ∧ parent ≤ bound)
    (h : ∀ value ∈ selected, -bound ≤ value ∧ value ≤ bound) :
    -bound ≤ shrunkMean priorStrength parent selected ∧
      shrunkMean priorStrength parent selected ≤ bound := by
  have hpos : 0 < priorStrength + selected.length := by positivity
  obtain ⟨hlow, hhigh⟩ := sum_within h
  have hparentLow := mul_le_mul_of_nonneg_left hparent.1 hprior.le
  have hparentHigh := mul_le_mul_of_nonneg_left hparent.2 hprior.le
  unfold shrunkMean
  rw [le_div_iff₀ hpos, div_le_iff₀ hpos]
  constructor
  · linarith
  · linarith

end Bounds

section Scores

variable {parameters : MetaControllerParameters K}

theorem rewards_within {observations} :
    ∀ value ∈ rewards parameters observations,
      -parameters.rewardClip ≤ value ∧ value ≤ parameters.rewardClip := by
  intro value hvalue
  obtain ⟨observation, -, hreward⟩ := mem_filterMap.mp hvalue
  obtain ⟨lcb, -, rfl⟩ := Option.map_eq_some_iff.mp hreward
  have hclip := parameters.rewardClip_pos
  exact ⟨le_max_left _ _, max_le (by linarith) (min_le_left _ _)⟩

theorem parentMean_within {globalMean : K} {parents}
    (hglobal : -parameters.rewardClip ≤ globalMean ∧ globalMean ≤ parameters.rewardClip) :
    -parameters.rewardClip ≤ parentMean parameters globalMean parents ∧
      parentMean parameters globalMean parents ≤ parameters.rewardClip := by
  unfold parentMean
  cases hfound : parents.findSome? fun parent =>
      if rewards parameters parent.observations = [] then none
      else some (fmean (rewards parameters parent.observations)) with
  | none => exact hglobal
  | some value =>
    obtain ⟨parent, -, hparent⟩ := exists_of_findSome?_eq_some hfound
    split at hparent
    · cases hparent
    · rename_i hne
      cases hparent
      exact fmean_within hne rewards_within

theorem globalMean_within (observations : List (MetaControllerObservation K)) :
    -parameters.rewardClip ≤ globalMean parameters observations ∧
      globalMean parameters observations ≤ parameters.rewardClip := by
  have hclip := parameters.rewardClip_pos
  unfold globalMean
  split
  · exact ⟨by linarith, hclip.le⟩
  · exact fmean_within ‹_› rewards_within

variable {sqrt log1p : K → K} {context : ResearchContext}

omit [Field K] [LinearOrder K] [IsStrictOrderedRing K] in
theorem selectBucket_reason (context : ResearchContext)
    (observations : List (MetaControllerObservation K)) :
    (selectBucket ⟨.backoffAction, observations⟩ (narrowBuckets context observations)).1.reason ∉
      [MetaControllerReasonCode.untriedExploration, .positiveMaturedReward,
        .technicalFailurePenalty] := by
  have hselected (widest : Bucket K) (buckets : List (Bucket K)) :
      (selectBucket widest buckets).1 = widest ∨ (selectBucket widest buckets).1 ∈ buckets := by
    induction buckets with
    | nil => exact .inl rfl
    | cons bucket rest ih =>
      unfold selectBucket
      split
      · exact .inr mem_cons_self
      · exact ih.imp_right (mem_cons_of_mem _)
  rcases hselected ⟨.backoffAction, observations⟩ (narrowBuckets context observations) with h | h
  · rw [h]
    simp
  · obtain ⟨agreement, hagreement, heq⟩ := mem_map.mp h
    rw [← heq]
    have hreasons : ∀ agreement ∈ agreements context, agreement.1 ∉
        [MetaControllerReasonCode.untriedExploration, .positiveMaturedReward,
          .technicalFailurePenalty] := by
      simp [agreements]
    exact hreasons agreement hagreement

theorem scoredAction_check {action} (haction : action ≠ .unknownLegacy)
    (observations : List (MetaControllerObservation K)) (mean : K) (total : ℕ) :
    (scoredAction sqrt log1p action context observations parameters mean total).check = .ok () := by
  have hbonus : 0 ≤ (scoredAction sqrt log1p action context observations parameters mean
      total).explorationBonus := le_max_of_le_left parameters.explorationFloor_nonneg
  have hpenalty : 0 ≤ (scoredAction sqrt log1p action context observations parameters mean
      total).technicalFailurePenalty := by
    refine mul_nonneg parameters.technicalFailureWeight_nonneg ?_
    positivity
  have hnodup : (scoredAction sqrt log1p action context observations parameters mean
      total).reasonCodes.Nodup := by
    have hreason := selectBucket_reason context (observations.filter (·.primaryActionKind = action))
    simp only [mem_cons, not_mem_nil, or_false, not_or] at hreason
    simp only [scoredAction]
    split_ifs <;> simp [hreason.1, hreason.2.1, hreason.2.2]
  have hkind : (scoredAction sqrt log1p action context observations parameters mean
      total).actionKind ≠ .unknownLegacy := haction
  simp only [RankedResearchAction.check, fieldCheck_eq_nil.mpr hbonus,
    fieldCheck_eq_nil.mpr hpenalty, append_nil, ne_eq, not_true]
  rw [raiseIf_neg _ hkind, raiseIf_neg _ (not_not.mpr hnodup)]
  rfl

theorem scoredAction_within (action : ResearchActionKind)
    (observations : List (MetaControllerObservation K)) (total : ℕ) :
    -parameters.rewardClip ≤ (scoredAction sqrt log1p action context observations parameters
        (globalMean parameters observations) total).shrunkRewardMean ∧
      (scoredAction sqrt log1p action context observations parameters
        (globalMean parameters observations) total).shrunkRewardMean ≤ parameters.rewardClip :=
  shrunkMean_within parameters.priorStrength_pos
    (parentMean_within (globalMean_within observations)) rewards_within

end Scores

section Ranking

variable {sqrt log1p : K → K} {request : PlanRequest K}
  {observations : List (MetaControllerObservation K)}

def entryOf (sqrt log1p : K → K) (request : PlanRequest K)
    (observations : List (MetaControllerObservation K)) (action : ResearchActionKind) :
    RankedResearchAction K :=
  scoredAction sqrt log1p action request.context observations request.parameters
    (globalMean request.parameters observations) (rewards request.parameters observations).length

def ranking (sqrt log1p : K → K) (request : PlanRequest K)
    (observations : List (MetaControllerObservation K)) : List (RankedResearchAction K) :=
  sortedBy rankingKey ((sortedBy ResearchActionKind.value request.availableActionKinds.dedup).map
    (entryOf sqrt log1p request observations))

omit [IsStrictOrderedRing K] in
theorem mem_ranking {item} :
    item ∈ ranking sqrt log1p request observations ↔
    ∃ action ∈ request.availableActionKinds, entryOf sqrt log1p request observations action =
      item := by
  simp only [ranking, mem_sortedBy, mem_map, mem_dedup]

omit [IsStrictOrderedRing K] in
theorem ranking_kinds_nodup :
    ((ranking sqrt log1p request observations).map (·.actionKind)).Nodup := by
  refine ((sortedBy_perm _ _).map _).nodup_iff.mpr ?_
  rw [map_map, show (fun item : RankedResearchAction K => item.actionKind) ∘
    entryOf sqrt log1p request observations = id from rfl, map_id]
  exact (sortedBy_perm _ _).nodup_iff.mpr (nodup_dedup _)

omit [IsStrictOrderedRing K] in
theorem rankActions_eq_ok {ranked} (h : rankActions sqrt log1p request observations = .ok ranked) :
    ranked = ranking sqrt log1p request observations := by
  simp only [rankActions, ok_iff] at h
  obtain ⟨-, entries, hentries, rfl⟩ := h
  have hmap := map_of_mapM_eq_ok (g := id) (k := entryOf sqrt log1p request observations)
    (fun action entry hentry => by
      simp only [scoreAction, ok_iff] at hentry
      obtain ⟨_, -, rfl⟩ := hentry
      rfl) hentries
  rw [map_id] at hmap
  rw [hmap]
  rfl

/-- The checks that the planner makes of its request. -/
structure PlanRequest.Accepted (request : PlanRequest K) (snapshot : ResearchMemorySnapshot K) :
    Prop where
  after : snapshot.createdAt ≤ request.generatedAt
  budget : 0 < request.maximumTotalSubmissions
  available : request.availableActionKinds ≠ []
  typed : .unknownLegacy ∉ request.availableActionKinds

theorem rankActions_ok {snapshot} (accepted : request.Accepted snapshot) :
    rankActions sqrt log1p request observations =
      .ok (ranking sqrt log1p request observations) := by
  have hactions : ¬(sortedBy ResearchActionKind.value request.availableActionKinds.dedup = [] ∨
      .unknownLegacy ∈ sortedBy ResearchActionKind.value request.availableActionKinds.dedup) := by
    rw [sortedBy_eq_nil, dedup_eq_nil, mem_sortedBy, mem_dedup, not_or]
    exact ⟨accepted.available, accepted.typed⟩
  have hentry : ∀ action ∈ sortedBy ResearchActionKind.value request.availableActionKinds.dedup,
      scoreAction sqrt log1p action request.context observations request.parameters
          (globalMean request.parameters observations)
          (rewards request.parameters observations).length =
        .ok (entryOf sqrt log1p request observations action) := by
    intro action haction
    rw [mem_sortedBy, mem_dedup] at haction
    have hlegacy : action ≠ .unknownLegacy := fun heq => accepted.typed (heq ▸ haction)
    rw [scoreAction, scoredAction_check hlegacy]
    rfl
  simp only [rankActions, raiseIf_neg _ hactions, mapM_eq_ok hentry, ok_bind]
  rfl

end Ranking

section Budgets

variable {total funded : ℕ} {ranked : List (RankedResearchAction K)}

omit [Field K] [LinearOrder K] [IsStrictOrderedRing K] in
theorem allocate_budgets : (allocate total funded ranked).map (·.allocatedSubmissionBudget) =
    (List.range ranked.length).map (Apportionment.share total funded) := by
  refine ext_getElem (by simp [allocate]) fun i hi hi' => ?_
  simp [allocate]

omit [Field K] [LinearOrder K] [IsStrictOrderedRing K] in
theorem allocate_kinds : (allocate total funded ranked).map (·.actionKind) =
    ranked.map (·.actionKind) := by
  refine ext_getElem (by simp [allocate]) fun i hi hi' => ?_
  simp [allocate]

omit [LinearOrder K] [IsStrictOrderedRing K] in
theorem allocate_keys : (allocate total funded ranked).map rankingKey = ranked.map rankingKey := by
  refine ext_getElem (by simp [allocate]) fun i hi hi' => ?_
  simp [allocate, rankingKey]

omit [Field K] [LinearOrder K] [IsStrictOrderedRing K] in
theorem mem_allocate {item} (h : item ∈ allocate total funded ranked) :
    ∃ entry ∈ ranked, item = { entry with
      allocatedSubmissionBudget := item.allocatedSubmissionBudget } := by
  obtain ⟨i, hi, rfl⟩ := mem_mapIdx.mp h
  exact ⟨ranked[i], getElem_mem hi, rfl⟩

omit [Field K] [LinearOrder K] [IsStrictOrderedRing K] in
theorem exists_mem_allocate {entry} (h : entry ∈ ranked) :
    ∃ item ∈ allocate total funded ranked, item.actionKind = entry.actionKind ∧
      item.score = entry.score := by
  obtain ⟨i, hi, rfl⟩ := getElem_of_mem h
  exact ⟨_, mem_mapIdx.mpr ⟨i, hi, rfl⟩, rfl, rfl⟩

omit [Field K] [LinearOrder K] [IsStrictOrderedRing K] in
theorem allocate_getElem? {place : ℕ} {item}
    (h : (allocate total funded ranked)[place]? = some item) :
    item.allocatedSubmissionBudget = Apportionment.share total funded place := by
  obtain ⟨hplace, rfl⟩ := List.getElem?_eq_some_iff.mp h
  simp [allocate]

omit [Field K] [LinearOrder K] [IsStrictOrderedRing K] in
theorem allocate_descending : (allocate total funded ranked).Pairwise fun item later =>
    later.allocatedSubmissionBudget ≤ item.allocatedSubmissionBudget := by
  rw [← pairwise_map (f := RankedResearchAction.allocatedSubmissionBudget)
    (R := fun budget later => later ≤ budget), allocate_budgets, pairwise_map]
  exact pairwise_lt_range.imp fun hlt => Apportionment.share_antitone hlt.le

omit [Field K] [LinearOrder K] [IsStrictOrderedRing K] in
theorem allocate_even {item other} (hitem : item ∈ allocate total funded ranked)
    (hother : other ∈ allocate total funded ranked) (hfunded : 0 < item.allocatedSubmissionBudget)
    (hfunded' : 0 < other.allocatedSubmissionBudget) :
    item.allocatedSubmissionBudget ≤ other.allocatedSubmissionBudget + 1 := by
  obtain ⟨i, hi⟩ := List.getElem?_of_mem hitem
  obtain ⟨j, hj⟩ := List.getElem?_of_mem hother
  rw [allocate_getElem? hi] at hfunded ⊢
  rw [allocate_getElem? hj] at hfunded' ⊢
  refine Apportionment.share_le_succ ?_ ?_
  · by_contra hlast
    rw [Apportionment.share_of_le (not_lt.mp hlast)] at hfunded
    exact absurd hfunded (lt_irrefl 0)
  · by_contra hlast
    rw [Apportionment.share_of_le (not_lt.mp hlast)] at hfunded'
    exact absurd hfunded' (lt_irrefl 0)

omit [Field K] [LinearOrder K] [IsStrictOrderedRing K] in
theorem countP_funded_le : (allocate total funded ranked).countP (0 < ·.allocatedSubmissionBudget) ≤
    funded := by
  have hmap := countP_map (p := fun budget : ℕ => decide (0 < budget))
    (f := RankedResearchAction.allocatedSubmissionBudget) (l := allocate total funded ranked)
  rw [allocate_budgets, countP_map] at hmap
  have hle : (List.range ranked.length).countP (fun i => 0 < Apportionment.share total funded i) ≤
      min ranked.length funded := Apportionment.countP_share_le ranked.length
  exact (hmap ▸ hle).trans (min_le_right _ _)

end Budgets

section Plan

variable {sqrt log1p : K → K} {digests : PlanDigests K} {request : PlanRequest K}
  {snapshot : ResearchMemorySnapshot K} {view : MetaControllerTrainingView K}
  {plan : ResearchActionPlan K}

omit [IsStrictOrderedRing K] in
theorem plan_rankedActions
    (h : buildResearchActionPlan sqrt log1p digests request snapshot view = .ok plan) :
    plan.rankedActions = allocate request.maximumTotalSubmissions
      (fundedCount request (ranking sqrt log1p request view.observations))
      (ranking sqrt log1p request view.observations) := by
  simp only [buildResearchActionPlan, ok_iff] at h
  obtain ⟨-, -, -, -, ranked, hranked, _, -, rfl⟩ := h
  rw [rankActions_eq_ok hranked]
  rfl

/-- What the claim asks of one plan. -/
structure PlanSound (digests : PlanDigests K) (request : PlanRequest K)
    (plan : ResearchActionPlan K) : Prop where
  total : plan.maximumTotalSubmissions = request.maximumTotalSubmissions
  sum : (plan.rankedActions.map (·.allocatedSubmissionBudget)).sum = request.maximumTotalSubmissions
  funded : ∃ count ≤ request.parameters.maximumActionsPerCycle, ∀ place item,
    plan.rankedActions[place]? = some item →
      (place < count → 1 ≤ item.allocatedSubmissionBudget) ∧
      (count ≤ place → item.allocatedSubmissionBudget = 0)
  descending : plan.rankedActions.Pairwise fun item later =>
    later.allocatedSubmissionBudget ≤ item.allocatedSubmissionBudget
  even : ∀ item ∈ plan.rankedActions, ∀ other ∈ plan.rankedActions,
    0 < item.allocatedSubmissionBudget → 0 < other.allocatedSubmissionBudget →
      item.allocatedSubmissionBudget ≤ other.allocatedSubmissionBudget + 1
  within : ∀ item ∈ plan.rankedActions, -request.parameters.rewardClip ≤ item.shrunkRewardMean ∧
    item.shrunkRewardMean ≤ request.parameters.rewardClip
  valid : plan.check digests = .ok ()

omit [IsStrictOrderedRing K] in
theorem plan_check_eq_ok : plan.check digests = .ok () ↔
    plan.contextHash = plan.context.contextHash ∧ (plan.rankedActions.map (·.actionKind)).Nodup ∧
    (plan.rankedActions.map (·.allocatedSubmissionBudget)).sum = plan.maximumTotalSubmissions ∧
    plan.rankedActions.countP (0 < ·.allocatedSubmissionBudget) ≤ plan.maximumActions ∧
    sortedBy rankingKey plan.rankedActions = plan.rankedActions ∧
    digests.plan plan.toResearchActionPlanContent = plan.planHash := by
  simp only [ResearchActionPlan.check, ok_iff, ne_eq, not_not, not_lt]

theorem plan_ok (accepted : request.Accepted snapshot)
    (hsnapshot : view.researchMemorySnapshotHash = snapshot.snapshotHash)
    (hincluded : ∀ observation ∈ view.observations,
      observation.eventHash ∈ snapshot.statistics.includedEventHashes) :
    ∃ plan, buildResearchActionPlan sqrt log1p digests request snapshot view = .ok plan ∧
      PlanSound digests request plan := by
  have hranked : rankActions sqrt log1p request view.observations = _ := rankActions_ok accepted
  have hkinds := @ranking_kinds_nodup K _ _ sqrt log1p request view.observations
  have hwithin : ∀ item ∈ ranking sqrt log1p request view.observations,
      -request.parameters.rewardClip ≤ item.shrunkRewardMean ∧
        item.shrunkRewardMean ≤ request.parameters.rewardClip := by
    intro item hitem
    obtain ⟨action, -, rfl⟩ := mem_ranking.mp hitem
    exact scoredAction_within action view.observations _
  have hsorted : (ranking sqrt log1p request view.observations).Pairwise
      fun item later => rankingKey item ≤ rankingKey later := sortedBy_pairwise _ _
  have hne : ranking sqrt log1p request view.observations ≠ [] := by
    obtain ⟨action, haction⟩ := exists_mem_of_ne_nil _ accepted.available
    exact ne_nil_of_mem (mem_ranking.mpr ⟨action, haction, rfl⟩)
  generalize ranking sqrt log1p request view.observations = ranked at *
  have hlength : 0 < ranked.length := length_pos_iff.mpr hne
  have hactions := request.parameters.maximumActionsPerCycle_pos
  have hbudget := accepted.budget
  have hcount : 0 < fundedCount request ranked ∧ fundedCount request ranked ≤ ranked.length ∧
      fundedCount request ranked ≤ request.maximumTotalSubmissions ∧
      fundedCount request ranked ≤ request.parameters.maximumActionsPerCycle := by
    unfold fundedCount
    omega
  obtain ⟨hpos, hplaces, hsubmissions, hmaximum⟩ := hcount
  have hsum : ((allocate request.maximumTotalSubmissions (fundedCount request ranked) ranked).map
      (·.allocatedSubmissionBudget)).sum = request.maximumTotalSubmissions := by
    rw [allocate_budgets, Apportionment.sum_share hpos hplaces]
  have hnodup : ((allocate request.maximumTotalSubmissions (fundedCount request ranked) ranked).map
      (·.actionKind)).Nodup := by
    rw [allocate_kinds]
    exact hkinds
  have hordered : sortedBy rankingKey (allocate request.maximumTotalSubmissions
      (fundedCount request ranked) ranked) = allocate request.maximumTotalSubmissions
        (fundedCount request ranked) ranked := by
    refine sortedBy_eq_self _ ?_
    rw [← pairwise_map (f := rankingKey) (R := fun key later => key ≤ later), allocate_keys,
      pairwise_map]
    exact hsorted
  have hfunded := (@countP_funded_le K request.maximumTotalSubmissions (fundedCount request ranked)
    ranked).trans hmaximum
  have hincluded' : ¬∃ observation ∈ view.observations,
      observation.eventHash ∉ snapshot.statistics.includedEventHashes := by
    rintro ⟨observation, hobservation, hout⟩
    exact hout (hincluded observation hobservation)
  have hcheck : (ResearchActionPlan.mk (planContent digests request snapshot view ranked)
      (digests.plan (planContent digests request snapshot view ranked))).check digests = .ok () :=
    plan_check_eq_ok.mpr ⟨rfl, hnodup, hsum, hfunded, hordered, rfl⟩
  refine ⟨⟨planContent digests request snapshot view ranked, _⟩, ?_, rfl, hsum,
    ⟨fundedCount request ranked, hmaximum, fun place item hitem => ?_⟩, allocate_descending,
    fun item hitem other hother => allocate_even hitem hother, fun item hitem => ?_, hcheck⟩
  · unfold buildResearchActionPlan
    rw [raiseIf_neg _ (not_not.mpr hsnapshot), ok_bind, raiseIf_neg _ hincluded', ok_bind,
      raiseIf_neg _ (not_lt.mpr accepted.after), ok_bind, raiseIf_neg _ hbudget.ne',
        ok_bind, hranked,
      ok_bind]
    simp only [hcheck, ok_bind]
    rfl
  · rw [allocate_getElem? hitem]
    exact ⟨fun hlt => Apportionment.share_pos hsubmissions hlt, Apportionment.share_of_le⟩
  · obtain ⟨entry, hentry, heq⟩ := mem_allocate hitem
    rw [heq]
    exact hwithin entry hentry

end Plan

end AdaptiveQuant.MetaController
