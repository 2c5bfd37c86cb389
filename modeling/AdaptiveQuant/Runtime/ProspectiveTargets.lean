import AdaptiveQuant.Domain.StrategyDecision
import AdaptiveQuant.Research.CandidateAbi
import AdaptiveQuant.Research.ShadowOverspend

/-! The weights that the prospective bridge derives, and when they become shadow targets. -/

namespace AdaptiveQuant.Shadow

open Guard Sequence List

def operationError (code : String) : Failure := ⟨.prospectiveShadowOperationError, code, []⟩

def championWeights (parent : StrategyDecisionFields) : Dict String Decimal :=
  let weights := parent.targetWeights.filter fun symbol value => 0 < value ∨ symbol = usdCash
  (if usdCash ∈ weights.keys then weights else weights.set usdCash (1 - weights.values.sum)).sorted

section Candidate

variable {F : Type} [CandidateNumber F]

def riskyWeights (response : CandidateResponseFields F) : Dict String Decimal :=
  (response.targets.filter fun target => 0 < target.targetWeight).foldl
    (fun risky target => risky.set target.symbol (CandidateNumber.decimal target.targetWeight))
    Dict.empty

def challengerWeights (response : CandidateResponseFields F) :
    Except Failure (Dict String Decimal) := do
  let risky := riskyWeights response
  let cash := 1 - risky.values.sum
  raiseIf (cash < 0) (operationError "PROSPECTIVE_SHADOW_CANDIDATE_CASH_NEGATIVE")
  return (risky.set usdCash cash).sorted

end Candidate

theorem mapM_buildTargetWeight {items : List (String × Decimal)} {weights : List TargetWeight} :
    items.mapM (fun item => buildTargetWeight item.1 item.2) = .ok weights ↔
      weights.map (fun w => (w.instrumentId, w.weight)) = items := by
  induction items generalizing weights with
  | nil => rw [mapM_nil, pure_eq_ok, map_eq_nil_iff, eq_comm]
  | cons item rest ih =>
    simp only [mapM_cons, ok_iff, ih]
    constructor
    · rintro ⟨w, hw, ws, hws, rfl⟩
      unfold buildTargetWeight at hw
      split at hw
      · obtain rfl := Except.ok.inj hw
        rw [map_cons, hws]
      · cases hw
    · intro hmap
      obtain ⟨w, ws, rfl, hw, hws⟩ := map_eq_cons_iff.mp hmap
      refine ⟨w, ?_, ws, hws, rfl⟩
      obtain ⟨rfl⟩ := hw
      exact dif_pos ⟨w.nonneg, w.le_one⟩

theorem exists_targetWeights {items} (h : ∀ item ∈ items, 0 ≤ item.2 ∧ item.2 ≤ 1) :
    ∃ weights : List TargetWeight, weights.map (fun w => (w.instrumentId, w.weight)) = items := by
  induction items with
  | nil => exact ⟨[], rfl⟩
  | cons item rest ih =>
    rw [forall_mem_cons] at h
    obtain ⟨weights, hweights⟩ := ih h.2
    exact ⟨⟨item.1, item.2, h.1.1, h.1.2⟩ :: weights, by rw [map_cons, hweights]⟩

theorem sortedItems_sortedUnique (weights : Dict String Decimal) :
    SortedUnique (weights.sortedItems.map (·.1)) := by
  have hle := sortedBy_pairwise (fun item : String × Decimal => item.1) weights.entries
  have hnodup : (weights.sortedItems.map (·.1)).Nodup := weights.sorted.nodup
  refine pairwise_map.mpr (hle.imp₂ (fun a b hab hne => lt_of_le_of_ne hab hne) ?_)
  exact pairwise_map.mp hnodup

variable {weights : Dict String Decimal}

theorem buildShadowTargetDecision_iff {hash : Hashing} {spec : PairRuntimeSpec hash}
    {role : ArmRole} {targetId quoteManifestHash : String}
    {decisionTime signalDataCutoff validUntil : Instant} :
    Succeeds (buildShadowTargetDecision targetId spec role decisionTime signalDataCutoff validUntil
      quoteManifestHash weights) ↔ signalDataCutoff ≤ decisionTime ∧ decisionTime < validUntil ∧
        usdCash ∈ weights.keys ∧ (∀ weight ∈ weights.values, 0 ≤ weight) ∧
        weights.values.sum = 1 := by
  have hperm := sortedBy_perm (fun item : String × Decimal => item.1) weights.entries
  have hsum : (weights.sortedItems.map (·.2)).sum = weights.values.sum := (hperm.map _).sum_eq
  constructor
  · rintro ⟨target, h⟩
    simp only [buildShadowTargetDecision, bind_eq_ok, validate_eq_ok] at h
    obtain ⟨ws, hws, hval⟩ := h
    rw [mapM_buildTargetWeight] at hws
    have hvalid := target.valid
    rw [hval, TargetDecisionFields.check_eq_ok] at hvalid
    obtain ⟨-, hcutoff, hvalidity, -, hcash, htotal⟩ := hvalid.1
    have hkeys : ws.map (·.instrumentId) = weights.sortedItems.map (·.1) := by
      rw [← hws, map_map]
      rfl
    have hvalues : ws.map (·.weight) = weights.sortedItems.map (·.2) := by
      rw [← hws, map_map]
      rfl
    refine ⟨hcutoff, hvalidity, ?_, fun weight hweight => ?_, ?_⟩
    · have hmem : usdCash ∈ ws.map (·.instrumentId) := hcash
      rw [hkeys] at hmem
      exact (hperm.map _).mem_iff.mp hmem
    · have hmem := (hperm.map (·.2)).mem_iff.mpr hweight
      change weight ∈ weights.sortedItems.map (·.2) at hmem
      rw [← hvalues] at hmem
      obtain ⟨w, -, rfl⟩ := mem_map.mp hmem
      exact w.nonneg
    · rw [← hsum, ← hvalues]
      exact htotal
  · rintro ⟨hcutoff, hvalidity, hcash, hnonneg, htotal⟩
    have hle : ∀ weight ∈ weights.values, weight ≤ 1 := fun weight hmem =>
      htotal ▸ single_le_sum hnonneg weight hmem
    have hitems : ∀ item ∈ weights.sortedItems, 0 ≤ item.2 ∧ item.2 ≤ 1 := by
      intro item hitem
      have hmem : item.2 ∈ weights.values := mem_map_of_mem (hperm.mem_iff.mp hitem)
      exact ⟨hnonneg _ hmem, hle _ hmem⟩
    obtain ⟨ws, hws⟩ := exists_targetWeights hitems
    have hkeys : ws.map (·.instrumentId) = weights.sortedItems.map (·.1) := by
      rw [← hws, map_map]
      rfl
    have hvalues : ws.map (·.weight) = weights.sortedItems.map (·.2) := by
      rw [← hws, map_map]
      rfl
    have hcashKey : usdCash ∈ ws.map (·.instrumentId) := by
      rw [hkeys]
      exact (hperm.map _).mem_iff.mpr hcash
    simp only [buildShadowTargetDecision, mapM_buildTargetWeight.mpr hws, ok_bind]
    refine ⟨_, validate_of_ok (TargetDecisionFields.check_eq_ok.mpr ⟨⟨?_, hcutoff, hvalidity, ?_,
      hcashKey, ?_⟩, rfl⟩)⟩
    · rintro rfl
      cases hcashKey
    · show SortedUnique (ws.map (·.instrumentId))
      rw [hkeys]
      exact sortedItems_sortedUnique weights
    · show (ws.map (·.weight)).sum = 1
      rw [hvalues, hsum, htotal]

/-- The weights of a parent decision sum to one, or leave room for the cash they do not mention. -/
def ChampionExact (parent : StrategyDecisionFields) : Prop :=
  if usdCash ∈ parent.targetWeights.keys then parent.targetWeights.values.sum = 1
  else parent.targetWeights.values.sum ≤ 1

instance (parent : StrategyDecisionFields) : Decidable (ChampionExact parent) := by
  unfold ChampionExact; infer_instance

theorem sum_values_sorted (weights : Dict String Decimal) :
    weights.sorted.values.sum = weights.values.sum :=
  ((sortedBy_perm (fun item : String × Decimal => item.1) weights.entries).map _).sum_eq

theorem mem_keys_sorted {symbol : String} :
    symbol ∈ weights.sorted.keys ↔ symbol ∈ weights.keys :=
  ((sortedBy_perm (fun item : String × Decimal => item.1) weights.entries).map _).mem_iff

theorem sum_values_filter {p} (h : ∀ item ∈ weights.entries, p item.1 item.2 = false → item.2 = 0) :
    (weights.filter p).values.sum = weights.values.sum := by
  show ((weights.entries.filter fun entry => p entry.1 entry.2).map (·.2)).sum =
    (weights.entries.map (·.2)).sum
  generalize weights.entries = entries at h ⊢
  induction entries with
  | nil => rfl
  | cons entry rest ih =>
    rw [forall_mem_cons] at h
    cases hp : p entry.1 entry.2 with
    | true =>
      simp only [filter_cons, hp, if_true, map_cons, sum_cons]
      rw [ih h.2]
    | false =>
      simp only [filter_cons, hp, Bool.false_eq_true, if_false, map_cons, sum_cons]
      rw [ih h.2, h.1 hp, zero_add]

theorem values_set_of_notMem {symbol : String} {weight : Decimal} (new : symbol ∉ weights.keys) :
    (weights.set symbol weight).values = weights.values ++ [weight] := by
  show (Dict.setEntries symbol weight weights.entries).map (·.2) = _
  rw [Dict.setEntries_of_notMem new, map_append]
  rfl

theorem championWeights_iff (parent : StrategyDecision) :
    usdCash ∈ (championWeights parent.val).keys ∧
      ((∀ weight ∈ (championWeights parent.val).values, 0 ≤ weight) ∧
        (championWeights parent.val).values.sum = 1 ↔ ChampionExact parent.val) := by
  have hnonneg := parent.weights_nonneg
  let kept := parent.val.targetWeights.filter fun symbol value => 0 < value ∨ symbol = usdCash
  have hsum : kept.values.sum = parent.val.targetWeights.values.sum := by
    refine sum_values_filter fun item hitem hp => ?_
    have hitemNonneg := hnonneg _ (mem_map_of_mem hitem)
    simp only [decide_eq_false_iff_not, not_or, not_lt] at hp
    exact le_antisymm hp.1 hitemNonneg
  have hkept : ∀ weight ∈ kept.values, 0 ≤ weight := by
    intro weight hweight
    obtain ⟨item, hitem, rfl⟩ := mem_map.mp hweight
    exact hnonneg _ (mem_map_of_mem (mem_filter.mp hitem).1)
  have hkeys : usdCash ∈ kept.keys ↔ usdCash ∈ parent.val.targetWeights.keys := by
    simp only [Dict.keys, mem_map, kept, Dict.filter, mem_filter, decide_eq_true_eq]
    constructor
    · rintro ⟨item, ⟨hitem, -⟩, hkey⟩
      exact ⟨item, hitem, hkey⟩
    · rintro ⟨item, hitem, hkey⟩
      exact ⟨item, ⟨hitem, .inr hkey⟩, hkey⟩
  have hweights : championWeights parent.val =
      (if usdCash ∈ kept.keys then kept else kept.set usdCash (1 - kept.values.sum)).sorted := rfl
  rw [hweights, ChampionExact, ← hsum]
  by_cases hcash : usdCash ∈ parent.val.targetWeights.keys
  · rw [if_pos (hkeys.mpr hcash), if_pos hcash, mem_keys_sorted, sum_values_sorted]
    refine ⟨hkeys.mpr hcash, fun h => h.2, fun h => ⟨fun weight hweight => ?_, h⟩⟩
    exact hkept weight (Dict.mem_values_sorted.mp hweight)
  · have hnew : usdCash ∉ kept.keys := fun h => hcash (hkeys.mp h)
    rw [if_neg hnew, if_neg hcash, mem_keys_sorted, sum_values_sorted, values_set_of_notMem hnew,
      sum_append, sum_singleton]
    refine ⟨Dict.mem_keys_set.mpr (.inl rfl), fun h => ?_, fun h =>
      ⟨fun weight hweight => ?_, by ring⟩⟩
    · have hlast := h.1 (1 - kept.values.sum) (Dict.mem_values_sorted.mpr (by
        rw [values_set_of_notMem hnew]; simp))
      linarith
    · have hmem := Dict.mem_values_sorted.mp hweight
      rw [values_set_of_notMem hnew, mem_append, mem_singleton] at hmem
      rcases hmem with hmem | rfl
      · exact hkept weight hmem
      · linarith

section Candidate

variable {F : Type} [CandidateNumber F] {hash : Hashing}

def positiveTargets (response : CandidateResponseFields F) : List (CandidateTarget F) :=
  response.targets.filter fun target => 0 < target.targetWeight

/-- The positive weights sum to at most 1, and none is of cash. -/
def ChallengerWithin (response : CandidateResponseFields F) : Prop :=
  ((positiveTargets response).map fun target => CandidateNumber.decimal target.targetWeight).sum ≤
    1 ∧
    ∀ target ∈ positiveTargets response, target.symbol ≠ usdCash

theorem riskyWeights_entries (response : CandidateResponse hash F) :
    (riskyWeights response.val).entries = (positiveTargets response.val).map fun target =>
      (target.symbol, CandidateNumber.decimal target.targetWeight) := by
  have hnodup : ((positiveTargets response.val).map (·.symbol)).Nodup :=
    response.sorted.nodup.sublist (filter_sublist.map _)
  exact (Dict.entries_foldl_set _ _ hnodup fun _ _ => not_mem_nil).trans (nil_append _)

theorem challengerWeights_iff (response : CandidateResponse hash F) :
    (∃ weights, challengerWeights response.val = .ok weights ∧ usdCash ∈ weights.keys ∧
      (∀ weight ∈ weights.values, 0 ≤ weight) ∧ weights.values.sum = 1) ↔
      ChallengerWithin response.val := by
  let risky := riskyWeights response.val
  have hentries := riskyWeights_entries response
  have hvalues : risky.values = (positiveTargets response.val).map fun target =>
      CandidateNumber.decimal target.targetWeight := by
    show risky.entries.map (·.2) = _
    rw [hentries, map_map]
    rfl
  have hpos : ∀ weight ∈ risky.values, 0 < weight := by
    rw [hvalues]
    intro weight hweight
    obtain ⟨target, htarget, rfl⟩ := mem_map.mp hweight
    exact CandidateNumber.decimal_pos (by simpa using (mem_filter.mp htarget).2)
  have hkeys : usdCash ∈ risky.keys ↔ ∃ target ∈ positiveTargets response.val,
      target.symbol = usdCash := by
    show usdCash ∈ risky.entries.map (·.1) ↔ _
    rw [hentries, map_map, mem_map]
    rfl
  rw [ChallengerWithin, ← hvalues]
  constructor
  · rintro ⟨weights, hok, -, -, htotal⟩
    simp only [challengerWeights, ok_iff, not_lt] at hok
    obtain ⟨hcash, rfl⟩ := hok
    refine ⟨by linarith, fun target htarget hsymbol => ?_⟩
    -- the entry that the candidate made is lost from the sum
    obtain ⟨old, hold⟩ := Dict.mem_keys.mp (hkeys.mpr ⟨target, htarget, hsymbol⟩)
    have hset := Dict.sum_entries_set (fun item : String × Decimal => item.2) risky usdCash
      (1 - risky.values.sum)
    rw [hold, Option.map_some, Option.getD_some] at hset
    rw [sum_values_sorted] at htotal
    have holdPos := hpos old (mem_map_of_mem (Dict.get?_eq_some.mp hold))
    have hbefore : (risky.entries.map fun item => item.2).sum = risky.values.sum := rfl
    have hafter : ((risky.set usdCash (1 - risky.values.sum)).entries.map fun item =>
      item.2).sum = 1 := htotal
    linarith
  · rintro ⟨hle, hcash⟩
    have hnew : usdCash ∉ risky.keys := by
      rw [hkeys]
      rintro ⟨target, htarget, hsymbol⟩
      exact hcash target htarget hsymbol
    refine ⟨(risky.set usdCash (1 - risky.values.sum)).sorted, ?_, ?_, ?_, ?_⟩
    · have hroom : ¬1 - risky.values.sum < 0 := by linarith
      show (raiseIf (1 - risky.values.sum < 0) _ >>= _) = _
      rw [raiseIf_neg _ hroom]
      rfl
    · rw [mem_keys_sorted, Dict.mem_keys_set]
      exact .inl rfl
    · intro weight hweight
      have hmem := Dict.mem_values_sorted.mp hweight
      rw [values_set_of_notMem hnew, mem_append, mem_singleton] at hmem
      rcases hmem with hmem | rfl
      · exact (hpos weight hmem).le
      · linarith
    · rw [sum_values_sorted, values_set_of_notMem hnew, sum_append, sum_singleton]
      ring

end Candidate

def thirdPart : Decimal := 3333333333333333333333333333 / 10000000000000000000000000000

def sampleDecision (qqq spy cash : Decimal) : StrategyDecisionFields where
  versions := ⟨"config", "code", "model", "source"⟩
  algorithmVersion := "q1_math_core_v1"
  portfolioDecisionId := "decision"
  runId := "parent-run"
  armId := .q1Det
  decisionKind := "STRATEGIC_TARGET"
  scheduledAt := 0
  signalDataCutoff := 0
  portfolioStateAsOf := 0
  quoteAsOf := 0
  decisionCreatedAt := 0
  validUntil := 100
  inputManifest := ⟨⟨"config", "code", "model", "source"⟩, "session", [], [], "manifest"⟩
  targetWeights := ⟨[("QQQ", qqq), ("SPY", spy), (usdCash, cash)],
    (by decide : ["QQQ", "SPY", usdCash].Nodup)⟩
  decisionHash := "hash"

/-- The current weights of two holdings and cash of equal worth, kept on a day without trades. -/
def noTradeDecision : StrategyDecision :=
  ⟨sampleDecision thirdPart thirdPart thirdPart, by decide +kernel⟩

def sampleConstraints : CandidateConstraints ℚ where
  maximumGrossWeight := 1
  minimumCashWeight := 0
  maximumWeightBySymbol := ⟨[("QQQ", 1), ("SPY", 1)], by decide⟩
  numericTolerance := 1 / 1000000000
  gross_pos := by norm_num
  gross_le := le_rfl
  cash_nonneg := le_rfl
  cash_lt := by norm_num
  caps := by simp [Dict.values]
  tolerance_pos := by norm_num
  cash_boundary := by norm_num

def sampleRequest : CandidateRequest ℚ where
  requestId := "request"
  challengerId := "challenger"
  candidateArtifactHash := "artifact"
  strategyId := "core"
  strategyVersion := "v2"
  decisionTime := 0
  signalDataCutoff := 0
  instruments := ["QQQ", "SPY"]
  constraints := sampleConstraints
  requestHash := "request-hash"
  cutoff_le := le_rfl
  nonempty := by decide
  sorted := by decide
  caps_universe := rfl

def sampleResponse : CandidateResponse Hashing.short ℚ where
  val :=
    let response : CandidateResponseFields ℚ :=
      ⟨"request", "request-hash", "challenger", "artifact",
        [⟨"QQQ", 1, 1 / 2⟩, ⟨"SPY", 1, 1 / 2⟩], .nil, ""⟩
    { response with outputHash := Hashing.short.canonicalHash response.payload }
  valid := by decide +kernel

theorem sampleResponse_bound : sampleResponse.val.assertBoundTo sampleRequest = .ok () := by
  decide +kernel

end AdaptiveQuant.Shadow
