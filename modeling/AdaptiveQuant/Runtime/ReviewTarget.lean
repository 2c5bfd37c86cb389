import AdaptiveQuant.Runtime.LlmReview

/-! Which noon reviews pass their own assertion. -/

namespace AdaptiveQuant.Q1LlmReview

open Guard List
open Quant (RiskyWeights TurnoverRequest Q1MathConfig)
open Q1Overlay (Q1LlmOverlayDecision riskySymbols)
open Settlement (Q1ArmState)

variable {config : Q1MathConfig Decimal} {hash : Hashing}

structure LongOnly (weights : RiskyWeights Decimal) : Prop where
  qqq_nonneg : 0 ≤ weights.qqq
  soxx_nonneg : 0 ≤ weights.soxx
  sum_le : weights.sum ≤ 1

def fullyAllocated (weights : RiskyWeights Decimal) : Dict String Decimal :=
  weights.withCash (1 - weights.sum)

theorem fullyAllocated_sum (weights : RiskyWeights Decimal) :
    (fullyAllocated weights).values.sum = 1 := by
  show weights.qqq + (weights.soxx + (1 - (weights.qqq + weights.soxx) + 0)) = 1
  ring

theorem LongOnly.normalized {weights} (h : LongOnly weights) :
    Quant.normalizedWeightMapping (fullyAllocated weights)
      (config.val.riskySymbols ++ [config.val.cashSymbol]) config =
        .ok (fullyAllocated weights) := by
  obtain ⟨hbounded, hrisky, hcash⟩ := config.bounded
  have hvalid : Quant.validateBasicWeights (fullyAllocated weights) config.val.allocation =
      .ok () := by
    refine Quant.validateBasicWeights_iff.mpr ⟨h.qqq_nonneg, h.soxx_nonneg, ?_, ?_⟩
    · linarith [h.sum_le]
    · rw [add_sub_cancel, sub_self, abs_zero]
      exact hbounded.sumTolerance.le
  have hextras : ((fullyAllocated weights).filter fun symbol value =>
      symbol ∉ ["QQQ"] ++ ["SOXX"] ++ ["USD_CASH"] ∧ value ≠ 0).keys = [] := rfl
  rw [hrisky, hcash]
  simp only [Quant.normalizedWeightMapping, ok_iff, cons_append, nil_append,
    foldlM_cons, foldlM_nil, Quant.nonNegative, not_lt, not_not]
  refine ⟨hextras, fullyAllocated weights, ?_, (), hvalid, rfl⟩
  exact ⟨_, ⟨_, ⟨h.qqq_nonneg, rfl⟩, rfl⟩, _, ⟨_, ⟨h.soxx_nonneg, rfl⟩, rfl⟩, _,
    ⟨_, ⟨sub_nonneg.mpr h.sum_le, rfl⟩, rfl⟩, rfl⟩

theorem normalizedTarget_eq_ok {values target} (h : normalizedTarget values = .ok target) :
    let weights : RiskyWeights Decimal := ⟨values.getD "QQQ" 0, values.getD "SOXX" 0⟩
    LongOnly weights ∧ target = fullyAllocated weights := by
  simp only [normalizedTarget, ok_iff, not_or, not_lt] at h
  obtain ⟨-, ⟨hqqq, hsoxx⟩, hsum, rfl⟩ := h
  exact ⟨⟨hqqq, hsoxx, hsum⟩, rfl⟩

theorem positions_nonneg (state : Q1ArmState) (symbol : String) :
    0 ≤ state.val.positions.getD symbol 0 := by
  have hvalid := state.valid
  simp only [Settlement.Q1ArmStateFields.check, ok_iff, not_exists, not_and, not_lt] at hvalid
  cases hget : state.val.positions.get? symbol with
  | none => rw [Dict.getD, hget, Option.getD_none]
  | some quantity =>
    rw [Dict.getD_of_get? hget]
    exact hvalid.2.1 quantity (Dict.mem_values_of_get? hget)

theorem midpoint_pos (quote : Q1Cycle.DecisionQuote) : 0 < quote.midpoint := by
  have hvalid := quote.valid
  simp only [Q1Cycle.DecisionQuoteFields.check, ok_iff, not_or, not_le] at hvalid
  obtain ⟨-, hbid, hask, -⟩ := hvalid
  exact div_pos (add_pos hbid hask) two_pos

theorem priceOf_pos {quotes : Dict String Q1Cycle.DecisionQuote} {symbol : String} {price : Decimal}
    (h : priceOf (quotes.mapVal fun _ quote => quote.midpoint) symbol = .ok price) : 0 < price := by
  unfold priceOf at h
  rw [Dict.get?_mapVal] at h
  cases hget : quotes.get? symbol with
  | none => simp [hget] at h
  | some quote =>
    simp only [hget, Option.map_some, Except.ok.injEq] at h
    exact h ▸ midpoint_pos quote

theorem usedNormalTurnover_nonneg {fills} {nav used : Decimal}
    (h : usedNormalTurnover fills nav = .ok used) : 0 ≤ used := by
  simp only [usedNormalTurnover, ok_iff, not_le] at h
  obtain ⟨hnav, -, rfl⟩ := h
  positivity

structure Prepared (prepared : PreparedReview) (current deterministic : RiskyWeights Decimal) :
    Prop where
  currentLongOnly : LongOnly current
  deterministicLongOnly : LongOnly deterministic
  weights : prepared.currentWeights = fullyAllocated current
  target : normalizedTarget prepared.targetWeights = .ok (fullyAllocated deterministic)
  nav_pos : 0 < prepared.currentNavUsd
  used_nonneg : 0 ≤ prepared.usedNormalTurnover

theorem prepareReview_ok {state : Q1ArmState} {targetWeights : Dict String Decimal}
    {quotes : Dict String Q1Cycle.DecisionQuote} {fills : List TurnoverFill}
    {prepared : PreparedReview}
    (h : prepareReview state targetWeights quotes fills = .ok prepared) :
    ∃ current, Prepared prepared current
      ⟨prepared.targetWeights.getD "QQQ" 0, prepared.targetWeights.getD "SOXX" 0⟩ := by
  simp only [prepareReview, ok_iff, not_le] at h
  obtain ⟨-, nav, hnav, hpos, weights, hweights, used, hused, target, htarget, rfl⟩ := h
  obtain ⟨hdeterministic, rfl⟩ := normalizedTarget_eq_ok htarget
  simp only [currentWeights, hnav, ok_iff, Except.ok.injEq, exists_eq_left', not_lt] at hweights
  obtain ⟨qqq, hqqq, soxx, hsoxx, hsum, rfl⟩ := hweights
  have hvalue (symbol : String) {price : Decimal} (hprice : 0 < price) :
      0 ≤ state.val.positions.getD symbol 0 * price / nav :=
    div_nonneg (mul_nonneg (positions_nonneg state symbol) hprice.le) hpos.le
  exact ⟨_, ⟨hvalue "QQQ" (priceOf_pos hqqq), hvalue "SOXX" (priceOf_pos hsoxx), hsum⟩,
    hdeterministic, rfl, htarget, hpos, usedNormalTurnover_nonneg hused⟩

structure Reducing (request : TurnoverRequest) (current proposed : RiskyWeights Decimal) :
    Prop where
  currentLongOnly : LongOnly current
  currentWeights : request.currentWeights = fullyAllocated current
  proposedWeights : request.proposedTargetWeights = fullyAllocated proposed
  qqq : 0 ≤ proposed.qqq ∧ proposed.qqq ≤ current.qqq
  soxx : 0 ≤ proposed.soxx ∧ proposed.soxx ≤ current.soxx
  normal : request.emergencyReduction = false ∧ request.bypassNormalTurnoverCap = false
  nav_pos : 0 < request.currentNavUsd
  used_nonneg : 0 ≤ request.usedNormalTurnover

section Reduction

variable {request : TurnoverRequest} {current proposed : RiskyWeights Decimal}

section

variable (h : Reducing request current proposed)

include h

theorem Reducing.proposedLongOnly : LongOnly proposed := by
  refine ⟨h.qqq.1, h.soxx.1, le_trans ?_ h.currentLongOnly.sum_le⟩
  exact add_le_add h.qqq.2 h.soxx.2

theorem Reducing.request_current :
    request.current = current ∧ request.currentCash = 1 - current.sum := by
  unfold TurnoverRequest.current TurnoverRequest.currentCash
  rw [h.currentWeights]
  exact ⟨rfl, rfl⟩

theorem Reducing.request_proposed :
    request.proposed = proposed ∧ request.proposedCash = 1 - proposed.sum := by
  unfold TurnoverRequest.proposed TurnoverRequest.proposedCash
  rw [h.proposedWeights]
  exact ⟨rfl, rfl⟩

theorem Reducing.turnover_eq :
    request.turnover = (current.qqq - proposed.qqq) + (current.soxx - proposed.soxx) := by
  obtain ⟨hcurrent, hcash⟩ := h.request_current
  obtain ⟨hproposed, hproposedCash⟩ := h.request_proposed
  have hqqq := h.qqq.2
  have hsoxx := h.soxx.2
  have hraised : 0 ≤ 1 - proposed.sum - (1 - current.sum) := by
    show 0 ≤ 1 - (proposed.qqq + proposed.soxx) - (1 - (current.qqq + current.soxx))
    linarith
  rw [TurnoverRequest.turnover, hcurrent, hproposed, hcash, hproposedCash,
    abs_of_nonpos (sub_nonpos.mpr hqqq), abs_of_nonpos (sub_nonpos.mpr hsoxx),
    abs_of_nonneg hraised]
  unfold RiskyWeights.sum
  ring

theorem Reducing.accepted : request.Accepted config := by
  obtain ⟨hcurrent, hcash⟩ := h.request_current
  obtain ⟨hproposed, hproposedCash⟩ := h.request_proposed
  refine ⟨h.nav_pos, h.used_nonneg, ⟨?_, ?_⟩, fun hemergency => ?_⟩
  · rw [hcurrent, hcash, h.currentWeights]
    exact h.currentLongOnly.normalized
  · rw [hproposed, hproposedCash, h.proposedWeights]
    exact h.proposedLongOnly.normalized
  · rw [h.normal.1] at hemergency
    cases hemergency

end

/-- The part of the way to the proposed weights that fits in the day's turnover. -/
def reductionScale (config : Q1MathConfig Decimal) (used turnover : Decimal) : Decimal :=
  if Quant.remainingCapacity config used < turnover then
    Quant.remainingCapacity config used / turnover
  else 1

theorem Reducing.alpha_mul (h : Reducing request current proposed) {reduction : Decimal}
    (hnonneg : 0 ≤ reduction) (hle : reduction ≤ request.turnover) :
    request.alpha config * reduction =
      reductionScale config request.usedNormalTurnover request.turnover * reduction := by
  rw [TurnoverRequest.alpha, if_neg (by rw [h.normal.2]; decide), reductionScale]
  by_cases hzero : request.turnover = 0
  · have hnone : reduction = 0 := le_antisymm (hzero ▸ hle) hnonneg
    rw [hnone, mul_zero, mul_zero]
  · rw [if_neg hzero]
    rfl

theorem leg_le_iff {config} {alpha weight target bound : Decimal}
    (hnormal : request.emergencyReduction = false) (halpha : 0 ≤ alpha) (hdown : target ≤ weight) :
    weight + request.leg config alpha weight target ≤ bound ↔
      weight ≤ bound ∨
        (Quant.minimumNotional config request.currentNavUsd ≤
            alpha * (weight - target) * request.currentNavUsd ∧
          weight - alpha * (weight - target) ≤ bound) := by
  have hmove : 0 ≤ alpha * (weight - target) := mul_nonneg halpha (sub_nonneg.mpr hdown)
  have habs : |alpha * (target - weight)| = alpha * (weight - target) := by
    rw [abs_of_nonpos (by linarith)]
    ring
  rw [TurnoverRequest.leg, Quant.keptLeg, hnormal, Bool.false_and, habs]
  by_cases hsmall : alpha * (weight - target) * request.currentNavUsd <
      Quant.minimumNotional config request.currentNavUsd
  · rw [if_pos ⟨rfl, hsmall⟩, add_zero]
    constructor
    · exact .inl
    · rintro (hle | ⟨hkept, -⟩)
      · exact hle
      · exact absurd hsmall (not_lt.mpr hkept)
  · have heq : weight + alpha * (target - weight) = weight - alpha * (weight - target) := by ring
    rw [if_neg fun hboth => hsmall hboth.2, heq]
    constructor
    · exact fun hle => .inr ⟨not_lt.mp hsmall, hle⟩
    · rintro (hle | ⟨-, hle⟩)
      · linarith
      · exact hle

theorem Reducing.executed_between (h : Reducing request current proposed) :
    (0 ≤ (request.executed config (request.alpha config)).qqq ∧
      (request.executed config (request.alpha config)).qqq ≤ current.qqq) ∧
    (0 ≤ (request.executed config (request.alpha config)).soxx ∧
      (request.executed config (request.alpha config)).soxx ≤ current.soxx) := by
  have halpha := Quant.alpha_mem config request
  have hqqq := (@Quant.leg_between config request _ halpha current.qqq proposed.qqq).2
  have hsoxx := (@Quant.leg_between config request _ halpha current.soxx proposed.soxx).2
  rw [max_eq_left h.qqq.2] at hqqq
  rw [max_eq_left h.soxx.2] at hsoxx
  unfold TurnoverRequest.executed
  rw [h.request_current.1, h.request_proposed.1]
  exact ⟨⟨Quant.leg_nonneg halpha h.currentLongOnly.qqq_nonneg h.qqq.1, hqqq⟩,
    ⟨Quant.leg_nonneg halpha h.currentLongOnly.soxx_nonneg h.soxx.1, hsoxx⟩⟩

theorem Reducing.applied (h : Reducing request current proposed) :
    ∃ result, Quant.applyTurnoverControl config hash request = .ok result ∧
      result.executableTargetWeights.foldl
          (fun (target : Dict String Decimal) item => target.set item.1 item.2) .empty =
        fullyAllocated
          (if request.turnover < config.val.turnover.noTradeOneWayThreshold then current
          else request.executed config (request.alpha config)) := by
  obtain ⟨hcurrent, hcash⟩ := h.request_current
  have hband : request.BelowBand config ↔
      request.turnover < config.val.turnover.noTradeOneWayThreshold :=
    ⟨fun hbelow => hbelow.2.2, fun hbelow => ⟨h.normal.1, h.normal.2, hbelow⟩⟩
  by_cases hbelow : request.turnover < config.val.turnover.noTradeOneWayThreshold
  · refine ⟨_, Quant.applyTurnoverControl_eq_ok.mpr ⟨h.accepted, .inl ⟨hband.mpr hbelow, rfl⟩⟩, ?_⟩
    rw [if_pos hbelow, Quant.noTrade_weights, hcash, hcurrent]
    rfl
  · have hexecutable : request.Executable config (request.alpha config) := by
      refine (Quant.executable_iff (Quant.alpha_mem _ _) h.accepted.normalized).mpr ?_
      refine le_trans ?_ h.currentLongOnly.sum_le
      obtain ⟨⟨-, hqqq⟩, -, hsoxx⟩ := @Reducing.executed_between config _ _ _ h
      exact add_le_add hqqq hsoxx
    refine ⟨_, Quant.applyTurnoverControl_eq_ok.mpr ⟨h.accepted, .inr
      ⟨fun hlow => hbelow (hband.mp hlow), _, Quant.interpolationAlpha_normal h.normal.1,
        hexecutable, rfl⟩⟩, ?_⟩
    rw [if_neg hbelow, Quant.rebalance_weights]
    rfl

end Reduction

theorem assertReduceOnly_eq {final current deterministic}
    (hqqq : 0 ≤ final.qqq ∧ final.qqq ≤ current.qqq)
    (hsoxx : 0 ≤ final.soxx ∧ final.soxx ≤ current.soxx) :
    assertReduceOnly (fullyAllocated final) (fullyAllocated current) (fullyAllocated deterministic)
      true =
    if final.qqq ≤ deterministic.qqq ∧ final.soxx ≤ deterministic.soxx then .ok ()
    else .error (q1LlmReviewError "Q1 LLM overlay attempted to increase risk") := by
  have hraises : (∃ symbol ∈ riskySymbols, (fullyAllocated final).getD symbol 0 < 0 ∨
      (fullyAllocated current).getD symbol 0 < (fullyAllocated final).getD symbol 0 ∨
      (true = true ∧ (fullyAllocated deterministic).getD symbol 0 <
        (fullyAllocated final).getD symbol 0)) ↔
      ¬(final.qqq ≤ deterministic.qqq ∧ final.soxx ≤ deterministic.soxx) := by
    have hgetD (w : RiskyWeights Decimal) : (fullyAllocated w).getD "QQQ" 0 = w.qqq ∧
        (fullyAllocated w).getD "SOXX" 0 = w.soxx := ⟨rfl, rfl⟩
    simp only [riskySymbols, mem_cons, not_mem_nil, or_false, exists_eq_or_imp,
      exists_eq_left, hgetD, true_and]
    constructor
    · rintro ((hneg | hgrown | habove) | (hneg | hgrown | habove)) ⟨hq, hs⟩ <;> linarith
    · intro habove
      rw [not_and_or, not_le, not_le] at habove
      rcases habove with habove | habove
      · exact .inl (.inr (.inr habove))
      · exact .inr (.inr (.inr habove))
  unfold assertReduceOnly
  by_cases hbelow : final.qqq ≤ deterministic.qqq ∧ final.soxx ≤ deterministic.soxx
  · rw [if_pos hbelow, raiseIf_neg _ (fun h => hraises.mp h hbelow), ok_bind,
      raiseIf_neg _ (fun h => h (fullyAllocated_sum final))]
  · rw [if_neg hbelow, raiseIf_pos _ (hraises.mpr hbelow)]
    rfl

def PreparedReview.reduction (prepared : PreparedReview) (multiplier : Decimal) (symbol : String) :
    Decimal :=
  prepared.currentWeights.getD symbol 0 -
    min (prepared.currentWeights.getD symbol 0) (prepared.targetWeights.getD symbol 0 * multiplier)

def PreparedReview.turnover (prepared : PreparedReview) (multiplier : Decimal) : Decimal :=
  prepared.reduction multiplier "QQQ" + prepared.reduction multiplier "SOXX"

def PreparedReview.scaledReduction (config : Q1MathConfig Decimal) (prepared : PreparedReview)
    (multiplier : Decimal) (symbol : String) : Decimal :=
  reductionScale config prepared.usedNormalTurnover (prepared.turnover multiplier) *
    prepared.reduction multiplier symbol

/-- A weight that is not above its deterministic one, or comes down to it. -/
def PreparedReview.Reaches (config : Q1MathConfig Decimal) (prepared : PreparedReview)
    (multiplier : Decimal) (symbol : String) : Prop :=
  let current := prepared.currentWeights.getD symbol 0
  let deterministic := prepared.targetWeights.getD symbol 0
  let scaled := prepared.scaledReduction config multiplier symbol
  current ≤ deterministic ∨
    (config.val.turnover.noTradeOneWayThreshold ≤ prepared.turnover multiplier ∧
      Quant.minimumNotional config prepared.currentNavUsd ≤ scaled * prepared.currentNavUsd ∧
      current - scaled ≤ deterministic)

instance {prepared : PreparedReview} {multiplier : Decimal} {symbol : String} :
    Decidable (prepared.Reaches config multiplier symbol) :=
  inferInstanceAs (Decidable (_ ∨ (_ ∧ _ ∧ _)))

theorem multiplier_nonneg (policy : Q1LlmOverlayDecision) :
    0 ≤ Q1Overlay.decimalOf policy.riskMultiplier := by
  have hallowed := policy.allowed
  simp only [mem_cons, not_mem_nil, or_false] at hallowed
  rcases hallowed with h | h | h
  · rw [h]
    decide +kernel
  · rw [h]
    decide +kernel
  · rw [h]
    decide +kernel

section Review

variable {prepared : PreparedReview} {current deterministic : RiskyWeights Decimal}

def proposedWeights (current deterministic : RiskyWeights Decimal) (multiplier : Decimal) :
    RiskyWeights Decimal :=
  ⟨min current.qqq (deterministic.qqq * multiplier),
    min current.soxx (deterministic.soxx * multiplier)⟩

theorem Prepared.reducing (h : Prepared prepared current deterministic)
    (policy : Q1LlmOverlayDecision) :
    Reducing (turnoverRequest prepared (fullyAllocated deterministic) policy) current
      (proposedWeights current deterministic (Q1Overlay.decimalOf policy.riskMultiplier)) where
  currentLongOnly := h.currentLongOnly
  currentWeights := h.weights
  proposedWeights := by
    show proposedTarget prepared.currentWeights (fullyAllocated deterministic) _ = _
    rw [h.weights]
    rfl
  qqq := ⟨le_min h.currentLongOnly.qqq_nonneg
    (mul_nonneg h.deterministicLongOnly.qqq_nonneg (multiplier_nonneg policy)), min_le_left _ _⟩
  soxx := ⟨le_min h.currentLongOnly.soxx_nonneg
    (mul_nonneg h.deterministicLongOnly.soxx_nonneg (multiplier_nonneg policy)), min_le_left _ _⟩
  normal := ⟨rfl, rfl⟩
  nav_pos := h.nav_pos
  used_nonneg := h.used_nonneg

theorem Prepared.review_eq (h : Prepared prepared current deterministic)
    (policy : Q1LlmOverlayDecision) :
    let request := turnoverRequest prepared (fullyAllocated deterministic) policy
    let final := if request.turnover < config.val.turnover.noTradeOneWayThreshold then current
      else request.executed config (request.alpha config)
    (0 ≤ final.qqq ∧ final.qqq ≤ current.qqq) ∧ (0 ≤ final.soxx ∧ final.soxx ≤ current.soxx) ∧
    reviewTarget config hash prepared (some policy) .active =
      if final.qqq ≤ deterministic.qqq ∧ final.soxx ≤ deterministic.soxx then
        .ok (fullyAllocated final)
      else .error (q1LlmReviewError "Q1 LLM overlay attempted to increase risk") := by
  intro request final
  have hreducing := h.reducing policy
  obtain ⟨hcurrent, -⟩ := hreducing.request_current
  obtain ⟨hproposed, -⟩ := hreducing.request_proposed
  have hbounds : (0 ≤ final.qqq ∧ final.qqq ≤ current.qqq) ∧
      (0 ≤ final.soxx ∧ final.soxx ≤ current.soxx) := by
    by_cases hbelow : request.turnover < config.val.turnover.noTradeOneWayThreshold
    · rw [show final = current from if_pos hbelow]
      exact ⟨⟨h.currentLongOnly.qqq_nonneg, le_rfl⟩, ⟨h.currentLongOnly.soxx_nonneg, le_rfl⟩⟩
    · rw [show final = request.executed config (request.alpha config) from if_neg hbelow]
      exact hreducing.executed_between
  refine ⟨hbounds.1, hbounds.2, ?_⟩
  obtain ⟨result, hresult, hfinal⟩ := @Reducing.applied config hash _ _ _ hreducing
  have htarget : executableTarget config hash prepared (fullyAllocated deterministic) (some policy)
      .active = .ok (fullyAllocated final) := by
    unfold executableTarget
    rw [if_neg (by decide)]
    simp only [hresult, ok_bind, hfinal]
    rfl
  unfold reviewTarget
  simp only [h.target, htarget, ok_bind, h.weights, decide_true]
  rw [assertReduceOnly_eq hbounds.1 hbounds.2]
  split
  · rfl
  · rfl

theorem Prepared.reaches_iff (h : Prepared prepared current
      ⟨prepared.targetWeights.getD "QQQ" 0, prepared.targetWeights.getD "SOXX" 0⟩)
    (policy : Q1LlmOverlayDecision) :
    let deterministic : RiskyWeights Decimal :=
      ⟨prepared.targetWeights.getD "QQQ" 0, prepared.targetWeights.getD "SOXX" 0⟩
    let request := turnoverRequest prepared (fullyAllocated deterministic) policy
    let final := if request.turnover < config.val.turnover.noTradeOneWayThreshold then current
      else request.executed config (request.alpha config)
    final.qqq ≤ deterministic.qqq ∧ final.soxx ≤ deterministic.soxx ↔
      ∀ symbol ∈ riskySymbols,
        prepared.Reaches config (Q1Overlay.decimalOf policy.riskMultiplier) symbol := by
  intro deterministic request final
  have hreducing := h.reducing policy
  obtain ⟨hcurrent, -⟩ := hreducing.request_current
  obtain ⟨hproposed, -⟩ := hreducing.request_proposed
  have hgetD : prepared.currentWeights.getD "QQQ" 0 = current.qqq ∧
      prepared.currentWeights.getD "SOXX" 0 = current.soxx := by
    rw [h.weights]
    exact ⟨rfl, rfl⟩
  have hturnover : request.turnover =
      prepared.turnover (Q1Overlay.decimalOf policy.riskMultiplier) := by
    rw [hreducing.turnover_eq, PreparedReview.turnover, PreparedReview.reduction,
      PreparedReview.reduction, hgetD.1, hgetD.2]
    rfl
  simp only [riskySymbols, forall_mem_cons, not_mem_nil, false_implies, implies_true,
    and_true]
  by_cases hbelow : request.turnover < config.val.turnover.noTradeOneWayThreshold
  · rw [show final = current from if_pos hbelow]
    have hreaches (symbol : String) : prepared.Reaches config
        (Q1Overlay.decimalOf policy.riskMultiplier) symbol ↔
        prepared.currentWeights.getD symbol 0 ≤ prepared.targetWeights.getD symbol 0 :=
      or_iff_left fun hlong => absurd hbelow (not_lt.mpr (hturnover ▸ hlong.1))
    rw [hreaches, hreaches, hgetD.1, hgetD.2]
  · have halpha := Quant.alpha_mem config request
    have hqqqNonneg := sub_nonneg.mpr hreducing.qqq.2
    have hsoxxNonneg := sub_nonneg.mpr hreducing.soxx.2
    have hsum := hreducing.turnover_eq
    have hqqq := @leg_le_iff request config _ _ _ deterministic.qqq hreducing.normal.1 halpha.1
      hreducing.qqq.2
    have hsoxx := @leg_le_iff request config _ _ _ deterministic.soxx hreducing.normal.1 halpha.1
      hreducing.soxx.2
    rw [hreducing.alpha_mul hqqqNonneg (by linarith), hturnover] at hqqq
    rw [hreducing.alpha_mul hsoxxNonneg (by linarith), hturnover] at hsoxx
    rw [show final = request.executed config (request.alpha config) from if_neg hbelow]
    unfold TurnoverRequest.executed
    rw [hcurrent, hproposed]
    have hband := hturnover ▸ not_lt.mp hbelow
    unfold PreparedReview.Reaches PreparedReview.scaledReduction PreparedReview.reduction
    simp only [hgetD.1, hgetD.2]
    exact and_congr (hqqq.trans (or_congr_right (and_iff_right hband).symm))
      (hsoxx.trans (or_congr_right (and_iff_right hband).symm))

end Review

theorem checked_iff {α : Type} {x : Except Failure α} {passes : Prop} [Decidable passes] {a : α}
    {e : Failure} (h : x = if passes then .ok a else .error e) :
    ((∃ b, x = .ok b) ↔ passes) ∧ (x = .error e ↔ ¬passes) := by
  rw [h]
  by_cases hpasses : passes
  · rw [if_pos hpasses]
    exact ⟨iff_of_true ⟨a, rfl⟩ hpasses, iff_of_false nofun (not_not.mpr hpasses)⟩
  · rw [if_neg hpasses]
    exact ⟨iff_of_false (fun ⟨_, hok⟩ => by cases hok) hpasses, iff_of_true rfl hpasses⟩

/-- An active review passes its assertion exactly when every weight above its deterministic one
comes down to it, and is otherwise refused as an increase of risk. -/
theorem review_passes_iff {state : Q1ArmState} {targetWeights : Dict String Decimal}
    {quotes : Dict String Q1Cycle.DecisionQuote} {fills : List TurnoverFill}
    {prepared : PreparedReview} (h : prepareReview state targetWeights quotes fills = .ok prepared)
    (policy : Q1LlmOverlayDecision) :
    let multiplier := Q1Overlay.decimalOf policy.riskMultiplier
    ((∃ target, reviewTarget config hash prepared (some policy) .active = .ok target) ↔
      ∀ symbol ∈ riskySymbols, prepared.Reaches config multiplier symbol) ∧
    (reviewTarget config hash prepared (some policy) .active =
        .error (q1LlmReviewError "Q1 LLM overlay attempted to increase risk") ↔
      ¬∀ symbol ∈ riskySymbols, prepared.Reaches config multiplier symbol) := by
  intro multiplier
  obtain ⟨current, hprepared⟩ := prepareReview_ok h
  obtain ⟨-, -, hreview⟩ := @Prepared.review_eq config hash _ _ _ hprepared policy
  have hreaches := @Prepared.reaches_iff config _ _ hprepared policy
  obtain ⟨hpasses, hfails⟩ := checked_iff hreview
  exact ⟨hpasses.trans hreaches, hfails.trans (not_congr hreaches)⟩

def sampleReviewState : Q1ArmState where
  val :=
    { armId := .q1Llm
      initialNavUsd := 10000
      settledCashUsd := 7000
      unsettledReceivables := []
      positions := ⟨[("QQQ", 30)], nodup_singleton "QQQ"⟩
      sequence := 0
      evaluationAnchorId := none }
  valid := by decide +kernel

def sampleReviewQuotes : Dict String Q1Cycle.DecisionQuote :=
  ⟨[("QQQ", ⟨⟨"QQQ", "quote", 100, 100, 0⟩, by decide +kernel⟩),
    ("SOXX", ⟨⟨"SOXX", "quote", 100, 100, 0⟩, by decide +kernel⟩)], by decide⟩

def sampleReviewTarget : Dict String Decimal :=
  (⟨29 / 100, 0⟩ : RiskyWeights Decimal).withCash (71 / 100)

def samplePreparedReview : PreparedReview where
  state := sampleReviewState
  targetWeights := sampleReviewTarget
  currentNavUsd := 10000
  currentWeights := (⟨3 / 10, 0⟩ : RiskyWeights Decimal).withCash (7 / 10)
  usedNormalTurnover := 0

theorem samplePreparedReview_eq : prepareReview sampleReviewState sampleReviewTarget
    sampleReviewQuotes [] = .ok samplePreparedReview := by decide +kernel

def samplePolicy (riskMultiplier : ℚ) (allowed : riskMultiplier ∈ [1, 3 / 4, 1 / 2]) :
    Q1LlmOverlayDecision := ⟨riskMultiplier, false, 0, 1, allowed, by decide⟩

/-- A policy that changes nothing: one percent is within the band, so QQQ stays above its target. -/
theorem unchanged_review_refused :
    prepareReview sampleReviewState sampleReviewTarget sampleReviewQuotes [] =
      .ok samplePreparedReview ∧
    reviewTarget Quant.shippedQ1Config .plain samplePreparedReview
        (some (samplePolicy 1 (by decide))) .active =
      .error (q1LlmReviewError "Q1 LLM overlay attempted to increase risk") :=
  ⟨samplePreparedReview_eq, by decide +kernel⟩

/-- A policy that halves the target sells enough. -/
theorem halved_review_passes : ∃ target,
    reviewTarget Quant.shippedQ1Config .plain samplePreparedReview
      (some (samplePolicy (1 / 2) (by decide +kernel))) .active = .ok target :=
  (review_passes_iff samplePreparedReview_eq (samplePolicy (1 / 2) (by decide +kernel))).1.mpr
    (by decide +kernel)

end AdaptiveQuant.Q1LlmReview
