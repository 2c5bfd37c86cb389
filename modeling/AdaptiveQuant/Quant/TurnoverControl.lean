import AdaptiveQuant.Domain.CanonicalText
import AdaptiveQuant.Quant.TurnoverBounds

/-! What `apply_turnover_control` returns. -/

namespace AdaptiveQuant.Quant

open Guard List

variable {config : Q1MathConfig Decimal} {request : TurnoverRequest} {hash : Hashing}
  {result : TurnoverResult}

theorem keptLeg_mem (bypassMinimum : Bool) (threshold nav delta : Decimal) :
    keptLeg bypassMinimum threshold nav delta = 0 ∨
      keptLeg bypassMinimum threshold nav delta = delta := by
  rw [keptLeg]
  split
  · exact .inl rfl
  · exact .inr rfl

theorem leg_between {alpha : Decimal} (halpha : 0 ≤ alpha ∧ alpha ≤ 1)
    (current proposed : Decimal) :
    min current proposed ≤ current + request.leg config alpha current proposed ∧
      current + request.leg config alpha current proposed ≤ max current proposed := by
  rcases keptLeg_mem _ _ _ _ with hleg | hleg
  · rw [TurnoverRequest.leg, hleg, add_zero]
    exact ⟨min_le_left _ _, le_max_left _ _⟩
  · rw [TurnoverRequest.leg, hleg]
    rcases le_total current proposed with hle | hle
    · have hmove : 0 ≤ alpha * (proposed - current) := mul_nonneg halpha.1 (sub_nonneg.mpr hle)
      have hpart : alpha * (proposed - current) ≤ proposed - current :=
        mul_le_of_le_one_left (sub_nonneg.mpr hle) halpha.2
      rw [min_eq_left hle, max_eq_right hle]
      exact ⟨by linarith, by linarith⟩
    · have hmove : 0 ≤ alpha * (current - proposed) := mul_nonneg halpha.1 (sub_nonneg.mpr hle)
      have hpart : alpha * (current - proposed) ≤ current - proposed :=
        mul_le_of_le_one_left (sub_nonneg.mpr hle) halpha.2
      rw [min_eq_right hle, max_eq_left hle]
      exact ⟨by linarith, by linarith⟩

theorem leg_nonneg {alpha current proposed : Decimal} (halpha : 0 ≤ alpha ∧ alpha ≤ 1)
    (hcurrent : 0 ≤ current) (hproposed : 0 ≤ proposed) :
    0 ≤ current + request.leg config alpha current proposed :=
  (le_min hcurrent hproposed).trans (leg_between halpha current proposed).1

theorem executable_iff {alpha : Decimal} (halpha : 0 ≤ alpha ∧ alpha ≤ 1)
    (hnormalized : request.Normalized config) :
    request.Executable config alpha ↔ (request.executed config alpha).sum ≤ 1 := by
  obtain ⟨hcurrent, hproposed⟩ := Normalized.valid hnormalized
  obtain ⟨hbounded, -, -⟩ := config.bounded
  constructor
  · intro h
    exact sub_nonneg.mp h.cash_nonneg
  · intro h
    refine ⟨leg_nonneg halpha hcurrent.qqq_nonneg hproposed.qqq_nonneg,
      leg_nonneg halpha hcurrent.soxx_nonneg hproposed.soxx_nonneg, sub_nonneg.mpr h, ?_⟩
    rw [add_sub_cancel, sub_self, abs_zero]
    exact hbounded.sumTolerance.le

theorem weightTuple_withCash (config : Q1MathConfig Decimal) (weights : RiskyWeights Decimal)
    (cash : Decimal) :
    weightTuple config (weights.withCash cash) =
      [("QQQ", weights.qqq), ("SOXX", weights.soxx), ("USD_CASH", cash)] := by
  obtain ⟨-, hrisky, hcash⟩ := config.bounded
  rw [weightTuple, hrisky, hcash]
  rfl

theorem noTrade_weights : (request.noTrade config hash).executableTargetWeights =
    [("QQQ", request.current.qqq), ("SOXX", request.current.soxx),
      ("USD_CASH", request.currentCash)] :=
  weightTuple_withCash _ _ _

theorem rebalance_weights (alpha : Decimal) :
    (request.rebalance config hash alpha).executableTargetWeights =
      [("QQQ", (request.executed config alpha).qqq), ("SOXX", (request.executed config alpha).soxx),
        ("USD_CASH", 1 - (request.executed config alpha).sum)] := by
  have hlegs := (executedLegs_spec config request alpha).1
  rw [← weightTuple_withCash config, ← hlegs]
  rfl

/-- Weights that are not negative and sum to one, as far as the weights before them do. -/
structure TurnoverResult.SoundWeights (result : TurnoverResult) (request : TurnoverRequest)
    (config : Q1MathConfig Decimal) : Prop where
  nonneg : ∀ item ∈ result.executableTargetWeights, 0 ≤ item.2
  total : |(result.executableTargetWeights.map Prod.snd).sum - 1| ≤
    config.val.allocation.weightSumTolerance
  exact : request.current.sum + request.currentCash = 1 →
    (result.executableTargetWeights.map Prod.snd).sum = 1

theorem noTrade_sound (hnormalized : request.Normalized config) :
    (request.noTrade config hash).SoundWeights request config := by
  obtain ⟨hcurrent, -⟩ := Normalized.valid hnormalized
  have hsum : ((request.noTrade config hash).executableTargetWeights.map Prod.snd).sum =
      request.current.sum + request.currentCash := by
    simp only [noTrade_weights, map_cons, map_nil, sum_cons, sum_nil,
      RiskyWeights.sum]
    ring
  refine ⟨?_, ?_, fun h => hsum.trans h⟩
  · simp only [noTrade_weights, forall_mem_cons, not_mem_nil, false_implies,
      implies_true, and_true]
    exact ⟨hcurrent.qqq_nonneg, hcurrent.soxx_nonneg, hcurrent.cash_nonneg⟩
  · rw [hsum]
    exact hcurrent.total

theorem rebalance_sound {alpha : Decimal} (h : request.Executable config alpha) :
    (request.rebalance config hash alpha).SoundWeights request config := by
  obtain ⟨hbounded, -, -⟩ := config.bounded
  have hsum : ((request.rebalance config hash alpha).executableTargetWeights.map
      Prod.snd).sum = 1 := by
    simp only [rebalance_weights, map_cons, map_nil, sum_cons, sum_nil,
      RiskyWeights.sum]
    ring
  refine ⟨?_, ?_, fun _ => hsum⟩
  · simp only [rebalance_weights, forall_mem_cons, not_mem_nil, false_implies,
      implies_true, and_true]
    exact ⟨h.qqq_nonneg, h.soxx_nonneg, h.cash_nonneg⟩
  · rw [hsum, sub_self, abs_zero]
    exact hbounded.sumTolerance.le

/-- The weights that trading in full would leave sum to at most 1. -/
def TurnoverRequest.Funded (request : TurnoverRequest) (config : Q1MathConfig Decimal) : Prop :=
  (request.executed config (request.alpha config)).sum ≤ 1

/-- A sell below the minimum order next to a buy that needs what it would have brought. -/
def TurnoverRequest.UnfundedBuy (request : TurnoverRequest) (config : Q1MathConfig Decimal)
    (sold bought : Decimal) : Prop :=
  sold < 0 ∧ |sold| * request.currentNavUsd < minimumNotional config request.currentNavUsd ∧
    minimumNotional config request.currentNavUsd ≤ |bought| * request.currentNavUsd ∧
    request.currentCash < bought

def TurnoverRequest.scaled (request : TurnoverRequest) (config : Q1MathConfig Decimal) :
    RiskyWeights Decimal where
  qqq := request.alpha config * (request.proposed.qqq - request.current.qqq)
  soxx := request.alpha config * (request.proposed.soxx - request.current.soxx)

theorem leg_normal (config : Q1MathConfig Decimal) (hemergency : request.emergencyReduction = false)
    (alpha current proposed : Decimal) :
    |alpha * (proposed - current)| * request.currentNavUsd <
        minimumNotional config request.currentNavUsd ∧
      request.leg config alpha current proposed = 0 ∨
    minimumNotional config request.currentNavUsd ≤
        |alpha * (proposed - current)| * request.currentNavUsd ∧
      request.leg config alpha current proposed = alpha * (proposed - current) := by
  rw [TurnoverRequest.leg, keptLeg, hemergency, Bool.false_and]
  by_cases hsmall : |alpha * (proposed - current)| * request.currentNavUsd <
      minimumNotional config request.currentNavUsd
  · exact .inl ⟨hsmall, if_pos ⟨rfl, hsmall⟩⟩
  · exact .inr ⟨not_lt.mp hsmall, if_neg fun h => hsmall h.2⟩

theorem scaled_le_cash (hnormalized : request.Normalized config)
    (hcurrent : request.current.sum + request.currentCash = 1)
    (hproposed : request.proposed.sum + request.proposedCash = 1) :
    (request.scaled config).qqq + (request.scaled config).soxx ≤ request.currentCash := by
  obtain ⟨hvalid, hvalidProposed⟩ := Normalized.valid hnormalized
  obtain ⟨hnonneg, hle⟩ := alpha_mem config request
  have hmove : (request.scaled config).qqq + (request.scaled config).soxx =
      request.alpha config * (request.currentCash - request.proposedCash) := by
    rw [RiskyWeights.sum] at hcurrent hproposed
    have hcash : request.currentCash - request.proposedCash = request.proposed.qqq -
        request.current.qqq + (request.proposed.soxx - request.current.soxx) := by linarith
    rw [hcash, mul_add]
    rfl
  have hspent := mul_le_of_le_one_left hvalid.cash_nonneg hle
  have hkept := mul_nonneg hnonneg hvalidProposed.cash_nonneg
  rw [hmove, mul_sub]
  linarith

theorem funded_iff (hemergency : request.emergencyReduction = false)
    (hnormalized : request.Normalized config)
    (hcurrent : request.current.sum + request.currentCash = 1)
    (hproposed : request.proposed.sum + request.proposedCash = 1) :
    request.Funded config ↔
      ¬ (request.UnfundedBuy config (request.scaled config).qqq (request.scaled config).soxx ∨
        request.UnfundedBuy config (request.scaled config).soxx (request.scaled config).qqq) := by
  have hcash := (Normalized.valid hnormalized).1.cash_nonneg
  have hscaled := scaled_le_cash hnormalized hcurrent hproposed
  have hqqq := leg_normal config hemergency (request.alpha config)
    request.current.qqq request.proposed.qqq
  have hsoxx := leg_normal config hemergency (request.alpha config)
    request.current.soxx request.proposed.soxx
  have hfunded : request.Funded config ↔
      request.leg config (request.alpha config) request.current.qqq request.proposed.qqq +
        request.leg config (request.alpha config) request.current.soxx request.proposed.soxx ≤
          request.currentCash := by
    simp only [TurnoverRequest.Funded, TurnoverRequest.executed, RiskyWeights.sum]
    rw [RiskyWeights.sum] at hcurrent
    constructor <;> intro h <;> linarith
  rw [hfunded]
  rcases hqqq with ⟨hqqqSmall, hqqqLeg⟩ | ⟨hqqqLarge, hqqqLeg⟩ <;>
    rcases hsoxx with ⟨hsoxxSmall, hsoxxLeg⟩ | ⟨hsoxxLarge, hsoxxLeg⟩ <;>
    rw [hqqqLeg, hsoxxLeg]
  · refine iff_of_true (by linarith) ?_
    rintro (⟨-, -, hbought, -⟩ | ⟨-, -, hbought, -⟩)
    · exact absurd hsoxxSmall (not_lt.mpr hbought)
    · exact absurd hqqqSmall (not_lt.mpr hbought)
  · rw [zero_add]
    constructor
    · rintro h (⟨-, -, -, hover⟩ | ⟨-, hsold, -, -⟩)
      · exact absurd h (not_le.mpr hover)
      · exact absurd hsold (not_lt.mpr hsoxxLarge)
    · intro h
      by_contra hover
      have hsold : (request.scaled config).qqq < 0 := by
        have hbought : request.currentCash < (request.scaled config).soxx := not_le.mp hover
        linarith
      exact h (.inl ⟨hsold, hqqqSmall, hsoxxLarge, not_le.mp hover⟩)
  · rw [add_zero]
    constructor
    · rintro h (⟨-, hsold, -, -⟩ | ⟨-, -, -, hover⟩)
      · exact absurd hsold (not_lt.mpr hqqqLarge)
      · exact absurd h (not_le.mpr hover)
    · intro h
      by_contra hover
      have hsold : (request.scaled config).soxx < 0 := by
        have hbought : request.currentCash < (request.scaled config).qqq := not_le.mp hover
        linarith
      exact h (.inr ⟨hsold, hsoxxSmall, hqqqLarge, not_le.mp hover⟩)
  · refine iff_of_true hscaled ?_
    rintro (⟨-, hsold, -, -⟩ | ⟨-, hsold, -, -⟩)
    · exact absurd hsold (not_lt.mpr hqqqLarge)
    · exact absurd hsold (not_lt.mpr hsoxxLarge)

/-- A request that is no emergency returns sound weights exactly when it is below the band or its
kept legs are covered. -/
theorem applyTurnoverControl_sound_iff (hemergency : request.emergencyReduction = false)
    (hnav : 0 < request.currentNavUsd) (hused : 0 ≤ request.usedNormalTurnover)
    (hnormalized : request.Normalized config) :
    ((∃ result, applyTurnoverControl config hash request = .ok result ∧
        result.SoundWeights request config) ↔
      request.BelowBand config ∨ request.Funded config) ∧
    (request.current.sum + request.currentCash = 1 →
      request.proposed.sum + request.proposedCash = 1 →
        (request.Funded config ↔
          ¬ (request.UnfundedBuy config (request.scaled config).qqq (request.scaled config).soxx ∨
            request.UnfundedBuy config (request.scaled config).soxx
              (request.scaled config).qqq))) := by
  have haccepted : request.Accepted config :=
    ⟨hnav, hused, hnormalized, fun htrue => absurd htrue (by rw [hemergency]; decide)⟩
  refine ⟨⟨?_, ?_⟩, funded_iff hemergency hnormalized⟩
  · rintro ⟨result, hresult, -⟩
    obtain ⟨-, ⟨hband, -⟩ | ⟨-, alpha, halpha, hexecutable, -⟩⟩ :=
      applyTurnoverControl_eq_ok.mp hresult
    · exact .inl hband
    · rw [interpolationAlpha_normal hemergency] at halpha
      obtain rfl := Except.ok.inj halpha
      exact .inr ((executable_iff (alpha_mem _ _) hnormalized).mp hexecutable)
  · intro h
    by_cases hband : request.BelowBand config
    · exact ⟨_, applyTurnoverControl_eq_ok.mpr ⟨haccepted, .inl ⟨hband, rfl⟩⟩,
        noTrade_sound hnormalized⟩
    · have hexecutable : request.Executable config (request.alpha config) :=
        (executable_iff (alpha_mem _ _) hnormalized).mpr (h.resolve_left hband)
      exact ⟨_, applyTurnoverControl_eq_ok.mpr ⟨haccepted, .inr ⟨hband, _,
        interpolationAlpha_normal hemergency, hexecutable, rfl⟩⟩, rebalance_sound hexecutable⟩

def fundedRequest : TurnoverRequest where
  currentWeights := (RiskyWeights.mk (1 / 2) 0).withCash (1 / 2)
  proposedTargetWeights := (RiskyWeights.mk (6 / 10) 0).withCash (4 / 10)
  currentNavUsd := 100000
  usedNormalTurnover := 0
  emergencyReduction := false

theorem fundedRequest_normalized : fundedRequest.Normalized shippedQ1Config where
  current := by decide +kernel
  proposed := by decide +kernel

theorem fundedRequest_sound : ∃ result, applyTurnoverControl shippedQ1Config Hashing.plain
    fundedRequest = .ok result ∧ result.SoundWeights fundedRequest shippedQ1Config := by
  have hfunded : fundedRequest.Funded shippedQ1Config := by
    change (fundedRequest.executed shippedQ1Config (fundedRequest.alpha shippedQ1Config)).sum ≤ 1
    decide +kernel
  exact (applyTurnoverControl_sound_iff rfl (by decide +kernel) (by decide +kernel)
    fundedRequest_normalized).1.mpr (.inr hfunded)

/-- SOXX is to be bought with the cash and a sell of QQQ that is below the minimum order. -/
def unfundedRequest : TurnoverRequest where
  currentWeights := (RiskyWeights.mk (95 / 100) 0).withCash (5 / 100)
  proposedTargetWeights := (RiskyWeights.mk (948 / 1000) (52 / 1000)).withCash 0
  currentNavUsd := 100000
  usedNormalTurnover := 0
  emergencyReduction := false

theorem unfundedRequest_raises :
    unfundedRequest.Normalized shippedQ1Config ∧
      applyTurnoverControl shippedQ1Config Hashing.plain unfundedRequest =
        .error (q1MathError "portfolio weights must be non-negative and finite") :=
  ⟨⟨by decide +kernel, by decide +kernel⟩, by decide +kernel⟩

def RiskyWeights.gap (weights : RiskyWeights Decimal) (cash : Decimal) : Decimal :=
  |weights.sum + cash - 1|

theorem rebalance_turnover (alpha : Decimal) :
    (request.rebalance config hash alpha).executableOneWayTurnover =
      1 / 2 * (|request.leg config alpha request.current.qqq request.proposed.qqq| +
        |request.leg config alpha request.current.soxx request.proposed.soxx| +
        |1 - (request.executed config alpha).sum - request.currentCash|) := by
  have hlegs := (executedLegs_spec config request alpha).1
  have hdef : (request.rebalance config hash alpha).executableOneWayTurnover =
      oneWayTurnover (request.current.withCash request.currentCash)
        ((request.executed config alpha).withCash (1 - (request.executed config alpha).sum)) := by
    rw [← hlegs]
    rfl
  rw [hdef]
  simp only [oneWayTurnover, withCash_entries, map_cons, map_nil, sum_cons,
    sum_nil, (withCash_getD _ _).1, (withCash_getD _ _).2.1, (withCash_getD _ _).2.2,
    TurnoverRequest.executed, add_sub_cancel_left]
  ring

theorem noTrade_turnover : (request.noTrade config hash).executableOneWayTurnover = 0 := by
  have hdef : (request.noTrade config hash).executableOneWayTurnover =
    oneWayTurnover (request.current.withCash request.currentCash)
      (request.current.withCash request.currentCash) := rfl
  rw [hdef]
  simp only [oneWayTurnover, withCash_entries, map_cons, map_nil, sum_cons,
    sum_nil, (withCash_getD _ _).1, (withCash_getD _ _).2.1, (withCash_getD _ _).2.2,
    sub_self, abs_zero, add_zero, mul_zero]

theorem kept_moves_le {first second keptFirst keptSecond : Decimal}
    (hfirst : keptFirst = 0 ∨ keptFirst = first) (hsecond : keptSecond = 0 ∨ keptSecond = second) :
    |keptFirst| + |keptSecond| + |keptFirst + keptSecond| ≤
      |first| + |second| + |first + second| := by
  have hbalance : |first| ≤ |second| + |first + second| := by
    calc |first| = |first + second - second| := by rw [add_sub_cancel_right]
      _ ≤ |first + second| + |second| := abs_sub _ _
      _ = |second| + |first + second| := add_comm _ _
  have hbalanceSecond : |second| ≤ |first| + |first + second| := by
    calc |second| = |first + second - first| := by rw [add_sub_cancel_left]
      _ ≤ |first + second| + |first| := abs_sub _ _
      _ = |first| + |first + second| := add_comm _ _
  have hnonneg := abs_nonneg (first + second)
  have hnonnegFirst := abs_nonneg first
  have hnonnegSecond := abs_nonneg second
  rcases hfirst with rfl | rfl <;> rcases hsecond with rfl | rfl
  · simp only [abs_zero, add_zero]
    linarith
  · simp only [abs_zero, zero_add]
    linarith
  · simp only [abs_zero, add_zero]
    linarith
  · exact le_refl _

theorem rebalance_turnover_le {alpha : Decimal} (halpha : 0 ≤ alpha ∧ alpha ≤ 1) :
    (request.rebalance config hash alpha).executableOneWayTurnover ≤ alpha * request.turnover +
      request.current.gap request.currentCash + request.proposed.gap request.proposedCash / 2 := by
  rw [rebalance_turnover]
  have hkept := kept_moves_le
    (keptLeg_mem (request.emergencyReduction && config.val.turnover.emergencyBypassesMinimumOrder)
      (minimumNotional config request.currentNavUsd) request.currentNavUsd
      (alpha * (request.proposed.qqq - request.current.qqq)))
    (keptLeg_mem (request.emergencyReduction && config.val.turnover.emergencyBypassesMinimumOrder)
      (minimumNotional config request.currentNavUsd) request.currentNavUsd
      (alpha * (request.proposed.soxx - request.current.soxx)))
  change |request.leg config alpha request.current.qqq request.proposed.qqq| +
    |request.leg config alpha request.current.soxx request.proposed.soxx| +
    |request.leg config alpha request.current.qqq request.proposed.qqq +
      request.leg config alpha request.current.soxx request.proposed.soxx| ≤ _ at hkept
  rw [← mul_add, abs_mul, abs_mul, abs_mul, abs_of_nonneg halpha.1] at hkept
  have hcash : |1 - (request.executed config alpha).sum - request.currentCash| ≤
      request.current.gap request.currentCash +
        |request.leg config alpha request.current.qqq request.proposed.qqq +
          request.leg config alpha request.current.soxx request.proposed.soxx| := by
    have hmove : 1 - (request.executed config alpha).sum - request.currentCash =
        -(request.current.sum + request.currentCash - 1) -
          (request.leg config alpha request.current.qqq request.proposed.qqq +
            request.leg config alpha request.current.soxx request.proposed.soxx) := by
      simp only [TurnoverRequest.executed, RiskyWeights.sum]
      ring
    rw [hmove, RiskyWeights.gap, ← abs_neg (request.current.sum + request.currentCash - 1)]
    exact abs_sub _ _
  have hproposed : alpha * |request.proposed.qqq - request.current.qqq +
      (request.proposed.soxx - request.current.soxx)| ≤
        alpha * |request.proposedCash - request.currentCash| +
          (request.current.gap request.currentCash + request.proposed.gap request.proposedCash) := by
    have hmove : request.proposed.qqq - request.current.qqq +
        (request.proposed.soxx - request.current.soxx) =
          -(request.proposedCash - request.currentCash) -
            (request.current.sum + request.currentCash - 1) +
            (request.proposed.sum + request.proposedCash - 1) := by
      simp only [RiskyWeights.sum]
      ring
    have hmissed : |request.proposed.qqq - request.current.qqq +
        (request.proposed.soxx - request.current.soxx)| ≤
          |request.proposedCash - request.currentCash| +
            (request.current.gap request.currentCash +
              request.proposed.gap request.proposedCash) := by
      rw [hmove, ← abs_neg (request.proposedCash - request.currentCash), ← add_assoc]
      exact (abs_add_le _ _).trans (add_le_add_left (abs_sub _ _) _)
    have hgaps : 0 ≤ request.current.gap request.currentCash +
        request.proposed.gap request.proposedCash := add_nonneg (abs_nonneg _) (abs_nonneg _)
    calc alpha * |request.proposed.qqq - request.current.qqq +
          (request.proposed.soxx - request.current.soxx)|
        ≤ alpha * (|request.proposedCash - request.currentCash| +
            (request.current.gap request.currentCash +
              request.proposed.gap request.proposedCash)) :=
          mul_le_mul_of_nonneg_left hmissed halpha.1
      _ = alpha * |request.proposedCash - request.currentCash| +
            alpha * (request.current.gap request.currentCash +
              request.proposed.gap request.proposedCash) := mul_add _ _ _
      _ ≤ _ := add_le_add_right (mul_le_of_le_one_left hgaps halpha.2) _
  simp only [TurnoverRequest.turnover]
  linarith

/-- Every symbol is there, between its two weights, and at its old one when omitted. -/
structure TurnoverResult.Kept (result : TurnoverResult) (request : TurnoverRequest)
    (config : Q1MathConfig Decimal) : Prop where
  symbols : result.executableTargetWeights.map Prod.fst =
    config.val.riskySymbols ++ [config.val.cashSymbol]
  between : ∀ item ∈ result.executableTargetWeights, item.1 ∈ config.val.riskySymbols →
    min (request.currentWeights.getD item.1 0) (request.proposedTargetWeights.getD item.1 0) ≤
        item.2 ∧
      item.2 ≤
        max (request.currentWeights.getD item.1 0) (request.proposedTargetWeights.getD item.1 0)
  omitted : ∀ item ∈ result.omittedOrders, item.symbol ∈ config.val.riskySymbols ∧
    (item.symbol, request.currentWeights.getD item.symbol 0) ∈ result.executableTargetWeights

theorem noTrade_kept : (request.noTrade config hash).Kept request config := by
  obtain ⟨-, hrisky, hcash⟩ := config.bounded
  refine ⟨?_, ?_, ?_⟩
  · rw [noTrade_weights, hrisky, hcash]
    rfl
  · simp only [noTrade_weights, forall_mem_cons, not_mem_nil, false_implies,
      implies_true, and_true]
    refine ⟨fun _ => ⟨min_le_left _ _, le_max_left _ _⟩,
      fun _ => ⟨min_le_left _ _, le_max_left _ _⟩, fun hmem => ?_⟩
    rw [hrisky] at hmem
    exact absurd hmem (by decide)
  · intro item hitem
    exact absurd hitem not_mem_nil

theorem rebalance_kept {alpha : Decimal} (halpha : 0 ≤ alpha ∧ alpha ≤ 1) :
    (request.rebalance config hash alpha).Kept request config := by
  obtain ⟨-, hrisky, hcash⟩ := config.bounded
  refine ⟨?_, ?_, ?_⟩
  · rw [rebalance_weights, hrisky, hcash]
    rfl
  · simp only [rebalance_weights, forall_mem_cons, not_mem_nil, false_implies,
      implies_true, and_true]
    refine ⟨fun _ => leg_between halpha _ _, fun _ => leg_between halpha _ _, fun hmem => ?_⟩
    rw [hrisky] at hmem
    exact absurd hmem (by decide)
  · intro item hitem
    have homitted := (executedLegs_spec config request alpha).2 item hitem
    rw [rebalance_weights, hrisky]
    rcases homitted with ⟨hsymbol, hweight⟩ | ⟨hsymbol, hweight⟩
    · rw [hsymbol, hweight]
      exact ⟨by decide, mem_cons_self⟩
    · rw [hsymbol, hweight]
      exact ⟨by decide, mem_cons_of_mem _ mem_cons_self⟩

/-- What every request that returns keeps. -/
theorem applyTurnoverControl_keeps (h : applyTurnoverControl config hash request = .ok result) :
    result.Kept request config ∧
    (request.emergencyReduction = false → request.bypassNormalTurnoverCap = false →
      result.executableOneWayTurnover ≤ request.remaining config +
        request.current.gap request.currentCash +
          request.proposed.gap request.proposedCash / 2) ∧
    (request.emergencyReduction = true → ∀ item ∈ result.executableTargetWeights,
      item.1 ∈ config.val.riskySymbols → item.2 ≤ request.currentWeights.getD item.1 0) := by
  obtain ⟨haccepted, h⟩ := applyTurnoverControl_eq_ok.mp h
  obtain ⟨-, hrisky, -⟩ := config.bounded
  have hkept : result.Kept request config := by
    rcases h with ⟨-, rfl⟩ | ⟨-, alpha, halpha, -, rfl⟩
    · exact noTrade_kept
    · exact rebalance_kept (interpolationAlpha_spec halpha).1
  refine ⟨hkept, fun hemergency hbypass => ?_, fun hemergency item hitem hsymbol => ?_⟩
  · rcases h with ⟨-, rfl⟩ | ⟨-, alpha, halpha, -, rfl⟩
    · have hremaining := remaining_nonneg config request
      have hcurrent : 0 ≤ request.current.gap request.currentCash := abs_nonneg _
      have hproposed : 0 ≤ request.proposed.gap request.proposedCash := abs_nonneg _
      rw [noTrade_turnover]
      linarith
    · obtain ⟨hunit, hcapacity⟩ := interpolationAlpha_spec halpha
      exact (rebalance_turnover_le hunit).trans
        (add_le_add_left (add_le_add_left (hcapacity hemergency hbypass) _) _)
  · obtain ⟨hqqq, hsoxx⟩ := haccepted.sellOnly hemergency
    have hsell : request.proposedTargetWeights.getD item.1 0 ≤
        request.currentWeights.getD item.1 0 := by
      rw [hrisky] at hsymbol
      rcases mem_cons.mp hsymbol with hsymbol | hsymbol
      · rw [hsymbol]
        exact hqqq
      · rw [mem_singleton.mp hsymbol]
        exact hsoxx
    rw [← max_eq_left hsell]
    exact (hkept.between item hitem hsymbol).2

theorem rebalance_applied {alpha : Decimal} (hemergency : request.emergencyReduction = false)
    (hnav : 0 < request.currentNavUsd) (hused : 0 ≤ request.usedNormalTurnover)
    (hnormalized : request.Normalized config)
    (hband : config.val.turnover.noTradeOneWayThreshold ≤ request.turnover)
    (halpha : request.alpha config = alpha) (hfunded : (request.executed config alpha).sum ≤ 1) :
    applyTurnoverControl config hash request = .ok (request.rebalance config hash alpha) := by
  subst halpha
  exact applyTurnoverControl_eq_ok.mpr
    ⟨⟨hnav, hused, hnormalized, fun htrue => absurd htrue (by rw [hemergency]; decide)⟩,
      .inr ⟨fun h => absurd h.2.2 (not_lt.mpr hband), _, interpolationAlpha_normal hemergency,
        (executable_iff (alpha_mem _ _) hnormalized).mpr hfunded, rfl⟩⟩

def emergencyRequest : TurnoverRequest :=
  { fundedRequest with
    proposedTargetWeights := (RiskyWeights.mk (4 / 10) 0).withCash (6 / 10)
    emergencyReduction := true }

/-- A buy within the capacity of the day, and an emergency that sells a tenth of the account. -/
theorem fundedRequest_keeps : ∃ result reduced,
    applyTurnoverControl shippedQ1Config .short fundedRequest = .ok result ∧
    result.Kept fundedRequest shippedQ1Config ∧ 0 < result.executableOneWayTurnover ∧
    result.executableOneWayTurnover ≤ fundedRequest.remaining shippedQ1Config ∧
    applyTurnoverControl shippedQ1Config .short emergencyRequest = .ok reduced ∧
    reduced.Kept emergencyRequest shippedQ1Config ∧ reduced.executableOneWayTurnover = 1 / 10 ∧
    ∀ item ∈ reduced.executableTargetWeights, item.1 ∈ shippedQ1Config.val.riskySymbols →
      item.2 ≤ emergencyRequest.currentWeights.getD item.1 0 := by
  have heval : ((applyTurnoverControl shippedQ1Config .short fundedRequest).bind fun result =>
      (applyTurnoverControl shippedQ1Config .short emergencyRequest).map fun reduced =>
        (result, reduced)).toOption.any (fun (result, reduced) =>
      decide (0 < result.executableOneWayTurnover ∧
        reduced.executableOneWayTurnover = 1 / 10)) = true := by
    decide +kernel
  obtain ⟨result, reduced, happlied, hreduced, hturnover⟩ := exists_both_of_any heval
  obtain ⟨hpositive, htenth⟩ := of_decide_eq_true hturnover
  obtain ⟨hkept, hcapacity, -⟩ := applyTurnoverControl_keeps happlied
  have hgaps : fundedRequest.remaining shippedQ1Config +
      fundedRequest.current.gap fundedRequest.currentCash +
        fundedRequest.proposed.gap fundedRequest.proposedCash / 2 =
      fundedRequest.remaining shippedQ1Config := by
    decide +kernel
  obtain ⟨hreducedKept, -, hsells⟩ := applyTurnoverControl_keeps hreduced
  exact ⟨result, reduced, happlied, hkept, hpositive, hgaps ▸ hcapacity rfl rfl, hreduced,
    hreducedKept, htenth, hsells rfl⟩

/-- Nothing is left of the day, and the cash is over by what the validation tolerates. -/
def toleratedRequest : TurnoverRequest where
  currentWeights := (RiskyWeights.mk (1 / 2) 0).withCash (1 / 2 + 1 / 10 ^ 18)
  proposedTargetWeights := (RiskyWeights.mk (6 / 10) 0).withCash (4 / 10)
  currentNavUsd := 100000
  usedNormalTurnover := 20 / 100
  emergencyReduction := false

theorem toleratedRequest_exceeds_capacity :
    applyTurnoverControl shippedQ1Config Hashing.plain toleratedRequest =
        .ok (toleratedRequest.rebalance shippedQ1Config Hashing.plain 0) ∧
      toleratedRequest.emergencyReduction = false ∧
      toleratedRequest.bypassNormalTurnoverCap = false ∧
      toleratedRequest.remaining shippedQ1Config <
        (toleratedRequest.rebalance shippedQ1Config Hashing.plain 0).executableOneWayTurnover := by
  refine ⟨rebalance_applied rfl (by decide +kernel) (by decide +kernel)
    ⟨by decide +kernel, by decide +kernel⟩ (by decide +kernel) (by decide +kernel)
    (by decide +kernel), rfl, rfl, ?_⟩
  rw [rebalance_turnover]
  decide +kernel

end AdaptiveQuant.Quant
