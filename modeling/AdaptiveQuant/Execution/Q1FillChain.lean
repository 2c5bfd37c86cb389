import AdaptiveQuant.Execution.Q1Paper
import AdaptiveQuant.Lib.Run

/-! The partial fills of one order. -/

namespace AdaptiveQuant

open Guard List

section Commission

variable (config : Q1ExecutionConfig)

theorem Q1ExecutionConfig.bounds : 0 < config.val.displayedParticipation ∧
    0 ≤ config.val.delayPenaltyBps ∧ 0 ≤ config.val.commissionRate ∧
    0 ≤ config.val.commissionWaiverThresholdUsd := by
  have h := config.valid
  simp only [Q1ExecutionFields.check, ok_iff, not_or, not_lt, not_le, not_not] at h
  exact ⟨h.1.1, h.2.2.1.1, h.2.2.2.2.1.1, h.2.2.2.2.1.2.1⟩

theorem totalCommission_nonneg (notional : Decimal) : 0 ≤ totalCommission config notional := by
  obtain ⟨-, -, hrate, hwaiver⟩ := config.bounds
  unfold totalCommission
  split
  · exact le_refl _
  · rename_i hover
    exact quantizeHalfEven_nonneg (mul_nonneg (hwaiver.trans (not_le.mp hover).le) hrate)

theorem totalCommission_mono {a b : Decimal} (h : a ≤ b) :
    totalCommission config a ≤ totalCommission config b := by
  by_cases hwaived : a ≤ config.val.commissionWaiverThresholdUsd
  · rw [totalCommission, if_pos hwaived]
    exact totalCommission_nonneg config b
  · have hover : ¬ b ≤ config.val.commissionWaiverThresholdUsd := fun hb => hwaived (h.trans hb)
    rw [totalCommission, totalCommission, if_neg hwaived, if_neg hover]
    exact quantizeHalfEven_mono (mul_le_mul_of_nonneg_right h config.bounds.2.2.1)

theorem totalCommission_waived {notional : Decimal} (h : notional ≤ 0) :
    totalCommission config notional = 0 :=
  if_pos (h.trans config.bounds.2.2.2)

theorem quantizeHalfEven_nonpos {value : Decimal} {q : Quantum} (h : value ≤ 0) :
    quantizeHalfEven value q ≤ 0 := by
  have hzero : quantizeHalfEven 0 q = 0 := by
    simp [quantizeHalfEven]
  exact hzero ▸ quantizeHalfEven_mono h

def delayFactor (side : OrderSide) : Decimal :=
  match side with
  | .buy => 1 + config.val.delayPenaltyBps / 10000
  | .sell => 1 - config.val.delayPenaltyBps / 10000

theorem delayedPrice_eq (side : OrderSide) (reference : Decimal) :
    delayedPrice config side reference =
      quantizeHalfEven (reference * delayFactor config side) config.val.pricePrecision := by
  cases side <;> rfl

end Commission

structure Q1FillEconomics.Priced (config : Q1ExecutionConfig) (request : FillRequest)
    (fill : Q1FillEconomics) : Prop where
  notional_before : 0 ≤ request.cumulativeNotionalBefore
  bid_pos : 0 < request.bidPrice
  ask_pos : 0 < request.askPrice
  quantity_eq : fill.quantity = request.quantity config
  quantity_pos : 0 < fill.quantity
  within_remaining : fill.quantity ≤ request.remainingQuantity
  within_displayed :
    fill.quantity ≤ request.executableSideQuantity * config.val.displayedParticipation
  within_adv : fill.quantity ≤ request.remainingAdvCapacity
  price_eq : fill.price = delayedPrice config request.side request.reference
  notional_eq : fill.cumulativeNotionalUsd =
    request.cumulativeNotionalBefore + fill.quantity * fill.price
  total_eq : fill.cumulativeCommissionUsd = totalCommission config fill.cumulativeNotionalUsd
  commission_eq :
    fill.commissionUsd = fill.cumulativeCommissionUsd - request.cumulativeCommissionBefore
  commission_nonneg : 0 ≤ fill.commissionUsd

theorem fillQuantity_le {config : Q1ExecutionConfig} {request : FillRequest}
    (h : 0 < request.quantity config) :
    request.quantity config ≤ request.remainingQuantity ∧
      request.quantity config ≤
        request.executableSideQuantity * config.val.displayedParticipation ∧
      request.quantity config ≤ request.remainingAdvCapacity := by
  have hle : request.quantity config ≤ min (min request.remainingQuantity
      (request.executableSideQuantity * config.val.displayedParticipation))
        request.remainingAdvCapacity := quantizeDown_le (quantizeDown_pos_value h)
  obtain ⟨hle, hadv⟩ := le_min_iff.mp hle
  obtain ⟨hremaining, hdisplayed⟩ := le_min_iff.mp hle
  exact ⟨hremaining, hdisplayed, hadv⟩

theorem buildQ1FillEconomics_ok {config : Q1ExecutionConfig} {request : FillRequest}
    {fill : Q1FillEconomics} (h : buildQ1FillEconomics config request = .ok fill) :
    fill.Priced config request := by
  simp only [buildQ1FillEconomics, ok_iff, not_or, not_lt, not_le] at h
  obtain ⟨-, ⟨hbid, hask, -⟩, ⟨hnotional, -⟩, guardBps, -, -, hquantity, hcommission, rfl⟩ := h
  obtain ⟨hremaining, hdisplayed, hadv⟩ := fillQuantity_le hquantity
  exact ⟨hnotional, hbid, hask, rfl, hquantity, hremaining, hdisplayed, hadv, rfl, rfl, rfl, rfl,
    hcommission⟩

def commissionExceeded : Failure :=
  q1PaperError "Cumulative commission exceeds configured order commission"

theorem commissionExceeded_avoided {config : Q1ExecutionConfig} {request : FillRequest}
    (owed : 0 ≤ request.cumulativeNotionalBefore → 0 < request.quantity config →
      0 < request.bidPrice → 0 < request.askPrice → request.cumulativeCommissionBefore ≤
        totalCommission config (request.cumulativeNotionalBefore +
          request.quantity config * delayedPrice config request.side request.reference)) :
    Avoids commissionExceeded (buildQ1FillEconomics config request) := by
  unfold buildQ1FillEconomics
  refine .check (by decide) ?_
  refine (avoids_raiseIf (by decide)).bind_ok fun _ hquote => ?_
  refine (avoids_raiseIf (by decide)).bind_ok fun _ hbefore => ?_
  refine Avoids.bind (.check (by decide) (avoids_ok _ _)) fun guardBps => ?_
  have hguard : priceGuardViolation guardBps request.adverseMoveBps ≠ commissionExceeded := by
    simp [priceGuardViolation, commissionExceeded, q1PaperError]
  refine .check hguard ?_
  refine (avoids_raiseIf (by decide)).bind_ok fun _ hquantity => ?_
  simp only [raiseIf_eq_ok, not_or, not_lt, not_le] at hquote hbefore hquantity
  have hnonneg := sub_nonneg.mpr (owed hbefore.1 hquantity hquote.1 hquote.2.1)
  refine Avoids.bind ?_ fun _ => avoids_ok _ _
  rw [raiseIf_neg _ (not_lt.mpr hnonneg)]
  exact avoids_ok _ _

structure PaperOrder where
  side : OrderSide
  quantity : Decimal
  decisionReferencePrice : Decimal
  decisionSpreadBps : Decimal
  quantity_pos : 0 < quantity

/-- What one execution cycle offers an order: the quantity that the position or the cash allows, a
quote, and the capacities of both. -/
structure FillOffer where
  allowed : Decimal
  bidPrice : Decimal
  askPrice : Decimal
  executableSideQuantity : Decimal
  remainingAdvCapacity : Decimal
deriving DecidableEq

def filledQuantity (fills : List Q1FillEconomics) : Decimal := (fills.map (·.quantity)).sum

def orderNotional (fills : List Q1FillEconomics) : Decimal :=
  (fills.map fun fill => fill.quantity * fill.price).sum

def orderCommission (fills : List Q1FillEconomics) : Decimal :=
  (fills.map (·.commissionUsd)).sum

def PaperOrder.request (order : PaperOrder) (fills : List Q1FillEconomics) (offer : FillOffer) :
    FillRequest where
  side := order.side
  remainingQuantity := min (order.quantity - filledQuantity fills) offer.allowed
  bidPrice := offer.bidPrice
  askPrice := offer.askPrice
  executableSideQuantity := offer.executableSideQuantity
  remainingAdvCapacity := offer.remainingAdvCapacity
  decisionReferencePrice := order.decisionReferencePrice
  decisionSpreadBps := order.decisionSpreadBps
  cumulativeNotionalBefore := orderNotional fills
  cumulativeCommissionBefore := orderCommission fills

def fillPaperOrder (config : Q1ExecutionConfig) (order : PaperOrder) (fills : List Q1FillEconomics)
    (offer : FillOffer) : Except Failure (List Q1FillEconomics) := do
  let fill ← buildQ1FillEconomics config (order.request fills offer)
  return fills ++ [fill]

section Chain

variable {config : Q1ExecutionConfig} {order : PaperOrder} {fills : List Q1FillEconomics}
  {offer : FillOffer}

structure FillsInv (config : Q1ExecutionConfig) (order : PaperOrder)
    (fills : List Q1FillEconomics) : Prop where
  commission : orderCommission fills = totalCommission config (orderNotional fills)
  filled : filledQuantity fills ≤ order.quantity
  notional_nonpos : delayFactor config order.side < 0 → orderNotional fills ≤ 0

theorem reference_pos {request : FillRequest} (hbid : 0 < request.bidPrice)
    (hask : 0 < request.askPrice) : 0 < request.reference := by
  unfold FillRequest.reference
  split
  · exact hask
  · exact hbid

theorem delayedPrice_nonneg {side : OrderSide} {reference : Decimal} (hreference : 0 < reference)
    (hfactor : 0 ≤ delayFactor config side) : 0 ≤ delayedPrice config side reference := by
  rw [delayedPrice_eq]
  exact quantizeHalfEven_nonneg (mul_nonneg hreference.le hfactor)

theorem delayedPrice_nonpos {side : OrderSide} {reference : Decimal} (hreference : 0 < reference)
    (hfactor : delayFactor config side < 0) : delayedPrice config side reference ≤ 0 := by
  rw [delayedPrice_eq]
  exact quantizeHalfEven_nonpos (mul_nonpos_of_nonneg_of_nonpos hreference.le hfactor.le)

theorem fillsInv_start : FillsInv config order [] where
  commission := (totalCommission_waived config (le_refl 0)).symm
  filled := order.quantity_pos.le
  notional_nonpos := fun _ => le_refl 0

theorem owed_ge (inv : FillsInv config order fills)
    (hquantity : 0 < (order.request fills offer).quantity config)
    (hbid : 0 < offer.bidPrice) (hask : 0 < offer.askPrice) :
    orderCommission fills ≤ totalCommission config (orderNotional fills +
      (order.request fills offer).quantity config *
        delayedPrice config order.side (order.request fills offer).reference) := by
  have hreference : 0 < (order.request fills offer).reference := reference_pos hbid hask
  rw [inv.commission]
  rcases le_or_gt 0 (delayFactor config order.side) with hfactor | hfactor
  · exact totalCommission_mono config (le_add_of_nonneg_right
      (mul_nonneg hquantity.le (delayedPrice_nonneg hreference hfactor)))
  · rw [totalCommission_waived config (inv.notional_nonpos hfactor)]
    exact totalCommission_nonneg config _

theorem fillsInv_next (inv : FillsInv config order fills) {fill : Q1FillEconomics}
    (h : buildQ1FillEconomics config (order.request fills offer) = .ok fill) :
    FillsInv config order (fills ++ [fill]) := by
  have hfill := buildQ1FillEconomics_ok h
  have hnotional : orderNotional (fills ++ [fill]) = fill.cumulativeNotionalUsd := by
    rw [hfill.notional_eq, orderNotional, map_append, sum_append, map_singleton,
      sum_singleton]
    rfl
  refine ⟨?_, ?_, fun hfactor => ?_⟩
  · rw [hnotional, ← hfill.total_eq, orderCommission, map_append, sum_append,
      map_singleton, sum_singleton, hfill.commission_eq]
    exact add_sub_cancel _ _
  · have hwithin := (hfill.within_remaining).trans (min_le_left _ _)
    rw [filledQuantity, map_append, sum_append, map_singleton, sum_singleton]
    change _ ≤ order.quantity - filledQuantity fills at hwithin
    exact add_le_of_le_sub_left hwithin
  · have hprice : fill.price ≤ 0 := by
      rw [hfill.price_eq]
      exact delayedPrice_nonpos (reference_pos hfill.bid_pos hfill.ask_pos) hfactor
    rw [hnotional, hfill.notional_eq]
    exact add_nonpos (inv.notional_nonpos hfactor)
      (mul_nonpos_of_nonneg_of_nonpos hfill.quantity_pos.le hprice)

theorem fillPaperOrder_ok {fills'} (h : fillPaperOrder config order fills offer = .ok fills') :
    ∃ fill, buildQ1FillEconomics config (order.request fills offer) = .ok fill ∧
      fills' = fills ++ [fill] := by
  simp only [fillPaperOrder, ok_iff] at h
  obtain ⟨fill, hfill, rfl⟩ := h
  exact ⟨fill, hfill, rfl⟩

theorem fillsInv_run {taken} (run : Run (fillPaperOrder config order) [] taken fills) :
    FillsInv config order fills := by
  refine run.inv fillsInv_start fun before offer after inv hstep => ?_
  obtain ⟨fill, hfill, rfl⟩ := fillPaperOrder_ok hstep
  exact fillsInv_next inv hfill

/-- After any fills of an order, its commission is that of its notional alone and its fills are
within its quantity. -/
theorem fills_run_sound {taken : List (List Q1FillEconomics × FillOffer)}
    (run : Run (fillPaperOrder config order) [] taken fills) :
    orderCommission fills = totalCommission config (orderNotional fills) ∧
      filledQuantity fills ≤ order.quantity ∧
      ∀ offer, buildQ1FillEconomics config (order.request fills offer) ≠
          .error commissionExceeded ∧
        ∀ fill, buildQ1FillEconomics config (order.request fills offer) = .ok fill →
          0 ≤ fill.commissionUsd ∧
          fill.cumulativeCommissionUsd = totalCommission config fill.cumulativeNotionalUsd ∧
          fill.quantity ≤ offer.executableSideQuantity * config.val.displayedParticipation ∧
          fill.quantity ≤ offer.remainingAdvCapacity ∧
          filledQuantity fills + fill.quantity ≤ order.quantity := by
  have inv := fillsInv_run run
  refine ⟨inv.commission, inv.filled, fun offer => ⟨?_, fun fill hfill => ?_⟩⟩
  · exact commissionExceeded_avoided fun _ hquantity hbid hask => owed_ge inv hquantity hbid hask
  · have hpriced := buildQ1FillEconomics_ok hfill
    have hnext := (fillsInv_next inv hfill).filled
    rw [filledQuantity, map_append, sum_append, map_singleton,
      sum_singleton] at hnext
    exact ⟨hpriced.commission_nonneg, hpriced.total_eq, hpriced.within_displayed,
      hpriced.within_adv, hnext⟩

def shippedExecutionConfig : Q1ExecutionConfig where
  val :=
    { displayedParticipation := 1 / 10
      advParticipation := 25 / 1000
      delayPenaltyBps := 1
      guardMinBps := 20
      guardMaxBps := 75
      guardSpreadMultiplier := 3
      quantityPrecision := ⟨1, -6⟩
      pricePrecision := ⟨1, -4⟩
      commissionRate := 1 / 1000
      commissionWaiverThresholdUsd := 10
      commissionPrecision := ⟨1, -2⟩
      sensitivityBps := [5, 10] }
  valid := by decide +kernel

def smallSale : PaperOrder where
  side := .sell
  quantity := 2001 / 100000
  decisionReferencePrice := 50005 / 100
  decisionSpreadBps := 1
  quantity_pos := by decide +kernel

def cappedOffer : FillOffer where
  allowed := 1
  bidPrice := 50005 / 100
  askPrice := 50010 / 100
  executableSideQuantity := 100
  remainingAdvCapacity := 2 / 100

def cappedFill : Q1FillEconomics :=
  match buildQ1FillEconomics shippedExecutionConfig (smallSale.request [] cappedOffer) with
  | .ok fill => fill
  | .error _ => ⟨0, 0, 0, 0, 0, 0, [], 0, 0⟩

theorem cappedFill_run : ∃ taken,
    Run (fillPaperOrder shippedExecutionConfig smallSale) [] taken [cappedFill] := by
  have hfills : [cappedOffer].foldlM (fillPaperOrder shippedExecutionConfig smallSale) [] =
      .ok [cappedFill] := by decide +kernel
  obtain ⟨taken, -, run⟩ := Run.of_foldlM hfills
  exact ⟨taken, run⟩

def largerSale : PaperOrder :=
  { smallSale with quantity := 5 / 100, quantity_pos := by decide +kernel }

def secondFill : Q1FillEconomics :=
  match buildQ1FillEconomics shippedExecutionConfig
      (largerSale.request [cappedFill] { cappedOffer with remainingAdvCapacity := 3 / 100 }) with
  | .ok fill => fill
  | .error _ => cappedFill

theorem secondFill_run : ∃ taken, taken.length = 2 ∧
    Run (fillPaperOrder shippedExecutionConfig largerSale) [] taken [cappedFill, secondFill] := by
  have hfills : [cappedOffer, { cappedOffer with remainingAdvCapacity := 3 / 100 }].foldlM
      (fillPaperOrder shippedExecutionConfig largerSale) [] = .ok [cappedFill, secondFill] := by
    decide +kernel
  obtain ⟨taken, htaken, run⟩ := Run.of_foldlM hfills
  exact ⟨taken, by simpa using congrArg length htaken, run⟩

/-- The second fill crosses the waiver: the order owes two cents on 25 dollars. -/
theorem secondFill_commission : orderCommission [cappedFill] = 0 ∧
    orderNotional [cappedFill, secondFill] = 25 ∧
    orderCommission [cappedFill, secondFill] = totalCommission shippedExecutionConfig 25 ∧
    totalCommission shippedExecutionConfig 25 = 2 / 100 := by
  have hnotional : orderNotional [cappedFill, secondFill] = 25 := by decide +kernel
  obtain ⟨taken, -, run⟩ := secondFill_run
  refine ⟨by decide +kernel, hnotional, ?_, by decide +kernel⟩
  rw [← hnotional]
  exact (fills_run_sound run).1

end Chain

end AdaptiveQuant
