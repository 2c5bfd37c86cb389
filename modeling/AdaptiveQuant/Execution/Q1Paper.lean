import AdaptiveQuant.Domain.Quantize

/-! `build_q1_fill_economics` of `execution/q1_paper.py`, which prices one simulated fill. -/

namespace AdaptiveQuant

open Guard

def q1PaperError (message : String) : Failure := ⟨.valueError, message, []⟩

/-- `Q1ExecutionConfig`. -/
structure Q1ExecutionFields where
  displayedParticipation : Decimal
  advParticipation : Decimal
  delayPenaltyBps : Decimal
  guardMinBps : Decimal
  guardMaxBps : Decimal
  guardSpreadMultiplier : Decimal
  quantityPrecision : Quantum
  pricePrecision : Quantum
  commissionRate : Decimal
  commissionWaiverThresholdUsd : Decimal
  commissionPrecision : Quantum
  sensitivityBps : List Decimal
deriving DecidableEq

/-- `Q1ExecutionConfig.__post_init__`. -/
def Q1ExecutionFields.check (c : Q1ExecutionFields) : Except Failure Unit := do
  raiseIf (¬(0 < c.displayedParticipation ∧ c.displayedParticipation ≤ 1))
    (q1PaperError "Displayed participation must be within (0, 1]")
  raiseIf (¬(0 < c.advParticipation ∧ c.advParticipation ≤ 1))
    (q1PaperError "ADV participation must be within (0, 1]")
  raiseIf (c.delayPenaltyBps < 0 ∨ c.guardMinBps ≤ 0 ∨ c.guardMaxBps < c.guardMinBps ∨
      c.guardSpreadMultiplier ≤ 0)
    (q1PaperError "Invalid Q1 execution penalty or guard parameters")
  raiseIf (c.quantityPrecision.value ≤ 0 ∨ c.pricePrecision.value ≤ 0)
    (q1PaperError "Q1 execution precision must be positive")
  raiseIf (c.commissionRate < 0 ∨ c.commissionWaiverThresholdUsd < 0 ∨
      c.commissionPrecision.value ≤ 0)
    (q1PaperError "Q1 commission parameters cannot be negative")
  raiseIf (c.sensitivityBps.any (· < 0))
    (q1PaperError "Q1 sensitivity values cannot be negative")

abbrev Q1ExecutionConfig := Validated Q1ExecutionFields.check

structure Q1FillEconomics where
  quantity : Decimal
  price : Decimal
  commissionUsd : Decimal
  cumulativeNotionalUsd : Decimal
  cumulativeCommissionUsd : Decimal
  baseExecutionCostUsd : Decimal
  sensitivityCostsUsd : List (Decimal × Decimal)
  guardBps : Decimal
  adverseMoveBps : Decimal
deriving DecidableEq

/-- The keyword arguments of `build_q1_fill_economics`, without the configuration. -/
structure FillRequest where
  side : OrderSide
  remainingQuantity : Decimal
  bidPrice : Decimal
  askPrice : Decimal
  executableSideQuantity : Decimal
  remainingAdvCapacity : Decimal
  decisionReferencePrice : Decimal
  decisionSpreadBps : Decimal
  cumulativeNotionalBefore : Decimal
  cumulativeCommissionBefore : Decimal
deriving DecidableEq

/-- `Q1PriceGuardViolation`. -/
def priceGuardViolation (guardBps adverseMoveBps : Decimal) : Failure :=
  ⟨.q1PriceGuardViolation,
    s!"Decision price guard exceeded: {adverseMoveBps} bps > {guardBps} bps", []⟩

section Economics

variable (config : Q1ExecutionConfig)

def dynamicGuardBps (decisionSpreadBps : Decimal) : Except Failure Decimal := do
  raiseIf (decisionSpreadBps < 0) (q1PaperError "Decision spread cannot be negative")
  return min config.val.guardMaxBps
    (max config.val.guardMinBps (config.val.guardSpreadMultiplier * decisionSpreadBps))

def totalCommission (cumulativeNotional : Decimal) : Decimal :=
  if cumulativeNotional ≤ config.val.commissionWaiverThresholdUsd then 0
  else quantizeHalfEven (cumulativeNotional * config.val.commissionRate)
    config.val.commissionPrecision

def delayedPrice (side : OrderSide) (reference : Decimal) : Decimal :=
  let delay := config.val.delayPenaltyBps / 10000
  let rawPrice :=
    match side with
    | .buy => reference * (1 + delay)
    | .sell => reference * (1 - delay)
  quantizeHalfEven rawPrice config.val.pricePrecision

variable (request : FillRequest)

def FillRequest.reference : Decimal :=
  match request.side with
  | .buy => request.askPrice
  | .sell => request.bidPrice

def FillRequest.adverseMoveBps : Decimal :=
  let adverseMove :=
    match request.side with
    | .buy => (request.reference - request.decisionReferencePrice) / request.decisionReferencePrice
    | .sell => (request.decisionReferencePrice - request.reference) / request.decisionReferencePrice
  max 0 (adverseMove * 10000)

def FillRequest.quantity : Decimal :=
  let displayedCap := request.executableSideQuantity * config.val.displayedParticipation
  quantizeDown (min (min request.remainingQuantity displayedCap) request.remainingAdvCapacity)
    config.val.quantityPrecision

def buildQ1FillEconomics : Except Failure Q1FillEconomics := do
  raiseIf (request.remainingQuantity ≤ 0)
    (q1PaperError "Remaining order quantity must be positive")
  raiseIf (request.bidPrice ≤ 0 ∨ request.askPrice ≤ 0 ∨ request.askPrice < request.bidPrice ∨
      request.executableSideQuantity ≤ 0 ∨ request.remainingAdvCapacity ≤ 0 ∨
      request.decisionReferencePrice ≤ 0)
    (q1PaperError "Q1 fill inputs must describe an executable quote")
  raiseIf (request.cumulativeNotionalBefore < 0 ∨ request.cumulativeCommissionBefore < 0)
    (q1PaperError "Q1 cumulative order economics cannot be negative")
  let adverseMoveBps := request.adverseMoveBps
  let guardBps ← dynamicGuardBps config request.decisionSpreadBps
  raiseIf (guardBps < adverseMoveBps) (priceGuardViolation guardBps adverseMoveBps)
  let quantity := request.quantity config
  raiseIf (quantity ≤ 0) (q1PaperError "Q1 execution caps produced a zero-quantity fill")
  let price := delayedPrice config request.side request.reference
  let fillNotional := quantity * price
  let cumulativeNotional := request.cumulativeNotionalBefore + fillNotional
  let total := totalCommission config cumulativeNotional
  let commission := total - request.cumulativeCommissionBefore
  raiseIf (commission < 0)
    (q1PaperError "Cumulative commission exceeds configured order commission")
  let midpoint := (request.bidPrice + request.askPrice) / 2
  let priceCost :=
    match request.side with
    | .buy => (price - midpoint) * quantity
    | .sell => (midpoint - price) * quantity
  let baseCost := max 0 priceCost + commission
  return {
    quantity
    price
    commissionUsd := commission
    cumulativeNotionalUsd := cumulativeNotional
    cumulativeCommissionUsd := total
    baseExecutionCostUsd := baseCost
    sensitivityCostsUsd := config.val.sensitivityBps.map fun value =>
      (value, baseCost + fillNotional * value / 10000)
    guardBps
    adverseMoveBps }

end Economics

end AdaptiveQuant
