import AdaptiveQuant.Execution.Q1FillChain
import AdaptiveQuant.Runtime.ArmCycles

/-! The buys of an execution cycle (`runtime/q1_execution_cycle.py`). -/

namespace AdaptiveQuant

open Guard

theorem quantityPrecision_pos (config : Q1ExecutionConfig) :
    0 < config.val.quantityPrecision.value := by
  have h := config.valid
  simp only [Q1ExecutionFields.check, ok_iff, not_or, not_lt, not_le] at h
  exact h.2.2.2.1.1

def lowerUntil (step : Decimal) (positive : 0 < step) (fits : Decimal → Bool)
    (quantity : Decimal) : Decimal :=
  if quantity ≤ 0 then 0
  else if fits quantity then quantity
  else lowerUntil step positive fits (quantity - step)
termination_by ⌈quantity / step⌉₊
decreasing_by
  rename_i hquantity _
  have hpos : 0 < quantity / step := div_pos (not_le.mp hquantity) positive
  rw [sub_div, div_self positive.ne', Nat.ceil_sub_one]
  exact Nat.sub_one_lt (Nat.ceil_pos.mpr hpos).ne'

theorem lowerUntil_spec (step : Decimal) (positive : 0 < step) (fits : Decimal → Bool)
    (quantity : Decimal) :
    lowerUntil step positive fits quantity = 0 ∨
      0 < lowerUntil step positive fits quantity ∧
        fits (lowerUntil step positive fits quantity) = true := by
  induction quantity using lowerUntil.induct step positive fits with
  | case1 quantity hquantity =>
    rw [lowerUntil, if_pos hquantity]
    exact .inl rfl
  | case2 quantity hquantity hfits =>
    rw [lowerUntil, if_neg hquantity, if_pos hfits]
    exact .inr ⟨not_le.mp hquantity, hfits⟩
  | case3 quantity hquantity hfits ih =>
    rw [lowerUntil, if_neg hquantity, if_neg hfits]
    exact ih

section Affordable

variable (config : Q1ExecutionConfig)

def affordCost (fillPrice notionalBefore commissionBefore quantity : Decimal) : Decimal :=
  let notional := quantity * fillPrice
  let incremental := totalCommission config (notionalBefore + notional) - commissionBefore
  notional + max 0 incremental

def maximumAffordableQuantity (settledCash askPrice notionalBefore commissionBefore : Decimal) :
    Except Failure Decimal := do
  let fillPrice := delayedPrice config .buy askPrice
  let conservativeCash := max 0 (settledCash - config.val.commissionPrecision.value)
  let denominator := fillPrice * (1 + config.val.commissionRate)
  raiseIf (denominator = 0 ∧ conservativeCash = 0)
    ⟨.invalidOperation, "[<class 'decimal.DivisionUndefined'>]", []⟩
  raiseIf (denominator = 0) ⟨.divisionByZero, "[<class 'decimal.DivisionByZero'>]", []⟩
  let quantity := quantizeDown (conservativeCash / denominator) config.val.quantityPrecision
  return lowerUntil config.val.quantityPrecision.value (quantityPrecision_pos config)
    (fun quantity => decide
      (affordCost config fillPrice notionalBefore commissionBefore quantity ≤ settledCash)) quantity

end Affordable

variable {config : Q1ExecutionConfig}
  {settledCash askPrice notionalBefore commissionBefore : Decimal}
  {affordable : Decimal}

theorem maximumAffordableQuantity_total (h : delayedPrice config .buy askPrice ≠ 0) :
    ∃ affordable, maximumAffordableQuantity config settledCash askPrice notionalBefore
      commissionBefore = .ok affordable := by
  have hrate : 0 < 1 + config.val.commissionRate := by
    have hnonneg := config.bounds.2.2.1
    linarith
  have hdenominator : delayedPrice config .buy askPrice * (1 + config.val.commissionRate) ≠ 0 :=
    mul_ne_zero h hrate.ne'
  unfold maximumAffordableQuantity
  dsimp only
  rw [raiseIf_neg _ fun hzero => hdenominator hzero.1, raiseIf_neg _ hdenominator]
  exact ⟨_, rfl⟩

theorem maximumAffordableQuantity_ok (h : maximumAffordableQuantity config settledCash askPrice
      notionalBefore commissionBefore = .ok affordable) :
    affordable = 0 ∨ 0 < affordable ∧
      affordCost config (delayedPrice config .buy askPrice) notionalBefore commissionBefore
        affordable ≤ settledCash := by
  simp only [maximumAffordableQuantity, ok_iff] at h
  obtain ⟨-, -, rfl⟩ := h
  rcases lowerUntil_spec config.val.quantityPrecision.value (quantityPrecision_pos config) _ _ with
    hzero | ⟨hpos, hfits⟩
  · exact .inl hzero
  · exact .inr ⟨hpos, of_decide_eq_true hfits⟩

theorem affordCost_mono {fillPrice quantity other : Decimal} (hprice : 0 ≤ fillPrice)
    (h : quantity ≤ other) : affordCost config fillPrice notionalBefore commissionBefore quantity ≤
      affordCost config fillPrice notionalBefore commissionBefore other := by
  have hnotional := mul_le_mul_of_nonneg_right h hprice
  have htotal := totalCommission_mono config (add_le_add_right hnotional notionalBefore)
  exact add_le_add hnotional (max_le_max_left 0 (sub_le_sub_right htotal _))

theorem delayFactor_buy : 0 ≤ delayFactor config .buy := by
  have hdelay := config.bounds.2.1
  change 0 ≤ 1 + config.val.delayPenaltyBps / 10000
  positivity

theorem affordable_fill_le (h : maximumAffordableQuantity config settledCash askPrice
      notionalBefore commissionBefore = .ok affordable) {request : FillRequest}
    {fill : Q1FillEconomics} (hside : request.side = .buy) (hask : request.askPrice = askPrice)
    (hnotional : request.cumulativeNotionalBefore = notionalBefore)
    (hcommission : request.cumulativeCommissionBefore = commissionBefore)
    (hremaining : request.remainingQuantity ≤ affordable)
    (hfill : buildQ1FillEconomics config request = .ok fill) :
    fill.quantity * fill.price + fill.commissionUsd ≤ settledCash := by
  subst hask hnotional hcommission
  have hpriced := buildQ1FillEconomics_ok hfill
  have hwithin := hpriced.within_remaining.trans hremaining
  have hreference : request.reference = request.askPrice := by
    rw [FillRequest.reference, hside]
  have hprice : fill.price = delayedPrice config .buy request.askPrice := by
    rw [hpriced.price_eq, hside, hreference]
  have hnonneg : 0 ≤ fill.price := by
    rw [hprice]
    exact delayedPrice_nonneg hpriced.ask_pos delayFactor_buy
  have hcommission : fill.commissionUsd = totalCommission config
      (request.cumulativeNotionalBefore + fill.quantity * fill.price) -
        request.cumulativeCommissionBefore := by
    rw [hpriced.commission_eq, hpriced.total_eq, hpriced.notional_eq]
  rcases maximumAffordableQuantity_ok h with hzero | ⟨-, hcovered⟩
  · exact absurd (hpriced.quantity_pos.trans_le hwithin) (by rw [hzero]; exact lt_irrefl 0)
  · calc fill.quantity * fill.price + fill.commissionUsd
        = affordCost config fill.price request.cumulativeNotionalBefore
            request.cumulativeCommissionBefore fill.quantity := by
          rw [affordCost, ← hcommission, max_eq_right hpriced.commission_nonneg]
      _ ≤ affordCost config fill.price request.cumulativeNotionalBefore
            request.cumulativeCommissionBefore affordable := affordCost_mono hnonneg hwithin
      _ ≤ settledCash := by
          rw [hprice]
          exact hcovered

section Arm

open Settlement

variable {state : Q1ArmState} {fill : Fill}

structure FilledAs (fill : Fill) (priced : Q1FillEconomics) : Prop where
  quantity : fill.quantity = priced.quantity
  price : fill.price = priced.price
  commission : fill.commissionUsd = priced.commissionUsd

theorem otherArm_ne {message : String} (h : message.toList.head? ≠ some 'F') :
    valueError s!"Fill for {fill.armId.value} cannot mutate arm {state.val.armId.value}" ≠
      valueError message := by
  intro heq
  have hmessage : s!"Fill for {fill.armId.value} cannot mutate arm {state.val.armId.value}" =
      message := (Failure.mk.inj heq).2.1
  refine h ?_
  rw [← hmessage]
  simp [toString]

/-- A quote that the configured price precision rounds to nothing ends in a division by zero. -/
example : maximumAffordableQuantity shippedExecutionConfig 100 (1 / 100000) 0 0 =
    .error ⟨.divisionByZero, "[<class 'decimal.DivisionByZero'>]", []⟩ := by
  decide +kernel

end Arm

end AdaptiveQuant
