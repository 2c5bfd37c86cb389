import AdaptiveQuant.Forward.SellOnlyPlan

/-! The account of a projected plan. -/

namespace AdaptiveQuant

open Guard Sequence List

def PlannedOrder.shares (order : PlannedOrder) : Decimal :=
  match order.side with
  | .buy => order.quantity
  | .sell => -order.quantity

def netShares (orders : List PlannedOrder) (symbol : String) : Decimal :=
  ((orders.filter (·.symbol = symbol)).map (·.shares)).sum

def orderFlow (config : ForwardRiskConfig) (quotes : QuoteBundle) (order : PlannedOrder) :
    Decimal :=
  let notional := order.quantity * orderPrice config quotes order
  match order.side with
  | .buy => -(notional + commission config notional)
  | .sell => notional - commission config notional

def orderGain (config : ForwardRiskConfig) (quotes : QuoteBundle) (order : PlannedOrder) :
    Decimal :=
  orderFlow config quotes order + order.shares * (quoteOf quotes order.symbol).midpoint

section Account

variable {config : ForwardRiskConfig} {quotes : QuoteBundle} {before after : Projection}
  {orders : List PlannedOrder}

@[simp] theorem netShares_nil (symbol : String) : netShares [] symbol = 0 := rfl

theorem netShares_cons (order : PlannedOrder) (rest : List PlannedOrder) (symbol : String) :
    netShares (order :: rest) symbol =
      (if order.symbol = symbol then order.shares else 0) + netShares rest symbol := by
  unfold netShares
  split
  · rename_i heq
    rw [filter_cons_of_pos (by simpa using heq), map_cons, sum_cons]
  · rename_i hne
    rw [filter_cons_of_neg (by simpa using hne), zero_add]

theorem netShares_append (front back : List PlannedOrder) (symbol : String) :
    netShares (front ++ back) symbol = netShares front symbol + netShares back symbol := by
  simp [netShares]

theorem netShares_of_not_mem {symbol : String} (h : ∀ order ∈ orders, order.symbol ≠ symbol) :
    netShares orders symbol = 0 := by
  have hnil : orders.filter (·.symbol = symbol) = [] :=
    filter_eq_nil_iff.mpr fun order horder => by simpa using h order horder
  rw [netShares, hnil]
  rfl

theorem netShares_of_mem (nodup : (orders.map (·.symbol)).Nodup) {order} (mem : order ∈ orders) :
    netShares orders order.symbol = order.shares := by
  induction orders with
  | nil => cases mem
  | cons first rest ih =>
    rw [map_cons, nodup_cons] at nodup
    rw [netShares_cons]
    rcases mem_cons.mp mem with rfl | hmem
    · rw [if_pos rfl, netShares_of_not_mem, add_zero]
      exact fun other hother heq => nodup.1 (heq ▸ mem_map_of_mem hother)
    · rw [if_neg, zero_add, ih nodup.2 hmem]
      exact fun heq => nodup.1 (heq ▸ mem_map_of_mem hmem)

theorem netShares_nonpos (h : ∀ order ∈ orders, order.shares ≤ 0) (symbol : String) :
    netShares orders symbol ≤ 0 := by
  induction orders with
  | nil => exact le_rfl
  | cons order rest ih =>
    rw [forall_mem_cons] at h
    rw [netShares_cons]
    refine add_nonpos ?_ (ih h.2)
    split
    · exact h.1
    · exact le_rfl

theorem projectOrder_eq_ok {order} :
    projectOrder config quotes before order = .ok after ↔
      (order.side = .sell → order.quantity ≤ before.quantity order.symbol) ∧
        after = ⟨before.cash + orderFlow config quotes order,
          before.positions.set order.symbol (before.quantity order.symbol + order.shares),
          before.totalCost + orderCost config quotes order⟩ := by
  cases hside : order.side with
  | buy =>
    simp only [projectOrder, orderFlow, PlannedOrder.shares, Projection.quantity, hside,
      reduceCtorEq, false_imp_iff, true_and, Except.ok.injEq, ← sub_eq_add_neg]
    exact eq_comm
  | sell =>
    simp only [projectOrder, orderFlow, PlannedOrder.shares, Projection.quantity, hside,
      true_imp_iff, ok_iff, not_lt, gt_iff_lt, ← sub_eq_add_neg]
    exact and_congr_right fun _ => eq_comm

structure Projected (config : ForwardRiskConfig) (quotes : QuoteBundle) (before : Projection)
    (orders : List PlannedOrder) (after : Projection) : Prop where
  cash : after.cash = before.cash + (orders.map (orderFlow config quotes)).sum
  quantity : ∀ symbol, after.quantity symbol = before.quantity symbol + netShares orders symbol
  cost : after.totalCost = before.totalCost + (orders.map (orderCost config quotes)).sum
  value : after.value quotes = before.value quotes + (orders.map (orderGain config quotes)).sum

theorem projectOrder_quantity {order} (h : projectOrder config quotes before order = .ok after)
    (symbol : String) :
    after.quantity symbol =
      before.quantity symbol + if order.symbol = symbol then order.shares else 0 := by
  obtain ⟨-, rfl⟩ := projectOrder_eq_ok.mp h
  simp only [Projection.quantity, Dict.getD, Dict.get?_set]
  by_cases heq : symbol = order.symbol
  · rw [if_pos heq, if_pos heq.symm, Option.getD_some, heq]
  · rw [if_neg heq, if_neg (Ne.symm heq), add_zero]

theorem projectOrders_ok (h : orders.foldlM (projectOrder config quotes) before = .ok after) :
    Projected config quotes before orders after := by
  induction orders generalizing before with
  | nil =>
    obtain rfl : before = after := Except.ok.inj h
    constructor <;> simp
  | cons order rest ih =>
    rw [foldlM_cons, bind_eq_ok] at h
    obtain ⟨next, hnext, hrest⟩ := h
    obtain ⟨cash, quantity, cost, value⟩ := ih hrest
    have hquantity := projectOrder_quantity hnext
    obtain ⟨-, rfl⟩ := projectOrder_eq_ok.mp hnext
    refine ⟨?_, fun symbol => ?_, ?_, ?_⟩
    · rw [cash, map_cons, sum_cons]
      ring
    · rw [quantity, hquantity, netShares_cons, add_assoc]
    · rw [cost, map_cons, sum_cons]
      ring
    · rw [value, map_cons, sum_cons, Projection.value, midpointValue_set, Projection.value,
        orderGain, Projection.quantity]
      ring

theorem projectOrders_exists (nodup : (orders.map (·.symbol)).Nodup)
    (served : ∀ order ∈ orders, order.side = .sell →
      order.quantity ≤ before.quantity order.symbol) :
    ∃ after, orders.foldlM (projectOrder config quotes) before = .ok after := by
  induction orders generalizing before with
  | nil => exact ⟨before, rfl⟩
  | cons order rest ih =>
    rw [map_cons, nodup_cons] at nodup
    rw [forall_mem_cons] at served
    obtain ⟨next, hnext⟩ : ∃ next, projectOrder config quotes before order = .ok next :=
      ⟨_, projectOrder_eq_ok.mpr ⟨served.1, rfl⟩⟩
    obtain ⟨after, hafter⟩ := ih nodup.2 fun other hother hside => by
      have hne : order.symbol ≠ other.symbol := fun heq =>
        nodup.1 (heq ▸ mem_map_of_mem hother)
      rw [projectOrder_quantity hnext, if_neg hne, add_zero]
      exact served.2 other hother hside
    refine ⟨after, ?_⟩
    rw [foldlM_cons, hnext]
    exact hafter

theorem neg_orderCost_le_orderGain {order} (quantity : 0 ≤ order.quantity) :
    -orderCost config quotes order ≤ orderGain config quotes order := by
  have hle := mul_le_mul_of_nonneg_left
    (le_abs_self (orderPrice config quotes order - (quoteOf quotes order.symbol).midpoint)) quantity
  have hge := mul_le_mul_of_nonneg_left
    (neg_abs_le (orderPrice config quotes order - (quoteOf quotes order.symbol).midpoint)) quantity
  unfold orderGain orderFlow orderCost PlannedOrder.shares
  cases order.side <;> dsimp only <;> linarith

end Account

theorem ForwardPlanRequest.project_eq_ok {request : ForwardPlanRequest}
    {planned : List PlannedOrder} {projection : Projection} {projectedNav : Decimal} :
    request.project planned = .ok (projection, projectedNav) ↔
      projectState request.config request.quotes request.state planned = .ok projection ∧
        0 ≤ projection.cash ∧ 0 < projection.value request.quotes ∧
        projectedNav = projection.value request.quotes := by
  simp only [project, ok_iff, not_lt, not_le, midpointValue_filter, Prod.mk.injEq, Projection.value]
  constructor
  · rintro ⟨after, hafter, hcash, hnav, rfl, rfl⟩
    exact ⟨hafter, hcash, hnav, rfl⟩
  · rintro ⟨hafter, hcash, hnav, rfl⟩
    exact ⟨projection, hafter, hcash, hnav, rfl, rfl⟩

end AdaptiveQuant
