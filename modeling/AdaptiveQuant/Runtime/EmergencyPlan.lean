import AdaptiveQuant.Risk.HardTargets
import AdaptiveQuant.Runtime.PlannedBuys

/-! The emergency orders of a risk cycle (`runtime/q1_cycle.py`). -/

namespace AdaptiveQuant.Q1Cycle

open Guard Sequence List

structure EmergencyRequest where
  context : PlanContext
  positions : Dict String Decimal
  orders : List OrderDescriptor
  events : List OrderEvent
  now : Instant
  closeAt : Instant

def residualQuantities (targets : List RiskTarget) (positions : Dict String Decimal) :
    Dict String Decimal :=
  (residualTargets targets positions).foldl (fun residual target =>
    residual.set target.symbol target.targetQuantity) .empty

def pendingSells (pending : List OrderAggregate) (symbol : String) : Decimal :=
  ((pending.filter fun item => item.order.symbol = symbol ∧ item.order.side = .sell).map
    (·.remainingQuantity)).sum

/-- The target of a symbol once its pending sells are filled, unless they reach it. -/
def adjustedTarget (positions : Dict String Decimal) (pending : List OrderAggregate)
    (entry : String × Decimal) : Option (String × Decimal) :=
  let position := positions.getD entry.1 0
  let requiredSell := position - entry.2
  let additional := max 0 (requiredSell - pendingSells pending entry.1)
  if 0 < additional then some (entry.1, position - additional) else none

def adjustedTargets (positions : Dict String Decimal) (pending : List OrderAggregate)
    (residual : Dict String Decimal) : Dict String Decimal :=
  (residual.entries.filterMap (adjustedTarget positions pending)).foldl (fun adjusted entry =>
    adjusted.set entry.1 entry.2) .empty

def emergencyOrders (hash : Hashing) (config : OrderPlanningConfig) (request : EmergencyRequest)
    (targets : List RiskTarget) : Except Failure (Option PlannedOrders) :=
  let residual := residualQuantities targets request.positions
  if residual.entries = [] ∨ request.closeAt ≤ request.now then .ok none
  else do
    let pending ← pendingOrders request.orders request.events
    let adjusted := adjustedTargets request.positions pending residual
    if adjusted.entries = [] then return none
    else do
      let planned ← planTargetQuantitySellOrders hash request.context config request.positions
        adjusted .emergencyReduction
      return some planned

variable {hash : Hashing} {context : PlanContext} {config : OrderPlanningConfig}

structure SellsTo (positions : Dict String Decimal) (item : String × Decimal)
    (intent : Q1OrderIntent) : Prop where
  side : intent.val.side = .sell
  symbol : intent.val.symbol = item.1
  quantity : intent.val.quantity ≤ positions.getD item.1 0 - item.2

variable {orderClass : Q1OrderClass}

theorem planTargetSell_ok {positions intents intents' item}
    (h : planTargetSell hash context config positions orderClass intents item = .ok intents') :
    ∀ intent ∈ intents', intent ∈ intents ∨ SellsTo positions item intent := by
  simp only [planTargetSell, ok_iff, not_or, not_lt] at h
  obtain ⟨⟨-, hwithin⟩, h⟩ := h
  split at h
  · cases h
    exact fun intent hintent => .inl hintent
  · split at h
    · cases h
    · simp only [ok_iff] at h
      obtain ⟨intent, hintent, rfl⟩ := h
      obtain ⟨hsymbol, hside, hquantity⟩ := orderIntent_ok hintent
      intro other hother
      rcases mem_append.mp hother with hother | hother
      · exact .inl hother
      · obtain rfl := mem_singleton.mp hother
        refine .inr ⟨hside, hsymbol, ?_⟩
        rw [hquantity]
        exact quantizeDown_le (sub_nonneg.mpr hwithin)

theorem planTargetQuantitySellOrders_ok {positions targets : Dict String Decimal}
    {planned : PlannedOrders}
    (h : planTargetQuantitySellOrders hash context config positions targets orderClass =
      .ok planned) :
    ∀ intent ∈ planned.intents, ∃ item ∈ targets.entries, SellsTo positions item intent := by
  simp only [planTargetQuantitySellOrders, ok_iff] at h
  obtain ⟨-, intents, hintents, rfl⟩ := h
  have hall : ∀ intent ∈ intents, ∃ item ∈ targets.sortedItems, SellsTo positions item intent := by
    refine foldlM_induction hintents
      (fun seen intents => ∀ intent ∈ intents, ∃ item ∈ seen, SellsTo positions item intent)
      (fun _ hintent => absurd hintent not_mem_nil) ?_
    intro seen item before after hbefore hstep intent hintent
    rcases planTargetSell_ok hstep intent hintent with hold | hnew
    · obtain ⟨earlier, hearlier, hsells⟩ := hbefore intent hold
      exact ⟨earlier, mem_append_left _ hearlier, hsells⟩
    · exact ⟨item, mem_append_right _ mem_cons_self, hnew⟩
  intro intent hintent
  obtain ⟨item, hitem, hsells⟩ := hall intent hintent
  exact ⟨item, (mem_sortedBy _).mp hitem, hsells⟩

theorem pendingSells_nonneg {orders events pending} (h : pendingOrders orders events = .ok pending)
    (symbol : String) : 0 ≤ pendingSells pending symbol := by
  simp only [pendingOrders, ok_iff] at h
  obtain ⟨aggregates, -, rfl⟩ := h
  refine sum_nonneg (forall_mem_map.mpr fun item hitem => ?_)
  have hpending := (mem_sortedBy _).mp (mem_filter.mp hitem).1
  have hremaining := (mem_filter.mp hpending).2
  rw [OrderAggregate.isPending, Bool.and_eq_true] at hremaining
  exact (of_decide_eq_true hremaining.2).le

theorem adjustedTargets_ge {positions residual pending}
    (nonneg : ∀ symbol, 0 ≤ pendingSells pending symbol) {item}
    (h : item ∈ (adjustedTargets positions pending residual).entries) :
    ∃ target, (item.1, target) ∈ residual.entries ∧ target ≤ item.2 := by
  have hget := Dict.get?_eq_some.mpr h
  rcases Dict.exists_of_get?_foldl_set _ _ hget with ⟨entry, hentry, hsymbol, hvalue⟩ | hnone
  · obtain ⟨source, hsource, hadjusted⟩ := mem_filterMap.mp hentry
    simp only [adjustedTarget] at hadjusted
    split at hadjusted
    · rename_i hadditional
      obtain rfl := Option.some.inj hadjusted
      have hpending := nonneg source.1
      refine ⟨source.2, ?_, ?_⟩
      · rw [← hsymbol]
        exact hsource
      · rw [← hvalue]
        rcases max_choice 0 (positions.getD source.1 0 - source.2 - pendingSells pending source.1)
          with hmax | hmax
        · rw [hmax] at hadditional
          exact absurd hadditional (lt_irrefl _)
        · simp only [hmax]
          linarith
    · cases hadjusted
  · cases hnone

theorem residualQuantities_mem {targets positions entry}
    (h : entry ∈ (residualQuantities targets positions).entries) :
    ∃ target ∈ targets, target.symbol = entry.1 ∧ target.targetQuantity = entry.2 := by
  have hget := Dict.get?_eq_some.mpr h
  rcases Dict.exists_of_get?_foldl_set (fun target : RiskTarget => target.symbol)
    (fun target => target.targetQuantity) hget with ⟨target, htarget, hsymbol, hvalue⟩ | hnone
  · exact ⟨target, (mem_filter.mp htarget).1, hsymbol, hvalue⟩
  · cases hnone

theorem emergencyOrders_sell {request targets planned}
    (h : emergencyOrders hash config request targets = .ok (some planned)) :
    ∀ intent ∈ planned.intents, intent.val.side = .sell ∧ 0 < intent.val.quantity ∧
      ∃ target ∈ targets, target.symbol = intent.val.symbol ∧
        intent.val.quantity ≤
          request.positions.getD intent.val.symbol 0 - target.targetQuantity := by
  simp only [emergencyOrders] at h
  split at h
  · cases h
  simp only [bind_eq_ok] at h
  obtain ⟨pending, hpending, h⟩ := h
  split at h
  · cases h
  simp only [ok_iff, Option.some.injEq] at h
  obtain ⟨plan, hplan, rfl⟩ := h
  intro intent hintent
  obtain ⟨item, hitem, hsells⟩ := planTargetQuantitySellOrders_ok hplan intent hintent
  obtain ⟨target, htarget, hle⟩ := adjustedTargets_ge (pendingSells_nonneg hpending) hitem
  obtain ⟨riskTarget, hriskTarget, hsymbol, hquantity⟩ := residualQuantities_mem htarget
  refine ⟨hsells.side, intent.quantity_pos, riskTarget, hriskTarget,
    hsymbol.trans hsells.symbol.symm, ?_⟩
  rw [hsells.symbol, hquantity]
  exact hsells.quantity.trans (sub_le_sub_left hle _)

variable {check : RiskCheckInput} {metrics : RiskMetrics} {severity : RiskSeverity}
  {riskConfig : RiskEngineConfig} {generation : ℕ} {targets : List RiskTarget}

/-- The targets of a loss stay within what is held and within the caps of the arm, and the orders
that are planned for them only sell. -/
theorem buildTargets_only_reduce (hnav : 0 < metrics.currentNavUsd)
    (h : buildTargets hash check metrics severity riskConfig generation = .ok targets) :
    ReducedTargets riskConfig check metrics.currentNavUsd severity targets ∧
    ∀ (request : EmergencyRequest) (planned : PlannedOrders),
      emergencyOrders hash config request targets = .ok (some planned) →
        ∀ intent ∈ planned.intents, intent.val.side = .sell ∧ 0 < intent.val.quantity ∧
          ∃ target ∈ targets, target.symbol = intent.val.symbol ∧
            intent.val.quantity ≤
              request.positions.getD intent.val.symbol 0 - target.targetQuantity :=
  ⟨buildTargets_spec hnav.le h, fun _ _ hplan => emergencyOrders_sell hplan⟩

def lossCheck : RiskCheckInput where
  armId := .q1Llm
  calendarSessionId := "session"
  scheduledAt := 1
  decisionCreatedAt := 1
  positions := ⟨[("QQQ", 6), ("SOXX", 4)], by decide⟩
  settledCashUsd := 0
  unsettledReceivablesUsd := 0
  quotes := ⟨[("QQQ", ⟨"QQQ", "quote-qqq", 7, by decide, by decide⟩),
    ("SOXX", ⟨"SOXX", "quote-soxx", 13, by decide, by decide⟩)], by decide⟩
  sessionOpenNavUsd := 100
  runningPeakNavUsd := 100
  portfolioAnnualizedVol := none
  reconciliationOk := true
  criticalReconciliationCondition := false
  valid := by decide +kernel

theorem lossCheck_reduces : ∃ targets,
    buildTargets Hashing.short lossCheck (sampleMetrics (4 / 100) .hardReduce) .hardReduce
      sampleRiskConfig 1 = .ok targets ∧
    ReducedTargets sampleRiskConfig lossCheck 96 .hardReduce targets := by
  have hbuilt : (buildTargets Hashing.short lossCheck (sampleMetrics (4 / 100) .hardReduce)
      .hardReduce sampleRiskConfig 1).toOption.any (fun targets =>
        decide (targets.length = 2)) = true := by decide +kernel
  obtain ⟨targets, htargets, -⟩ := exists_of_any hbuilt
  have hreduce := @buildTargets_only_reduce _ shippedPlanningConfig _ _ _ _ _ _
    (by decide +kernel) htargets
  exact ⟨targets, htargets, hreduce.1⟩

end AdaptiveQuant.Q1Cycle
