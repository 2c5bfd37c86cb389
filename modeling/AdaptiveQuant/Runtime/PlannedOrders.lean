import AdaptiveQuant.Runtime.AlpacaPlan

/-! What `_plan_orders` plans: at most one order for each allowed symbol, and in a risk state other
than `NORMAL` only sells. -/

namespace AdaptiveQuant

open Guard List

variable {service : CanaryService} {source : CanarySource} {account : AlpacaPaperAccount}
  {positions : List AlpacaPaperPosition} {decision : PortfolioDecisionRow} {risk : RiskSeverity}
  {now : Instant}

variable {d : AlpacaPaperCanaryDocument}

theorem planQuoted_some {decisionId symbol : String} {side : OrderSide} {quantity : Decimal}
    {quote plan} (h : planQuoted d decisionId symbol risk side quantity quote = .ok (some plan)) :
    ∃ row, quote = some row ∧ 0 < (row.reference side).2 ∧
      d.minimumOrderNotionalUsd ≤ quantity * (row.reference side).1 ∧
      plan = { sourceDecisionId := decisionId, symbol, side, quantity,
               limitPrice := limitPrice d side row.bidPrice row.askPrice,
               quoteId := row.quoteId, quoteAsOf := row.eventTime, reason := planReason risk } := by
  cases quote with
  | none => cases h
  | some row =>
    simp only [planQuoted] at h
    split at h
    · cases h
    · rename_i hsize
      split at h
      · cases h
      · rename_i hnotional
        cases h
        exact ⟨row, rfl, not_le.mp hsize, not_lt.mp hnotional, rfl⟩

theorem planSymbol_some {decisionId symbol : String} {allowed : Bool} {quotes delta plan}
    (h : planSymbol d decisionId risk allowed quotes delta symbol = .ok (some plan)) :
    plan.symbol = symbol ∧ plan.sourceDecisionId = decisionId ∧
      plan.quantity = |delta symbol| ∧ 0 < plan.quantity ∧ plan.reason = planReason risk ∧
      plan.side = (if 0 < delta symbol then .buy else .sell) ∧
      (plan.side = .buy → allowed = true) := by
  unfold planSymbol at h
  extract_lets side at h
  by_cases hskip : delta symbol = 0 ∨ (side = .buy ∧ ¬allowed)
  · rw [if_pos hskip] at h
    cases h
  · rw [if_neg hskip] at h
    rw [not_or, not_and, not_not] at hskip
    obtain ⟨row, -, -, -, rfl⟩ := planQuoted_some h
    exact ⟨rfl, rfl, rfl, abs_pos.mpr hskip.1, rfl, rfl, hskip.2⟩

theorem planOrders_ok {plans}
    (h : planOrders service source account positions decision risk now = .ok plans) :
    ∃ quotes results delta, (Sequence.sortedBy id service.config.val.allowedSymbols).mapM
        (planSymbol service.config.val decision.portfolioDecisionId risk
          (buysAllowed service risk now) quotes delta) = .ok results ∧
      plans = chooseSide service.config.val account.cash (results.filterMap id) := by
  simp only [planOrders, ok_iff] at h
  obtain ⟨_, -, quotes, -, _, -, results, hresults, rfl⟩ := h
  exact ⟨quotes, results, _, hresults, rfl⟩

variable {results : List (Option CanaryOrderPlan)}

theorem planSymbols_sublist {decisionId : String} {allowed : Bool} {quotes delta symbols}
    (h : symbols.mapM (planSymbol d decisionId risk allowed quotes delta) = .ok results) :
    ((results.filterMap id).map (·.symbol)).Sublist symbols := by
  induction symbols generalizing results with
  | nil =>
    rw [mapM_nil, pure_eq_ok] at h
    simp [← h]
  | cons symbol rest ih =>
    simp only [mapM_cons, ok_iff] at h
    obtain ⟨first, hfirst, others, hothers, rfl⟩ := h
    cases first with
    | none =>
      rw [filterMap_cons_none rfl]
      exact (ih hothers).cons symbol
    | some plan =>
      have hhead : (some plan :: others).filterMap id = plan :: others.filterMap id := rfl
      rw [hhead, map_cons, (planSymbol_some hfirst).1]
      exact (ih hothers).cons_cons symbol

theorem allowedSymbols_eq (config : AlpacaPaperCanaryConfig) :
    config.val.allowedSymbols = ["QQQ", "SOXX"] := by
  have h := config.valid
  simp only [AlpacaPaperCanaryDocument.check, ok_iff, not_not] at h
  obtain ⟨-, -, -, -, h, -⟩ := h
  exact h

theorem orderTerms_eq (config : AlpacaPaperCanaryConfig) :
    config.val.orderType = "limit" ∧ config.val.timeInForce = "day" ∧
      config.val.extendedHours = false := by
  have h := config.valid
  simp only [AlpacaPaperCanaryDocument.check, ok_iff, not_not] at h
  obtain ⟨-, -, -, -, -, -, -, -, -, htype, htime, hhours, -⟩ := h
  exact ⟨htype, htime, by simpa using hhours⟩

structure OrderPlans (plans : List CanaryOrderPlan) : Prop where
  distinct : (plans.map (·.symbol)).Nodup
  symbol : ∀ plan ∈ plans, plan.symbol ∈ alpacaPaperAllowedSymbols
  quantity : ∀ plan ∈ plans, 0 < plan.quantity
  reason : ∀ plan ∈ plans, plan.reason ≠ ""

theorem OrderPlans.tail {plan plans} (h : OrderPlans (plan :: plans)) : OrderPlans plans where
  distinct := (nodup_cons.mp h.distinct).2
  symbol other hother := h.symbol other (mem_cons_of_mem _ hother)
  quantity other hother := h.quantity other (mem_cons_of_mem _ hother)
  reason other hother := h.reason other (mem_cons_of_mem _ hother)

theorem OrderPlans.sublist {plans plans'} (h : OrderPlans plans) (sub : plans'.Sublist plans) :
    OrderPlans plans' where
  distinct := h.distinct.sublist (sub.map _)
  symbol plan hplan := h.symbol plan (sub.subset hplan)
  quantity plan hplan := h.quantity plan (sub.subset hplan)
  reason plan hplan := h.reason plan (sub.subset hplan)

theorem planReason_ne_empty (risk : RiskSeverity) : planReason risk ≠ "" := by
  cases risk <;> decide

/-- What a buy keeps of its planned order, which may have been cut down. -/
structure CanaryOrderPlan.BoughtFor (plan buy : CanaryOrderPlan) : Prop where
  symbol : buy.symbol = plan.symbol
  side : buy.side = plan.side
  limitPrice : buy.limitPrice = plan.limitPrice
  quantity : 0 < plan.quantity → 0 < buy.quantity
  reason : plan.reason ≠ "" → buy.reason ≠ ""

theorem feasibleBuys_cons (d : AlpacaPaperCanaryDocument) (budget : Decimal)
    (plan : CanaryOrderPlan) (rest : List CanaryOrderPlan) :
    feasibleBuys d budget (plan :: rest) = feasibleBuys d budget rest ∨
      ∃ buy, feasibleBuys d budget (plan :: rest) =
          buy :: feasibleBuys d (budget - buy.quantity * buy.limitPrice) rest ∧
        plan.BoughtFor buy ∧
        (0 < plan.limitPrice → buy.quantity * buy.limitPrice ≤ budget) := by
  by_cases hcapped : budget < plan.quantity * plan.limitPrice
  · simp only [feasibleBuys, hcapped, reduceIte, true_and]
    split
    · exact .inl rfl
    · rename_i hfeasible
      rw [not_or, not_le] at hfeasible
      refine .inr ⟨_, rfl, ⟨rfl, rfl, rfl, fun _ => hfeasible.1, fun _ => by simp⟩, fun hpos => ?_⟩
      exact (le_div_iff₀ hpos).mp (Int.floor_le _)
  · simp only [feasibleBuys, hcapped, reduceIte, false_and, false_or]
    split
    · exact .inl rfl
    · exact .inr ⟨_, rfl, ⟨rfl, rfl, rfl, id, id⟩, fun _ => not_lt.mp hcapped⟩

theorem mem_feasibleBuys {budget : Decimal} {plans buy} (h : buy ∈ feasibleBuys d budget plans) :
    ∃ plan ∈ plans, plan.BoughtFor buy := by
  induction plans generalizing budget with
  | nil => cases h
  | cons plan rest ih =>
    rcases feasibleBuys_cons d budget plan rest with hskip | ⟨first, hfirst, hbought, -⟩
    · rw [hskip] at h
      obtain ⟨other, hother, hbuy⟩ := ih h
      exact ⟨other, mem_cons_of_mem _ hother, hbuy⟩
    · rw [hfirst] at h
      rcases mem_cons.mp h with rfl | hrest
      · exact ⟨plan, mem_cons_self, hbought⟩
      · obtain ⟨other, hother, hbuy⟩ := ih hrest
        exact ⟨other, mem_cons_of_mem _ hother, hbuy⟩

theorem feasibleBuys_symbols (d : AlpacaPaperCanaryDocument) (budget : Decimal)
    (plans : List CanaryOrderPlan) :
    ((feasibleBuys d budget plans).map (·.symbol)).Sublist (plans.map (·.symbol)) := by
  induction plans generalizing budget with
  | nil => exact List.Sublist.refl _
  | cons plan rest ih =>
    rcases feasibleBuys_cons d budget plan rest with hskip | ⟨first, hfirst, hbought, -⟩
    · rw [hskip]
      exact (ih budget).cons _
    · rw [hfirst, map_cons, map_cons, hbought.symbol]
      exact (ih _).cons_cons _

theorem OrderPlans.chooseSide {plans} (h : OrderPlans plans) (d : AlpacaPaperCanaryDocument)
    (cash : Decimal) :
    OrderPlans (AdaptiveQuant.chooseSide d cash plans) := by
  unfold AdaptiveQuant.chooseSide
  extract_lets sells
  split
  · exact h.sublist filter_sublist
  · constructor
    · exact h.distinct.sublist (feasibleBuys_symbols d _ plans)
    · intro buy hbuy
      obtain ⟨plan, hplan, hbought⟩ := mem_feasibleBuys hbuy
      rw [hbought.symbol]
      exact h.symbol plan hplan
    · intro buy hbuy
      obtain ⟨plan, hplan, hbought⟩ := mem_feasibleBuys hbuy
      exact hbought.quantity (h.quantity plan hplan)
    · intro buy hbuy
      obtain ⟨plan, hplan, hbought⟩ := mem_feasibleBuys hbuy
      exact hbought.reason (h.reason plan hplan)

theorem orderPlans_of_symbols {quotes : List CanaryQuoteRow} {delta : String → Decimal}
    {allowed : Bool}
    (h : (Sequence.sortedBy id service.config.val.allowedSymbols).mapM
      (planSymbol service.config.val decision.portfolioDecisionId risk allowed quotes delta) =
      .ok results) :
    OrderPlans (results.filterMap id) ∧
      ∀ plan ∈ results.filterMap id, plan.side = .buy → allowed = true := by
  have hplan : ∀ plan ∈ results.filterMap id, ∃ symbol ∈ alpacaPaperAllowedSymbols,
      planSymbol service.config.val decision.portfolioDecisionId risk allowed quotes delta symbol =
        .ok (some plan) := by
    intro plan hplan
    obtain ⟨result, hresult, rfl⟩ := mem_filterMap.mp hplan
    obtain ⟨symbol, hsymbol, hok⟩ := mem_of_mapM_eq_ok h (some plan) hresult
    rw [Sequence.mem_sortedBy, allowedSymbols_eq] at hsymbol
    exact ⟨symbol, hsymbol, hok⟩
  refine ⟨⟨?_, ?_, ?_, ?_⟩, ?_⟩
  · refine (planSymbols_sublist h).nodup ?_
    rw [allowedSymbols_eq]
    decide
  · intro plan hmem
    obtain ⟨symbol, hsymbol, hok⟩ := hplan plan hmem
    rw [(planSymbol_some hok).1]
    exact hsymbol
  · intro plan hmem
    obtain ⟨symbol, -, hok⟩ := hplan plan hmem
    exact (planSymbol_some hok).2.2.2.1
  · intro plan hmem
    obtain ⟨symbol, -, hok⟩ := hplan plan hmem
    rw [(planSymbol_some hok).2.2.2.2.1]
    exact planReason_ne_empty risk
  · intro plan hmem
    obtain ⟨symbol, -, hok⟩ := hplan plan hmem
    exact (planSymbol_some hok).2.2.2.2.2.2

theorem planOrders_plans {plans}
    (h : planOrders service source account positions decision risk now = .ok plans) :
    OrderPlans plans := by
  obtain ⟨quotes, results, delta, hresults, rfl⟩ := planOrders_ok h
  exact (orderPlans_of_symbols hresults).1.chooseSide _ _

theorem planOrders_sells {plans} (hrisk : risk ≠ .normal)
    (h : planOrders service source account positions decision risk now = .ok plans) :
    ∀ plan ∈ plans, plan.side = .sell := by
  obtain ⟨quotes, results, delta, hresults, rfl⟩ := planOrders_ok h
  have hblocked : buysAllowed service risk now = false := by
    simp [buysAllowed, hrisk]
  have hsell : ∀ plan ∈ results.filterMap id, plan.side = .sell := by
    intro plan hmem
    have hbuy := (orderPlans_of_symbols hresults).2 plan hmem
    cases hside : plan.side with
    | sell => rfl
    | buy =>
      rw [hblocked] at hbuy
      cases hbuy hside
  have hfilter : (results.filterMap id).filter (·.side = .sell) = results.filterMap id := by
    rw [filter_eq_self]
    intro plan hmem
    simpa using hsell plan hmem
  intro plan hplan
  simp only [chooseSide, hfilter] at hplan
  split at hplan
  · exact hsell plan hplan
  · rename_i hnil
    rw [not_not] at hnil
    rw [hnil] at hplan
    cases hplan

end AdaptiveQuant
