import AdaptiveQuant.Domain.Quantize
import AdaptiveQuant.Quant.TurnoverControl
import AdaptiveQuant.Runtime.Q1Planning

/-! The cash that the buys of a plan need together. -/

namespace AdaptiveQuant.Q1Cycle

open Guard Sequence List

variable {hash : Hashing} {context : PlanContext} {config : OrderPlanningConfig}
  {request : NormalOrderRequest}

theorem OrderPlanningConfig.bounds (config : OrderPlanningConfig) :
    0 ≤ config.val.commissionRate ∧ 0 ≤ config.val.delayPenaltyBps ∧
      0 < config.val.commissionPrecision.value := by
  have h := config.valid
  simp only [OrderPlanningFields.check, ok_iff, not_or, not_lt, not_le] at h
  exact ⟨h.2.1, h.2.2.2.1, h.2.2.2.2⟩

theorem DecisionQuote.bounds (quote : DecisionQuote) : 0 < quote.val.bid ∧ 0 < quote.val.ask := by
  have h := quote.valid
  simp only [DecisionQuoteFields.check, ok_iff, not_or, not_lt, not_le] at h
  exact ⟨h.2.1, h.2.2.1⟩

theorem unitCost_pos (config : OrderPlanningConfig) (quote : DecisionQuote) :
    0 < conservativeUnitCost config quote := by
  obtain ⟨hrate, hdelay, -⟩ := config.bounds
  have hask := quote.bounds.2
  unfold conservativeUnitCost
  positivity

def intentCost (context : PlanContext) (config : OrderPlanningConfig) (intent : Q1OrderIntent) :
    Decimal :=
  if intent.val.side = .buy then
    intent.val.quantity *
      ((context.quotes.get? intent.val.symbol).map (conservativeUnitCost config)).getD 0
  else 0

def plannedCost (context : PlanContext) (config : OrderPlanningConfig)
    (intents : List Q1OrderIntent) : Decimal :=
  (intents.map (intentCost context config)).sum

/-- A quantity of a buy that the loop can choose, and that costs more than what is left of the cash
once the earlier buys are paid. -/
def Overdraws (context : PlanContext) (config : OrderPlanningConfig) (settledCash : Decimal)
    (state : PlanState) (trade : Quant.ProposedTrade) : Prop :=
  trade.side = .buy ∧ ∃ quote, context.quotes.get? trade.symbol = some quote ∧ ∃ n : ℕ,
    n * config.val.quantityIncrement.unit ≤ trade.notionalUsd / quote.midpoint ∧
    n * config.val.quantityIncrement.unit * conservativeUnitCost config quote ≤
      state.remainingSettled - config.val.commissionPrecision.value ∧
    settledCash - plannedCost context config state.intents <
      n * config.val.quantityIncrement.unit * conservativeUnitCost config quote

theorem Q1OrderIntent.quantity_pos (intent : Q1OrderIntent) : 0 < intent.val.quantity := by
  have h := intent.valid
  simp only [Q1OrderIntentFields.check, ok_iff, not_not] at h
  obtain ⟨hfields, -⟩ := h
  simp only [Q1OrderIntentFields.fieldErrors, append_eq_nil_iff, gtZeroCheck,
    fieldCheck_eq_nil] at hfields
  exact hfields.1.1.2

theorem intentCost_nonneg (intent : Q1OrderIntent) : 0 ≤ intentCost context config intent := by
  unfold intentCost
  split
  · refine mul_nonneg intent.quantity_pos.le ?_
    cases context.quotes.get? intent.val.symbol with
    | none => exact le_refl _
    | some quote => exact (unitCost_pos config quote).le
  · exact le_refl _

variable {intent : Q1OrderIntent}

theorem orderIntent_ok {draft} (h : orderIntent hash context draft = .ok intent) :
    intent.val.symbol = draft.symbol ∧ intent.val.side = draft.side ∧
      intent.val.quantity = draft.quantity := by
  rw [orderIntent, validate_eq_ok] at h
  rw [h]
  exact ⟨rfl, rfl, rfl⟩

variable {state' : PlanState} {trade : Quant.ProposedTrade}

theorem planTrade_ok {state : PlanState}
    (h : planTrade hash context config request state trade = .ok state') :
    ∃ quote, context.quotes.get? trade.symbol = some quote ∧
      (tradeQuantity config request.positions state.remainingSettled trade quote ≤ 0 ∧
        state'.intents = state.intents ∨
      0 < tradeQuantity config request.positions state.remainingSettled trade quote ∧
        ∃ intent : Q1OrderIntent, state'.intents = state.intents ++ [intent] ∧
          intent.val.symbol = trade.symbol ∧ intent.val.side = trade.side ∧
          intent.val.quantity =
            tradeQuantity config request.positions state.remainingSettled trade quote) := by
  unfold planTrade at h
  split at h
  · cases h
  · rename_i quote hquote
    refine ⟨quote, hquote, ?_⟩
    dsimp only at h
    split at h
    · rename_i hquantity
      cases h
      exact .inl ⟨hquantity, rfl⟩
    · rename_i hquantity
      simp only [ok_iff] at h
      obtain ⟨intent, hintent, rfl⟩ := h
      exact .inr ⟨not_le.mp hquantity, intent, rfl, orderIntent_ok hintent⟩

theorem planTrade_cost {state : PlanState}
    (h : planTrade hash context config request state trade = .ok state') :
    plannedCost context config state.intents ≤ plannedCost context config state'.intents := by
  obtain ⟨quote, -, ⟨-, hsame⟩ | ⟨-, intent, hmore, -⟩⟩ := planTrade_ok h
  · rw [hsame]
  · rw [hmore, plannedCost, plannedCost, map_append, sum_append, map_singleton,
      sum_singleton]
    exact le_add_of_nonneg_right (intentCost_nonneg intent)

variable {quote : DecisionQuote}

theorem multiple_le_buy (positions : Dict String Decimal)
    {remaining : Decimal} {n : ℕ} (hside : trade.side = .buy)
    (hwanted : n * config.val.quantityIncrement.unit ≤ trade.notionalUsd / quote.midpoint)
    (hcash : n * config.val.quantityIncrement.unit * conservativeUnitCost config quote ≤
      remaining - config.val.commissionPrecision.value) :
    n * config.val.quantityIncrement.unit ≤
      tradeQuantity config positions remaining trade quote := by
  have hunit := unitCost_pos config quote
  simp only [tradeQuantity, hside]
  refine le_min (multiple_le_quantizeDown hwanted) (multiple_le_quantizeDown ?_)
  rw [le_div_iff₀ hunit]
  exact hcash.trans (le_max_right _ _)

theorem buy_eq_multiple {remaining : Decimal} {positions} (hside : trade.side = .buy)
    (hpos : 0 < tradeQuantity config positions remaining trade quote) :
    ∃ n : ℕ, tradeQuantity config positions remaining trade quote =
        n * config.val.quantityIncrement.unit ∧
      n * config.val.quantityIncrement.unit ≤ trade.notionalUsd / quote.midpoint ∧
      n * config.val.quantityIncrement.unit * conservativeUnitCost config quote ≤
        remaining - config.val.commissionPrecision.value := by
  have hunit := unitCost_pos config quote
  simp only [tradeQuantity, hside] at hpos ⊢
  obtain ⟨hwanted, haffordable⟩ := lt_min_iff.mp hpos
  have hwantedValue : 0 ≤ trade.notionalUsd / quote.midpoint := quantizeDown_pos_value hwanted
  have hcashValue : 0 ≤ max 0 (remaining - config.val.commissionPrecision.value) /
      conservativeUnitCost config quote := div_nonneg (le_max_left _ _) hunit.le
  have hcash : affordableQuantity config remaining quote * conservativeUnitCost config quote ≤
      max 0 (remaining - config.val.commissionPrecision.value) :=
    (le_div_iff₀ hunit).mp (quantizeDown_le hcashValue)
  have hleft : max 0 (remaining - config.val.commissionPrecision.value) =
      remaining - config.val.commissionPrecision.value := by
    refine max_eq_right (le_of_not_gt fun hnegative => ?_)
    rw [max_eq_left hnegative.le] at hcash
    exact absurd hcash (not_le.mpr (mul_pos haffordable hunit))
  rw [hleft] at hcash
  rcases min_choice (wantedQuantity config trade quote) (affordableQuantity config remaining quote)
    with hmin | hmin
  · obtain ⟨n, hn⟩ := quantizeDown_eq_multiple config.val.quantityIncrement hwantedValue
    change wantedQuantity config trade quote = _ at hn
    refine ⟨n, hmin.trans hn, ?_, ?_⟩
    · rw [← hn]
      exact quantizeDown_le hwantedValue
    · rw [← hn]
      exact (mul_le_mul_of_nonneg_right (min_eq_left_iff.mp hmin) hunit.le).trans hcash
  · obtain ⟨n, hn⟩ := quantizeDown_eq_multiple config.val.quantityIncrement hcashValue
    change affordableQuantity config remaining quote = _ at hn
    refine ⟨n, hmin.trans hn, ?_, ?_⟩
    · rw [← hn]
      exact (min_eq_right_iff.mp hmin).trans (quantizeDown_le hwantedValue)
    · rw [← hn]
      exact hcash

theorem intentCost_buy (hquote : context.quotes.get? trade.symbol = some quote)
    (hside : trade.side = .buy) (hsymbol : intent.val.symbol = trade.symbol)
    (hbuy : intent.val.side = trade.side) :
    intentCost context config intent = intent.val.quantity * conservativeUnitCost config quote := by
  rw [intentCost, if_pos (hbuy.trans hside), hsymbol, hquote]
  rfl

theorem intentCost_sell (h : intent.val.side ≠ .buy) :
    intentCost context config intent = 0 := if_neg h

theorem planTrade_affordable_iff {state : PlanState}
    {settledCash : Decimal} (before : plannedCost context config state.intents ≤ settledCash)
    (h : planTrade hash context config request state trade = .ok state') :
    plannedCost context config state'.intents ≤ settledCash ↔
      ¬ Overdraws context config settledCash state trade := by
  obtain ⟨quote, hquote, hplanned⟩ := planTrade_ok h
  by_cases hside : trade.side = .buy
  swap
  · refine iff_of_true ?_ fun hoverdraws => hside hoverdraws.1
    rcases hplanned with ⟨-, hsame⟩ | ⟨-, intent, hmore, -, hsell, -⟩
    · rw [hsame]
      exact before
    · rw [hmore, plannedCost, map_append, sum_append, map_singleton,
        sum_singleton, intentCost_sell (hsell ▸ hside), add_zero]
      exact before
  rcases hplanned with ⟨hnone, hsame⟩ | ⟨hpos, intent, hmore, hsymbol, hbuy, hquantity⟩
  · refine iff_of_true (by rw [hsame]; exact before) ?_
    rintro ⟨-, quote', hquote', n, hwanted, hcash, hover⟩
    obtain rfl : quote' = quote := Option.some.inj (hquote'.symm.trans hquote)
    have hmultiple := (multiple_le_buy request.positions hside hwanted hcash).trans
      hnone
    have hcost := mul_nonpos_of_nonpos_of_nonneg hmultiple (unitCost_pos config quote').le
    linarith
  · have hcost : plannedCost context config state'.intents = plannedCost context config
        state.intents + tradeQuantity config request.positions state.remainingSettled trade quote *
          conservativeUnitCost config quote := by
      rw [hmore, plannedCost, map_append, sum_append, map_singleton,
        sum_singleton, intentCost_buy hquote hside hsymbol hbuy, hquantity, plannedCost]
    rw [hcost]
    constructor
    · rintro hwithin ⟨-, quote', hquote', n, hwanted, hcash, hover⟩
      obtain rfl : quote' = quote := Option.some.inj (hquote'.symm.trans hquote)
      have hmultiple := mul_le_mul_of_nonneg_right
        (multiple_le_buy request.positions hside hwanted hcash)
        (unitCost_pos config quote').le
      linarith
    · intro hoverdraws
      obtain ⟨n, hn, hwanted, hcash⟩ := buy_eq_multiple hside hpos
      by_contra hover
      refine hoverdraws ⟨hside, quote, hquote, n, hwanted, hcash, ?_⟩
      rw [← hn]
      linarith

theorem planTrade_sell {state : PlanState} (hsell : trade.side ≠ .buy)
    (h : planTrade hash context config request state trade = .ok state') :
    state'.remainingSettled = state.remainingSettled ∧
      plannedCost context config state'.intents = plannedCost context config state.intents := by
  constructor
  · unfold planTrade at h
    split at h
    · cases h
    · dsimp only at h
      split at h
      · cases h
        rfl
      · simp only [ok_iff, sub_zero] at h
        obtain ⟨intent, -, rfl⟩ := h
        rfl
  · obtain ⟨quote, -, ⟨-, hsame⟩ | ⟨-, intent, hmore, -, hside, -⟩⟩ := planTrade_ok h
    · rw [hsame]
    · rw [hmore, plannedCost, map_append, sum_append, map_singleton, sum_singleton,
        intentCost_sell (hside ▸ hsell), add_zero, plannedCost]

variable {trades : List Quant.ProposedTrade}

theorem planTrades_cost {state : PlanState}
    (h : trades.foldlM (planTrade hash context config request) state = .ok state') :
    plannedCost context config state.intents ≤ plannedCost context config state'.intents := by
  induction trades generalizing state with
  | nil =>
    cases h
    exact le_refl _
  | cons trade trades ih =>
    rw [foldlM_cons, bind_eq_ok] at h
    obtain ⟨next, hnext, hrest⟩ := h
    exact (planTrade_cost hnext).trans (ih hrest)

/-- The state of the loop as it comes to the trade. -/
def Reaches (hash : Hashing) (context : PlanContext) (config : OrderPlanningConfig)
    (request : NormalOrderRequest) (start : PlanState) (trades : List Quant.ProposedTrade)
    (state : PlanState) (trade : Quant.ProposedTrade) : Prop :=
  ∃ before after, trades = before ++ trade :: after ∧
    before.foldlM (planTrade hash context config request) start = .ok state

theorem reaches_cons {start next state : PlanState} {first}
    (h : planTrade hash context config request start first = .ok next) :
    Reaches hash context config request start (first :: trades) state trade ↔
      (state = start ∧ trade = first) ∨
        Reaches hash context config request next trades state trade := by
  constructor
  · rintro ⟨before, after, hsplit, hrun⟩
    cases before with
    | nil =>
      obtain ⟨rfl, -⟩ := List.cons.inj hsplit
      exact .inl ⟨(Except.ok.inj hrun).symm, rfl⟩
    | cons head before =>
      obtain ⟨rfl, hrest⟩ := List.cons.inj hsplit
      rw [foldlM_cons, h] at hrun
      exact .inr ⟨before, after, hrest, hrun⟩
  · rintro (⟨rfl, rfl⟩ | ⟨before, after, hsplit, hrun⟩)
    · exact ⟨[], trades, rfl, rfl⟩
    · refine ⟨first :: before, after, by rw [hsplit]; rfl, ?_⟩
      rw [foldlM_cons, h]
      exact hrun

theorem planTrades_affordable_iff {start last : PlanState}
    {settledCash : Decimal} (before : plannedCost context config start.intents ≤ settledCash)
    (h : trades.foldlM (planTrade hash context config request) start = .ok last) :
    plannedCost context config last.intents ≤ settledCash ↔
      ∀ state trade, Reaches hash context config request start trades state trade →
        ¬ Overdraws context config settledCash state trade := by
  induction trades generalizing start with
  | nil =>
    cases h
    refine iff_of_true before ?_
    rintro state trade ⟨before, after, hsplit, -⟩
    exact absurd hsplit (by simp)
  | cons first trades ih =>
    rw [foldlM_cons, bind_eq_ok] at h
    obtain ⟨next, hnext, hrest⟩ := h
    have hstep := planTrade_affordable_iff before hnext
    constructor
    · intro hwithin state trade hreaches
      have hnextWithin := (planTrades_cost hrest).trans hwithin
      rcases (reaches_cons hnext).mp hreaches with ⟨rfl, rfl⟩ | hreaches
      · exact hstep.mp hnextWithin
      · exact (ih hnextWithin hrest).mp hwithin state trade hreaches
    · intro hpasses
      have hnextWithin :=
        hstep.mpr (hpasses start first ((reaches_cons hnext).mpr (.inl ⟨rfl, rfl⟩)))
      exact (ih hnextWithin hrest).mpr fun state trade hreaches =>
        hpasses state trade ((reaches_cons hnext).mpr (.inr hreaches))

/-- Before the only buy the planner plans with all of the cash. -/
theorem not_overdraws_of_one_buy {start state : PlanState} (one : trades.countP (·.side = .buy) ≤ 1)
    (hreaches : Reaches hash context config request start trades state trade) :
    ¬ Overdraws context config (start.remainingSettled + plannedCost context config start.intents)
      state trade := by
  rintro ⟨hbuy, quote, -, n, -, hcash, hover⟩
  obtain ⟨before, after, rfl, hrun⟩ := hreaches
  have hsells : ∀ other ∈ before, other.side ≠ .buy := by
    rw [countP_append, countP_cons_of_pos (by simpa using hbuy)] at one
    have hzero : before.countP (·.side = .buy) = 0 := by omega
    simpa using countP_eq_zero.mp hzero
  have hsame : state.remainingSettled = start.remainingSettled ∧
      plannedCost context config state.intents = plannedCost context config start.intents :=
    foldlM_induction hrun (fun pre s => (∀ other ∈ pre, other.side ≠ .buy) →
      s.remainingSettled = start.remainingSettled ∧
        plannedCost context config s.intents = plannedCost context config start.intents)
      (fun _ => ⟨rfl, rfl⟩) (fun pre other s s' ih hstep hpre => by
        rw [forall_mem_append, forall_mem_singleton] at hpre
        obtain ⟨hleft, hcost⟩ := planTrade_sell hpre.2 hstep
        exact ⟨hleft.trans (ih hpre.1).1, hcost.trans (ih hpre.1).2⟩) hsells
  have hprecision := config.bounds.2.2
  rw [hsame.1] at hcash
  rw [hsame.2] at hover
  linarith

def NormalOrderRequest.start (request : NormalOrderRequest) : PlanState :=
  ⟨request.settledCashUsd, [], request.turnover.omittedOrders.map omittedPlan⟩

/-- The buys of a plan are affordable together exactly when the planner makes no pass in which a
quantity fits the cash it still plans with, but not the cash that the earlier buys leave.  Where the
turnover control proposes one buy at most it makes none. -/
theorem planNormalOrders_affordable_iff {planned : PlannedOrders}
    (h : planNormalOrders hash context config request = .ok planned) :
    (plannedCost context config planned.intents ≤ request.settledCashUsd ↔
      request.turnover.decisionKind.startsWith "NO_" = true ∨
      ∀ state trade, Reaches hash context config request request.start
        (orderedTrades request.turnover) state trade →
          ¬ Overdraws context config request.settledCashUsd state trade) ∧
    (request.turnover.proposedTrades.countP (·.side = .buy) ≤ 1 →
      plannedCost context config planned.intents ≤ request.settledCashUsd) := by
  simp only [planNormalOrders, ok_iff, not_lt] at h
  obtain ⟨-, hsettled, h⟩ := h
  split at h
  · rename_i hkind
    simp only [ok_iff] at h
    obtain ⟨-, rfl⟩ := h
    exact ⟨iff_of_true hsettled (.inl hkind), fun _ => hsettled⟩
  · rename_i hkind
    simp only [ok_iff] at h
    obtain ⟨last, hlast, rfl⟩ := h
    rw [or_iff_right hkind]
    have hiff := planTrades_affordable_iff hsettled hlast
    refine ⟨hiff, fun one => hiff.mpr fun state trade hreaches => ?_⟩
    have hone : (orderedTrades request.turnover).countP (·.side = .buy) ≤ 1 :=
      ((sortedBy_perm _ _).countP_eq _).trans_le one
    have hnever := not_overdraws_of_one_buy hone hreaches
    rwa [plannedCost, map_nil, sum_nil, add_zero] at hnever

def shippedPlanningConfig : OrderPlanningConfig where
  val :=
    { quantityIncrement := ⟨1, -6⟩
      commissionRate := 1 / 1000
      commissionWaiverNotionalUsd := 10
      delayPenaltyBps := 1
      commissionPrecision := ⟨1, -2⟩ }
  valid := by decide +kernel

def planVersions : RecordVersions := ⟨"config", "code", "model", "source"⟩

def planDecision : StrategyDecision where
  val :=
    { versions := planVersions
      algorithmVersion := q1AlgorithmVersion
      portfolioDecisionId := "decision"
      runId := "run"
      armId := .q1Det
      decisionKind := "NORMAL_REBALANCE"
      scheduledAt := 0
      signalDataCutoff := 0
      portfolioStateAsOf := 0
      quoteAsOf := 0
      decisionCreatedAt := 0
      validUntil := 1
      inputManifest := ⟨planVersions, "session", [], [], "manifest"⟩
      targetWeights := (Quant.RiskyWeights.mk (9 / 100) (9 / 100)).withCash (82 / 100)
      decisionHash := "hash" }
  valid := by decide +kernel

def planQuote (symbol : String) (price : Decimal)
    (valid : DecisionQuoteFields.check ⟨symbol, "quote", price, price, 0⟩ = .ok ()) :
    DecisionQuote := ⟨⟨symbol, "quote", price, price, 0⟩, valid⟩

def planContext : PlanContext where
  decision := planDecision
  quotes := ⟨[("QQQ", planQuote "QQQ" 500 (by decide +kernel)),
    ("SOXX", planQuote "SOXX" 250 (by decide +kernel))], by decide⟩
  sourceCycleId := "cycle"
  inputStateSequence := 0

def cashRequest : Quant.TurnoverRequest where
  currentWeights := (Quant.RiskyWeights.mk 0 0).withCash 1
  proposedTargetWeights := (Quant.RiskyWeights.mk (9 / 100) (9 / 100)).withCash (82 / 100)
  currentNavUsd := 100000
  usedNormalTurnover := 0
  emergencyReduction := false

def cashTurnover : Quant.TurnoverResult :=
  cashRequest.rebalance Quant.shippedQ1Config Hashing.short 1

def cashOrders : NormalOrderRequest where
  turnover := cashTurnover
  positions := .empty
  settledCashUsd := 10000
  validUntil := 1

def overspends (context : PlanContext) (config : OrderPlanningConfig)
    (request : NormalOrderRequest) : Bool :=
  match planNormalOrders Hashing.short context config request with
  | .ok planned => decide (request.settledCashUsd < plannedCost context config planned.intents)
  | .error _ => false

theorem exists_of_overspends (h : overspends context config request = true) :
    ∃ planned, planNormalOrders Hashing.short context config request = .ok planned ∧
      request.settledCashUsd < plannedCost context config planned.intents := by
  unfold overspends at h
  split at h
  · rename_i planned hplanned
    exact ⟨planned, hplanned, of_decide_eq_true h⟩
  · cases h

theorem cashOrders_overspend : overspends planContext shippedPlanningConfig cashOrders = true := by
  decide +kernel

theorem cashOrders_overdraw : ∃ state trade, Reaches Hashing.short planContext
    shippedPlanningConfig cashOrders cashOrders.start (orderedTrades cashOrders.turnover) state
      trade ∧
    Overdraws planContext shippedPlanningConfig cashOrders.settledCashUsd state trade := by
  obtain ⟨planned, hplanned, hover⟩ := exists_of_overspends cashOrders_overspend
  by_contra hnone
  push Not at hnone
  exact absurd ((planNormalOrders_affordable_iff hplanned).1.mpr (.inr hnone)) (not_le.mpr hover)

/-- The trades of `cashOrders` are those of the turnover control, and the buys it plans need more
than the settled cash. -/
theorem cashOrders_exceed_settledCash :
    Quant.applyTurnoverControl Quant.shippedQ1Config Hashing.short cashRequest =
        .ok cashOrders.turnover ∧
      ∃ planned, planNormalOrders Hashing.short planContext shippedPlanningConfig cashOrders =
        .ok planned ∧
      cashOrders.settledCashUsd <
        plannedCost planContext shippedPlanningConfig planned.intents :=
  ⟨Quant.rebalance_applied rfl (by decide +kernel) (by decide +kernel)
    ⟨by decide +kernel, by decide +kernel⟩ (by decide +kernel) (by decide +kernel)
    (by decide +kernel), exists_of_overspends cashOrders_overspend⟩

end AdaptiveQuant.Q1Cycle
