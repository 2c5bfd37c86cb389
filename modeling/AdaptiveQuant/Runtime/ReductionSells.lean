import AdaptiveQuant.Execution.PendingOrders
import AdaptiveQuant.Runtime.ReviewTarget

/-! What the sells of a reduction add to the pending ones. -/

namespace AdaptiveQuant.Q1Cycle

open Guard Sequence List

variable {hash : Hashing} {context : PlanContext} {config : OrderPlanningConfig}

def soldQuantity (intents : List Q1OrderIntent) (symbol : String) : Decimal :=
  ((intents.filter fun intent => intent.val.symbol = symbol).map (·.val.quantity)).sum

/-- The pending sells and the new ones go no further than the reduction that is asked for, unless
the pending ones do already, and they miss it by less than an increment. -/
structure NetsPending (increment pending sold required : Decimal) : Prop where
  noOversell : pending + sold ≤ max pending required
  shortfall : required - (pending + sold) < increment

theorem OrderPlanningConfig.increment_pos (config : OrderPlanningConfig) :
    0 < config.val.quantityIncrement.value := by
  have h := config.valid
  simp only [OrderPlanningFields.check, ok_iff, not_or, not_lt, not_le] at h
  exact h.1

theorem netsPending_of_rounded (config : OrderPlanningConfig) {pending required : Decimal} :
    NetsPending config.val.quantityIncrement.value pending
      (quantizeDown (max 0 (required - pending)) config.val.quantityIncrement) required := by
  have hnonneg : 0 ≤ max 0 (required - pending) := le_max_left _ _
  have hle := quantizeDown_le (q := config.val.quantityIncrement) hnonneg
  have hlt := lt_quantizeDown_add (q := config.val.quantityIncrement) hnonneg
  have hunit := Quantum.unit_le_value config.increment_pos
  refine ⟨?_, ?_⟩
  · calc pending + quantizeDown (max 0 (required - pending)) config.val.quantityIncrement
        ≤ pending + max 0 (required - pending) := by linarith
      _ = max pending required := by rw [← max_add_add_left, add_zero, add_sub_cancel]
  · have hgap : required - pending ≤ max 0 (required - pending) := le_max_right _ _
    linarith

def sellTo (config : OrderPlanningConfig) (positions : Dict String Decimal)
    (item : String × Decimal) : Decimal :=
  quantizeDown (positions.getD item.1 0 - item.2) config.val.quantityIncrement

theorem soldQuantity_append (intents : List Q1OrderIntent) (intent : Q1OrderIntent)
    (symbol : String) : soldQuantity (intents ++ [intent]) symbol =
      soldQuantity intents symbol + if intent.val.symbol =
        symbol then intent.val.quantity else 0 := by
  unfold soldQuantity
  rw [filter_append, map_append, sum_append]
  by_cases h : intent.val.symbol = symbol
  · simp [h]
  · simp [h]

variable {orderClass : Q1OrderClass}

theorem planTargetSell_sold {positions intents intents' item}
    (h : planTargetSell hash context config positions orderClass intents item = .ok intents')
    (symbol : String) : soldQuantity intents' symbol =
      soldQuantity intents symbol + if item.1 =
        symbol then sellTo config positions item else 0 := by
  simp only [planTargetSell, ok_iff, not_or, not_lt] at h
  obtain ⟨⟨-, hwithin⟩, h⟩ := h
  have hnonneg : 0 ≤ sellTo config positions item :=
    quantizeDown_nonneg (sub_nonneg.mpr hwithin)
  split at h
  · rename_i hnothing
    obtain rfl : intents = intents' := Except.ok.inj h
    have hzero : sellTo config positions item = 0 := le_antisymm hnothing hnonneg
    simp [hzero]
  · split at h
    · cases h
    · simp only [ok_iff] at h
      obtain ⟨intent, hintent, rfl⟩ := h
      obtain ⟨hsymbol, -, hquantity⟩ := orderIntent_ok hintent
      rw [soldQuantity_append, hsymbol, hquantity]
      rfl

theorem planTargetQuantitySellOrders_sold {positions targets planned}
    (h : planTargetQuantitySellOrders hash context config positions targets orderClass =
      .ok planned)
    (symbol : String) :
    soldQuantity planned.intents symbol =
      ((targets.get? symbol).map fun target => sellTo config positions (symbol, target)).getD 0 := by
  simp only [planTargetQuantitySellOrders, ok_iff] at h
  obtain ⟨-, intents, hintents, rfl⟩ := h
  have hsold : soldQuantity intents symbol =
      ((targets.sortedItems.filter (·.1 = symbol)).map (sellTo config positions)).sum := by
    refine foldlM_induction hintents (fun seen intents => soldQuantity intents symbol =
      ((seen.filter (·.1 = symbol)).map (sellTo config positions)).sum) rfl ?_
    intro seen item before after hbefore hstep
    rw [planTargetSell_sold hstep, hbefore, filter_append, map_append, sum_append]
    by_cases hitem : item.1 = symbol
    · simp [hitem]
    · simp [hitem]
  have hperm : (targets.sortedItems.filter (·.1 = symbol)).Perm
      (targets.entries.filter (·.1 = symbol)) := (sortedBy_perm _ _).filter _
  rw [hsold, (hperm.map _).sum_eq, Dict.filter_key_eq]
  cases targets.get? symbol with
  | none => rfl
  | some target => simp

def plannedIntents (planned : Option PlannedOrders) : List Q1OrderIntent :=
  (planned.map (·.intents)).getD []

theorem adjustedTarget_eq_some {positions pending entry adjusted}
    (h : adjustedTarget positions pending entry = some adjusted) :
    adjusted.1 = entry.1 ∧
      adjusted.2 = positions.getD entry.1 0 -
        max 0 (positions.getD entry.1 0 - entry.2 - pendingSells pending entry.1) := by
  simp only [adjustedTarget] at h
  split at h
  · rw [← Option.some.inj h]
    exact ⟨rfl, rfl⟩
  · cases h

theorem adjustedTarget_keys (positions : Dict String Decimal) (pending : List OrderAggregate)
    (entries : List (String × Decimal)) :
    ((entries.filterMap (adjustedTarget positions pending)).map (·.1)).Sublist
      (entries.map (·.1)) := by
  induction entries with
  | nil => exact List.Sublist.slnil
  | cons entry rest ih =>
    cases h : adjustedTarget positions pending entry with
    | none =>
      rw [filterMap_cons_none h]
      exact ih.cons _
    | some adjusted =>
      rw [filterMap_cons_some h, map_cons, map_cons, (adjustedTarget_eq_some h).1]
      exact ih.cons_cons _

theorem mem_adjustedTargets {positions residual pending item} :
    item ∈ (adjustedTargets positions pending residual).entries ↔
      ∃ entry ∈ residual.entries, adjustedTarget positions pending entry = some item := by
  have hkeys := residual.nodup.sublist (adjustedTarget_keys positions pending residual.entries)
  rw [adjustedTargets, Dict.entries_foldl_set _ _ hkeys (fun _ _ => not_mem_nil)]
  show item ∈ [] ++ _ ↔ _
  rw [nil_append, map_id', mem_filterMap]

theorem adjustedTargets_sold (config : OrderPlanningConfig)
    (positions residual : Dict String Decimal) (pending : List OrderAggregate) (symbol : String) :
    (((adjustedTargets positions pending residual).get? symbol).map fun target =>
        sellTo config positions (symbol, target)).getD 0 =
      ((residual.get? symbol).map fun target => quantizeDown
        (max 0 (positions.getD symbol 0 - target - pendingSells pending symbol))
        config.val.quantityIncrement).getD 0 := by
  cases hadjusted : (adjustedTargets positions pending residual).get? symbol with
  | some value =>
    obtain ⟨entry, hentry, hsome⟩ := mem_adjustedTargets.mp (Dict.get?_eq_some.mp hadjusted)
    obtain ⟨hsymbol, hvalue⟩ := adjustedTarget_eq_some hsome
    dsimp only at hsymbol hvalue
    subst hsymbol
    have hresidual : residual.get? entry.1 = some entry.2 := Dict.get?_eq_some.mpr hentry
    rw [hresidual]
    simp only [Option.map_some, Option.getD_some, sellTo, hvalue, sub_sub_cancel]
  | none =>
    cases hresidual : residual.get? symbol with
    | none => rfl
    | some target =>
      have hnothing : ¬0 <
        max 0 (positions.getD symbol 0 - target - pendingSells pending symbol) := by
        intro hpos
        have hsome : adjustedTarget positions pending (symbol, target) = some (symbol, _) :=
          if_pos hpos
        have hmem := mem_adjustedTargets.mpr ⟨_, Dict.get?_eq_some.mp hresidual, hsome⟩
        rw [Dict.get?_eq_some.mpr hmem] at hadjusted
        cases hadjusted
      have hzero : max 0 (positions.getD symbol 0 - target - pendingSells pending symbol) = 0 :=
        le_antisymm (not_lt.mp hnothing) (le_max_left _ _)
      simp only [Option.map_none, Option.getD_none, Option.map_some, Option.getD_some, hzero]
      exact (le_antisymm (quantizeDown_le le_rfl) (quantizeDown_nonneg le_rfl)).symm

theorem emergencyOrders_net {request targets planned pending}
    (h : emergencyOrders hash config request targets = .ok planned)
    (beforeClose : request.now < request.closeAt)
    (hpending : pendingOrders request.orders request.events = .ok pending) (symbol : String) :
    NetsPending config.val.quantityIncrement.value (pendingSells pending symbol)
      (soldQuantity (plannedIntents planned) symbol)
      (request.positions.getD symbol 0 -
        (residualQuantities targets request.positions).getD symbol
          (request.positions.getD symbol 0)) := by
  have hsold : soldQuantity (plannedIntents planned) symbol =
      (((residualQuantities targets request.positions).get? symbol).map fun target =>
        quantizeDown (max 0 (request.positions.getD symbol 0 - target -
          pendingSells pending symbol)) config.val.quantityIncrement).getD 0 := by
    rw [← adjustedTargets_sold]
    have hempty : ∀ d : Dict String Decimal, d.entries = [] → d.get? symbol = none := by
      intro d hd
      rw [Dict.get?, hd]
      rfl
    simp only [emergencyOrders] at h
    split at h
    · rename_i hnothing
      obtain rfl : none = planned := Except.ok.inj h
      have hentries := hnothing.resolve_right (not_le.mpr beforeClose)
      have hnone : (adjustedTargets request.positions pending
          (residualQuantities targets request.positions)).get? symbol = none := by
        refine hempty _ (eq_nil_iff_forall_not_mem.mpr fun item hitem => ?_)
        obtain ⟨entry, hentry, -⟩ := mem_adjustedTargets.mp hitem
        rw [hentries] at hentry
        cases hentry
      rw [hnone]
      rfl
    · simp only [hpending, ok_bind] at h
      split at h
      · rename_i hentries
        obtain rfl : none = planned := Except.ok.inj h
        rw [hempty _ hentries]
        rfl
      · simp only [ok_iff] at h
        obtain ⟨plan, hplan, rfl⟩ := h
        exact planTargetQuantitySellOrders_sold hplan symbol
  rw [hsold]
  cases hresidual : (residualQuantities targets request.positions).get? symbol with
  | none =>
    have hnonneg := pendingSells_nonneg hpending symbol
    have hincrement := config.increment_pos
    simp only [Dict.getD, hresidual, Option.map_none, Option.getD_none, sub_self]
    refine ⟨?_, by linarith⟩
    rw [add_zero]
    exact le_max_left _ _
  | some target =>
    rw [Dict.getD_of_get? hresidual, Option.map_some, Option.getD_some]
    exact netsPending_of_rounded config

end AdaptiveQuant.Q1Cycle

namespace AdaptiveQuant.Q1LlmReview

open Guard Sequence Q1Cycle List
open Quant (Q1MathConfig)
open Q1Overlay (riskySymbols)

variable {hash : Hashing} {context : PlanContext} {planning : OrderPlanningConfig}

def desiredTarget (request : SellRequest) (symbol : String) (quote : Q1Cycle.DecisionQuote) :
    Decimal :=
  min (request.positions.getD symbol 0)
    (request.finalTarget.getD symbol 0 * request.navUsd / quote.midpoint)

def flooredReduction (request : SellRequest) (pending : List OrderAggregate) (symbol : String)
    (quote : Q1Cycle.DecisionQuote) : Decimal :=
  quantizeDown (max 0 (request.positions.getD symbol 0 - desiredTarget request symbol quote -
    pendingSellQuantities request.now pending symbol)) request.quantityIncrement

/-- Something is left to sell, but less than the least order. -/
def BelowMinimum (request : SellRequest) (pending : List OrderAggregate) (symbol : String)
    (quote : Q1Cycle.DecisionQuote) : Prop :=
  0 < flooredReduction request pending symbol quote ∧
    flooredReduction request pending symbol quote * quote.val.bid < request.minimumNotional

instance {request : SellRequest} {pending : List OrderAggregate} {symbol : String}
    {quote : Q1Cycle.DecisionQuote} : Decidable (BelowMinimum request pending symbol quote) :=
  inferInstanceAs (Decidable (_ ∧ _))

theorem residualReduction_eq (request : SellRequest) (pending : List OrderAggregate)
    (symbol : String) (quote : Q1Cycle.DecisionQuote) :
    residualReduction request pending symbol quote =
      if BelowMinimum request pending symbol quote then 0
      else flooredReduction request pending symbol quote := by
  have hreduction := max_eq_right (sub_nonneg.mpr (min_le_left (request.positions.getD symbol 0)
    (request.finalTarget.getD symbol 0 * request.navUsd / quote.midpoint)))
  simp only [residualReduction, hreduction]
  rfl

theorem quoteOf_eq_ok {quotes} {symbol : String} {quote} :
    quoteOf quotes symbol = .ok quote ↔ quotes.get? symbol = some quote := by
  unfold quoteOf
  cases quotes.get? symbol with
  | none => simp
  | some found => simp

theorem executableTargetQuantities_get? {request targets pending}
    (h : executableTargetQuantities request = .ok targets)
    (hpending : pendingOrders request.orders request.events (some request.now) = .ok pending)
    (symbol : String) :
    if symbol ∈ riskySymbols then ∃ quote, request.quotes.get? symbol = some quote ∧
      targets.get? symbol = some (request.positions.getD symbol 0 -
        residualReduction request pending symbol quote)
    else targets.get? symbol = none := by
  simp only [executableTargetQuantities, hpending, ok_bind, riskySymbols, foldlM_cons,
    foldlM_nil, ok_iff, quoteOf_eq_ok] at h
  obtain ⟨_, ⟨qqq, hqqq, rfl⟩, _, ⟨soxx, hsoxx, rfl⟩, rfl⟩ := h
  split
  · rename_i hrisky
    rcases mem_cons.mp hrisky with rfl | hrisky
    · exact ⟨qqq, hqqq, by simp [Dict.get?_set]⟩
    · obtain rfl := mem_singleton.mp hrisky
      exact ⟨soxx, hsoxx, by simp [Dict.get?_set]⟩
  · rename_i hother
    simp only [riskySymbols, mem_cons, not_mem_nil, or_false, not_or] at hother
    simp [Dict.get?_set, hother.1, hother.2]

def sellRequest (planning : OrderPlanningConfig) (config : Q1MathConfig Decimal)
    (prepared : PreparedReview) (finalTarget : Dict String Decimal)
    (quotes : Dict String Q1Cycle.DecisionQuote) (orders : List OrderDescriptor)
    (events : List OrderEvent) (now : Instant) : SellRequest where
  positions := prepared.state.val.positions
  finalTarget
  navUsd := prepared.currentNavUsd
  quotes
  orders
  events
  now
  quantityIncrement := planning.val.quantityIncrement
  minimumNotional := Quant.minimumNotional config prepared.currentNavUsd

theorem reviewSells_net {config prepared finalTarget orders events} {now : Instant}
    {planned pending}
    (h : reviewSells hash context planning config prepared finalTarget orders events now =
      .ok planned)
    (hpending : pendingOrders orders events (some now) = .ok pending) (symbol : String) :
    let request := sellRequest planning config prepared finalTarget context.quotes orders events now
    if symbol ∈ riskySymbols then ∃ quote, context.quotes.get? symbol = some quote ∧
      if BelowMinimum request pending symbol quote then Q1Cycle.soldQuantity planned.intents
        symbol = 0
      else NetsPending planning.val.quantityIncrement.value
        (pendingSellQuantities now pending symbol) (Q1Cycle.soldQuantity planned.intents symbol)
        (prepared.state.val.positions.getD symbol 0 - desiredTarget request symbol quote)
    else Q1Cycle.soldQuantity planned.intents symbol = 0 := by
  intro request
  simp only [reviewSells, bind_eq_ok] at h
  obtain ⟨targets, htargets, hplan⟩ := h
  have hsold := planTargetQuantitySellOrders_sold hplan symbol
  have htarget := @executableTargetQuantities_get? request targets pending htargets hpending symbol
  split at htarget
  · rename_i hrisky
    obtain ⟨quote, hquote, hget⟩ := htarget
    rw [if_pos hrisky]
    refine ⟨quote, hquote, ?_⟩
    have hreduction : Q1Cycle.soldQuantity planned.intents symbol =
        quantizeDown (residualReduction request pending symbol quote)
          planning.val.quantityIncrement := by
      rw [hsold, hget, Option.map_some, Option.getD_some, sellTo]
      exact congrArg (quantizeDown · _) (sub_sub_cancel _ _)
    rw [hreduction, residualReduction_eq]
    by_cases hsmall : BelowMinimum request pending symbol quote
    · rw [if_pos hsmall, if_pos hsmall]
      exact le_antisymm (quantizeDown_le le_rfl) (quantizeDown_nonneg le_rfl)
    · rw [if_neg hsmall, if_neg hsmall]
      have hfloored : quantizeDown (flooredReduction request pending symbol quote)
          planning.val.quantityIncrement = flooredReduction request pending symbol quote :=
        quantizeDown_idem (le_max_left _ _)
      rw [hfloored]
      exact netsPending_of_rounded planning
  · rename_i hother
    rw [if_neg hother, hsold, htarget]
    rfl

/-- What is planned to reduce positions only sells, and nets with the pending sells. -/
theorem reduction_sells_net (hash : Hashing) (planning : OrderPlanningConfig) :
    (∀ request targets planned pending,
      emergencyOrders hash planning request targets = .ok planned →
      request.now < request.closeAt →
      pendingOrders request.orders request.events = .ok pending →
      (∀ intent ∈ plannedIntents planned, intent.val.side = .sell) ∧
      ∀ symbol, NetsPending planning.val.quantityIncrement.value (pendingSells pending symbol)
        (Q1Cycle.soldQuantity (plannedIntents planned) symbol)
        (request.positions.getD symbol 0 -
          (residualQuantities targets request.positions).getD symbol
            (request.positions.getD symbol 0))) ∧
    ∀ context config prepared finalTarget orders events now planned pending,
      reviewSells hash context planning config prepared finalTarget orders events now =
        .ok planned →
      pendingOrders orders events (some now) = .ok pending →
      (∀ intent ∈ planned.intents, intent.val.side = .sell) ∧
      ∀ symbol,
        let request :=
          sellRequest planning config prepared finalTarget context.quotes orders events now
        if symbol ∈ riskySymbols then ∃ quote, context.quotes.get? symbol = some quote ∧
          if BelowMinimum request pending symbol quote then
            Q1Cycle.soldQuantity planned.intents symbol = 0
          else NetsPending planning.val.quantityIncrement.value
            (pendingSellQuantities now pending symbol) (Q1Cycle.soldQuantity planned.intents symbol)
            (prepared.state.val.positions.getD symbol 0 - desiredTarget request symbol quote)
        else Q1Cycle.soldQuantity planned.intents symbol = 0 := by
  refine ⟨fun request targets planned pending h beforeClose hpending =>
    ⟨?_, emergencyOrders_net h beforeClose hpending⟩,
    fun context config prepared finalTarget orders events now planned pending h hpending =>
      ⟨?_, reviewSells_net h hpending⟩⟩
  · cases planned with
    | none => exact fun _ hintent => absurd hintent not_mem_nil
    | some plan => exact fun intent hintent => (emergencyOrders_sell h intent hintent).1
  · simp only [reviewSells, bind_eq_ok] at h
    obtain ⟨targets, -, hplan⟩ := h
    intro intent hintent
    obtain ⟨item, -, hsells⟩ := planTargetQuantitySellOrders_ok hplan intent hintent
    exact hsells.side

def tenSold : OrderDescriptor :=
  ⟨{ sampleOrder.toOrderDescriptorFields with side := .sell }, by decide⟩

def fourSold : List OrderEvent :=
  [⟨orderEventFields .json tenSold (sampleRequest .created 1) ⟨1, 10, 0, 0⟩, by decide +kernel⟩,
    ⟨orderEventFields .json tenSold (sampleRequest .partiallyFilled 10 4) ⟨2, 6, 4, 0⟩,
      by decide +kernel⟩]

def fourSoldRequest : EmergencyRequest where
  context := planContext
  positions := ⟨[("QQQ", 20)], by decide⟩
  orders := [tenSold]
  events := fourSold
  now := 20
  closeAt := 30

def fiveLeft : RiskTarget := ⟨⟨"QQQ", 5, "quote", 1, none, none, none, none⟩, by decide +kernel⟩

/-- A review of thirty shares of QQQ at a hundred dollars, with six of them pending, that leaves QQQ
at the weight. -/
def noonSells (weight : Decimal) : Except Failure PlannedOrders :=
  reviewSells .short { planContext with quotes := sampleReviewQuotes } shippedPlanningConfig
    Quant.shippedQ1Config samplePreparedReview
    ((Quant.RiskyWeights.mk weight 0).withCash (1 - weight)) [tenSold] fourSold 20

/-- A tenth of a share is left to sell, worth less than the least order of 25 dollars. -/
theorem noon_tenth_left : ∃ planned pending, noonSells (239 / 1000) = .ok planned ∧
    pendingOrders [tenSold] fourSold (some 20) = .ok pending ∧
    ¬NetsPending shippedPlanningConfig.val.quantityIncrement.value
      (pendingSellQuantities 20 pending "QQQ") (Q1Cycle.soldQuantity planned.intents "QQQ")
      (30 - 239 / 1000 * 10000 / 100) := by
  have h : ((noonSells (239 / 1000)).bind fun planned =>
      (pendingOrders [tenSold] fourSold (some 20)).map fun pending =>
        (planned, pending)).toOption.any (fun (planned, pending) => decide
          (shippedPlanningConfig.val.quantityIncrement.value ≤ 30 - 239 / 1000 * 10000 / 100 -
            (pendingSellQuantities 20 pending "QQQ" + Q1Cycle.soldQuantity planned.intents "QQQ")))
              =
      true := by
    decide +kernel
  obtain ⟨planned, pending, hplanned, hpending, hshort⟩ := exists_both_of_any h
  exact ⟨planned, pending, hplanned, hpending,
    fun hnets => absurd hnets.shortfall (not_lt.mpr (of_decide_eq_true hshort))⟩

/-- Nine shares more in an emergency that leaves five of twenty, and four more in a review that
leaves twenty of thirty. -/
theorem four_sold_nets :
    (∃ planned pending,
      emergencyOrders .short shippedPlanningConfig fourSoldRequest [fiveLeft] = .ok planned ∧
      pendingOrders [tenSold] fourSold = .ok pending ∧
      Q1Cycle.soldQuantity (plannedIntents planned) "QQQ" = 9 ∧
      NetsPending shippedPlanningConfig.val.quantityIncrement.value (pendingSells pending "QQQ")
        (Q1Cycle.soldQuantity (plannedIntents planned) "QQQ") (20 - 5)) ∧
    ∃ planned pending, noonSells (1 / 5) = .ok planned ∧
      pendingOrders [tenSold] fourSold (some 20) = .ok pending ∧
      Q1Cycle.soldQuantity planned.intents "QQQ" = 4 ∧
      ∀ intent ∈ planned.intents, intent.val.side = .sell := by
  have hemergency : ((emergencyOrders .short shippedPlanningConfig fourSoldRequest [fiveLeft]).bind
      fun planned => (pendingOrders [tenSold] fourSold).map fun pending =>
        (planned, pending)).toOption.any (fun (planned, _) => decide
          (Q1Cycle.soldQuantity (plannedIntents planned) "QQQ" = 9)) = true := by
    decide +kernel
  have hreview : ((noonSells (1 / 5)).bind fun planned =>
      (pendingOrders [tenSold] fourSold (some 20)).map fun pending =>
        (planned, pending)).toOption.any (fun (planned, _) => decide
          (Q1Cycle.soldQuantity planned.intents "QQQ" = 4)) = true := by
    decide +kernel
  obtain ⟨planned, pending, hplanned, hpending, hsold⟩ := exists_both_of_any hemergency
  obtain ⟨review, still, hsells, hstill, hfour⟩ := exists_both_of_any hreview
  have hnets := reduction_sells_net .short shippedPlanningConfig
  refine ⟨⟨planned, pending, hplanned, hpending, of_decide_eq_true hsold, ?_⟩,
    review, still, hsells, hstill, of_decide_eq_true hfour,
    (hnets.2 _ _ _ _ _ _ _ _ _ hsells hstill).1⟩
  exact (hnets.1 fourSoldRequest _ _ _ hplanned (by decide) hpending).2 "QQQ"

end AdaptiveQuant.Q1LlmReview
