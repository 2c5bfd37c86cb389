import AdaptiveQuant.Domain.CanonicalText
import AdaptiveQuant.Forward.BuyOrders

/-! Every plan stays within its means. -/

namespace AdaptiveQuant

open Guard Sequence List

/-- The configuration of a plan that cannot lose cash on a sell. -/
structure ForwardRiskConfig.Plannable (config : ForwardRiskConfig) : Prop where
  delay_nonneg : 0 ≤ delay config
  delay_lt : delay config < 1
  rate_nonneg : 0 ≤ config.commissionRate
  reserve_nonneg : 0 ≤ config.buyCashReserveFraction
  reserve_le_one : config.buyCashReserveFraction ≤ 1
  precision_pos : 0 < config.quantityPrecision.value
  fee_covered : ∀ notional, 0 < notional →
    config.minOrderNotionalUsd * (1 - delay config) ≤ notional →
      commission config notional ≤ notional

theorem shippedRiskConfig_plannable : shippedRiskConfig.Plannable where
  delay_nonneg := shippedRiskConfig_sound.delay_nonneg
  delay_lt := shippedRiskConfig_sound.delay_lt
  rate_nonneg := shippedRiskConfig_sound.rate_nonneg
  reserve_nonneg := by simp [shippedRiskConfig]
  reserve_le_one := by norm_num [shippedRiskConfig]
  precision_pos := by norm_num [shippedRiskConfig, Quantum.value]
  fee_covered _ _ h := (commission_lt shippedRiskConfig_sound h).le

/-- Every quote can be traded on. -/
def TradableBundle (quotes : QuoteBundle) : Prop := ∀ quote ∈ quotes.values, quote.Tradable

theorem TradableBundle.quoteOf {quotes : QuoteBundle} (h : TradableBundle quotes) {symbol : String}
    (quoted : symbol ∈ quotes.keys) : (quoteOf quotes symbol).Tradable := by
  obtain ⟨quote, hquote⟩ := Dict.mem_keys.mp quoted
  rw [AdaptiveQuant.quoteOf, Dict.getD_of_get? hquote]
  exact h quote (Dict.mem_values_of_get? hquote)

section Sells

variable {config : ForwardRiskConfig} {quotes : QuoteBundle}

theorem sellQuantity_worth {remaining : Decimal} {c} (bid : 0 < (quoteOf quotes c.symbol).bidPrice)
    (pos : 0 < sellQuantity config quotes remaining c) :
    sellQuantity config quotes remaining c * (quoteOf quotes c.symbol).bidPrice ≤ remaining := by
  have hfloor : sellQuantity config quotes remaining c ≤ floorQuantity
      (min (-c.negativeSurplus) remaining / (quoteOf quotes c.symbol).bidPrice)
      config.quantityPrecision := min_le_right _ _
  have hvalue : 0 ≤ min (-c.negativeSurplus) remaining / (quoteOf quotes c.symbol).bidPrice := by
    by_contra hneg
    exact absurd (pos.trans_le hfloor) (not_lt.mpr (quantizeDown_nonpos (not_le.mp hneg)))
  have hle := hfloor.trans (quantizeDown_le hvalue)
  rw [le_div_iff₀ bid] at hle
  exact hle.trans (min_le_right _ _)

theorem sellLoop_worth {remaining : Decimal} {candidates} (nonneg : 0 ≤ remaining)
    (bids : ∀ c ∈ candidates, 0 < (quoteOf quotes c.symbol).bidPrice) :
    ((sellLoop config quotes remaining candidates).map fun order =>
      order.quantity * (quoteOf quotes order.symbol).bidPrice).sum ≤ remaining := by
  induction candidates generalizing remaining with
  | nil => simpa [sellLoop] using nonneg
  | cons c rest ih =>
    rw [forall_mem_cons] at bids
    unfold sellLoop
    split
    · simpa using nonneg
    · dsimp only
      split
      · exact ih nonneg bids.2
      · rename_i hsize
        rw [not_or, not_le] at hsize
        have hworth := sellQuantity_worth bids.1 hsize.1
        have hrest := ih (sub_nonneg.mpr hworth) bids.2
        rw [map_cons, sum_cons]
        linarith

end Sells

namespace ForwardPlanRequest

variable {request : ForwardPlanRequest}

theorem sellBudget_nonneg : 0 ≤ request.sellBudget := by
  unfold sellBudget
  refine le_max_of_le_left (le_max_of_le_left ?_)
  split
  · exact le_max_left _ _
  · exact le_rfl

theorem plannedSells_worth (tradable : ∀ symbol ∈ request.state.held.keys,
    (quoteOf request.quotes symbol).Tradable) :
    (request.plannedSells.map fun order =>
      order.quantity * (quoteOf request.quotes order.symbol).bidPrice).sum ≤
        request.sellBudget := by
  rw [plannedSells_eq]
  refine sellLoop_worth sellBudget_nonneg fun c hc => ?_
  obtain ⟨entry, hentry, hcandidate⟩ := mem_sellCandidates.mp hc
  rw [(sellCandidate_some hcandidate).1]
  refine (tradable entry.1 ?_).bid_pos
  rw [← currentValues_keys]
  exact mem_map_of_mem hentry

theorem currentValues_getD (symbol : String) : request.currentValues.getD symbol 0 =
    request.state.quantity symbol * (quoteOf request.quotes symbol).midpoint := by
  rw [currentValues, Dict.getD, Dict.get?_mapVal, ArmState.held, Dict.get?_filter,
    ArmState.quantity, Dict.getD]
  cases request.state.positions.get? symbol with
  | none => simp
  | some quantity => by_cases hzero : quantity = 0 <;> simp [Option.filter_some, hzero]

theorem getD_foldl_min {quotes : QuoteBundle} {entries : List (String × Decimal)}
    (nodup : (entries.map (·.1)).Nodup) (d : Dict String Decimal) (symbol : String) :
    (entries.foldl (fun desired entry => desired.set entry.1
      (min (desired.getD entry.1 0) (entry.2 * (quoteOf quotes entry.1).midpoint))) d).getD
        symbol 0 =
      match entries.find? (·.1 = symbol) with
      | none => d.getD symbol 0
      | some entry => min (d.getD symbol 0) (entry.2 * (quoteOf quotes symbol).midpoint) := by
  induction entries generalizing d with
  | nil => rfl
  | cons entry rest ih =>
    rw [map_cons, nodup_cons] at nodup
    rw [foldl_cons, ih nodup.2]
    by_cases heq : entry.1 = symbol
    · have hnone : rest.find? (·.1 = symbol) = none := by
        rw [List.find?_eq_none]
        intro other hother hsame
        have : other.1 = entry.1 := (of_decide_eq_true hsame).trans heq.symm
        exact nodup.1 (this ▸ mem_map_of_mem hother)
      rw [hnone, List.find?_cons_of_pos (by simpa using heq)]
      simp only [Dict.getD, Dict.get?_set, heq, if_true, Option.getD_some]
    · have hsame : (d.set entry.1 (min (d.getD entry.1 0)
          (entry.2 * (quoteOf quotes entry.1).midpoint))).getD symbol 0 = d.getD symbol 0 := by
        simp only [Dict.getD, Dict.get?_set, if_neg (Ne.symm heq)]
      rw [List.find?_cons_of_neg (by simpa using heq), hsame]

theorem desiredValues_forced {symbol : String} {target : Decimal}
    (h : request.forcedTargets.get? symbol = some target) :
    request.desiredValues.getD symbol 0 ≤ target * (quoteOf request.quotes symbol).midpoint := by
  have hfind : request.forcedTargets.entries.find? (·.1 = symbol) = some (symbol, target) := by
    unfold Dict.get? at h
    obtain ⟨entry, hentry, rfl⟩ := Option.map_eq_some_iff.mp h
    have hkey : entry.1 = symbol := by simpa using List.find?_some hentry
    rw [← hkey] at hentry ⊢
    exact hentry
  rw [desiredValues, getD_foldl_min request.forcedTargets.nodup, hfind]
  exact min_le_right _ _

theorem plannedSells_above
    (tradable : ∀ symbol ∈ request.state.held.keys, (quoteOf request.quotes symbol).Tradable)
    {order} (mem : order ∈ request.plannedSells) :
    request.desiredValues.getD order.symbol 0 < request.currentValues.getD order.symbol 0 := by
  obtain ⟨c, hc, hsells⟩ := sellLoop_sellsFrom order mem
  obtain ⟨entry, hentry, hcandidate⟩ := mem_sellCandidates.mp hc
  obtain ⟨hsymbol, hkind⟩ := sellCandidate_some hcandidate
  rw [hsells.symbol, hsymbol]
  rcases hkind with ⟨-, -, hpos, target, htarget, hmax⟩ | ⟨-, -, -, hless⟩
  · have hheld : entry.1 ∈ request.state.held.keys := by
      rw [← currentValues_keys]
      exact mem_map_of_mem hentry
    refine (desiredValues_forced htarget).trans_lt ?_
    rw [currentValues_getD]
    exact mul_lt_mul_of_pos_right (by linarith) (tradable entry.1 hheld).midpoint_pos
  · rw [Dict.getD_of_get? (Dict.get?_eq_some.mpr hentry)]
    exact hless

theorem checkArguments_ok (h : request.checkArguments = .ok ()) :
    0 ≤ request.unsettledSaleProceedsUsd ∧
      (∀ symbol ∈ request.state.held.keys, symbol ∈ request.quotes.keys) ∧ 0 < request.nav ∧
      ∀ symbol ∈ request.forcedTargets.keys, symbol ∈ request.quotes.keys := by
  simp only [checkArguments, ok_iff, not_not, not_lt, not_le] at h
  obtain ⟨-, -, hunsettled, hmissing, hnav, hforced, -⟩ := h
  rw [missing, sortedBy_eq_nil, filter_eq_nil_iff] at hmissing
  rw [unknownForcedSymbols, sortedBy_eq_nil, filter_eq_nil_iff] at hforced
  refine ⟨hunsettled, fun symbol hsymbol => ?_, hnav, fun symbol hsymbol => ?_⟩
  · have hrequired : symbol ∈ (if coreSymbol ∈ request.state.held.keys then request.state.held.keys
        else request.state.held.keys ++ [coreSymbol]) := by
      split
      · exact hsymbol
      · exact mem_append_left _ hsymbol
    simpa using hmissing symbol hrequired
  · simpa using hforced symbol hsymbol

theorem spendableCash_le (cash : 0 ≤ request.state.cashUsd)
    (unsettled : 0 ≤ request.unsettledSaleProceedsUsd) (plannable : request.config.Plannable) :
    request.spendableCash ≤ request.state.cashUsd := by
  have hreserve := plannable.reserve_nonneg
  have hrest := sub_nonneg.mpr plannable.reserve_le_one
  have hunsettled : 0 ≤ if request.config.spendUnsettledSaleProceeds then 0
      else request.unsettledSaleProceedsUsd := by
    split
    · exact le_rfl
    · exact unsettled
  refine max_le cash ?_
  calc _ ≤ request.state.cashUsd * (1 - request.config.buyCashReserveFraction) :=
        mul_le_mul_of_nonneg_right (sub_le_self _ hunsettled) hrest
    _ ≤ request.state.cashUsd := mul_le_of_le_one_right cash (by linarith)

/-- What is safe about a plan. -/
structure SafePlan (request : ForwardPlanRequest) (buys : List PlannedOrder) : Prop where
  projected : ∃ projection, projectState request.config request.quotes request.state
      (request.plannedSells ++ buys) = .ok projection ∧ 0 ≤ projection.cash ∧
    ∀ symbol target, request.forcedTargets.get? symbol = some target →
      projection.quantity symbol ≤ max (request.state.quantity symbol) target
  paid : (buys.map (·.cashCost request.config request.quotes)).sum ≤
    min request.buyBudget request.spendableCash
  sold : (request.plannedSells.map fun order =>
    order.quantity * (quoteOf request.quotes order.symbol).bidPrice).sum ≤ request.sellBudget
  one_side : ∀ sell ∈ request.plannedSells, ∀ buy ∈ buys, sell.symbol ≠ buy.symbol

variable {config : ForwardRiskConfig}

theorem orderFlow_sell_nonneg {quotes : QuoteBundle}
    (plannable : config.Plannable) {order : PlannedOrder} (side : order.side = .sell)
    (pos : 0 < order.quantity) (bid : 0 < (quoteOf quotes order.symbol).bidPrice)
    (notional : config.minOrderNotionalUsd ≤
      order.quantity * (quoteOf quotes order.symbol).bidPrice) :
    0 ≤ orderFlow config quotes order := by
  have hdelay := sub_pos.mpr plannable.delay_lt
  have hprice : order.quantity * orderPrice config quotes order =
      order.quantity * (quoteOf quotes order.symbol).bidPrice * (1 - delay config) := by
    rw [orderPrice, side]
    ring
  have hfee := plannable.fee_covered (order.quantity * orderPrice config quotes order)
    (by rw [hprice]; positivity)
    (by rw [hprice]; exact mul_le_mul_of_nonneg_right notional hdelay.le)
  simp only [orderFlow, side]
  linarith

theorem orderFlow_buy {quotes order} (side : order.side = .buy) :
    orderFlow config quotes order = -order.cashCost config quotes := by
  simp only [orderFlow, PlannedOrder.cashCost, buyCash, delayedAsk, orderPrice, side]

theorem bought_le_target {order} (plannable : request.config.Plannable)
    (tradable : TradableBundle request.quotes)
    (bought : Bought request.config request.quotes request.currentValues request.desiredValues
      order)
    {target : Decimal} (forced : request.forcedTargets.get? order.symbol = some target) :
    request.state.quantity order.symbol + order.quantity ≤ target := by
  have hquote := tradable.quoteOf bought.quoted
  have hask : (quoteOf request.quotes order.symbol).midpoint ≤
      delayedAsk request.config request.quotes order.symbol *
        (1 + request.config.commissionRate) := by
    have hmid : (quoteOf request.quotes order.symbol).midpoint ≤
        (quoteOf request.quotes order.symbol).askPrice := by
      have := hquote.bid_le_ask
      unfold DecisionQuote.midpoint
      linarith
    have hpos := hquote.midpoint_pos.trans_le hmid
    have hdelayed : (quoteOf request.quotes order.symbol).askPrice ≤
        delayedAsk request.config request.quotes order.symbol :=
      le_mul_of_one_le_right hpos.le (by linarith [plannable.delay_nonneg])
    exact (hmid.trans hdelayed).trans (le_mul_of_one_le_right (hpos.le.trans hdelayed)
      (by linarith [plannable.rate_nonneg]))
  have hworth := (mul_le_mul_of_nonneg_left hask bought.pos.le).trans bought.deficit
  have hdesired := desiredValues_forced forced
  rw [currentValues_getD] at hworth
  have hle : (request.state.quantity order.symbol + order.quantity) *
      (quoteOf request.quotes order.symbol).midpoint ≤
        target * (quoteOf request.quotes order.symbol).midpoint := by linarith
  exact le_of_mul_le_mul_right hle hquote.midpoint_pos

theorem plan_safe (plannable : request.config.Plannable) (tradable : TradableBundle request.quotes)
    (cash : 0 ≤ request.state.cashUsd) (arguments : request.checkArguments = .ok ()) {buys}
    (hbuys : request.plannedBuys = .ok buys) :
    SafePlan request buys := by
  obtain ⟨hunsettled, hheld, -, -⟩ := checkArguments_ok arguments
  have htradable : ∀ symbol ∈ request.state.held.keys, (quoteOf request.quotes symbol).Tradable :=
    fun symbol hsymbol => tradable.quoteOf (hheld symbol hsymbol)
  have hasks : ∀ symbol ∈ request.quotes.keys, 0 < delayedAsk request.config request.quotes symbol *
      (1 + request.config.commissionRate) := by
    intro symbol hsymbol
    have hquote := tradable.quoteOf hsymbol
    have hask := hquote.bid_pos.trans_le hquote.bid_le_ask
    have := plannable.delay_nonneg
    have := plannable.rate_nonneg
    unfold delayedAsk
    positivity
  have hsells : SoundSells request request.plannedSells := plannedSells_sound
  have hbought := plannedBuys_sound plannable.precision_pos hasks hbuys
  have hsides : ∀ sell ∈ request.plannedSells, ∀ buy ∈ buys, sell.symbol ≠ buy.symbol := by
    intro sell hsell buy hbuy heq
    have habove := plannedSells_above htradable hsell
    rw [heq] at habove
    exact absurd habove (hbought.bought buy hbuy).short.not_gt
  have hnodup : ((request.plannedSells ++ buys).map (·.symbol)).Nodup := by
    rw [map_append]
    refine List.Nodup.append hsells.nodup hbought.nodup fun symbol hsold hbought => ?_
    obtain ⟨sell, hsell, rfl⟩ := mem_map.mp hsold
    obtain ⟨buy, hbuy, heq⟩ := mem_map.mp hbought
    exact hsides sell hsell buy hbuy heq.symm
  obtain ⟨projection, hproject⟩ : ∃ projection, (request.plannedSells ++ buys).foldlM
      (projectOrder request.config request.quotes) request.start = .ok projection :=
    projectOrders_exists hnodup fun order horder hside => by
      rcases mem_append.mp horder with hsell | hbuy
      · exact hsells.bounded order hsell
      · rw [(hbought.bought order hbuy).side] at hside
        cases hside
  have haccount := projectOrders_ok hproject
  refine ⟨⟨projection, hproject, ?_, fun symbol target htarget => ?_⟩, hbought.paid,
    plannedSells_worth htradable, hsides⟩
  · have hsold : 0 ≤ (request.plannedSells.map (orderFlow request.config request.quotes)).sum := by
      refine sum_nonneg fun x hx => ?_
      obtain ⟨order, horder, rfl⟩ := mem_map.mp hx
      exact orderFlow_sell_nonneg plannable (hsells.side order horder) (hsells.pos order horder)
        (htradable _ (hsells.held order horder)).bid_pos (hsells.notional order horder)
    have hpaid : (buys.map (orderFlow request.config request.quotes)).sum =
        -(buys.map (·.cashCost request.config request.quotes)).sum := by
      rw [← neg_one_mul, ← sum_map_mul_left]
      congr 1
      refine map_congr_left fun order horder => ?_
      rw [orderFlow_buy (hbought.bought order horder).side, neg_one_mul]
    have hspent := hbought.paid.trans (min_le_right _ _)
    have hspendable := spendableCash_le cash hunsettled plannable
    rw [haccount.cash, map_append, sum_append, hpaid, start]
    dsimp only
    linarith
  · have hless := @netShares_nonpos request.plannedSells (fun order horder => by
      rw [PlannedOrder.shares, hsells.side order horder]
      exact neg_nonpos.mpr (hsells.pos order horder).le) symbol
    have hquantity := haccount.quantity symbol
    rw [netShares_append] at hquantity
    change projection.quantity symbol = request.state.quantity symbol + _ at hquantity
    by_cases hmem : ∃ buy ∈ buys, buy.symbol = symbol
    · obtain ⟨buy, hbuy, rfl⟩ := hmem
      have hone := hbought.bought buy hbuy
      have hle := bought_le_target plannable tradable hone htarget
      rw [netShares_of_mem hbought.nodup hbuy, PlannedOrder.shares, hone.side] at hquantity
      dsimp only at hquantity
      refine le_max_of_le_right ?_
      linarith
    · push Not at hmem
      rw [netShares_of_not_mem hmem] at hquantity
      refine le_max_of_le_left ?_
      linarith

end ForwardPlanRequest

/-- Plans stay within their means, and the loop that lowers a quantity ends. -/
theorem forward_plan_safe (request : ForwardPlanRequest) (plannable : request.config.Plannable)
    (tradable : TradableBundle request.quotes) (cash : 0 ≤ request.state.cashUsd)
    (arguments : request.checkArguments = .ok ()) :
    (∀ buys, request.plannedBuys = .ok buys → request.SafePlan buys) ∧
      ∀ delayedAsk remaining quantity, ∃ n, ¬Unaffordable request.config delayedAsk remaining
        ((lowerQuantity request.config)^[n] quantity) :=
  ⟨fun _ hbuys => ForwardPlanRequest.plan_safe plannable tradable cash arguments hbuys,
    lowering_ends plannable.precision_pos⟩

section Sample

def sampleDecisionQuote (symbol : String) (bid ask : Decimal) : DecisionQuote where
  symbol := symbol
  quoteId := symbol
  bidPrice := bid
  askPrice := ask
  bidSizeRoundLots := 1
  askSizeRoundLots := 1
  eventTime := 0
  availableAt := 0

def samplePlanRequest (config : ForwardRiskConfig) (weight cash : Decimal)
    (positions : Dict String Decimal) (quotes : QuoteBundle) : ForwardPlanRequest where
  runId := "run"
  cycleId := "cycle"
  state := ⟨"B0-QQQ", cash, cash, positions, 0⟩
  target :=
    { armId := "B0-QQQ"
      targetWeights := coreWeights weight
      coreForecast := ⟨"core", 20, 20, 0, weight⟩
      policyVersion := 0
      policyRiskMultiplier := 1
      blockedNewEntries := ⟨[], nodup_nil⟩
      targetReason := "QQQ_BUY_AND_HOLD_CONTROL" }
  quotes := quotes
  decisionTime := 0
  intentCreatedAt := 0
  validUntil := 1
  inputSnapshotHash := "input"
  sessionOpenNavUsd := 4000
  todayBuyNotionalUsd := 0
  todaySellNotionalUsd := 0
  unsettledSaleProceedsUsd := 0
  config := config

def sampleDearConfig : ForwardRiskConfig := { shippedRiskConfig with
  minOrderNotionalUsd := 1 / 1000
  commissionRate := 99 / 100
  commissionWaiverThresholdUsd := 0 }

def sampleDearRequest : ForwardPlanRequest :=
  samplePlanRequest sampleDearConfig 0 0 ⟨[("SPY", 1)], by decide⟩
    ⟨[("QQQ", sampleDecisionQuote "QQQ" 100 100),
      ("SPY", sampleDecisionQuote "SPY" (6 / 1000) (6 / 1000))], by decide⟩

/-- The commission of the sell, rounded to a cent, exceeds its proceeds. -/
theorem sampleDear_overdrawn : 0 ≤ delay sampleDearRequest.config ∧
    delay sampleDearRequest.config < 1 ∧ 0 ≤ sampleDearRequest.config.commissionRate ∧
    sampleDearRequest.config.commissionRate < 1 ∧ 0 ≤ sampleDearRequest.state.cashUsd ∧
    (∀ entry ∈ sampleDearRequest.state.positions.entries, 0 ≤ entry.2) ∧
    TradableBundle sampleDearRequest.quotes ∧
    failure? (buildForwardOrderPlan .json sampleDearRequest) =
      some (forwardRiskError "Forward plan would create negative USD cash") := by
  have hquotes : TradableBundle sampleDearRequest.quotes := by
    intro quote hquote
    have hbid : ∀ quote ∈ sampleDearRequest.quotes.values,
        0 < quote.bidPrice ∧ quote.bidPrice ≤ quote.askPrice := by decide +kernel
    exact ⟨(hbid quote hquote).1, (hbid quote hquote).2⟩
  exact ⟨by decide +kernel, by decide +kernel, by decide +kernel, by decide +kernel,
    by decide +kernel, by decide +kernel, hquotes, by decide +kernel⟩

/-- An arm with the shipped configuration that sells one position and buys the core. -/
def sampleSafeRequest : ForwardPlanRequest :=
  samplePlanRequest shippedRiskConfig 1 1000 ⟨[("SOXL", 10)], by decide⟩
    ⟨[("QQQ", sampleDecisionQuote "QQQ" 100 100), ("SOXL", sampleDecisionQuote "SOXL" 100 100)],
      by decide⟩

theorem sampleSafe_safe : ∃ buys, sampleSafeRequest.plannedBuys = .ok buys ∧ buys ≠ [] ∧
    sampleSafeRequest.plannedSells ≠ [] ∧ sampleSafeRequest.SafePlan buys := by
  have hquotes : ∀ quote ∈ sampleSafeRequest.quotes.values,
      0 < quote.bidPrice ∧ quote.bidPrice ≤ quote.askPrice := by decide +kernel
  have hbuys : sampleSafeRequest.plannedBuys.toOption.any (· ≠ []) = true := by decide +kernel
  obtain ⟨buys, hok, hsome⟩ := exists_of_any hbuys
  exact ⟨buys, hok, of_decide_eq_true hsome, by decide +kernel,
    (forward_plan_safe sampleSafeRequest shippedRiskConfig_plannable
      (fun quote hquote => ⟨(hquotes quote hquote).1, (hquotes quote hquote).2⟩) (by decide +kernel)
      (by decide +kernel)).1 buys hok⟩

end Sample

end AdaptiveQuant
