import AdaptiveQuant.Runtime.CanaryCancel
import AdaptiveQuant.Runtime.PlannedOrders
import Mathlib.Algebra.BigOperators.Ring.List

/-! What a plan of the canary does to its account. -/

namespace AdaptiveQuant

open Guard List

/-- An account that `_plan_orders` is called with: the checks before it have let it pass. -/
structure Plannable (d : AlpacaPaperCanaryDocument) (account : AlpacaPaperAccount)
    (positions : List AlpacaPaperPosition) : Prop where
  ready : account.isTradingReady
  safe : ∀ item ∈ positions, ¬item.IsUnsafe d

theorem planNumbers_sound (config : AlpacaPaperCanaryConfig) :
    config.val.rejectForeignPositions = true ∧ 0 < config.val.minimumOrderNotionalUsd ∧
      0 ≤ config.val.limitOffsetBps ∧ 0 < config.val.priceIncrementUsd := by
  have h := config.valid
  simp only [AlpacaPaperCanaryDocument.check, ok_iff, not_le, not_lt] at h
  obtain ⟨-, -, -, -, -, -, -, -, hforeign, -, -, -, -, -, hminimum, hoffset, hincrement, -⟩ := h
  exact ⟨by simpa using hforeign, hminimum, hoffset, hincrement⟩

def CanaryQuoteRow.midpoint (quote : CanaryQuoteRow) : Decimal :=
  (quote.bidPrice + quote.askPrice) / 2

variable {symbol : String} {quote : CanaryQuoteRow}

theorem latestQuoteRow_some {quotes : List CanaryQuoteRow} {now : Instant}
    (h : latestQuoteRow quotes symbol now = some quote) :
    quote.symbol = symbol ∧ 0 < quote.bidPrice ∧ quote.bidPrice ≤ quote.askPrice := by
  have hmem := mem_of_getLast? h
  rw [Sequence.mem_sortedBy, mem_filter, decide_eq_true_eq] at hmem
  obtain ⟨-, -, -, hsymbol, -, -, hbid, -, hask⟩ := hmem
  exact ⟨hsymbol, hbid, hask⟩

variable {d : AlpacaPaperCanaryDocument}

theorem freshQuote_ok {quotes : List CanaryQuoteRow} {now : Instant}
    (h : freshQuote d quotes now symbol = .ok quote) :
    latestQuoteRow quotes symbol now = some quote := by
  simp only [freshQuote] at h
  split at h
  · cases h
  · rename_i latest hlatest
    split at h
    · cases h
    · cases h
      exact hlatest

theorem find_freshQuotes {quotes rows : List CanaryQuoteRow} {now : Instant} {symbols : List String}
    (h : symbols.mapM (freshQuote d quotes now) = .ok rows) (symbol : String) :
    rows.find? (·.symbol = symbol) =
      if symbol ∈ symbols then latestQuoteRow quotes symbol now else none := by
  induction symbols generalizing rows with
  | nil =>
    rw [mapM_nil, pure_eq_ok] at h
    simp [← h]
  | cons first rest ih =>
    simp only [mapM_cons, ok_iff] at h
    obtain ⟨quote, hquote, others, hothers, rfl⟩ := h
    have hlatest := freshQuote_ok hquote
    have hfirst := (latestQuoteRow_some hlatest).1
    by_cases hsame : symbol = first
    · subst hsame
      rw [List.find?_cons_of_pos (by simpa using hfirst), if_pos mem_cons_self, hlatest]
    · rw [List.find?_cons_of_neg (by simpa [hfirst] using Ne.symm hsame), ih hothers]
      simp [hsame]

theorem targetQuantity_nonneg {equity weight : Decimal} (hequity : 0 ≤ equity)
    (hweight : 0 ≤ weight) (hbid : 0 < quote.bidPrice) (hask : quote.bidPrice ≤ quote.askPrice) :
    0 ≤ targetQuantity equity weight (some quote) := by
  have hmid : 0 ≤ (quote.bidPrice + quote.askPrice) / 2 := by linarith
  have hfloor := Int.floor_nonneg.mpr (div_nonneg (mul_nonneg hequity hweight) hmid)
  show (0 : Decimal) ≤ (⌊equity * weight / ((quote.bidPrice + quote.askPrice) / 2)⌋ : ℤ)
  exact_mod_cast hfloor

theorem targetQuantity_worth (equity weight : Decimal)
    (hbid : 0 < quote.bidPrice) (hask : quote.bidPrice ≤ quote.askPrice) :
    targetQuantity equity weight (some quote) * quote.midpoint ≤ equity * weight := by
  have hmid : 0 < quote.midpoint := by
    unfold CanaryQuoteRow.midpoint
    linarith
  have hfloor := Int.floor_le (equity * weight / quote.midpoint)
  exact (le_div_iff₀ hmid).mp hfloor

theorem exists_of_currentQuantity {positions} (h : 0 < currentQuantity positions symbol) :
    ∃ position ∈ positions, position.symbol = symbol ∧ 0 < position.quantity := by
  unfold currentQuantity at h
  cases hlast : (positions.filter fun position =>
      position.symbol = symbol ∧ 0 < position.quantity).getLast? with
  | none =>
    rw [hlast] at h
    cases lt_irrefl _ h
  | some position =>
    have hmem := mem_of_getLast? hlast
    rw [mem_filter, decide_eq_true_eq] at hmem
    exact ⟨position, hmem.1, hmem.2⟩

theorem scaledWeights_le {qqq soxx : Decimal} (hsoxx : soxx ≤ 20 / 100)
    (hgross : 50 / 100 < qqq + soxx) :
    soxx * (50 / 100 / (qqq + soxx)) ≤ 20 / 100 ∧
      qqq * (50 / 100 / (qqq + soxx)) + soxx * (50 / 100 / (qqq + soxx)) ≤ 50 / 100 := by
  have hpos : 0 < qqq + soxx := by linarith
  have hscale : (50 / 100 : Decimal) / (qqq + soxx) ≤ 1 := (div_le_one hpos).mpr hgross.le
  have hscale0 : 0 ≤ (50 / 100 : Decimal) / (qqq + soxx) := by positivity
  constructor
  · calc soxx * (50 / 100 / (qqq + soxx))
      _ ≤ 20 / 100 * (50 / 100 / (qqq + soxx)) := mul_le_mul_of_nonneg_right hsoxx hscale0
      _ ≤ 20 / 100 := by linarith
  · rw [← add_mul, mul_div_cancel₀ _ hpos.ne']

theorem riskyWeights_hardReduce
    (allowed : d.allowedSymbols = ["QQQ", "SOXX"]) (targets : Dict String Decimal) :
    riskyWeights d targets .hardReduce "SOXX" ≤ 20 / 100 ∧
      (d.allowedSymbols.map (riskyWeights d targets .hardReduce)).sum ≤ 50 / 100 := by
  have hsoxx : min (targets.getD "SOXX" 0) (20 / 100 : Decimal) ≤ 20 / 100 := min_le_right _ _
  simp only [riskyWeights, allowed, map_cons, map_nil, sum_cons, sum_nil,
    reduceIte, String.reduceEq, add_zero]
  by_cases hgross : 50 / 100 < targets.getD "QQQ" 0 + min (targets.getD "SOXX" 0) (20 / 100)
  · rw [if_pos hgross]
    simp only [reduceIte, String.reduceEq]
    exact scaledWeights_le hsoxx hgross
  · rw [if_neg hgross]
    simp only [reduceIte, String.reduceEq]
    exact ⟨hsoxx, not_lt.mp hgross⟩

section Plans

variable {service : CanaryService} {source : CanarySource} {account : AlpacaPaperAccount}
  {positions : List AlpacaPaperPosition} {decision : PortfolioDecisionRow} {risk : RiskSeverity}
  {now : Instant} {plans : List CanaryOrderPlan}

def symbolTarget (d : AlpacaPaperCanaryDocument) (source : CanarySource)
    (account : AlpacaPaperAccount) (targets : Dict String Decimal) (risk : RiskSeverity)
    (now : Instant) (symbol : String) : Decimal :=
  targetQuantity account.equity (riskyWeights d targets risk symbol)
    (latestQuoteRow source.quotes symbol now)

structure SymbolOrders (service : CanaryService) (source : CanarySource)
    (account : AlpacaPaperAccount) (positions : List AlpacaPaperPosition)
    (targets : Dict String Decimal) (risk : RiskSeverity) (now : Instant)
    (orders : List CanaryOrderPlan) : Prop where
  weights : ∀ symbol ∈ service.config.val.allowedSymbols,
    0 ≤ riskyWeights service.config.val targets risk symbol
  quoted : ∀ symbol ∈ service.config.val.allowedSymbols, 0 < currentQuantity positions symbol →
    ∃ quote, latestQuoteRow source.quotes symbol now = some quote
  sells : 0 ≤ account.equity → ∀ order ∈ orders, order.side = .sell →
    order.quantity ≤ currentQuantity positions order.symbol
  buys : ∀ order ∈ orders, order.side = .buy →
    buysAllowed service risk now = true ∧ 0 < order.limitPrice
  complete : ∀ symbol ∈ service.config.val.allowedSymbols, ∀ quote,
    latestQuoteRow source.quotes symbol now = some quote →
    0 < currentQuantity positions symbol →
    symbolTarget service.config.val source account targets risk now symbol <
      currentQuantity positions symbol →
    service.config.val.minimumOrderNotionalUsd ≤ (currentQuantity positions symbol -
      symbolTarget service.config.val source account targets risk now symbol) * quote.bidPrice →
    ∃ order ∈ orders, order.symbol = symbol ∧ order.side = .sell ∧
      order.quantity = currentQuantity positions symbol -
        symbolTarget service.config.val source account targets risk now symbol

theorem limitPrice_buy_pos (config : AlpacaPaperCanaryConfig) {bid ask : Decimal} (hask : 0 < ask) :
    0 < limitPrice config.val .buy bid ask := by
  obtain ⟨-, -, hoffset, hincrement⟩ := planNumbers_sound config
  have hraw : 0 < ask * (1 + config.val.limitOffsetBps / 10000) / config.val.priceIncrementUsd := by
    positivity
  have hunits := Int.ceil_pos.mpr hraw
  exact mul_pos (by exact_mod_cast hunits) hincrement

variable {d : AlpacaPaperCanaryDocument} {symbol : String}

theorem mem_quotedSymbols {allowed : Bool} {weights : String → Decimal}
    (hsymbol : symbol ∈ d.allowedSymbols) (hheld : 0 < currentQuantity positions symbol) :
    symbol ∈ quotedSymbols d allowed weights positions := by
  rw [quotedSymbols, mem_filter, decide_eq_true_eq]
  exact ⟨hsymbol, .inr (exists_of_currentQuantity hheld)⟩

theorem freshQuotes_ok {symbols : List String}
    {quotes : List CanaryQuoteRow} (h : freshQuotes d source symbols now = .ok quotes) :
    symbols.mapM (freshQuote d source.quotes now) = .ok quotes := by
  rw [freshQuotes] at h
  split at h
  · rename_i hnil
    rw [hnil, mapM_nil]
    exact h
  · simp only [bind_eq_ok] at h
    obtain ⟨-, -, h⟩ := h
    exact h

theorem planSymbol_quoted {decisionId : String} {allowed : Bool} {quotes : List CanaryQuoteRow}
    {delta : String → Decimal} {plan : CanaryOrderPlan}
    (h : planSymbol d decisionId risk allowed quotes delta symbol = .ok (some plan)) :
    ∃ row, quotes.find? (·.symbol = symbol) = some row ∧
      plan.limitPrice = limitPrice d plan.side row.bidPrice row.askPrice := by
  unfold planSymbol at h
  extract_lets side at h
  split at h
  · cases h
  · obtain ⟨row, hrow, -, -, rfl⟩ := planQuoted_some h
    exact ⟨row, hrow, rfl⟩

theorem planSymbol_sell {decisionId : String} {allowed : Bool} {quotes : List CanaryQuoteRow}
    {delta : String → Decimal} {result : Option CanaryOrderPlan} {row : CanaryQuoteRow}
    (h : planSymbol d decisionId risk allowed quotes delta symbol = .ok result)
    (hdelta : delta symbol < 0) (hrow : quotes.find? (·.symbol = symbol) = some row)
    (hminimum : d.minimumOrderNotionalUsd ≤ -delta symbol * row.bidPrice) :
    ∃ plan, result = some plan ∧ plan.symbol = symbol ∧ plan.side = .sell ∧
      plan.quantity = -delta symbol := by
  simp only [planSymbol, hdelta.ne, not_lt.mpr hdelta.le, reduceIte, reduceCtorEq, false_and,
    or_self, hrow, planQuoted, CanaryQuoteRow.reference, abs_of_neg hdelta] at h
  split at h
  · cases h
  · rw [if_neg (not_lt.mpr hminimum)] at h
    cases h
    exact ⟨_, rfl, rfl, rfl, rfl⟩

theorem planOrders_symbols
    (h : planOrders service source account positions decision risk now = .ok plans) :
    ∃ orders, plans = chooseSide service.config.val account.cash orders ∧
      SymbolOrders service source account positions decision.targetWeights risk now orders := by
  simp only [planOrders, ok_iff, checkTarget] at h
  obtain ⟨hweights, quotes, hquotes, -, -, results, hresults, rfl⟩ := h
  have hfind := find_freshQuotes (freshQuotes_ok hquotes)
  have hweights : ∀ symbol ∈ service.config.val.allowedSymbols,
      0 ≤ riskyWeights service.config.val decision.targetWeights risk symbol := by
    intro symbol hsymbol
    by_contra hneg
    exact hweights (.inl ⟨symbol, hsymbol, not_le.mp hneg⟩)
  set delta : String → Decimal := fun symbol => targetQuantity account.equity
    (riskyWeights service.config.val decision.targetWeights risk symbol)
    (quotes.find? (·.symbol = symbol)) - currentQuantity positions symbol with hdelta
  have hlatest : ∀ symbol row, quotes.find? (·.symbol = symbol) = some row →
      latestQuoteRow source.quotes symbol now = some row := by
    intro symbol row hrow
    rw [hfind] at hrow
    split at hrow
    · exact hrow
    · cases hrow
  have horder : ∀ order ∈ results.filterMap id, ∃ symbol ∈ service.config.val.allowedSymbols,
      planSymbol service.config.val decision.portfolioDecisionId risk
        (buysAllowed service risk now) quotes delta symbol = .ok (some order) := by
    intro order horder
    obtain ⟨result, hresult, rfl⟩ := mem_filterMap.mp horder
    obtain ⟨symbol, hsymbol, hok⟩ := mem_of_mapM_eq_ok hresults (some order) hresult
    exact ⟨symbol, (Sequence.mem_sortedBy ..).mp hsymbol, hok⟩
  refine ⟨_, rfl, hweights, ?_, ?_, ?_, ?_⟩
  · intro symbol hsymbol hpos
    obtain ⟨quote, -, hquote⟩ := exists_of_mapM_eq_ok (freshQuotes_ok hquotes) symbol
      (mem_quotedSymbols hsymbol hpos)
    exact ⟨quote, freshQuote_ok hquote⟩
  · intro hequity order hmem hside
    obtain ⟨symbol, hsymbol, hok⟩ := horder order hmem
    obtain ⟨row, hrow, -⟩ := planSymbol_quoted hok
    obtain ⟨rfl, -, hquantity, -, -, hsign, -⟩ := planSymbol_some hok
    obtain ⟨-, hbid, hask⟩ := latestQuoteRow_some (hlatest _ _ hrow)
    have htarget := targetQuantity_nonneg hequity (hweights _ hsymbol) hbid hask
    have hneg : delta order.symbol ≤ 0 := by
      refine not_lt.mp fun hpos => ?_
      rw [if_pos hpos, hside] at hsign
      cases hsign
    rw [hquantity, abs_of_nonpos hneg]
    simp only [hdelta, hrow]
    linarith
  · intro order hmem hside
    obtain ⟨symbol, -, hok⟩ := horder order hmem
    obtain ⟨row, hrow, hlimit⟩ := planSymbol_quoted hok
    obtain ⟨-, hbid, hask⟩ := latestQuoteRow_some (hlatest _ _ hrow)
    rw [hlimit, hside]
    exact ⟨(planSymbol_some hok).2.2.2.2.2.2 hside, limitPrice_buy_pos _ (hbid.trans_le hask)⟩
  · intro symbol hsymbol quote hquote hpos hless hminimum
    have hrow : quotes.find? (·.symbol = symbol) = some quote := by
      rw [hfind, if_pos (mem_quotedSymbols hsymbol hpos), hquote]
    have hvalue : delta symbol =
        symbolTarget service.config.val source account decision.targetWeights risk now symbol -
          currentQuantity positions symbol := by
      simp only [hdelta, hrow, symbolTarget, hquote]
    obtain ⟨result, hresult, hok⟩ := exists_of_mapM_eq_ok hresults symbol
      ((Sequence.mem_sortedBy ..).mpr hsymbol)
    rw [← neg_sub, ← hvalue] at hminimum
    obtain ⟨plan, rfl, hname, hside, hquantity⟩ :=
      planSymbol_sell hok (by rw [hvalue]; linarith) hrow hminimum
    refine ⟨plan, mem_filterMap.mpr ⟨_, hresult, rfl⟩, hname, hside, ?_⟩
    rw [hquantity, hvalue, neg_sub]

theorem feasibleBuys_cost {budget : Decimal}
    (hbudget : 0 ≤ budget) (hlimit : ∀ plan ∈ plans, 0 < plan.limitPrice) :
    ((feasibleBuys d budget plans).map fun plan => plan.quantity * plan.limitPrice).sum ≤
      budget := by
  induction plans generalizing budget with
  | nil => exact hbudget
  | cons plan rest ih =>
    have hrest : ∀ other ∈ rest, 0 < other.limitPrice := fun other hother =>
      hlimit other (mem_cons_of_mem _ hother)
    rcases feasibleBuys_cons d budget plan rest with hskip | ⟨buy, hbuy, -, hcost⟩
    · rw [hskip]
      exact ih hbudget hrest
    · have hpaid := hcost (hlimit plan mem_cons_self)
      have hothers := ih (sub_nonneg.mpr hpaid) hrest
      rw [hbuy, map_cons, sum_cons]
      linarith

theorem chooseSide_cases (d : AlpacaPaperCanaryDocument) (cash : Decimal)
    (orders : List CanaryOrderPlan) :
    chooseSide d cash orders = orders.filter (·.side = .sell) ∨
      (∀ order ∈ orders, order.side = .buy) ∧
        chooseSide d cash orders = feasibleBuys d (max 0 cash) orders := by
  unfold chooseSide
  extract_lets sells
  by_cases hsells : sells ≠ []
  · rw [if_pos hsells]
    exact .inl rfl
  · rw [if_neg hsells]
    refine .inr ⟨fun order horder => ?_, rfl⟩
    rw [not_not, filter_eq_nil_iff] at hsells
    have hbuy := hsells order horder
    cases hside : order.side with
    | buy => rfl
    | sell => simp [hside] at hbuy

def soldQuantity (plans : List CanaryOrderPlan) (symbol : String) : Decimal :=
  ((plans.filter fun plan => plan.symbol = symbol ∧ plan.side = .sell).map (·.quantity)).sum

def leftWorth (source : CanarySource) (positions : List AlpacaPaperPosition)
    (plans : List CanaryOrderPlan) (now : Instant) (symbol : String) : Decimal :=
  (currentQuantity positions symbol - soldQuantity plans symbol) *
    ((latestQuoteRow source.quotes symbol now).map (·.midpoint)).getD 0

/-- No symbol needs a sale that is smaller than an order may be. -/
def NoSmallLeg (service : CanaryService) (source : CanarySource) (account : AlpacaPaperAccount)
    (positions : List AlpacaPaperPosition) (targets : Dict String Decimal) (risk : RiskSeverity)
    (now : Instant) : Prop :=
  ∀ symbol ∈ service.config.val.allowedSymbols, ∀ quote,
    latestQuoteRow source.quotes symbol now = some quote →
    symbolTarget service.config.val source account targets risk now symbol <
      currentQuantity positions symbol →
    service.config.val.minimumOrderNotionalUsd ≤ (currentQuantity positions symbol -
      symbolTarget service.config.val source account targets risk now symbol) * quote.bidPrice

/-- What is safe about the orders of one sync. -/
structure SafeOrders (service : CanaryService) (source : CanarySource)
    (account : AlpacaPaperAccount) (positions : List AlpacaPaperPosition)
    (targets : Dict String Decimal) (risk : RiskSeverity) (now : Instant)
    (plans : List CanaryOrderPlan) : Prop where
  oneSided : (∀ plan ∈ plans, plan.side = .sell) ∨ ∀ plan ∈ plans, plan.side = .buy
  held : ∀ plan ∈ plans, plan.side = .sell →
    plan.quantity ≤ currentQuantity positions plan.symbol
  funded : ((plans.filter (·.side = .buy)).map fun plan => plan.quantity * plan.limitPrice).sum ≤
    max 0 account.cash
  buys : ∀ plan ∈ plans, plan.side = .buy → risk = .normal ∧
    service.newYorkTime now < service.config.val.noRiskIncreaseAfterEt
  exits : risk = .criticalExit → ∀ symbol, 0 < currentQuantity positions symbol →
    ∃ quote, latestQuoteRow source.quotes symbol now = some quote ∧
      (service.config.val.minimumOrderNotionalUsd ≤
          currentQuantity positions symbol * quote.bidPrice →
        ∃ plan ∈ plans, plan.symbol = symbol ∧ plan.side = .sell ∧
          plan.quantity = currentQuantity positions symbol)
  reduces : risk = .hardReduce →
    NoSmallLeg service source account positions targets risk now →
    leftWorth source positions plans now "SOXX" ≤ 20 / 100 * account.equity ∧
      (service.config.val.allowedSymbols.map (leftWorth source positions plans now)).sum ≤
        50 / 100 * account.equity

theorem Plannable.allowed (h : Plannable d account positions)
    (hheld : 0 < currentQuantity positions symbol) :
    symbol ∈ d.allowedSymbols := by
  obtain ⟨position, hposition, rfl, -⟩ := exists_of_currentQuantity hheld
  by_contra hforeign
  exact h.safe position hposition (.inl hforeign)

theorem Plannable.equity_pos (h : Plannable d account positions) : 0 < account.equity := by
  obtain ⟨-, -, -, -, -, hequity⟩ := h.ready
  exact hequity

theorem soldQuantity_nonneg (hquantity : ∀ plan ∈ plans, 0 < plan.quantity) (symbol : String) :
    0 ≤ soldQuantity plans symbol := by
  refine sum_nonneg fun quantity hmem => ?_
  obtain ⟨plan, hplan, rfl⟩ := mem_map.mp hmem
  exact (hquantity plan (mem_of_mem_filter hplan)).le

theorem le_soldQuantity (hquantity : ∀ plan ∈ plans, 0 < plan.quantity) {plan}
    (hplan : plan ∈ plans) (hside : plan.side = .sell) :
    plan.quantity ≤ soldQuantity plans plan.symbol := by
  refine single_le_sum (fun quantity hmem => ?_) _ (mem_map_of_mem (f := (·.quantity))
    (mem_filter.mpr ⟨hplan, by simp [hside]⟩))
  obtain ⟨other, hother, rfl⟩ := mem_map.mp hmem
  exact (hquantity other (mem_of_mem_filter hother)).le

variable {orders : List CanaryOrderPlan}

theorem mem_chooseSide_of_sell {cash : Decimal} {order} (horder : order ∈ orders)
    (hside : order.side = .sell) : order ∈ chooseSide d cash orders := by
  rcases chooseSide_cases d cash orders with h | ⟨hbuys, -⟩
  · rw [h]
    exact mem_filter.mpr ⟨horder, by simp [hside]⟩
  · rw [hbuys order horder] at hside
    cases hside

theorem leftWorth_le (hplannable : Plannable service.config.val account positions)
    (h : SymbolOrders service source account positions decision.targetWeights risk now orders)
    (hquantity : ∀ plan ∈ chooseSide service.config.val account.cash orders, 0 < plan.quantity)
    (hlegs : NoSmallLeg service source account positions decision.targetWeights risk now)
    (hsymbol : symbol ∈ service.config.val.allowedSymbols) :
    leftWorth source positions (chooseSide service.config.val account.cash orders) now symbol ≤
      riskyWeights service.config.val decision.targetWeights risk symbol * account.equity := by
  have hequity := hplannable.equity_pos
  have hweight := h.weights symbol hsymbol
  have hsold := soldQuantity_nonneg hquantity symbol
  unfold leftWorth
  cases hquote : latestQuoteRow source.quotes symbol now with
  | none =>
    rw [Option.map_none, Option.getD_none, mul_zero]
    exact mul_nonneg hweight hequity.le
  | some quote =>
    rw [Option.map_some, Option.getD_some]
    obtain ⟨-, hbid, hask⟩ := latestQuoteRow_some hquote
    have hmid : 0 ≤ quote.midpoint := by
      unfold CanaryQuoteRow.midpoint
      linarith
    have htarget : symbolTarget service.config.val source account decision.targetWeights risk now
        symbol = targetQuantity account.equity
          (riskyWeights service.config.val decision.targetWeights risk symbol) (some quote) := by
      rw [symbolTarget, hquote]
    have hworth := targetQuantity_worth account.equity
      (riskyWeights service.config.val decision.targetWeights risk symbol) hbid hask
    have htarget0 := targetQuantity_nonneg hequity.le hweight hbid hask
    rw [← htarget] at hworth htarget0
    -- the shares left are at most the target
    have hleft : currentQuantity positions symbol -
        soldQuantity (chooseSide service.config.val account.cash orders) symbol ≤
        symbolTarget service.config.val source account decision.targetWeights risk now symbol := by
      by_cases hmore : symbolTarget service.config.val source account decision.targetWeights risk
          now symbol < currentQuantity positions symbol
      · obtain ⟨order, horder, rfl, hside, hsells⟩ := h.complete symbol hsymbol quote hquote
          (htarget0.trans_lt hmore) hmore (hlegs symbol hsymbol quote hquote hmore)
        have hle := le_soldQuantity hquantity (mem_chooseSide_of_sell horder hside) hside
        linarith
      · linarith [not_lt.mp hmore]
    calc _ ≤ _ * quote.midpoint := mul_le_mul_of_nonneg_right hleft hmid
      _ ≤ _ := hworth
      _ = _ := mul_comm _ _

/-- Every plan for an account that passed the checks stays within its positions, its settled cash
and the limits of the risk state. -/
theorem planned_orders_safe (hplannable : Plannable service.config.val account positions)
    (h : planOrders service source account positions decision risk now = .ok plans) :
    SafeOrders service source account positions decision.targetWeights risk now plans := by
  have hquantity := (planOrders_plans h).quantity
  obtain ⟨orders, rfl, horders⟩ := planOrders_symbols h
  have hequity := hplannable.equity_pos
  have hcases := chooseSide_cases service.config.val account.cash orders
  constructor
  case oneSided =>
    rcases hcases with hsells | ⟨hbuys, hcut⟩
    · rw [hsells]
      exact .inl fun plan hplan => by simpa using (mem_filter.mp hplan).2
    · rw [hcut]
      refine .inr fun plan hplan => ?_
      obtain ⟨order, horder, hbought⟩ := mem_feasibleBuys hplan
      rw [hbought.side, hbuys order horder]
  case held =>
    rcases hcases with hsells | ⟨hbuys, hcut⟩
    · rw [hsells]
      intro plan hplan hside
      exact horders.sells hequity.le plan (mem_of_mem_filter hplan) hside
    · rw [hcut]
      intro plan hplan hside
      obtain ⟨order, horder, hbought⟩ := mem_feasibleBuys hplan
      rw [hbought.side, hbuys order horder] at hside
      cases hside
  case funded =>
    rcases hcases with hsells | ⟨hbuys, hcut⟩
    · rw [hsells, filter_filter, filter_eq_nil_iff.mpr (by simp +contextual)]
      exact le_max_left 0 _
    · rw [hcut, filter_eq_self.mpr ?_]
      · exact feasibleBuys_cost (le_max_left _ _) fun order horder =>
          (horders.buys order horder (hbuys order horder)).2
      · intro plan hplan
        obtain ⟨order, horder, hbought⟩ := mem_feasibleBuys hplan
        simp [hbought.side, hbuys order horder]
  case buys =>
    rcases hcases with hsells | ⟨hbuys, hcut⟩
    · rw [hsells]
      intro plan hplan hside
      have hsell := (mem_filter.mp hplan).2
      simp [hside] at hsell
    · rw [hcut]
      intro plan hplan hside
      obtain ⟨order, horder, hbought⟩ := mem_feasibleBuys hplan
      have hallowed := (horders.buys order horder (hbuys order horder)).1
      simpa [buysAllowed] using hallowed
  case exits =>
    rintro rfl symbol hheld
    have hsymbol := hplannable.allowed hheld
    obtain ⟨quote, hquote⟩ := horders.quoted symbol hsymbol hheld
    have htarget : symbolTarget service.config.val source account decision.targetWeights
        .criticalExit now symbol = 0 := by
      simp [symbolTarget, hquote, targetQuantity, riskyWeights]
    refine ⟨quote, hquote, fun hminimum => ?_⟩
    have hcomplete := horders.complete symbol hsymbol quote hquote hheld
    rw [htarget, sub_zero] at hcomplete
    obtain ⟨order, horder, hname, hside, hsold⟩ := hcomplete hheld hminimum
    exact ⟨order, mem_chooseSide_of_sell horder hside, hname, hside, hsold⟩
  case reduces =>
    rintro rfl hlegs
    have hallowed := allowedSymbols_eq service.config
    obtain ⟨hsoxx, htotal⟩ := riskyWeights_hardReduce hallowed decision.targetWeights
    have hleft : ∀ symbol ∈ service.config.val.allowedSymbols, leftWorth source positions
        (chooseSide service.config.val account.cash orders) now symbol ≤
        riskyWeights service.config.val decision.targetWeights .hardReduce symbol *
          account.equity :=
      fun symbol hsymbol => leftWorth_le hplannable horders hquantity hlegs hsymbol
    constructor
    · exact (hleft "SOXX" (by rw [hallowed]; decide)).trans
        (mul_le_mul_of_nonneg_right hsoxx hequity.le)
    · refine (sum_le_sum hleft).trans ?_
      rw [sum_map_mul_right]
      exact mul_le_mul_of_nonneg_right htotal hequity.le

end Plans

def samplePositions : List AlpacaPaperPosition :=
  [⟨"QQQ", 60, 6000, 100, "long"⟩, ⟨"SOXX", 40, 4000, 100, "long"⟩]

def sampleHolder : AlpacaPaperAccount :=
  ⟨"account", "ACTIVE", "USD", 10000, 0, 0, false, false, false⟩

def reduceDecision : PortfolioDecisionRow :=
  sampleDecision "D1" 0 ((Dict.empty.set "QQQ" (6 / 10)).set "SOXX" (4 / 10))

theorem sampleReduction_safe :
    ∃ plans, planOrders sampleCanary buyCall.source sampleHolder samplePositions reduceDecision
        .hardReduce 1 = .ok plans ∧ plans.map (·.quantity) = [23, 28] ∧
      SafeOrders sampleCanary buyCall.source sampleHolder samplePositions
        reduceDecision.targetWeights .hardReduce 1 plans := by
  have hplannable : Plannable sampleCanary.config.val sampleHolder samplePositions :=
    ⟨by decide +kernel, by decide +kernel⟩
  have hplans : (planOrders sampleCanary buyCall.source sampleHolder samplePositions reduceDecision
      .hardReduce 1).toOption.any (fun plans => plans.map (·.quantity) = [23, 28]) = true := by
    decide +kernel
  obtain ⟨plans, hok, hsome⟩ := exists_of_any hplans
  exact ⟨plans, hok, by simpa using hsome, planned_orders_safe hplannable hok⟩

end AdaptiveQuant
