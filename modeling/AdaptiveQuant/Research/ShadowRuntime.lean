import AdaptiveQuant.Research.ShadowResults

/-! The execution of a matched shadow cycle, `research/shadow_runtime.py`. -/

namespace AdaptiveQuant.Shadow

open Guard Ledger Sequence

/-- `_round_down`: to a multiple of the quantum, towards zero. -/
def roundDown (value quantum : Decimal) : Decimal :=
  let units := value / quantum
  (if 0 ≤ units then ⌊units⌋ else ⌈units⌉ : ℤ) * quantum

def fillPrice (side : OrderSide) (quote : QuoteFields) (p : PaperParameters) : Decimal :=
  let delay := p.delayPenaltyBps / p.basisPointsPerUnitReturn
  let raw := match side with
    | .buy => quote.askPrice * (1 + delay)
    | .sell => quote.bidPrice * (1 - delay)
  quantizeHalfEven raw p.priceQuantum

def commission (notional : Decimal) (p : PaperParameters) : Decimal :=
  if notional ≤ p.commissionWaiverThresholdUsd then 0
  else quantizeHalfEven (notional * p.commissionRate) cent

def decimalDiv (a b : Decimal) : Except Failure Decimal := do
  raiseIf (b = 0 ∧ a = 0) ⟨.invalidOperation, "[<class 'decimal.DivisionUndefined'>]", []⟩
  raiseIf (b = 0) ⟨.divisionByZero, "[<class 'decimal.DivisionByZero'>]", []⟩
  return a / b

def liquidityCap (requested : Decimal) (side : OrderSide) (quote : QuoteFields)
    (p : PaperParameters) : Decimal :=
  let displayed := match side with
    | .buy => quote.askSizeShares
    | .sell => quote.bidSizeShares
  min (min requested (displayed * p.displayedParticipationRate))
    (quote.advShares * p.advParticipationRate)

def fillableQuantity (requested : Decimal) (side : OrderSide) (quote : QuoteFields)
    (cashUsd : Decimal) (p : PaperParameters) : Except Failure Decimal :=
  match side with
  | .buy => do
    let unitCost := fillPrice .buy quote p * (1 + p.commissionRate)
    let affordable ← decimalDiv cashUsd unitCost
    return roundDown (min (liquidityCap requested .buy quote p) affordable) p.quantityQuantum
  | .sell => return roundDown (liquidityCap requested .sell quote p) p.quantityQuantum

def slippage (fill : FillFields) (midpoint : Decimal) : Decimal :=
  match fill.side with
  | .buy => (fill.price - midpoint) * fill.quantity
  | .sell => (midpoint - fill.price) * fill.quantity

def baseCost (fill : FillFields) (midpoint : Decimal) : Decimal :=
  max (slippage fill midpoint) 0 + fill.commissionUsd

theorem baseCost_nonneg (fill : Fill) (midpoint : Decimal) : 0 ≤ baseCost fill.val midpoint :=
  add_nonneg (le_max_right _ _) (FillFields.check_eq_ok.mp fill.valid).2.2

theorem sensitivityCost_nonneg (fill : Fill) (midpoint : Decimal) {bps : Decimal}
    (p : PaperParameters) (hbps : 0 < bps) : 0 ≤ baseCost fill.val midpoint +
      fill.val.notional * bps / p.basisPointsPerUnitReturn := by
  obtain ⟨hquantity, hprice, -⟩ := FillFields.check_eq_ok.mp fill.valid
  have hnotional : 0 < fill.val.notional := mul_pos hquantity hprice
  exact add_nonneg (baseCost_nonneg fill midpoint)
    (div_nonneg (mul_nonneg hnotional.le hbps.le) p.basisPoints_pos.le)

def fillCost (fill : Fill) (midpoint : Decimal) (p : PaperParameters) : FillCost where
  fillId := fill.val.fillId
  baseExecutionCostUsd := baseCost fill.val midpoint
  sensitivity5bpCostUsd := baseCost fill.val midpoint +
    fill.val.notional * p.sensitivity5Bps / p.basisPointsPerUnitReturn
  sensitivity10bpCostUsd := baseCost fill.val midpoint +
    fill.val.notional * p.sensitivity10Bps / p.basisPointsPerUnitReturn
  base_nonneg := baseCost_nonneg fill midpoint
  sensitivity5bp_nonneg := sensitivityCost_nonneg fill midpoint p p.sensitivity5_pos
  sensitivity10bp_nonneg := sensitivityCost_nonneg fill midpoint p
    (p.sensitivity5_pos.trans p.sensitivity_lt)

structure PlannedOrder where
  side : OrderSide
  symbol : String
  quantity : Decimal
deriving DecidableEq

structure ArmCycle (hash : Hashing) where
  spec : PairRuntimeSpec hash
  state : ArmState hash
  target : TargetDecision hash
  bundle : QuoteBundle hash

namespace ArmCycle

variable {hash : Hashing} (c : ArmCycle hash)

def parameters : PaperParameters := c.spec.val.paperParameters

def quotes : Dict String Quote := quoteMap c.bundle

def midpoint (symbol : String) : Decimal :=
  (c.quotes.get? symbol).elim 0 fun quote => quote.val.midpoint

def riskySymbols : List String :=
  sortedBy id ((positionMap c.state).keys ++ (weightMap c.target).keys.filter (· ≠ usdCash)).dedup

def checkQuote (symbol : String) : Except Failure Unit :=
  match c.quotes.get? symbol with
  | none => throw ⟨.keyError, symbol, []⟩
  | some quote => do
    raiseIf (quote.val.availableAt ≤ c.target.val.decisionTime)
      ⟨.valueError, "execution quote must follow target creation", []⟩
    raiseIf (quote.val.availableAt > c.bundle.val.asOf)
      ⟨.valueError, "execution quote was unavailable at execution time", []⟩
    let age := c.bundle.val.asOf - quote.val.eventTime
    raiseIf (age < 0 ∨ age > c.parameters.maximumQuoteAgeSeconds * 1000000)
      ⟨.valueError, "execution quote is stale", []⟩

def checkQuotes : Except Failure Unit := do
  let missing := c.riskySymbols.filter (· ∉ c.quotes.keys)
  raiseIf (missing ≠ []) ⟨.valueError, "missing matched quotes: " ++ reprList missing, []⟩
  c.riskySymbols.forM c.checkQuote

def decisionNav : Decimal :=
  c.state.val.cashUsd + marketValue (positionMap c.state) c.midpoint

def desiredQuantity (symbol : String) : Decimal :=
  match (weightMap c.target).get? symbol with
  | some weight =>
    if symbol ≠ usdCash ∧ 0 < weight then
      roundDown (c.decisionNav * weight / c.midpoint symbol) c.parameters.quantityQuantum
    else 0
  | none => 0

def plannedOrder (symbol : String) : Option PlannedOrder :=
  let delta := c.desiredQuantity symbol - (positionMap c.state).getD symbol 0
  if delta = 0 then none
  else if |delta| * c.midpoint symbol < c.parameters.minimumOrderNotionalUsd then none
  else some ⟨if 0 < delta then .buy else .sell, symbol, |delta|⟩

def planned : List PlannedOrder :=
  sortedBy (fun order => toLex (decide (order.side = .buy), order.symbol))
    (c.riskySymbols.filterMap c.plannedOrder)

def buildOrderIntent (order : PlannedOrder) : Except Failure OrderIntent :=
  let targetHash : Canonical := .str c.target.val.targetHash
  let orderId := hash.stableId "research-shadow-order" [.str c.spec.val.runId, targetHash,
    .str order.symbol, .str order.side.value, .decimal order.quantity]
  validate _
    { orderIntentId := orderId
      armId := c.target.val.armId
      portfolioDecisionId := hash.stableId "research-shadow-decision" [targetHash]
      riskDecisionId := hash.stableId "research-shadow-paper-risk" [targetHash]
      symbol := order.symbol
      side := order.side
      orderType := "MARKET"
      quantity := order.quantity
      limitPrice := none
      timeInForce := "DAY"
      session := "REGULAR"
      clientOrderId := hash.stableId "research-shadow-client" [.str orderId]
      idempotencyKey := hash.stableId "research-shadow-order-idem" [.str orderId]
      createdAt := c.target.val.decisionTime }

structure Book where
  cash : Decimal
  positions : Dict String Decimal
  orders : List OrderIntent := []
  fills : List Fill := []
  fillCosts : List FillCost := []
  entries : List LedgerEntry := []

def fillFields (order : OrderIntentFields) (quote : QuoteFields) (quantity price fee : Decimal) :
    FillFields where
  fillId := hash.stableId "research-shadow-fill" [.str c.spec.val.runId,
    .str c.target.val.targetHash, .str order.orderIntentId, .str quote.quoteId, .decimal quantity,
    .decimal price]
  orderIntentId := order.orderIntentId
  armId := c.target.val.armId
  symbol := order.symbol
  side := order.side
  quantity := quantity
  price := price
  commissionUsd := fee
  executionScenarioId := c.spec.val.executionContract.executionScenarioVersion
  effectiveAt := c.bundle.val.asOf
  createdAt := c.bundle.val.asOf

def negativeCash : Failure := ⟨.valueError, "paper BUY would make cash negative", []⟩

def shortSell : Failure := ⟨.valueError, "paper SELL would create a short position", []⟩

def shortFill : Failure := ⟨.valueError, "paper fill created a short position", []⟩

def settle (cash : Decimal) (positions : Dict String Decimal) (fill : FillFields) :
    Except Failure (Decimal × Dict String Decimal) :=
  let held := positions.getD fill.symbol 0
  match fill.side with
  | .buy => return (cash - (fill.notional + fill.commissionUsd),
      positions.set fill.symbol (held + fill.quantity))
  | .sell => do
    let residual := held - fill.quantity
    raiseIf (residual < 0) shortFill
    return (cash + (fill.notional - fill.commissionUsd),
      if residual = 0 then positions.filter fun symbol _ => symbol ≠ fill.symbol
      else positions.set fill.symbol residual)

def fillOrder (book : Book) (order : OrderIntent) (quote : Quote) (quantity : Decimal) :
    Except Failure Book := do
  let price := fillPrice order.val.side quote.val c.parameters
  let notional := quantity * price
  let fee := commission notional c.parameters
  raiseIf (order.val.side = .buy ∧ notional + fee > book.cash) negativeCash
  raiseIf (order.val.side = .sell ∧ quantity > book.positions.getD order.val.symbol 0) shortSell
  let fill ← validate FillFields.check (c.fillFields order.val quote.val quantity price fee)
  let entry := fillEntry hash fill.val
  entry.check
  let (cash, positions) ← settle book.cash book.positions fill.val
  return ⟨cash, positions, book.orders, book.fills ++ [fill],
    book.fillCosts ++ [fillCost fill quote.val.midpoint c.parameters], book.entries ++ [entry]⟩

def executeOrder (book : Book) (planned : PlannedOrder) : Except Failure Book := do
  match c.quotes.get? planned.symbol with
  | none => throw ⟨.keyError, planned.symbol, []⟩
  | some quote =>
    let order ← c.buildOrderIntent planned
    let book := { book with orders := book.orders ++ [order] }
    let quantity ← fillableQuantity planned.quantity planned.side quote.val book.cash c.parameters
    if quantity ≤ 0 then return book else c.fillOrder book order quote quantity

structure CycleTotals where
  turnoverUsd : Decimal
  commissionUsd : Decimal
  executionCostUsd : Decimal
  sensitivity5bpUsd : Decimal
  sensitivity10bpUsd : Decimal

def Book.totals (book : Book) : CycleTotals where
  turnoverUsd := (book.fills.map fun fill => fill.val.quantity * fill.val.price).sum
  commissionUsd := (book.fills.map fun fill => fill.val.commissionUsd).sum
  executionCostUsd := (book.fillCosts.map (·.baseExecutionCostUsd)).sum
  sensitivity5bpUsd := (book.fillCosts.map (·.sensitivity5bpCostUsd)).sum
  sensitivity10bpUsd := (book.fillCosts.map (·.sensitivity10bpCostUsd)).sum

def sourceCycleHash : String :=
  hash.canonicalHash (.dict [("target_hash", .str c.target.val.targetHash),
    ("quote_bundle_hash", .str c.bundle.val.bundleHash)])

def positionRecords (positions : Dict String Decimal) : List Position :=
  positions.sortedItems.filterMap fun item =>
    if h : 0 < item.2 then some ⟨item.1, item.2, h⟩ else none

def nextStateFields (state : ArmStateFields) (cashUsd : Decimal)
    (positions : Dict String Decimal) (navUsd : Decimal) (totals : CycleTotals) (asOf : Instant)
    (sourceCycleHash : String) : ArmStateFields :=
  { state with
    sequence := state.sequence + 1
    cashUsd := cashUsd
    positions := positionRecords positions
    lastNavUsd := navUsd
    cumulativeTurnoverUsd := state.cumulativeTurnoverUsd + totals.turnoverUsd
    cumulativeCommissionUsd := state.cumulativeCommissionUsd + totals.commissionUsd
    cumulativeExecutionCostUsd := state.cumulativeExecutionCostUsd + totals.executionCostUsd
    cumulativeSensitivity5bpUsd := state.cumulativeSensitivity5bpUsd + totals.sensitivity5bpUsd
    cumulativeSensitivity10bpUsd := state.cumulativeSensitivity10bpUsd + totals.sensitivity10bpUsd
    asOf := asOf
    sourceCycleHash := sourceCycleHash }

def sealState (state : ArmStateFields) : Except Failure (ArmState hash) :=
  validate _ { state with stateHash := hash.canonicalHash state.payload }

def exposures (positions : Dict String Decimal) (navUsd : Decimal) : Dict String Decimal :=
  positions.sorted.mapVal fun symbol quantity => quantity * c.midpoint symbol / navUsd

def dailySummary (nav : NavSnapshot) (totals : CycleTotals) (exposures : Dict String Decimal) :
    DailyArmSummaryFields where
  role := c.target.val.role
  armId := c.target.val.armId
  asOf := c.bundle.val.asOf
  startNavUsd := c.state.val.lastNavUsd
  endNavUsd := nav.navUsd
  netReturn := nav.navUsd / c.state.val.lastNavUsd - 1
  turnoverUsd := totals.turnoverUsd
  turnoverRatio := totals.turnoverUsd / c.state.val.lastNavUsd
  commissionUsd := totals.commissionUsd
  executionCostUsd := totals.executionCostUsd
  sensitivity5bpCostUsd := totals.sensitivity5bpUsd
  sensitivity10bpCostUsd := totals.sensitivity10bpUsd
  cashWeight := nav.cashUsd / nav.navUsd
  exposures := exposures

def close (book : Book) : Except Failure (ArmCycleResult hash) := do
  validateEntries book.entries
  raiseIf (book.cash < 0 ∨ ∃ quantity ∈ book.positions.values, quantity < 0)
    ⟨.valueError, "shadow execution violated long-only cash constraints", []⟩
  let nav ← calculateNav hash c.target.val.armId c.bundle.val.asOf book.cash book.positions
    (book.positions.mapVal fun symbol _ => c.midpoint symbol)
  let totals := book.totals
  let nextState ← sealState (nextStateFields c.state.val book.cash book.positions nav.navUsd totals
    c.bundle.val.asOf c.sourceCycleHash)
  let exposures := c.exposures book.positions nav.navUsd
  raiseIf (|nav.cashUsd / nav.navUsd + exposures.values.sum - 1| > c.parameters.weightTolerance)
    ⟨.valueError, "shadow NAV exposures do not reconcile", []⟩
  let daily ← validate _ (c.dailySummary nav totals exposures)
  return ⟨c.target.val.role, c.target, book.orders, book.fills, book.fillCosts, book.entries, nav,
    nextState, daily⟩

def openingBook : Book := { cash := c.state.val.cashUsd, positions := positionMap c.state }

def executeOrders : Except Failure Book := c.planned.foldlM c.executeOrder c.openingBook

def execute : Except Failure (ArmCycleResult hash) := do
  c.checkQuotes
  raiseIf (c.decisionNav ≤ 0) ⟨.valueError, "shadow arm NAV must remain positive", []⟩
  let book ← c.executeOrders
  c.close book

end ArmCycle

end AdaptiveQuant.Shadow
