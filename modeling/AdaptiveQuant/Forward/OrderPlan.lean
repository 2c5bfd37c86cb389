import AdaptiveQuant.Forward.LossGuard
import Mathlib.Data.Prod.Lex
import Mathlib.Data.String.Basic

/-! `build_forward_order_plan` of `risk/forward.py`. The weights of the source are floats; here they
are exact, like its decimals. -/

namespace AdaptiveQuant

open Guard Sequence

def cent : Quantum := ⟨1, -2⟩

def weightEpsilon : Decimal := 1 / 100000000

structure ForwardCoreForecast where
  version : String
  lookbackSessions : ℕ
  observations : ℕ
  annualizedVol : Decimal
  qqqWeight : Decimal
deriving DecidableEq

structure ForwardTarget where
  armId : String
  targetWeights : Dict String Decimal
  coreForecast : ForwardCoreForecast
  policyVersion : ℕ
  policyRiskMultiplier : Decimal
  blockedNewEntries : SymbolSet
  targetReason : String
deriving DecidableEq

structure PlannedOrder where
  symbol : String
  side : OrderSide
  quantity : Decimal
  decisionQuoteId : String
deriving DecidableEq

section Orders

variable (config : ForwardRiskConfig) (quotes : QuoteBundle)

def commission (notional : Decimal) : Decimal :=
  if notional ≤ config.commissionWaiverThresholdUsd then 0
  else quantizeHalfEven (notional * config.commissionRate) cent

/-- A position that `_sell_orders` may reduce. -/
structure SellCandidate where
  group : ℕ
  priority : ℕ
  negativeSurplus : Decimal
  symbol : String
  maximumQuantity : Decimal

def SellCandidate.key (c : SellCandidate) : ℕ ×ₗ ℕ ×ₗ ℚ ×ₗ String ×ₗ ℚ :=
  toLex (c.group, toLex (c.priority,
    toLex (c.negativeSurplus, toLex (c.symbol, c.maximumQuantity))))

def forcedPriority (symbol : String) : ℕ :=
  if symbol ∈ config.leveragedSymbols.1 then 0
  else if symbol ∈ config.semiconductorSymbols.1 then 1
  else if symbol = coreSymbol then 2
  else 3

def transitionPriority (symbol : String) : ℕ :=
  if symbol ∈ config.leveragedSymbols.1 then 0
  else if symbol ∈ config.semiconductorSymbols.1 ∧ symbol ∈ config.sellOnlySymbols.1 then 1
  else 2

def forcedCandidate (currentQuantity : Decimal) (symbol : String) (target : Decimal) :
    Option SellCandidate :=
  let maximumQuantity := max 0 (currentQuantity - target)
  if maximumQuantity ≤ 0 then none
  else some ⟨0, forcedPriority config symbol,
    -(maximumQuantity * (quoteOf quotes symbol).bidPrice), symbol, maximumQuantity⟩

def transitionCandidate (currentQuantity : Decimal) (symbol : String) (surplus : Decimal) :
    Option SellCandidate :=
  if surplus ≤ 0 then none
  else some ⟨1, transitionPriority config symbol, -surplus, symbol,
    min currentQuantity
      (floorQuantity (surplus / (quoteOf quotes symbol).bidPrice) config.quantityPrecision)⟩

def sellCandidate (state : ArmState) (desiredValues forcedTargets : Dict String Decimal)
    (allowTransitionSells : Bool) (entry : String × Decimal) : Option SellCandidate :=
  match forcedTargets.get? entry.1 with
  | some target => forcedCandidate config quotes (state.quantity entry.1) entry.1 target
  | none =>
    if ¬allowTransitionSells then none
    else transitionCandidate config quotes (state.quantity entry.1) entry.1
      (max 0 (entry.2 - desiredValues.getD entry.1 0))

def sellQuantity (remaining : Decimal) (c : SellCandidate) : Decimal :=
  min c.maximumQuantity (floorQuantity
    (min (-c.negativeSurplus) remaining / (quoteOf quotes c.symbol).bidPrice)
    config.quantityPrecision)

def sellLoop : Decimal → List SellCandidate → List PlannedOrder
  | _, [] => []
  | remaining, c :: rest =>
    if remaining < config.minOrderNotionalUsd then []
    else
      let quote := quoteOf quotes c.symbol
      let quantity := sellQuantity config quotes remaining c
      let expectedNotional := quantity * quote.bidPrice
      if quantity ≤ 0 ∨ expectedNotional < config.minOrderNotionalUsd then sellLoop remaining rest
      else ⟨c.symbol, .sell, quantity, quote.quoteId⟩ ::
        sellLoop (remaining - expectedNotional) rest

def sellOrders (state : ArmState) (currentValues desiredValues : Dict String Decimal)
    (budget : Decimal) (forcedTargets : Dict String Decimal) (allowTransitionSells : Bool) :
    List PlannedOrder :=
  sellLoop config quotes budget (sortedBy SellCandidate.key
    (currentValues.entries.filterMap
      (sellCandidate config quotes state desiredValues forcedTargets allowTransitionSells)))

def delay : Decimal := config.delayPenaltyBps / 10000

def buyCash (delayedAsk quantity : Decimal) : Decimal :=
  quantity * delayedAsk + commission config (quantity * delayedAsk)

/-- The loop of `_buy_orders` that gives up one step of the quantity at a time while the cash does
not suffice. -/
def affordableQuantity (delayedAsk remaining : Decimal) : ℕ → Decimal → Decimal
  | 0, quantity => quantity
  | fuel + 1, quantity =>
    if 0 < quantity ∧ buyCash config delayedAsk quantity > remaining then
      affordableQuantity delayedAsk remaining fuel
        (floorQuantity (quantity - config.quantityPrecision.value) config.quantityPrecision)
    else quantity

def quantitySteps (quantity : Decimal) : ℕ := ⌈quantity / config.quantityPrecision.value⌉₊

def buyStep (currentValues desiredValues : Dict String Decimal)
    (acc : Decimal × List PlannedOrder) (symbol : String) :
    Except Failure (Decimal × List PlannedOrder) :=
  if symbol ∈ config.sellOnlySymbols.1 ∨ symbol ∉ config.entrySymbols.1 then .ok acc
  else
    let deficit := max 0 (desiredValues.getD symbol 0 - currentValues.getD symbol 0)
    if deficit < config.minOrderNotionalUsd then .ok acc
    else do
      requireQuotes quotes [symbol]
      let quote := quoteOf quotes symbol
      let delayedAsk := quote.askPrice * (1 + delay config)
      let first := floorQuantity
        (min deficit acc.1 / (delayedAsk * (1 + config.commissionRate))) config.quantityPrecision
      let quantity := affordableQuantity config delayedAsk acc.1 (quantitySteps config first) first
      if quantity ≤ 0 ∨ quantity * delayedAsk < config.minOrderNotionalUsd then return acc
      else return (acc.1 - buyCash config delayedAsk quantity,
        acc.2 ++ [⟨symbol, .buy, quantity, quote.quoteId⟩])

def buyOrders (state : ArmState) (currentValues desiredValues : Dict String Decimal)
    (budget unsettledSaleProceeds : Decimal) (blockedEntries : Bool) :
    Except Failure (List PlannedOrder) :=
  if blockedEntries then .ok []
  else do
    let spendableCash :=
      max 0 ((state.cashUsd - unsettledSaleProceeds) * (1 - config.buyCashReserveFraction))
    let acc ← (sortedBy id desiredValues.keys).foldlM
      (buyStep config quotes currentValues desiredValues) (min budget spendableCash, [])
    return acc.2

structure Projection where
  cash : Decimal
  positions : Dict String Decimal
  totalCost : Decimal

def orderPrice (order : PlannedOrder) : Decimal :=
  match order.side with
  | .buy => (quoteOf quotes order.symbol).askPrice * (1 + delay config)
  | .sell => (quoteOf quotes order.symbol).bidPrice * (1 - delay config)

def orderCost (order : PlannedOrder) : Decimal :=
  let price := orderPrice config quotes order
  commission config (order.quantity * price) +
    order.quantity * |price - (quoteOf quotes order.symbol).midpoint|

/-- One pass of the loop of `_project_state`. -/
def projectOrder (acc : Projection) (order : PlannedOrder) : Except Failure Projection :=
  let notional := order.quantity * orderPrice config quotes order
  let fee := commission config notional
  let position := acc.positions.getD order.symbol 0
  let totalCost := acc.totalCost + orderCost config quotes order
  match order.side with
  | .buy => .ok ⟨acc.cash - (notional + fee),
      acc.positions.set order.symbol (position + order.quantity), totalCost⟩
  | .sell => do
    raiseIf (order.quantity > position) (forwardRiskError s!"SELL would short {order.symbol}")
    return ⟨acc.cash + (notional - fee),
      acc.positions.set order.symbol (position - order.quantity), totalCost⟩

def projectState (state : ArmState) (orders : List PlannedOrder) : Except Failure Projection :=
  orders.foldlM (projectOrder config quotes) ⟨state.cashUsd, state.positions, 0⟩

end Orders

def grandfatherAllows (pre post cap extraEpsilon : Decimal) : Prop :=
  post ≤ (if pre ≤ cap then cap else pre) + weightEpsilon + extraEpsilon

instance (pre post cap extraEpsilon : Decimal) :
    Decidable (grandfatherAllows pre post cap extraEpsilon) := by
  unfold grandfatherAllows
  infer_instance

def groupWeight (weights : Dict String Decimal) (symbols : SymbolSet) : Decimal :=
  (symbols.1.map fun symbol => weights.getD symbol 0).sum

def rejectUnless (ok : Prop) [Decidable ok] (reason : String) : List String :=
  if ok then [] else [reason]

/-- `_risk_rejections`, given the weights before and after the plan and the cost that a sell-only
plan may add to a weight. -/
def weightRejections (config : ForwardRiskConfig) (armId : String)
    (current projected : Dict String Decimal) (extraEpsilon : Decimal) : List String :=
  let weightCheck (symbol : String) (cap : Decimal) (reason : String) : List String :=
    rejectUnless
      (grandfatherAllows (current.getD symbol 0) (projected.getD symbol 0) cap extraEpsilon)
      reason
  let groupCheck (symbols : SymbolSet) (cap : Decimal) (reason : String) : List String :=
    rejectUnless
      (grandfatherAllows (groupWeight current symbols) (groupWeight projected symbols) cap
      extraEpsilon) reason
  (projected.keys.flatMap fun symbol =>
      if symbol = coreSymbol ∧ armId ∈ config.coreCapExemptArms.1 then []
      else weightCheck symbol config.maxSingleSymbolWeight s!"SINGLE_SYMBOL_LIMIT:{symbol}") ++
    groupCheck config.semiconductorSymbols config.maxSemiconductorClusterWeight
      "SEMICONDUCTOR_CLUSTER_LIMIT" ++
    (config.leveragedSymbols.1.flatMap fun symbol =>
      weightCheck symbol config.maxLeveragedEtfWeight s!"LEVERAGED_SYMBOL_LIMIT:{symbol}") ++
    groupCheck config.leveragedSymbols config.maxCombinedLeveragedEtfWeight
      "COMBINED_LEVERAGED_LIMIT" ++
    rejectUnless (projected.values.sum ≤ config.maxGrossExposure + weightEpsilon)
      "MAX_GROSS_EXPOSURE"

def midpointWeights (quotes : QuoteBundle) (positions : Dict String Decimal) (nav : Decimal) :
    Dict String Decimal :=
  (positions.filter fun _ quantity => quantity ≠ 0).mapVal fun symbol quantity =>
    quantity * (quoteOf quotes symbol).midpoint / nav

def riskRejections (config : ForwardRiskConfig) (quotes : QuoteBundle) (armId : String)
    (currentValues : Dict String Decimal) (currentNav : Decimal)
    (projectedPositions : Dict String Decimal) (projectedNav unavoidableCost : Decimal)
    (allowCostEpsilon : Bool) : List String :=
  let extraEpsilon := if 0 < currentNav ∧ allowCostEpsilon then unavoidableCost / currentNav else 0
  rejectUnless (∀ quantity ∈ projectedPositions.values, 0 ≤ quantity) "SHORT_POSITION_PROHIBITED" ++
    weightRejections config armId (currentValues.mapVal fun _ value => value / currentNav)
      (midpointWeights quotes projectedPositions projectedNav) extraEpsilon

def normalizeWeights (weights : Dict String Decimal) : Except Failure (Dict String Decimal) := do
  let total := weights.values.sum
  raiseIf (total ≤ 0) (forwardRiskError "Approved weights have no positive mass")
  let normalized := weights.mapVal fun _ value => value / total
  let residual := 1 - normalized.values.sum
  return normalized.set cashSymbol (normalized.getD cashSymbol 0 + residual)

structure SolverDiagnostics where
  targetReason : String
  coreForecastVersion : String
  coreForecastVol : Decimal
  coreQqqWeight : Decimal
  policyRiskMultiplier : Decimal
  blockedNewEntries : List String
  lossState : LossState
  transitionVersion : String
deriving DecidableEq

structure PortfolioDecisionFields where
  portfolioDecisionId : String
  armId : String
  decisionTime : Instant
  corePortfolioVersion : String
  policyVersion : ℕ
  forecastIds : List String
  inputSnapshotHash : String
  previousWeights : Dict String Decimal
  targetWeightsPreRisk : Dict String Decimal
  expectedNetReturnBps : Decimal
  expectedAnnualizedVol : Decimal
  expectedCvar975 : Decimal
  expectedTurnover : Decimal
  expectedCostUsd : Decimal
  optimizerStatus : String
  solverName : String
  solverDiagnostics : SolverDiagnostics
  createdAt : Instant

def PortfolioDecisionFields.fieldErrors (d : PortfolioDecisionFields) : List FieldError :=
  geCheck "expected_annualized_vol" 0 d.expectedAnnualizedVol ++
    geCheck "expected_turnover" 0 d.expectedTurnover ++
    geCheck "expected_cost_usd" 0 d.expectedCostUsd

def PortfolioDecisionFields.check (d : PortfolioDecisionFields) : Except Failure Unit :=
  raiseIf (d.fieldErrors ≠ []) (.validation "PortfolioDecision" d.fieldErrors)

abbrev PortfolioDecision := Validated PortfolioDecisionFields.check

structure ForcedReductionAction where
  action : String
  lossState : LossState
  transitionVersion : String
  sellOnly : List String
  targetQuantities : Dict String Decimal

structure RiskDecisionFields where
  riskDecisionId : String
  portfolioDecisionId : String
  approved : Bool
  approvedTargetWeights : Dict String Decimal
  rejectedReasons : List String
  forcedReductionActions : List ForcedReductionAction
  riskConfigVersion : String
  marketDataAgeSeconds : Decimal
  createdAt : Instant

def RiskDecisionFields.check (d : RiskDecisionFields) : Except Failure Unit := do
  raiseIf (geCheck "market_data_age_seconds" 0 d.marketDataAgeSeconds ≠ [])
    (.validation "RiskDecision" (geCheck "market_data_age_seconds" 0 d.marketDataAgeSeconds))
  raiseIf (d.approved ∧ ∃ weight ∈ d.approvedTargetWeights.values, weight < -1 / 10 ^ 12)
    (.record "RiskDecision" "Phase 0 approved weights must be long-only")
  raiseIf (d.approved ∧ |d.approvedTargetWeights.values.sum - 1| > 1 / 10 ^ 8)
    (.record "RiskDecision" "Approved weights must sum to one including USD_CASH")

abbrev RiskDecision := Validated RiskDecisionFields.check

structure OrderIntentFields where
  orderIntentId : String
  armId : String
  portfolioDecisionId : String
  riskDecisionId : String
  symbol : String
  side : OrderSide
  orderType : String
  quantity : Decimal
  limitPrice : Option Decimal
  timeInForce : String
  session : String
  clientOrderId : String
  idempotencyKey : String
  createdAt : Instant
deriving DecidableEq

def OrderIntentFields.check (intent : OrderIntentFields) : Except Failure Unit :=
  raiseIf (gtZeroCheck "quantity" intent.quantity ≠ [])
    (.validation "OrderIntent" (gtZeroCheck "quantity" intent.quantity))

abbrev OrderIntent := Validated OrderIntentFields.check

/-- The arguments of `build_forward_order_plan`. -/
structure ForwardPlanRequest where
  runId : String
  cycleId : String
  state : ArmState
  target : ForwardTarget
  quotes : QuoteBundle
  decisionTime : Instant
  intentCreatedAt : Instant
  validUntil : Instant
  inputSnapshotHash : String
  sessionOpenNavUsd : Decimal
  todayBuyNotionalUsd : Decimal
  todaySellNotionalUsd : Decimal
  unsettledSaleProceedsUsd : Decimal
  config : ForwardRiskConfig
  lossState : LossState := .normal
  blockNewEntries : Bool := false
  forcedSellBudgetUsd : Option Decimal := none
  forcedTargetQuantities : Option (Dict String Decimal) := none
  allowTransitionSells : Bool := true

structure ForwardPlanDiagnostics where
  desiredTurnover : Decimal
  sellBudgetUsd : Decimal
  buyBudgetUsd : Decimal
  unsettledSaleProceedsUsd : Decimal
  estimatedCostUsd : Decimal
  blockedEntries : Bool
  lossState : LossState
  forcedSellBudgetUsd : Option Decimal
  forcedSellResidualUsd : Decimal
  forcedTargetQuantities : Dict String Decimal
  orderCount : ℕ

structure ApprovedState where
  cashUsd : Decimal
  positions : Dict String Decimal
  projectedNavUsd : Decimal

structure ForwardOrderPlan where
  inputStateSequence : ℕ
  portfolioDecision : PortfolioDecision
  riskDecision : RiskDecision
  intents : List OrderIntent
  approvedState : ApprovedState
  diagnostics : ForwardPlanDiagnostics

def qqqEntryIsBlocked (blockedTargets : SymbolSet) : Bool :=
  blockedTargets.1.any fun item =>
    item ∈ ["SYMBOL:QQQ", "FACTOR:US_EQUITY_BETA", "FACTOR:US_TECH_BETA"]

def oneWayTurnover (currentValues desiredValues : Dict String Decimal) (nav : Decimal) : Decimal :=
  let symbols := currentValues.keys ++ desiredValues.keys.filter (· ∉ currentValues.keys)
  let gap (symbol : String) := desiredValues.getD symbol 0 - currentValues.getD symbol 0
  let buys := (symbols.map fun symbol => max 0 (gap symbol)).sum
  let sells := (symbols.map fun symbol => max 0 (-gap symbol)).sum
  max buys sells / nav

namespace ForwardPlanRequest

variable (request : ForwardPlanRequest)

def currentValues : Dict String Decimal :=
  request.state.held.mapVal fun symbol quantity =>
    quantity * (quoteOf request.quotes symbol).midpoint

def nav : Decimal := request.state.cashUsd + request.currentValues.values.sum

def missing : List String :=
  let required := if coreSymbol ∈ request.state.held.keys then request.state.held.keys
    else request.state.held.keys ++ [coreSymbol]
  sortedBy id (required.filter (· ∉ request.quotes.keys))

def forcedTargets : Dict String Decimal :=
  (request.forcedTargetQuantities.getD .empty).mapVal fun _ quantity => max 0 quantity

def unknownForcedSymbols : List String :=
  sortedBy id (request.forcedTargets.keys.filter (· ∉ request.quotes.keys))

def desiredValues : Dict String Decimal :=
  let weighted := (request.target.targetWeights.filter fun symbol weight =>
    symbol ≠ cashSymbol ∧ 0 < weight).mapVal fun _ weight => request.nav * weight
  request.forcedTargets.entries.foldl (fun desired entry => desired.set entry.1
    (min (desired.getD entry.1 0) (entry.2 * (quoteOf request.quotes entry.1).midpoint))) weighted

def forcedSellResidualUsd : Decimal :=
  residualNotional request.quotes request.state request.forcedTargets DecisionQuote.bidPrice

def sellBudget : Decimal :=
  let transition := if request.allowTransitionSells then
      max 0 (request.sessionOpenNavUsd * request.config.maxOneWayDailyTurnover -
        request.todaySellNotionalUsd)
    else 0
  max (max transition request.forcedSellResidualUsd) (request.forcedSellBudgetUsd.getD 0)

def buyBudget : Decimal :=
  max 0 (request.sessionOpenNavUsd * request.config.maxOneWayDailyTurnover -
    request.todayBuyNotionalUsd)

def blockedEntries : Bool :=
  request.blockNewEntries || qqqEntryIsBlocked request.target.blockedNewEntries

def plannedSells : List PlannedOrder :=
  sellOrders request.config request.quotes request.state request.currentValues request.desiredValues
    request.sellBudget request.forcedTargets request.allowTransitionSells

def plannedBuys : Except Failure (List PlannedOrder) :=
  buyOrders request.config request.quotes request.state request.currentValues request.desiredValues
    request.buyBudget
    (if request.config.spendUnsettledSaleProceeds then 0 else request.unsettledSaleProceedsUsd)
    request.blockedEntries

def checkArguments : Except Failure Unit := do
  raiseIf (request.state.armId ≠ request.target.armId)
    (forwardRiskError "Arm state and forward target differ")
  raiseIf (request.sessionOpenNavUsd ≤ 0) (forwardRiskError "Session-open NAV must be positive")
  raiseIf (request.unsettledSaleProceedsUsd < 0)
    (forwardRiskError "Unsettled sale proceeds cannot be negative")
  raiseIf (request.missing ≠ [])
    (forwardRiskError s!"Decision quote bundle is incomplete: {reprList request.missing}")
  raiseIf (request.nav ≤ 0) (forwardRiskError "Current arm NAV must be positive")
  raiseIf (request.unknownForcedSymbols ≠ [])
    (forwardRiskError
      s!"Forced target quote bundle is incomplete: {reprList request.unknownForcedSymbols}")
  raiseIf (request.forcedSellBudgetUsd.any (· < 0))
    (forwardRiskError "forced_sell_budget_usd cannot be negative")

def project (planned : List PlannedOrder) : Except Failure (Projection × Decimal) := do
  let projection ← projectState request.config request.quotes request.state planned
  raiseIf (projection.cash < 0)
    (forwardRiskError "Forward plan would create negative USD cash")
  let projectedNav := projection.cash + midpointValue request.quotes
    (projection.positions.filter fun _ quantity => quantity ≠ 0)
  raiseIf (projectedNav ≤ 0) (forwardRiskError "Forward plan would create non-positive NAV")
  return (projection, projectedNav)

def approvedWeights (projection : Projection) (projectedNav : Decimal) :
    Except Failure (Dict String Decimal) :=
  normalizeWeights ((midpointWeights request.quotes projection.positions.sorted projectedNav).set
    cashSymbol (projection.cash / projectedNav))

def rejectionReasons (planned : List PlannedOrder) (projection : Projection)
    (projectedNav : Decimal) : List String :=
  riskRejections request.config request.quotes request.state.armId request.currentValues request.nav
    projection.positions projectedNav projection.totalCost
    (planned ≠ [] ∧ ∀ order ∈ planned, order.side = .sell)

def portfolioFields (hash : Hashing) (planned : List PlannedOrder) (estimatedCost : Decimal) :
    PortfolioDecisionFields where
  portfolioDecisionId :=
    hash.stableId "forward-portfolio" [.str request.runId, .str request.cycleId,
    .str request.state.armId, .int request.state.sequence, .str request.inputSnapshotHash]
  armId := request.state.armId
  decisionTime := request.decisionTime
  corePortfolioVersion := request.config.coreVersion
  policyVersion := request.target.policyVersion
  forecastIds := []
  inputSnapshotHash := request.inputSnapshotHash
  previousWeights := (request.currentValues.mapVal fun _ value => value / request.nav).sorted.set
    cashSymbol (request.state.cashUsd / request.nav)
  targetWeightsPreRisk := request.target.targetWeights
  expectedNetReturnBps := 0
  expectedAnnualizedVol :=
    request.target.coreForecast.annualizedVol * request.target.targetWeights.getD coreSymbol 0
  expectedCvar975 := 0
  expectedTurnover := oneWayTurnover request.currentValues request.desiredValues request.nav
  expectedCostUsd := estimatedCost
  optimizerStatus :=
    if planned ≠ [] then "FORWARD_BASELINE_TRANSITION" else "NO_TRADE_WITHIN_THRESHOLD"
  solverName := "DETERMINISTIC_B0_FORWARD_V1"
  solverDiagnostics := {
    targetReason := request.target.targetReason
    coreForecastVersion := request.target.coreForecast.version
    coreForecastVol := request.target.coreForecast.annualizedVol
    coreQqqWeight := request.target.coreForecast.qqqWeight
    policyRiskMultiplier := request.target.policyRiskMultiplier
    blockedNewEntries := sortedBy id request.target.blockedNewEntries.1
    lossState := request.lossState
    transitionVersion := request.config.transitionVersion }
  createdAt := request.intentCreatedAt

def forcedReductionActions (planned : List PlannedOrder) : List ForcedReductionAction :=
  let sellOnly := (planned.filter (·.side = .sell)).map (·.symbol)
  let transition := "GRANDFATHERED_ACCOUNT_TRANSITION"
  if request.forcedTargets.entries ≠ [] then
    [{ action := match request.lossState with
        | .forceReduce => "FORCE_REDUCE"
        | .hardStop => "HARD_STOP_REDUCE"
        | _ => transition
       lossState := request.lossState
       transitionVersion := request.config.transitionVersion
       sellOnly := sellOnly
       targetQuantities := request.forcedTargets.sorted }]
  else if request.plannedSells ≠ [] then
    [{ action := transition
       lossState := request.lossState
       transitionVersion := request.config.transitionVersion
       sellOnly := sellOnly
       targetQuantities := .empty }]
  else []

def marketDataAgeSeconds : Decimal :=
  ((request.quotes.values.map fun quote =>
    ((request.intentCreatedAt - quote.eventTime : ℤ) : Decimal) / 1000000).max?).getD 0

def riskFields (hash : Hashing) (portfolio : PortfolioDecision) (planned : List PlannedOrder)
    (weights : Dict String Decimal) (reasons : List String) : RiskDecisionFields where
  riskDecisionId := hash.stableId "forward-risk"
    [.str portfolio.val.portfolioDecisionId, .str request.config.version]
  portfolioDecisionId := portfolio.val.portfolioDecisionId
  approved := reasons = []
  approvedTargetWeights := if reasons = [] then weights else .empty
  rejectedReasons := reasons
  forcedReductionActions := request.forcedReductionActions planned
  riskConfigVersion := request.config.version
  marketDataAgeSeconds := request.marketDataAgeSeconds
  createdAt := request.intentCreatedAt

def orderIntent (hash : Hashing) (portfolio : PortfolioDecision) (risk : RiskDecision)
    (order : PlannedOrder) : Except Failure OrderIntent :=
  let orderId := hash.stableId "forward-order" [.str request.runId, .str request.cycleId,
    .str request.state.armId, .int request.state.sequence, .str order.symbol, .str order.side.value]
  validate OrderIntentFields.check {
    orderIntentId := orderId
    armId := request.state.armId
    portfolioDecisionId := portfolio.val.portfolioDecisionId
    riskDecisionId := risk.val.riskDecisionId
    symbol := order.symbol
    side := order.side
    orderType := "MARKET"
    quantity := order.quantity
    limitPrice := none
    timeInForce := "DAY"
    session := "REGULAR"
    clientOrderId := hash.stableId "paper-client" [.str orderId]
    idempotencyKey := hash.stableId "paper-order-idem" [.str orderId]
    createdAt := request.intentCreatedAt }

def orderIntents (hash : Hashing) (portfolio : PortfolioDecision) (risk : RiskDecision)
    (planned : List PlannedOrder) : Except Failure (List OrderIntent) :=
  planned.mapM (request.orderIntent hash portfolio risk)

def decidePlan (hash : Hashing) (planned : List PlannedOrder) (projection : Projection)
    (projectedNav : Decimal) :
      Except Failure (PortfolioDecision × RiskDecision × List OrderIntent) := do
  let weights ← request.approvedWeights projection projectedNav
  let reasons := request.rejectionReasons planned projection projectedNav
  let portfolio ← validate PortfolioDecisionFields.check
    (request.portfolioFields hash planned projection.totalCost)
  let risk ← validate RiskDecisionFields.check
    (request.riskFields hash portfolio planned weights reasons)
  let intents ← if reasons = [] then request.orderIntents hash portfolio risk planned else pure []
  return (portfolio, risk, intents)

end ForwardPlanRequest

def buildForwardOrderPlan (hash : Hashing) (request : ForwardPlanRequest) :
    Except Failure ForwardOrderPlan := do
  request.checkArguments
  let buys ← request.plannedBuys
  let planned := request.plannedSells ++ buys
  let (projection, projectedNav) ← request.project planned
  let (portfolio, risk, intents) ← request.decidePlan hash planned projection projectedNav
  return {
    inputStateSequence := request.state.sequence
    portfolioDecision := portfolio
    riskDecision := risk
    intents := intents
    approvedState := {
      cashUsd := projection.cash
      positions := projection.positions.sorted.filter fun _ quantity => quantity ≠ 0
      projectedNavUsd := projectedNav }
    diagnostics := {
      desiredTurnover := oneWayTurnover request.currentValues request.desiredValues request.nav
      sellBudgetUsd := request.sellBudget
      buyBudgetUsd := request.buyBudget
      unsettledSaleProceedsUsd := request.unsettledSaleProceedsUsd
      estimatedCostUsd := projection.totalCost
      blockedEntries := request.blockedEntries
      lossState := request.lossState
      forcedSellBudgetUsd := request.forcedSellBudgetUsd
      forcedSellResidualUsd := request.forcedSellResidualUsd
      forcedTargetQuantities := request.forcedTargets.sorted
      orderCount := intents.length } }

end AdaptiveQuant
