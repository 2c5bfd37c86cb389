import AdaptiveQuant.Quant.CurrentWeights

/-! `apply_turnover_control` of `quant/allocator.py`. -/

namespace AdaptiveQuant.Quant

open Guard

structure ProposedTrade where
  symbol : String
  side : OrderSide
  weightDelta : Decimal
  notionalUsd : Decimal
deriving DecidableEq

structure OmittedOrderDiagnostic where
  symbol : String
  side : OrderSide
  proposedNotionalUsd : Decimal
  minimumNotionalUsd : Decimal
  reason : String
deriving DecidableEq

structure TurnoverResult where
  decisionKind : String
  proposedOneWayTurnover : Decimal
  remainingDailyCapacity : Decimal
  interpolationAlpha : Decimal
  adjustedTargetWeights : List (String × Decimal)
  executableTargetWeights : List (String × Decimal)
  executableOneWayTurnover : Decimal
  proposedTrades : List ProposedTrade
  omittedOrders : List OmittedOrderDiagnostic
  turnoverHash : String
deriving DecidableEq

/-- The keyword arguments of `apply_turnover_control`, without the configuration. -/
structure TurnoverRequest where
  currentWeights : Dict String Decimal
  proposedTargetWeights : Dict String Decimal
  currentNavUsd : Decimal
  usedNormalTurnover : Decimal
  emergencyReduction : Bool
  bypassNormalTurnoverCap : Bool := false

def oneWayTurnover (left right : Dict String Decimal) : Decimal :=
  1 / 2 * (left.entries.map fun entry => |right.getD entry.1 0 - entry.2|).sum

structure LegContext where
  current : Dict String Decimal
  adjusted : Dict String Decimal
  nav : Decimal
  threshold : Decimal
  bypassMinimum : Bool

structure Legs where
  executable : Dict String Decimal
  trades : List ProposedTrade
  omitted : List OmittedOrderDiagnostic

def LegContext.addLeg (context : LegContext) (legs : Legs) (symbol : String) : Legs :=
  let delta := context.adjusted.getD symbol 0 - context.current.getD symbol 0
  let side := if 0 < delta then .buy else .sell
  let notional := |delta| * context.nav
  if delta = 0 then legs
  else if context.bypassMinimum = false ∧ notional < context.threshold then
    { legs with
      omitted := legs.omitted ++ [⟨symbol, side, notional, context.threshold,
        "BELOW_MINIMUM_ORDER_NOTIONAL"⟩] }
  else
    { legs with
      executable := legs.executable.set symbol (context.adjusted.getD symbol 0)
      trades := legs.trades ++ [⟨symbol, side, delta, notional⟩] }

section Control

variable (config : Q1MathConfig Decimal)

def minimumNotional (nav : Decimal) : Decimal :=
  let p := config.val.turnover
  max p.minimumOrderNotionalUsd (p.minimumOrderNavFraction * nav)

def remainingCapacity (used : Decimal) : Decimal :=
  max 0 (config.val.turnover.normalDailyOneWayCap - used)

def interpolationAlpha (request : TurnoverRequest) (proposedTurnover remaining : Decimal) :
    Except Failure Decimal :=
  if request.emergencyReduction then do
    raiseIf (config.val.turnover.emergencyBypassesTurnoverCap = false)
      (q1MathError "emergency turnover bypass is disabled")
    return 1
  else if request.bypassNormalTurnoverCap then return if 0 < proposedTurnover then 1 else 0
  else if proposedTurnover = 0 then return 0
  else if remaining < proposedTurnover then return remaining / proposedTurnover
  else return 1

def weightTuple (weights : Dict String Decimal) : List (String × Decimal) :=
  (config.val.riskySymbols ++ [config.val.cashSymbol]).map fun symbol =>
    (symbol, weights.getD symbol 0)

def tuplePayload (items : List (String × Decimal)) : Canonical :=
  .list (items.map fun item => .list [.str item.1, .decimal item.2])

def turnoverPayload (result : TurnoverResult) : Canonical :=
  .dict [
    ("algorithm_version", .str config.val.algorithmVersion),
    ("decision_kind", .str result.decisionKind),
    ("proposed_one_way_turnover", .decimal result.proposedOneWayTurnover),
    ("remaining_daily_capacity", .decimal result.remainingDailyCapacity),
    ("interpolation_alpha", .decimal result.interpolationAlpha),
    ("adjusted_target_weights", tuplePayload result.adjustedTargetWeights),
    ("executable_target_weights", tuplePayload result.executableTargetWeights),
    ("proposed_trades", .list (result.proposedTrades.map fun item => .dict [
      ("symbol", .str item.symbol),
      ("side", .str item.side.value),
      ("weight_delta", .decimal item.weightDelta),
      ("notional_usd", .decimal item.notionalUsd)])),
    ("omitted_orders", .list (result.omittedOrders.map fun item => .dict [
      ("symbol", .str item.symbol),
      ("side", .str item.side.value),
      ("proposed_notional_usd", .decimal item.proposedNotionalUsd),
      ("minimum_notional_usd", .decimal item.minimumNotionalUsd),
      ("reason", .str item.reason)]))]

def turnoverResult (hash : Hashing) (decisionKind : String)
    (proposedTurnover remaining alpha : Decimal) (current adjusted : Dict String Decimal)
    (legs : Legs) : TurnoverResult :=
  let unhashed : TurnoverResult :=
    { decisionKind
      proposedOneWayTurnover := proposedTurnover
      remainingDailyCapacity := remaining
      interpolationAlpha := alpha
      adjustedTargetWeights := weightTuple config adjusted
      executableTargetWeights := weightTuple config legs.executable
      executableOneWayTurnover := oneWayTurnover current legs.executable
      proposedTrades := legs.trades
      omittedOrders := legs.omitted
      turnoverHash := "" }
  { unhashed with turnoverHash := hash.canonicalHash (turnoverPayload config unhashed) }

def executedLegs (request : TurnoverRequest) (current adjusted : Dict String Decimal) : Legs :=
  let context : LegContext :=
    { current
      adjusted
      nav := request.currentNavUsd
      threshold := minimumNotional config request.currentNavUsd
      bypassMinimum := request.emergencyReduction &&
        config.val.turnover.emergencyBypassesMinimumOrder }
  let legs := config.val.riskySymbols.foldl context.addLeg ⟨current, [], []⟩
  let risky := (config.val.riskySymbols.map fun symbol => legs.executable.getD symbol 0).sum
  { legs with executable := legs.executable.set config.val.cashSymbol (1 - risky) }

def applyTurnoverControl (hash : Hashing) (request : TurnoverRequest) :
    Except Failure TurnoverResult := do
  let p := config.val.turnover
  let _ ← positive request.currentNavUsd "current_nav_usd"
  let used ← nonNegative request.usedNormalTurnover "used_normal_turnover"
  let symbols := config.val.riskySymbols ++ [config.val.cashSymbol]
  let current ← normalizedWeightMapping request.currentWeights symbols config
  let proposed ← normalizedWeightMapping request.proposedTargetWeights symbols config
  raiseIf (request.emergencyReduction = true ∧
      ∃ symbol ∈ config.val.riskySymbols, current.getD symbol 0 < proposed.getD symbol 0)
    (q1MathError "emergency turnover control accepts sell-only risky targets")
  let proposedTurnover := oneWayTurnover current proposed
  let remaining := remainingCapacity config used
  if request.emergencyReduction = false ∧ request.bypassNormalTurnoverCap = false ∧
      proposedTurnover < p.noTradeOneWayThreshold then
    return turnoverResult config hash "NO_TRADE_BELOW_BAND" proposedTurnover remaining 0 current
      current ⟨current, [], []⟩
  else
    let alpha ← interpolationAlpha config request proposedTurnover remaining
    let adjusted := current.mapVal fun symbol weight =>
      weight + alpha * (proposed.getD symbol 0 - weight)
    let legs := executedLegs config request current adjusted
    validateBasicWeights legs.executable config.val.allocation
    let decisionKind :=
      if request.emergencyReduction then "EMERGENCY_REDUCTION"
      else if legs.trades = [] then "NO_EXECUTABLE_ORDERS"
      else "NORMAL_REBALANCE"
    return turnoverResult config hash decisionKind proposedTurnover remaining alpha current adjusted
      legs

end Control

end AdaptiveQuant.Quant
