import AdaptiveQuant.Llm.Q1Overlay
import AdaptiveQuant.Runtime.EmergencyPlan

/-! The noon review of `runtime/q1_llm_review.py`. -/

namespace AdaptiveQuant.Q1LlmReview

open Guard Sequence
open Quant (RiskyWeights TurnoverRequest TurnoverResult Q1MathConfig)
open Q1Overlay (Q1LlmOverlayDecision Q1OverlayState riskySymbols)
open Settlement (Q1ArmState)

def q1LlmReviewError (message : String) : Failure := ⟨.q1LlmReviewError, message, []⟩

def reviewUnavailable (code : String) : Failure := ⟨.reviewUnavailable, code, []⟩

def normalizedTarget (values : Dict String Decimal) : Except Failure (Dict String Decimal) := do
  raiseIf (values.keys.filter (· ∉ riskySymbols ++ ["USD_CASH"]) ≠ [])
    (reviewUnavailable "Q1_DET_TARGET_UNIVERSE_VIOLATION")
  let target : RiskyWeights Decimal := ⟨values.getD "QQQ" 0, values.getD "SOXX" 0⟩
  raiseIf (target.qqq < 0 ∨ target.soxx < 0) (reviewUnavailable "Q1_DET_TARGET_INVALID")
  raiseIf (1 < target.sum) (reviewUnavailable "Q1_DET_TARGET_LEVERAGED")
  return target.withCash (1 - target.sum)

def priceOf (prices : Dict String Decimal) (symbol : String) : Except Failure Decimal :=
  match prices.get? symbol with
  | some price => .ok price
  | none => .error ⟨.keyError, symbol, []⟩

def currentWeights (state : Q1ArmState) (prices : Dict String Decimal) :
    Except Failure (Dict String Decimal) := do
  let nav ← state.nav prices
  let qqq ← priceOf prices "QQQ"
  let soxx ← priceOf prices "SOXX"
  let weights : RiskyWeights Decimal :=
    ⟨state.val.positions.getD "QQQ" 0 * qqq / nav, state.val.positions.getD "SOXX" 0 * soxx / nav⟩
  raiseIf (1 < weights.sum) (reviewUnavailable "Q1_LLM_STATE_LEVERAGED")
  return weights.withCash (1 - weights.sum)

/-- What `_used_normal_turnover` reads of a fill and its intent. -/
structure TurnoverFill where
  symbol : String
  side : OrderSide
  orderClass : Q1OrderClass
  quantity : Decimal
  price : Decimal

def TurnoverFill.delta (fill : TurnoverFill) : Decimal :=
  match fill.side with
  | .buy => fill.quantity * fill.price
  | .sell => -(fill.quantity * fill.price)

/-- `_used_normal_turnover`: the fills that are not of an emergency. -/
def usedNormalTurnover (fills : List TurnoverFill) (currentNavUsd : Decimal) :
    Except Failure Decimal := do
  raiseIf (currentNavUsd ≤ 0) (reviewUnavailable "TURNOVER_NAV_INVALID")
  raiseIf (∃ fill ∈ fills, fill.symbol ∉ riskySymbols ∨
      fill.orderClass ∉ [Q1OrderClass.normal, .llmReduction, .emergencyReduction])
    (reviewUnavailable "TURNOVER_LEDGER_INVALID")
  let counted := fills.filter fun fill =>
    fill.orderClass ∈ [Q1OrderClass.normal, .llmReduction]
  let delta := fun symbol => ((counted.filter (·.symbol = symbol)).map (·.delta)).sum
  let cash := -(counted.map (·.delta)).sum
  return 1 / 2 * (|delta "QQQ"| + |delta "SOXX"| + |cash|) / currentNavUsd

/-- What the later steps read of a `_PreparedReview`. -/
structure PreparedReview where
  state : Q1ArmState
  targetWeights : Dict String Decimal
  currentNavUsd : Decimal
  currentWeights : Dict String Decimal
  usedNormalTurnover : Decimal
deriving DecidableEq

/-- The part of `_prepare` after the records are read. -/
def prepareReview (state : Q1ArmState) (targetWeights : Dict String Decimal)
    (quotes : Dict String Q1Cycle.DecisionQuote) (fills : List TurnoverFill) :
    Except Failure PreparedReview := do
  let prices := quotes.mapVal fun _ quote => quote.midpoint
  raiseIf (state.val.positions.keys.filter (· ∉ riskySymbols) ≠ [])
    (reviewUnavailable "Q1_LLM_UNIVERSE_VIOLATION")
  let nav ← state.nav prices
  raiseIf (nav ≤ 0) (reviewUnavailable "Q1_LLM_NAV_INVALID")
  let weights ← currentWeights state prices
  let used ← usedNormalTurnover fills nav
  let _ ← normalizedTarget targetWeights
  return ⟨state, targetWeights, nav, weights, used⟩

def proposedTarget (current deterministic : Dict String Decimal) (multiplier : Decimal) :
    Dict String Decimal :=
  let target : RiskyWeights Decimal :=
    ⟨min (current.getD "QQQ" 0) (deterministic.getD "QQQ" 0 * multiplier),
      min (current.getD "SOXX" 0) (deterministic.getD "SOXX" 0 * multiplier)⟩
  target.withCash (1 - target.sum)

def assertReduceOnly (final current deterministic : Dict String Decimal)
    (enforceDeterministicCap : Bool) : Except Failure Unit := do
  raiseIf (∃ symbol ∈ riskySymbols, final.getD symbol 0 < 0 ∨
      current.getD symbol 0 < final.getD symbol 0 ∨
      (enforceDeterministicCap = true ∧ deterministic.getD symbol 0 < final.getD symbol 0))
    (q1LlmReviewError "Q1 LLM overlay attempted to increase risk")
  raiseIf (final.values.sum ≠ 1) (q1LlmReviewError "Q1 LLM target weights must sum to one")

/-- The arguments of `apply_turnover_control`. -/
def turnoverRequest (prepared : PreparedReview) (deterministic : Dict String Decimal)
    (policy : Q1LlmOverlayDecision) : TurnoverRequest where
  currentWeights := prepared.currentWeights
  proposedTargetWeights := proposedTarget prepared.currentWeights deterministic
    (Q1Overlay.decimalOf policy.riskMultiplier)
  currentNavUsd := prepared.currentNavUsd
  usedNormalTurnover := prepared.usedNormalTurnover
  emergencyReduction := false

def executableTarget (config : Q1MathConfig Decimal) (hash : Hashing) (prepared : PreparedReview)
    (deterministic : Dict String Decimal) (policy : Option Q1LlmOverlayDecision)
    (overlayState : Q1OverlayState) : Except Failure (Dict String Decimal) :=
  if overlayState = .expiredAwaitingNextRebalance then .ok prepared.currentWeights
  else
    match policy with
    | none => .error (q1LlmReviewError "Active overlay requires a policy")
    | some policy => do
      let turnover ← Quant.applyTurnoverControl config hash
        (turnoverRequest prepared deterministic policy)
      return turnover.executableTargetWeights.foldl (fun target item => target.set item.1 item.2)
        .empty

def reviewTarget (config : Q1MathConfig Decimal) (hash : Hashing) (prepared : PreparedReview)
    (policy : Option Q1LlmOverlayDecision) (overlayState : Q1OverlayState) :
    Except Failure (Dict String Decimal) := do
  let deterministic ← normalizedTarget prepared.targetWeights
  let final ← executableTarget config hash prepared deterministic policy overlayState
  assertReduceOnly final prepared.currentWeights deterministic (overlayState = .active)
  return final

structure SellRequest where
  positions : Dict String Decimal
  finalTarget : Dict String Decimal
  navUsd : Decimal
  quotes : Dict String Q1Cycle.DecisionQuote
  orders : List OrderDescriptor
  events : List OrderEvent
  now : Instant
  quantityIncrement : Quantum
  minimumNotional : Decimal

def pendingSellQuantities (now : Instant) (pending : List OrderAggregate) (symbol : String) :
    Decimal :=
  ((pending.filter fun item => item.order.side = .sell ∧ item.order.symbol = symbol ∧
    now < item.order.validUntil).map (·.remainingQuantity)).sum

def quoteOf (quotes : Dict String Q1Cycle.DecisionQuote) (symbol : String) :
    Except Failure Q1Cycle.DecisionQuote :=
  match quotes.get? symbol with
  | some quote => .ok quote
  | none => .error ⟨.keyError, symbol, []⟩

def residualReduction (request : SellRequest) (pending : List OrderAggregate) (symbol : String)
    (quote : Q1Cycle.DecisionQuote) : Decimal :=
  let current := request.positions.getD symbol 0
  let desiredTarget := min current
    (request.finalTarget.getD symbol 0 * request.navUsd / quote.midpoint)
  let desiredReduction := max 0 (current - desiredTarget)
  let residual := quantizeDown
    (max 0 (desiredReduction - pendingSellQuantities request.now pending symbol))
    request.quantityIncrement
  if 0 < residual ∧ residual * quote.val.bid < request.minimumNotional then 0 else residual

def executableTargetQuantities (request : SellRequest) :
    Except Failure (Dict String Decimal) := do
  let pending ← pendingOrders request.orders request.events (some request.now)
  riskySymbols.foldlM (fun (executable : Dict String Decimal) symbol => do
    let quote ← quoteOf request.quotes symbol
    return executable.set symbol (request.positions.getD symbol 0 -
      residualReduction request pending symbol quote)) .empty

def reviewSells (hash : Hashing) (context : Q1Cycle.PlanContext)
    (planning : Q1Cycle.OrderPlanningConfig) (config : Q1MathConfig Decimal)
    (prepared : PreparedReview) (finalTarget : Dict String Decimal) (orders : List OrderDescriptor)
    (events : List OrderEvent) (now : Instant) : Except Failure Q1Cycle.PlannedOrders := do
  let targets ← executableTargetQuantities {
    positions := prepared.state.val.positions
    finalTarget
    navUsd := prepared.currentNavUsd
    quotes := context.quotes
    orders
    events
    now
    quantityIncrement := planning.val.quantityIncrement
    minimumNotional := Quant.minimumNotional config prepared.currentNavUsd }
  Q1Cycle.planTargetQuantitySellOrders hash context planning prepared.state.val.positions targets
    .llmReduction

end AdaptiveQuant.Q1LlmReview
