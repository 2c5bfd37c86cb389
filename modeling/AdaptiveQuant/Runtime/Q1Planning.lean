import AdaptiveQuant.Domain.StrategyDecision
import AdaptiveQuant.Execution.OrderState
import AdaptiveQuant.Quant.Turnover
import AdaptiveQuant.Runtime.NavRisk

/-! `plan_normal_orders` and `plan_target_quantity_sell_orders` of `runtime/q1_planning.py`. -/

namespace AdaptiveQuant

def Q1OrderClass.value : Q1OrderClass → String
  | .normal => "NORMAL"
  | .emergencyReduction => "EMERGENCY_REDUCTION"
  | .llmReduction => "LLM_REDUCTION"
  | .liveMirrorTransition => "LIVE_MIRROR_TRANSITION"

namespace Q1Cycle

open Guard Sequence

def DecisionQuote.spreadBps (q : DecisionQuote) : Decimal :=
  (q.val.ask - q.val.bid) / q.midpoint * 10000

def sellOnlyClasses : List Q1OrderClass :=
  [.emergencyReduction, .llmReduction, .liveMirrorTransition]

/-- `Q1OrderIntent` of `domain/q1_runtime.py`. -/
structure Q1OrderIntentFields where
  orderIntentId : String
  runId : String
  armId : Q1ArmId
  portfolioDecisionId : String
  riskDecisionId : String
  sourceCycleId : String
  inputStateSequence : ℕ
  symbol : String
  side : OrderSide
  orderClass : Q1OrderClass
  quantity : Decimal
  decisionQuoteId : String
  decisionReferencePrice : Decimal
  decisionSpreadBps : Decimal
  createdAt : Instant
  validUntil : Instant
  idempotencyKey : String
  algorithmVersion : String
  versions : RecordVersions
  intentHash : String
deriving DecidableEq

/-- The pattern `^[A-Z][A-Z0-9.-]{0,29}$`. -/
def isOrderSymbol (symbol : String) : Bool :=
  match symbol.toList with
  | [] => false
  | first :: rest => first.isUpper && rest.length ≤ 29 &&
    rest.all fun c => c.isUpper || c.isDigit || c = '.' || c = '-'

def Q1OrderIntentFields.fieldErrors (o : Q1OrderIntentFields) : List FieldError :=
  fieldCheck "symbol" (isOrderSymbol o.symbol)
      "String should match pattern '^[A-Z][A-Z0-9.-]\x7b0,29\x7d$'" ++
    gtZeroCheck "quantity" o.quantity ++
    gtZeroCheck "decision_reference_price" o.decisionReferencePrice ++
    geCheck "decision_spread_bps" 0 o.decisionSpreadBps

def Q1OrderIntentFields.check (o : Q1OrderIntentFields) : Except Failure Unit := do
  raiseIf (o.fieldErrors ≠ []) (.validation "Q1OrderIntent" o.fieldErrors)
  raiseIf (o.validUntil ≤ o.createdAt)
    (.record "Q1OrderIntent" "Q1 order must have a positive validity window")
  raiseIf (o.orderClass ∈ sellOnlyClasses ∧ o.side ≠ .sell)
    (.record "Q1OrderIntent" s!"{o.orderClass.value} orders must be sell-only")

abbrev Q1OrderIntent := Validated Q1OrderIntentFields.check

def Q1OrderIntentFields.canonical (o : Q1OrderIntentFields) : Canonical := .dict [
  ("order_intent_id", .str o.orderIntentId),
  ("run_id", .str o.runId),
  ("arm_id", .str o.armId.value),
  ("portfolio_decision_id", .str o.portfolioDecisionId),
  ("risk_decision_id", .str o.riskDecisionId),
  ("source_cycle_id", .str o.sourceCycleId),
  ("input_state_sequence", .int o.inputStateSequence),
  ("symbol", .str o.symbol),
  ("side", .str o.side.value),
  ("order_class", .str o.orderClass.value),
  ("quantity", .decimal o.quantity),
  ("decision_quote_id", .str o.decisionQuoteId),
  ("decision_reference_price", .decimal o.decisionReferencePrice),
  ("decision_spread_bps", .decimal o.decisionSpreadBps),
  ("created_at", .instant o.createdAt),
  ("valid_until", .instant o.validUntil),
  ("idempotency_key", .str o.idempotencyKey),
  ("algorithm_version", .str o.algorithmVersion),
  ("config_manifest_hash", .str o.versions.configManifestHash),
  ("code_version", .str o.versions.codeVersion),
  ("model_version", .str o.versions.modelVersion),
  ("source_manifest_hash", .str o.versions.sourceManifestHash),
  ("intent_hash", .str o.intentHash)]

/-- `OrderPlanningConfig`. -/
structure OrderPlanningFields where
  quantityIncrement : Quantum
  commissionRate : Decimal
  commissionWaiverNotionalUsd : Decimal
  delayPenaltyBps : Decimal
  commissionPrecision : Quantum
deriving DecidableEq

/-- `OrderPlanningConfig.__post_init__`. -/
def OrderPlanningFields.check (c : OrderPlanningFields) : Except Failure Unit := do
  raiseIf (c.quantityIncrement.value ≤ 0)
    (q1PlanningError "Quantity increment must be positive")
  raiseIf (c.commissionRate < 0 ∨ c.commissionWaiverNotionalUsd < 0 ∨ c.delayPenaltyBps < 0 ∨
      c.commissionPrecision.value ≤ 0)
    (q1PlanningError "Planning cost parameters must be non-negative with positive precision")

abbrev OrderPlanningConfig := Validated OrderPlanningFields.check

structure OmittedPlan where
  symbol : String
  side : OrderSide
  reason : String
  proposedNotionalUsd : Decimal
deriving DecidableEq

def OmittedPlan.canonical (o : OmittedPlan) : Canonical := .dict [
  ("symbol", .str o.symbol),
  ("side", .str o.side.value),
  ("reason", .str o.reason),
  ("proposed_notional_usd", .decimal o.proposedNotionalUsd)]

structure PlannedOrders where
  intents : List Q1OrderIntent
  omitted : List OmittedPlan
  intentManifestHash : String
deriving DecidableEq

def omittedPlan (item : Quant.OmittedOrderDiagnostic) : OmittedPlan :=
  ⟨item.symbol, item.side, item.reason, item.proposedNotionalUsd⟩

structure PlanContext where
  decision : StrategyDecision
  quotes : Dict String DecisionQuote
  sourceCycleId : String
  inputStateSequence : ℕ

structure IntentDraft where
  symbol : String
  side : OrderSide
  orderClass : Q1OrderClass
  quantity : Decimal
  quote : DecisionQuote
  validUntil : Instant
  algorithmVersion : String
  versions : RecordVersions
  identity : List (String × Canonical) := []

section Planning

variable (hash : Hashing) (context : PlanContext)

def riskApprovalId (decision : StrategyDecision) : String :=
  hash.stableId "q1-risk-approval" [
    .str decision.val.portfolioDecisionId,
    .dict (decision.val.targetWeights.sortedItems.map fun item => (item.1, .decimal item.2))]

def intentHash (draft : IntentDraft) : String :=
  let d := context.decision.val
  hash.canonicalHash (.dict ([
    ("run_id", .str d.runId),
    ("arm_id", .str d.armId.value),
    ("portfolio_decision_id", .str d.portfolioDecisionId),
    ("source_cycle_id", .str context.sourceCycleId),
    ("symbol", .str draft.symbol),
    ("side", .str draft.side.value),
    ("quantity", .decimal draft.quantity),
    ("decision_quote_id", .str draft.quote.val.quoteId),
    ("created_at", .instant d.decisionCreatedAt),
    ("valid_until", .instant draft.validUntil)] ++ draft.identity ++ [
    ("risk_decision_id", .str (riskApprovalId hash context.decision)),
    ("decision_reference_price", .decimal draft.quote.midpoint),
    ("decision_spread_bps", .decimal draft.quote.spreadBps),
    ("input_state_sequence", .int context.inputStateSequence),
    ("config_manifest_hash", .str draft.versions.configManifestHash),
    ("code_version", .str draft.versions.codeVersion),
    ("model_version", .str draft.versions.modelVersion),
    ("source_manifest_hash", .str draft.versions.sourceManifestHash)]))

/-- `Q1OrderIntent(...)`. -/
def orderIntent (draft : IntentDraft) : Except Failure Q1OrderIntent :=
  let d := context.decision.val
  let digest := intentHash hash context draft
  validate Q1OrderIntentFields.check {
    orderIntentId := hash.stableId "q1-order-intent" [.str digest]
    runId := d.runId
    armId := d.armId
    portfolioDecisionId := d.portfolioDecisionId
    riskDecisionId := riskApprovalId hash context.decision
    sourceCycleId := context.sourceCycleId
    inputStateSequence := context.inputStateSequence
    symbol := draft.symbol
    side := draft.side
    orderClass := draft.orderClass
    quantity := draft.quantity
    decisionQuoteId := draft.quote.val.quoteId
    decisionReferencePrice := draft.quote.midpoint
    decisionSpreadBps := draft.quote.spreadBps
    createdAt := d.decisionCreatedAt
    validUntil := draft.validUntil
    idempotencyKey := hash.stableId "q1-order-intent-idem" [.str digest]
    algorithmVersion := draft.algorithmVersion
    versions := draft.versions
    intentHash := digest }

def intentManifestHash (intents : List Q1OrderIntent) (omitted : List OmittedPlan) : String :=
  hash.canonicalHash (.dict [
    ("decision_id", .str context.decision.val.portfolioDecisionId),
    ("intents", .list (intents.map (·.val.canonical))),
    ("omitted", .list (omitted.map (·.canonical)))])

/-- The remaining arguments of `plan_normal_orders`. -/
structure NormalOrderRequest where
  turnover : Quant.TurnoverResult
  positions : Dict String Decimal
  settledCashUsd : Decimal
  validUntil : Instant

variable (config : OrderPlanningConfig)

def conservativeUnitCost (quote : DecisionQuote) : Decimal :=
  quote.val.ask * (1 + config.val.delayPenaltyBps / 10000) * (1 + config.val.commissionRate)

def wantedQuantity (trade : Quant.ProposedTrade) (quote : DecisionQuote) : Decimal :=
  quantizeDown (trade.notionalUsd / quote.midpoint) config.val.quantityIncrement

def affordableQuantity (remainingSettled : Decimal) (quote : DecisionQuote) : Decimal :=
  let availableCash := max 0 (remainingSettled - config.val.commissionPrecision.value)
  quantizeDown (availableCash / conservativeUnitCost config quote) config.val.quantityIncrement

def tradeQuantity (positions : Dict String Decimal) (remainingSettled : Decimal)
    (trade : Quant.ProposedTrade) (quote : DecisionQuote) : Decimal :=
  let quantity := wantedQuantity config trade quote
  match trade.side with
  | .sell =>
    quantizeDown (min quantity (positions.getD trade.symbol 0)) config.val.quantityIncrement
  | .buy => min quantity (affordableQuantity config remainingSettled quote)

def reservedCash (quantity : Decimal) (quote : DecisionQuote) : Decimal :=
  let estimatedNotional := quantity * quote.val.ask
  let estimatedCommission :=
    if estimatedNotional ≤ config.val.commissionWaiverNotionalUsd then 0
    else estimatedNotional * config.val.commissionRate
  estimatedNotional + estimatedCommission

structure PlanState where
  remainingSettled : Decimal
  intents : List Q1OrderIntent
  omitted : List OmittedPlan
deriving DecidableEq

def planTrade (request : NormalOrderRequest) (state : PlanState) (trade : Quant.ProposedTrade) :
    Except Failure PlanState :=
  match context.quotes.get? trade.symbol with
  | none => .error (q1PlanningError s!"Missing decision quote for {trade.symbol}")
  | some quote =>
    let quantity := tradeQuantity config request.positions state.remainingSettled trade quote
    if quantity ≤ 0 then
      .ok { state with
        omitted := state.omitted ++ [⟨trade.symbol, trade.side,
          if trade.side = .buy then "INSUFFICIENT_SETTLED_CASH" else "NO_SELLABLE_QUANTITY",
          trade.notionalUsd⟩] }
    else do
      let intent ← orderIntent hash context {
        symbol := trade.symbol
        side := trade.side
        orderClass := .normal
        quantity
        quote
        validUntil := request.validUntil
        algorithmVersion := q1AlgorithmVersion
        versions := context.decision.val.inputManifest.versions }
      let reserved := if trade.side = .buy then reservedCash config quantity quote else 0
      return { state with
        remainingSettled := state.remainingSettled - reserved
        intents := state.intents ++ [intent] }

def orderedTrades (turnover : Quant.TurnoverResult) : List Quant.ProposedTrade :=
  sortedBy (fun trade => toLex (decide (trade.side ≠ .sell), trade.symbol)) turnover.proposedTrades

def planNormalOrders (request : NormalOrderRequest) : Except Failure PlannedOrders := do
  raiseIf (request.validUntil ≠ context.decision.val.validUntil)
    (q1PlanningError "Order expiry must match decision valid_until")
  raiseIf (request.settledCashUsd < 0) (q1PlanningError "Settled cash cannot be negative")
  let omitted := request.turnover.omittedOrders.map omittedPlan
  if request.turnover.decisionKind.startsWith "NO_" then do
    -- the diagnostics are dataclasses, which `canonical_data` does not take
    raiseIf (request.turnover.omittedOrders ≠ [])
      ⟨.canonicalizationError, "Unsupported canonical type: OmittedOrderDiagnostic", []⟩
    return ⟨[], omitted, intentManifestHash hash context [] []⟩
  else do
    let state ← (orderedTrades request.turnover).foldlM (planTrade hash context config request)
      ⟨request.settledCashUsd, [], omitted⟩
    return ⟨state.intents, state.omitted,
      intentManifestHash hash context state.intents state.omitted⟩

def planTargetSell (currentPositions : Dict String Decimal) (orderClass : Q1OrderClass)
    (intents : List Q1OrderIntent) (item : String × Decimal) :
    Except Failure (List Q1OrderIntent) := do
  let (symbol, target) := item
  let current := currentPositions.getD symbol 0
  raiseIf (target < 0 ∨ current < target)
    (q1PlanningError "Sell target must be within current position")
  let quantity := quantizeDown (current - target) config.val.quantityIncrement
  if quantity ≤ 0 then return intents
  else
    match context.quotes.get? symbol with
    | none => .error (q1PlanningError s!"Missing residual-target quote for {symbol}")
    | some quote => do
      let intent ← orderIntent hash context {
        symbol
        side := .sell
        orderClass
        quantity
        quote
        validUntil := context.decision.val.validUntil
        algorithmVersion := context.decision.val.algorithmVersion
        versions := context.decision.val.versions
        identity := [("target_quantity", .decimal target), ("order_class", .str orderClass.value)] }
      return intents ++ [intent]

def planTargetQuantitySellOrders (currentPositions targetQuantities : Dict String Decimal)
    (orderClass : Q1OrderClass) : Except Failure PlannedOrders := do
  raiseIf (orderClass ∉ sellOnlyClasses) (q1PlanningError "Target-quantity planner is sell-only")
  let intents ← targetQuantities.sortedItems.foldlM
    (planTargetSell hash context config currentPositions orderClass) []
  return ⟨intents, [], intentManifestHash hash context intents []⟩

end Planning

end Q1Cycle

end AdaptiveQuant
