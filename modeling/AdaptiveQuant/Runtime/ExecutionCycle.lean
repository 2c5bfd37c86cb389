import AdaptiveQuant.Runtime.AffordableBuys
import AdaptiveQuant.Runtime.Q1Planning

/-! One execution cycle (`runtime/q1_execution_cycle.py`). -/

namespace AdaptiveQuant.Q1Execution

open Guard Sequence Settlement
open Q1Cycle (Q1OrderIntent)

/-- What the cycle reads of a `MarketQuoteRow`. -/
structure MarketQuote where
  quoteId : String
  eventTime : Instant
  availableAt : Instant
  bidPrice : Decimal
  bidSizeRoundLots : ℤ
  askPrice : Decimal
  askSizeRoundLots : ℤ
deriving DecidableEq

def descriptorFields (intent : Q1OrderIntent) : OrderDescriptorFields where
  orderIntentId := intent.val.orderIntentId
  armId := intent.val.armId.value
  portfolioDecisionId := intent.val.portfolioDecisionId
  symbol := intent.val.symbol
  side := intent.val.side
  quantity := intent.val.quantity
  orderClass := intent.val.orderClass
  createdAt := intent.val.createdAt
  validUntil := intent.val.validUntil

structure BookOrder where
  intent : Q1OrderIntent
  descriptor : OrderDescriptor
  same : descriptor.toOrderDescriptorFields = descriptorFields intent

/-- `Q1OrderBook`: the ids of the intents are the primary key of their table. -/
structure Q1OrderBook where
  orders : List BookOrder
  events : List OrderEvent
  unique : (orders.map (·.intent.val.orderIntentId)).Nodup

def Q1OrderBook.descriptors (book : Q1OrderBook) : List OrderDescriptor :=
  book.orders.map (·.descriptor)

/-- What the cycle reads, and what it asks the market data for. -/
structure ExecutionReads where
  book : Q1OrderBook
  states : Dict Q1ArmId Q1ArmState
  streamState : String
  quotes : List MarketQuote
  firstExecutableQuote : String → OrderSide → Instant → Option MarketQuote
  completedAdvShares : String → Option Decimal
  fills : List Q1Fill

/-- The configuration and the session of the cycle, and what it stamps its records with. -/
structure ExecutionContext where
  config : Q1ExecutionConfig
  displayedSizeUnitShares : Decimal
  maximumQuoteSkewSeconds : ℤ
  runId : String
  openAt : Instant
  closeAt : Instant
  normalStart : Instant
  sessionDate : CivilDate
  calendar : BusinessCalendar
  entry : EntryContext
  expiryProvenance : OrderEventProvenance
  provenance : OrderEventProvenance

def ExecutionContext.now (ctx : ExecutionContext) : Instant := ctx.entry.now

def ExecutionContext.cycleId (ctx : ExecutionContext) : String :=
  ctx.entry.provenance.val.sourceCycleId

def orderById (book : Q1OrderBook) (orderIntentId : String) : Except Failure BookOrder :=
  match book.orders.find? (·.intent.val.orderIntentId = orderIntentId) with
  | some order => .ok order
  | none => .error ⟨.keyError, orderIntentId, []⟩

def quoteCursor (reads : ExecutionReads) (aggregate : OrderAggregate) : Except Failure Instant :=
  let quoteIds := (reads.book.events.filter
    (·.orderIntentId = aggregate.order.orderIntentId)).filterMap (·.quoteId)
  if quoteIds = [] then .ok aggregate.order.createdAt
  else do
    let rows := reads.quotes.filter (·.quoteId ∈ quoteIds)
    raiseIf (rows.length ≠ quoteIds.dedup.length)
      (q1ExecutionCycleError "Order-event quote cursor references missing market data")
    return rows.foldl (fun cursor row => max cursor (max row.eventTime row.availableAt))
      aggregate.order.createdAt

section Reading

variable (ctx : ExecutionContext) (reads : ExecutionReads)

def sessionConsumedQuantity (armId symbol : String) : Decimal :=
  ((reads.fills.filter fun fill => fill.runId = ctx.runId ∧ fill.armId.value = armId ∧
    fill.symbol = symbol ∧ ctx.openAt ≤ fill.effectiveAt ∧ fill.effectiveAt ≤ ctx.now).map
      (·.quantity)).sum

def orderCumulativeNotional (orderIntentId : String) : Decimal :=
  ((reads.fills.filter (·.orderIntentId = orderIntentId)).map (·.notional)).sum

/-- `cap`. -/
def advCapacity (adv : Decimal) (armId symbol : String) : Decimal :=
  max 0 (adv * ctx.config.val.advParticipation - sessionConsumedQuantity ctx reads armId symbol)

structure QuoteCandidate where
  aggregate : OrderAggregate
  intent : Q1OrderIntent
  quote : MarketQuote
  remainingAdvCapacity : Decimal
  cumulativeNotionalBefore : Decimal

structure Gathered where
  candidates : List QuoteCandidate
  blockedReasons : Dict String (String × Option String)

def Gathered.block (acc : Gathered) (orderIntentId reason : String) (quoteId : Option String) :
    Gathered :=
  { acc with blockedReasons := acc.blockedReasons.set orderIntentId (reason, quoteId) }

def Gathered.add (acc : Gathered) (candidate : QuoteCandidate) : Gathered :=
  { acc with candidates := acc.candidates ++ [candidate] }

def isRegularSessionTime : Prop := ctx.openAt ≤ ctx.now ∧ ctx.now < ctx.closeAt

instance : Decidable (isRegularSessionTime ctx) := inferInstanceAs (Decidable (_ ∧ _))

/-- An order that may trade now: a candidate, when its quote and its volume are there. -/
def quoteOrder (acc : Gathered) (aggregate : OrderAggregate) (intent : Q1OrderIntent) :
    Except Failure Gathered := do
  let order := aggregate.order
  let cursor ← quoteCursor reads aggregate
  match reads.firstExecutableQuote order.symbol order.side cursor with
  | none => return acc.block order.orderIntentId "NO_FRESH_POST_INTENT_EXECUTABLE_QUOTE" none
  | some quote =>
    match reads.completedAdvShares order.symbol with
    | none =>
      return acc.block order.orderIntentId "POINT_IN_TIME_ADV_UNAVAILABLE" (some quote.quoteId)
    | some adv => return acc.add ⟨aggregate, intent, quote,
        advCapacity ctx reads adv order.armId order.symbol,
        orderCumulativeNotional reads order.orderIntentId⟩

def gatherOrder (expiredIds : List String) (acc : Gathered) (aggregate : OrderAggregate) :
    Except Failure Gathered := do
  let order := aggregate.order
  let entry ← orderById reads.book order.orderIntentId
  if order.orderIntentId ∈ expiredIds then return acc
  else if ¬isRegularSessionTime ctx then
    return acc.block order.orderIntentId "OUTSIDE_ACTUAL_REGULAR_SESSION" none
  else if order.orderClass = .normal ∧ ctx.now < ctx.normalStart then return acc
  else if reads.streamState ≠ "CONNECTED" then
    return acc.block order.orderIntentId "MARKET_STREAM_NOT_CONNECTED" none
  else quoteOrder ctx reads acc aggregate entry.intent

def quoteSkewSeconds (bundle : List QuoteCandidate) : Decimal :=
  match bundle.map (·.quote.eventTime) with
  | [] => 0
  | first :: rest => ((rest.foldl max first - rest.foldl min first : ℤ) : Decimal) / 1000000

def skewBlocked (candidates : List QuoteCandidate) (candidate : QuoteCandidate) : Bool :=
  decide (ctx.maximumQuoteSkewSeconds < quoteSkewSeconds (candidates.filter
    (·.intent.val.portfolioDecisionId = candidate.intent.val.portfolioDecisionId)))

/-- The loop over `candidates_by_decision`, and the candidates that it leaves. -/
def dropSkewed (gathered : Gathered) : Gathered where
  candidates := gathered.candidates.filter fun c => !skewBlocked ctx gathered.candidates c
  blockedReasons := (gathered.candidates.filter (skewBlocked ctx gathered.candidates)).foldl
    (fun reasons c => reasons.set c.intent.val.orderIntentId
      ("MULTI_SYMBOL_QUOTE_SKEW_EXCEEDED", some c.quote.quoteId)) gathered.blockedReasons

end Reading

structure Execution where
  fill : Q1Fill
  stateBeforeSequence : ℕ
  stateAfter : Q1ArmState
  settlementEvent : CashSettlementEvent

structure PreparedMutation where
  aggregate : OrderAggregate
  intent : Q1OrderIntent
  event : OrderEvent
  execution : Option Execution

section Preparing

variable (hash : Hashing) (ctx : ExecutionContext) (reads : ExecutionReads)

def ExecutionContext.plainEvent (eventType : OrderEventType) (reason : String)
    (quoteId : Option String) : AppendRequest where
  eventType
  occurredAt := ctx.now
  availableAt := ctx.now
  provenance := ctx.provenance
  reason := some reason
  quoteId
  sourceCycleId := some ctx.cycleId

def prepareExpiryMutations (expired : List OrderEvent) : Except Failure (List PreparedMutation) :=
  expired.mapM fun provisional => do
    let order ← orderById reads.book provisional.orderIntentId
    let event ← appendOrderEvent hash order.descriptor reads.book.events
      (ctx.plainEvent .expired "ORDER_VALIDITY_WINDOW_ENDED" none)
    let aggregate ← reduceOrderEvents order.descriptor reads.book.events
    return ⟨aggregate, order.intent, event, none⟩

def blockedOrders (pending : List OrderAggregate)
    (blockedReasons : Dict String (String × Option String)) :
    List (OrderAggregate × String × Option String) :=
  pending.filterMap fun aggregate =>
    (blockedReasons.get? aggregate.order.orderIntentId).map fun reason => (aggregate, reason)

def prepareBlockedMutations (pending : List OrderAggregate)
    (blockedReasons : Dict String (String × Option String)) :
    Except Failure (List PreparedMutation) :=
  (blockedOrders pending blockedReasons).mapM fun (aggregate, reason, quoteId) => do
    let order ← orderById reads.book aggregate.order.orderIntentId
    let event ← appendOrderEvent hash aggregate.order reads.book.events
      (ctx.plainEvent .blockedByData reason quoteId)
    return ⟨aggregate, order.intent, event, none⟩

variable (candidate : QuoteCandidate) (economics : Q1FillEconomics)

def blockedCandidate (reason : String)
    (eventType : OrderEventType := .blockedByData) : Except Failure PreparedMutation := do
  let event ← appendOrderEvent hash candidate.aggregate.order reads.book.events
    (ctx.plainEvent eventType reason (some candidate.quote.quoteId))
  return ⟨candidate.aggregate, candidate.intent, event, none⟩

def executableRemaining (state : Q1ArmState) (candidate : QuoteCandidate) :
    Except Failure Decimal :=
  let remaining := candidate.aggregate.remainingQuantity
  match candidate.intent.val.side with
  | .sell => .ok (min remaining (state.val.positions.getD candidate.intent.val.symbol 0))
  | .buy => do
    let affordable ← maximumAffordableQuantity ctx.config state.val.settledCashUsd
      candidate.quote.askPrice candidate.cumulativeNotionalBefore
      candidate.aggregate.cumulativeCommissionUsd
    return min remaining affordable

def sideQuantity : Decimal :=
  (match candidate.intent.val.side with
    | .buy => candidate.quote.askSizeRoundLots
    | .sell => candidate.quote.bidSizeRoundLots : ℤ) * ctx.displayedSizeUnitShares

/-- The arguments of `build_q1_fill_economics`. -/
def fillRequest (executable remainingAdv : Decimal) : FillRequest where
  side := candidate.intent.val.side
  remainingQuantity := executable
  bidPrice := candidate.quote.bidPrice
  askPrice := candidate.quote.askPrice
  executableSideQuantity := sideQuantity ctx candidate
  remainingAdvCapacity := remainingAdv
  decisionReferencePrice := candidate.intent.val.decisionReferencePrice
  decisionSpreadBps := candidate.intent.val.decisionSpreadBps
  cumulativeNotionalBefore := candidate.cumulativeNotionalBefore
  cumulativeCommissionBefore := candidate.aggregate.cumulativeCommissionUsd

def sensitivity (economics : Q1FillEconomics) (bps : Decimal) (text : String) :
    Except Failure Decimal :=
  match economics.sensitivityCostsUsd.find? (·.1 = bps) with
  | some entry => .ok entry.2
  | none => .error
      (q1ExecutionCycleError s!"Q1 execution sensitivity {text} bps is not configured")

def QuoteCandidate.arm : Q1ArmId := candidate.intent.val.armId

def fillId : String :=
  hash.stableId "q1-fill" [.str candidate.intent.val.orderIntentId, .str candidate.quote.quoteId,
    .str q1BaseExecutionScenario]

def fillContent
    (fiveBps tenBps : Decimal) : Canonical := .dict [
  ("fill_id", .str (fillId hash candidate)),
  ("order_intent_id", .str candidate.intent.val.orderIntentId),
  ("run_id", .str candidate.intent.val.runId),
  ("arm_id", .str candidate.intent.val.armId.value),
  ("source_cycle_id", .str ctx.cycleId),
  ("quote_id", .str candidate.quote.quoteId),
  ("quote_event_time", .instant candidate.quote.eventTime),
  ("quote_available_at", .instant candidate.quote.availableAt),
  ("symbol", .str candidate.intent.val.symbol),
  ("side", .str candidate.intent.val.side.value),
  ("quantity", .decimal economics.quantity),
  ("price", .decimal economics.price),
  ("commission_usd", .decimal economics.commissionUsd),
  ("cumulative_order_commission_usd", .decimal economics.cumulativeCommissionUsd),
  ("execution_scenario_id", .str q1BaseExecutionScenario),
  ("base_fill_cost_usd", .decimal economics.baseExecutionCostUsd),
  ("sensitivity_5bp_cost_usd", .decimal fiveBps),
  ("sensitivity_10bp_cost_usd", .decimal tenBps),
  ("effective_at", .instant ctx.now),
  ("created_at", .instant ctx.now),
  ("algorithm_version", .str "q1_math_core_v1"),
  ("config_manifest_hash", .str ctx.entry.provenance.val.configManifestHash),
  ("code_version", .str ctx.entry.provenance.val.codeVersion),
  ("model_version", .str ctx.entry.provenance.val.modelVersion),
  ("source_manifest_hash", .str ctx.entry.provenance.val.sourceManifestHash)]

def costErrors (fiveBps tenBps : Decimal) : List FieldError :=
  geCheck "cumulative_order_commission_usd" 0 economics.cumulativeCommissionUsd ++
    geCheck "base_fill_cost_usd" 0 economics.baseExecutionCostUsd ++
    geCheck "sensitivity_5bp_cost_usd" 0 fiveBps ++
    geCheck "sensitivity_10bp_cost_usd" 0 tenBps

def amountErrors : List FieldError :=
  gtZeroCheck "quantity" economics.quantity ++ gtZeroCheck "price" economics.price ++
    geCheck "commission_usd" 0 economics.commissionUsd

def q1Fill : Except Failure Q1Fill := do
  let fiveBps ← sensitivity economics 5 "5.0"
  let tenBps ← sensitivity economics 10 "10.0"
  raiseIf (costErrors economics fiveBps tenBps ≠ [])
    (.validation "Q1Fill" (amountErrors economics ++ costErrors economics fiveBps tenBps))
  if h : 0 < economics.quantity ∧ 0 < economics.price ∧ 0 ≤ economics.commissionUsd then do
    raiseIf (ctx.now < candidate.quote.availableAt)
      (.record "Q1Fill" "Fill cannot precede quote availability")
    return {
      fillId := fillId hash candidate
      orderIntentId := candidate.intent.val.orderIntentId
      armId := candidate.arm
      symbol := candidate.intent.val.symbol
      side := candidate.intent.val.side
      quantity := economics.quantity
      price := economics.price
      commissionUsd := economics.commissionUsd
      effectiveAt := ctx.now
      createdAt := ctx.now
      quantity_pos := h.1
      price_pos := h.2.1
      commission_nonneg := h.2.2
      runId := candidate.intent.val.runId
      quoteId := candidate.quote.quoteId
      executionScenarioId := q1BaseExecutionScenario
      fillHash := hash.canonicalHash (fillContent hash ctx candidate economics fiveBps tenBps) }
  else .error (.validation "Q1Fill" (amountErrors economics))

def settlementEvent (fill : Q1Fill) : Except Failure CashSettlementEvent :=
  let cash : FillCash := ⟨fill.armId, fill.fillId, ctx.now, fill.notional, fill.commissionUsd⟩
  match fill.side with
  | .buy => recordBuyCashDebit hash ctx.entry cash
  | .sell => recordSellReceivable hash ctx.entry ctx.calendar ctx.sessionDate cash

def receivableOf (fill : Q1Fill) (event : CashSettlementEvent) :
    Except Failure (Option UnsettledReceivable) :=
  match fill.side with
  | .buy => .ok none
  | .sell =>
    match event.val.receivableId, event.val.settlementDate with
    | none, _ => .error (q1ExecutionCycleError "SELL settlement has no receivable ID")
    | some _, none => .error (q1ExecutionCycleError "SELL settlement has no settlement date")
    | some receivableId, some settlementDate => some <$> Guard.validate
        UnsettledReceivableFields.check ⟨receivableId, fill.fillId,
          event.val.unsettledReceivableDeltaUsd, settlementDate, fill.createdAt⟩

def stateAfter (state : Q1ArmState) (fill : Q1Fill) (event : CashSettlementEvent) :
    Except Failure Q1ArmState := do
  let receivable ← receivableOf fill event
  state.applyFill fill.toFill receivable

def executeCandidate (state : Q1ArmState)
    (economics : Q1FillEconomics) : Except Failure Execution := do
  raiseIf (candidate.intent.val.side = .buy ∧ state.val.settledCashUsd <
      economics.quantity * economics.price + economics.commissionUsd)
    (q1ExecutionCycleError "Settled-cash affordability guard failed")
  let fill ← q1Fill hash ctx candidate economics
  let event ← settlementEvent hash ctx fill
  let after ← stateAfter state fill event
  return ⟨fill, state.val.sequence, after, event⟩

def fillEvent (fill : Q1Fill) : AppendRequest where
  eventType :=
    if fill.quantity = candidate.aggregate.remainingQuantity then .filled else .partiallyFilled
  occurredAt := ctx.now
  availableAt := ctx.now
  provenance := ctx.provenance
  quantityDelta := fill.quantity
  commissionDeltaUsd := fill.commissionUsd
  sourceId := some fill.fillId
  quoteId := some candidate.quote.quoteId
  sourceCycleId := some ctx.cycleId

structure FillLoop where
  workingStates : Dict Q1ArmId Q1ArmState
  remainingCap : Dict (Q1ArmId × String) Decimal
  result : List PreparedMutation

def FillLoop.add (acc : FillLoop) (mutation : PreparedMutation) : FillLoop :=
  { acc with result := acc.result ++ [mutation] }

def fillWith (acc : FillLoop) (candidate : QuoteCandidate) (state : Q1ArmState)
    (remainingAdv : Decimal) (economics : Q1FillEconomics) : Except Failure FillLoop := do
  let execution ← executeCandidate hash ctx candidate state economics
  let event ← appendOrderEvent hash candidate.aggregate.order reads.book.events
    (fillEvent ctx candidate execution.fill)
  return {
    workingStates := acc.workingStates.set candidate.arm execution.stateAfter
    remainingCap := acc.remainingCap.set (candidate.arm, candidate.intent.val.symbol)
      (remainingAdv - economics.quantity)
    result := acc.result ++ [⟨candidate.aggregate, candidate.intent, event, some execution⟩] }

def blockWith (acc : FillLoop) (candidate : QuoteCandidate) (reason : String)
    (eventType : OrderEventType := .blockedByData) : Except Failure FillLoop := do
  let mutation ← blockedCandidate hash ctx reads candidate reason eventType
  return acc.add mutation

def priceCandidate (acc : FillLoop) (candidate : QuoteCandidate) (state : Q1ArmState)
    (executable remainingAdv : Decimal) : Except Failure FillLoop :=
  match buildQ1FillEconomics ctx.config (fillRequest ctx candidate executable remainingAdv) with
  | .ok economics => fillWith hash ctx reads acc candidate state remainingAdv economics
  | .error failure =>
    match failure.exception with
    | .q1PriceGuardViolation => blockWith hash ctx reads acc candidate
        "DYNAMIC_DECISION_PRICE_GUARD" .blockedByPriceGuard
    | .valueError => blockWith hash ctx reads acc candidate "INVALID_EXECUTION_CAPACITY_OR_QUOTE"
    | _ => .error failure

/-- The body of the loop of `_prepare_fill_mutations`. -/
def fillCandidate (acc : FillLoop) (candidate : QuoteCandidate) : Except Failure FillLoop :=
  match acc.workingStates.get? candidate.arm with
  | none => blockWith hash ctx reads acc candidate "ARM_STATE_UNAVAILABLE"
  | some state => do
    let key := (candidate.arm, candidate.intent.val.symbol)
    let remainingAdv := acc.remainingCap.getD key candidate.remainingAdvCapacity
    let acc := { acc with remainingCap := acc.remainingCap.set key remainingAdv }
    let executable ← executableRemaining ctx state candidate
    if executable ≤ 0 ∨ remainingAdv ≤ 0 then
      blockWith hash ctx reads acc candidate "EXECUTION_CAPACITY_UNAVAILABLE"
    else priceCandidate hash ctx reads acc candidate state executable remainingAdv

def orderedCandidates (candidates : List QuoteCandidate) : List QuoteCandidate :=
  sortedBy (fun c => toLex (decide (c.intent.val.side ≠ .sell), toLex (c.intent.val.armId.value,
    toLex (c.intent.val.symbol, c.intent.val.orderIntentId)))) candidates

def prepareFillMutations (candidates : List QuoteCandidate) :
    Except Failure (List PreparedMutation) := do
  let last ← (orderedCandidates candidates).foldlM (fillCandidate hash ctx reads)
    ⟨reads.states, .empty, []⟩
  return last.result

def prepareMutations : Except Failure (List PreparedMutation) := do
  let pending ← pendingOrders reads.book.descriptors reads.book.events (some ctx.now)
  let expired ← expireOrders hash reads.book.descriptors reads.book.events ctx.now
    ctx.expiryProvenance ctx.cycleId (ctx.closeAt ≤ ctx.now)
  let gathered ← pending.foldlM (gatherOrder ctx reads (expired.map (·.orderIntentId)))
    ⟨[], .empty⟩
  let kept := dropSkewed ctx gathered
  let expiries ← prepareExpiryMutations hash ctx reads expired
  let blocked ← prepareBlockedMutations hash ctx reads pending kept.blockedReasons
  let fills ← prepareFillMutations hash ctx reads kept.candidates
  return expiries ++ blocked ++ fills

end Preparing

end AdaptiveQuant.Q1Execution
