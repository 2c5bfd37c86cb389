import AdaptiveQuant.Lib.Run
import AdaptiveQuant.Persistence.ArmLedger

/-! What the cycles write about the Q1 arms. -/

namespace AdaptiveQuant.Settlement

open Guard Sequence

def q1ExecutionCycleError (message : String) : Failure := ⟨.q1ExecutionCycleError, message, []⟩

def q1CycleError (message : String) : Failure := ⟨.q1CycleError, message, []⟩

/-- The tables of the arms. -/
structure ArmStore where
  snapshots : List ArmStateSnapshotRow
  fills : List Q1Fill
  cashEvents : List CashSettlementEvent
  orders : OrderStore

abbrev EntryContext.now (ctx : EntryContext) : Instant := ctx.createdAt

def EntryContext.arm (ctx : EntryContext) (armId : Q1ArmId) : ArmKey :=
  ⟨ctx.provenance.val.runId, armId⟩

structure OpenArgs where
  armId : Q1ArmId
  initialNavUsd : Decimal
  settledCashUsd : Decimal
  positions : Dict String Decimal
  evaluationAnchorId : Option String
  ctx : EntryContext
  databaseClock : Option Instant

def OpenArgs.state (args : OpenArgs) : Except Failure Q1ArmState :=
  Guard.validate Q1ArmStateFields.check
    { armId := args.armId
      initialNavUsd := args.initialNavUsd
      settledCashUsd := args.settledCashUsd
      unsettledReceivables := []
      positions := args.positions
      sequence := 0
      evaluationAnchorId := args.evaluationAnchorId }

variable (hash : Hashing) (args : FillArgs)

def openArm (s : ArmStore) (args : OpenArgs) : Except Failure ArmStore := do
  let state ← args.state
  let cycleId := args.ctx.provenance.val.sourceCycleId
  let snapshots ← appendArmState hash s.snapshots args.ctx.provenance.val.runId state cycleId
    args.ctx.now none
  let event ← recordOpeningSettledCash hash args.ctx args.armId args.settledCashUsd args.ctx.now
  let cashEvents ← appendCashEvent s.orders.cycles args.databaseClock s.cashEvents event
  return { s with snapshots := snapshots, cashEvents := cashEvents }

structure FillArgs where
  order : OrderDescriptor
  armId : Q1ArmId
  quoteId : String
  quantity : Decimal
  price : Decimal
  commissionUsd : Decimal
  quantity_pos : 0 < quantity
  price_pos : 0 < price
  commission_nonneg : 0 ≤ commissionUsd
  fillHash : String
  ctx : EntryContext
  calendar : BusinessCalendar
  sessionDate : CivilDate
  orderProvenance : OrderEventProvenance
  databaseClock : Option Instant

def q1BaseExecutionScenario : String := "Q1_BASE_V1"

def FillArgs.q1Fill : Q1Fill where
  fillId := hash.stableId "q1-fill" [.str args.order.orderIntentId, .str args.quoteId,
    .str q1BaseExecutionScenario]
  orderIntentId := args.order.orderIntentId
  armId := args.armId
  symbol := args.order.symbol
  side := args.order.side
  quantity := args.quantity
  price := args.price
  commissionUsd := args.commissionUsd
  effectiveAt := args.ctx.now
  createdAt := args.ctx.now
  quantity_pos := args.quantity_pos
  price_pos := args.price_pos
  commission_nonneg := args.commission_nonneg
  runId := args.ctx.provenance.val.runId
  quoteId := args.quoteId
  executionScenarioId := q1BaseExecutionScenario
  fillHash := args.fillHash

def FillArgs.fillCash : FillCash where
  armId := args.armId
  fillId := (args.q1Fill hash).fillId
  tradeAt := args.ctx.now
  fillNotionalUsd := args.quantity * args.price
  commissionUsd := args.commissionUsd

def FillArgs.settlementEvent :
    Except Failure CashSettlementEvent :=
  match args.order.side with
  | .buy => recordBuyCashDebit hash args.ctx (args.fillCash hash)
  | .sell => recordSellReceivable hash args.ctx args.calendar args.sessionDate (args.fillCash hash)

def FillArgs.receivable (hash : Hashing) (args : FillArgs) (event : CashSettlementEvent) :
    Except Failure (Option UnsettledReceivable) :=
  match args.order.side with
  | .buy => .ok none
  | .sell =>
    match event.val.receivableId, event.val.settlementDate with
    | some receivableId, some settlementDate =>
      some <$> Guard.validate UnsettledReceivableFields.check
        { receivableId := receivableId
          sourceFillId := (args.q1Fill hash).fillId
          amountUsd := event.val.unsettledReceivableDeltaUsd
          settlementDate := settlementDate
          createdAt := args.ctx.now }
    | none, _ => .error (q1ExecutionCycleError "SELL settlement has no receivable ID")
    | _, none => .error (q1ExecutionCycleError "SELL settlement has no settlement date")

def FillArgs.orderEvent (book : List OrderEvent) :
    Except Failure OrderEvent := do
  let aggregate ← reduceOrderEvents args.order book
  appendOrderEvent hash args.order book
    { eventType := if args.quantity = aggregate.remainingQuantity then .filled else .partiallyFilled
      occurredAt := args.ctx.now
      availableAt := args.ctx.now
      provenance := args.orderProvenance
      quantityDelta := args.quantity
      commissionDeltaUsd := args.commissionUsd
      sourceId := some (args.q1Fill hash).fillId
      quoteId := some args.quoteId
      sourceCycleId := some args.ctx.provenance.val.sourceCycleId }

def FillArgs.inBook (orders : OrderStore) : Bool :=
  (orders.intents.find? fun row => row.orderIntentId = args.order.orderIntentId).any fun row =>
    row.runId = args.ctx.provenance.val.runId ∧ row.armId = args.armId.value

def requireArmState (s : ArmStore) (key : ArmKey) : Except Failure Q1ArmState :=
  match latestArmState s.snapshots key with
  | some state => .ok state
  | none => .error (q1ExecutionCycleError "Arm state changed during execution preparation")

/-- One filled mutation of an execution cycle, prepared from the state that it replaces. -/
def commitFill (s : ArmStore) (args : FillArgs) : Except Failure ArmStore := do
  raiseIf (¬args.inBook s.orders)
    (q1ExecutionCycleError "Order state changed during execution preparation")
  let state ← requireArmState s (args.ctx.arm args.armId)
  let fill := args.q1Fill hash
  raiseIf (fill.side = .buy ∧ state.val.settledCashUsd < fill.notional + fill.commissionUsd)
    (q1ExecutionCycleError "Settled-cash affordability guard failed")
  let settlementEvent ← args.settlementEvent hash
  let receivable ← args.receivable hash settlementEvent
  let stateAfter ← state.applyFill fill.toFill receivable
  let orderEvent ← args.orderEvent hash (s.orders.orderEvents.map (·.event))
  let fills ← appendFill s.fills fill
  let cashEvents ← appendCashEvent s.orders.cycles args.databaseClock s.cashEvents settlementEvent
  let snapshots ← appendArmState hash s.snapshots fill.runId stateAfter
    args.ctx.provenance.val.sourceCycleId args.ctx.now (some state.val.sequence)
  let (orders, _) ← OrderEventRepository.append s.orders args.databaseClock orderEvent
  return ⟨snapshots, fills, cashEvents, orders⟩

structure SettleArmArgs where
  armId : Q1ArmId
  sessionDate : CivilDate
  openAt : Instant
  ctx : EntryContext
  calendar : BusinessCalendar
  databaseClock : Option Instant

def SettleArmArgs.events (args : SettleArmArgs) (s : ArmStore) : List CashSettlementEvent :=
  sortedBy (fun e => toLex (e.val.effectiveAt, e.val.cashSettlementEventId))
    (s.cashEvents.filter fun e => e.val.key = args.ctx.arm args.armId ∧
      e.val.createdAt ≤ args.ctx.now)

/-- The body of the loop over the due settlements: the tables, and `current`. -/
def settleOne (args : SettleArmArgs) (acc : ArmStore × Q1ArmState)
    (event : CashSettlementEvent) : Except Failure (ArmStore × Q1ArmState) := do
  let (s, current) := acc
  let cashEvents ← appendCashEvent s.orders.cycles args.databaseClock s.cashEvents event
  match event.val.receivableId with
  | none => .error (q1CycleError "Settlement event has no receivable ID")
  | some receivableId => do
    let next ← current.settle receivableId
    let snapshots ← appendArmState hash s.snapshots args.ctx.provenance.val.runId next
      args.ctx.provenance.val.sourceCycleId args.ctx.now (some current.val.sequence)
    return ({ s with cashEvents := cashEvents, snapshots := snapshots }, next)

/-- The body of the loop of `_process_settlement` over the arms. -/
def settleArm (s : ArmStore) (args : SettleArmArgs) : Except Failure ArmStore :=
  match latestArmState s.snapshots (args.ctx.arm args.armId) with
  | none => .ok s
  | some state => do
    let due ← settleDueReceivables hash (args.events s)
      { throughSession := args.sessionDate
        effectiveAt := max args.ctx.now args.openAt
        ctx := args.ctx
        calendar := args.calendar }
    let (s, _) ← due.foldlM (settleOne hash args) (s, state)
    return s

def fillEventRows (orders : OrderStore) : List OrderEventRow :=
  orders.orderEvents.filter fun row => row.event.eventType.isFill

/-- One cycle of an arm, or rows that others add. -/
inductive ArmCall
  | openArm (args : OpenArgs)
  | fill (args : FillArgs)
  | settle (args : SettleArmArgs)
  | orderEvent (order : OrderDescriptor) (request : AppendRequest) (databaseClock : Option Instant)
  | others (cycles : List PaperCycleRow) (intents : List OrderIntentRow)

/-- One write. -/
def armStep (s : ArmStore) : ArmCall → Except Failure ArmStore
  | .openArm args => openArm hash s args
  | .fill args => commitFill hash s args
  | .settle args => settleArm hash s args
  | .orderEvent order request databaseClock => do
    raiseIf request.eventType.isFill
      (q1ExecutionCycleError "Only an execution cycle records fills")
    let event ← appendOrderEvent hash order (s.orders.orderEvents.map (·.event)) request
    let (orders, _) ← OrderEventRepository.append s.orders databaseClock event
    return { s with orders := orders }
  | .others cycles intents =>
    .ok { s with orders := { s.orders with cycles := cycles, intents := intents } }

end AdaptiveQuant.Settlement
