import AdaptiveQuant.Runtime.AlpacaPlan

/-! `Q1AlpacaPaperCanaryService.sync`: the reconciliation of the store with the broker, the choice
of the orders to cancel, and the submission of planned orders. -/

namespace AdaptiveQuant

open Guard

abbrev Sync (α : Type) := Canary PaperStore α

def transact {α : Type} (f : PaperStore → Except CanaryFailure (α × PaperStore)) : Sync α :=
  act fun w => match f w.store with
    | .ok (a, store) => (.ok a, { w with store })
    | .error failure => (.error failure, w)

/-- The arguments of `_append_event` that differ from call to call. -/
structure BrokerEvent where
  command : Option PaperBrokerCommandRow := none
  eventType : BrokerEventType
  status : String
  brokerOrderId : Option String := none
  clientOrderId : Option String := none
  providerEventId : Option String := none
  symbol : Option String := none
  side : Option OrderSide := none
  quantity : Option Decimal := none
  filledQuantity : Option Decimal := none
  fillPrice : Option Decimal := none
  occurredAt : Instant
  idempotencyKey : String
  payload : Canonical

variable (service : CanaryService) (binding : PaperBrokerBindingRow) (source : CanarySource)
  (account : AlpacaPaperAccount) (runId : String) (rows : List PaperBrokerCommandRow)
  (o : Observation) (positions : List AlpacaPaperPosition) (openOrders : List AlpacaPaperOrder)
  (decision : PortfolioDecisionRow) (orders : List AlpacaPaperOrder) (now : Instant)

def BrokerEvent.row
    (event : BrokerEvent) : PaperBrokerEventRow where
  eventId := service.hash.stableId "alpaca-paper-event"
    [.str binding.bindingId, .str event.idempotencyKey]
  bindingId := binding.bindingId
  runId := binding.runId
  commandId := event.command.map (·.commandId)
  eventType := event.eventType
  status := event.status
  brokerOrderId := event.brokerOrderId
  clientOrderId := event.clientOrderId
  providerEventId := event.providerEventId
  symbol := event.symbol
  side := event.side
  quantity := event.quantity
  filledQuantity := event.filledQuantity
  fillPrice := event.fillPrice
  occurredAt := event.occurredAt
  availableAt := now
  idempotencyKey := event.idempotencyKey
  configManifestHash := service.paperManifestHash
  codeVersion := service.codeVersion
  payload := event.payload
  createdAt := now

def writeEvent
    (event : BrokerEvent) (store : PaperStore) : Except CanaryFailure PaperStore :=
  (store.appendEvent service.hash (event.row service binding now)).mapError .raised

def writeNewEvent
    (event : BrokerEvent) (store : PaperStore) : Except CanaryFailure PaperStore :=
  if store.eventExists binding.bindingId event.idempotencyKey then .ok store
  else writeEvent service binding now event store

def orderPayload (order : AlpacaPaperOrder) : Canonical :=
  .dict [("broker_order_id", .str order.brokerOrderId),
    ("client_order_id", .str order.clientOrderId), ("symbol", .str order.symbol),
    ("side", .str order.side.value), ("quantity", .decimal order.quantity),
    ("filled_quantity", .decimal order.filledQuantity),
    ("filled_average_price", .optDecimal order.filledAveragePrice),
    ("limit_price", .optDecimal order.limitPrice), ("status", .str order.status.value),
    ("submitted_at", .instant order.submittedAt), ("updated_at", .instant order.updatedAt)]

/-- The event that reports an order as the broker shows it. -/
def orderEvent
    (command : PaperBrokerCommandRow) (eventType : BrokerEventType) (tag : String)
    (order : AlpacaPaperOrder) : BrokerEvent where
  command := some command
  eventType := eventType
  status := order.status.value
  brokerOrderId := some order.brokerOrderId
  clientOrderId := some order.clientOrderId
  symbol := some order.symbol
  side := some order.side
  quantity := some order.quantity
  filledQuantity := some order.filledQuantity
  fillPrice := order.filledAveragePrice
  occurredAt := order.updatedAt
  idempotencyKey := service.hash.stableId tag
    [.str binding.bindingId, .str order.brokerOrderId, .str order.status.value,
      .decimal order.filledQuantity, .instant order.updatedAt]
  payload := orderPayload order

/-- The run checks of `_binding_and_fill_cursor`. -/
def checkRun : Option CanaryRunRow → Except CanaryFailure Unit
  | none => .error (.blocked "RUN_NOT_INITIALIZED"
      "Initialize the q1 paper run before enabling the canary")
  | some run => do
    raiseIf (run.experimentVersion ≠ q1AlgorithmVersion)
      (.blocked "ALGORITHM_VERSION_MISMATCH"
        "Alpaca Paper canary can follow only q1_math_core_v1")
    raiseIf (run.configManifestHash ≠ service.q1ManifestHash ∨
        run.codeCommit ≠ service.codeVersion)
      (.blocked "RUN_VERSION_MISMATCH" "Initialize a new Q1 run for the current config and code")

def fillCursor (store : PaperStore) (now : Instant) : Option PaperBrokerBindingRow → Instant
  | none => now
  | some binding => ((store.lastFill binding.bindingId).map (·.occurredAt)).getD binding.createdAt

def validateNewBinding :
    Except CanaryFailure Unit := do
  raiseIf (¬account.isTradingReady)
    (.blocked "ACCOUNT_NOT_READY" "The Alpaca Paper account is not active and trade-ready")
  raiseIf (service.config.val.requireCleanAccountOnFirstBind ∧
      ((∃ position ∈ positions, position.quantity ≠ 0) ∨ openOrders ≠ []))
    (.blocked "ACCOUNT_NOT_CLEAN" "First binding requires no positions and no open orders")

def bindingRow (account : AlpacaPaperAccount)
    (now : Instant) : PaperBrokerBindingRow where
  bindingId := service.hash.stableId "alpaca-paper-binding"
    [.str runId, .str (account.accountIdHash service.hash), .str service.paperManifestHash]
  runId := runId
  executionLane := "ALPACA_PAPER_CANARY"
  sourceArmId := service.config.val.sourceArm.value
  provider := "ALPACA"
  accountIdHash := account.accountIdHash service.hash
  baseUrl := "https://paper-api.alpaca.markets"
  initialEquityUsd := account.equity
  initialCashUsd := account.cash
  configManifestHash := service.paperManifestHash
  codeVersion := service.codeVersion
  payload := .dict [("schema_version", .str "alpaca-paper-binding.v1"),
    ("execution_lane", .str service.config.val.executionLane),
    ("provider", .str service.config.val.provider),
    ("source_arm", .str service.config.val.sourceArm.value),
    ("rest_base_url", .str service.config.val.restBaseUrl),
    ("dedicated_account_required", .bool service.config.val.requireDedicatedAccount),
    ("real_order_routing", .bool false), ("matched_attribution_included", .bool false)]
  createdAt := now

def validateBoundAccount : Except CanaryFailure Unit := do
  raiseIf (binding.accountIdHash ≠ account.accountIdHash service.hash)
    (.blocked "ACCOUNT_IDENTITY_CHANGED"
      "The configured Alpaca Paper credentials identify another account")
  raiseIf (binding.baseUrl ≠ service.config.val.restBaseUrl ∨
      binding.configManifestHash ≠ service.paperManifestHash ∨
      binding.codeVersion ≠ service.codeVersion)
    (.blocked "BINDING_VERSION_MISMATCH" "Start a new run after canary config or code changes")
  raiseIf (¬account.isTradingReady)
    (.blocked "ACCOUNT_NOT_READY" "The bound Alpaca Paper account is not trade-ready")

def bindAccount (account : AlpacaPaperAccount)
    (positions : List AlpacaPaperPosition) (openOrders : List AlpacaPaperOrder) (now : Instant) :
    Option PaperBrokerBindingRow → Sync PaperBrokerBindingRow
  | none => do
    Effect.ofExcept (validateNewBinding service account positions openOrders)
    transact fun store =>
      (store.createBinding service.hash (bindingRow service runId account now)).mapError .raised
  | some binding => do
    Effect.ofExcept (validateBoundAccount service binding account)
    pure binding

def commandFor (clientOrderId : String) :
    Option PaperBrokerCommandRow :=
  (rows.filter (·.clientOrderId = some clientOrderId)).getLast?

def accountEvent : BrokerEvent :=
  let payload := Canonical.dict [("currency", .str account.currency),
    ("equity_usd", .decimal account.equity), ("cash_usd", .decimal account.cash),
    ("buying_power_usd", .decimal account.buyingPower),
    ("buying_power_used_for_orders", .bool false), ("status", .str account.status),
    ("account_blocked", .bool account.accountBlocked),
    ("trading_blocked", .bool account.tradingBlocked),
    ("trade_suspended_by_user", .bool account.tradeSuspendedByUser),
    ("account_ready", .bool (decide account.isTradingReady))]
  { eventType := .accountSnapshot
    status := if account.isTradingReady then "READY" else "BLOCKED"
    occurredAt := now
    idempotencyKey := service.hash.stableId "alpaca-account-snapshot"
      [.str binding.bindingId, .instant now, .str (service.hash.canonicalHash payload)]
    payload }

def positionsEvent : BrokerEvent :=
  let payload := Canonical.dict [("positions", .list ((Sequence.sortedBy (·.symbol) positions).map
    fun item => .dict [("symbol", .str item.symbol), ("quantity", .decimal item.quantity),
      ("market_value_usd", .decimal item.marketValue),
      ("average_entry_price_usd", .decimal item.averageEntryPrice), ("side", .str item.side)]))]
  { eventType := .positionsSnapshot
    status := "RECONCILED"
    occurredAt := now
    idempotencyKey := service.hash.stableId "alpaca-positions-snapshot"
      [.str binding.bindingId, .instant now, .str (service.hash.canonicalHash payload)]
    payload }

def fillEvent
    (command : PaperBrokerCommandRow) (order : AlpacaPaperOrder)
    (fill : AlpacaPaperFillActivity) : BrokerEvent where
  command := some command
  eventType := .fillActivity
  status := "FILLED_ACTIVITY"
  brokerOrderId := some fill.brokerOrderId
  clientOrderId := some order.clientOrderId
  providerEventId := some fill.activityId
  symbol := some fill.symbol
  side := some fill.side
  quantity := some fill.quantity
  filledQuantity := some (max fill.quantity order.filledQuantity)
  fillPrice := some fill.price
  occurredAt := fill.executedAt
  idempotencyKey := service.hash.stableId "alpaca-fill-activity"
    [.str binding.bindingId, .str fill.activityId]
  payload := .dict [("activity_id", .str fill.activityId),
    ("broker_order_id", .str fill.brokerOrderId), ("symbol", .str fill.symbol),
    ("side", .str fill.side.value), ("fill_quantity", .decimal fill.quantity),
    ("cumulative_filled_quantity", .decimal (max fill.quantity order.filledQuantity)),
    ("fill_price", .decimal fill.price), ("executed_at", .instant fill.executedAt)]

def snapshotOrder (store : PaperStore)
    (order : AlpacaPaperOrder) : Except CanaryFailure PaperStore :=
  match commandFor rows order.clientOrderId with
  | none => .ok store
  | some command => writeNewEvent service binding now
      (orderEvent service binding command .orderSnapshot "alpaca-order-snapshot" order) store

def ownedByBroker
    (brokerOrderId : String) : Option (AlpacaPaperOrder × PaperBrokerCommandRow) :=
  ((orders.filterMap fun order => (commandFor rows order.clientOrderId).map (order, ·)).filter
    (·.1.brokerOrderId = brokerOrderId)).getLast?

def recordFill
    (store : PaperStore) (fill : AlpacaPaperFillActivity) : Except CanaryFailure PaperStore :=
  match ownedByBroker rows orders fill.brokerOrderId with
  | none => .ok store
  | some (order, command) =>
    writeNewEvent service binding now (fillEvent service binding command order fill) store

def writeSnapshot (fills : List AlpacaPaperFillActivity) (now : Instant)
    (store : PaperStore) : Except CanaryFailure PaperStore := do
  let rows := store.commandsOf binding.bindingId
  let store ← writeEvent service binding now (accountEvent service binding account now) store
  let store ← writeEvent service binding now (positionsEvent service binding positions now) store
  let store ← orders.foldlM (snapshotOrder service binding rows now) store
  fills.foldlM (recordFill service binding rows orders now) store

def persistReconciliationSnapshot (fills : List AlpacaPaperFillActivity) (now : Instant) :
    Sync (List PaperBrokerCommandRow) :=
  transact fun store =>
    (writeSnapshot service binding account positions orders fills now store).map fun store' =>
      (store.commandsOf binding.bindingId, store')

def signedFill (event : PaperBrokerEventRow) : Except CanaryFailure (String × Decimal) :=
  match event.symbol, event.side, event.quantity with
  | some symbol, some side, some quantity =>
    .ok (symbol, if side = .buy then quantity else -quantity)
  | _, _, _ => .error (.blocked "FILL_RECONCILIATION_INCOMPLETE"
      "An owned Paper fill is missing typed position fields")

def PaperStore.fillsOf (store : PaperStore) (bindingId : String) : List PaperBrokerEventRow :=
  store.events.filter fun event => event.bindingId = bindingId ∧ event.eventType = .fillActivity

def actualPosition (symbol : String) : Decimal :=
  ((positions.filter fun position => position.symbol = symbol ∧ position.quantity ≠ 0).getLast?.map
    (·.quantity)).getD 0

/-- `expected_positions.get(symbol, ZERO)`. -/
def expectedPosition (fills : List (String × Decimal)) (symbol : String) : Decimal :=
  ((fills.filter (·.1 = symbol)).map (·.2)).sum

def AlpacaPaperPosition.IsUnsafe (d : AlpacaPaperCanaryDocument) (item : AlpacaPaperPosition) :
    Prop :=
  item.symbol ∉ d.allowedSymbols ∨ item.side ≠ "long" ∨ item.quantity < 0 ∨
    item.quantity ≠ ⌊item.quantity⌋

instance (d : AlpacaPaperCanaryDocument) (item : AlpacaPaperPosition) :
    Decidable (item.IsUnsafe d) := inferInstanceAs (Decidable (_ ∨ _))

def ownedOpen :
    List AlpacaPaperOrder :=
  openOrders.filter fun order => (commandFor rows order.clientOrderId).isSome

def validateDedicatedAccount
    (rows : List PaperBrokerCommandRow) (store : PaperStore) : Except CanaryFailure Unit := do
  let d := service.config.val
  raiseIf (d.rejectForeignPositions ∧ ∃ item ∈ positions, item.IsUnsafe d)
    (.blocked "FOREIGN_OR_UNSAFE_POSITION"
      "Dedicated canary account contains a non-Q1 or non-long position")
  let fills ← (store.fillsOf binding.bindingId).mapM signedFill
  raiseIf (d.rejectForeignPositions ∧
      ∃ symbol ∈ (positions.map (·.symbol)) ++ fills.map (·.1),
        actualPosition positions symbol ≠ expectedPosition fills symbol)
    (.blocked "POSITION_RECONCILIATION_MISMATCH"
      "Paper positions do not reconcile to owned fill activities")
  raiseIf (d.rejectForeignOpenOrders ∧
      ∃ order ∈ openOrders, commandFor rows order.clientOrderId = none)
    (.blocked "FOREIGN_OPEN_ORDER" "Dedicated canary account contains an unknown open order")
  raiseIf (∃ order ∈ ownedOpen rows openOrders, d.maximumOpenOrdersPerSymbol <
      ((ownedOpen rows openOrders).filter (·.symbol = order.symbol)).length)
    (.blocked "TOO_MANY_OPEN_ORDERS" "Canary open-order count exceeds the configured symbol cap")

def latestDecision :
    Option PortfolioDecisionRow :=
  (Sequence.sortedBy
    (fun row : PortfolioDecisionRow => toLex (row.decisionCreatedAt, row.portfolioDecisionId))
    (source.decisions.filter fun row => row.runId = runId ∧
      row.armId = service.config.val.sourceArm.value ∧
      row.algorithmVersion = q1AlgorithmVersion)).getLast?

def latestSourceDecision :
    Except CanaryFailure (Option PortfolioDecisionRow) := do
  let decision := latestDecision service source runId
  raiseIf (decision.any fun row => row.configManifestHash ≠ service.q1ManifestHash ∨
      row.codeVersion ≠ service.codeVersion)
    (.blocked "SOURCE_DECISION_VERSION_MISMATCH"
      "The latest source decision is outside the bound Q1 version")
  pure decision

def riskStateOf (text : Option String) : RiskSeverity :=
  if text = some "SOFT_STOP" then .softStop
  else if text = some "HARD_REDUCE" then .hardReduce
  else if text = some "CRITICAL_EXIT" then .criticalExit
  else .normal

def latestSourceRiskState :
    RiskSeverity :=
  riskStateOf (((Sequence.sortedBy
    (fun row : CanaryNavRow => toLex (row.asOf, row.navSnapshotId))
    (source.navs.filter fun row => row.runId = runId ∧
      row.armId = service.config.val.sourceArm.value ∧
      row.algorithmVersion = q1AlgorithmVersion ∧
      row.configManifestHash = service.q1ManifestHash ∧
      row.codeVersion = service.codeVersion)).getLast?).bind (·.riskState))

def activeMarketSession : Prop :=
  ∃ row ∈ source.sessions, row.calendarVersion = service.calendarVersion ∧
    row.algorithmVersion = q1AlgorithmVersion ∧
    row.configManifestHash = service.q1ManifestHash ∧ row.codeVersion = service.codeVersion ∧
    row.sessionDate = service.newYorkDate now ∧ row.availableAt ≤ now ∧ row.openAt ≤ now ∧
    now < row.closeAt

instance (service : CanaryService) (source : CanarySource) (now : Instant) :
    Decidable (activeMarketSession service source now) :=
  inferInstanceAs (Decidable (∃ row ∈ source.sessions, _))

/-- What the first half of `_sync_once` finds out. -/
structure Observation where
  binding : PaperBrokerBindingRow
  account : AlpacaPaperAccount
  positions : List AlpacaPaperPosition
  openOrders : List AlpacaPaperOrder
  commands : List PaperBrokerCommandRow
  decision : Option PortfolioDecisionRow
  risk : RiskSeverity

/-- The first half of `_sync_once`, up to the choice of the orders to cancel. -/
def observe (source : CanarySource) (now : Instant) :
    Sync Observation := do
  Effect.ofExcept (checkRun service source.run)
  let existing ← Effect.reads fun w => w.store.bindingForRun runId
  let fillsAfter ← Effect.reads fun w => fillCursor w.store now existing
  let account ← getAccount
  let positions ← listPositions
  let orders ← listOrders service.config.val.orderHistoryLimit
  let openOrders := orders.filter (·.isOpen)
  let binding ← bindAccount service runId account positions openOrders now existing
  let fills ← listFillActivities fillsAfter service.config.val.fillActivityPageSize
  let commands ← persistReconciliationSnapshot service binding account positions orders fills now
  let checked ← Effect.reads fun w =>
    validateDedicatedAccount service binding positions openOrders commands w.store
  Effect.ofExcept checked
  let decision ← Effect.ofExcept (latestSourceDecision service source runId)
  pure { binding, account, positions, openOrders, commands, decision,
         risk := latestSourceRiskState service source runId }

def blocksBuys (risk : RiskSeverity) : Bool := risk ≠ .normal

def cancellationRequired : List AlpacaPaperOrder :=
  (ownedOpen o.commands o.openOrders).filter fun order =>
    match o.decision, commandFor o.commands order.clientOrderId with
    | some decision, some command =>
      command.sourceDecisionId ≠ decision.portfolioDecisionId ∨ decision.validUntil ≤ now ∨
        (blocksBuys o.risk ∧ order.side = .buy)
    | _, _ => true

def cancelRow
    (sourceDecisionId : String) (order : AlpacaPaperOrder) (reason : String) (now : Instant) :
    PaperBrokerCommandRow :=
  let key := "CANCEL:" ++ binding.bindingId ++ ":" ++ order.brokerOrderId
  { commandId := service.hash.stableId "alpaca-paper-command" [.str key]
    bindingId := binding.bindingId
    runId := binding.runId
    sourceDecisionId
    commandType := .cancel
    clientOrderId := some order.clientOrderId
    brokerOrderId := some order.brokerOrderId
    symbol := order.symbol
    side := order.side
    quantity := order.remainingQuantity
    limitPrice := order.limitPrice
    reason
    idempotencyKey := key
    configManifestHash := service.paperManifestHash
    codeVersion := service.codeVersion
    payload := .dict [("schema_version", .str "alpaca-paper-cancel.v1"),
      ("broker_order_id", .str order.brokerOrderId),
      ("client_order_id", .str order.clientOrderId),
      ("source_decision_id", .str sourceDecisionId), ("reason", .str reason),
      ("real_order_routing", .bool false)]
    createdAt := now }

def ensureCommand (row : PaperBrokerCommandRow)
    (store : PaperStore) : Except CanaryFailure (PaperBrokerCommandRow × PaperStore) :=
  match (store.commandsOfType row.bindingId row.commandType).find?
      (·.idempotencyKey = row.idempotencyKey) with
  | some existing => .ok (existing, store)
  | none => (store.appendCommand service.hash source.decisions row).mapError .raised

def cancelAcceptedEvent (command : PaperBrokerCommandRow)
    (order : AlpacaPaperOrder) (now : Instant) : BrokerEvent where
  command := some command
  eventType := .cancelRequestAccepted
  status := "pending_cancel"
  brokerOrderId := some order.brokerOrderId
  clientOrderId := some order.clientOrderId
  symbol := some order.symbol
  side := some order.side
  quantity := some order.remainingQuantity
  filledQuantity := some order.filledQuantity
  fillPrice := order.filledAveragePrice
  occurredAt := now
  idempotencyKey := service.hash.stableId "alpaca-cancel-accepted" [.str command.commandId]
  payload := .dict [("cancel_request_accepted", .bool true),
    ("terminal_cancellation_confirmed", .bool false),
    ("broker_order_id", .str order.brokerOrderId)]

def transactEvents (f : PaperStore → Except CanaryFailure PaperStore) : Sync Unit :=
  transact fun store => (f store).map fun store' => ((), store')

def requestCancel
    (order : AlpacaPaperOrder) (now : Instant) (command : PaperBrokerCommandRow) : Sync Unit := do
  let latest ← Effect.reads fun w => w.store.latestEventForCommand command.commandId
  if latest.any (·.eventType = .cancelRequestAccepted) then pure ()
  else do
    cancelOrder order.brokerOrderId
    transactEvents
      (writeNewEvent service binding now (cancelAcceptedEvent service command order now))

def cancelOne (binding : PaperBrokerBindingRow)
    (sourceDecisionId reason : String) (now : Instant) (order : AlpacaPaperOrder) : Sync Unit := do
  let command ← transact (ensureCommand service source
    (cancelRow service binding sourceDecisionId order reason now))
  requestCancel service binding order now command

def cancelOrders
    (binding : PaperBrokerBindingRow) (sourceDecisionId reason : String) (now : Instant)
    (orders : List AlpacaPaperOrder) : Sync Unit :=
  Effect.each (cancelOne service source binding sourceDecisionId reason now) orders

def cancelSource :
    Except CanaryFailure String :=
  match o.decision with
  | some decision => .ok decision.portfolioDecisionId
  | none =>
    match orders.head?.bind fun order => commandFor o.commands order.clientOrderId with
    | some command =>
      if ∃ row ∈ source.decisions, row.portfolioDecisionId = command.sourceDecisionId then
        .ok command.sourceDecisionId
      else .error (.blocked "SOURCE_DECISION_MISSING"
        "An owned broker order lost its immutable source decision")
    | none => .error (.blocked "SOURCE_DECISION_MISSING"
        "An owned broker order lost its immutable source decision")

def cancelReason (risk : RiskSeverity) : String :=
  if blocksBuys risk then "DETERMINISTIC_RISK_BLOCKED_BUY" else "SOURCE_TARGET_REPLACED_OR_EXPIRED"

def submitRow (plan : CanaryOrderPlan) (clientOrderId : String)
    (now : Instant) : PaperBrokerCommandRow :=
  let key := "SUBMIT:" ++ binding.bindingId ++ ":" ++ clientOrderId
  let d := service.config.val
  { commandId := service.hash.stableId "alpaca-paper-command" [.str key]
    bindingId := binding.bindingId
    runId := binding.runId
    sourceDecisionId := decision.portfolioDecisionId
    commandType := .submit
    clientOrderId := some clientOrderId
    brokerOrderId := none
    symbol := plan.symbol
    side := plan.side
    quantity := plan.quantity
    limitPrice := some plan.limitPrice
    reason := plan.reason
    idempotencyKey := key
    configManifestHash := service.paperManifestHash
    codeVersion := service.codeVersion
    payload := .dict [("schema_version", .str "alpaca-paper-command.v1"),
      ("execution_lane", .str d.executionLane), ("source_arm", .str d.sourceArm.value),
      ("source_decision_id", .str decision.portfolioDecisionId), ("symbol", .str plan.symbol),
      ("side", .str plan.side.value), ("quantity", .decimal plan.quantity),
      ("limit_price", .decimal plan.limitPrice), ("order_type", .str d.orderType),
      ("time_in_force", .str d.timeInForce), ("extended_hours", .bool d.extendedHours),
      ("quote_id", .str plan.quoteId), ("quote_as_of", .instant plan.quoteAsOf),
      ("reason", .str plan.reason), ("settled_cash_only", .bool true),
      ("real_order_routing", .bool false)]
    createdAt := now }

def planClientId (plan : CanaryOrderPlan) : String :=
  deterministicClientOrderId service.hash binding.runId decision.portfolioDecisionId plan.symbol
    plan.side

def planTerms (plan : CanaryOrderPlan) : AlpacaPaperOrderTerms where
  symbol := plan.symbol
  side := plan.side
  quantity := plan.quantity
  limitPrice := plan.limitPrice
  clientOrderId := planClientId service binding decision plan
  orderType := service.config.val.orderType
  timeInForce := service.config.val.timeInForce
  extendedHours := service.config.val.extendedHours

def placeOrder (plan : CanaryOrderPlan)
    (command : PaperBrokerCommandRow) : Sync Unit := do
  let request ← Effect.ofExcept ((validate AlpacaPaperOrderTerms.check
    (planTerms service binding decision plan)).mapError .raised)
  let order ← ensureSubmitted service.config.val.reconciliationLookupAttempts request
  transactEvents (writeNewEvent service binding now
    (orderEvent service binding command .submitReconciled "alpaca-submit-result" order))

def submitPlan (binding : PaperBrokerBindingRow)
    (decision : PortfolioDecisionRow) (now : Instant) (plan : CanaryOrderPlan) : Sync Unit := do
  let command ← transact (ensureCommand service source (submitRow service binding decision plan
    (planClientId service binding decision plan) now))
  placeOrder service binding decision now plan command

def submitPlans
    (binding : PaperBrokerBindingRow) (decision : PortfolioDecisionRow) (now : Instant)
    (plans : List CanaryOrderPlan) : Sync Unit :=
  Effect.each (submitPlan service source binding decision now) plans

def recordReady :
    Sync Unit :=
  transactEvents (writeEvent service binding now
    { eventType := .reconciliationReady
      status := "READY"
      occurredAt := now
      idempotencyKey := service.hash.stableId "alpaca-reconciliation-ready"
        [.str binding.bindingId, .instant now]
      payload := .dict [("real_order_routing", .bool false),
        ("matched_attribution_included", .bool false)] })

def submitPlanned : Sync Unit := do
  let plans ← Effect.ofExcept
    (planOrders service source o.account o.positions decision o.risk now)
  submitPlans service source o.binding decision now plans
  recordReady service o.binding now

def leaveSession : Sync Unit := do
  cancelOrders service source o.binding decision.portfolioDecisionId
    "OUTSIDE_ACTUAL_REGULAR_SESSION" now (ownedOpen o.commands o.openOrders)
  Effect.fail (.blocked "OUTSIDE_ACTUAL_REGULAR_SESSION"
    "No Alpaca Paper order may be created outside the calendar session")

def followDecision : Sync Unit :=
  if ¬activeMarketSession service source now then leaveSession service source o decision now
  else if decision.validUntil ≤ now then
    Effect.fail (.blocked "SOURCE_DECISION_EXPIRED" "The source decision is no longer executable")
  else if ownedOpen o.commands o.openOrders ≠ [] then recordReady service o.binding now
  else submitPlanned service source o decision now

def cancelSelected : Sync Unit := do
  let decisionId ← Effect.ofExcept (cancelSource source o orders)
  cancelOrders service source o.binding decisionId (cancelReason o.risk) now orders
  recordReady service o.binding now

/-- The second half of `_sync_once`. -/
def follow :
    Sync Unit :=
  if cancellationRequired o now ≠ [] then
    cancelSelected service source o (cancellationRequired o now) now
  else match o.decision with
    | none => recordReady service o.binding now
    | some decision => followDecision service source o decision now

def syncOnce (source : CanarySource) (now : Instant) :
    Sync Unit := do
  let o ← observe service runId source now
  follow service source o now

def blockedEvent
    (code detail : String) : BrokerEvent where
  eventType := .reconciliationBlocked
  status := code
  occurredAt := now
  idempotencyKey := service.hash.stableId "alpaca-reconciliation-blocked"
    [.str binding.bindingId, .instant now, .str code]
  payload :=
    .dict [("code", .str code), ("detail", .str detail), ("real_order_routing", .bool false)]

/-- `_record_blocked`, which hides its own failures. -/
def recordBlocked
    (code detail : String) : Sync Unit := do
  let _ ← Effect.attempt (transactEvents fun store =>
    match store.bindingForRun runId with
    | none => .ok store
    | some binding => writeEvent service binding now (blockedEvent service binding now code detail)
        store)
  pure ()

/-- What `sync` reports for the failures that it catches. -/
def stopCode : CanaryFailure → Option (String × String)
  | .blocked code detail => some (code, detail)
  | .trading error =>
    if error.retryable then some (service.config.val.unknownOutcomeState,
      "Alpaca Paper request outcome requires reconciliation")
    else some ("BROKER_REQUEST_FAILED", "Alpaca Paper request was rejected")
  | .raised failure =>
    if failure.exception = .alpacaPaperPersistenceConflict then
      some ("PERSISTENCE_IDEMPOTENCY_CONFLICT", "Immutable Alpaca Paper identity conflict")
    else none
  | .died => none

def settleSync :
    Except CanaryFailure Unit → Sync (Option (String × String))
  | .ok () => pure none
  | .error failure =>
    match stopCode service failure with
    | none => Effect.fail failure
    | some (code, detail) => do
      recordBlocked service runId now code detail
      pure (some (code, detail))

def sync (source : CanarySource) (now : Instant) :
    Sync (Option (String × String)) := do
  settleSync service runId now (← Effect.attempt (syncOnce service runId source now))

end AdaptiveQuant
