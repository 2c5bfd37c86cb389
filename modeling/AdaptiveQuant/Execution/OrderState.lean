import AdaptiveQuant.Domain.OrderEvent
import AdaptiveQuant.Lib.Sequence
import Mathlib.Data.String.Basic
import Mathlib.Data.Prod.Lex

/-! The order state machine of `execution/order_state.py`: the event stream of an order, its
aggregate, and the book operations built on them. -/

namespace AdaptiveQuant

open Guard Sequence

def orderStateError (message : String) : Failure := ⟨.orderStateError, message, []⟩

inductive Q1OrderClass
  | normal
  | emergencyReduction
  | llmReduction
  | liveMirrorTransition
deriving DecidableEq

structure OrderDescriptorFields where
  orderIntentId : String
  armId : String
  portfolioDecisionId : String
  symbol : String
  side : OrderSide
  quantity : Decimal
  orderClass : Q1OrderClass
  createdAt : Instant
  validUntil : Instant
deriving DecidableEq

/-- `OrderDescriptor.__post_init__`. -/
def OrderDescriptorFields.validate (o : OrderDescriptorFields) : Except Failure Unit := do
  raiseIf (o.orderIntentId = "" ∨ o.armId = "" ∨ o.portfolioDecisionId = "" ∨ o.symbol = "")
    (orderStateError "Order descriptor identifiers are required")
  raiseIf (o.quantity ≤ 0) (orderStateError "Order quantity must be positive")
  raiseIf (o.validUntil ≤ o.createdAt) (orderStateError "Order valid_until must follow created_at")

/-- `OrderDescriptor`: fields that passed `__post_init__`. -/
structure OrderDescriptor extends OrderDescriptorFields where
  valid : toOrderDescriptorFields.validate = .ok ()

variable (order : OrderDescriptor)

theorem OrderDescriptor.quantity_pos : 0 < order.quantity := by
  have h := order.valid
  simp only [OrderDescriptorFields.validate, bind_eq_ok, raiseIf_eq_ok, not_le] at h
  obtain ⟨-, -, -, hpos, -⟩ := h
  exact hpos

structure OrderEventProvenanceFields where
  configManifestHash : String
  codeVersion : String
  modelVersion : String
  sourceManifestHash : String
  workerFenceToken : String
  cycleAttemptCount : ℕ
deriving DecidableEq

/-- `OrderEventProvenance.__post_init__`. -/
def OrderEventProvenanceFields.validate (p : OrderEventProvenanceFields) : Except Failure Unit := do
  raiseIf (p.configManifestHash = "" ∨ p.codeVersion = "" ∨ p.modelVersion = "" ∨
      p.sourceManifestHash = "" ∨ p.workerFenceToken = "")
    (orderStateError "Complete order-event provenance is required")
  raiseIf (p.cycleAttemptCount = 0) (orderStateError "Cycle attempt count must be positive")

structure OrderEventProvenance extends OrderEventProvenanceFields where
  valid : toOrderEventProvenanceFields.validate = .ok ()

/-- What the events of one order come to. -/
structure OrderAggregate where
  order : OrderDescriptor
  status : OrderEventType
  remainingQuantity : Decimal
  cumulativeFilledQuantity : Decimal
  cumulativeCommissionUsd : Decimal
  latestEventSequence : ℕ
  latestEventId : String

def OrderAggregate.isTerminal (a : OrderAggregate) : Bool := isTerminalOrderEvent a.status

def OrderAggregate.isPending (a : OrderAggregate) : Bool :=
  !a.isTerminal && decide (0 < a.remainingQuantity)

/-- The loop variables of `reduce_order_events`. -/
structure Replay where
  remaining : Decimal
  cumulativeFill : Decimal
  cumulativeCommission : Decimal
  previousStatus : Option OrderEventType
deriving DecidableEq

def Replay.start : Replay := ⟨order.quantity, 0, 0, none⟩

def replayDeltas (acc : Replay) (event : OrderEvent) : Except Failure Replay :=
  if event.eventType = .created then do
    raiseIf (acc.previousStatus ≠ none) (orderStateError "CREATED may occur only once")
    raiseIf (event.quantityDelta ≠ 0 ∨ event.commissionDeltaUsd ≠ 0)
      (orderStateError "CREATED cannot carry fill or commission deltas")
    return acc
  else if event.eventType.isFill then do
    raiseIf (event.quantityDelta ≤ 0) (orderStateError "Fill event quantity_delta must be positive")
    raiseIf (acc.remaining < event.quantityDelta)
      (orderStateError "Fill event exceeds remaining quantity")
    let acc := { acc with
      cumulativeFill := acc.cumulativeFill + event.quantityDelta
      remaining := acc.remaining - event.quantityDelta
      cumulativeCommission := acc.cumulativeCommission + event.commissionDeltaUsd }
    raiseIf (event.eventType = .partiallyFilled ∧ acc.remaining ≤ 0)
      (orderStateError "PARTIALLY_FILLED must leave positive quantity")
    raiseIf (event.eventType = .filled ∧ acc.remaining ≠ 0)
      (orderStateError "FILLED must consume exact remaining quantity")
    return acc
  else do
    raiseIf (event.quantityDelta ≠ 0 ∨ event.commissionDeltaUsd ≠ 0)
      (orderStateError "Non-fill order events cannot carry fill deltas")
    return acc

/-- The loop body of `reduce_order_events`. -/
def replayEvent (acc : Replay) (event : OrderEvent) :
    Except Failure Replay := do
  raiseIf (event.occurredAt < order.createdAt)
    (orderStateError "Order event cannot predate its intent")
  raiseIf (acc.previousStatus.any isTerminalOrderEvent)
    (orderStateError "No order event may follow a terminal event")
  let acc ← replayDeltas acc event
  raiseIf (event.remainingQuantity ≠ acc.remaining)
    (orderStateError "Order event remaining_quantity snapshot is inconsistent")
  raiseIf (event.cumulativeFilledQuantity ≠ acc.cumulativeFill)
    (orderStateError "Order cumulative fill snapshot is inconsistent")
  raiseIf (event.cumulativeCommissionUsd ≠ acc.cumulativeCommission)
    (orderStateError "Order cumulative commission snapshot is inconsistent")
  return { acc with previousStatus := some event.eventType }

def validateEventIdentity (events : List OrderEvent) : Except Failure Unit := do
  raiseIf (¬(events.map (·.eventId)).Nodup) (orderStateError "Duplicate order event ID")
  raiseIf (¬(events.map (·.idempotencyKey)).Nodup)
    (orderStateError "Duplicate order event idempotency key")

def OrderDescriptor.owns (event : OrderEvent) : Bool :=
  event.orderIntentId = order.orderIntentId

def OrderDescriptor.reads (asOf : Option Instant) (event : OrderEvent) :
    Bool := order.owns event && asOf.all (decide <| event.availableAt ≤ ·)

def reduceMaterialized (materialized : List OrderEvent) :
    Except Failure OrderAggregate := do
  validateEventIdentity materialized
  match sortedBy (·.eventSequence) materialized with
  | [] => .error (orderStateError s!"Order {order.orderIntentId} has no CREATED event")
  | first :: rest => do
    raiseIf (first.eventType ≠ .created) (orderStateError "First order event must be CREATED")
    raiseIf (first.eventSequence ≠ 1) (orderStateError "Order event sequence must start at one")
    raiseIf (¬Numbered (·.eventSequence) (first :: rest))
      (orderStateError "Order event sequence must be contiguous")
    let replay ← (first :: rest).foldlM (replayEvent order) (.start order)
    let latest := rest.getLastD first
    return {
      order := order
      status := latest.eventType
      remainingQuantity := replay.remaining
      cumulativeFilledQuantity := replay.cumulativeFill
      cumulativeCommissionUsd := replay.cumulativeCommission
      latestEventSequence := latest.eventSequence
      latestEventId := latest.eventId }

def reduceOrderEvents (events : List OrderEvent)
    (asOf : Option Instant := none) : Except Failure OrderAggregate :=
  reduceMaterialized order (events.filter (order.reads asOf))

structure AppendRequest where
  eventType : OrderEventType
  occurredAt : Instant
  availableAt : Instant
  provenance : OrderEventProvenance
  quantityDelta : Decimal := 0
  commissionDeltaUsd : Decimal := 0
  reason : Option String := none
  sourceId : Option String := none
  quoteId : Option String := none
  sourceCycleId : Option String := none

structure NextAmounts where
  sequence : ℕ
  remaining : Decimal
  cumulativeFill : Decimal
  cumulativeCommission : Decimal

def nextAmounts (relevant : List OrderEvent) (request : AppendRequest) :
    Except Failure NextAmounts :=
  if request.eventType = .created then do
    raiseIf (relevant ≠ []) (orderStateError "CREATED event already exists")
    raiseIf (request.quantityDelta ≠ 0 ∨ request.commissionDeltaUsd ≠ 0)
      (orderStateError "CREATED cannot carry fill deltas")
    return ⟨1, order.quantity, 0, 0⟩
  else do
    let aggregate ← reduceOrderEvents order relevant
    raiseIf aggregate.isTerminal (orderStateError "Cannot append after terminal order event")
    let next : NextAmounts := ⟨aggregate.latestEventSequence + 1, aggregate.remainingQuantity,
      aggregate.cumulativeFilledQuantity, aggregate.cumulativeCommissionUsd⟩
    if request.eventType.isFill then do
      raiseIf (request.quantityDelta ≤ 0 ∨ next.remaining < request.quantityDelta)
        (orderStateError "Fill delta must be within remaining quantity")
      let next := { next with
        remaining := next.remaining - request.quantityDelta
        cumulativeFill := next.cumulativeFill + request.quantityDelta
        cumulativeCommission := next.cumulativeCommission + request.commissionDeltaUsd }
      raiseIf (request.eventType = .partiallyFilled ∧ next.remaining ≤ 0)
        (orderStateError "PARTIALLY_FILLED must leave a residual")
      raiseIf (request.eventType = .filled ∧ next.remaining ≠ 0)
        (orderStateError "FILLED must consume the exact residual")
      return next
    else do
      raiseIf (request.quantityDelta ≠ 0 ∨ request.commissionDeltaUsd ≠ 0)
        (orderStateError "Non-fill event cannot carry fill deltas")
      return next

section Appending

variable (hash : Hashing)

def orderEventIdentity (order : OrderDescriptor) (request : AppendRequest) (next : NextAmounts) :
    List (String × Canonical) := [
  ("order_intent_id", .str order.orderIntentId),
  ("event_type", .str request.eventType.value),
  ("event_sequence", .int next.sequence),
  ("quantity_delta", .decimal request.quantityDelta),
  ("commission_delta_usd", .decimal request.commissionDeltaUsd),
  ("remaining_quantity", .decimal next.remaining),
  ("occurred_at", .instant request.occurredAt),
  ("source_id", .optStr request.sourceId),
  ("quote_id", .optStr request.quoteId),
  ("source_cycle_id", .optStr request.sourceCycleId)]

def orderEventFields (order : OrderDescriptor) (request : AppendRequest) (next : NextAmounts) :
    OrderEventFields :=
  let provenance := request.provenance
  let identity := orderEventIdentity order request next
  let eventId := hash.stableId "q1-order-event" [.dict identity]
  { configManifestHash := provenance.configManifestHash
    codeVersion := provenance.codeVersion
    modelVersion := provenance.modelVersion
    sourceManifestHash := provenance.sourceManifestHash
    eventId := eventId
    orderIntentId := order.orderIntentId
    eventType := request.eventType
    eventSequence := next.sequence
    quantityDelta := request.quantityDelta
    commissionDeltaUsd := request.commissionDeltaUsd
    remainingQuantity := next.remaining
    cumulativeFilledQuantity := next.cumulativeFill
    cumulativeCommissionUsd := next.cumulativeCommission
    occurredAt := request.occurredAt
    availableAt := request.availableAt
    idempotencyKey := hash.stableId "q1-order-event-idem" [.str eventId]
    reason := request.reason
    sourceId := request.sourceId
    quoteId := request.quoteId
    sourceCycleId := request.sourceCycleId
    workerFenceToken := provenance.workerFenceToken
    cycleAttemptCount := provenance.cycleAttemptCount
    eventHash := hash.canonicalHash (.dict (identity ++ [
      ("cumulative_filled_quantity", .decimal next.cumulativeFill),
      ("cumulative_commission_usd", .decimal next.cumulativeCommission),
      ("reason", .optStr request.reason),
      ("config_manifest_hash", .str provenance.configManifestHash),
      ("code_version", .str provenance.codeVersion),
      ("model_version", .str provenance.modelVersion),
      ("source_manifest_hash", .str provenance.sourceManifestHash)])) }

def appendOrderEvent (order : OrderDescriptor) (existingEvents : List OrderEvent)
    (request : AppendRequest) : Except Failure OrderEvent := do
  raiseIf (request.availableAt < request.occurredAt)
    (orderStateError "Order event available_at cannot precede occurred_at")
  let relevant := existingEvents.filter order.owns
  let next ← nextAmounts order relevant request
  let event ← OrderEvent.construct (orderEventFields hash order request next)
  let _ ← reduceOrderEvents order (relevant ++ [event])
  return event

end Appending

def pendingOrders (orders : List OrderDescriptor) (events : List OrderEvent)
    (asOf : Option Instant := none) : Except Failure (List OrderAggregate) := do
  let aggregates ← orders.mapM fun order => reduceOrderEvents order events asOf
  return sortedBy (fun item => toLex (item.order.createdAt, item.order.orderIntentId))
    (aggregates.filter (·.isPending))

section Book

variable (hash : Hashing)

/-- The loop that the three book operations share: one event for each chosen pending order, with
the events appended so far in the book. -/
def appendForPending (events : List OrderEvent) (pending : List OrderAggregate)
    (chosen : OrderAggregate → Bool) (request : AppendRequest) :
    Except Failure (List OrderEvent) :=
  pending.foldlM (fun result aggregate =>
    if chosen aggregate then do
      let event ← appendOrderEvent hash aggregate.order (events ++ result) request
      return result ++ [event]
    else return result) []

def softStopBuyCancellations (orders : List OrderDescriptor) (events : List OrderEvent)
    (occurredAt availableAt : Instant) (provenance : OrderEventProvenance)
    (sourceCycleId : String) : Except Failure (List OrderEvent) := do
  let pending ← pendingOrders orders events
  appendForPending hash events pending (fun aggregate => aggregate.order.side = .buy) {
    eventType := .canceledByRisk
    occurredAt := occurredAt
    availableAt := availableAt
    provenance := provenance
    reason := some "Q1_SOFT_STOP_BLOCK_NEW_BUYS"
    sourceCycleId := some sourceCycleId }

def replacementSellQuantity (replacements : List OrderDescriptor) (armId symbol : String) :
    Decimal :=
  ((replacements.filter fun order =>
    order.side = .sell ∧ order.armId = armId ∧ order.symbol = symbol).map (·.quantity)).sum

/-- Whether a pending order is replaced: a normal order of an arm with replacements, and for a SELL
only when the replacement SELLs of its symbol cover its remaining quantity. -/
def supersededBy (replacements : List OrderDescriptor) (aggregate : OrderAggregate) : Bool :=
  aggregate.order.orderClass = .normal ∧
    aggregate.order.armId ∈ replacements.map (·.armId) ∧
    ¬(aggregate.order.side = .sell ∧
      replacementSellQuantity replacements aggregate.order.armId aggregate.order.symbol <
        aggregate.remainingQuantity)

def supersedeNormalOrders (orders : List OrderDescriptor) (events : List OrderEvent)
    (replacementOrders : List OrderDescriptor) (occurredAt availableAt : Instant)
    (provenance : OrderEventProvenance) (sourceCycleId : String) :
    Except Failure (List OrderEvent) :=
  let replacements := replacementOrders.filter fun order => order.orderClass = .normal
  if replacements.isEmpty then return [] else do
    let pending ← pendingOrders orders events
    appendForPending hash events pending (supersededBy replacements) {
      eventType := .superseded
      occurredAt := occurredAt
      availableAt := availableAt
      provenance := provenance
      reason := some "REPLACED_BY_NEW_STRATEGIC_TARGET"
      sourceCycleId := some sourceCycleId }

def expireOrders (orders : List OrderDescriptor) (events : List OrderEvent) (asOf : Instant)
    (provenance : OrderEventProvenance) (sourceCycleId : String)
    (expireAtBoundary : Bool := false) : Except Failure (List OrderEvent) := do
  let pending ← pendingOrders orders events (some asOf)
  appendForPending hash events pending
    (fun aggregate => expireAtBoundary || decide (aggregate.order.validUntil < asOf)) {
      eventType := .expired
      occurredAt := asOf
      availableAt := asOf
      provenance := provenance
      reason := some "ORDER_VALIDITY_WINDOW_ENDED"
      sourceCycleId := some sourceCycleId }

end Book

end AdaptiveQuant
