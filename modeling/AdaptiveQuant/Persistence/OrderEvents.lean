import AdaptiveQuant.Persistence.CycleFence
import AdaptiveQuant.Execution.OrderState

/-! The stored order events, `OrderEventRepository` of `persistence/q1.py`. -/

namespace AdaptiveQuant

open Guard Sequence

/-- The columns of `order_intents` that the order-event repository and the replay rely on. -/
structure OrderIntentRow where
  orderIntentId : String
  runId : String
  armId : String
  quantity : Option Decimal
  createdAt : Option Instant
deriving DecidableEq

structure OrderEventRow where
  runId : String
  armId : String
  event : OrderEvent
deriving DecidableEq

/-- The tables that an order event touches. -/
structure OrderStore where
  cycles : List PaperCycleRow
  intents : List OrderIntentRow
  orderEvents : List OrderEventRow
deriving DecidableEq

namespace OrderEventRepository

/-- `latest_for_order`: highest sequence first, then highest identifier. -/
def latestForOrder (rows : List OrderEventRow) (orderIntentId : String)
    (asOf : Option Instant := none) : Option OrderEventRow :=
  (sortedBy (fun row => toLex (row.event.eventSequence, row.event.eventId))
    (rows.filter fun row => row.event.orderIntentId = orderIntentId ∧
      asOf.all (row.event.availableAt ≤ ·))).getLast?

def validateTransition (event : OrderEvent) (intent : OrderIntentRow)
    (latest : Option OrderEventRow) : Except Failure Unit :=
  match intent.quantity with
  | none => .error (q1PersistenceConflict "Q1 order intent requires typed quantity")
  | some quantity =>
    match latest with
    | none => do
      raiseIf (event.eventSequence ≠ 1 ∨ event.eventType ≠ .created)
        (q1PersistenceConflict "First order event must be CREATED sequence 1")
      raiseIf (event.quantityDelta ≠ 0 ∨ event.cumulativeFilledQuantity ≠ 0 ∨
          event.cumulativeCommissionUsd ≠ 0 ∨ event.remainingQuantity ≠ quantity)
        (q1PersistenceConflict "CREATED event quantities do not match intent")
    | some latest => do
      raiseIf (latest.event.eventType ∈ terminalOrderEventTypes)
        (q1PersistenceConflict "Terminal order cannot accept another event")
      raiseIf (event.eventSequence ≠ latest.event.eventSequence + 1)
        (q1PersistenceConflict "Order event sequence is not contiguous")
      let isFill := event.eventType.isFill
      let expectedFill := latest.event.cumulativeFilledQuantity +
        if isFill then event.quantityDelta else 0
      let expectedRemaining := latest.event.remainingQuantity -
        if isFill then event.quantityDelta else 0
      raiseIf (event.cumulativeFilledQuantity ≠ expectedFill)
        (q1PersistenceConflict "Order cumulative fill is inconsistent")
      raiseIf (event.remainingQuantity ≠ expectedRemaining)
        (q1PersistenceConflict "Order remaining quantity is inconsistent")
      raiseIf (event.cumulativeCommissionUsd ≠
          latest.event.cumulativeCommissionUsd + event.commissionDeltaUsd)
        (q1PersistenceConflict "Order cumulative commission is inconsistent")

def insert (rows : List OrderEventRow) (row : OrderEventRow) :
    Except Failure (List OrderEventRow) := do
  raiseIf (row.event.eventId ∈ rows.map (·.event.eventId))
    ⟨.integrityError, "UNIQUE constraint failed: order_events.order_event_id", []⟩
  raiseIf (row.event.idempotencyKey ∈ rows.map (·.event.idempotencyKey))
    ⟨.integrityError, "UNIQUE constraint failed: order_events.idempotency_key", []⟩
  raiseIf ((row.event.orderIntentId, row.event.eventSequence) ∈
      rows.map fun other => (other.event.orderIntentId, other.event.eventSequence))
    ⟨.integrityError, "UNIQUE constraint failed: uq_order_event_sequence", []⟩
  return rows ++ [row]

def append (store : OrderStore) (databaseClock : Option Instant) (event : OrderEvent) :
    Except Failure (OrderStore × OrderEventRow) :=
  match store.orderEvents.find? fun row => row.event.idempotencyKey = event.idempotencyKey with
  | some existing => do
    raiseIf (existing.event.eventHash ≠ event.eventHash)
      (q1PersistenceConflict "Order-event idempotency key has different immutable content")
    return (store, existing)
  | none =>
    match event.sourceCycleId with
    | none => .error (q1CycleFenceError "Q1 order events require a source cycle")
    | some cycleId => do
      let _ ← requireCycleFence store.cycles cycleId event.workerFenceToken event.cycleAttemptCount
        event.availableAt databaseClock
      match store.intents.find? fun intent => intent.orderIntentId = event.orderIntentId with
      | none =>
        .error (q1PersistenceConflict s!"Unknown order intent '{event.orderIntentId}'")
      | some intent => do
        validateTransition event intent (latestForOrder store.orderEvents event.orderIntentId)
        let row : OrderEventRow := ⟨intent.runId, intent.armId, event⟩
        let orderEvents ← insert store.orderEvents row
        return ({ store with orderEvents := orderEvents }, row)

theorem append_cases {store store' : OrderStore} {databaseClock : Option Instant}
    {event : OrderEvent} {row : OrderEventRow}
    (h : append store databaseClock event = .ok (store', row)) :
    (store' = store ∧ row ∈ store.orderEvents ∧
      row.event.idempotencyKey = event.idempotencyKey) ∨
    ∃ intent, (store.intents.find? fun intent =>
        intent.orderIntentId = event.orderIntentId) = some intent ∧
      row = ⟨intent.runId, intent.armId, event⟩ ∧
      validateTransition event intent (latestForOrder store.orderEvents event.orderIntentId) =
        .ok () ∧
      event.eventId ∉ store.orderEvents.map (·.event.eventId) ∧
      event.idempotencyKey ∉ store.orderEvents.map (·.event.idempotencyKey) ∧
      store' = { store with orderEvents := store.orderEvents ++ [row] } := by
  unfold append at h
  split at h
  · rename_i existing hfind
    simp only [ok_iff, Prod.mk.injEq] at h
    obtain ⟨-, rfl, rfl⟩ := h
    exact .inl ⟨rfl, List.mem_of_find?_eq_some hfind, by simpa using List.find?_some hfind⟩
  · split at h
    · cases h
    · simp only [bind_eq_ok] at h
      obtain ⟨-, -, h⟩ := h
      split at h
      · cases h
      · rename_i intent hintent
        simp only [ok_iff, OrderEventRepository.insert, Prod.mk.injEq] at h
        obtain ⟨_, hvalid, _, ⟨hid, hkey, -, rfl⟩, rfl, rfl⟩ := h
        exact .inr ⟨intent, hintent, rfl, hvalid, hid, hkey, rfl⟩

end OrderEventRepository

end AdaptiveQuant
