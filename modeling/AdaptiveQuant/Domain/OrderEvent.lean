import AdaptiveQuant.Domain.Basic

/-! The order events of `domain/q1.py`. -/

namespace AdaptiveQuant

open Guard

inductive OrderEventType
  | created
  | active
  | partiallyFilled
  | filled
  | canceledByRisk
  | superseded
  | expired
  | rejected
  | blockedByData
  | blockedByPriceGuard
deriving DecidableEq

def OrderEventType.value : OrderEventType → String
  | .created => "CREATED"
  | .active => "ACTIVE"
  | .partiallyFilled => "PARTIALLY_FILLED"
  | .filled => "FILLED"
  | .canceledByRisk => "CANCELED_BY_RISK"
  | .superseded => "SUPERSEDED"
  | .expired => "EXPIRED"
  | .rejected => "REJECTED"
  | .blockedByData => "BLOCKED_BY_DATA"
  | .blockedByPriceGuard => "BLOCKED_BY_PRICE_GUARD"

def terminalOrderEventTypes : List OrderEventType :=
  [.filled, .canceledByRisk, .superseded, .expired, .rejected]

def isTerminalOrderEvent (eventType : OrderEventType) : Bool :=
  eventType ∈ terminalOrderEventTypes

def OrderEventType.isFill (eventType : OrderEventType) : Bool :=
  eventType ∈ [.partiallyFilled, .filled]

/-- The fields of `OrderEvent`, before validation. -/
structure OrderEventFields extends VersionedQ1Record where
  eventId : String
  orderIntentId : String
  eventType : OrderEventType
  eventSequence : ℕ
  quantityDelta : Decimal
  commissionDeltaUsd : Decimal
  remainingQuantity : Decimal
  cumulativeFilledQuantity : Decimal
  cumulativeCommissionUsd : Decimal
  occurredAt : Instant
  availableAt : Instant
  idempotencyKey : String
  reason : Option String := none
  sourceId : Option String := none
  quoteId : Option String := none
  sourceCycleId : Option String := none
  workerFenceToken : String
  cycleAttemptCount : ℕ
  eventHash : String
deriving DecidableEq

def OrderEventFields.fieldErrors (e : OrderEventFields) : List FieldError :=
  e.toVersionedQ1Record.fieldErrors ++
    geCheck "event_sequence" 1 e.eventSequence ++
    geCheck "quantity_delta" 0 e.quantityDelta ++
    geCheck "commission_delta_usd" 0 e.commissionDeltaUsd ++
    geCheck "remaining_quantity" 0 e.remainingQuantity ++
    geCheck "cumulative_filled_quantity" 0 e.cumulativeFilledQuantity ++
    geCheck "cumulative_commission_usd" 0 e.cumulativeCommissionUsd ++
    geCheck "cycle_attempt_count" 1 e.cycleAttemptCount

def OrderEventFields.validate (e : OrderEventFields) : Except Failure Unit := do
  raiseIf (e.fieldErrors ≠ []) (.validation "OrderEvent" e.fieldErrors)
  raiseIf (e.availableAt < e.occurredAt)
    (.record "OrderEvent" "Order event available_at cannot precede occurred_at")
  raiseIf (e.eventType = .filled ∧ e.remainingQuantity ≠ 0)
    (.record "OrderEvent" "FILLED order event must have zero remaining quantity")
  raiseIf (e.eventType = .partiallyFilled ∧ e.cumulativeFilledQuantity ≤ 0)
    (.record "OrderEvent" "PARTIALLY_FILLED requires a positive cumulative fill")
  raiseIf (e.eventType.isFill ∧ e.quantityDelta ≤ 0)
    (.record "OrderEvent" "Fill events require a positive quantity_delta")
  raiseIf (¬e.eventType.isFill ∧ (e.quantityDelta ≠ 0 ∨ e.commissionDeltaUsd ≠ 0))
    (.record "OrderEvent" "Non-fill order events cannot change quantity or commission")

structure OrderEvent extends OrderEventFields where
  valid : toOrderEventFields.validate = .ok ()

instance : DecidableEq OrderEvent := fun a b =>
  decidable_of_iff (a.toOrderEventFields = b.toOrderEventFields)
    ⟨fun h => by cases a; cases b; cases h; rfl, fun h => by rw [h]⟩

/-- `OrderEvent(...)`: the record, or its `ValidationError`. -/
def OrderEvent.construct (fields : OrderEventFields) : Except Failure OrderEvent :=
  match h : fields.validate with
  | .ok () => .ok ⟨fields, h⟩
  | .error e => .error e

theorem OrderEvent.construct_eq_ok {fields : OrderEventFields} {event : OrderEvent} :
    OrderEvent.construct fields = .ok event ↔ event.toOrderEventFields = fields := by
  unfold OrderEvent.construct
  constructor
  · intro h
    split at h
    · cases h
      rfl
    · cases h
  · rintro rfl
    split
    · rfl
    · rename_i h
      rw [event.valid] at h
      cases h

theorem OrderEventFields.validate_eq_ok {e : OrderEventFields} {u : Unit} :
    e.validate = .ok u ↔ e.fieldErrors = [] ∧ e.occurredAt ≤ e.availableAt ∧
      (e.eventType = .filled → e.remainingQuantity = 0) ∧
      (e.eventType = .partiallyFilled → 0 < e.cumulativeFilledQuantity) ∧
      (e.eventType.isFill → 0 < e.quantityDelta) ∧
      (e.eventType.isFill = false → e.quantityDelta = 0 ∧ e.commissionDeltaUsd = 0) := by
  simp only [OrderEventFields.validate, ok_iff]
  simp [not_and]

namespace OrderEvent

variable (e : OrderEvent)

theorem checks : e.fieldErrors = [] ∧ e.occurredAt ≤ e.availableAt ∧
    (e.eventType = .filled → e.remainingQuantity = 0) ∧
    (e.eventType = .partiallyFilled → 0 < e.cumulativeFilledQuantity) ∧
    (e.eventType.isFill → 0 < e.quantityDelta) ∧
    (e.eventType.isFill = false → e.quantityDelta = 0 ∧ e.commissionDeltaUsd = 0) :=
  OrderEventFields.validate_eq_ok.mp e.valid

theorem amounts_nonneg : 0 ≤ e.quantityDelta ∧ 0 ≤ e.commissionDeltaUsd ∧
    0 ≤ e.remainingQuantity ∧ 0 ≤ e.cumulativeFilledQuantity ∧ 0 ≤ e.cumulativeCommissionUsd := by
  have h := e.checks.1
  simp only [OrderEventFields.fieldErrors, List.append_eq_nil_iff, geCheck_eq_nil,
    Nat.cast_zero] at h
  tauto

theorem quantityDelta_pos (h : e.eventType.isFill) : 0 < e.quantityDelta :=
  e.checks.2.2.2.2.1 h

theorem deltas_eq_zero (h : e.eventType.isFill = false) :
    e.quantityDelta = 0 ∧ e.commissionDeltaUsd = 0 :=
  e.checks.2.2.2.2.2 h

end OrderEvent

end AdaptiveQuant
