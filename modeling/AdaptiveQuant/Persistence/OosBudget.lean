import AdaptiveQuant.Control.Contracts
import AdaptiveQuant.Persistence.ResearchCycles
import AdaptiveQuant.Research.Schedule

/-! The budget of an experiment family in `persistence/research.py`, and the reservations of
out-of-sample evaluations that consume it. -/

namespace AdaptiveQuant.ResearchPlane

open Guard Control

structure OosEvaluationRequest where
  challengerId : String
  experimentFamily : String
  submissionNumber : ℤ
  candidateArtifactHash : String
  evaluationContractHash : String
deriving DecidableEq

structure OosBudgetReservation where
  reservationId : String
  challengerId : String
  experimentFamily : String
  submissionNumber : ℤ
  submissionOrdinal : ℤ
  oosBudgetOrdinal : ℤ
  candidateArtifactHash : String
  evaluationContractHash : String
  idempotencyKey : String
  createdAt : Instant
  expiresAt : Instant
  reservationHash : String
deriving DecidableEq

def OosBudgetReservation.data (r : OosBudgetReservation) : Canonical :=
  .dict [("schema_version", .str "oos_budget_reservation_v1"),
    ("reservation_id", .str r.reservationId), ("challenger_id", .str r.challengerId),
    ("experiment_family", .str r.experimentFamily), ("submission_number", .int r.submissionNumber),
    ("submission_ordinal", .int r.submissionOrdinal),
    ("oos_budget_ordinal", .int r.oosBudgetOrdinal),
    ("candidate_artifact_hash", .str r.candidateArtifactHash),
    ("evaluation_contract_hash", .str r.evaluationContractHash),
    ("idempotency_key", .str r.idempotencyKey), ("created_at", .instant r.createdAt),
    ("expires_at", .instant r.expiresAt)]

def identifierCheck (field value : String) : List FieldError :=
  fieldCheck field (isOperatorTriggerId value)
    "String should match pattern '^[A-Za-z0-9][A-Za-z0-9._:-]\x7b0,159\x7d$'"

def hashCheck (field value : String) : List FieldError :=
  fieldCheck field (isHash value) "String should match pattern '^[a-f0-9]\x7b64\x7d$'"

def OosBudgetReservation.fieldErrors (r : OosBudgetReservation) : List FieldError :=
  identifierCheck "reservation_id" r.reservationId ++
    identifierCheck "challenger_id" r.challengerId ++
    identifierCheck "experiment_family" r.experimentFamily ++
    geCheck "submission_number" 1 r.submissionNumber ++
    geCheck "submission_ordinal" 1 r.submissionOrdinal ++
    geCheck "oos_budget_ordinal" 1 r.oosBudgetOrdinal ++
    hashCheck "candidate_artifact_hash" r.candidateArtifactHash ++
    hashCheck "evaluation_contract_hash" r.evaluationContractHash ++
    identifierCheck "idempotency_key" r.idempotencyKey ++
    hashCheck "reservation_hash" r.reservationHash

structure BudgetEventRow where
  budgetEventId : String
  experimentFamily : String
  eventType : String
  submissionDelta : ℤ
  oosBudgetDelta : ℤ
  hypothesisDelta : ℤ
  failureDelta : ℤ
  idempotencyKey : String
  eventHash : String
  createdAt : Instant
deriving DecidableEq

structure ReservationRow where
  reservationId : String
  challengerId : String
  experimentFamily : String
  submissionNumber : ℤ
  submissionOrdinal : ℤ
  oosBudgetOrdinal : ℤ
  idempotencyKey : String
  reservationHash : String
  payload : OosBudgetReservation
deriving DecidableEq

structure BudgetStore where
  challengers : List String := []
  events : List BudgetEventRow := []
  reservations : List ReservationRow := []
deriving DecidableEq

def OosBudgetReservation.row (r : OosBudgetReservation) : ReservationRow where
  reservationId := r.reservationId
  challengerId := r.challengerId
  experimentFamily := r.experimentFamily
  submissionNumber := r.submissionNumber
  submissionOrdinal := r.submissionOrdinal
  oosBudgetOrdinal := r.oosBudgetOrdinal
  idempotencyKey := r.idempotencyKey
  reservationHash := r.reservationHash
  payload := r

variable (store : BudgetStore)

def BudgetStore.findEvent (family key : String) : Option BudgetEventRow :=
  store.events.find? fun row : BudgetEventRow =>
    row.experimentFamily = family ∧ row.idempotencyKey = key

def BudgetStore.findReservation (family key : String) :
    Option ReservationRow :=
  store.reservations.find? fun row : ReservationRow =>
    row.experimentFamily = family ∧ row.idempotencyKey = key

def BudgetStore.findSubmission (family : String) (number : ℤ) :
    Option ReservationRow :=
  store.reservations.find? fun row : ReservationRow =>
    row.experimentFamily = family ∧ row.submissionNumber = number

def BudgetStore.total (family : String) (delta : BudgetEventRow → ℤ) : ℤ :=
  ((store.events.filter (·.experimentFamily = family)).map delta).sum

structure BudgetTotals where
  submissions : ℤ
  oosBudgetUsed : ℤ
  hypotheses : ℤ
  failures : ℤ
deriving DecidableEq

def BudgetStore.budgetTotals (family : String) : BudgetTotals where
  submissions := store.total family (·.submissionDelta)
  oosBudgetUsed := store.total family (·.oosBudgetDelta)
  hypotheses := store.total family (·.hypothesisDelta)
  failures := store.total family (·.failureDelta)

def BudgetStore.insertEvent (row : BudgetEventRow) :
    Except Failure BudgetStore := do
  raiseIf (∃ old ∈ store.events, old.budgetEventId = row.budgetEventId ∨
    (old.experimentFamily = row.experimentFamily ∧ old.idempotencyKey = row.idempotencyKey) ∨
    old.eventHash = row.eventHash) uniqueFailed
  return { store with events := store.events ++ [row] }

def BudgetStore.insertReservation (row : ReservationRow) :
    Except Failure BudgetStore := do
  raiseIf (row.challengerId ∉ store.challengers)
    ⟨.integrityError, "FOREIGN KEY constraint failed", []⟩
  raiseIf (∃ old ∈ store.reservations, old.reservationId = row.reservationId ∨
    (old.experimentFamily = row.experimentFamily ∧ old.idempotencyKey = row.idempotencyKey) ∨
    (old.experimentFamily = row.experimentFamily ∧ old.submissionNumber = row.submissionNumber) ∨
    (old.experimentFamily = row.experimentFamily ∧ old.submissionOrdinal = row.submissionOrdinal) ∨
    (old.experimentFamily = row.experimentFamily ∧ old.oosBudgetOrdinal = row.oosBudgetOrdinal) ∨
    old.reservationHash = row.reservationHash) uniqueFailed
  return { store with reservations := store.reservations ++ [row] }

structure BudgetEventCall where
  experimentFamily : String
  eventType : String
  submissionDelta : ℤ
  oosBudgetDelta : ℤ
  hypothesisDelta : ℤ
  failureDelta : ℤ
  idempotencyKey : String
  createdAt : Instant
deriving DecidableEq

structure ReserveCall where
  request : OosEvaluationRequest
  maximumSubmissions : ℤ
  maximumOosUses : ℤ
  idempotencyKey : String
  createdAt : Instant
  expiresAt : Instant
deriving DecidableEq

/-- The content of a budget event, of which `event_hash` is a digest. -/
def BudgetEventCall.data (call : BudgetEventCall) : Canonical :=
  .dict [("experiment_family", .str call.experimentFamily), ("event_type", .str call.eventType),
    ("submission_delta", .int call.submissionDelta),
    ("oos_budget_delta", .int call.oosBudgetDelta),
    ("hypothesis_delta", .int call.hypothesisDelta), ("failure_delta", .int call.failureDelta),
    ("idempotency_key", .str call.idempotencyKey), ("created_at", .instant call.createdAt)]

section Operations

variable (hash : Hashing)

def BudgetEventCall.row (call : BudgetEventCall) : BudgetEventRow where
  budgetEventId := hash.stableId "experiment-budget"
    [.str call.experimentFamily, .str call.idempotencyKey]
  experimentFamily := call.experimentFamily
  eventType := call.eventType
  submissionDelta := call.submissionDelta
  oosBudgetDelta := call.oosBudgetDelta
  hypothesisDelta := call.hypothesisDelta
  failureDelta := call.failureDelta
  idempotencyKey := call.idempotencyKey
  eventHash := hash.canonicalHash call.data
  createdAt := call.createdAt

def appendBudgetEvent (store : BudgetStore) (call : BudgetEventCall) :
    Except Failure (Bool × BudgetStore) := do
  raiseIf (call.submissionDelta < 0 ∨ call.oosBudgetDelta < 0 ∨ call.hypothesisDelta < 0 ∨
    call.failureDelta < 0) (persistenceError "experiment budget deltas cannot be negative")
  match store.findEvent call.experimentFamily call.idempotencyKey with
  | some existing =>
    raiseIf (existing.eventHash ≠ hash.canonicalHash call.data)
      (persistenceError "experiment budget idempotency conflict")
    return (false, store)
  | none =>
    -- the transaction is rolled back, and a second look finds no event under the key
    match store.insertEvent (call.row hash) with
    | .error _ => .error (persistenceError "experiment budget idempotency conflict")
    | .ok store => return (true, store)

/-- `OosBudgetReservationV1.model_validate`. -/
def validateReservation (r : OosBudgetReservation) : Except Failure OosBudgetReservation := do
  raiseIf (r.fieldErrors ≠ []) (.validation "OosBudgetReservationV1" r.fieldErrors)
  raiseIf (r.expiresAt ≤ r.createdAt)
    (.record "OosBudgetReservationV1" "OOS budget reservation must expire after creation")
  raiseIf (r.submissionNumber ≠ r.submissionOrdinal)
    (.record "OosBudgetReservationV1" "OOS submission number must equal its reserved ordinal")
  raiseIf (hash.canonicalHash r.data ≠ r.reservationHash)
    (.record "OosBudgetReservationV1" "OOS budget reservation hash mismatch")
  return r

def requireOosReservationBinding (r : OosBudgetReservation) (request : OosEvaluationRequest) :
    Except Failure Unit :=
  raiseIf (r.challengerId ≠ request.challengerId ∨ r.experimentFamily ≠ request.experimentFamily ∨
    r.submissionNumber ≠ request.submissionNumber ∨
    r.candidateArtifactHash ≠ request.candidateArtifactHash ∨
    r.evaluationContractHash ≠ request.evaluationContractHash)
    (persistenceError "OOS budget reservation idempotency conflict")

def ReserveCall.reservation (call : ReserveCall) (submissionOrdinal oosBudgetOrdinal : ℤ) :
    OosBudgetReservation :=
  let unsigned : OosBudgetReservation :=
    { reservationId := hash.stableId "oos-budget-reservation" [.str call.request.experimentFamily,
        .int call.request.submissionNumber, .str call.request.challengerId,
        .str call.request.candidateArtifactHash, .str call.request.evaluationContractHash]
      challengerId := call.request.challengerId
      experimentFamily := call.request.experimentFamily
      submissionNumber := call.request.submissionNumber
      submissionOrdinal := submissionOrdinal
      oosBudgetOrdinal := oosBudgetOrdinal
      candidateArtifactHash := call.request.candidateArtifactHash
      evaluationContractHash := call.request.evaluationContractHash
      idempotencyKey := call.idempotencyKey
      createdAt := call.createdAt
      expiresAt := call.expiresAt
      reservationHash := "" }
  { unsigned with reservationHash := hash.canonicalHash unsigned.data }

def ReserveCall.event (call : ReserveCall) : BudgetEventCall where
  experimentFamily := call.request.experimentFamily
  eventType := "OOS_CONSUMED"
  submissionDelta := 1
  oosBudgetDelta := 1
  hypothesisDelta := 0
  failureDelta := 0
  idempotencyKey := call.idempotencyKey
  createdAt := call.createdAt

def reserveOosBudgetOnce (store : BudgetStore) (call : ReserveCall) :
    Except Failure (OosBudgetReservation × BudgetStore) := do
  let request := call.request
  match store.findReservation request.experimentFamily call.idempotencyKey with
  | some existing =>
    let reservation ← validateReservation hash existing.payload
    raiseIf (existing.reservationId ≠ reservation.reservationId ∨
      existing.reservationHash ≠ reservation.reservationHash ∨
      existing.challengerId ≠ reservation.challengerId ∨
      existing.submissionOrdinal ≠ reservation.submissionOrdinal ∨
      existing.oosBudgetOrdinal ≠ reservation.oosBudgetOrdinal)
      (persistenceError "stored OOS budget reservation binding mismatch")
    requireOosReservationBinding reservation request
    return (reservation, store)
  | none =>
    raiseIf ((store.findSubmission request.experimentFamily request.submissionNumber).isSome)
      (persistenceError "OOS submission number already has a different reservation")
    let submissionOrdinal := store.total request.experimentFamily (·.submissionDelta) + 1
    let oosBudgetOrdinal := store.total request.experimentFamily (·.oosBudgetDelta) + 1
    raiseIf (request.submissionNumber ≠ submissionOrdinal)
      (persistenceError "OOS submission number is not the next family submission")
    raiseIf (submissionOrdinal > call.maximumSubmissions)
      (persistenceError "experiment-family submission budget exhausted")
    raiseIf (oosBudgetOrdinal > call.maximumOosUses)
      (persistenceError "experiment-family OOS budget exhausted")
    let reservation ← validateReservation hash
      (call.reservation hash submissionOrdinal oosBudgetOrdinal)
    let store ← store.insertReservation reservation.row
    let store ← store.insertEvent (call.event.row hash)
    return (reservation, store)

def checkReserveCall (call : ReserveCall) : Except Failure Unit := do
  raiseIf (call.maximumSubmissions ≤ 0 ∨ call.maximumOosUses ≤ 0)
    (persistenceError "OOS budget limits must be positive")
  raiseIf (call.expiresAt ≤ call.createdAt)
    (persistenceError "OOS budget reservation expiry must follow creation")

end Operations

end AdaptiveQuant.ResearchPlane
