import AdaptiveQuant.Lib.Run
import AdaptiveQuant.Research.Schedule

/-! `ResearchSchedulerRepository`: the append-only tables of research work, and the leases under
which dispatchers and consumers take it. -/

namespace AdaptiveQuant

open Guard

inductive ResearchScheduleEventType
  | planned
  | leaseAcquired
  | leaseReclaimed
  | dispatched
  | executionLeaseAcquired
  | executionLeaseReclaimed
  | executionLeaseRenewed
  | succeeded
  | failed
deriving DecidableEq

namespace ResearchScheduleEventType

def value : ResearchScheduleEventType → String
  | .planned => "PLANNED"
  | .leaseAcquired => "LEASE_ACQUIRED"
  | .leaseReclaimed => "LEASE_RECLAIMED"
  | .dispatched => "DISPATCHED"
  | .executionLeaseAcquired => "EXECUTION_LEASE_ACQUIRED"
  | .executionLeaseReclaimed => "EXECUTION_LEASE_RECLAIMED"
  | .executionLeaseRenewed => "EXECUTION_LEASE_RENEWED"
  | .succeeded => "SUCCEEDED"
  | .failed => "FAILED"

def isDispatchLease : ResearchScheduleEventType → Bool
  | .leaseAcquired | .leaseReclaimed => true
  | _ => false

def isExecutionLease : ResearchScheduleEventType → Bool
  | .executionLeaseAcquired | .executionLeaseReclaimed | .executionLeaseRenewed => true
  | _ => false

end ResearchScheduleEventType

/-- `ResearchWorkExecutionResultV1`, as far as it is read here; `payload` is the whole record. -/
structure ResearchWorkExecutionResult where
  executionId : String
  receiptId : String
  workItemId : String
  workKind : ResearchScheduleWorkKind
  dispatchTarget : ResearchDispatchTarget
  invocationContextHashes : List String
  resultHash : String
  payload : Canonical
deriving DecidableEq

structure ResearchWorkItem where
  plan : ResearchSchedulePlan
  createdAt : Instant
deriving DecidableEq

structure ResearchScheduleEvent where
  eventId : String
  workItemId : String
  sequence : ℕ
  eventType : ResearchScheduleEventType
  attemptNumber : ℕ
  retryable : Bool
  leaseOwner : Option String
  leaseToken : Option String
  leaseExpiresAt : Option Instant
  receiptId : Option String
  idempotencyKey : String
  eventHash : String
  configManifestHash : String
  executionResult : Option ResearchWorkExecutionResult
  createdAt : Instant
deriving DecidableEq

structure ResearchWorkDispatchReceipt where
  receiptId : String
  workItemId : String
  workKind : ResearchScheduleWorkKind
  attemptNumber : ℕ
  leaseToken : String
  dispatchTarget : ResearchDispatchTarget
  workPayloadHash : String
  configManifestHash : String
  createdAt : Instant
  receiptHash : String
deriving DecidableEq

structure ResearchReceiptRow where
  receipt : ResearchWorkDispatchReceipt
  idempotencyKey : String
deriving DecidableEq

/-- The work items, their events and their receipts. -/
structure SchedulerTables where
  items : List ResearchWorkItem
  events : List ResearchScheduleEvent
  receipts : List ResearchReceiptRow
deriving DecidableEq

def persistenceError (message : String) : Failure :=
  ⟨.researchSchedulerPersistenceError, message, []⟩

def fenceError (message : String) : Failure := ⟨.researchScheduleFenceError, message, []⟩

def unknownWork (workItemId : String) : Failure :=
  persistenceError s!"unknown research work: {workItemId}"

/-- The arguments of `_append_event` that follow the plan. -/
structure EventDraft where
  sequence : ℕ
  eventType : ResearchScheduleEventType
  attemptNumber : ℕ
  retryable : Bool
  leaseOwner : Option String := none
  leaseToken : Option String := none
  leaseExpiresAt : Option Instant := none
  receiptId : Option String := none
  idempotencyKey : String
  createdAt : Instant
  executionResult : Option ResearchWorkExecutionResult := none
  extraPayload : List (String × Canonical)

variable (hash : Hashing) (plan : ResearchSchedulePlan)

def EventDraft.eventId (draft : EventDraft) :
    String :=
  hash.stableId "research-schedule-event"
    [.str plan.workItemId, .int draft.sequence, .str draft.eventType.value,
      .int draft.attemptNumber]

def EventDraft.payload (draft : EventDraft) :
    Canonical :=
  .dict ([("event_id", .str (draft.eventId hash plan)),
    ("work_item_id", .str plan.workItemId),
    ("sequence", .int draft.sequence),
    ("event_type", .str draft.eventType.value),
    ("attempt_number", .int draft.attemptNumber),
    ("retryable", .bool draft.retryable),
    ("lease_owner", .optStr draft.leaseOwner),
    ("lease_token", .optStr draft.leaseToken),
    ("lease_expires_at", .optInstant draft.leaseExpiresAt),
    ("receipt_id", .optStr draft.receiptId),
    ("idempotency_key", .str draft.idempotencyKey),
    ("config_manifest_hash", .str plan.configManifestHash),
    ("real_order_routing", .bool false),
    ("created_at", .instant draft.createdAt)] ++ draft.extraPayload)

def EventDraft.row (draft : EventDraft) :
    ResearchScheduleEvent where
  eventId := draft.eventId hash plan
  workItemId := plan.workItemId
  sequence := draft.sequence
  eventType := draft.eventType
  attemptNumber := draft.attemptNumber
  retryable := draft.retryable
  leaseOwner := draft.leaseOwner
  leaseToken := draft.leaseToken
  leaseExpiresAt := draft.leaseExpiresAt
  receiptId := draft.receiptId
  idempotencyKey := draft.idempotencyKey
  eventHash := hash.canonicalHash (draft.payload hash plan)
  configManifestHash := plan.configManifestHash
  executionResult := draft.executionResult
  createdAt := draft.createdAt

def ResearchScheduleEvent.clashes (event other : ResearchScheduleEvent) : Prop :=
  event.eventId = other.eventId ∨ event.eventHash = other.eventHash ∨
    event.workItemId = other.workItemId ∧
      (event.sequence = other.sequence ∨ event.idempotencyKey = other.idempotencyKey)

instance (event other : ResearchScheduleEvent) : Decidable (event.clashes other) :=
  inferInstanceAs (Decidable (_ ∨ _))

namespace SchedulerTables

variable (tables : SchedulerTables)

def history (workItemId : String) : List ResearchScheduleEvent :=
  tables.events.filter (·.workItemId = workItemId)

def latestEvent (workItemId : String) : Option ResearchScheduleEvent :=
  (Sequence.sortedBy (fun event => toLex (event.sequence, event.eventId))
    (tables.history workItemId)).getLast?

def appendEvent (hash : Hashing) (plan : ResearchSchedulePlan) (draft : EventDraft) :
    Except Failure SchedulerTables := do
  raiseIf (∃ other ∈ tables.events, (draft.row hash plan).clashes other)
    ⟨.integrityError, "research_schedule_events", []⟩
  pure { tables with events := tables.events ++ [draft.row hash plan] }

def lockedWork (workItemId : String) : Option ResearchWorkItem :=
  tables.items.find? (·.plan.workItemId = workItemId)

def plannedDraft (plan : ResearchSchedulePlan) (createdAt : Instant) : EventDraft where
  sequence := 1
  eventType := .planned
  attemptNumber := 0
  retryable := true
  idempotencyKey := plan.idempotencyKey ++ ":planned"
  createdAt := createdAt
  extraPayload := [("plan_hash", .str plan.planHash)]

def storePlan (hash : Hashing) (plan : ResearchSchedulePlan) (createdAt : Instant) :
    Except Failure SchedulerTables :=
  match tables.lockedWork plan.workItemId with
  | some existing => do
    raiseIf (existing.plan ≠ plan)
      (persistenceError "schedule work identity has different immutable content")
    pure tables
  | none => do
    raiseIf (∃ other ∈ tables.items, plan.idempotencyKey = other.plan.idempotencyKey ∨
        plan.planHash = other.plan.planHash)
      ⟨.integrityError, "research_schedule_work_items", []⟩
    let withItem : SchedulerTables :=
      { tables with items := tables.items ++ [⟨plan, createdAt⟩] }
    withItem.appendEvent hash plan (plannedDraft plan createdAt)

end SchedulerTables

def storePlans (hash : Hashing) (createdAt : Instant) :
    List ResearchSchedulePlan → SchedulerTables → Option Failure × SchedulerTables
  | [], tables => (none, tables)
  | plan :: plans, tables =>
    match tables.storePlan hash plan createdAt with
    | .error failure => (some failure, tables)
    | .ok stored => storePlans hash createdAt plans stored

structure ResearchWorkLease where
  workItemId : String
  workKind : ResearchScheduleWorkKind
  leaseOwner : String
  leaseToken : String
  attemptNumber : ℕ
  acquiredAt : Instant
  leaseExpiresAt : Instant
  configManifestHash : String
  planHash : String
deriving DecidableEq

def seconds (n : ℤ) : ℤ := n * 1000000

structure ClaimNextRequest where
  leaseOwner : String
  leaseSeconds : ℤ
  databaseNow : Instant
  locked : List String := []
deriving DecidableEq

def ResearchScheduleEvent.isClaimable (event : ResearchScheduleEvent) (databaseNow : Instant) :
    Prop :=
  event.retryable ∧ (event.eventType = .planned ∨ event.eventType = .failed ∨
    (event.eventType.isDispatchLease ∧ ∃ expires ∈ event.leaseExpiresAt, expires ≤ databaseNow))

instance (event : ResearchScheduleEvent) (databaseNow : Instant) :
    Decidable (event.isClaimable databaseNow) := inferInstanceAs (Decidable (_ ∧ _))

def ResearchScheduleWorkKind.predecessor :
    ResearchScheduleWorkKind → Option ResearchScheduleWorkKind
  | .outcomeMaturation => some .dailyAggregation
  | .researchMemoryMaterialization => some .outcomeMaturation
  | .operatorDeepResearch => some .dailyAggregation
  | _ => none

def ResearchWorkItem.order (item : ResearchWorkItem) : Instant ×ₗ String ×ₗ String :=
  toLex (item.plan.scheduledFor, toLex (item.plan.workKind.value, item.plan.workItemId))

namespace SchedulerTables

variable (tables : SchedulerTables)

def predecessorSucceeded (item : ResearchWorkItem) (kind : ResearchScheduleWorkKind) : Prop :=
  ∃ other ∈ tables.items, other.plan.workKind = kind ∧
    other.plan.scheduleVersion = item.plan.scheduleVersion ∧
    (∃ session ∈ item.plan.calendarSessionId, other.plan.calendarSessionId = some session) ∧
    other.plan.configManifestHash = item.plan.configManifestHash ∧
    ∃ event ∈ tables.latestEvent other.plan.workItemId, event.eventType = .succeeded

instance (item : ResearchWorkItem) (kind : ResearchScheduleWorkKind) :
    Decidable (tables.predecessorSucceeded item kind) := by
  unfold predecessorSucceeded
  infer_instance

/-- `_schedule_prerequisite_predicate`. -/
def prerequisiteMet (item : ResearchWorkItem) : Prop :=
  ∀ kind ∈ item.plan.workKind.predecessor, tables.predecessorSucceeded item kind

instance (item : ResearchWorkItem) : Decidable (tables.prerequisiteMet item) := by
  unfold prerequisiteMet
  infer_instance

def admits (request : ClaimNextRequest) (item : ResearchWorkItem) : Prop :=
  item.plan.scheduledFor ≤ request.databaseNow ∧
    (∃ event ∈ tables.latestEvent item.plan.workItemId, event.isClaimable request.databaseNow) ∧
    tables.prerequisiteMet item

instance (request : ClaimNextRequest) (item : ResearchWorkItem) :
    Decidable (tables.admits request item) := inferInstanceAs (Decidable (_ ∧ _))

def nextWork (request : ClaimNextRequest) : Option ResearchWorkItem :=
  (Sequence.sortedBy ResearchWorkItem.order (tables.items.filter fun item =>
    tables.admits request item ∧ item.plan.workItemId ∉ request.locked)).head?

end SchedulerTables

/-- How a pass of the loop of `claim_next` ends. -/
inductive ClaimNextResult
  | nothing
  | exhausted
  | leased (lease : ResearchWorkLease)
deriving DecidableEq

namespace ClaimNextRequest

variable (request : ClaimNextRequest) (hash : Hashing) (plan : ResearchSchedulePlan)
  (latest : ResearchScheduleEvent)

def exhaustedDraft : EventDraft where
  sequence := latest.sequence + 1
  eventType := .failed
  attemptNumber := latest.attemptNumber
  retryable := false
  idempotencyKey := plan.idempotencyKey ++ ":attempts-exhausted"
  createdAt := request.databaseNow
  extraPayload := [("reason_code", .str "MAXIMUM_ATTEMPTS_EXHAUSTED"),
    ("previous_event_hash", .str latest.eventHash)]

def lease : ResearchWorkLease where
  workItemId := plan.workItemId
  workKind := plan.workKind
  leaseOwner := request.leaseOwner
  leaseToken := hash.stableId "research-lease"
    [.str plan.workItemId, .int (latest.attemptNumber + 1), .str request.leaseOwner,
      .instant request.databaseNow]
  attemptNumber := latest.attemptNumber + 1
  acquiredAt := request.databaseNow
  leaseExpiresAt := request.databaseNow + seconds request.leaseSeconds
  configManifestHash := plan.configManifestHash
  planHash := plan.planHash

def leaseDraft : EventDraft where
  sequence := latest.sequence + 1
  eventType := if latest.eventType.isDispatchLease then .leaseReclaimed else .leaseAcquired
  attemptNumber := latest.attemptNumber + 1
  retryable := true
  leaseOwner := some request.leaseOwner
  leaseToken := some (request.lease hash plan latest).leaseToken
  leaseExpiresAt := some (request.lease hash plan latest).leaseExpiresAt
  idempotencyKey := s!"{plan.idempotencyKey}:lease:{latest.attemptNumber + 1}"
  createdAt := request.databaseNow
  extraPayload := [("previous_event_hash", .str latest.eventHash)]

end ClaimNextRequest

namespace SchedulerTables

variable (hash : Hashing) (maximum : ℕ) (tables : SchedulerTables)

def takeWork (request : ClaimNextRequest) (item : ResearchWorkItem)
    (latest : ResearchScheduleEvent) : Except Failure (ClaimNextResult × SchedulerTables) :=
  if maximum < latest.attemptNumber + 1 then do
    let tables' ← tables.appendEvent hash item.plan (request.exhaustedDraft item.plan latest)
    pure (.exhausted, tables')
  else do
    let tables' ← tables.appendEvent hash item.plan (request.leaseDraft hash item.plan latest)
    pure (.leased (request.lease hash item.plan latest), tables')

def claimNext (request : ClaimNextRequest) :
    Except Failure (ClaimNextResult × SchedulerTables) := do
  raiseIf (request.leaseOwner = "") ⟨.valueError, "lease_owner is required", []⟩
  raiseIf (request.leaseSeconds ≤ 0 ∨ maximum = 0)
    ⟨.valueError, "lease and attempt limits must be positive", []⟩
  match tables.nextWork request with
  | none => pure (.nothing, tables)
  | some item =>
    match tables.latestEvent item.plan.workItemId with
    | none => .error (persistenceError "planned research work has no event")
    | some latest => tables.takeWork hash maximum request item latest

def requireActiveLease (lease : ResearchWorkLease) (databaseNow : Instant) :
    Except Failure ResearchScheduleEvent :=
  match tables.latestEvent lease.workItemId with
  | none => .error (fenceError "research work lease is stale, expired, or reclaimed")
  | some latest => do
    raiseIf (¬latest.eventType.isDispatchLease ∨ latest.leaseOwner ≠ some lease.leaseOwner ∨
        latest.leaseToken ≠ some lease.leaseToken ∨
        latest.attemptNumber ≠ lease.attemptNumber ∨
        latest.leaseExpiresAt.all (· ≤ databaseNow))
      (fenceError "research work lease is stale, expired, or reclaimed")
    pure latest

end SchedulerTables

def unsignedReceipt (lease : ResearchWorkLease)
    (createdAt : Instant) : ResearchWorkDispatchReceipt where
  receiptId := hash.stableId "research-dispatch"
    [.str plan.workItemId, .int lease.attemptNumber]
  workItemId := plan.workItemId
  workKind := plan.workKind
  attemptNumber := lease.attemptNumber
  leaseToken := lease.leaseToken
  dispatchTarget := dispatchTargetFor plan.workKind
  workPayloadHash := schedulePlanPayloadHash hash plan
  configManifestHash := plan.configManifestHash
  createdAt := createdAt
  receiptHash := ""

def ResearchWorkDispatchReceipt.payload (receipt : ResearchWorkDispatchReceipt) : Canonical :=
  .dict [("schema_version", .str "research_work_dispatch_receipt_v1"),
    ("receipt_id", .str receipt.receiptId),
    ("work_item_id", .str receipt.workItemId),
    ("work_kind", .str receipt.workKind.value),
    ("attempt_number", .int receipt.attemptNumber),
    ("lease_token", .str receipt.leaseToken),
    ("dispatch_target", .str receipt.dispatchTarget.value),
    ("work_payload_hash", .str receipt.workPayloadHash),
    ("config_manifest_hash", .str receipt.configManifestHash),
    ("created_at", .instant receipt.createdAt),
    ("real_order_routing", .bool false)]

def buildDispatchReceipt (lease : ResearchWorkLease)
    (createdAt : Instant) : Except Failure ResearchWorkDispatchReceipt := do
  raiseIf (plan.workItemId ≠ lease.workItemId ∨ plan.planHash ≠ lease.planHash)
    ⟨.valueError, "dispatch lease does not match its planned work", []⟩
  let receipt := unsignedReceipt hash plan lease createdAt
  pure { receipt with receiptHash := hash.canonicalHash receipt.payload }

def ResearchReceiptRow.clashes (row other : ResearchReceiptRow) : Prop :=
  row.receipt.receiptId = other.receipt.receiptId ∨
    row.receipt.receiptHash = other.receipt.receiptHash ∨
    row.idempotencyKey = other.idempotencyKey ∨
    (row.receipt.workItemId = other.receipt.workItemId ∧
      row.receipt.attemptNumber = other.receipt.attemptNumber)

instance (row other : ResearchReceiptRow) : Decidable (row.clashes other) :=
  inferInstanceAs (Decidable (_ ∨ _))

def dispatchDraft (lease : ResearchWorkLease)
    (receipt : ResearchWorkDispatchReceipt) (latest : ResearchScheduleEvent)
    (databaseNow : Instant) : EventDraft where
  sequence := latest.sequence + 1
  eventType := .dispatched
  attemptNumber := lease.attemptNumber
  retryable := false
  leaseOwner := some lease.leaseOwner
  leaseToken := some lease.leaseToken
  leaseExpiresAt := some lease.leaseExpiresAt
  receiptId := some receipt.receiptId
  idempotencyKey := s!"{plan.idempotencyKey}:dispatched:{receipt.attemptNumber}"
  createdAt := databaseNow
  extraPayload := [("receipt_hash", .str receipt.receiptHash),
    ("dispatch_target", .str receipt.dispatchTarget.value),
    ("previous_event_hash", .str latest.eventHash)]

/-- Where Python's `upper` and `isalnum` know all of Unicode, these know ASCII: any other character
becomes `_`. -/
def safeReasonCode (value : String) : String :=
  let marked := value.toList.map fun character =>
    if character.toUpper.isAlphanum || character = '_' then character.toUpper else '_'
  let stripped := ((marked.dropWhile (· = '_')).reverse.dropWhile (· = '_')).reverse
  let normalized := if stripped = [] then "UNSPECIFIED_FAILURE".toList else stripped
  String.ofList (normalized.take 80)

def dispatchFailedDraft (maximum : ℕ) (lease : ResearchWorkLease) (reasonCode : String)
    (latest : ResearchScheduleEvent) (databaseNow : Instant) : EventDraft :=
  let safeCode := safeReasonCode reasonCode
  { sequence := latest.sequence + 1
    eventType := .failed
    attemptNumber := lease.attemptNumber
    retryable := lease.attemptNumber < maximum
    leaseOwner := some lease.leaseOwner
    leaseToken := some lease.leaseToken
    leaseExpiresAt := some lease.leaseExpiresAt
    idempotencyKey := s!"{lease.workItemId}:dispatch-failed:{lease.attemptNumber}:{safeCode}"
    createdAt := databaseNow
    extraPayload := [("failure_stage", .str "DISPATCH_PREPARATION"),
      ("reason_code", .str safeCode), ("previous_event_hash", .str latest.eventHash)] }

namespace SchedulerTables

variable (hash : Hashing) (maximum : ℕ) (tables : SchedulerTables)

def receiptOf (workItemId : String) (attemptNumber : ℕ) : Option ResearchReceiptRow :=
  tables.receipts.find? fun row =>
    row.receipt.workItemId = workItemId ∧ row.receipt.attemptNumber = attemptNumber

def addReceipt (row : ResearchReceiptRow) : Except Failure SchedulerTables := do
  raiseIf (∃ other ∈ tables.receipts, row.clashes other)
    ⟨.integrityError, "research_work_dispatch_receipts", []⟩
  pure { tables with receipts := tables.receipts ++ [row] }

def dispatchWork (lease : ResearchWorkLease) (databaseNow : Instant) (item : ResearchWorkItem) :
    Except Failure (ResearchWorkDispatchReceipt × SchedulerTables) := do
  let latest ← tables.requireActiveLease lease databaseNow
  let receipt ← buildDispatchReceipt hash item.plan lease databaseNow
  let withReceipt ← tables.addReceipt
    ⟨receipt, s!"{item.plan.idempotencyKey}:dispatch:{receipt.attemptNumber}"⟩
  let tables' ← withReceipt.appendEvent hash item.plan
    (dispatchDraft item.plan lease receipt latest databaseNow)
  pure (receipt, tables')

def commitDispatch (lease : ResearchWorkLease) (databaseNow : Instant) :
    Except Failure (ResearchWorkDispatchReceipt × SchedulerTables) :=
  match tables.receiptOf lease.workItemId lease.attemptNumber with
  | some existing => do
    raiseIf (existing.receipt.leaseToken ≠ lease.leaseToken)
      (fenceError "dispatch attempt belongs to another lease token")
    pure (existing.receipt, tables)
  | none =>
    match tables.lockedWork lease.workItemId with
    | none => .error (unknownWork lease.workItemId)
    | some item => tables.dispatchWork hash lease databaseNow item

def failDispatch (lease : ResearchWorkLease) (reasonCode : String) (databaseNow : Instant) :
    Except Failure (Bool × SchedulerTables) :=
  if ∃ event ∈ tables.events, event.idempotencyKey =
      s!"{lease.workItemId}:dispatch-failed:{lease.attemptNumber}:{safeReasonCode reasonCode}" then
    .ok (false, tables)
  else match tables.lockedWork lease.workItemId with
  | none => .error (unknownWork lease.workItemId)
  | some item => do
    let latest ← tables.requireActiveLease lease databaseNow
    let tables' ← tables.appendEvent hash item.plan
      (dispatchFailedDraft maximum lease reasonCode latest databaseNow)
    pure (true, tables')

end SchedulerTables

structure ResearchWorkExecutionLease where
  executionId : String
  receiptId : String
  receiptHash : String
  workItemId : String
  workKind : ResearchScheduleWorkKind
  consumerId : String
  executionToken : String
  dispatchAttemptNumber : ℕ
  acquiredAt : Instant
  leaseExpiresAt : Instant
  configManifestHash : String
deriving DecidableEq

structure ClaimExecutionRequest where
  consumerId : String
  leaseSeconds : ℤ
  workNotBefore : Instant
  databaseNow : Instant
  locked : List String := []
deriving DecidableEq

def ResearchScheduleEvent.isExecutable (event : ResearchScheduleEvent) (databaseNow : Instant) :
    Prop :=
  event.eventType = .dispatched ∨
    (event.eventType.isExecutionLease ∧ ∃ expires ∈ event.leaseExpiresAt, expires ≤ databaseNow)

instance (event : ResearchScheduleEvent) (databaseNow : Instant) :
    Decidable (event.isExecutable databaseNow) := inferInstanceAs (Decidable (_ ∨ _))

def executionIdOf (receipt : ResearchWorkDispatchReceipt) : String :=
  hash.stableId "research-work-execution" [.str receipt.receiptId]

namespace ClaimExecutionRequest

variable (request : ClaimExecutionRequest) (hash : Hashing) (plan : ResearchSchedulePlan)
  (receipt : ResearchWorkDispatchReceipt) (latest : ResearchScheduleEvent)

def lease : ResearchWorkExecutionLease where
  executionId := executionIdOf hash receipt
  receiptId := receipt.receiptId
  receiptHash := receipt.receiptHash
  workItemId := plan.workItemId
  workKind := plan.workKind
  consumerId := request.consumerId
  executionToken := hash.stableId "research-execution-lease"
    [.str (executionIdOf hash receipt), .int (latest.sequence + 1), .str request.consumerId,
      .instant request.databaseNow]
  dispatchAttemptNumber := receipt.attemptNumber
  acquiredAt := request.databaseNow
  leaseExpiresAt := request.databaseNow + seconds request.leaseSeconds
  configManifestHash := plan.configManifestHash

def leaseDraft : EventDraft :=
  let sequence := latest.sequence + 1
  { sequence := sequence
    eventType := if latest.eventType.isExecutionLease then .executionLeaseReclaimed
      else .executionLeaseAcquired
    attemptNumber := receipt.attemptNumber
    retryable := true
    leaseOwner := some request.consumerId
    leaseToken := some (request.lease hash plan receipt latest).executionToken
    leaseExpiresAt := some (request.lease hash plan receipt latest).leaseExpiresAt
    receiptId := some receipt.receiptId
    idempotencyKey :=
      s!"{plan.idempotencyKey}:execution-lease:{receipt.attemptNumber}:{sequence}"
    createdAt := request.databaseNow
    extraPayload := [("execution_id", .str (executionIdOf hash receipt)),
      ("receipt_hash", .str receipt.receiptHash),
      ("work_not_before", .instant request.workNotBefore),
      ("previous_event_hash", .str latest.eventHash)] }

end ClaimExecutionRequest

namespace SchedulerTables

variable (hash : Hashing) (maximum : ℕ) (tables : SchedulerTables)

def receiptById (receiptId : String) : Option ResearchReceiptRow :=
  tables.receipts.find? (·.receipt.receiptId = receiptId)

def receiptOfEvent (event : ResearchScheduleEvent) : Option ResearchReceiptRow :=
  event.receiptId.bind tables.receiptById

def admitsExecution (request : ClaimExecutionRequest) (item : ResearchWorkItem) : Prop :=
  (∃ event ∈ tables.latestEvent item.plan.workItemId, event.isExecutable request.databaseNow ∧
    (tables.receiptOfEvent event).isSome) ∧ request.workNotBefore ≤ item.plan.scheduledFor

instance (request : ClaimExecutionRequest) (item : ResearchWorkItem) :
    Decidable (tables.admitsExecution request item) := inferInstanceAs (Decidable (_ ∧ _))

def nextExecution (request : ClaimExecutionRequest) : Option ResearchWorkItem :=
  (Sequence.sortedBy ResearchWorkItem.order (tables.items.filter fun item =>
    tables.admitsExecution request item ∧ item.plan.workItemId ∉ request.locked)).head?

def claimExecution (request : ClaimExecutionRequest) :
    Except Failure (Option ResearchWorkExecutionLease × SchedulerTables) := do
  raiseIf (request.consumerId = "") ⟨.valueError, "consumer_id is required", []⟩
  raiseIf (request.leaseSeconds ≤ 0) ⟨.valueError, "execution lease must be positive", []⟩
  match tables.nextExecution request with
  | none => pure (none, tables)
  | some item =>
    match tables.latestEvent item.plan.workItemId with
    | none => .error (fenceError "research execution receipt is stale")
    | some latest =>
      match tables.receiptOfEvent latest with
      | none => .error (fenceError "research execution receipt is stale")
      | some row => do
        let tables' ← tables.appendEvent hash item.plan
          (request.leaseDraft hash item.plan row.receipt latest)
        pure (some (request.lease hash item.plan row.receipt latest), tables')

def requireActiveExecutionLease (lease : ResearchWorkExecutionLease) (databaseNow : Instant) :
    Except Failure ResearchScheduleEvent :=
  match tables.latestEvent lease.workItemId with
  | none => .error (fenceError "research execution lease is stale, expired, or reclaimed")
  | some latest => do
    raiseIf (¬latest.eventType.isExecutionLease ∨ latest.leaseOwner ≠ some lease.consumerId ∨
        latest.leaseToken ≠ some lease.executionToken ∨
        latest.attemptNumber ≠ lease.dispatchAttemptNumber ∨
        latest.receiptId ≠ some lease.receiptId ∨
        latest.leaseExpiresAt.all (· ≤ databaseNow))
      (fenceError "research execution lease is stale, expired, or reclaimed")
    pure latest

end SchedulerTables

def requireExecutionBinding (lease : ResearchWorkExecutionLease) (plan : ResearchSchedulePlan)
    (receipt : ResearchWorkDispatchReceipt) : Except Failure Unit :=
  raiseIf (lease.workItemId ≠ plan.workItemId ∨ lease.workItemId ≠ receipt.workItemId ∨
      lease.workKind ≠ plan.workKind ∨ lease.workKind ≠ receipt.workKind ∨
      lease.receiptId ≠ receipt.receiptId ∨ lease.receiptHash ≠ receipt.receiptHash ∨
      lease.dispatchAttemptNumber ≠ receipt.attemptNumber ∨
      lease.configManifestHash ≠ plan.configManifestHash ∨
      lease.configManifestHash ≠ receipt.configManifestHash)
    (fenceError "research execution lease binding is invalid")

def renewalDraft (lease : ResearchWorkExecutionLease)
    (receipt : ResearchWorkDispatchReceipt) (latest : ResearchScheduleEvent)
    (leaseExpiresAt databaseNow : Instant) : EventDraft :=
  let sequence := latest.sequence + 1
  { sequence := sequence
    eventType := .executionLeaseRenewed
    attemptNumber := receipt.attemptNumber
    retryable := true
    leaseOwner := some lease.consumerId
    leaseToken := some lease.executionToken
    leaseExpiresAt := some leaseExpiresAt
    receiptId := some receipt.receiptId
    idempotencyKey :=
      s!"{plan.idempotencyKey}:execution-renewal:{receipt.attemptNumber}:{sequence}"
    createdAt := databaseNow
    extraPayload := [("execution_id", .str lease.executionId),
      ("receipt_hash", .str receipt.receiptHash),
      ("previous_event_hash", .str latest.eventHash)] }

/-- The arguments of `record_execution_outcome` that say how the execution ended. -/
structure ExecutionOutcome where
  succeeded : Bool
  reasonCode : Option String
  result : Option ResearchWorkExecutionResult
deriving DecidableEq

namespace ExecutionOutcome

variable (outcome : ExecutionOutcome)

def eventType : ResearchScheduleEventType := if outcome.succeeded then .succeeded else .failed

def safeCode : Option String :=
  if outcome.succeeded then none
  else some (safeReasonCode ((outcome.reasonCode.filter (· ≠ "")).getD "EXECUTION_FAILED"))

def idempotencyKey (plan : ResearchSchedulePlan) (attempt : ℕ) : String :=
  let ending := outcome.safeCode.getD "OK"
  s!"{plan.idempotencyKey}:execution:{attempt}:{outcome.eventType.value}:{ending}"

def draft (maximum : ℕ) (plan : ResearchSchedulePlan) (lease : ResearchWorkExecutionLease)
    (receipt : ResearchWorkDispatchReceipt) (latest : ResearchScheduleEvent)
    (databaseNow : Instant) : EventDraft where
  sequence := latest.sequence + 1
  eventType := outcome.eventType
  attemptNumber := receipt.attemptNumber
  retryable := !outcome.succeeded && receipt.attemptNumber < maximum
  leaseOwner := some lease.consumerId
  leaseToken := some lease.executionToken
  leaseExpiresAt := some lease.leaseExpiresAt
  receiptId := some lease.receiptId
  idempotencyKey := outcome.idempotencyKey plan receipt.attemptNumber
  createdAt := databaseNow
  executionResult := outcome.result
  extraPayload := [("execution_id", .str lease.executionId),
    ("failure_stage", if outcome.succeeded then .null else .str "WORK_EXECUTION"),
    ("reason_code", .optStr outcome.safeCode),
    ("receipt_hash", .str receipt.receiptHash),
    ("result_hash", .optStr (outcome.result.map (·.resultHash))),
    ("execution_result", (outcome.result.map (·.payload)).getD .null),
    ("previous_event_hash", .str latest.eventHash)]

def checkResult (lease : ResearchWorkExecutionLease) (plan : ResearchSchedulePlan)
    (receipt : ResearchWorkDispatchReceipt) : Except Failure Unit :=
  raiseIf (∃ result ∈ outcome.result, result.executionId ≠ lease.executionId ∨
      result.receiptId ≠ receipt.receiptId ∨ result.workItemId ≠ plan.workItemId ∨
      result.workKind ≠ plan.workKind ∨ result.dispatchTarget ≠ receipt.dispatchTarget)
    (fenceError "research execution result binding is invalid")

end ExecutionOutcome

namespace SchedulerTables

variable (hash : Hashing) (maximum : ℕ) (tables : SchedulerTables)

def requireReceipt (receiptId : String) : Except Failure ResearchWorkDispatchReceipt :=
  match tables.receiptById receiptId with
  | none => .error (persistenceError s!"unknown dispatch receipt: {receiptId}")
  | some row => .ok row.receipt

def requireWork (workItemId : String) : Except Failure ResearchWorkItem :=
  match tables.lockedWork workItemId with
  | none => .error (unknownWork workItemId)
  | some item => .ok item

variable (lease : ResearchWorkExecutionLease)

def renewExecutionLease (leaseSeconds : ℤ)
    (databaseNow : Instant) : Except Failure (ResearchWorkExecutionLease × SchedulerTables) := do
  raiseIf (leaseSeconds ≤ 0) ⟨.valueError, "execution lease must be positive", []⟩
  let receipt ← tables.requireReceipt lease.receiptId
  let item ← tables.requireWork lease.workItemId
  requireExecutionBinding lease item.plan receipt
  let latest ← tables.requireActiveExecutionLease lease databaseNow
  let leaseExpiresAt := databaseNow + seconds leaseSeconds
  let tables' ← tables.appendEvent hash item.plan
    (renewalDraft item.plan lease receipt latest leaseExpiresAt databaseNow)
  pure ({ lease with leaseExpiresAt := leaseExpiresAt }, tables')

def usedContexts : List String :=
  (tables.events.filter (·.eventType = .succeeded)).flatMap fun event =>
    event.executionResult.elim [] (·.invocationContextHashes)

def requireUnusedInvocationContexts (result : Option ResearchWorkExecutionResult) :
    Except Failure Unit :=
  raiseIf (∃ made ∈ result, ∃ context ∈ made.invocationContextHashes,
      context ∈ tables.usedContexts)
    (fenceError "research execution reused an earlier model context")

def replayOutcome (existing : ResearchScheduleEvent) :
    Except Failure (Bool × SchedulerTables) := do
  raiseIf (existing.leaseToken ≠ some lease.executionToken)
    (fenceError "research execution outcome belongs to a stale worker")
  pure (false, tables)

def appendOutcome (outcome : ExecutionOutcome)
    (databaseNow : Instant) (item : ResearchWorkItem) (receipt : ResearchWorkDispatchReceipt) :
    Except Failure (Bool × SchedulerTables) := do
  let latest ← tables.requireActiveExecutionLease lease databaseNow
  tables.requireUnusedInvocationContexts outcome.result
  let tables' ← tables.appendEvent hash item.plan
    (outcome.draft maximum item.plan lease receipt latest databaseNow)
  pure (true, tables')

def recordExecutionOutcome (outcome : ExecutionOutcome)
    (databaseNow : Instant) : Except Failure (Bool × SchedulerTables) := do
  raiseIf (maximum = 0) ⟨.valueError, "maximum_attempts must be positive", []⟩
  raiseIf (outcome.succeeded ≠ outcome.result.isSome)
    ⟨.valueError, "successful execution requires exactly one typed result", []⟩
  let receipt ← tables.requireReceipt lease.receiptId
  let item ← tables.requireWork receipt.workItemId
  requireExecutionBinding lease item.plan receipt
  outcome.checkResult lease item.plan receipt
  raiseIf (tables.latestEvent item.plan.workItemId = none)
    (persistenceError "research work has no event history")
  match tables.events.find? fun event =>
      event.idempotencyKey = outcome.idempotencyKey item.plan receipt.attemptNumber with
  | some existing => tables.replayOutcome lease existing
  | none => tables.appendOutcome hash maximum lease outcome databaseNow item receipt

end SchedulerTables

/-- The transactions of planners, dispatchers and consumers. -/
inductive SchedulerAction
  | storePlan (plan : ResearchSchedulePlan) (createdAt : Instant)
  | claimNext (request : ClaimNextRequest)
  | commitDispatch (lease : ResearchWorkLease) (databaseNow : Instant)
  | failDispatch (lease : ResearchWorkLease) (reasonCode : String) (databaseNow : Instant)
  | claimExecution (request : ClaimExecutionRequest)
  | renewExecutionLease (lease : ResearchWorkExecutionLease) (leaseSeconds : ℤ)
      (databaseNow : Instant)
  | recordExecutionOutcome (lease : ResearchWorkExecutionLease) (outcome : ExecutionOutcome)
      (databaseNow : Instant)

/-- One transaction of a worker or of the planner. -/
def schedulerStep (maximum : ℕ) (tables : SchedulerTables) :
    SchedulerAction → Except Failure SchedulerTables
  | .storePlan plan createdAt => tables.storePlan hash plan createdAt
  | .claimNext request => (·.2) <$> tables.claimNext hash maximum request
  | .commitDispatch lease databaseNow => (·.2) <$> tables.commitDispatch hash lease databaseNow
  | .failDispatch lease reasonCode databaseNow =>
    (·.2) <$> tables.failDispatch hash maximum lease reasonCode databaseNow
  | .claimExecution request => (·.2) <$> tables.claimExecution hash request
  | .renewExecutionLease lease leaseSeconds databaseNow =>
    (·.2) <$> tables.renewExecutionLease hash lease leaseSeconds databaseNow
  | .recordExecutionOutcome lease outcome databaseNow =>
    (·.2) <$> tables.recordExecutionOutcome hash maximum lease outcome databaseNow

end AdaptiveQuant
