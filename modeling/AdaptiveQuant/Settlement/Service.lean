import AdaptiveQuant.Domain.Basic
import AdaptiveQuant.Lib.CivilDate
import AdaptiveQuant.Lib.Dict
import Mathlib.Data.String.Basic

/-! Cash settlement: the events of `domain/q1.py`, and `settlement/service.py`, which derives the
cash of an arm from them. -/

namespace AdaptiveQuant.Settlement

open Guard Sequence

def settlementError (message : String) : Failure := ⟨.settlementError, message, []⟩

inductive CashSettlementEventType
  | openingSettledCash
  | buySettledCashDebit
  | sellReceivableCreated
  | receivableSettled
deriving DecidableEq

def CashSettlementEventType.value : CashSettlementEventType → String
  | .openingSettledCash => "OPENING_SETTLED_CASH"
  | .buySettledCashDebit => "BUY_SETTLED_CASH_DEBIT"
  | .sellReceivableCreated => "SELL_RECEIVABLE_CREATED"
  | .receivableSettled => "RECEIVABLE_SETTLED"

def CashSettlementEventType.order : CashSettlementEventType → ℕ
  | .openingSettledCash => 0
  | .buySettledCashDebit => 1
  | .sellReceivableCreated => 2
  | .receivableSettled => 3

/-- The fields of `CashSettlementEvent`, before validation. -/
structure CashSettlementEventFields extends VersionedQ1Record where
  cashSettlementEventId : String
  runId : String
  armId : Q1ArmId
  eventType : CashSettlementEventType
  receivableId : Option String
  sourceFillId : Option String
  settlementPolicyVersion : String
  currency : String := "USD"
  settledCashDeltaUsd : Decimal
  unsettledReceivableDeltaUsd : Decimal
  grossAmountUsd : Decimal
  commissionUsd : Decimal
  tradeAt : Option Instant
  settlementDate : Option CivilDate
  effectiveAt : Instant
  calendarSessionId : String
  sourceCycleId : String
  workerFenceToken : String
  cycleAttemptCount : ℕ
  idempotencyKey : String
  eventHash : String
  createdAt : Instant
deriving DecidableEq

/-- The pattern `^[A-Z]{3}$`. -/
def isCurrency (text : String) : Bool :=
  text.length = 3 && text.toList.all Char.isUpper

def CashSettlementEventFields.fieldErrors (e : CashSettlementEventFields) : List FieldError :=
  e.toVersionedQ1Record.fieldErrors ++
    fieldCheck "currency" (isCurrency e.currency)
      "String should match pattern '^[A-Z]\x7b3\x7d$'" ++
    geCheck "gross_amount_usd" 0 e.grossAmountUsd ++ geCheck "commission_usd" 0 e.commissionUsd ++
    geCheck "cycle_attempt_count" 1 e.cycleAttemptCount

def CashSettlementEventFields.validate (e : CashSettlementEventFields) : Except Failure Unit := do
  raiseIf (e.fieldErrors ≠ []) (.validation "CashSettlementEvent" e.fieldErrors)
  raiseIf (e.eventType ∈ [CashSettlementEventType.sellReceivableCreated, .receivableSettled] ∧
      (e.receivableId.isNone ∨ e.settlementDate.isNone))
    (.record "CashSettlementEvent" "Receivable events require receivable_id and settlement_date")
  raiseIf (e.createdAt < e.effectiveAt)
    (.record "CashSettlementEvent" "Settlement event cannot be created before effective_at")

/-- `CashSettlementEvent`: fields that passed their validators. -/
abbrev CashSettlementEvent := Validated CashSettlementEventFields.validate

variable (hash : Hashing) (events : List CashSettlementEvent) (e : CashSettlementEvent)
  (ctx : EntryContext)

theorem CashSettlementEvent.checks :
    (e.val.eventType ∈ [CashSettlementEventType.sellReceivableCreated, .receivableSettled] →
      e.val.receivableId.isSome ∧ e.val.settlementDate.isSome) ∧
    e.val.effectiveAt ≤ e.val.createdAt := by
  have h := e.valid
  simp only [CashSettlementEventFields.validate, ok_iff, not_and, not_or, not_lt] at h
  refine ⟨fun htype => ?_, h.2.2⟩
  obtain ⟨hid, hdate⟩ := h.2.1 htype
  exact ⟨by simpa [Option.isSome_iff_ne_none] using hid,
    by simpa [Option.isSome_iff_ne_none] using hdate⟩

structure SettlementPolicyFields where
  version : String
  calendarVersion : String
  lagBusinessSessions : ℤ

/-- `SettlementPolicy.__post_init__`. -/
def SettlementPolicyFields.check (p : SettlementPolicyFields) : Except Failure Unit := do
  raiseIf (p.version = "") (settlementError "Settlement policy version is required")
  raiseIf (p.calendarVersion = "") (settlementError "Settlement calendar version is required")
  raiseIf (p.lagBusinessSessions < 0) (settlementError "Settlement lag cannot be negative")

abbrev SettlementPolicy := Validated SettlementPolicyFields.check

structure BusinessCalendarFields where
  version : String
  sessions : List CivilDate

/-- `BusinessCalendar.__post_init__`. -/
def BusinessCalendarFields.check (c : BusinessCalendarFields) : Except Failure Unit := do
  raiseIf (c.version = "") (settlementError "Business-calendar version is required")
  raiseIf (c.sessions = []) (settlementError "Business calendar must contain sessions")
  raiseIf (sortedBy id c.sessions.dedup ≠ c.sessions)
    (settlementError "Business calendar sessions must be unique and strictly increasing")

abbrev BusinessCalendar := Validated BusinessCalendarFields.check

/-- `bisect_right` in an increasing list: how many dates are not after `date`. -/
def bisectRight (sessions : List CivilDate) (date : CivilDate) : ℕ := sessions.countP (· ≤ date)

def BusinessCalendar.requireSession (c : BusinessCalendar) (sessionDate : CivilDate) :
    Except Failure Unit :=
  let index := bisectRight c.val.sessions sessionDate
  raiseIf (index = 0 ∨ c.val.sessions[index - 1]? ≠ some sessionDate)
    (settlementError s!"{sessionDate.isoformat} is not a calendar session")

def BusinessCalendar.addBusinessSessions (c : BusinessCalendar) (sessionDate : CivilDate)
    (count : ℤ) : Except Failure CivilDate := do
  raiseIf (count < 0) (settlementError "Business-session offset cannot be negative")
  c.requireSession sessionDate
  let start := bisectRight c.val.sessions sessionDate - 1
  match c.val.sessions[start + count.toNat]? with
  | some session => return session
  | none => .error (settlementError "Business calendar does not cover settlement date")

structure SettlementProvenanceFields where
  runId : String
  sourceCycleId : String
  configManifestHash : String
  codeVersion : String
  modelVersion : String
  sourceManifestHash : String
  workerFenceToken : String
  cycleAttemptCount : ℕ

/-- `SettlementProvenance.__post_init__`. -/
def SettlementProvenanceFields.check (p : SettlementProvenanceFields) : Except Failure Unit := do
  raiseIf (p.runId = "" ∨ p.sourceCycleId = "" ∨ p.configManifestHash = "" ∨ p.codeVersion = "" ∨
      p.modelVersion = "" ∨ p.sourceManifestHash = "" ∨ p.workerFenceToken = "")
    (settlementError "Complete settlement provenance is required")
  raiseIf (p.cycleAttemptCount = 0) (settlementError "Settlement cycle attempt must be positive")

abbrev SettlementProvenance := Validated SettlementProvenanceFields.check

def validatePolicyCalendar (policy : SettlementPolicy) (calendar : BusinessCalendar) :
    Except Failure Unit :=
  raiseIf (policy.val.calendarVersion ≠ calendar.val.version)
    (settlementError "Settlement policy and calendar versions differ")

/-- What the events of one settlement entry share. -/
structure EntryContext where
  createdAt : Instant
  calendarSessionId : String
  policy : SettlementPolicy
  provenance : SettlementProvenance

structure EventDraft where
  armId : Q1ArmId
  eventType : CashSettlementEventType
  receivableId : Option String := none
  sourceFillId : Option String := none
  settledDelta : Decimal := 0
  unsettledDelta : Decimal := 0
  grossAmount : Decimal
  commission : Decimal := 0
  tradeAt : Option Instant := none
  settlementDate : Option CivilDate := none
  effectiveAt : Instant

def EventDraft.identity (d : EventDraft) (ctx : EntryContext) : List (String × Canonical) :=
  [("run_id", .str ctx.provenance.val.runId), ("arm_id", .str d.armId.value),
    ("event_type", .str d.eventType.value), ("receivable_id", .optStr d.receivableId),
    ("source_fill_id", .optStr d.sourceFillId), ("settled_delta", .decimal d.settledDelta),
    ("unsettled_delta", .decimal d.unsettledDelta), ("effective_at", .instant d.effectiveAt),
    ("policy_version", .str ctx.policy.val.version),
    ("source_cycle_id", .str ctx.provenance.val.sourceCycleId)]

def EventDraft.content (d : EventDraft) (ctx : EntryContext) : List (String × Canonical) :=
  d.identity ctx ++
    [("gross_amount", .decimal d.grossAmount), ("commission", .decimal d.commission),
      ("trade_at", .optInstant d.tradeAt),
      ("settlement_date", .optStr (d.settlementDate.map (·.isoformat))),
      ("calendar_session_id", .str ctx.calendarSessionId),
      ("config_manifest_hash", .str ctx.provenance.val.configManifestHash),
      ("code_version", .str ctx.provenance.val.codeVersion),
      ("model_version", .str ctx.provenance.val.modelVersion),
      ("source_manifest_hash", .str ctx.provenance.val.sourceManifestHash)]

def EventDraft.eventId (d : EventDraft) (ctx : EntryContext) : String :=
  hash.stableId "q1-cash-event" [.dict (d.identity ctx)]

/-- The record that `_event` builds. -/
def EventDraft.fields (d : EventDraft) (ctx : EntryContext) :
    CashSettlementEventFields where
  configManifestHash := ctx.provenance.val.configManifestHash
  codeVersion := ctx.provenance.val.codeVersion
  modelVersion := ctx.provenance.val.modelVersion
  sourceManifestHash := ctx.provenance.val.sourceManifestHash
  cashSettlementEventId := d.eventId hash ctx
  runId := ctx.provenance.val.runId
  armId := d.armId
  eventType := d.eventType
  receivableId := d.receivableId
  sourceFillId := d.sourceFillId
  settlementPolicyVersion := ctx.policy.val.version
  settledCashDeltaUsd := d.settledDelta
  unsettledReceivableDeltaUsd := d.unsettledDelta
  grossAmountUsd := d.grossAmount
  commissionUsd := d.commission
  tradeAt := d.tradeAt
  settlementDate := d.settlementDate
  effectiveAt := d.effectiveAt
  calendarSessionId := ctx.calendarSessionId
  sourceCycleId := ctx.provenance.val.sourceCycleId
  workerFenceToken := ctx.provenance.val.workerFenceToken
  cycleAttemptCount := ctx.provenance.val.cycleAttemptCount
  idempotencyKey := hash.stableId "q1-cash-idem" [.str (d.eventId hash ctx)]
  eventHash := hash.canonicalHash (.dict (d.content ctx))
  createdAt := ctx.createdAt

def EventDraft.event (d : EventDraft) (ctx : EntryContext) :
    Except Failure CashSettlementEvent :=
  Guard.validate CashSettlementEventFields.validate (d.fields hash ctx)

def recordOpeningSettledCash (armId : Q1ArmId)
    (amountUsd : Decimal) (effectiveAt : Instant) : Except Failure CashSettlementEvent := do
  raiseIf (amountUsd < 0) (settlementError "Opening settled cash cannot be negative")
  EventDraft.event hash
    { armId := armId
      eventType := .openingSettledCash
      settledDelta := amountUsd
      grossAmount := amountUsd
      effectiveAt := effectiveAt } ctx

structure FillCash where
  armId : Q1ArmId
  fillId : String
  tradeAt : Instant
  fillNotionalUsd : Decimal
  commissionUsd : Decimal

def recordBuyCashDebit (fill : FillCash) :
    Except Failure CashSettlementEvent := do
  raiseIf (fill.fillNotionalUsd ≤ 0 ∨ fill.commissionUsd < 0)
    (settlementError "BUY fill notional must be positive and commission non-negative")
  EventDraft.event hash
    { armId := fill.armId
      eventType := .buySettledCashDebit
      sourceFillId := some fill.fillId
      settledDelta := -(fill.fillNotionalUsd + fill.commissionUsd)
      grossAmount := fill.fillNotionalUsd
      commission := fill.commissionUsd
      tradeAt := some fill.tradeAt
      effectiveAt := fill.tradeAt } ctx

def receivableIdOf (fill : FillCash) : String :=
  hash.stableId "q1-receivable" [.str ctx.provenance.val.runId, .str fill.armId.value,
    .str fill.fillId, .str ctx.policy.val.version]

def sellDraft (fill : FillCash) (settlementDate : CivilDate) :
    EventDraft where
  armId := fill.armId
  eventType := .sellReceivableCreated
  receivableId := some (receivableIdOf hash ctx fill)
  sourceFillId := some fill.fillId
  unsettledDelta := fill.fillNotionalUsd - fill.commissionUsd
  grossAmount := fill.fillNotionalUsd
  commission := fill.commissionUsd
  tradeAt := some fill.tradeAt
  settlementDate := some settlementDate
  effectiveAt := fill.tradeAt

def recordSellReceivable (calendar : BusinessCalendar)
    (tradeSession : CivilDate) (fill : FillCash) : Except Failure CashSettlementEvent := do
  validatePolicyCalendar ctx.policy calendar
  calendar.requireSession tradeSession
  raiseIf (fill.fillNotionalUsd ≤ 0 ∨ fill.commissionUsd < 0)
    (settlementError "SELL fill notional must be positive and commission non-negative")
  raiseIf (fill.fillNotionalUsd - fill.commissionUsd ≤ 0)
    (settlementError "SELL net proceeds must be positive")
  let settlementDate ← calendar.addBusinessSessions tradeSession ctx.policy.val.lagBusinessSessions
  (sellDraft hash ctx fill settlementDate).event hash ctx

def validateUniqueEvents : Except Failure Unit := do
  raiseIf (¬(events.map (·.val.cashSettlementEventId)).Nodup)
    (settlementError "Duplicate cash-settlement event ID")
  raiseIf (¬(events.map (·.val.idempotencyKey)).Nodup)
    (settlementError "Duplicate cash-settlement idempotency key")

def createdId : Option String :=
  if e.val.eventType = .sellReceivableCreated then e.val.receivableId else none

def settledId : Option String :=
  if e.val.eventType = .receivableSettled then e.val.receivableId else none

def createdByReceivable : Dict String CashSettlementEvent :=
  events.foldl (fun d e => (createdId e).elim d fun key => d.set key e) .empty

def isDue (throughSession : CivilDate)
    (entry : String × CashSettlementEvent) : Bool :=
  entry.1 ∉ events.filterMap settledId ∧ entry.2.val.settlementDate.any (· ≤ throughSession)

def settlementDraft (entry : String × CashSettlementEvent) (effectiveAt : Instant) :
    EventDraft where
  armId := entry.2.val.armId
  eventType := .receivableSettled
  receivableId := some entry.1
  sourceFillId := entry.2.val.sourceFillId
  settledDelta := entry.2.val.unsettledReceivableDeltaUsd
  unsettledDelta := -entry.2.val.unsettledReceivableDeltaUsd
  grossAmount := entry.2.val.grossAmountUsd
  commission := entry.2.val.commissionUsd
  tradeAt := entry.2.val.tradeAt
  settlementDate := entry.2.val.settlementDate
  effectiveAt := effectiveAt

/-- The arguments of `settle_due_receivables` apart from the events. -/
structure SettleArgs where
  throughSession : CivilDate
  effectiveAt : Instant
  ctx : EntryContext
  calendar : BusinessCalendar

def settleDueReceivables (args : SettleArgs) :
    Except Failure (List CashSettlementEvent) := do
  validatePolicyCalendar args.ctx.policy args.calendar
  args.calendar.requireSession args.throughSession
  validateUniqueEvents events
  let due := (createdByReceivable events).sortedItems.filter (isDue events args.throughSession)
  due.mapM fun entry => (settlementDraft entry args.effectiveAt).event hash args.ctx

structure CashBalancesFields where
  settledCashUsd : Decimal
  unsettledReceivables : List (String × Decimal × CivilDate)
deriving DecidableEq

/-- `CashBalances.__post_init__`. -/
def CashBalancesFields.check (b : CashBalancesFields) : Except Failure Unit := do
  raiseIf (b.settledCashUsd < 0) (settlementError "Settled cash cannot be negative")
  raiseIf (∃ receivable ∈ b.unsettledReceivables, receivable.2.1 ≤ 0)
    (settlementError "Unsettled receivables must be positive")

abbrev CashBalances := Validated CashBalancesFields.check

def CashBalances.unsettledReceivablesUsd (b : CashBalances) : Decimal :=
  (b.val.unsettledReceivables.map (·.2.1)).sum

abbrev OpenReceivables := Dict String (Decimal × CivilDate)

def moveReceivable (open_ : OpenReceivables) (e : CashSettlementEvent) :
    Except Failure OpenReceivables :=
  match e.val.eventType with
  | .sellReceivableCreated =>
    match e.val.receivableId, e.val.settlementDate with
    | some key, some date => do
      raiseIf (key ∈ open_.keys) (settlementError "SELL fill created more than one receivable")
      return open_.set key (e.val.unsettledReceivableDeltaUsd, date)
    | _, _ => .error (settlementError "SELL receivable has incomplete identity")
  | .receivableSettled =>
    match e.val.receivableId with
    | none => .error (settlementError "Settlement event has no receivable identity")
    | some key =>
      match open_.get? key with
      | none => .error (settlementError "Settlement event has no open receivable")
      | some receivable => do
        raiseIf (receivable.1 ≠ -e.val.unsettledReceivableDeltaUsd)
          (settlementError "Settlement amount differs from receivable")
        return open_.filter fun other _ => other ≠ key
  | _ => .ok open_

structure ReplayState where
  settled : Decimal
  receivables : OpenReceivables

def replayEvent (s : ReplayState) (e : CashSettlementEvent) : Except Failure ReplayState := do
  let settled := s.settled + e.val.settledCashDeltaUsd
  let receivables ← moveReceivable s.receivables e
  raiseIf (settled < 0) (settlementError "BUY fill would consume more than settled cash")
  return ⟨settled, receivables⟩

def visibleEvents (asOf : Instant) : List CashSettlementEvent :=
  events.filter fun e => e.val.effectiveAt ≤ asOf ∧ e.val.createdAt ≤ asOf

def replayKey : Instant ×ₗ ℕ ×ₗ String :=
  toLex (e.val.effectiveAt, toLex (e.val.eventType.order, e.val.cashSettlementEventId))

def orderedEvents (asOf : Instant) : List CashSettlementEvent :=
  sortedBy replayKey (visibleEvents events asOf)

def ReplayState.balances (s : ReplayState) : CashBalancesFields where
  settledCashUsd := s.settled
  unsettledReceivables := s.receivables.sortedItems.map fun entry => (entry.1, entry.2.1, entry.2.2)

def applySettlementEvents (asOf : Instant) :
    Except Failure CashBalances := do
  validateUniqueEvents events
  let s ← (orderedEvents events asOf).foldlM replayEvent ⟨0, .empty⟩
  Guard.validate CashBalancesFields.check s.balances

end AdaptiveQuant.Settlement
