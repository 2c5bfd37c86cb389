import AdaptiveQuant.Persistence.OrderEvents
import AdaptiveQuant.Runtime.ArmState

/-! The tables of the Q1 arms of `persistence/q1_runtime.py`, and `CashSettlementRepository` of
`persistence/q1.py`. -/

namespace AdaptiveQuant.Settlement

open Guard Sequence List

def q1RuntimePersistenceError (message : String) : Failure :=
  ⟨.q1RuntimePersistenceError, message, []⟩

structure ArmKey where
  runId : String
  armId : Q1ArmId
deriving DecidableEq

def UnsettledReceivable.asPayload (r : UnsettledReceivable) : Canonical :=
  .dict [("receivable_id", .str r.val.receivableId), ("source_fill_id", .str r.val.sourceFillId),
    ("amount_usd", .decimal r.val.amountUsd),
    ("settlement_date", .str r.val.settlementDate.isoformat),
    ("created_at", .instant r.val.createdAt)]

def Q1ArmState.asPayload (s : Q1ArmState) : Canonical :=
  .dict [("schema_version", .str "q1_arm_state_v1"), ("algorithm_version", .str q1AlgorithmVersion),
    ("arm_id", .str s.val.armId.value), ("initial_nav_usd", .decimal s.val.initialNavUsd),
    ("settled_cash_usd", .decimal s.val.settledCashUsd),
    ("unsettled_cash_usd", .decimal s.unsettledCashUsd),
    ("unsettled_receivables", .list ((sortedBy (·.val.receivableId)
      s.val.unsettledReceivables).map UnsettledReceivable.asPayload)),
    ("positions", .dict (s.val.positions.sortedItems.map fun item => (item.1, .decimal item.2))),
    ("sequence", .int s.val.sequence), ("evaluation_anchor_id", .optStr s.val.evaluationAnchorId)]

structure ArmStateSnapshotRow where
  armStateSnapshotId : String
  runId : String
  armId : Q1ArmId
  sequence : ℕ
  stateHash : String
  state : Q1ArmState
  createdAt : Instant
deriving DecidableEq

def ArmStateSnapshotRow.key (row : ArmStateSnapshotRow) : ArmKey := ⟨row.runId, row.armId⟩

def latestSnapshot (rows : List ArmStateSnapshotRow) (key : ArmKey) : Option ArmStateSnapshotRow :=
  (sortedBy (fun row => toLex (row.sequence, row.armStateSnapshotId))
    (rows.filter (·.key = key))).getLast?

def latestArmState (rows : List ArmStateSnapshotRow) (key : ArmKey) : Option Q1ArmState :=
  (latestSnapshot rows key).map (·.state)

def snapshotRow (hash : Hashing) (runId : String) (state : Q1ArmState) (sourceCycleId : String)
    (createdAt : Instant) : ArmStateSnapshotRow where
  armStateSnapshotId := hash.stableId "q1-arm-state" [.str runId, .str state.val.armId.value,
    .int state.val.sequence, .str sourceCycleId, .str (hash.canonicalHash state.asPayload)]
  runId := runId
  armId := state.val.armId
  sequence := state.val.sequence
  stateHash := hash.canonicalHash state.asPayload
  state := state
  createdAt := createdAt

def appendArmState (hash : Hashing) (rows : List ArmStateSnapshotRow) (runId : String)
    (state : Q1ArmState) (sourceCycleId : String) (createdAt : Instant)
    (expectedPreviousSequence : Option ℕ) : Except Failure (List ArmStateSnapshotRow) := do
  let current := latestArmState rows ⟨runId, state.val.armId⟩
  raiseIf (current.map (·.val.sequence) ≠ expectedPreviousSequence)
    (q1RuntimePersistenceError
      s!"Arm {state.val.armId.value} state changed during Q1 preparation")
  let expectedSequence := current.elim 0 (·.val.sequence + 1)
  raiseIf (state.val.sequence ≠ expectedSequence)
    (q1RuntimePersistenceError
      s!"Arm {state.val.armId.value} sequence must advance to {expectedSequence}")
  let row := snapshotRow hash runId state sourceCycleId createdAt
  match rows.find? fun other => other.armStateSnapshotId = row.armStateSnapshotId with
  | some existing => do
    raiseIf (existing.stateHash ≠ row.stateHash)
      (q1RuntimePersistenceError "Q1 arm-state identity conflict")
    return rows
  | none => return rows ++ [row]

structure Q1Fill extends Fill where
  runId : String
  quoteId : String
  executionScenarioId : String
  fillHash : String

def Q1Fill.key (f : Q1Fill) : ArmKey := ⟨f.runId, f.armId⟩

def appendFill (rows : List Q1Fill) (fill : Q1Fill) : Except Failure (List Q1Fill) :=
  match rows.find? fun row => row.fillId = fill.fillId with
  | some existing => do
    raiseIf (existing.fillHash ≠ fill.fillHash)
      (q1RuntimePersistenceError "Q1 fill identity conflict")
    return rows
  | none =>
    match rows.find? fun row => row.orderIntentId = fill.orderIntentId ∧
        row.quoteId = fill.quoteId ∧ row.executionScenarioId = fill.executionScenarioId with
    | some duplicate => do
      raiseIf (duplicate.fillHash ≠ fill.fillHash)
        (q1RuntimePersistenceError "Order/quote/scenario already produced a different fill")
      return rows
    | none => return rows ++ [fill]

def CashSettlementEventFields.key (e : CashSettlementEventFields) : ArmKey := ⟨e.runId, e.armId⟩

def identityMatch (events : List CashSettlementEvent) (event : CashSettlementEvent) :
    Option CashSettlementEvent :=
  match event.val.receivableId.bind fun key => events.find? fun row =>
      row.val.receivableId = some key ∧ row.val.eventType = event.val.eventType with
  | some row => some row
  | none => event.val.sourceFillId.bind fun key => events.find? fun row =>
      row.val.sourceFillId = some key ∧ row.val.eventType = event.val.eventType

def appendCashEvent (cycles : List PaperCycleRow) (databaseClock : Option Instant)
    (events : List CashSettlementEvent) (event : CashSettlementEvent) :
    Except Failure (List CashSettlementEvent) :=
  match events.find? fun row => row.val.idempotencyKey = event.val.idempotencyKey with
  | some existing => do
    raiseIf (existing.val.eventHash ≠ event.val.eventHash)
      (q1PersistenceConflict "Settlement idempotency key has different immutable content")
    return events
  | none =>
    match identityMatch events event with
    | some existing => do
      raiseIf (existing.val.eventHash ≠ event.val.eventHash)
        (q1PersistenceConflict "Settlement economic identity has different immutable content")
      return events
    | none => do
      let _ ← requireCycleFence cycles event.val.sourceCycleId event.val.workerFenceToken
        event.val.cycleAttemptCount event.val.createdAt databaseClock
      raiseIf (event.val.cashSettlementEventId ∈ events.map (·.val.cashSettlementEventId))
        ⟨.integrityError,
          "UNIQUE constraint failed: cash_settlement_events.cash_settlement_event_id", []⟩
      return events ++ [event]

def columnScale : Decimal := 10 ^ 10

/-- What a column of type `Numeric(38, 10)` keeps of an amount: it is rounded, halves away from
zero. -/
def numericColumn (amount : Decimal) : Decimal :=
  (if 0 ≤ amount then ⌊amount * columnScale + 1 / 2⌋ else -⌊-amount * columnScale + 1 / 2⌋ : ℤ) /
    columnScale

structure CashSettlementEventRow where
  key : ArmKey
  settledCashDeltaUsd : Decimal
  unsettledReceivableDeltaUsd : Decimal
  effectiveAt : Instant
  createdAt : Instant

def cashRow (event : CashSettlementEvent) : CashSettlementEventRow where
  key := event.val.key
  settledCashDeltaUsd := numericColumn event.val.settledCashDeltaUsd
  unsettledReceivableDeltaUsd := numericColumn event.val.unsettledReceivableDeltaUsd
  effectiveAt := event.val.effectiveAt
  createdAt := event.val.createdAt

def cashBalances (rows : List CashSettlementEventRow) (key : ArmKey) (asOf : Instant) :
    Decimal × Decimal :=
  let selected := rows.filter fun row =>
    row.key = key ∧ row.effectiveAt ≤ asOf ∧ row.createdAt ≤ asOf
  ((selected.map (·.settledCashDeltaUsd)).sum, (selected.map (·.unsettledReceivableDeltaUsd)).sum)

theorem appendArmState_eq_ok {hash : Hashing} {rows rows'} {runId sourceCycleId : String}
    {state : Q1ArmState} {createdAt : Instant} {expected : Option ℕ}
    (h : appendArmState hash rows runId state sourceCycleId createdAt expected = .ok rows') :
    (latestArmState rows ⟨runId, state.val.armId⟩).map (·.val.sequence) = expected ∧
      state.val.sequence =
        (latestArmState rows ⟨runId, state.val.armId⟩).elim 0 (·.val.sequence + 1) ∧
      (rows' = rows ++ [snapshotRow hash runId state sourceCycleId createdAt] ∨
        ∃ row ∈ rows, row.armStateSnapshotId =
          (snapshotRow hash runId state sourceCycleId createdAt).armStateSnapshotId) := by
  simp only [appendArmState, ok_iff, ne_eq, not_not] at h
  obtain ⟨hexpected, hsequence, h⟩ := h
  refine ⟨hexpected, hsequence, ?_⟩
  split at h
  · rename_i existing hfind
    exact .inr ⟨existing, mem_of_find?_eq_some hfind, by simpa using List.find?_some hfind⟩
  · rw [pure_eq_ok] at h
    exact .inl h.symm

theorem appendFill_eq_ok {rows rows'} {fill : Q1Fill} (h : appendFill rows fill = .ok rows') :
    (rows' = rows ++ [fill] ∧ ∀ row ∈ rows, row.fillId ≠ fill.fillId) ∨
      ∃ row ∈ rows, row.fillHash = fill.fillHash := by
  unfold appendFill at h
  split at h
  · rename_i existing hfind
    simp only [ok_iff, ne_eq, not_not] at h
    exact .inr ⟨existing, mem_of_find?_eq_some hfind, h.1⟩
  · rename_i hnew
    split at h
    · rename_i duplicate hfind
      simp only [ok_iff, ne_eq, not_not] at h
      exact .inr ⟨duplicate, mem_of_find?_eq_some hfind, h.1⟩
    · rw [pure_eq_ok] at h
      exact .inl ⟨h.symm, by simpa using hnew⟩

def SameIdentity (row event : CashSettlementEvent) : Prop :=
  row.val.eventType = event.val.eventType ∧
    ((∃ key, event.val.receivableId = some key ∧ row.val.receivableId = some key) ∨
      ∃ key, event.val.sourceFillId = some key ∧ row.val.sourceFillId = some key)

theorem sameIdentity_of_match {events event row} (h : identityMatch events event = some row) :
    row ∈ events ∧ SameIdentity row event := by
  unfold identityMatch at h
  split at h
  · rename_i found hfound
    obtain ⟨key, hkey, hfind⟩ := Option.bind_eq_some_iff.mp hfound
    obtain rfl := Option.some.inj h
    have hboth : found.val.receivableId = some key ∧ found.val.eventType = event.val.eventType := by
      simpa using List.find?_some hfind
    exact ⟨mem_of_find?_eq_some hfind, hboth.2, .inl ⟨key, hkey, hboth.1⟩⟩
  · obtain ⟨key, hkey, hfind⟩ := Option.bind_eq_some_iff.mp h
    have hboth : row.val.sourceFillId = some key ∧ row.val.eventType = event.val.eventType := by
      simpa using List.find?_some hfind
    exact ⟨mem_of_find?_eq_some hfind, hboth.2, .inr ⟨key, hkey, hboth.1⟩⟩

theorem not_sameIdentity_of_none {events event} (h : identityMatch events event = none) :
    ∀ row ∈ events, ¬SameIdentity row event := by
  rintro row hrow ⟨htype, hsame⟩
  unfold identityMatch at h
  split at h
  · cases h
  · rename_i hnone
    rcases hsame with ⟨key, hkey, hrowkey⟩ | ⟨key, hkey, hrowkey⟩
    · rw [hkey, Option.bind_some, List.find?_eq_none] at hnone
      exact hnone row hrow (by simp [hrowkey, htype])
    · rw [hkey, Option.bind_some, List.find?_eq_none] at h
      exact h row hrow (by simp [hrowkey, htype])

theorem appendCashEvent_eq_ok {cycles databaseClock events events' event}
    (h : appendCashEvent cycles databaseClock events event = .ok events') :
    (events' = events ++ [event] ∧ ∀ row ∈ events, ¬SameIdentity row event) ∨
      events' = events ∧ ∃ row ∈ events,
        row.val.idempotencyKey = event.val.idempotencyKey ∨ SameIdentity row event := by
  unfold appendCashEvent at h
  split at h
  · rename_i existing hfind
    simp only [ok_iff] at h
    exact .inr ⟨h.2.symm, existing, mem_of_find?_eq_some hfind,
      .inl (by simpa using List.find?_some hfind)⟩
  · split at h
    · rename_i existing hmatch
      simp only [ok_iff] at h
      obtain ⟨hmem, hsame⟩ := sameIdentity_of_match hmatch
      exact .inr ⟨h.2.symm, existing, hmem, .inr hsame⟩
    · rename_i hmatch
      simp only [ok_iff] at h
      obtain ⟨-, -, -, rfl⟩ := h
      exact .inl ⟨rfl, not_sameIdentity_of_none hmatch⟩

/-- The amount fits a `Numeric(38, 10)` column. -/
def TenDecimals (amount : Decimal) : Prop := ∃ k : ℤ, amount = k / columnScale

theorem numericColumn_eq_self {amount : Decimal} (h : TenDecimals amount) :
    numericColumn amount = amount := by
  obtain ⟨k, rfl⟩ := h
  have hscale : columnScale ≠ 0 := by norm_num [columnScale]
  have hfloor : ∀ n : ℤ, ⌊(n : ℚ) + 1 / 2⌋ = n := fun n => by
    rw [Int.floor_intCast_add]
    norm_num
  unfold numericColumn
  rw [← neg_div, div_mul_cancel₀ _ hscale, div_mul_cancel₀ _ hscale, hfloor,
    show -(k : ℚ) = ((-k : ℤ) : ℚ) from (Int.cast_neg k).symm, hfloor, neg_neg, ite_self]

end AdaptiveQuant.Settlement
