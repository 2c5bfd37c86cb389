import AdaptiveQuant.Persistence.ResearchScheduler

/-! What one transaction of the research scheduler can do to its tables. -/

namespace AdaptiveQuant

open Guard Sequence

def ResearchScheduleEvent.isFinal (event : ResearchScheduleEvent) : Prop :=
  event.eventType = .succeeded ∨ (event.eventType = .failed ∧ event.retryable = false)

inductive WorkLease
  | dispatch (lease : ResearchWorkLease)
  | execution (lease : ResearchWorkExecutionLease)
deriving DecidableEq

namespace WorkLease

def workItemId : WorkLease → String
  | .dispatch lease => lease.workItemId
  | .execution lease => lease.workItemId

def token : WorkLease → String
  | .dispatch lease => lease.leaseToken
  | .execution lease => lease.executionToken

def holder : WorkLease → Bool × String × String × ℕ
  | .dispatch lease => (false, lease.leaseOwner, lease.leaseToken, lease.attemptNumber)
  | .execution lease => (true, lease.consumerId, lease.executionToken, lease.dispatchAttemptNumber)

/-- Whether a lease passes the check that every call of its holder makes. -/
def Active (tables : SchedulerTables) (databaseNow : Instant) : WorkLease → Prop
  | .dispatch lease => ∃ latest, tables.requireActiveLease lease databaseNow = .ok latest
  | .execution lease => ∃ latest, tables.requireActiveExecutionLease lease databaseNow = .ok latest

def NamedBy (event : ResearchScheduleEvent) (databaseNow : Instant) : WorkLease → Prop
  | .dispatch lease => event.eventType.isDispatchLease ∧
      event.leaseOwner = some lease.leaseOwner ∧ event.leaseToken = some lease.leaseToken ∧
      event.attemptNumber = lease.attemptNumber ∧
      ∃ expires ∈ event.leaseExpiresAt, databaseNow < expires
  | .execution lease => event.eventType.isExecutionLease ∧
      event.leaseOwner = some lease.consumerId ∧ event.leaseToken = some lease.executionToken ∧
      event.attemptNumber = lease.dispatchAttemptNumber ∧
      event.receiptId = some lease.receiptId ∧
      ∃ expires ∈ event.leaseExpiresAt, databaseNow < expires

end WorkLease

def SchedulerAction.lease : SchedulerAction → Option (WorkLease × Instant)
  | .storePlan _ _ => none
  | .claimNext _ => none
  | .commitDispatch lease databaseNow => some (.dispatch lease, databaseNow)
  | .failDispatch lease _ databaseNow => some (.dispatch lease, databaseNow)
  | .claimExecution _ => none
  | .renewExecutionLease lease _ databaseNow => some (.execution lease, databaseNow)
  | .recordExecutionOutcome lease _ databaseNow => some (.execution lease, databaseNow)

inductive Grants (hash : Hashing) (maximum : ℕ) (tables : SchedulerTables) :
    SchedulerAction → WorkLease → Prop
  | dispatch {request : ClaimNextRequest} {lease : ResearchWorkLease} {tables' : SchedulerTables}
      (claimed : tables.claimNext hash maximum request = .ok (.leased lease, tables')) :
      Grants hash maximum tables (.claimNext request) (.dispatch lease)
  | execution {request : ClaimExecutionRequest} {lease : ResearchWorkExecutionLease}
      {tables' : SchedulerTables}
      (claimed : tables.claimExecution hash request = .ok (some lease, tables')) :
      Grants hash maximum tables (.claimExecution request) (.execution lease)

/-- The event that an action may add after the latest one of its item. -/
inductive Follows (hash : Hashing) (maximum : ℕ) (tables : SchedulerTables)
    (plan : ResearchSchedulePlan) (latest : ResearchScheduleEvent) :
    SchedulerAction → EventDraft → Prop
  | leased (request : ClaimNextRequest) (claimable : latest.isClaimable request.databaseNow)
      (within : latest.attemptNumber + 1 ≤ maximum) :
      Follows hash maximum tables plan latest (.claimNext request)
        (request.leaseDraft hash plan latest)
  | exhausted (request : ClaimNextRequest) (claimable : latest.isClaimable request.databaseNow) :
      Follows hash maximum tables plan latest (.claimNext request)
        (request.exhaustedDraft plan latest)
  | dispatchFailed (lease : ResearchWorkLease) (reasonCode : String) (databaseNow : Instant)
      (same : lease.workItemId = plan.workItemId)
      (active : (WorkLease.dispatch lease).NamedBy latest databaseNow) :
      Follows hash maximum tables plan latest (.failDispatch lease reasonCode databaseNow)
        (dispatchFailedDraft maximum lease reasonCode latest databaseNow)
  | executionLeased (request : ClaimExecutionRequest) (row : ResearchReceiptRow)
      (executable : latest.isExecutable request.databaseNow)
      (named : tables.receiptOfEvent latest = some row) :
      Follows hash maximum tables plan latest (.claimExecution request)
        (request.leaseDraft hash plan row.receipt latest)
  | renewed (lease : ResearchWorkExecutionLease) (leaseSeconds : ℤ) (databaseNow : Instant)
      (receipt : ResearchWorkDispatchReceipt) (expires : Instant)
      (same : lease.workItemId = plan.workItemId)
      (active : (WorkLease.execution lease).NamedBy latest databaseNow)
      (bound : receipt.receiptId = lease.receiptId ∧
        receipt.attemptNumber = lease.dispatchAttemptNumber) :
      Follows hash maximum tables plan latest (.renewExecutionLease lease leaseSeconds databaseNow)
        (renewalDraft plan lease receipt latest expires databaseNow)
  | ended (lease : ResearchWorkExecutionLease) (outcome : ExecutionOutcome) (databaseNow : Instant)
      (receipt : ResearchWorkDispatchReceipt) (same : lease.workItemId = plan.workItemId)
      (active : (WorkLease.execution lease).NamedBy latest databaseNow)
      (bound : receipt.receiptId = lease.receiptId ∧
        receipt.attemptNumber = lease.dispatchAttemptNumber) :
      Follows hash maximum tables plan latest (.recordExecutionOutcome lease outcome databaseNow)
        (outcome.draft maximum plan lease receipt latest databaseNow)

inductive TableChange (hash : Hashing) (maximum : ℕ) (tables : SchedulerTables) :
    SchedulerAction → SchedulerTables → Prop
  | kept (action : SchedulerAction) : TableChange hash maximum tables action tables
  | planned (plan : ResearchSchedulePlan) (createdAt : Instant)
      (fresh : tables.lockedWork plan.workItemId = none) :
      TableChange hash maximum tables (.storePlan plan createdAt)
        ⟨tables.items ++ [⟨plan, createdAt⟩],
          tables.events ++ [(SchedulerTables.plannedDraft plan createdAt).row hash plan],
          tables.receipts⟩
  | appended (item : ResearchWorkItem) (latest : ResearchScheduleEvent) (draft : EventDraft)
      {action : SchedulerAction} (stored : item ∈ tables.items)
      (found : tables.latestEvent item.plan.workItemId = some latest)
      (follows : Follows hash maximum tables item.plan latest action draft) :
      TableChange hash maximum tables action
        { tables with events := tables.events ++ [draft.row hash item.plan] }
  | dispatched (item : ResearchWorkItem) (latest : ResearchScheduleEvent)
      (lease : ResearchWorkLease) (databaseNow : Instant) (row : ResearchReceiptRow)
      (stored : item ∈ tables.items)
      (found : tables.latestEvent item.plan.workItemId = some latest)
      (same : lease.workItemId = item.plan.workItemId)
      (active : (WorkLease.dispatch lease).NamedBy latest databaseNow)
      (named : row.receipt.workItemId = item.plan.workItemId ∧
        row.receipt.attemptNumber = lease.attemptNumber)
      (fresh : ∀ other ∈ tables.receipts, ¬row.clashes other) :
      TableChange hash maximum tables (.commitDispatch lease databaseNow)
        ⟨tables.items, tables.events ++
          [(dispatchDraft item.plan lease row.receipt latest databaseNow).row hash item.plan],
          tables.receipts ++ [row]⟩

section Changes

variable {hash : Hashing} {maximum : ℕ} {tables tables' : SchedulerTables}

theorem SchedulerTables.appendEvent_ok {plan} {draft : EventDraft}
    (ok : tables.appendEvent hash plan draft = .ok tables') :
    tables' = { tables with events := tables.events ++ [draft.row hash plan] } := by
  simp only [appendEvent, ok_iff] at ok
  obtain ⟨-, -, rfl⟩ := ok
  rfl

theorem SchedulerTables.lockedWork_mem {workItemId : String} {item}
    (found : tables.lockedWork workItemId = some item) :
    item ∈ tables.items ∧ item.plan.workItemId = workItemId :=
  ⟨List.mem_of_find?_eq_some found, by simpa using List.find?_some found⟩

theorem SchedulerTables.requireWork_ok {workItemId : String} {item}
    (ok : tables.requireWork workItemId = .ok item) :
    item ∈ tables.items ∧ item.plan.workItemId = workItemId := by
  unfold requireWork at ok
  split at ok
  · cases ok
  · rename_i found
    cases ok
    exact lockedWork_mem found

variable {databaseNow : Instant}

theorem not_all_le {expires : Option Instant} :
    ¬expires.all (· ≤ databaseNow) = true ↔ ∃ expiry ∈ expires, databaseNow < expiry := by
  cases expires <;> simp

theorem SchedulerTables.requireActiveLease_ok {lease latest} :
    tables.requireActiveLease lease databaseNow = .ok latest ↔
      tables.latestEvent lease.workItemId = some latest ∧
        (WorkLease.dispatch lease).NamedBy latest databaseNow := by
  unfold requireActiveLease
  cases tables.latestEvent lease.workItemId with
  | none => simp
  | some event =>
    simp only [ok_iff, not_or, not_not, Option.some.injEq, WorkLease.NamedBy, not_all_le]
    constructor
    · rintro ⟨hnamed, rfl⟩
      exact ⟨rfl, hnamed⟩
    · rintro ⟨rfl, hnamed⟩
      exact ⟨hnamed, rfl⟩

theorem SchedulerTables.requireActiveExecutionLease_ok {lease latest} :
    tables.requireActiveExecutionLease lease databaseNow = .ok latest ↔
      tables.latestEvent lease.workItemId = some latest ∧
        (WorkLease.execution lease).NamedBy latest databaseNow := by
  unfold requireActiveExecutionLease
  cases tables.latestEvent lease.workItemId with
  | none => simp
  | some event =>
    simp only [ok_iff, not_or, not_not, Option.some.injEq, WorkLease.NamedBy, not_all_le]
    constructor
    · rintro ⟨hnamed, rfl⟩
      exact ⟨rfl, hnamed⟩
    · rintro ⟨rfl, hnamed⟩
      exact ⟨hnamed, rfl⟩

theorem WorkLease.active_iff {lease : WorkLease} : lease.Active tables databaseNow ↔
      ∃ latest ∈ tables.latestEvent lease.workItemId, lease.NamedBy latest databaseNow := by
  cases lease with
  | dispatch lease => exact exists_congr fun _ => SchedulerTables.requireActiveLease_ok
  | execution lease => exact exists_congr fun _ => SchedulerTables.requireActiveExecutionLease_ok

theorem storePlan_change {plan : ResearchSchedulePlan} {createdAt : Instant}
    (ok : tables.storePlan hash plan createdAt = .ok tables') :
    TableChange hash maximum tables (.storePlan plan createdAt) tables' := by
  unfold SchedulerTables.storePlan at ok
  split at ok
  · simp only [ok_iff] at ok
    obtain ⟨-, -, rfl⟩ := ok
    exact .kept _
  · rename_i fresh
    simp only [bind_eq_ok] at ok
    obtain ⟨-, -, ok⟩ := ok
    rw [SchedulerTables.appendEvent_ok ok]
    exact .planned plan createdAt fresh

theorem SchedulerTables.nextWork_spec {request item} (found : tables.nextWork request = some item) :
    item ∈ tables.items ∧ tables.admits request item := by
  have hmem := List.mem_of_head? found
  rw [mem_sortedBy, List.mem_filter] at hmem
  exact ⟨hmem.1, (of_decide_eq_true hmem.2).1⟩

theorem SchedulerTables.nextExecution_spec {request item}
    (found : tables.nextExecution request = some item) :
    item ∈ tables.items ∧ tables.admitsExecution request item := by
  have hmem := List.mem_of_head? found
  rw [mem_sortedBy, List.mem_filter] at hmem
  exact ⟨hmem.1, (of_decide_eq_true hmem.2).1⟩

theorem claimNext_spec {request : ClaimNextRequest} {result : ClaimNextResult}
    (ok : tables.claimNext hash maximum request = .ok (result, tables')) :
    (result = .nothing ∧ tables' = tables) ∨
      ∃ item ∈ tables.items, ∃ latest, tables.latestEvent item.plan.workItemId = some latest ∧
        ∃ draft, Follows hash maximum tables item.plan latest (.claimNext request) draft ∧
        tables' = { tables with events := tables.events ++ [draft.row hash item.plan] } ∧
        (result = .exhausted ∨ (result = .leased (request.lease hash item.plan latest) ∧
          draft = request.leaseDraft hash item.plan latest)) := by
  simp only [SchedulerTables.claimNext, bind_eq_ok] at ok
  obtain ⟨-, -, -, -, ok⟩ := ok
  split at ok
  · simp only [pure_eq_ok, Prod.mk.injEq] at ok
    exact .inl ⟨ok.1.symm, ok.2.symm⟩
  · rename_i item hitem
    obtain ⟨hmem, -, ⟨event, hevent, hclaimable⟩, -⟩ := SchedulerTables.nextWork_spec hitem
    rw [Option.mem_def.mp hevent] at ok
    refine .inr ⟨item, hmem, event, hevent, ?_⟩
    simp only [SchedulerTables.takeWork] at ok
    split at ok
    · simp only [ok_iff, Prod.mk.injEq] at ok
      obtain ⟨next, happend, rfl, rfl⟩ := ok
      exact ⟨_, .exhausted request hclaimable, SchedulerTables.appendEvent_ok happend, .inl rfl⟩
    · rename_i hover
      simp only [ok_iff, Prod.mk.injEq] at ok
      obtain ⟨next, happend, rfl, rfl⟩ := ok
      exact ⟨_, .leased request hclaimable (not_lt.mp hover),
        SchedulerTables.appendEvent_ok happend, .inr ⟨rfl, rfl⟩⟩

theorem claimExecution_spec (maximum : ℕ) {request : ClaimExecutionRequest}
    {result : Option ResearchWorkExecutionLease}
    (ok : tables.claimExecution hash request = .ok (result, tables')) :
    (result = none ∧ tables' = tables) ∨
      ∃ item ∈ tables.items, ∃ latest, tables.latestEvent item.plan.workItemId = some latest ∧
        ∃ row : ResearchReceiptRow, Follows hash maximum tables item.plan latest
            (.claimExecution request)
            (request.leaseDraft hash item.plan row.receipt latest) ∧
          result = some (request.lease hash item.plan row.receipt latest) ∧
          tables' = { tables with events := tables.events ++
            [(request.leaseDraft hash item.plan row.receipt latest).row hash item.plan] } := by
  simp only [SchedulerTables.claimExecution, bind_eq_ok] at ok
  obtain ⟨-, -, -, -, ok⟩ := ok
  split at ok
  · simp only [pure_eq_ok, Prod.mk.injEq] at ok
    exact .inl ⟨ok.1.symm, ok.2.symm⟩
  · rename_i item hitem
    obtain ⟨hmem, ⟨event, hevent, hexecutable, -⟩, -⟩ := SchedulerTables.nextExecution_spec hitem
    rw [Option.mem_def.mp hevent] at ok
    simp only at ok
    split at ok
    · cases ok
    · rename_i row hrow
      simp only [ok_iff, Prod.mk.injEq] at ok
      obtain ⟨next, happend, rfl, rfl⟩ := ok
      exact .inr
        ⟨item, hmem, event, hevent, row, .executionLeased request row hexecutable hrow, rfl,
        SchedulerTables.appendEvent_ok happend⟩

theorem commitDispatch_change {lease : ResearchWorkLease} {receipt : ResearchWorkDispatchReceipt}
    (ok : tables.commitDispatch hash lease databaseNow = .ok (receipt, tables')) :
    TableChange hash maximum tables (.commitDispatch lease databaseNow) tables' := by
  unfold SchedulerTables.commitDispatch at ok
  split at ok
  · simp only [bind_eq_ok, pure_eq_ok, Prod.mk.injEq] at ok
    obtain ⟨-, -, -, rfl⟩ := ok
    exact .kept _
  · split at ok
    · cases ok
    · rename_i item hitem
      obtain ⟨hmem, hid⟩ := SchedulerTables.lockedWork_mem hitem
      simp only [SchedulerTables.dispatchWork, bind_eq_ok, pure_eq_ok, Prod.mk.injEq,
        buildDispatchReceipt, SchedulerTables.addReceipt, raiseIf_eq_ok] at ok
      obtain ⟨latest, hactive, made, ⟨-, -, rfl⟩, withReceipt, ⟨-, hfresh, rfl⟩, next, happend,
        -, rfl⟩ := ok
      obtain ⟨hfound, hnamed⟩ := SchedulerTables.requireActiveLease_ok.mp hactive
      rw [← hid] at hfound
      rw [SchedulerTables.appendEvent_ok happend]
      refine .dispatched item latest lease databaseNow ⟨_, _⟩ hmem hfound hid.symm hnamed
        ⟨rfl, rfl⟩ ?_
      simpa using hfresh

theorem failDispatch_change {lease : ResearchWorkLease} {reasonCode : String} {result : Bool}
    (ok : tables.failDispatch hash maximum lease reasonCode databaseNow = .ok (result, tables')) :
    TableChange hash maximum tables (.failDispatch lease reasonCode databaseNow) tables' := by
  unfold SchedulerTables.failDispatch at ok
  split at ok
  · cases ok
    exact .kept _
  · split at ok
    · cases ok
    · rename_i item hitem
      obtain ⟨hmem, hid⟩ := SchedulerTables.lockedWork_mem hitem
      simp only [ok_iff, Prod.mk.injEq] at ok
      obtain ⟨latest, hactive, next, happend, -, rfl⟩ := ok
      obtain ⟨hfound, hnamed⟩ := SchedulerTables.requireActiveLease_ok.mp hactive
      rw [← hid] at hfound
      rw [SchedulerTables.appendEvent_ok happend]
      exact .appended item latest _ hmem hfound (.dispatchFailed lease reasonCode databaseNow
        hid.symm hnamed)

theorem requireExecutionBinding_ok {lease plan receipt} {u : Unit}
    (ok : requireExecutionBinding lease plan receipt = .ok u) :
    lease.workItemId = plan.workItemId ∧ receipt.receiptId = lease.receiptId ∧
      receipt.attemptNumber = lease.dispatchAttemptNumber := by
  simp only [requireExecutionBinding, raiseIf_eq_ok, not_or, not_not] at ok
  obtain ⟨hwork, -, -, -, hreceipt, -, hattempt, -, -⟩ := ok
  exact ⟨hwork, hreceipt.symm, hattempt.symm⟩

theorem renewExecutionLease_change {lease renewed : ResearchWorkExecutionLease} {leaseSeconds : ℤ}
    (ok : tables.renewExecutionLease hash lease leaseSeconds databaseNow = .ok (renewed, tables')) :
    TableChange hash maximum tables (.renewExecutionLease lease leaseSeconds databaseNow)
      tables' := by
  simp only [SchedulerTables.renewExecutionLease, bind_eq_ok, pure_eq_ok, Prod.mk.injEq] at ok
  obtain ⟨-, -, receipt, -, item, hitem, _, hbinding, latest, hactive, next, happend, -, rfl⟩ := ok
  obtain ⟨hmem, hid⟩ := SchedulerTables.requireWork_ok hitem
  obtain ⟨-, hreceipt, hattempt⟩ := requireExecutionBinding_ok hbinding
  obtain ⟨hfound, hnamed⟩ := SchedulerTables.requireActiveExecutionLease_ok.mp hactive
  rw [← hid] at hfound
  rw [SchedulerTables.appendEvent_ok happend]
  exact .appended item latest _ hmem hfound (.renewed lease leaseSeconds databaseNow receipt _
    hid.symm hnamed ⟨hreceipt, hattempt⟩)

theorem recordExecutionOutcome_change {lease : ResearchWorkExecutionLease}
    {outcome : ExecutionOutcome} {result : Bool}
    (ok : tables.recordExecutionOutcome hash maximum lease outcome databaseNow =
      .ok (result, tables')) :
    TableChange hash maximum tables (.recordExecutionOutcome lease outcome databaseNow)
      tables' := by
  simp only [SchedulerTables.recordExecutionOutcome, bind_eq_ok] at ok
  obtain ⟨-, -, -, -, receipt, -, item, hitem, _, hbinding, -, -, -, -, ok⟩ := ok
  obtain ⟨hmem, -⟩ := SchedulerTables.requireWork_ok hitem
  obtain ⟨hwork, hreceipt, hattempt⟩ := requireExecutionBinding_ok hbinding
  split at ok
  · simp only [SchedulerTables.replayOutcome, ok_iff, Prod.mk.injEq] at ok
    obtain ⟨-, -, -, rfl⟩ := ok
    exact .kept _
  · simp only [SchedulerTables.appendOutcome, ok_iff, Prod.mk.injEq] at ok
    obtain ⟨latest, hactive, -, -, next, happend, -, rfl⟩ := ok
    obtain ⟨hfound, hnamed⟩ := SchedulerTables.requireActiveExecutionLease_ok.mp hactive
    rw [hwork] at hfound
    rw [SchedulerTables.appendEvent_ok happend]
    exact .appended item latest _ hmem hfound (.ended lease outcome databaseNow receipt hwork
      hnamed ⟨hreceipt, hattempt⟩)

theorem map_snd_eq_ok {α : Type} {x : Except Failure (α × SchedulerTables)}
    (ok : (·.2) <$> x = .ok tables') : ∃ a, x = .ok (a, tables') := by
  cases x with
  | error e => cases ok
  | ok pair =>
    cases ok
    exact ⟨pair.1, rfl⟩

theorem schedulerStep_change {action : SchedulerAction}
    (ok : schedulerStep hash maximum tables action = .ok tables') :
    TableChange hash maximum tables action tables' := by
  cases action with
  | storePlan plan createdAt => exact storePlan_change ok
  | claimNext request =>
    obtain ⟨result, hclaim⟩ := map_snd_eq_ok ok
    rcases claimNext_spec hclaim with ⟨-, rfl⟩ |
      ⟨item, hmem, latest, hfound, draft, hfollows, rfl, -⟩
    · exact .kept _
    · exact .appended item latest draft hmem hfound hfollows
  | commitDispatch lease databaseNow =>
    obtain ⟨receipt, hcommit⟩ := map_snd_eq_ok ok
    exact commitDispatch_change hcommit
  | failDispatch lease reasonCode databaseNow =>
    obtain ⟨result, hfail⟩ := map_snd_eq_ok ok
    exact failDispatch_change hfail
  | claimExecution request =>
    obtain ⟨result, hclaim⟩ := map_snd_eq_ok ok
    rcases claimExecution_spec maximum hclaim with
      ⟨-, rfl⟩ | ⟨item, hmem, latest, hfound, row, hfollows, -, rfl⟩
    · exact .kept _
    · exact .appended item latest _ hmem hfound hfollows
  | renewExecutionLease lease leaseSeconds databaseNow =>
    obtain ⟨renewed, hrenew⟩ := map_snd_eq_ok ok
    exact renewExecutionLease_change hrenew
  | recordExecutionOutcome lease outcome databaseNow =>
    obtain ⟨result, hrecord⟩ := map_snd_eq_ok ok
    exact recordExecutionOutcome_change hrecord

end Changes

end AdaptiveQuant
