import AdaptiveQuant.Domain.CanonicalText
import AdaptiveQuant.Research.WorkChange

/-! The protocol of research work items, over every interleaving of planners, dispatchers and
consumers. -/

namespace AdaptiveQuant

open Guard Sequence List

structure ReceiptsSound (maximum : ℕ) (rows : List ResearchReceiptRow) : Prop where
  ids : (rows.map (·.receipt.receiptId)).Nodup
  attempts : (rows.map fun row => (row.receipt.workItemId, row.receipt.attemptNumber)).Nodup
  bounded : ∀ row ∈ rows, row.receipt.attemptNumber ≤ maximum

def ResearchScheduleEvent.HasReceipt (event : ResearchScheduleEvent)
    (rows : List ResearchReceiptRow) : Prop :=
  ∀ receiptId ∈ event.receiptId, ∃ row ∈ rows, row.receipt.receiptId = receiptId ∧
    row.receipt.attemptNumber = event.attemptNumber

/-- The invariant of the scheduler's tables. -/
structure SchedulerTables.Sound (maximum : ℕ) (tables : SchedulerTables) : Prop where
  numbered : ∀ workItemId, Numbered (·.sequence) (tables.history workItemId)
  started : ∀ workItemId, tables.history workItemId ≠ [] ↔
    ∃ item ∈ tables.items, item.plan.workItemId = workItemId
  bounded : ∀ event ∈ tables.events, event.attemptNumber ≤ maximum
  ascending : ∀ workItemId, (tables.history workItemId).Pairwise
    fun a b => a.attemptNumber ≤ b.attemptNumber
  ended : ∀ workItemId, (tables.history workItemId).Pairwise fun a _ => ¬a.isFinal
  receipts : ReceiptsSound maximum tables.receipts
  bound : ∀ event ∈ tables.events, event.HasReceipt tables.receipts

section Histories

variable {maximum : ℕ} {tables : SchedulerTables}

theorem SchedulerTables.mem_history {workItemId : String} {event} :
    event ∈ tables.history workItemId ↔ event ∈ tables.events ∧ event.workItemId = workItemId := by
  simp [history]

theorem SchedulerTables.latestEvent_eq {workItemId : String}
    (numbered : Numbered (·.sequence) (tables.history workItemId)) :
    tables.latestEvent workItemId = (tables.history workItemId).getLast? := by
  unfold latestEvent
  rw [sortedBy_eq_self]
  refine numbered.pairwise.imp fun {a b} hlt => ?_
  rw [Prod.Lex.le_iff]
  exact .inl hlt

theorem SchedulerTables.Sound.history_eq (sound : tables.Sound maximum) {workItemId : String}
    {latest} (found : tables.latestEvent workItemId = some latest) :
    ∃ front, tables.history workItemId = front ++ [latest] ∧
      latest.sequence = (tables.history workItemId).length := by
  rw [latestEvent_eq (sound.numbered workItemId)] at found
  obtain ⟨front, hfront⟩ := List.getLast?_eq_some_iff.mp found
  have hnumbered := sound.numbered workItemId
  rw [hfront, numbered_concat] at hnumbered
  refine ⟨front, hfront, ?_⟩
  rw [hfront, hnumbered.2, length_append, length_singleton]

theorem SchedulerTables.Sound.le_latest (sound : tables.Sound maximum) {workItemId : String}
    {latest event} (found : tables.latestEvent workItemId = some latest)
    (hevent : event ∈ tables.history workItemId) :
    event.sequence ≤ latest.sequence ∧ event.attemptNumber ≤ latest.attemptNumber := by
  obtain ⟨front, hfront, hlength⟩ := sound.history_eq found
  have hascending := sound.ascending workItemId
  constructor
  · rw [hlength]
    exact (sound.numbered workItemId).le_length hevent
  · rw [hfront, pairwise_append] at hascending
    rw [hfront, mem_append, mem_singleton] at hevent
    rcases hevent with hevent | rfl
    · exact hascending.2.2 event hevent latest (mem_singleton.mpr rfl)
    · exact le_refl _

theorem history_append (tables : SchedulerTables) (items : List ResearchWorkItem)
    (rows : List ResearchReceiptRow) (event : ResearchScheduleEvent) (workItemId : String) :
    SchedulerTables.history ⟨items, tables.events ++ [event], rows⟩ workItemId =
      if event.workItemId = workItemId then tables.history workItemId ++ [event]
      else tables.history workItemId := by
  simp only [SchedulerTables.history, filter_append, filter_cons, filter_nil]
  by_cases h : event.workItemId = workItemId
  · simp [h]
  · simp [h]

theorem ResearchScheduleEvent.HasReceipt.mono {event : ResearchScheduleEvent}
    {rows rows' : List ResearchReceiptRow} (h : event.HasReceipt rows) (sub : rows ⊆ rows') :
    event.HasReceipt rows' := by
  intro receiptId hreceipt
  obtain ⟨row, hrow, hid, hattempt⟩ := h receiptId hreceipt
  exact ⟨row, sub hrow, hid, hattempt⟩

theorem SchedulerTables.Sound.start (sound : tables.Sound maximum) {item event}
    (hid : event.workItemId = item.plan.workItemId)
    (fresh : tables.lockedWork event.workItemId = none) (first : event.sequence = 1)
    (attempt : event.attemptNumber = 0) (unbound : event.receiptId = none) :
    SchedulerTables.Sound maximum
      ⟨tables.items ++ [item], tables.events ++ [event], tables.receipts⟩ := by
  have hempty : tables.history event.workItemId = [] := by
    by_contra hne
    obtain ⟨other, hother, hsame⟩ := (sound.started _).mp hne
    have hnone := List.find?_eq_none.mp fresh other hother
    simp [hsame] at hnone
  have hhistory := history_append tables (tables.items ++ [item]) tables.receipts event
  refine ⟨fun id => ?_, fun id => ?_, ?_, fun id => ?_, fun id => ?_, sound.receipts, ?_⟩
  · rw [hhistory]
    split
    · rename_i h
      rw [← h, hempty, numbered_concat]
      exact ⟨Numbered.nil, first⟩
    · exact sound.numbered id
  · rw [hhistory]
    split
    · rename_i h
      simp only [ne_eq, append_eq_nil_iff, cons_ne_nil, and_false, not_false_eq_true,
        mem_append, mem_singleton, true_iff]
      exact ⟨item, .inr rfl, by rw [← hid, h]⟩
    · rename_i h
      rw [sound.started]
      simp only [mem_append, mem_singleton]
      constructor
      · rintro ⟨other, hother, hsame⟩
        exact ⟨other, .inl hother, hsame⟩
      · rintro ⟨other, hother | rfl, hsame⟩
        · exact ⟨other, hother, hsame⟩
        · exact (h (hid.trans hsame)).elim
  · intro other hother
    rcases mem_append.mp hother with hother | hother
    · exact sound.bounded other hother
    · rw [mem_singleton.mp hother, attempt]
      exact Nat.zero_le _
  · rw [hhistory]
    split
    · rename_i h
      rw [← h, hempty]
      exact pairwise_singleton _ _
    · exact sound.ascending id
  · rw [hhistory]
    split
    · rename_i h
      rw [← h, hempty]
      exact pairwise_singleton _ _
    · exact sound.ended id
  · intro other hother
    rcases mem_append.mp hother with hother | hother
    · exact sound.bound other hother
    · rw [mem_singleton.mp hother]
      intro receiptId hreceipt
      rw [unbound] at hreceipt
      cases hreceipt

theorem SchedulerTables.Sound.extend (sound : tables.Sound maximum)
    {rows : List ResearchReceiptRow} (hrows : ReceiptsSound maximum rows)
    (sub : tables.receipts ⊆ rows) {latest event : ResearchScheduleEvent}
    (found : tables.latestEvent event.workItemId = some latest)
    (next : event.sequence = latest.sequence + 1) (opened : ¬latest.isFinal)
    (later : latest.attemptNumber ≤ event.attemptNumber) (within : event.attemptNumber ≤ maximum)
    (receipt : event.HasReceipt rows) :
    SchedulerTables.Sound maximum ⟨tables.items, tables.events ++ [event], rows⟩ := by
  obtain ⟨front, hfront, hlength⟩ := sound.history_eq found
  have hhistory := history_append tables tables.items rows event
  have hmem : latest ∈ tables.history event.workItemId := by simp [hfront]
  refine ⟨fun id => ?_, fun id => ?_, ?_, fun id => ?_, fun id => ?_, hrows, ?_⟩
  · rw [hhistory]
    split
    · rename_i h
      rw [numbered_concat]
      exact ⟨sound.numbered id, by rw [next, hlength, h]⟩
    · exact sound.numbered id
  · rw [hhistory, ← sound.started]
    split
    · rename_i h
      simp [← h, hfront]
    · exact Iff.rfl
  · intro other hother
    rcases mem_append.mp hother with hother | hother
    · exact sound.bounded other hother
    · rwa [mem_singleton.mp hother]
  · rw [hhistory]
    split
    · rename_i h
      refine pairwise_append.mpr ⟨sound.ascending id, pairwise_singleton _ _, ?_⟩
      intro a ha b hb
      rw [mem_singleton.mp hb]
      rw [← h] at ha
      exact (sound.le_latest found ha).2.trans later
    · exact sound.ascending id
  · rw [hhistory]
    split
    · rename_i h
      refine pairwise_append.mpr ⟨sound.ended id, pairwise_singleton _ _, ?_⟩
      intro a ha b _
      have hended := sound.ended id
      rw [← h, hfront] at ha hended
      rcases mem_append.mp ha with ha | ha
      · exact (pairwise_append.mp hended).2.2 a ha latest (mem_singleton.mpr rfl)
      · rwa [mem_singleton.mp ha]
    · exact sound.ended id
  · intro other hother
    rcases mem_append.mp hother with hother | hother
    · exact (sound.bound other hother).mono sub
    · rwa [mem_singleton.mp hother]

end Histories

section Steps

variable {hash : Hashing} {maximum : ℕ} {tables tables' : SchedulerTables}
  {action : SchedulerAction} {plan : ResearchSchedulePlan} {latest : ResearchScheduleEvent}
  {draft : EventDraft}

variable {databaseNow : Instant}

theorem WorkLease.NamedBy.not_isFinal {lease : WorkLease}
    (h : lease.NamedBy latest databaseNow) : ¬latest.isFinal := by
  rintro (hfinal | ⟨hfinal, -⟩)
  all_goals
    cases lease with
    | dispatch lease =>
      have hlease := h.1
      rw [hfinal] at hlease
      cases hlease
    | execution lease =>
      have hlease := h.1
      rw [hfinal] at hlease
      cases hlease

theorem ResearchScheduleEvent.isClaimable.not_isFinal
    (h : latest.isClaimable databaseNow) : ¬latest.isFinal := by
  obtain ⟨hretryable, htype⟩ := h
  rintro (hfinal | ⟨hfinal, hterminal⟩)
  · rw [hfinal] at htype
    rcases htype with h | h | ⟨h, -⟩ <;> cases h
  · rw [hterminal] at hretryable
    cases hretryable

theorem ResearchScheduleEvent.isExecutable.not_isFinal
    (h : latest.isExecutable databaseNow) : ¬latest.isFinal := by
  rintro (hfinal | ⟨hfinal, -⟩)
  all_goals
    rcases h with h | ⟨h, -⟩
    · rw [hfinal] at h
      cases h
    · rw [hfinal] at h
      cases h

theorem SchedulerTables.receiptOfEvent_spec {row : ResearchReceiptRow}
    (found : tables.receiptOfEvent latest = some row) :
    row ∈ tables.receipts ∧ latest.receiptId = some row.receipt.receiptId := by
  obtain ⟨receiptId, hreceipt, hfind⟩ := Option.bind_eq_some_iff.mp found
  have hid : row.receipt.receiptId = receiptId := by simpa using List.find?_some hfind
  exact ⟨mem_of_find?_eq_some hfind, by rw [hreceipt, hid]⟩

theorem SchedulerTables.Sound.attempt_eq (sound : tables.Sound maximum)
    (hlatest : latest ∈ tables.events) {row} (hrow : row ∈ tables.receipts)
    (named : latest.receiptId = some row.receipt.receiptId) :
    row.receipt.attemptNumber = latest.attemptNumber := by
  obtain ⟨other, hother, hid, hattempt⟩ := sound.bound latest hlatest _ named
  rwa [inj_on_of_nodup_map sound.receipts.ids hrow hother hid.symm]

theorem Follows.spec (h : Follows hash maximum tables plan latest action draft)
    (sound : tables.Sound maximum) (hlatest : latest ∈ tables.events) :
    draft.sequence = latest.sequence + 1 ∧ ¬latest.isFinal ∧
      latest.attemptNumber ≤ draft.attemptNumber ∧ draft.attemptNumber ≤ maximum ∧
      (draft.row hash plan).HasReceipt tables.receipts := by
  have hbound := sound.bounded latest hlatest
  have hreceipt := sound.bound latest hlatest
  cases h with
  | leased request claimable within =>
    exact ⟨rfl, claimable.not_isFinal, Nat.le_succ _, within, nofun⟩
  | exhausted request claimable =>
    exact ⟨rfl, claimable.not_isFinal, le_refl _, hbound, nofun⟩
  | dispatchFailed lease reasonCode databaseNow same active =>
    have hattempt := active.2.2.2.1
    exact ⟨rfl, active.not_isFinal, hattempt.le, hattempt.ge.trans hbound, nofun⟩
  | executionLeased request row executable named =>
    obtain ⟨hrow, hid⟩ := SchedulerTables.receiptOfEvent_spec named
    have hattempt := sound.attempt_eq hlatest hrow hid
    refine ⟨rfl, executable.not_isFinal, hattempt.ge, hattempt.le.trans hbound, ?_⟩
    intro receiptId hreceiptId
    cases hreceiptId
    exact ⟨row, hrow, rfl, rfl⟩
  | renewed lease leaseSeconds databaseNow receipt expires same active bound =>
    have hattempt := active.2.2.2.1.trans bound.2.symm
    refine ⟨rfl, active.not_isFinal, hattempt.le, hattempt.ge.trans hbound, ?_⟩
    intro receiptId hreceiptId
    cases hreceiptId
    obtain ⟨row, hrow, hid, hrowAttempt⟩ := hreceipt _ active.2.2.2.2.1
    exact ⟨row, hrow, hid.trans bound.1.symm, hrowAttempt.trans hattempt⟩
  | ended lease outcome databaseNow receipt same active bound =>
    have hattempt := active.2.2.2.1.trans bound.2.symm
    refine ⟨rfl, active.not_isFinal, hattempt.le, hattempt.ge.trans hbound, ?_⟩
    intro receiptId hreceiptId
    cases hreceiptId
    obtain ⟨row, hrow, hid, hrowAttempt⟩ := hreceipt _ active.2.2.2.2.1
    exact ⟨row, hrow, hid, hrowAttempt.trans hattempt⟩

theorem ReceiptsSound.concat {rows row} (h : ReceiptsSound maximum rows)
    (fresh : ∀ other ∈ rows, ¬row.clashes other) (within : row.receipt.attemptNumber ≤ maximum) :
    ReceiptsSound maximum (rows ++ [row]) := by
  have hnew : ∀ {β : Type} (key : ResearchReceiptRow → β),
      (∀ other ∈ rows, key other ≠ key row) → (rows.map key).Nodup →
        ((rows ++ [row]).map key).Nodup := by
    intro β key hne hnodup
    rw [map_append, map_singleton, ← concat_eq_append]
    refine List.Nodup.concat ?_ hnodup
    rintro hmem
    obtain ⟨other, hother, heq⟩ := mem_map.mp hmem
    exact hne other hother heq
  refine ⟨hnew _ ?_ h.ids, hnew _ ?_ h.attempts, ?_⟩
  · intro other hother heq
    exact fresh other hother (.inl heq.symm)
  · intro other hother heq
    rw [Prod.mk.injEq] at heq
    exact fresh other hother (.inr (.inr (.inr ⟨heq.1.symm, heq.2.symm⟩)))
  · intro other hother
    rcases mem_append.mp hother with hother | hother
    · exact h.bounded other hother
    · rwa [mem_singleton.mp hother]

theorem SchedulerTables.Sound.mem_events (sound : tables.Sound maximum) {workItemId : String}
    (found : tables.latestEvent workItemId = some latest) :
    latest ∈ tables.events ∧ latest.workItemId = workItemId := by
  obtain ⟨front, hfront, -⟩ := sound.history_eq found
  exact SchedulerTables.mem_history.mp (by simp [hfront])

theorem TableChange.sound (h : TableChange hash maximum tables action tables')
    (sound : tables.Sound maximum) : tables'.Sound maximum := by
  cases h with
  | kept => exact sound
  | planned plan createdAt fresh => exact sound.start rfl fresh rfl rfl rfl
  | appended item latest draft stored found follows =>
    obtain ⟨hnext, hopen, hlater, hwithin, hreceipt⟩ :=
      follows.spec sound (sound.mem_events found).1
    exact sound.extend sound.receipts (List.Subset.refl _) found hnext hopen hlater hwithin hreceipt
  | dispatched item latest lease databaseNow row stored found same active named fresh =>
    have hattempt := active.2.2.2.1
    have hwithin := sound.bounded latest (sound.mem_events found).1
    have hrows := sound.receipts.concat fresh (by rw [named.2, ← hattempt]; exact hwithin)
    refine sound.extend hrows (subset_append_left _ _) found rfl active.not_isFinal
      hattempt.le (hattempt.ge.trans hwithin) ?_
    intro receiptId hreceiptId
    cases hreceiptId
    exact ⟨row, by simp, rfl, named.2⟩

theorem TableChange.events_subset (h : TableChange hash maximum tables action tables') :
    tables.events ⊆ tables'.events := by
  cases h with
  | kept => exact List.Subset.refl _
  | planned => exact subset_append_left _ _
  | appended => exact subset_append_left _ _
  | dispatched => exact subset_append_left _ _

def ResearchScheduleEventType.isOutcome : ResearchScheduleEventType → Bool
  | .dispatched | .succeeded | .failed => true
  | _ => false

/-- Who appended an outcome: the holder of the active lease of its work item, with the token of
that lease, or a claim that found the attempts used up and no lease active. -/
def OutcomeBy (tables : SchedulerTables) (action : SchedulerAction)
    (event : ResearchScheduleEvent) : Prop :=
  (∃ lease databaseNow, action.lease = some (lease, databaseNow) ∧
    lease.Active tables databaseNow ∧ lease.workItemId = event.workItemId ∧
    event.leaseToken = some lease.token) ∨
  (∃ request, action = .claimNext request ∧ event.leaseToken = none ∧
    event.eventType = .failed ∧ event.retryable = false ∧
    ∀ lease : WorkLease, lease.workItemId = event.workItemId →
      ¬lease.Active tables request.databaseNow)

theorem not_active_of_claimable {workItemId : String}
    (found : tables.latestEvent workItemId = some latest)
    (claimable : latest.isClaimable databaseNow) (lease : WorkLease)
    (same : lease.workItemId = workItemId) : ¬lease.Active tables databaseNow := by
  rw [WorkLease.active_iff, same]
  rintro ⟨other, hother, hnamed⟩
  obtain rfl := Option.some.inj (found.symm.trans hother)
  obtain ⟨-, htype⟩ := claimable
  cases lease with
  | dispatch lease =>
    obtain ⟨hlease, -, -, -, expires, hexpires, hlt⟩ := hnamed
    rcases htype with h | h | ⟨-, other, hother, hle⟩
    · rw [h] at hlease
      cases hlease
    · rw [h] at hlease
      cases hlease
    · obtain rfl := Option.some.inj (hexpires.symm.trans hother)
      exact absurd hle (not_le.mpr hlt)
  | execution lease =>
    have hlease := hnamed.1
    rcases htype with h | h | ⟨h, -⟩
    · rw [h] at hlease
      cases hlease
    · rw [h] at hlease
      cases hlease
    · revert h hlease
      cases latest.eventType <;> decide

theorem Follows.outcomeBy (h : Follows hash maximum tables plan latest action draft)
    (found : tables.latestEvent plan.workItemId = some latest)
    (outcome : draft.eventType.isOutcome) : OutcomeBy tables action (draft.row hash plan) := by
  cases h with
  | leased request claimable within =>
    have hnot : (request.leaseDraft hash plan latest).eventType.isOutcome = false := by
      unfold ClaimNextRequest.leaseDraft
      simp only
      split <;> rfl
    rw [hnot] at outcome
    cases outcome
  | exhausted request claimable =>
    exact .inr ⟨request, rfl, rfl, rfl, rfl, not_active_of_claimable found claimable⟩
  | dispatchFailed lease reasonCode databaseNow same active =>
    refine .inl ⟨.dispatch lease, databaseNow, rfl, ?_, same, rfl⟩
    exact WorkLease.active_iff.mpr ⟨latest, (congrArg tables.latestEvent same).trans found, active⟩
  | executionLeased request row executable named =>
    have hnot : (request.leaseDraft hash plan row.receipt latest).eventType.isOutcome = false := by
      unfold ClaimExecutionRequest.leaseDraft
      simp only
      split <;> rfl
    rw [hnot] at outcome
    cases outcome
  | renewed lease leaseSeconds databaseNow receipt expires same active bound => cases outcome
  | ended lease ending databaseNow receipt same active bound =>
    refine .inl ⟨.execution lease, databaseNow, rfl, ?_, same, rfl⟩
    exact WorkLease.active_iff.mpr ⟨latest, (congrArg tables.latestEvent same).trans found, active⟩

theorem TableChange.outcomeBy (h : TableChange hash maximum tables action tables') {event}
    (hevent : event ∈ tables'.events) (new : event ∉ tables.events)
    (outcome : event.eventType.isOutcome) :
    OutcomeBy tables action event := by
  cases h with
  | kept => exact (new hevent).elim
  | planned plan createdAt fresh =>
    rcases mem_append.mp hevent with hevent | hevent
    · exact (new hevent).elim
    · rw [mem_singleton.mp hevent] at outcome
      cases outcome
  | appended item latest draft stored found follows =>
    rcases mem_append.mp hevent with hevent | hevent
    · exact (new hevent).elim
    · rw [mem_singleton.mp hevent] at outcome ⊢
      exact follows.outcomeBy found outcome
  | dispatched item latest lease databaseNow row stored found same active named fresh =>
    rcases mem_append.mp hevent with hevent | hevent
    · exact (new hevent).elim
    · rw [mem_singleton.mp hevent]
      refine .inl ⟨.dispatch lease, databaseNow, rfl, ?_, same, rfl⟩
      exact WorkLease.active_iff.mpr
        ⟨latest, (congrArg tables.latestEvent same).trans found, active⟩

theorem Grants.spec {lease : WorkLease} (h : Grants hash maximum tables action lease)
    (ok : schedulerStep hash maximum tables action = .ok tables') :
    ∃ latest event, tables.latestEvent lease.workItemId = some latest ∧ event ∈ tables'.events ∧
      event.workItemId = lease.workItemId ∧ event.sequence = latest.sequence + 1 ∧
      event.attemptNumber = lease.holder.2.2.2 ∧
      match lease with
      | .dispatch lease => lease.attemptNumber = latest.attemptNumber + 1
      | .execution lease => ∃ execution consumer now, lease.executionToken = hash.stableId
          "research-execution-lease" [.str execution, .int event.sequence, .str consumer,
            .instant now] := by
  cases h with
  | @dispatch request lease claimedTables claimed =>
    obtain ⟨result, hresult⟩ := map_snd_eq_ok ok
    rw [claimed] at hresult
    cases hresult
    rcases claimNext_spec claimed with ⟨hnone, -⟩ | ⟨item, -, latest, hfound, draft, -, rfl,
      hnone | ⟨hlease, hdraft⟩⟩
    · cases hnone
    · cases hnone
    · cases hlease
      subst hdraft
      exact ⟨latest, (request.leaseDraft hash item.plan latest).row hash item.plan, hfound,
        mem_append_right _ (mem_singleton.mpr rfl), rfl, rfl, rfl, rfl⟩
  | @execution request lease claimedTables claimed =>
    obtain ⟨result, hresult⟩ := map_snd_eq_ok ok
    rw [claimed] at hresult
    cases hresult
    rcases claimExecution_spec maximum claimed with
      ⟨hnone, -⟩ | ⟨item, -, latest, hfound, row, -, hlease, rfl⟩
    · cases hnone
    · cases hlease
      exact ⟨latest, (request.leaseDraft hash item.plan row.receipt latest).row hash item.plan,
        hfound, mem_append_right _ (mem_singleton.mpr rfl), rfl, rfl, rfl,
        executionIdOf hash row.receipt, request.consumerId, request.databaseNow, rfl⟩

end Steps

section Runs

variable {hash : Hashing} {maximum : ℕ} {init tables : SchedulerTables}
  {taken : List (SchedulerTables × SchedulerAction)}

theorem work_sound_of_run (run : Run (schedulerStep hash maximum) init taken tables)
    (start : init.Sound maximum) : tables.Sound maximum :=
  run.inv start fun _ _ _ sound ok => (schedulerStep_change ok).sound sound

theorem events_of_run (run : Run (schedulerStep hash maximum) init taken tables) :
    init.events ⊆ tables.events := by
  refine run.inv (I := fun tables => init.events ⊆ tables.events) (List.Subset.refl _) ?_
  intro _ _ _ hsub ok
  exact List.Subset.trans hsub (schedulerStep_change ok).events_subset

theorem WorkLease.holder_eq {a b : WorkLease} {databaseNow : Instant}
    (ha : a.Active tables databaseNow) (hb : b.Active tables databaseNow)
    (same : a.workItemId = b.workItemId) : a.holder = b.holder := by
  rw [active_iff] at ha hb
  obtain ⟨latest, hlatest, hanamed⟩ := ha
  obtain ⟨other, hother, hbnamed⟩ := hb
  rw [same] at hlatest
  obtain rfl := Option.some.inj (hlatest.symm.trans hother)
  have hlayers : latest.eventType.isDispatchLease → ¬latest.eventType.isExecutionLease := by
    cases latest.eventType <;> decide
  cases a with
  | dispatch a =>
    obtain ⟨hadispatch, haowner, hatoken, haattempt, -⟩ := hanamed
    cases b with
    | dispatch b =>
      obtain ⟨-, hbowner, hbtoken, hbattempt, -⟩ := hbnamed
      simp only [holder, Prod.mk.injEq, true_and]
      exact ⟨Option.some.inj (haowner.symm.trans hbowner),
        Option.some.inj (hatoken.symm.trans hbtoken), haattempt.symm.trans hbattempt⟩
    | execution b => exact (hlayers hadispatch hbnamed.1).elim
  | execution a =>
    obtain ⟨haexecution, haowner, hatoken, haattempt, -⟩ := hanamed
    cases b with
    | dispatch b => exact (hlayers hbnamed.1 haexecution).elim
    | execution b =>
      obtain ⟨-, hbowner, hbtoken, hbattempt, -⟩ := hbnamed
      simp only [holder, Prod.mk.injEq, true_and]
      exact ⟨Option.some.inj (haowner.symm.trans hbowner),
        Option.some.inj (hatoken.symm.trans hbtoken), haattempt.symm.trans hbattempt⟩

theorem grants_differ (distinct : hash.NoCollision) (start : init.Sound maximum)
    (run : Run (schedulerStep hash maximum) init taken tables)
    {x y : SchedulerTables × SchedulerAction}
    {pre mid post : List (SchedulerTables × SchedulerAction)}
    (split : taken = pre ++ x :: (mid ++ y :: post)) {a b : WorkLease}
    (ha : Grants hash maximum x.1 x.2 a) (hb : Grants hash maximum y.1 y.2 b)
    (same : a.workItemId = b.workItemId) : a.holder ≠ b.holder := by
  obtain ⟨m, hpre, hrest⟩ := run.split split
  obtain ⟨rfl, s', ok, hlater⟩ := hrest.first rfl
  obtain ⟨m', hmid, hpost⟩ := hlater.split rfl
  obtain ⟨hmet, s'', ok', -⟩ := hpost.first rfl
  rw [hmet] at hb
  obtain ⟨first, event, -, hevent, hid, -, hattempt, haToken⟩ := ha.spec ok
  obtain ⟨latest, event', hfound, -, -, hnext, -, hbToken⟩ := hb.spec ok'
  -- The event of the first claim is in the history that the second claim continues.
  have hsound : m'.Sound maximum :=
    work_sound_of_run hmid ((schedulerStep_change ok).sound (work_sound_of_run hpre start))
  have hmem : event ∈ m'.history b.workItemId :=
    SchedulerTables.mem_history.mpr ⟨events_of_run hmid hevent, hid.trans same⟩
  obtain ⟨hsequence, hle⟩ := hsound.le_latest hfound hmem
  intro hholder
  cases a with
  | dispatch a =>
    cases b with
    | dispatch b =>
      have heq : a.attemptNumber = b.attemptNumber := congrArg (·.2.2.2) hholder
      have hfirst : event.attemptNumber = a.attemptNumber := hattempt
      have hsecond : b.attemptNumber = latest.attemptNumber + 1 := hbToken
      omega
    | execution b => cases congrArg (·.1) hholder
  | execution a =>
    cases b with
    | dispatch b => cases congrArg (·.1) hholder
    | execution b =>
      have heq : a.executionToken = b.executionToken := congrArg (·.2.2.1) hholder
      obtain ⟨execution, consumer, now, htoken⟩ := haToken
      obtain ⟨execution', consumer', now', htoken'⟩ := hbToken
      rw [htoken, htoken'] at heq
      have hparts := distinct _ _ _ heq
      simp only [List.cons.injEq, Canonical.int.injEq] at hparts
      omega

end Runs

/-- What holds of the work items after any run of the workers. -/
structure WorkProtocol (hash : Hashing) (maximum : ℕ)
    (taken : List (SchedulerTables × SchedulerAction)) (tables : SchedulerTables) : Prop where
  /-- Each history is numbered from 1 without a gap. -/
  contiguous : ∀ item ∈ tables.items, tables.history item.plan.workItemId ≠ [] ∧
    Numbered (·.sequence) (tables.history item.plan.workItemId)
  owned : ∀ event ∈ tables.events, ∃ item ∈ tables.items, item.plan.workItemId = event.workItemId
  /-- Leases that are active at once have one holder, and come from one claim. -/
  single : ∀ databaseNow (a b : WorkLease), a.Active tables databaseNow →
    b.Active tables databaseNow →
    a.workItemId = b.workItemId → a.holder = b.holder
  granted : ∀ pre x mid y post, taken = pre ++ x :: (mid ++ y :: post) →
    ∀ a b : WorkLease, Grants hash maximum x.1 x.2 a → Grants hash maximum y.1 y.2 b →
    a.workItemId = b.workItemId →
    ∀ databaseNow, ¬(a.Active tables databaseNow ∧ b.Active tables databaseNow)
  attempts : ∀ event ∈ tables.events, event.attemptNumber ≤ maximum
  /-- Nothing follows the end of a work item. -/
  ended : ∀ event ∈ tables.events, event.isFinal →
    ∀ other ∈ tables.history event.workItemId, other.sequence ≤ event.sequence
  receipts : ∀ row ∈ tables.receipts, ∀ other ∈ tables.receipts,
    row.receipt.workItemId = other.receipt.workItemId →
    row.receipt.attemptNumber = other.receipt.attemptNumber → row = other
  succeeded : ∀ event ∈ tables.events, ∀ other ∈ tables.events,
    event.eventType = .succeeded → other.eventType = .succeeded →
    event.workItemId = other.workItemId → event = other
  /-- Only the holder of the active lease appends an outcome. -/
  outcomes : ∀ x ∈ taken, ∀ tables', schedulerStep hash maximum x.1 x.2 = .ok tables' →
    ∀ event ∈ tables'.events, event ∉ x.1.events → event.eventType.isOutcome →
    OutcomeBy x.1 x.2 event

theorem SchedulerTables.Sound.le_of_isFinal {maximum : ℕ} {tables : SchedulerTables}
    (sound : tables.Sound maximum) {event other : ResearchScheduleEvent}
    (hevent : event ∈ tables.events) (final : event.isFinal)
    (hother : other ∈ tables.history event.workItemId) : other.sequence ≤ event.sequence := by
  have hmem : event ∈ tables.history event.workItemId := mem_history.mpr ⟨hevent, rfl⟩
  have hended := sound.ended event.workItemId
  have hsorted := (sound.numbered event.workItemId).pairwise
  by_contra hlt
  obtain ⟨i, hi, hiEq⟩ := getElem_of_mem hmem
  obtain ⟨j, hj, hjEq⟩ := getElem_of_mem hother
  rcases lt_trichotomy i j with hij | rfl | hij
  · have := pairwise_iff_getElem.mp hended i j hi hj hij
    rw [hiEq] at this
    exact this final
  · rw [hiEq] at hjEq
    rw [hjEq] at hlt
    exact hlt (le_refl _)
  · have := pairwise_iff_getElem.mp hsorted j i hj hi hij
    rw [hiEq, hjEq] at this
    omega

theorem SchedulerTables.sound_empty (maximum : ℕ) :
    SchedulerTables.Sound maximum ⟨[], [], []⟩ where
  numbered _ := Numbered.nil
  started _ := by simp [SchedulerTables.history]
  bounded _ h := by cases h
  ascending _ := List.Pairwise.nil
  ended _ := List.Pairwise.nil
  receipts := ⟨nodup_nil, nodup_nil, nofun⟩
  bound _ h := by cases h

/-- The protocol holds over every interleaving. -/
theorem research_work_protocol {hash : Hashing} (distinct : hash.NoCollision) {maximum : ℕ}
    {taken : List (SchedulerTables × SchedulerAction)} {tables : SchedulerTables}
    (run : Run (schedulerStep hash maximum) ⟨[], [], []⟩ taken tables) :
    WorkProtocol hash maximum taken tables := by
  have hstart := SchedulerTables.sound_empty maximum
  have hsound := work_sound_of_run run hstart
  refine ⟨?_, ?_, fun _ _ _ ha hb hid => WorkLease.holder_eq ha hb hid, ?_, hsound.bounded,
    fun event hevent hfinal other hother => hsound.le_of_isFinal hevent hfinal hother, ?_, ?_, ?_⟩
  · intro item hitem
    exact ⟨(hsound.started _).mpr ⟨item, hitem, rfl⟩, hsound.numbered _⟩
  · intro event hevent
    refine (hsound.started event.workItemId).mp fun hnil => ?_
    have hmem : event ∈ tables.history event.workItemId :=
      SchedulerTables.mem_history.mpr ⟨hevent, rfl⟩
    rw [hnil] at hmem
    cases hmem
  · rintro pre x mid y post split a b ha hb hid databaseNow ⟨haActive, hbActive⟩
    exact grants_differ distinct hstart run split ha hb hid
      (WorkLease.holder_eq haActive hbActive hid)
  · intro row hrow other hother hid hattempt
    exact inj_on_of_nodup_map hsound.receipts.attempts hrow hother
      (Prod.mk.injEq _ _ _ _ ▸ ⟨hid, hattempt⟩)
  · intro event hevent other hother htype htype' hid
    have hmem : other ∈ tables.history event.workItemId :=
      SchedulerTables.mem_history.mpr ⟨hother, hid.symm⟩
    have hmem' : event ∈ tables.history other.workItemId :=
      SchedulerTables.mem_history.mpr ⟨hevent, hid⟩
    have hle := hsound.le_of_isFinal hevent (.inl htype) hmem
    have hge := hsound.le_of_isFinal hother (.inl htype') hmem'
    exact inj_on_of_nodup_map (hsound.numbered event.workItemId).nodup
      (SchedulerTables.mem_history.mpr ⟨hevent, rfl⟩) hmem (le_antisymm hge hle)
  · intro x _ tables' ok event hevent hnew houtcome
    exact (schedulerStep_change ok).outcomeBy hevent hnew houtcome

def sampleWork : ResearchSchedulePlan where
  workItemId := "work"
  workKind := .dailyAggregation
  idempotencyKey := "key"
  scheduleVersion := "v1"
  scheduledFor := 0
  dataAvailableCutoff := 0
  calendarSessionId := some "session"
  calendarSessionHash := some "session-hash"
  calendarVersion := some "calendar"
  triggerSourceIds := []
  triggerContentHashes := []
  triggerManifestHash := "manifest"
  operatorTriggerId := none
  operatorReasonCode := none
  configManifestHash := "config"
  planHash := "plan-hash"

def sampleClaim : ClaimNextRequest := ⟨"dispatcher", 900, 1, []⟩

def sampleExecutionClaim : ClaimExecutionRequest := ⟨"consumer", 900, 0, 3, []⟩

def sampleLease : ResearchWorkLease :=
  sampleClaim.lease Hashing.readable sampleWork
    ((SchedulerTables.plannedDraft sampleWork 0).row Hashing.readable sampleWork)

def sampleReceipt : ResearchWorkDispatchReceipt :=
  let receipt := unsignedReceipt Hashing.readable sampleWork sampleLease 2
  { receipt with receiptHash := Hashing.readable.canonicalHash receipt.payload }

def sampleExecutionLease : ResearchWorkExecutionLease where
  executionId := executionIdOf Hashing.readable sampleReceipt
  receiptId := sampleReceipt.receiptId
  receiptHash := sampleReceipt.receiptHash
  workItemId := "work"
  workKind := .dailyAggregation
  consumerId := "consumer"
  executionToken := Hashing.readable.stableId "research-execution-lease"
    [.str (executionIdOf Hashing.readable sampleReceipt), .int 4, .str "consumer", .instant 3]
  dispatchAttemptNumber := 1
  acquiredAt := 3
  leaseExpiresAt := 900000003
  configManifestHash := "config"

def executedActions : List SchedulerAction :=
  [.storePlan sampleWork 0, .claimNext sampleClaim, .commitDispatch sampleLease 2,
    .claimExecution sampleExecutionClaim,
    .recordExecutionOutcome sampleExecutionLease
      ⟨true, none, some ⟨executionIdOf Hashing.readable sampleReceipt, sampleReceipt.receiptId,
        "work", .dailyAggregation, .dailyAggregationV1, ["context"], "result", .null⟩⟩ 4]

/-- The protocol over a run in which the work succeeds. -/
theorem executed_protocol :
    ∃ taken tables, taken.map (·.2) = executedActions ∧
      WorkProtocol Hashing.readable 3 taken tables ∧
      (tables.latestEvent "work").map (·.eventType) = some .succeeded := by
  obtain ⟨tables, htables, hlast⟩ := exists_of_any
    (x := executedActions.foldlM (schedulerStep Hashing.readable 3) ⟨[], [], []⟩)
    (p := fun tables => (tables.latestEvent "work").map (·.eventType) = some .succeeded)
    (by decide +kernel)
  obtain ⟨taken, hactions, run⟩ := Run.of_foldlM htables
  exact ⟨taken, tables, hactions, research_work_protocol Hashing.readable_noCollision run,
    of_decide_eq_true hlast⟩

end AdaptiveQuant
