import AdaptiveQuant.Lib.Run
import AdaptiveQuant.Settlement.Projection

/-! Cash books: an opening balance, then buys, sales and settlements in any order, each of them
recorded by `settlement/service.py`. -/

namespace AdaptiveQuant.Settlement

open Guard Sequence List

inductive BookStep
  | buy (ctx : EntryContext) (fill : FillCash)
  | sell (ctx : EntryContext) (calendar : BusinessCalendar) (tradeSession : CivilDate)
      (fill : FillCash)
  | settle (args : SettleArgs)

def stepEvents (hash : Hashing) (book : List CashSettlementEvent) :
    BookStep → Except Failure (List CashSettlementEvent)
  | .buy ctx fill => do return [← recordBuyCashDebit hash ctx fill]
  | .sell ctx calendar tradeSession fill => do
    return [← recordSellReceivable hash ctx calendar tradeSession fill]
  | .settle args => settleDueReceivables hash book args

def bookStep (hash : Hashing) (book : List CashSettlementEvent) (step : BookStep) :
    Except Failure (List CashSettlementEvent) :=
  (book ++ ·) <$> stepEvents hash book step

variable {hash : Hashing}

def Made (hash : Hashing) (e : CashSettlementEvent) : Prop :=
  ∃ (d : EventDraft) (ctx : EntryContext), e.val = d.fields hash ctx

variable {ctx : EntryContext} {e : CashSettlementEvent}

theorem EventDraft.event_eq_ok {d : EventDraft} :
    d.event hash ctx = .ok e ↔ e.val = d.fields hash ctx :=
  validate_eq_ok

theorem eventType_value_injective {a b : CashSettlementEventType} (h : a.value = b.value) :
    a = b := by
  revert h
  cases a <;> cases b <;> decide

theorem Canonical.optStr_injective {a b} (h : Canonical.optStr a = Canonical.optStr b) : a = b := by
  cases a <;> cases b <;> simp_all [Canonical.optStr]

variable {e' : CashSettlementEvent}

theorem Made.of_id_eq (collisionFree : hash.NoCollision) (made : Made hash e) (made' : Made hash e')
    (h : e.val.cashSettlementEventId = e'.val.cashSettlementEventId) :
    e.val.eventType = e'.val.eventType ∧ e.val.receivableId = e'.val.receivableId ∧
      e.val.effectiveAt = e'.val.effectiveAt ∧ e.val.sourceFillId = e'.val.sourceFillId := by
  obtain ⟨d, ctx, he⟩ := made
  obtain ⟨d', ctx', he'⟩ := made'
  rw [he, he'] at h ⊢
  have hidentity := collisionFree _ _ _ h
  simp only [EventDraft.identity, Canonical.dict, List.cons.injEq, and_true, Canonical.entry.injEq,
    Canonical.str.injEq, Canonical.instant.injEq, true_and] at hidentity
  obtain ⟨-, -, htype, hid, hfill, -, -, heffective, -⟩ := hidentity
  exact ⟨eventType_value_injective htype, Canonical.optStr_injective hid, heffective,
    Canonical.optStr_injective hfill⟩

theorem Made.key_of_id_eq (collisionFree : hash.NoCollision) (made : Made hash e)
    (made' : Made hash e') (h : e.val.cashSettlementEventId = e'.val.cashSettlementEventId) :
    e.val.runId = e'.val.runId ∧ e.val.armId = e'.val.armId := by
  obtain ⟨d, ctx, he⟩ := made
  obtain ⟨d', ctx', he'⟩ := made'
  rw [he, he'] at h ⊢
  have hidentity := collisionFree _ _ _ h
  simp only [EventDraft.identity, Canonical.dict, List.cons.injEq, and_true, Canonical.entry.injEq,
    Canonical.str.injEq, true_and] at hidentity
  exact ⟨hidentity.1, Q1ArmId.value_injective hidentity.2.1⟩

theorem Made.idempotencyKey (made : Made hash e) :
    e.val.idempotencyKey = hash.stableId "q1-cash-idem" [.str e.val.cashSettlementEventId] := by
  obtain ⟨d, ctx, he⟩ := made
  rw [he]
  rfl

theorem Made.id_of_idempotencyKey_eq (collisionFree : hash.NoCollision) (made : Made hash e)
    (made' : Made hash e') (h : e.val.idempotencyKey = e'.val.idempotencyKey) :
    e.val.cashSettlementEventId = e'.val.cashSettlementEventId := by
  rw [made.idempotencyKey, made'.idempotencyKey] at h
  simpa using collisionFree _ _ _ h

theorem validateUniqueEvents_of_nodup (collisionFree : hash.NoCollision) {events}
    (made : ∀ e ∈ events, Made hash e) (unique : (events.map (·.val.cashSettlementEventId)).Nodup) :
    validateUniqueEvents events = .ok () := by
  refine validateUniqueEvents_eq_ok.mpr ⟨unique, ?_⟩
  have hkeys : events.map (·.val.idempotencyKey) =
      (events.map (·.val.cashSettlementEventId)).map fun id =>
        hash.stableId "q1-cash-idem" [.str id] := by
    rw [map_map]
    exact map_congr_left fun e he => (made e he).idempotencyKey
  rw [hkeys]
  refine unique.map fun a b h => ?_
  simpa using collisionFree _ _ _ h

theorem recordOpeningSettledCash_eq_ok {armId : Q1ArmId} {amount : Decimal} {effectiveAt : Instant}
    (h : recordOpeningSettledCash hash ctx armId amount effectiveAt = .ok e) :
    Made hash e ∧ CashMoves e.val ∧ e.val.eventType = .openingSettledCash ∧
      e.val.grossAmountUsd = amount ∧ e.val.effectiveAt = effectiveAt := by
  simp only [recordOpeningSettledCash, ok_iff, not_lt] at h
  obtain ⟨hnonneg, h⟩ := h
  rw [EventDraft.event_eq_ok] at h
  refine ⟨⟨_, _, h⟩, ?_⟩
  rw [h]
  exact ⟨⟨rfl, hnonneg, rfl⟩, rfl, rfl, rfl⟩

theorem EventDraft.event_fields {d : EventDraft}
    (h : d.event hash ctx = .ok e) : e.val.runId = ctx.provenance.val.runId ∧
      e.val.armId = d.armId ∧ e.val.createdAt = ctx.createdAt ∧
      e.val.receivableId = d.receivableId ∧ e.val.sourceFillId = d.sourceFillId := by
  rw [EventDraft.event_eq_ok] at h
  rw [h]
  exact ⟨rfl, rfl, rfl, rfl, rfl⟩

theorem recordBuyCashDebit_eq_ok {fill : FillCash} (h : recordBuyCashDebit hash ctx fill = .ok e) :
    Made hash e ∧ CashMoves e.val ∧ e.val.eventType = .buySettledCashDebit ∧
      e.val.settledCashDeltaUsd = -(fill.fillNotionalUsd + fill.commissionUsd) ∧
      e.val.effectiveAt = fill.tradeAt ∧ e.val.sourceFillId = some fill.fillId := by
  simp only [recordBuyCashDebit, ok_iff] at h
  obtain ⟨-, h⟩ := h
  rw [EventDraft.event_eq_ok] at h
  refine ⟨⟨_, _, h⟩, ?_⟩
  rw [h]
  exact ⟨⟨rfl, rfl⟩, rfl, rfl, rfl, rfl⟩

theorem recordSellReceivable_eq_ok {calendar} {tradeSession : CivilDate} {fill : FillCash}
    (h : recordSellReceivable hash ctx calendar tradeSession fill = .ok e) :
    Made hash e ∧ CashMoves e.val ∧ createdId e = some (receivableIdOf hash ctx fill) ∧
      e.val.unsettledReceivableDeltaUsd = fill.fillNotionalUsd - fill.commissionUsd ∧
      e.val.effectiveAt = fill.tradeAt := by
  simp only [recordSellReceivable, ok_iff, not_le] at h
  obtain ⟨-, -, -, -, -, hpos, date, -, h⟩ := h
  rw [EventDraft.event_eq_ok] at h
  refine ⟨⟨_, _, h⟩, ?_, createdId_eq_some.mpr ?_, ?_⟩
  · rw [h]
    exact ⟨rfl, rfl, hpos⟩
  · rw [h]
    exact ⟨rfl, rfl⟩
  · rw [h]
    exact ⟨rfl, rfl⟩

theorem createdByReceivable_concat (events : List CashSettlementEvent) (e : CashSettlementEvent) :
    createdByReceivable (events ++ [e]) =
      (createdId e).elim (createdByReceivable events) fun key =>
        (createdByReceivable events).set key e := by
  simp [createdByReceivable, foldl_append]

theorem createdByReceivable_get? {events} {key : String} {c}
    (h : (createdByReceivable events).get? key = some c) :
    c ∈ events ∧ createdId c = some key := by
  induction events using List.reverseRecOn with
  | nil => simp [createdByReceivable] at h
  | append_singleton events e ih =>
    rw [createdByReceivable_concat] at h
    cases hcreated : createdId e with
    | none =>
      rw [hcreated] at h
      obtain ⟨hmem, hkey⟩ := ih h
      exact ⟨mem_append_left _ hmem, hkey⟩
    | some other =>
      rw [hcreated, Option.elim_some, Dict.get?_set] at h
      split at h
      · rename_i heq
        cases h
        exact ⟨by simp, heq ▸ hcreated⟩
      · obtain ⟨hmem, hkey⟩ := ih h
        exact ⟨mem_append_left _ hmem, hkey⟩

theorem createdByReceivable_append {events more} (h : ∀ e ∈ more, createdId e = none) :
    createdByReceivable (events ++ more) = createdByReceivable events := by
  induction more using List.reverseRecOn with
  | nil => rw [append_nil]
  | append_singleton more e ih =>
    rw [← append_assoc, createdByReceivable_concat, h e (by simp), Option.elim_none]
    exact ih fun x hx => h x (mem_append_left _ hx)

def dueEntries (book : List CashSettlementEvent) (throughSession : CivilDate) :
    List (String × CashSettlementEvent) :=
  (createdByReceivable book).sortedItems.filter (isDue book throughSession)

variable {book : List CashSettlementEvent}

theorem mem_dueEntries {throughSession : CivilDate} {entry}
    (h : entry ∈ dueEntries book throughSession) :
    entry.2 ∈ book ∧ createdId entry.2 = some entry.1 ∧ entry.1 ∉ book.filterMap settledId ∧
      ∃ date, entry.2.val.settlementDate = some date ∧ date ≤ throughSession := by
  obtain ⟨hitem, hdue⟩ := mem_filter.mp h
  obtain ⟨hmem, hkey⟩ := createdByReceivable_get?
    (Dict.get?_eq_some.mpr ((mem_sortedBy _).mp hitem))
  simp only [isDue, decide_eq_true_eq, Option.any_eq_true] at hdue
  exact ⟨hmem, hkey, hdue.1, hdue.2⟩

theorem dueEntries_nodup (book : List CashSettlementEvent) (throughSession : CivilDate) :
    ((dueEntries book throughSession).map (·.1)).Nodup := by
  refine List.Nodup.sublist (filter_sublist.map _) ?_
  exact ((sortedBy_perm _ _).map _).nodup_iff.mpr (createdByReceivable book).nodup

variable {due : List CashSettlementEvent} {args : SettleArgs}

theorem settleDueReceivables_eq_ok (h : settleDueReceivables hash book args = .ok due) :
    validateUniqueEvents book = .ok () ∧
      due.map (·.val) = (dueEntries book args.throughSession).map fun entry =>
        (settlementDraft entry args.effectiveAt).fields hash args.ctx := by
  simp only [settleDueReceivables, bind_eq_ok] at h
  obtain ⟨-, -, -, -, u, hunique, hdue⟩ := h
  exact ⟨hunique, map_of_mapM_eq_ok (fun _ _ h => EventDraft.event_eq_ok.mp h) hdue⟩

theorem exists_entry_of_mem_due {book due} {args : SettleArgs}
    (h : settleDueReceivables hash book args = .ok due) {e} (he : e ∈ due) :
    ∃ entry ∈ dueEntries book args.throughSession,
      e.val = (settlementDraft entry args.effectiveAt).fields hash args.ctx := by
  have hmem : e.val ∈ due.map (·.val) := mem_map_of_mem he
  rw [(settleDueReceivables_eq_ok h).2] at hmem
  obtain ⟨entry, hentry, heq⟩ := mem_map.mp hmem
  exact ⟨entry, hentry, heq.symm⟩

theorem settledId_of_draft {entry}
    (h : e.val = (settlementDraft entry args.effectiveAt).fields hash args.ctx) :
    settledId e = some entry.1 := by
  rw [settledId_eq_some, h]
  exact ⟨rfl, rfl⟩

theorem createdId_of_settledId {key : String} (h : settledId e = some key) : createdId e = none :=
  if_neg (by simp [(settledId_eq_some.mp h).1])

theorem settledIds_due (h : settleDueReceivables hash book args = .ok due) :
    due.filterMap settledId = (dueEntries book args.throughSession).map (·.1) := by
  have hmap : due.filterMap settledId = (due.map (·.val)).filterMap fun f =>
      if f.eventType = .receivableSettled then f.receivableId else none := by
    rw [filterMap_map]
    rfl
  rw [hmap, (settleDueReceivables_eq_ok h).2, filterMap_map]
  exact congrFun (filterMap_eq_map (f := fun entry : String × CashSettlementEvent => entry.1)) _

structure BookInv (hash : Hashing) (opening : CashSettlementEvent)
    (book : List CashSettlementEvent) : Prop where
  made : ∀ e ∈ book, Made hash e
  moves : ∀ e ∈ book, CashMoves e.val
  opened : book.filter (fun e => e.val.eventType = .openingSettledCash) = [opening]
  once : (book.filterMap settledId).Nodup
  sourced : ∀ e ∈ book, ∀ key, settledId e = some key → ∃ c ∈ book, createdId c = some key ∧
    c.val.unsettledReceivableDeltaUsd = -e.val.unsettledReceivableDeltaUsd ∧
    c.val.settlementDate = e.val.settlementDate

variable {opening : CashSettlementEvent}

theorem BookInv.start (made : Made hash opening)
    (moves : CashMoves opening.val) (htype : opening.val.eventType = .openingSettledCash) :
    BookInv hash opening [opening] where
  made := by simpa using made
  moves := by simpa using moves
  opened := by simp [htype]
  once := by simp [settledId, htype]
  sourced e he key hkey := by
    rw [mem_singleton.mp he, settledId_eq_some, htype] at hkey
    simp at hkey

section

variable (inv : BookInv hash opening book)

include inv

theorem BookInv.concat (made : Made hash e) (moves : CashMoves e.val)
    (htype : e.val.eventType ≠ .openingSettledCash)
    (hsettled : ∀ key, settledId e = some key → key ∉ book.filterMap settledId ∧
      ∃ c ∈ book, createdId c = some key ∧
        c.val.unsettledReceivableDeltaUsd = -e.val.unsettledReceivableDeltaUsd ∧
        c.val.settlementDate = e.val.settlementDate) :
    BookInv hash opening (book ++ [e]) where
  made := forall_mem_append.mpr ⟨inv.made, by simpa using made⟩
  moves := forall_mem_append.mpr ⟨inv.moves, by simpa using moves⟩
  opened := by simp [filter_append, inv.opened, htype]
  once := by
    cases hkey : settledId e with
    | none => simpa [filterMap_append, hkey] using inv.once
    | some key => simpa [filterMap_append, hkey] using nodup_snoc inv.once (hsettled key hkey).1
  sourced x hx key hkey := by
    rcases mem_append.mp hx with hx | hx
    · obtain ⟨c, hc, h⟩ := inv.sourced x hx key hkey
      exact ⟨c, mem_append_left _ hc, h⟩
    · obtain rfl := mem_singleton.mp hx
      obtain ⟨c, hc, h⟩ := (hsettled key hkey).2
      exact ⟨c, mem_append_left _ hc, h⟩

theorem BookInv.fill (made : Made hash e) (moves : CashMoves e.val)
    (htype : e.val.eventType ≠ .openingSettledCash) (hsettled : settledId e = none) :
    BookInv hash opening (book ++ [e]) :=
  inv.concat made moves htype fun key hkey => by simp [hsettled] at hkey

theorem BookInv.settle
    (h : settleDueReceivables hash book args = .ok due) : BookInv hash opening (book ++ due) where
  made := by
    refine forall_mem_append.mpr ⟨inv.made, fun e he => ?_⟩
    obtain ⟨entry, -, heq⟩ := exists_entry_of_mem_due h he
    exact ⟨_, _, heq⟩
  moves := by
    refine forall_mem_append.mpr ⟨inv.moves, fun e he => ?_⟩
    obtain ⟨entry, hentry, heq⟩ := exists_entry_of_mem_due h he
    obtain ⟨hsource, hkey, -⟩ := mem_dueEntries hentry
    have hmoves := inv.moves _ hsource
    rw [CashMoves, (createdId_eq_some.mp hkey).1] at hmoves
    rw [heq]
    exact ⟨(neg_neg _).symm, neg_neg_of_pos hmoves.2.2⟩
  opened := by
    have hnone : due.filter (fun e => e.val.eventType = .openingSettledCash) = [] := by
      refine filter_eq_nil_iff.mpr fun e he => ?_
      obtain ⟨entry, -, heq⟩ := exists_entry_of_mem_due h he
      simp [heq, EventDraft.fields, settlementDraft]
    rw [filter_append, inv.opened, hnone, append_nil]
  once := by
    rw [filterMap_append, settledIds_due h]
    refine nodup_append'.mpr ⟨inv.once, dueEntries_nodup _ _, fun key hold hnew => ?_⟩
    obtain ⟨entry, hentry, rfl⟩ := mem_map.mp hnew
    exact (mem_dueEntries hentry).2.2.1 hold
  sourced x hx key hkey := by
    rcases mem_append.mp hx with hx | hx
    · obtain ⟨c, hc, h⟩ := inv.sourced x hx key hkey
      exact ⟨c, mem_append_left _ hc, h⟩
    · obtain ⟨entry, hentry, heq⟩ := exists_entry_of_mem_due h hx
      obtain ⟨hsource, hcreated, -⟩ := mem_dueEntries hentry
      have hsame : entry.1 = key := by
        rw [settledId_of_draft heq, Option.some.injEq] at hkey
        exact hkey
      refine ⟨entry.2, mem_append_left _ hsource, hsame ▸ hcreated, ?_, ?_⟩
      · rw [heq]
        exact (neg_neg _).symm
      · rw [heq]
        rfl

variable {book' : List CashSettlementEvent}

theorem BookInv.step {step : BookStep} (h : bookStep hash book step = .ok book') :
    BookInv hash opening book' := by
  rw [bookStep, map_eq_ok] at h
  obtain ⟨events, hevents, rfl⟩ := h
  cases step with
  | buy ctx fill =>
    simp only [stepEvents, ok_iff] at hevents
    obtain ⟨e, hrecord, rfl⟩ := hevents
    obtain ⟨made, moves, htype, -⟩ := recordBuyCashDebit_eq_ok hrecord
    exact inv.fill made moves (by simp [htype]) (if_neg (by simp [htype]))
  | sell ctx calendar tradeSession fill =>
    simp only [stepEvents, ok_iff] at hevents
    obtain ⟨e, hrecord, rfl⟩ := hevents
    obtain ⟨made, moves, hcreated, -⟩ := recordSellReceivable_eq_ok hrecord
    have htype := (createdId_eq_some.mp hcreated).1
    exact inv.fill made moves (by simp [htype]) (if_neg (by simp [htype]))
  | settle args => exact inv.settle hevents

end

theorem book_inv {armId : Q1ArmId} {amount : Decimal} {effectiveAt : Instant}
    (hopening : recordOpeningSettledCash hash ctx armId amount effectiveAt = .ok opening) {taken}
    (run : Run (bookStep hash) [opening] taken book) : BookInv hash opening book := by
  obtain ⟨made, moves, htype, -⟩ := recordOpeningSettledCash_eq_ok hopening
  exact run.inv (.start made moves htype) fun _ _ _ inv ok => inv.step ok

theorem BookInv.unique_settle (collisionFree : hash.NoCollision) (inv : BookInv hash opening book)
    (h : settleDueReceivables hash book args = .ok due) :
    validateUniqueEvents (book ++ due) = .ok () := by
  have inv' := inv.settle h
  have hunique := (settleDueReceivables_eq_ok h).1
  -- Two events of one name settle the same receivable, if one of them is a settlement.
  have hsame : ∀ e ∈ due, ∀ e' ∈ book ++ due,
      e.val.cashSettlementEventId = e'.val.cashSettlementEventId → settledId e = settledId e' := by
    intro e he e' he' hid
    have hmade := inv'.made e (mem_append_right _ he)
    obtain ⟨htype, hreceivable, -⟩ := hmade.of_id_eq collisionFree (inv'.made e' he') hid
    simp only [settledId, htype, hreceivable]
  refine validateUniqueEvents_of_nodup collisionFree inv'.made ?_
  rw [map_append]
  refine nodup_append'.mpr ⟨(validateUniqueEvents_eq_ok.mp hunique).1, ?_, ?_⟩
  · have hnodup := dueEntries_nodup book args.throughSession
    rw [← settledIds_due h, List.Nodup, pairwise_filterMap] at hnodup
    rw [List.Nodup, pairwise_map]
    refine hnodup.imp_of_mem fun {a b} ha hb hne hid => ?_
    obtain ⟨entry, -, heq⟩ := exists_entry_of_mem_due h ha
    have hkey := settledId_of_draft heq
    exact hne entry.1 hkey entry.1 (hsame a ha b (mem_append_right _ hb) hid ▸ hkey) rfl
  · intro id hold hnew
    obtain ⟨e', he', rfl⟩ := mem_map.mp hold
    obtain ⟨e, he, hid⟩ := mem_map.mp hnew
    obtain ⟨entry, hentry, heq⟩ := exists_entry_of_mem_due h he
    have hkey := settledId_of_draft heq
    rw [hsame e he e' (mem_append_left _ he') hid] at hkey
    exact (mem_dueEntries hentry).2.2.1 (mem_filterMap.mpr ⟨e', he', hkey⟩)

theorem BookInv.settle_twice (collisionFree : hash.NoCollision) {args' : SettleArgs}
    (inv : BookInv hash opening book) (h : settleDueReceivables hash book args = .ok due)
    (samePolicy : validatePolicyCalendar args'.ctx.policy args'.calendar = .ok ())
    (session : args'.calendar.requireSession args'.throughSession = .ok ())
    (sameDate : args'.throughSession = args.throughSession) :
    settleDueReceivables hash (book ++ due) args' = .ok [] := by
  have hcreated : ∀ e ∈ due, createdId e = none := fun e he => by
    obtain ⟨entry, -, heq⟩ := exists_entry_of_mem_due h he
    exact createdId_of_settledId (settledId_of_draft heq)
  have hnone : dueEntries (book ++ due) args'.throughSession = [] := by
    rw [dueEntries, createdByReceivable_append hcreated, filter_eq_nil_iff]
    intro entry hitem hdue
    simp only [isDue, decide_eq_true_eq, filterMap_append, mem_append,
      not_or, sameDate] at hdue
    apply hdue.1.2
    rw [settledIds_due h]
    exact mem_map_of_mem (mem_filter.mpr ⟨hitem, by simp [isDue, hdue.1.1, hdue.2]⟩)
  simp only [settleDueReceivables, samePolicy, session, inv.unique_settle collisionFree h]
  show List.mapM _ (dueEntries (book ++ due) args'.throughSession) = _
  rw [hnone]
  rfl

def BookStep.instant : BookStep → Instant
  | .buy _ fill => fill.tradeAt
  | .sell _ _ _ fill => fill.tradeAt
  | .settle args => args.effectiveAt

def countsFor (t : Instant) (e : CashSettlementEvent) : Bool :=
  e.val.effectiveAt < t ∨ (e.val.effectiveAt = t ∧ e.val.eventType.order ≤ 1)

def debitedId (e : CashSettlementEvent) : Option String :=
  if e.val.eventType = .buySettledCashDebit then e.val.sourceFillId else none

/-- Nothing in the book comes after the step, no fill is recorded twice, and a buy costs no more
than the settled cash that the projection counts before it. -/
def InTurn (hash : Hashing) (book : List CashSettlementEvent) (step : BookStep) : Prop :=
  (∀ e ∈ book, e.val.effectiveAt ≤ step.instant) ∧
    match step with
    | .buy _ fill => fill.fillId ∉ book.filterMap debitedId ∧
        fill.fillNotionalUsd + fill.commissionUsd ≤
          settledSum (book.filter (countsFor fill.tradeAt))
    | .sell ctx _ _ fill => receivableIdOf hash ctx fill ∉ book.filterMap createdId
    | .settle _ => True

structure Chronological (book : List CashSettlementEvent) : Prop where
  ids : (book.map (·.val.cashSettlementEventId)).Nodup
  soldOnce : (book.filterMap createdId).Nodup
  settledLater : ∀ e ∈ book, ∀ key, settledId e = some key → ∃ c ∈ book, createdId c = some key ∧
    c.val.unsettledReceivableDeltaUsd = -e.val.unsettledReceivableDeltaUsd ∧
    c.val.effectiveAt ≤ e.val.effectiveAt
  covered : ∀ e ∈ book, e.val.eventType = .buySettledCashDebit →
    0 ≤ settledSum (book.filter (countsFor e.val.effectiveAt))

theorem Chronological.start
    (htype : opening.val.eventType = .openingSettledCash) : Chronological [opening] where
  ids := by simp
  soldOnce := by simp [createdId, htype]
  settledLater e he key hkey := by
    rw [mem_singleton.mp he, settledId_eq_some, htype] at hkey
    simp at hkey
  covered e he hbuy := by
    rw [mem_singleton.mp he, htype] at hbuy
    cases hbuy

structure Extends (book more : List CashSettlementEvent) (t : Instant) : Prop where
  at_ : ∀ e ∈ more, e.val.effectiveAt = t
  ids : ((book ++ more).map (·.val.cashSettlementEventId)).Nodup
  soldOnce : ((book ++ more).filterMap createdId).Nodup
  settledLater : ∀ e ∈ more, ∀ key, settledId e = some key → ∃ c ∈ book, createdId c = some key ∧
    c.val.unsettledReceivableDeltaUsd = -e.val.unsettledReceivableDeltaUsd
  covered : (∀ e ∈ more, 1 < e.val.eventType.order) ∨
    0 ≤ settledSum ((book ++ more).filter (countsFor t))

theorem Chronological.append {more} {t : Instant} (chron : Chronological book)
    (notAfter : ∀ x ∈ book, x.val.effectiveAt ≤ t) (ext : Extends book more t) :
    Chronological (book ++ more) where
  ids := ext.ids
  soldOnce := ext.soldOnce
  settledLater e he key hkey := by
    rcases mem_append.mp he with he | he
    · obtain ⟨c, hc, h⟩ := chron.settledLater e he key hkey
      exact ⟨c, mem_append_left _ hc, h⟩
    · obtain ⟨c, hc, hcreated, hamount⟩ := ext.settledLater e he key hkey
      exact ⟨c, mem_append_left _ hc, hcreated, hamount,
        (notAfter c hc).trans_eq (ext.at_ e he).symm⟩
  covered e he hbuy := by
    have horder : e.val.eventType.order ≤ 1 := by rw [hbuy]; rfl
    -- Unless the new events count, nothing changes for the debits that were there.
    have hsame (hnone : more.filter (countsFor e.val.effectiveAt) = []) (hold : e ∈ book) :
        0 ≤ settledSum ((book ++ more).filter (countsFor e.val.effectiveAt)) := by
      rw [filter_append, hnone, append_nil]
      exact chron.covered e hold hbuy
    by_cases hat : e.val.effectiveAt = t
    · rcases ext.covered with quiet | hcovered
      · refine hsame (filter_eq_nil_iff.mpr fun x hx => ?_) ?_
        · have hx' := quiet x hx
          simp only [countsFor, ext.at_ x hx, hat, lt_irrefl, true_and, false_or, decide_eq_true_eq]
          omega
        · refine (mem_append.mp he).resolve_right fun hmore => ?_
          have hmore' := quiet e hmore
          omega
      · rw [hat]
        exact hcovered
    · have hold := (mem_append.mp he).resolve_right fun hmore => hat (ext.at_ e hmore)
      have hlt := lt_of_le_of_ne (notAfter e hold) hat
      refine hsame (filter_eq_nil_iff.mpr fun x hx => ?_) hold
      simp [countsFor, ext.at_ x hx, hlt.not_gt, hlt.ne']

section

variable (collisionFree : hash.NoCollision)

include collisionFree

theorem nodup_ids_concat
    (made : ∀ x ∈ book, Made hash x) (made' : Made hash e)
    (fresh : ∀ x ∈ book, x.val.eventType = e.val.eventType →
      ¬(x.val.receivableId = e.val.receivableId ∧ x.val.sourceFillId = e.val.sourceFillId))
    (ids : (book.map (·.val.cashSettlementEventId)).Nodup) :
    ((book ++ [e]).map (·.val.cashSettlementEventId)).Nodup := by
  rw [map_append, map_singleton]
  refine nodup_snoc ids fun hmem => ?_
  obtain ⟨x, hx, hid⟩ := mem_map.mp hmem
  obtain ⟨htype, hreceivable, -, hfill⟩ := (made x hx).of_id_eq collisionFree made' hid
  exact fresh x hx htype ⟨hreceivable, hfill⟩

theorem Chronological.debit
    {fillId : String} (chron : Chronological book)
    (made : ∀ x ∈ book, Made hash x) (made' : Made hash e)
    (notAfter : ∀ x ∈ book, x.val.effectiveAt ≤ e.val.effectiveAt)
    (htype : e.val.eventType = .buySettledCashDebit) (hfill : e.val.sourceFillId = some fillId)
    (fresh : fillId ∉ book.filterMap debitedId)
    (covered : 0 ≤ settledSum (book.filter (countsFor e.val.effectiveAt)) +
      e.val.settledCashDeltaUsd) : Chronological (book ++ [e]) := by
  have hcreated : createdId e = none := if_neg (by simp [htype])
  have hsettled : settledId e = none := if_neg (by simp [htype])
  refine chron.append notAfter ⟨by simp, ?_, ?_, ?_, .inr ?_⟩
  · refine nodup_ids_concat collisionFree made made' (fun x hx hsame hboth => ?_) chron.ids
    refine fresh (mem_filterMap.mpr ⟨x, hx, ?_⟩)
    rw [debitedId, if_pos (hsame.trans htype), hboth.2, hfill]
  · simpa [filterMap_append, hcreated] using chron.soldOnce
  · simp [hsettled]
  · have hcounts : [e].filter (countsFor e.val.effectiveAt) = [e] := by
      simp [countsFor, htype, CashSettlementEventType.order]
    rw [filter_append, hcounts, settledSum_append, settledSum_singleton]
    exact covered

theorem Chronological.sale {key : String}
    (chron : Chronological book) (made : ∀ x ∈ book, Made hash x) (made' : Made hash e)
    (notAfter : ∀ x ∈ book, x.val.effectiveAt ≤ e.val.effectiveAt)
    (hcreated : createdId e = some key) (fresh : key ∉ book.filterMap createdId) :
    Chronological (book ++ [e]) := by
  obtain ⟨htype, hreceivable⟩ := createdId_eq_some.mp hcreated
  have hsettled : settledId e = none := if_neg (by simp [htype])
  refine chron.append notAfter ⟨by simp, ?_, ?_, ?_, .inl ?_⟩
  · refine nodup_ids_concat collisionFree made made' (fun x hx hsame hboth => ?_) chron.ids
    refine fresh (mem_filterMap.mpr ⟨x, hx, ?_⟩)
    exact createdId_eq_some.mpr ⟨hsame.trans htype, hboth.1.trans hreceivable⟩
  · rw [filterMap_append]
    simpa [hcreated] using nodup_snoc chron.soldOnce fresh
  · simp [hsettled]
  · simp [htype, CashSettlementEventType.order]

theorem Chronological.settlement {sale} {key : String} (chron : Chronological book)
    (made : ∀ x ∈ book, Made hash x) (made' : Made hash e)
    (notAfter : ∀ x ∈ book, x.val.effectiveAt ≤ e.val.effectiveAt)
    (hsettles : settledId e = some key) (unsettled : key ∉ book.filterMap settledId)
    (hsale : sale ∈ book) (hcreated : createdId sale = some key)
    (amount : sale.val.unsettledReceivableDeltaUsd = -e.val.unsettledReceivableDeltaUsd) :
    Chronological (book ++ [e]) := by
  obtain ⟨htype, hreceivable⟩ := settledId_eq_some.mp hsettles
  refine chron.append notAfter ⟨by simp, ?_, ?_, ?_, .inl ?_⟩
  · refine nodup_ids_concat collisionFree made made' (fun x hx hsame hboth => ?_) chron.ids
    refine unsettled (mem_filterMap.mpr ⟨x, hx, ?_⟩)
    exact settledId_eq_some.mpr ⟨hsame.trans htype, hboth.1.trans hreceivable⟩
  · simpa [filterMap_append, createdId_of_settledId hsettles] using chron.soldOnce
  · simp only [mem_singleton, forall_eq, hsettles, Option.some.injEq]
    rintro _ rfl
    exact ⟨sale, hsale, hcreated, amount⟩
  · simp [htype, CashSettlementEventType.order]

theorem Chronological.step {step : BookStep}
    (inv : BookInv hash opening book) (chron : Chronological book) (turn : InTurn hash book step)
    (h : bookStep hash book step = .ok book') : Chronological book' := by
  rw [bookStep, map_eq_ok] at h
  obtain ⟨events, hevents, rfl⟩ := h
  cases step with
  | buy ctx fill =>
    simp only [stepEvents, ok_iff] at hevents
    obtain ⟨e, hrecord, rfl⟩ := hevents
    obtain ⟨made, -, htype, hcost, hat, hfill⟩ := recordBuyCashDebit_eq_ok hrecord
    obtain ⟨notAfter, fresh, affordable⟩ := turn
    refine chron.debit collisionFree inv.made made (hat ▸ notAfter) htype hfill fresh ?_
    rw [hat, hcost]
    linarith
  | sell ctx calendar tradeSession fill =>
    simp only [stepEvents, ok_iff] at hevents
    obtain ⟨e, hrecord, rfl⟩ := hevents
    obtain ⟨made, -, hcreated, -, hat⟩ := recordSellReceivable_eq_ok hrecord
    obtain ⟨notAfter, fresh⟩ := turn
    exact chron.sale collisionFree inv.made made (hat ▸ notAfter) hcreated fresh
  | settle args =>
    obtain ⟨notAfter, -⟩ := turn
    simp only [BookStep.instant] at notAfter
    have hdraft := fun e he => @exists_entry_of_mem_due hash _ _ _ hevents e he
    refine chron.append notAfter ⟨fun e he => ?_, ?_, ?_, fun e he key hkey => ?_,
      .inl fun e he => ?_⟩
    · obtain ⟨entry, -, heq⟩ := hdraft e he
      rw [heq]
      rfl
    · exact (validateUniqueEvents_eq_ok.mp (inv.unique_settle collisionFree hevents)).1
    · have hnone : events.filterMap createdId = [] := by
        refine filterMap_eq_nil_iff.mpr fun e he => ?_
        obtain ⟨entry, -, heq⟩ := hdraft e he
        exact createdId_of_settledId (settledId_of_draft heq)
      rw [filterMap_append, hnone, append_nil]
      exact chron.soldOnce
    · obtain ⟨entry, hentry, heq⟩ := hdraft e he
      obtain ⟨hsource, hcreated, -⟩ := mem_dueEntries hentry
      have hsame : entry.1 = key := by
        rw [settledId_of_draft heq, Option.some.injEq] at hkey
        exact hkey
      refine ⟨entry.2, hsource, hsame ▸ hcreated, ?_⟩
      rw [heq]
      exact (neg_neg _).symm
    · obtain ⟨entry, -, heq⟩ := hdraft e he
      simp [heq, EventDraft.fields, settlementDraft, CashSettlementEventType.order]

end

section Accept

variable {opening : CashSettlementEvent} {book ordered : List CashSettlementEvent}

theorem replayKey_le {a b} (h : replayKey a ≤ replayKey b) :
    a.val.effectiveAt < b.val.effectiveAt ∨ a.val.effectiveAt = b.val.effectiveAt ∧
      a.val.eventType.order ≤ b.val.eventType.order := by
  rcases (Prod.Lex.le_iff ..).mp h with hlt | ⟨heq, hrest⟩
  · exact .inl hlt
  · rcases (Prod.Lex.le_iff ..).mp hrest with hlt | ⟨hsame, -⟩
    · exact .inr ⟨heq, hlt.le⟩
    · exact .inr ⟨heq, hsame.le⟩

theorem mem_pre_of_created {pre post e c} {key : String}
    (sorted : (pre ++ e :: post).Pairwise fun a b => replayKey a ≤ replayKey b)
    (hc : c ∈ pre ++ e :: post) (created : createdId c = some key)
    (settled : settledId e = some key) (h : c.val.effectiveAt ≤ e.val.effectiveAt) : c ∈ pre := by
  have hcreated := (createdId_eq_some.mp created).1
  have hsettled := (settledId_eq_some.mp settled).1
  rcases mem_append.mp hc with hc | hc
  · exact hc
  · rcases mem_cons.mp hc with rfl | hpost
    · simp [hcreated] at hsettled
    · have hle := rel_of_pairwise_cons (pairwise_append.mp sorted).2.1 hpost
      rcases replayKey_le hle with hlt | ⟨-, horder⟩
      · exact absurd hlt (not_lt.mpr h)
      · simp [hcreated, hsettled, CashSettlementEventType.order] at horder

theorem settledSum_countsFor_le {pre post e} (moves : ∀ x ∈ pre ++ e :: post, CashMoves x.val)
    (sorted : (pre ++ e :: post).Pairwise fun a b => replayKey a ≤ replayKey b)
    (hbuy : e.val.eventType = .buySettledCashDebit) :
    settledSum ((pre ++ e :: post).filter (countsFor e.val.effectiveAt)) ≤
      settledSum pre + e.val.settledCashDeltaUsd := by
  obtain ⟨-, htail, hbefore⟩ := pairwise_append.mp sorted
  have hpre : pre.filter (countsFor e.val.effectiveAt) = pre := by
    refine filter_eq_self.mpr fun x hx => ?_
    have hkey := replayKey_le (hbefore x hx e mem_cons_self)
    rw [hbuy] at hkey
    exact decide_eq_true hkey
  have hself : countsFor e.val.effectiveAt e = true := by
    simp [countsFor, hbuy, CashSettlementEventType.order]
  have hpost : settledSum (post.filter (countsFor e.val.effectiveAt)) ≤ 0 := by
    refine settledSum_nonpos fun x hx => ?_
    obtain ⟨hx, hcounts⟩ := mem_filter.mp hx
    have hkey := replayKey_le (rel_of_pairwise_cons htail hx)
    simp only [countsFor, decide_eq_true_eq] at hcounts
    have horder : x.val.eventType.order = 1 := by
      have hone : e.val.eventType.order = 1 := by rw [hbuy]; rfl
      rw [hone] at hkey
      rcases hcounts with hlt | ⟨heq, hle⟩
      · rcases hkey with hgt | ⟨heq, -⟩
        · exact absurd hlt (not_lt.mpr hgt.le)
        · exact absurd heq hlt.ne'
      · rcases hkey with hgt | ⟨-, hge⟩
        · exact absurd heq hgt.ne'
        · exact le_antisymm hle hge
    exact (moves x (by simp [hx])).debit_nonpos horder
  rw [filter_append, hpre, filter_cons_of_pos hself, settledSum_append, settledSum_cons]
  linarith

theorem Chronological.nonneg (chron : Chronological book) (moves : ∀ e ∈ book, CashMoves e.val)
    (perm : ordered.Perm book) (sorted : ordered.Pairwise fun a b => replayKey a ≤ replayKey b)
    {pre post} (split : ordered = pre ++ post) : 0 ≤ settledSum pre := by
  induction pre using List.reverseRecOn generalizing post with
  | nil => exact le_rfl
  | append_singleton pre e ih =>
    have hsplit : ordered = pre ++ e :: post := by rw [split, append_assoc, singleton_append]
    have hmem : e ∈ book := perm.mem_iff.mp (by simp [hsplit])
    rw [settledSum_append, settledSum_singleton]
    by_cases hbuy : e.val.eventType = .buySettledCashDebit
    · have hcovered := chron.covered e hmem hbuy
      rw [← settledSum_perm (perm.filter _), hsplit] at hcovered
      refine hcovered.trans (settledSum_countsFor_le (fun x hx => ?_) (hsplit ▸ sorted) hbuy)
      exact moves x (perm.mem_iff.mp (hsplit ▸ hx))
    · exact add_nonneg (ih hsplit) ((moves e hmem).settled_nonneg hbuy)

theorem Chronological.accepted (collisionFree : hash.NoCollision) (inv : BookInv hash opening book)
    (chron : Chronological book) {asOf : Instant} (visible : ∀ e ∈ book, e.val.createdAt ≤ asOf) :
    ∃ b, applySettlementEvents book asOf = .ok b := by
  have perm : (orderedEvents book asOf).Perm book := by
    have hsorted := sortedBy_perm replayKey (visibleEvents book asOf)
    exact hsorted.trans (.of_eq (visibleEvents_eq_self visible))
  have sorted : (orderedEvents book asOf).Pairwise fun a b => replayKey a ≤ replayKey b :=
    sortedBy_pairwise replayKey (visibleEvents book asOf)
  refine applySettlementEvents_of_fits
    (validateUniqueEvents_of_nodup collisionFree inv.made chron.ids) inv.moves ?_
  intro pre e post hsplit
  have hmem : e ∈ book := perm.mem_iff.mp (by simp [hsplit])
  refine ⟨?_, fun key hkey => ?_, fun key hkey => ⟨?_, ?_⟩⟩
  · refine @Chronological.nonneg _ _ chron inv.moves perm sorted _ post ?_
    rw [hsplit, append_assoc, singleton_append]
  · have hnodup := (perm.filterMap createdId).nodup_iff.mpr chron.soldOnce
    rw [hsplit, filterMap_append, filterMap_cons_some hkey] at hnodup
    exact fun hpre => (nodup_append'.mp hnodup).2.2 hpre mem_cons_self
  · have hnodup := (perm.filterMap settledId).nodup_iff.mpr inv.once
    rw [hsplit, filterMap_append, filterMap_cons_some hkey] at hnodup
    exact fun hpre => (nodup_append'.mp hnodup).2.2 hpre mem_cons_self
  · obtain ⟨c, hc, hcreated, hamount, hearlier⟩ := chron.settledLater e hmem key hkey
    have hc' : c ∈ pre ++ e :: post := hsplit ▸ perm.mem_iff.mpr hc
    exact ⟨c, mem_pre_of_created (hsplit ▸ sorted) hc' hcreated hkey hearlier, hcreated, hamount⟩

end Accept

end AdaptiveQuant.Settlement
