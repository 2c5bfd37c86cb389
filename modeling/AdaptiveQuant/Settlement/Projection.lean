import AdaptiveQuant.Settlement.Service

/-! The projection of settlement events to balances. -/

namespace AdaptiveQuant.Settlement

open Guard Sequence List

theorem validateUniqueEvents_eq_ok {events} :
    validateUniqueEvents events = .ok () ↔ (events.map (·.val.cashSettlementEventId)).Nodup ∧
      (events.map (·.val.idempotencyKey)).Nodup := by
  simp [validateUniqueEvents]

variable {events' : List CashSettlementEvent}

theorem validateUniqueEvents_perm {events} (h : events.Perm events') :
    validateUniqueEvents events = validateUniqueEvents events' := by
  have hids := (h.map (·.val.cashSettlementEventId)).nodup_iff
  have hkeys := (h.map (·.val.idempotencyKey)).nodup_iff
  simp only [validateUniqueEvents, hids, hkeys]

theorem nodup_replayKey {events : List CashSettlementEvent}
    (h : (events.map (·.val.cashSettlementEventId)).Nodup) : (events.map replayKey).Nodup := by
  refine List.Nodup.of_map (fun key => (ofLex (ofLex key).2).2) ?_
  rw [map_map]
  exact h

variable {asOf : Instant}

theorem orderedEvents_perm {events : List CashSettlementEvent}
    (h : events.Perm events') (unique : (events.map (·.val.cashSettlementEventId)).Nodup) :
    orderedEvents events asOf = orderedEvents events' asOf := by
  refine sortedBy_eq_of_perm _ (h.filter _) (nodup_replayKey ?_)
  exact unique.sublist (filter_sublist.map _)

theorem applySettlementEvents_perm {events} (h : events.Perm events') :
    applySettlementEvents events asOf = applySettlementEvents events' asOf := by
  simp only [applySettlementEvents, ← validateUniqueEvents_perm h]
  cases hunique : validateUniqueEvents events with
  | error e => rfl
  | ok u => rw [orderedEvents_perm h (validateUniqueEvents_eq_ok.mp hunique).1]

def openTotal (receivables : OpenReceivables) : Decimal := (receivables.entries.map (·.2.1)).sum

def settledSum (events : List CashSettlementEvent) : Decimal :=
  (events.map (·.val.settledCashDeltaUsd)).sum

def unsettledSum (events : List CashSettlementEvent) : Decimal :=
  (events.map (·.val.unsettledReceivableDeltaUsd)).sum

@[simp] theorem settledSum_nil : settledSum [] = 0 := rfl

@[simp] theorem unsettledSum_nil : unsettledSum [] = 0 := rfl

@[simp] theorem settledSum_append (xs ys : List CashSettlementEvent) :
    settledSum (xs ++ ys) = settledSum xs + settledSum ys := by
  simp [settledSum]

@[simp] theorem unsettledSum_append (xs ys : List CashSettlementEvent) :
    unsettledSum (xs ++ ys) = unsettledSum xs + unsettledSum ys := by
  simp [unsettledSum]

@[simp] theorem settledSum_cons (e : CashSettlementEvent) (xs : List CashSettlementEvent) :
    settledSum (e :: xs) = e.val.settledCashDeltaUsd + settledSum xs := by
  simp [settledSum]

@[simp] theorem settledSum_singleton (e : CashSettlementEvent) :
    settledSum [e] = e.val.settledCashDeltaUsd := by
  simp [settledSum]

@[simp] theorem unsettledSum_singleton (e : CashSettlementEvent) :
    unsettledSum [e] = e.val.unsettledReceivableDeltaUsd := by
  simp [unsettledSum]

theorem settledSum_nonpos {events} (h : ∀ e ∈ events, e.val.settledCashDeltaUsd ≤ 0) :
    settledSum events ≤ 0 := by
  induction events with
  | nil => exact le_rfl
  | cons e events ih =>
    rw [settledSum_cons]
    exact add_nonpos (h e mem_cons_self) (ih fun x hx => h x (mem_cons_of_mem e hx))

variable {xs ys : List CashSettlementEvent}

theorem settledSum_perm (h : xs.Perm ys) :
    settledSum xs = settledSum ys :=
  (h.map _).sum_eq

theorem unsettledSum_perm (h : xs.Perm ys) :
    unsettledSum xs = unsettledSum ys :=
  (h.map _).sum_eq

def CashMoves (e : CashSettlementEventFields) : Prop :=
  match e.eventType with
  | .openingSettledCash => e.settledCashDeltaUsd = e.grossAmountUsd ∧ 0 ≤ e.grossAmountUsd ∧
      e.unsettledReceivableDeltaUsd = 0
  | .buySettledCashDebit => e.settledCashDeltaUsd = -(e.grossAmountUsd + e.commissionUsd) ∧
      e.unsettledReceivableDeltaUsd = 0
  | .sellReceivableCreated => e.settledCashDeltaUsd = 0 ∧
      e.unsettledReceivableDeltaUsd = e.grossAmountUsd - e.commissionUsd ∧
      0 < e.unsettledReceivableDeltaUsd
  | .receivableSettled => e.settledCashDeltaUsd = -e.unsettledReceivableDeltaUsd ∧
      e.unsettledReceivableDeltaUsd < 0

theorem CashMoves.settled_nonneg {e : CashSettlementEventFields} (h : CashMoves e)
    (other : e.eventType ≠ .buySettledCashDebit) : 0 ≤ e.settledCashDeltaUsd := by
  unfold CashMoves at h
  cases htype : e.eventType with
  | openingSettledCash =>
    rw [htype] at h
    linarith [h.1, h.2.1]
  | buySettledCashDebit => exact absurd htype other
  | sellReceivableCreated =>
    rw [htype] at h
    exact h.1.ge
  | receivableSettled =>
    rw [htype] at h
    linarith [h.1, h.2]

theorem CashSettlementEvent.amounts_nonneg (e : CashSettlementEvent) :
    0 ≤ e.val.grossAmountUsd ∧ 0 ≤ e.val.commissionUsd := by
  have h := e.valid
  rw [CashSettlementEventFields.validate, bind_eq_ok] at h
  obtain ⟨_, hfields, -⟩ := h
  rw [raiseIf_eq_ok, ne_eq, not_not] at hfields
  simp only [CashSettlementEventFields.fieldErrors, append_eq_nil_iff, geCheck_eq_nil,
    Nat.cast_zero] at hfields
  exact ⟨hfields.1.1.2, hfields.1.2⟩

variable {e : CashSettlementEvent}

theorem CashMoves.debit_nonpos (h : CashMoves e.val)
    (hbuy : e.val.eventType.order = 1) : e.val.settledCashDeltaUsd ≤ 0 := by
  obtain ⟨hgross, hcommission⟩ := e.amounts_nonneg
  unfold CashMoves at h
  cases htype : e.val.eventType with
  | buySettledCashDebit =>
    rw [htype] at h
    linarith [h.1]
  | openingSettledCash | sellReceivableCreated | receivableSettled =>
    rw [htype] at hbuy
    simp [CashSettlementEventType.order] at hbuy

def openingCash (e : CashSettlementEvent) : Decimal :=
  if e.val.eventType = .openingSettledCash then e.val.grossAmountUsd else 0

def netProceeds (e : CashSettlementEvent) : Decimal :=
  if e.val.eventType = .sellReceivableCreated then e.val.grossAmountUsd - e.val.commissionUsd else 0

def buyCost (e : CashSettlementEvent) : Decimal :=
  if e.val.eventType = .buySettledCashDebit then e.val.grossAmountUsd + e.val.commissionUsd else 0

theorem CashMoves.total (h : CashMoves e.val) :
    e.val.settledCashDeltaUsd + e.val.unsettledReceivableDeltaUsd =
      openingCash e + netProceeds e - buyCost e := by
  unfold CashMoves at h
  unfold openingCash netProceeds buyCost
  cases htype : e.val.eventType with
  | openingSettledCash =>
    rw [htype] at h
    simp only [reduceCtorEq, if_true, if_false]
    linarith [h.1, h.2.2]
  | buySettledCashDebit =>
    rw [htype] at h
    simp only [reduceCtorEq, if_true, if_false]
    linarith [h.1, h.2]
  | sellReceivableCreated =>
    rw [htype] at h
    simp only [reduceCtorEq, if_true, if_false]
    linarith [h.1, h.2.1]
  | receivableSettled =>
    rw [htype] at h
    simp only [reduceCtorEq, if_false]
    linarith [h.1]

theorem sum_total {events} (h : ∀ e ∈ events, CashMoves e.val) :
    settledSum events + unsettledSum events = (events.map openingCash).sum +
      (events.map netProceeds).sum - (events.map buyCost).sum := by
  induction events with
  | nil => simp
  | cons e events ih =>
    have htotal := (h e mem_cons_self).total
    have hrest := ih fun x hx => h x (mem_cons_of_mem e hx)
    simp only [settledSum, unsettledSum, map_cons, sum_cons] at hrest ⊢
    linarith

variable {receivables : OpenReceivables}

theorem moveReceivable_total {receivables'} (h : moveReceivable receivables e = .ok receivables')
    (moves : CashMoves e.val) :
    openTotal receivables' = openTotal receivables + e.val.unsettledReceivableDeltaUsd := by
  unfold moveReceivable at h
  unfold CashMoves at moves
  cases htype : e.val.eventType with
  | openingSettledCash =>
    simp only [htype, Except.ok.injEq] at h moves
    rw [← h, moves.2.2, add_zero]
  | buySettledCashDebit =>
    simp only [htype, Except.ok.injEq] at h moves
    rw [← h, moves.2, add_zero]
  | sellReceivableCreated =>
    simp only [htype] at h
    split at h
    · simp only [ok_iff] at h
      obtain ⟨hnew, rfl⟩ := h
      rw [openTotal, Dict.sum_entries_set, Dict.get?_eq_none.mpr hnew]
      simp [openTotal]
    · cases h
  | receivableSettled =>
    simp only [htype] at h
    split at h
    · cases h
    · split at h
      · cases h
      · rename_i hget
        simp only [ok_iff, not_not] at h
        obtain ⟨hamount, rfl⟩ := h
        rw [openTotal, Dict.sum_entries_filter_ne, hget, Option.map_some, Option.getD_some, hamount,
          sub_neg_eq_add]
        rfl

variable {s : ReplayState}

theorem replayEvent_eq_ok {s'} :
    replayEvent s e = .ok s' ↔ moveReceivable s.receivables e = .ok s'.receivables ∧
      s'.settled = s.settled + e.val.settledCashDeltaUsd ∧ 0 ≤ s'.settled := by
  simp only [replayEvent, ok_iff, not_lt]
  constructor
  · rintro ⟨receivables, hmove, hnonneg, rfl⟩
    exact ⟨hmove, rfl, hnonneg⟩
  · rintro ⟨hmove, hsettled, hnonneg⟩
    exact ⟨s'.receivables, hmove, hsettled ▸ hnonneg, by rw [← hsettled]⟩

theorem replay_sums {events} (h : events.foldlM replayEvent ⟨0, .empty⟩ = .ok s)
    (moves : ∀ e ∈ events, CashMoves e.val) :
    s.settled = settledSum events ∧ openTotal s.receivables = unsettledSum events := by
  refine foldlM_induction h (fun pre s => (∀ e ∈ pre, CashMoves e.val) →
    s.settled = settledSum pre ∧ openTotal s.receivables = unsettledSum pre)
    (fun _ => ⟨rfl, rfl⟩) ?_ moves
  intro pre e s s' inv ok hmoves
  obtain ⟨hsettled, hopen⟩ := inv fun x hx => hmoves x (mem_append_left _ hx)
  obtain ⟨hmove, hnew, -⟩ := replayEvent_eq_ok.mp ok
  constructor
  · rw [hnew, hsettled, settledSum_append, settledSum_singleton]
  · rw [moveReceivable_total hmove (hmoves e (by simp)), hopen, unsettledSum_append,
      unsettledSum_singleton]

variable {b : CashBalances}

theorem applySettlementEvents_eq_ok {events} :
    applySettlementEvents events asOf = .ok b ↔ validateUniqueEvents events = .ok () ∧
      ∃ s, (orderedEvents events asOf).foldlM replayEvent ⟨0, .empty⟩ = .ok s ∧
        b.val = s.balances := by
  simp only [applySettlementEvents, bind_eq_ok, validate_eq_ok]
  constructor
  · rintro ⟨_, hunique, h⟩
    exact ⟨hunique, h⟩
  · rintro ⟨hunique, h⟩
    exact ⟨(), hunique, h⟩

theorem ReplayState.balances_total (h : b.val = s.balances) :
    b.unsettledReceivablesUsd = openTotal s.receivables := by
  rw [CashBalances.unsettledReceivablesUsd, h, ReplayState.balances, map_map]
  exact (((sortedBy_perm _ _).map _).sum_eq)

theorem visibleEvents_eq_self {events} (h : ∀ e ∈ events, e.val.createdAt ≤ asOf) :
    visibleEvents events asOf = events := by
  refine filter_eq_self.mpr fun e he => ?_
  simpa using ⟨e.checks.2.trans (h e he), h e he⟩

theorem applySettlementEvents_sums {events} (h : applySettlementEvents events asOf = .ok b)
    (moves : ∀ e ∈ events, CashMoves e.val) :
    b.val.settledCashUsd = settledSum (visibleEvents events asOf) ∧
      b.unsettledReceivablesUsd = unsettledSum (visibleEvents events asOf) := by
  obtain ⟨-, s, hreplay, hb⟩ := applySettlementEvents_eq_ok.mp h
  have hperm : (orderedEvents events asOf).Perm (visibleEvents events asOf) := sortedBy_perm _ _
  obtain ⟨hsettled, hopen⟩ := replay_sums hreplay fun e he =>
    moves e (mem_of_mem_filter (hperm.mem_iff.mp he))
  rw [ReplayState.balances_total hb, hb, ← settledSum_perm hperm, ← unsettledSum_perm hperm]
  exact ⟨hsettled, hopen⟩

theorem CashBalances.settled_nonneg (b : CashBalances) : 0 ≤ b.val.settledCashUsd := by
  have h := b.valid
  simp only [CashBalancesFields.check, ok_iff, not_lt] at h
  exact h.1

structure Fits (pre : List CashSettlementEvent) (e : CashSettlementEvent) : Prop where
  covered : 0 ≤ settledSum (pre ++ [e])
  fresh : ∀ key, createdId e = some key → key ∉ pre.filterMap createdId
  owed : ∀ key, settledId e = some key → key ∉ pre.filterMap settledId ∧
    ∃ c ∈ pre, createdId c = some key ∧
      c.val.unsettledReceivableDeltaUsd = -e.val.unsettledReceivableDeltaUsd

def IsOpen (pre : List CashSettlementEvent) (key : String) (c : CashSettlementEvent) : Prop :=
  c ∈ pre ∧ createdId c = some key ∧ key ∉ pre.filterMap settledId

theorem createdId_eq_some {key : String} :
    createdId e = some key ↔ e.val.eventType = .sellReceivableCreated ∧
      e.val.receivableId = some key := by
  unfold createdId
  split <;> simp_all

theorem settledId_eq_some {key : String} :
    settledId e = some key ↔ e.val.eventType = .receivableSettled ∧
      e.val.receivableId = some key := by
  unfold settledId
  split <;> simp_all

/-- The open receivables of the events, by key. -/
structure Tracks (pre : List CashSettlementEvent) (receivables : OpenReceivables) : Prop where
  sound : ∀ key value, receivables.get? key = some value →
    ∃ c, IsOpen pre key c ∧ value.1 = c.val.unsettledReceivableDeltaUsd
  complete : ∀ key c, IsOpen pre key c →
    ∃ value, receivables.get? key = some value ∧ value.1 = c.val.unsettledReceivableDeltaUsd

theorem Tracks.start : Tracks [] .empty where
  sound key value h := by simp at h
  complete key c h := by simp [IsOpen] at h

variable {pre : List CashSettlementEvent}

theorem IsOpen.concat_other {c} {key : String} (hcreated : createdId e = none)
    (hsettled : settledId e = none) :
    IsOpen (pre ++ [e]) key c ↔ IsOpen pre key c := by
  simp only [IsOpen, filterMap_append, filterMap_cons, hsettled, filterMap_nil,
    append_nil, mem_append, mem_singleton]
  constructor
  · rintro ⟨hmem | rfl, hkey, hopen⟩
    · exact ⟨hmem, hkey, hopen⟩
    · rw [hcreated] at hkey
      cases hkey
  · rintro ⟨hmem, hkey, hopen⟩
    exact ⟨.inl hmem, hkey, hopen⟩

theorem Tracks.other (tracks : Tracks pre receivables)
    (hcreated : createdId e = none) (hsettled : settledId e = none) :
    Tracks (pre ++ [e]) receivables where
  sound key value h := by
    simpa only [IsOpen.concat_other hcreated hsettled] using tracks.sound key value h
  complete key c h := tracks.complete key c ((IsOpen.concat_other hcreated hsettled).mp h)

theorem Tracks.created (tracks : Tracks pre receivables) {key : String}
    (hcreated : createdId e = some key) (fresh : key ∉ pre.filterMap createdId)
    (unsettled : key ∉ pre.filterMap settledId) (date : CivilDate) :
    Tracks (pre ++ [e]) (receivables.set key (e.val.unsettledReceivableDeltaUsd, date)) := by
  have hnone : settledId e = none := if_neg (by simp [(createdId_eq_some.mp hcreated).1])
  have hids : (pre ++ [e]).filterMap settledId = pre.filterMap settledId := by
    simp [filterMap_append, hnone]
  refine ⟨fun other value h => ?_, fun other c h => ?_⟩
  · rw [Dict.get?_set] at h
    by_cases hother : other = key
    · subst hother
      rw [if_pos rfl, Option.some.injEq] at h
      exact ⟨e, ⟨by simp, hcreated, hids ▸ unsettled⟩, by rw [← h]⟩
    · rw [if_neg hother] at h
      obtain ⟨c, ⟨hc, hckey, hopen⟩, hvalue⟩ := tracks.sound other value h
      exact ⟨c, ⟨mem_append_left _ hc, hckey, hids ▸ hopen⟩, hvalue⟩
  · obtain ⟨hc, hckey, hopen⟩ := h
    rw [hids] at hopen
    rw [Dict.get?_set]
    by_cases hother : other = key
    · subst hother
      rw [if_pos rfl]
      rcases mem_append.mp hc with hc | hc
      · exact absurd (mem_filterMap.mpr ⟨c, hc, hckey⟩) fresh
      · exact ⟨_, rfl, by rw [mem_singleton.mp hc]⟩
    · rw [if_neg hother]
      rcases mem_append.mp hc with hc | hc
      · exact tracks.complete other c ⟨hc, hckey, hopen⟩
      · rw [mem_singleton.mp hc, hcreated, Option.some.injEq] at hckey
        exact absurd hckey.symm hother

theorem Tracks.settled (tracks : Tracks pre receivables) {key : String}
    (hsettled : settledId e = some key) :
    Tracks (pre ++ [e]) (receivables.filter fun other _ => other ≠ key) := by
  have hnone : createdId e = none := if_neg (by simp [(settledId_eq_some.mp hsettled).1])
  have hids : (pre ++ [e]).filterMap settledId = pre.filterMap settledId ++ [key] := by
    simp [filterMap_append, hsettled]
  refine ⟨fun other value h => ?_, fun other c h => ?_⟩
  · obtain ⟨hget, hne⟩ := Dict.get?_filter_eq_some.mp h
    obtain ⟨c, ⟨hc, hckey, hopen⟩, hvalue⟩ := tracks.sound other value hget
    refine ⟨c, ⟨mem_append_left _ hc, hckey, ?_⟩, hvalue⟩
    rw [hids, mem_append, not_or, mem_singleton]
    exact ⟨hopen, by simpa using hne⟩
  · obtain ⟨hc, hckey, hopen⟩ := h
    rw [hids, mem_append, not_or, mem_singleton] at hopen
    have hmem : c ∈ pre := by
      rcases mem_append.mp hc with hc | hc
      · exact hc
      · rw [mem_singleton.mp hc, hnone] at hckey
        cases hckey
    obtain ⟨value, hget, hvalue⟩ := tracks.complete other c ⟨hmem, hckey, hopen.1⟩
    exact ⟨value, Dict.get?_filter_eq_some.mpr ⟨hget, by simpa using hopen.2⟩, hvalue⟩

def SettledAfter (pre : List CashSettlementEvent) : Prop :=
  ∀ key ∈ pre.filterMap settledId, key ∈ pre.filterMap createdId

theorem moveReceivable_of_fits (tracks : Tracks pre receivables) (fits : Fits pre e)
    (after : SettledAfter pre) :
    ∃ receivables', moveReceivable receivables e = .ok receivables' ∧
      Tracks (pre ++ [e]) receivables' := by
  have hids := e.checks.1
  unfold moveReceivable
  cases htype : e.val.eventType with
  | openingSettledCash =>
    exact ⟨receivables, rfl, tracks.other (if_neg (by simp [htype])) (if_neg (by simp [htype]))⟩
  | buySettledCashDebit =>
    exact ⟨receivables, rfl, tracks.other (if_neg (by simp [htype])) (if_neg (by simp [htype]))⟩
  | sellReceivableCreated =>
    obtain ⟨hid, hdate⟩ := hids (by simp [htype])
    obtain ⟨key, hkey⟩ := Option.isSome_iff_exists.mp hid
    obtain ⟨date, hdate⟩ := Option.isSome_iff_exists.mp hdate
    have hcreated : createdId e = some key := createdId_eq_some.mpr ⟨htype, hkey⟩
    have hfresh := fits.fresh key hcreated
    have hnew : key ∉ receivables.keys := by
      intro hmem
      obtain ⟨value, hget⟩ := Dict.mem_keys.mp hmem
      obtain ⟨c, ⟨hc, hckey, -⟩, -⟩ := tracks.sound key value hget
      exact hfresh (mem_filterMap.mpr ⟨c, hc, hckey⟩)
    refine ⟨_, ?_, tracks.created hcreated hfresh (fun hmem => hfresh (after key hmem)) date⟩
    simp only [hkey, hdate]
    rw [raiseIf_neg _ hnew]
    rfl
  | receivableSettled =>
    obtain ⟨hid, -⟩ := hids (by simp [htype])
    obtain ⟨key, hkey⟩ := Option.isSome_iff_exists.mp hid
    have hsettled : settledId e = some key := settledId_eq_some.mpr ⟨htype, hkey⟩
    obtain ⟨hopen, c, hc, hckey, hamount⟩ := fits.owed key hsettled
    obtain ⟨value, hget, hvalue⟩ := tracks.complete key c ⟨hc, hckey, hopen⟩
    refine ⟨_, ?_, tracks.settled hsettled⟩
    simp only [hkey, hget]
    rw [raiseIf_neg _ (not_not.mpr (hvalue.trans hamount))]
    rfl

theorem SettledAfter.concat
    (after : SettledAfter pre) (fits : Fits pre e) : SettledAfter (pre ++ [e]) := by
  intro key hkey
  rw [filterMap_append, mem_append] at hkey ⊢
  rcases hkey with hkey | hkey
  · exact .inl (after key hkey)
  · obtain ⟨x, hx, hsettled⟩ := mem_filterMap.mp hkey
    rw [mem_singleton.mp hx] at hsettled
    obtain ⟨-, c, hc, hckey, -⟩ := fits.owed key hsettled
    exact .inl (mem_filterMap.mpr ⟨c, hc, hckey⟩)

theorem replay_of_fits {events} (moves : ∀ e ∈ events, CashMoves e.val)
    (fits : ∀ pre e post, events = pre ++ e :: post → Fits pre e) :
    ∃ s, events.foldlM replayEvent ⟨0, .empty⟩ = .ok s ∧ Tracks events s.receivables ∧
      SettledAfter events ∧ 0 ≤ s.settled := by
  induction events using List.reverseRecOn with
  | nil => exact ⟨_, rfl, .start, by simp [SettledAfter], le_rfl⟩
  | append_singleton pre e ih =>
    obtain ⟨s, hs, tracks, after, -⟩ := ih (fun x hx => moves x (mem_append_left _ hx))
      fun pre' e' post hsplit => fits pre' e' (post ++ [e]) (by simp [hsplit])
    have hfits := fits pre e [] rfl
    obtain ⟨receivables, hmove, tracks'⟩ := moveReceivable_of_fits tracks hfits after
    have hsettled : s.settled = settledSum pre :=
      (replay_sums hs fun x hx => moves x (mem_append_left _ hx)).1
    have hcovered : 0 ≤ s.settled + e.val.settledCashDeltaUsd := by
      have hcovered := hfits.covered
      rwa [settledSum_append, settledSum_singleton, ← hsettled] at hcovered
    refine ⟨⟨s.settled + e.val.settledCashDeltaUsd, receivables⟩, ?_, tracks', after.concat hfits,
      hcovered⟩
    rw [foldlM_concat_eq_ok]
    exact ⟨s, hs, replayEvent_eq_ok.mpr ⟨hmove, rfl, hcovered⟩⟩

theorem applySettlementEvents_of_fits {events} (unique : validateUniqueEvents events = .ok ())
    (moves : ∀ e ∈ events, CashMoves e.val)
    (fits : ∀ pre e post, orderedEvents events asOf = pre ++ e :: post → Fits pre e) :
    ∃ b, applySettlementEvents events asOf = .ok b := by
  have hmem : ∀ e ∈ orderedEvents events asOf, e ∈ events := fun e he =>
    mem_of_mem_filter ((mem_sortedBy replayKey).mp he)
  obtain ⟨s, hs, tracks, -, hnonneg⟩ := replay_of_fits (fun e he => moves e (hmem e he)) fits
  have hcheck : s.balances.check = .ok () := by
    simp only [CashBalancesFields.check, ok_iff, not_lt, not_exists, not_and, not_le]
    refine ⟨hnonneg, fun receivable hreceivable => ?_⟩
    obtain ⟨entry, hentry, rfl⟩ := mem_map.mp hreceivable
    have hget := Dict.get?_eq_some.mpr ((mem_sortedBy _).mp hentry)
    obtain ⟨c, ⟨hc, hkey, -⟩, hvalue⟩ := tracks.sound entry.1 entry.2 hget
    have hmoves := moves c (hmem c hc)
    rw [CashMoves, (createdId_eq_some.mp hkey).1] at hmoves
    rw [hvalue]
    exact hmoves.2.2
  exact ⟨⟨s.balances, hcheck⟩, applySettlementEvents_eq_ok.mpr ⟨unique, s, hs, rfl⟩⟩

end AdaptiveQuant.Settlement
