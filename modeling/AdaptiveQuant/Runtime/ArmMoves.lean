import AdaptiveQuant.Runtime.ArmCycles
import AdaptiveQuant.Settlement.CashBook

/-! One arm in the tables: the rows it has there, what its cash events say about its state, and the
moves that the cycles make with it. -/

namespace AdaptiveQuant.Settlement

open Guard Sequence List

variable {hash : Hashing}

def salesOf (cash : List CashSettlementEvent) : List (String × Decimal) :=
  cash.filterMap fun e => (createdId e).map fun key => (key, e.val.unsettledReceivableDeltaUsd)

def owedOf (cash : List CashSettlementEvent) : List (String × Decimal) :=
  (salesOf cash).filter fun sale => sale.1 ∉ cash.filterMap settledId

variable {e : CashSettlementEvent}

theorem settledId_of_createdId {key : String} (h : createdId e = some key) : settledId e = none :=
  if_neg (by simp [(createdId_eq_some.mp h).1])

variable {cash : List CashSettlementEvent}

theorem owedOf_concat_other (hcreated : createdId e = none) (hsettled : settledId e = none) :
    owedOf (cash ++ [e]) = owedOf cash := by
  simp [owedOf, salesOf, filterMap_append, hcreated, hsettled]

theorem owedOf_concat_created
    {key : String} (hcreated : createdId e = some key) (fresh : key ∉ cash.filterMap settledId) :
    owedOf (cash ++ [e]) = owedOf cash ++ [(key, e.val.unsettledReceivableDeltaUsd)] := by
  have hsettled := settledId_of_createdId hcreated
  have hsale : (salesOf [e]) = [(key, e.val.unsettledReceivableDeltaUsd)] := by
    simp [salesOf, hcreated]
  have hids : (cash ++ [e]).filterMap settledId = cash.filterMap settledId := by
    simp [filterMap_append, hsettled]
  rw [owedOf, hids, salesOf, filterMap_append, filter_append]
  show _ ++ (salesOf [e]).filter _ = _
  rw [hsale, filter_cons_of_pos (by simpa using fresh), filter_nil]
  rfl

theorem owedOf_concat_settled {key : String} (hsettled : settledId e = some key) :
    owedOf (cash ++ [e]) = (owedOf cash).filter fun sale => sale.1 ≠ key := by
  have hcreated := createdId_of_settledId hsettled
  have hsales : salesOf (cash ++ [e]) = salesOf cash := by
    simp [salesOf, filterMap_append, hcreated]
  rw [owedOf, hsales, owedOf, filter_filter]
  refine filter_congr fun sale _ => ?_
  simp [filterMap_append, hsettled, and_comm]

def Q1ArmState.owed (st : Q1ArmState) : List (String × Decimal) :=
  st.val.unsettledReceivables.map fun r => (r.val.receivableId, r.val.amountUsd)

theorem Q1ArmState.unsettledCashUsd_eq (st : Q1ArmState) :
    st.unsettledCashUsd = (st.owed.map (·.2)).sum := by
  simp only [unsettledCashUsd, owed, map_map]
  rfl

theorem Q1ArmState.owed_nodup (st : Q1ArmState) : (st.owed.map (·.1)).Nodup := by
  have h := st.receivableIds_nodup
  rw [owed, map_map]
  exact h

theorem sum_filter_ne {owed : List (String × Decimal)} (nodup : (owed.map (·.1)).Nodup)
    {key : String} {amount : Decimal} (h : (key, amount) ∈ owed) :
    ((owed.filter fun sale => sale.1 ≠ key).map (·.2)).sum = (owed.map (·.2)).sum - amount := by
  have hsum := Dict.sum_entries_filter_ne (fun entry : String × Decimal => entry.2)
    ⟨owed, nodup⟩ key
  have hget : (⟨owed, nodup⟩ : Dict String Decimal).get? key = some amount :=
    Dict.get?_eq_some.mpr h
  rw [hget] at hsum
  exact hsum

structure ArmView where
  snapshots : List ArmStateSnapshotRow
  fills : List Q1Fill
  cash : List CashSettlementEvent
  fillEvents : List OrderEvent

def ArmView.empty : ArmView := ⟨[], [], [], []⟩

def isRowOf (k : ArmKey) (row : OrderEventRow) : Bool :=
  row.runId = k.runId ∧ row.armId = k.armId.value

/-- The rows of one arm. -/
def ArmStore.view (s : ArmStore) (k : ArmKey) : ArmView where
  snapshots := s.snapshots.filter (·.key = k)
  fills := s.fills.filter (·.key = k)
  cash := s.cashEvents.filter (·.val.key = k)
  fillEvents := ((fillEventRows s.orders).filter (isRowOf k)).map (·.event)

def ArmView.latest (v : ArmView) : Option Q1ArmState := v.snapshots.getLast?.map (·.state)

def receivableName (hash : Hashing) (k : ArmKey) (fillId policyVersion : String) : String :=
  hash.stableId "q1-receivable" [.str k.runId, .str k.armId.value, .str fillId, .str policyVersion]

structure OpenInv (hash : Hashing) (k : ArmKey) (opening : CashSettlementEvent) (v : ArmView)
    (st : Q1ArmState) : Prop where
  book : BookInv hash opening v.cash
  key : ∀ e ∈ v.cash, e.val.key = k
  numbered : v.snapshots.map (·.sequence) = List.range v.snapshots.length
  rows : ∀ row ∈ v.snapshots, row.sequence = row.state.val.sequence
  latest : v.latest = some st
  arm : st.val.armId = k.armId
  settled : settledSum v.cash = st.val.settledCashUsd
  unsettled : unsettledSum v.cash = st.unsettledCashUsd
  owed : owedOf v.cash = st.owed
  sources : ∀ e ∈ v.cash, ∀ id, e.val.sourceFillId = some id → id ∈ v.fills.map (·.fillId)
  named : ∀ e ∈ v.cash, ∀ key, createdId e = some key → ∃ id policyVersion,
    e.val.sourceFillId = some id ∧ key = receivableName hash k id policyVersion
  settledFill : ∀ e ∈ v.cash, ∀ key, settledId e = some key → ∃ c ∈ v.cash,
    createdId c = some key ∧ c.val.sourceFillId = e.val.sourceFillId

structure SnapshotOf (k : ArmKey) (t : Instant) (st : Q1ArmState) (row : ArmStateSnapshotRow) :
    Prop where
  key : row.key = k
  state : row.state = st
  sequence : row.sequence = st.val.sequence
  createdAt : row.createdAt = t

structure EventOf (hash : Hashing) (k : ArmKey) (t : Instant) (e : CashSettlementEvent) : Prop where
  key : e.val.key = k
  made : Made hash e
  moves : CashMoves e.val
  effectiveAt : e.val.effectiveAt = t
  createdAt : e.val.createdAt = t

structure Opened (hash : Hashing) (k : ArmKey) (t : Instant) (st : Q1ArmState)
    (event : CashSettlementEvent) (v v' : ArmView) : Prop where
  before : v = .empty
  after : ∃ row, SnapshotOf k t st row ∧ v' = ⟨[row], [], [event], []⟩
  eventOf : EventOf hash k t event
  sequence : st.val.sequence = 0
  receivables : st.val.unsettledReceivables = []
  arm : st.val.armId = k.armId
  eventType : event.val.eventType = .openingSettledCash
  amount : event.val.grossAmountUsd = st.val.settledCashUsd
  sourceFillId : event.val.sourceFillId = none

structure OrderEventOf (t : Instant) (fill : Q1Fill) (event : OrderEvent) : Prop where
  sourceId : event.sourceId = some fill.fillId
  orderIntentId : event.orderIntentId = fill.orderIntentId
  quantityDelta : event.quantityDelta = fill.quantity
  commissionDelta : event.commissionDeltaUsd = fill.commissionUsd
  availableAt : event.availableAt = t

def CashEventOf (hash : Hashing) (k : ArmKey) (fill : Q1Fill) (e : CashSettlementEvent) : Prop :=
  e.val.sourceFillId = some fill.fillId ∧
    ((fill.side = .buy ∧ e.val.eventType = .buySettledCashDebit ∧
        e.val.settledCashDeltaUsd = -(fill.notional + fill.commissionUsd)) ∨
      fill.side = .sell ∧ e.val.unsettledReceivableDeltaUsd = fill.notional - fill.commissionUsd ∧
        ∃ policyVersion, createdId e = some (receivableName hash k fill.fillId policyVersion))

structure Filled (hash : Hashing) (k : ArmKey) (t : Instant) (fill : Q1Fill)
    (event : CashSettlementEvent) (orderEvent : OrderEvent) (st st' : Q1ArmState)
    (v v' : ArmView) : Prop where
  latest : v.latest = some st
  after : ∃ row, SnapshotOf k t st' row ∧ v' = ⟨v.snapshots ++ [row], v.fills ++ [fill],
    v.cash ++ [event], v.fillEvents ++ [orderEvent]⟩
  eventOf : EventOf hash k t event
  cashOf : CashEventOf hash k fill event
  orderOf : OrderEventOf t fill orderEvent
  fresh : fill.fillId ∉ v.fills.map (·.fillId)
  fillAt : fill.key = k ∧ fill.effectiveAt = t ∧ fill.createdAt = t
  applied : ∃ receivable, st.applyFill fill.toFill receivable = .ok st' ∧
    ∀ r, receivable = some r → createdId event = some r.val.receivableId ∧
      event.val.unsettledReceivableDeltaUsd = r.val.amountUsd

/-- One settlement: what it adds to the records and to the state. -/
structure Settled (hash : Hashing) (k : ArmKey) (t : Instant) (event sale : CashSettlementEvent)
    (key : String) (st st' : Q1ArmState) (v v' : ArmView) : Prop where
  latest : v.latest = some st
  after : ∃ row, SnapshotOf k t st' row ∧
    v' = ⟨v.snapshots ++ [row], v.fills, v.cash ++ [event], v.fillEvents⟩
  eventOf : EventOf hash k t event
  settles : settledId event = some key
  sold : sale ∈ v.cash ∧ createdId sale = some key
  amount : sale.val.unsettledReceivableDeltaUsd = -event.val.unsettledReceivableDeltaUsd
  date : sale.val.settlementDate = event.val.settlementDate
  sourceFillId : sale.val.sourceFillId = event.val.sourceFillId
  unsettled : key ∉ v.cash.filterMap settledId
  applied : st.settle key = .ok st'
  sequence : st'.val.sequence = st.val.sequence + 1

theorem Opened.inv {k : ArmKey} {t : Instant} {st : Q1ArmState} {event} {v v' : ArmView}
    (h : Opened hash k t st event v v') : OpenInv hash k event v' st := by
  obtain ⟨row, hrow, rfl⟩ := h.after
  have hmoves := h.eventOf.moves
  rw [CashMoves, h.eventType] at hmoves
  have hcreated : createdId event = none := if_neg (by simp [h.eventType])
  have hsettled : settledId event = none := if_neg (by simp [h.eventType])
  exact {
    book := .start h.eventOf.made h.eventOf.moves h.eventType
    key := by simpa using h.eventOf.key
    numbered := by simp [hrow.sequence, h.sequence]
    rows := by simp [hrow.sequence, hrow.state]
    latest := by simp [ArmView.latest, hrow.state]
    arm := h.arm
    settled := by rw [settledSum_singleton, hmoves.1, h.amount]
    unsettled := by
      rw [unsettledSum_singleton, hmoves.2.2, Q1ArmState.unsettledCashUsd, h.receivables]
      rfl
    owed := by simp [owedOf, salesOf, hcreated, Q1ArmState.owed, h.receivables]
    sources := by simp [h.sourceFillId]
    named := by simp [hcreated]
    settledFill := by simp [hsettled] }

theorem range_concat_sequence {k : ArmKey} {t : Instant} {rows row} {st st' : Q1ArmState}
    (numbered : rows.map (·.sequence) = List.range rows.length)
    (sequences : ∀ row ∈ rows, row.sequence = row.state.val.sequence)
    (latest : rows.getLast?.map (·.state) = some st) (hrow : SnapshotOf k t st' row)
    (next : st'.val.sequence = st.val.sequence + 1) :
    (rows ++ [row]).map (·.sequence) = List.range (rows ++ [row]).length := by
  obtain ⟨last, hlast, hstate⟩ := Option.map_eq_some_iff.mp latest
  obtain ⟨front, rfl⟩ := List.getLast?_eq_some_iff.mp hlast
  have hlastSequence : last.sequence = front.length := by
    rw [map_append, length_append, length_singleton, range_succ] at numbered
    simpa using (append_inj' numbered rfl).2
  have hnext : row.sequence = (front ++ [last]).length := by
    rw [hrow.sequence, next, ← hstate, ← sequences last (by simp), hlastSequence,
      length_append, length_singleton]
  have hlength : (front ++ [last] ++ [row]).length = (front ++ [last]).length + 1 :=
    length_append
  rw [map_append, numbered, hlength, range_succ, map_singleton, hnext]

section

variable {k : ArmKey} {t : Instant} {opening event : CashSettlementEvent} {st st' : Q1ArmState}
  {v v' : ArmView}

theorem latest_concat {row fills cash fillEvents} (hrow : SnapshotOf k t st' row) :
    ArmView.latest ⟨v.snapshots ++ [row], fills, cash, fillEvents⟩ = some st' := by
  simp [ArmView.latest, hrow.state]

theorem rows_concat {row} (hrow : SnapshotOf k t st' row)
    (rows : ∀ row ∈ v.snapshots, row.sequence = row.state.val.sequence) :
    ∀ other ∈ v.snapshots ++ [row], other.sequence = other.state.val.sequence := by
  refine forall_mem_append.mpr ⟨rows, ?_⟩
  simp [hrow.sequence, hrow.state]

theorem OpenInv.fill (collisionFree : hash.NoCollision) (inv : OpenInv hash k opening v st)
    {fill : Q1Fill} {orderEvent : OrderEvent}
    (h : Filled hash k t fill event orderEvent st st' v v') : OpenInv hash k opening v' st' := by
  obtain ⟨row, hrow, rfl⟩ := h.after
  obtain ⟨receivable, happlied, hreceivable⟩ := h.applied
  obtain ⟨harm, hsequence, -, hside⟩ := Q1ArmState.applyFill_eq_ok happlied
  obtain ⟨hsource, hkind⟩ := h.cashOf
  have hmoves := h.eventOf.moves
  have hnotOpening : event.val.eventType ≠ .openingSettledCash ∧ settledId event = none := by
    rcases hkind with ⟨-, htype, -⟩ | ⟨-, -, policyVersion, hcreated⟩
    · exact ⟨by simp [htype], if_neg (by simp [htype])⟩
    · exact ⟨by simp [(createdId_eq_some.mp hcreated).1], settledId_of_createdId hcreated⟩
  -- A receivable of the fill cannot be settled yet: its sale would be recorded.
  have hunsettled : ∀ policyVersion,
      receivableName hash k fill.fillId policyVersion ∉ v.cash.filterMap settledId := by
    intro policyVersion hmem
    obtain ⟨x, hx, hkey⟩ := mem_filterMap.mp hmem
    obtain ⟨c, hc, hcreated, -⟩ := inv.book.sourced x hx _ hkey
    obtain ⟨id, other, hid, hname⟩ := inv.named c hc _ hcreated
    have hparts := collisionFree _ _ _ hname
    simp only [List.cons.injEq, Canonical.str.injEq, and_true, true_and] at hparts
    exact h.fresh (hparts.1 ▸ inv.sources c hc id hid)
  have hmoney : settledSum (v.cash ++ [event]) = st'.val.settledCashUsd ∧
      unsettledSum (v.cash ++ [event]) = st'.unsettledCashUsd ∧
      owedOf (v.cash ++ [event]) = st'.owed := by
    rw [settledSum_append, settledSum_singleton, unsettledSum_append, unsettledSum_singleton,
      inv.settled, inv.unsettled]
    rcases hside with ⟨hbuy, -, -, hsettled, hreceivables⟩ | ⟨r, hsell, hr, hamount, hsettled,
      hreceivables⟩
    · rcases hkind with ⟨-, htype, hcost⟩ | ⟨hsell, -⟩
      · rw [CashMoves, htype] at hmoves
        have hcreated : createdId event = none := if_neg (by simp [htype])
        rw [hmoves.2, hcost, hsettled, owedOf_concat_other hcreated hnotOpening.2, inv.owed]
        simp only [Q1ArmState.owed, Q1ArmState.unsettledCashUsd, hreceivables, add_zero]
        exact ⟨(sub_eq_add_neg ..).symm, trivial, trivial⟩
      · rw [hbuy] at hsell
        cases hsell
    · obtain ⟨hcreated, hdelta⟩ := hreceivable r hr
      have htype := (createdId_eq_some.mp hcreated).1
      rw [CashMoves, htype] at hmoves
      have hfresh : r.val.receivableId ∉ v.cash.filterMap settledId := by
        rcases hkind with ⟨hbuy, -⟩ | ⟨-, -, policyVersion, hname⟩
        · rw [hsell] at hbuy
          cases hbuy
        · rw [hcreated, Option.some.injEq] at hname
          exact hname ▸ hunsettled policyVersion
      rw [hmoves.1, hdelta, hsettled, owedOf_concat_created hcreated hfresh, inv.owed]
      simp [Q1ArmState.owed, Q1ArmState.unsettledCashUsd, hreceivables, hdelta]
  exact {
    book := inv.book.concat h.eventOf.made h.eventOf.moves hnotOpening.1
      fun key hkey => by simp [hnotOpening.2] at hkey
    key := forall_mem_append.mpr ⟨inv.key, by simpa using h.eventOf.key⟩
    numbered := range_concat_sequence inv.numbered inv.rows inv.latest hrow hsequence
    rows := rows_concat hrow inv.rows
    latest := latest_concat hrow
    arm := harm.trans inv.arm
    settled := hmoney.1
    unsettled := hmoney.2.1
    owed := hmoney.2.2
    sources := by
      refine forall_mem_append.mpr ⟨fun e he id hid => ?_, ?_⟩
      · rw [map_append]
        exact mem_append_left _ (inv.sources e he id hid)
      · simp [hsource]
    named := by
      refine forall_mem_append.mpr ⟨inv.named, ?_⟩
      simp only [mem_singleton, forall_eq]
      intro key hkey
      rcases hkind with ⟨-, htype, -⟩ | ⟨-, -, policyVersion, hname⟩
      · rw [createdId_eq_some, htype] at hkey
        simp at hkey
      · rw [hkey, Option.some.injEq] at hname
        exact ⟨_, _, hsource, hname⟩
    settledFill := by
      intro e he key hkey
      rcases mem_append.mp he with he | he
      · obtain ⟨c, hc, hboth⟩ := inv.settledFill e he key hkey
        exact ⟨c, mem_append_left _ hc, hboth⟩
      · rw [mem_singleton.mp he, hnotOpening.2] at hkey
        cases hkey }

theorem OpenInv.settle (inv : OpenInv hash k opening v st) {sale : CashSettlementEvent}
    {key : String} (h : Settled hash k t event sale key st st' v v') :
    OpenInv hash k opening v' st' := by
  obtain ⟨row, hrow, rfl⟩ := h.after
  obtain ⟨hsold, hcreated⟩ := h.sold
  obtain ⟨htype, -⟩ := settledId_eq_some.mp h.settles
  have hmoves := h.eventOf.moves
  rw [CashMoves, htype] at hmoves
  rcases Q1ArmState.settle_eq_ok h.applied with rfl | ⟨r, hr, hid, hstate⟩
  · exact absurd h.sequence (by omega)
  -- The state owes what the sale says.
  have howes : (key, r.val.amountUsd) ∈ st.owed := by
    rw [← hid]
    exact mem_map_of_mem hr
  have hsale : (key, sale.val.unsettledReceivableDeltaUsd) ∈ st.owed := by
    rw [← inv.owed]
    refine mem_filter.mpr ⟨mem_filterMap.mpr ⟨sale, hsold, ?_⟩, by simpa using h.unsettled⟩
    simp [hcreated]
  have hamount : r.val.amountUsd = -event.val.unsettledReceivableDeltaUsd := by
    rw [← h.amount]
    have hsame := inj_on_of_nodup_map st.owed_nodup howes hsale rfl
    exact (Prod.mk.inj hsame).2
  have howed : st'.owed = st.owed.filter fun sale => sale.1 ≠ key := by
    simp only [Q1ArmState.owed, hstate, filter_map]
    rfl
  exact {
    book := by
      refine inv.book.concat h.eventOf.made h.eventOf.moves (by simp [htype]) fun other hother => ?_
      rw [h.settles, Option.some.injEq] at hother
      subst hother
      exact ⟨h.unsettled, sale, hsold, hcreated, h.amount, h.date⟩
    key := forall_mem_append.mpr ⟨inv.key, by simpa using h.eventOf.key⟩
    numbered := range_concat_sequence inv.numbered inv.rows inv.latest hrow h.sequence
    rows := rows_concat hrow inv.rows
    latest := latest_concat hrow
    arm := by rw [hstate]; exact inv.arm
    settled := by
      rw [settledSum_append, settledSum_singleton, inv.settled, hmoves.1, hstate, hamount]
    unsettled := by
      rw [unsettledSum_append, unsettledSum_singleton, inv.unsettled,
        st'.unsettledCashUsd_eq, howed, sum_filter_ne st.owed_nodup howes, st.unsettledCashUsd_eq,
        hamount, sub_neg_eq_add]
    owed := by rw [owedOf_concat_settled h.settles, inv.owed, howed]
    sources := by
      refine forall_mem_append.mpr ⟨inv.sources, ?_⟩
      simp only [mem_singleton, forall_eq, ← h.sourceFillId]
      exact inv.sources sale hsold
    named := by
      refine forall_mem_append.mpr ⟨inv.named, ?_⟩
      simp [createdId_of_settledId h.settles]
    settledFill := by
      intro e he other hother
      rcases mem_append.mp he with he | he
      · obtain ⟨c, hc, hboth⟩ := inv.settledFill e he other hother
        exact ⟨c, mem_append_left _ hc, hboth⟩
      · obtain rfl := mem_singleton.mp he
        rw [h.settles, Option.some.injEq] at hother
        subst hother
        exact ⟨sale, mem_append_left _ hsold, hcreated, h.sourceFillId⟩ }

end

end AdaptiveQuant.Settlement
