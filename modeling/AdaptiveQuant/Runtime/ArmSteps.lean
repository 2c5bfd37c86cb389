import AdaptiveQuant.Runtime.ArmMoves

/-! The cycles move one arm at a time. -/

namespace AdaptiveQuant.Settlement

open Guard Sequence List

variable {hash : Hashing}

def SnapshotNamed (hash : Hashing) (row : ArmStateSnapshotRow) : Prop :=
  ∃ cycleId stateHash, row.armStateSnapshotId = hash.stableId "q1-arm-state" [.str row.runId,
    .str row.armId.value, .int row.sequence, .str cycleId, .str stateHash]

def OrderMade (hash : Hashing) (event : OrderEvent) : Prop :=
  ∃ order request next, event.toOrderEventFields = orderEventFields hash order request next

structure StoreInv (hash : Hashing) (s : ArmStore) : Prop where
  views : ∀ k, s.view k = .empty ∨ ∃ opening st, OpenInv hash k opening (s.view k) st
  unique : s.cashEvents.Pairwise fun a b => ¬SameIdentity a b
  named : ∀ row ∈ s.snapshots, SnapshotNamed hash row
  orderMade : ∀ row ∈ s.orders.orderEvents, OrderMade hash row.event
  filled : ∀ row ∈ fillEventRows s.orders, ∃ fill ∈ s.fills, row.event.sourceId = some fill.fillId

theorem StoreInv.start : StoreInv hash ⟨[], [], [], ⟨[], [], []⟩⟩ where
  views _ := .inl rfl
  unique := .nil
  named := by simp
  orderMade := by simp
  filled := by simp [fillEventRows]

variable {s : ArmStore} {k : ArmKey}
variable {e : CashSettlementEvent}

theorem StoreInv.of_mem_cash (inv : StoreInv hash s)
    (he : e ∈ s.cashEvents) : e ∈ (s.view e.val.key).cash ∧
      ∃ opening st, OpenInv hash e.val.key opening (s.view e.val.key) st := by
  have hmem : e ∈ (s.view e.val.key).cash := mem_filter.mpr ⟨he, by simp⟩
  refine ⟨hmem, (inv.views e.val.key).resolve_left fun hempty => ?_⟩
  rw [hempty] at hmem
  cases hmem

theorem StoreInv.made (inv : StoreInv hash s) (he : e ∈ s.cashEvents) : Made hash e := by
  obtain ⟨hmem, opening, st, hopen⟩ := inv.of_mem_cash he
  exact hopen.book.made e hmem

theorem StoreInv.latestArmState_eq (inv : StoreInv hash s) (k : ArmKey) :
    latestArmState s.snapshots k = (s.view k).latest := by
  have hsorted : sortedBy (fun row => toLex (row.sequence, row.armStateSnapshotId))
      (s.view k).snapshots = (s.view k).snapshots := by
    rcases inv.views k with hempty | ⟨opening, st, hopen⟩
    · rw [hempty]
      rfl
    · refine sortedBy_eq_self _ ?_
      have hlt : ((s.view k).snapshots.map (·.sequence)).Pairwise (· < ·) := by
        rw [hopen.numbered]
        exact pairwise_lt_range
      rw [pairwise_map] at hlt
      exact hlt.imp fun h => Prod.Lex.toLex_le_toLex.mpr (.inl h)
  rw [latestArmState, latestSnapshot]
  show ((sortedBy _ (s.view k).snapshots).getLast?).map _ = _
  rw [hsorted]
  rfl

variable {st : Q1ArmState}

theorem OpenInv.sequence_lt {opening} {v : ArmView} (inv : OpenInv hash k opening v st) {row}
    (hrow : row ∈ v.snapshots) :
    row.sequence < v.snapshots.length ∧ st.val.sequence + 1 = v.snapshots.length := by
  have hmem : row.sequence ∈ v.snapshots.map (·.sequence) := mem_map_of_mem hrow
  rw [inv.numbered, mem_range] at hmem
  refine ⟨hmem, ?_⟩
  obtain ⟨last, hlast, hstate⟩ := Option.map_eq_some_iff.mp inv.latest
  have hnumbered := inv.numbered
  have hsequence := inv.rows last (mem_of_getLast? hlast)
  obtain ⟨front, hfront⟩ := List.getLast?_eq_some_iff.mp hlast
  rw [hfront, map_append, length_append, length_singleton, range_succ]
    at hnumbered
  have hlength : last.sequence = front.length := by
    simpa using (append_inj' hnumbered rfl).2
  rw [hfront, length_append, length_singleton, ← hstate, ← hsequence, hlength]

variable {runId : String} {t : Instant}

theorem StoreInv.appendArmState_eq (collisionFree : hash.NoCollision) (inv : StoreInv hash s)
    {rows'} {cycleId : String} {expected : Option ℕ}
    (h : appendArmState hash s.snapshots runId st cycleId t expected = .ok rows') :
    ((s.view ⟨runId, st.val.armId⟩).latest).map (·.val.sequence) = expected ∧
      st.val.sequence = ((s.view ⟨runId, st.val.armId⟩).latest).elim 0 (·.val.sequence + 1) ∧
      rows' = s.snapshots ++ [snapshotRow hash runId st cycleId t] := by
  obtain ⟨hexpected, hsequence, happend⟩ := appendArmState_eq_ok h
  rw [inv.latestArmState_eq] at hexpected hsequence
  refine ⟨hexpected, hsequence, happend.resolve_right ?_⟩
  rintro ⟨row, hrow, hid⟩
  obtain ⟨cycleId', stateHash, hname⟩ := inv.named row hrow
  rw [hname] at hid
  have hparts := collisionFree _ _ _ hid
  simp only [List.cons.injEq, Canonical.str.injEq, Canonical.int.injEq, Nat.cast_inj] at hparts
  obtain ⟨hrun, harm, hsame, -⟩ := hparts
  have hkey : row.key = ⟨runId, st.val.armId⟩ := by
    rw [ArmStateSnapshotRow.key, hrun, Q1ArmId.value_injective harm]
  have hmem : row ∈ (s.view ⟨runId, st.val.armId⟩).snapshots :=
    mem_filter.mpr ⟨hrow, by simp [hkey]⟩
  rcases inv.views ⟨runId, st.val.armId⟩ with hempty | ⟨opening, before, hopen⟩
  · rw [hempty] at hmem
    cases hmem
  · obtain ⟨hlt, hlast⟩ := hopen.sequence_lt hmem
    rw [hopen.latest, Option.elim_some] at hsequence
    omega

theorem snapshotOf_row {cycleId : String} :
    SnapshotOf ⟨runId, st.val.armId⟩ t st (snapshotRow hash runId st cycleId t) :=
  ⟨rfl, rfl, rfl, rfl⟩

theorem snapshotNamed_row {cycleId : String} :
    SnapshotNamed hash (snapshotRow hash runId st cycleId t) :=
  ⟨_, _, rfl⟩

theorem view_concat {row event} {other : ArmKey} (hrow : row.key = k) (hevent : event.val.key = k) :
    ArmStore.view
      { s with snapshots := s.snapshots ++ [row], cashEvents := s.cashEvents ++ [event] }
      other = if other = k then ⟨(s.view k).snapshots ++ [row], (s.view k).fills,
        (s.view k).cash ++ [event], (s.view k).fillEvents⟩ else s.view other := by
  by_cases hsame : other = k
  · subst hsame
    rw [if_pos rfl]
    simp [ArmStore.view, hrow, hevent]
  · have hne : k ≠ other := fun h => hsame h.symm
    rw [if_neg hsame]
    simp [ArmStore.view, hrow, hevent, hne]

variable {databaseClock : Option Instant}

theorem StoreInv.appendCashEvent_eq (collisionFree : hash.NoCollision) (inv : StoreInv hash s)
    {cycles event events'} (made : Made hash event)
    (h : appendCashEvent cycles databaseClock s.cashEvents event = .ok events') :
    (events' = s.cashEvents ++ [event] ∧ ∀ row ∈ s.cashEvents, ¬SameIdentity row event) ∨
      events' = s.cashEvents ∧ ∃ row ∈ s.cashEvents, row.val.eventType = event.val.eventType ∧
        ((row.val.key = event.val.key ∧ row.val.receivableId = event.val.receivableId ∧
            row.val.sourceFillId = event.val.sourceFillId) ∨ SameIdentity row event) := by
  rcases appendCashEvent_eq_ok h with happend | ⟨hsame, row, hrow, hkey | hidentity⟩
  · exact .inl happend
  · have hid := (inv.made hrow).id_of_idempotencyKey_eq collisionFree made hkey
    obtain ⟨htype, hreceivable, -, hfill⟩ := (inv.made hrow).of_id_eq collisionFree made hid
    obtain ⟨hrun, harm⟩ := (inv.made hrow).key_of_id_eq collisionFree made hid
    refine .inr ⟨hsame, row, hrow, htype, .inl ⟨?_, hreceivable, hfill⟩⟩
    rw [CashSettlementEventFields.key, hrun, harm]
    rfl
  · exact .inr ⟨hsame, row, hrow, hidentity.1, .inr hidentity⟩

theorem StoreInv.unique_concat (inv : StoreInv hash s) {event}
    (fresh : ∀ row ∈ s.cashEvents, ¬SameIdentity row event) :
    (s.cashEvents ++ [event]).Pairwise fun a b => ¬SameIdentity a b := by
  refine pairwise_append.mpr ⟨inv.unique, pairwise_singleton _ _, fun row hrow e he => ?_⟩
  rw [mem_singleton.mp he]
  exact fresh row hrow

theorem recordOpeningSettledCash_fields {ctx} {armId : Q1ArmId} {amount : Decimal}
    (h : recordOpeningSettledCash hash ctx armId amount t = .ok e) :
    e.val.key = ctx.arm armId ∧ e.val.createdAt = ctx.now ∧ e.val.receivableId = none ∧
      e.val.sourceFillId = none := by
  simp only [recordOpeningSettledCash, bind_eq_ok] at h
  obtain ⟨-, -, h⟩ := h
  obtain ⟨hrun, harm, hcreated, hreceivable, hfill⟩ := EventDraft.event_fields h
  exact ⟨by rw [CashSettlementEventFields.key, hrun, harm]; rfl, hcreated, hreceivable, hfill⟩

variable {s' : ArmStore}

theorem openArm_opens (collisionFree : hash.NoCollision) (inv : StoreInv hash s) {args : OpenArgs}
    (h : openArm hash s args = .ok s') :
    StoreInv hash s' ∧ (∃ st event, Opened hash (args.ctx.arm args.armId) args.ctx.now st event
        (s.view (args.ctx.arm args.armId)) (s'.view (args.ctx.arm args.armId))) ∧
      (∀ other, other ≠ args.ctx.arm args.armId → s'.view other = s.view other) ∧
      s'.fills = s.fills ∧ s'.orders = s.orders := by
  simp only [openArm, ok_iff] at h
  obtain ⟨st, hstate, snapshots, hsnapshots, event, hevent, cashEvents, hcash, rfl⟩ := h
  rw [OpenArgs.state, validate_eq_ok] at hstate
  have harm : st.val.armId = args.armId := by rw [hstate]
  obtain ⟨hlatest, -, hrows⟩ := inv.appendArmState_eq collisionFree hsnapshots
  obtain ⟨made, moves, htype, hgross, hat⟩ := recordOpeningSettledCash_eq_ok hevent
  obtain ⟨hkey, hcreatedAt, hnoReceivable, hnoFill⟩ := recordOpeningSettledCash_fields hevent
  rw [harm, Option.map_eq_none_iff] at hlatest
  have hempty : s.view (args.ctx.arm args.armId) = .empty := by
    refine (inv.views _).resolve_right ?_
    rintro ⟨opening, before, hopen⟩
    have hsome := hopen.latest
    rw [show (s.view (args.ctx.arm args.armId)).latest = none from hlatest] at hsome
    cases hsome
  have hnotSame : ∀ row, ¬SameIdentity row event := by
    rintro row ⟨-, ⟨key, hkey, -⟩ | ⟨key, hkey, -⟩⟩
    · simp [hnoReceivable] at hkey
    · simp [hnoFill] at hkey
  obtain ⟨rfl, hfresh⟩ := (inv.appendCashEvent_eq collisionFree made hcash).resolve_right <| by
    rintro ⟨-, row, hrow, -, ⟨hsame, -⟩ | hidentity⟩
    · obtain ⟨hmem, -⟩ := inv.of_mem_cash hrow
      rw [hsame, hkey, hempty] at hmem
      cases hmem
    · exact hnotSame row hidentity
  have hopened : Opened hash (args.ctx.arm args.armId) args.ctx.now st event
      (s.view (args.ctx.arm args.armId))
      (ArmStore.view { s with snapshots := snapshots, cashEvents := s.cashEvents ++ [event] }
        (args.ctx.arm args.armId)) := by
    rw [hrows, view_concat (by rw [← harm]; rfl) hkey, if_pos rfl, hempty]
    refine ⟨rfl, ⟨_, ?_, rfl⟩, ⟨hkey, made, moves, hat, hcreatedAt⟩, by rw [hstate],
      by rw [hstate], harm, htype, by rw [hgross, hstate], hnoFill⟩
    rw [EntryContext.arm, ← harm]
    exact snapshotOf_row
  have hothers : ∀ other, other ≠ args.ctx.arm args.armId →
      ArmStore.view { s with snapshots := snapshots, cashEvents := s.cashEvents ++ [event] } other =
        s.view other := by
    intro other hne
    rw [hrows, view_concat (by rw [← harm]; rfl) hkey, if_neg hne]
  refine ⟨⟨fun other => ?_, inv.unique_concat hfresh, ?_, inv.orderMade, inv.filled⟩,
    ⟨st, event, hopened⟩, hothers, rfl, rfl⟩
  · by_cases hsame : other = args.ctx.arm args.armId
    · rw [hsame]
      exact .inr ⟨event, st, hopened.inv⟩
    · rw [hothers other hsame]
      exact inv.views other
  · rw [hrows]
    exact forall_mem_append.mpr ⟨inv.named, by simpa using snapshotNamed_row⟩

def DueOf (hash : Hashing) (args : SettleArmArgs) (cash : List CashSettlementEvent)
    (event : CashSettlementEvent) : Prop :=
  ∃ key sale, sale ∈ cash ∧ createdId sale = some key ∧
    event.val = (settlementDraft (key, sale) (max args.ctx.now args.openAt)).fields hash args.ctx

theorem SameIdentity.symm {a b} (h : SameIdentity a b) :
    SameIdentity b a := by
  obtain ⟨htype, ⟨key, ha, hb⟩ | ⟨key, ha, hb⟩⟩ := h
  · exact ⟨htype.symm, .inl ⟨key, hb, ha⟩⟩
  · exact ⟨htype.symm, .inr ⟨key, hb, ha⟩⟩

instance : Std.Symm fun a b : CashSettlementEvent => ¬SameIdentity a b :=
  ⟨fun _ _ h hsame => h hsame.symm⟩

theorem StoreInv.sale_unique (inv : StoreInv hash s) {a b} (ha : a ∈ s.cashEvents)
    (hb : b ∈ s.cashEvents) {fillId keyA keyB : String} (hcreatedA : createdId a = some keyA)
    (hcreatedB : createdId b = some keyB) (hfillA : a.val.sourceFillId = some fillId)
    (hfillB : b.val.sourceFillId = some fillId) :
    a = b := by
  by_contra hne
  refine inv.unique.forall ha hb hne ⟨?_, .inr ⟨fillId, hfillB, hfillA⟩⟩
  rw [(createdId_eq_some.mp hcreatedA).1, (createdId_eq_some.mp hcreatedB).1]

theorem StoreInv.settled_of_repeat (collisionFree : hash.NoCollision) (inv : StoreInv hash s)
    {event row sale : CashSettlementEvent} {key : String} (hsale : sale ∈ (s.view k).cash)
    (hcreated : createdId sale = some key) (hsettles : settledId event = some key)
    (hfill : event.val.sourceFillId = sale.val.sourceFillId) (hkey : event.val.key = k)
    (hrow : row ∈ s.cashEvents) (htype : row.val.eventType = event.val.eventType)
    (hsame : (row.val.key = event.val.key ∧ row.val.receivableId = event.val.receivableId ∧
      row.val.sourceFillId = event.val.sourceFillId) ∨ SameIdentity row event) :
    key ∈ (s.view k).cash.filterMap settledId := by
  obtain ⟨hsettledType, hreceivable⟩ := settledId_eq_some.mp hsettles
  obtain ⟨hmem, opening, st, hopen⟩ := inv.of_mem_cash hrow
  obtain ⟨hstored, hstoredKey⟩ := mem_filter.mp hsale
  have hsaleOpen : ∃ opening st, OpenInv hash k opening (s.view k) st :=
    of_decide_eq_true hstoredKey ▸ (inv.of_mem_cash hstored).2
  obtain ⟨opening', st', hopen'⟩ := hsaleOpen
  rcases hsame with ⟨hrowKey, hrowReceivable, -⟩ | ⟨-, ⟨id, hid, hrowId⟩ | ⟨fillId, hid, hrowFill⟩⟩
  · rw [hrowKey, hkey] at hmem
    refine mem_filterMap.mpr ⟨row, hmem, settledId_eq_some.mpr ⟨htype.trans hsettledType, ?_⟩⟩
    exact hrowReceivable.trans hreceivable
  · obtain rfl : key = id := Option.some.inj (hreceivable.symm.trans hid)
    have hrowSettled : settledId row = some key :=
      settledId_eq_some.mpr ⟨htype.trans hsettledType, hrowId⟩
    obtain ⟨c, hc, hcCreated, -⟩ := hopen.book.sourced row hmem key hrowSettled
    obtain ⟨id, policy, -, hname⟩ := hopen.named c hc key hcCreated
    obtain ⟨id', policy', -, hname'⟩ := hopen'.named sale hsale key hcreated
    have hparts := collisionFree _ _ _ (hname.symm.trans hname')
    simp only [List.cons.injEq, Canonical.str.injEq] at hparts
    have hrowKey : row.val.key = k := by
      cases k
      exact congrArg₂ ArmKey.mk hparts.1 (Q1ArmId.value_injective hparts.2.1)
    rw [hrowKey] at hmem
    exact mem_filterMap.mpr ⟨row, hmem, hrowSettled⟩
  · have hsome := (row.checks.1 (by rw [htype, hsettledType]; simp)).1
    obtain ⟨other, hother⟩ := Option.isSome_iff_exists.mp hsome
    have hrowSettled : settledId row = some other :=
      settledId_eq_some.mpr ⟨htype.trans hsettledType, hother⟩
    obtain ⟨c, hc, hcCreated, hcFill⟩ := hopen.settledFill row hmem other hrowSettled
    obtain ⟨hcStored, hcKey⟩ := mem_filter.mp hc
    obtain rfl := inv.sale_unique hcStored hstored hcCreated hcreated
      (hcFill.trans hrowFill) (hfill ▸ hid)
    obtain rfl : other = key := Option.some.inj (hcCreated.symm.trans hcreated)
    rw [← of_decide_eq_true hcKey, of_decide_eq_true hstoredKey] at hmem
    exact mem_filterMap.mpr ⟨row, hmem, hrowSettled⟩

theorem OpenInv.not_settled {opening} {v : ArmView} {st' : Q1ArmState}
    (inv : OpenInv hash k opening v st) {key : String} (h : st.settle key = .ok st')
    (next : st'.val.sequence = st.val.sequence + 1) : key ∉ v.cash.filterMap settledId := by
  rcases Q1ArmState.settle_eq_ok h with rfl | ⟨r, hr, hid, -⟩
  · omega
  · have howes : (key, r.val.amountUsd) ∈ owedOf v.cash := by
      rw [inv.owed, ← hid]
      exact mem_map_of_mem hr
    simpa using (mem_filter.mp howes).2

theorem settle_armId {st' : Q1ArmState} {key : String} (h : st.settle key = .ok st') :
    st'.val.armId = st.val.armId := by
  rcases Q1ArmState.settle_eq_ok h with rfl | ⟨r, -, -, hstate⟩
  · rfl
  · rw [hstate]

variable {args : SettleArmArgs}

theorem settleOne_settles (collisionFree : hash.NoCollision) (inv : StoreInv hash s)
    {current : Q1ArmState} {event acc'} (hk : args.ctx.arm args.armId = k)
    (hlatest : (s.view k).latest = some current) (hdue : DueOf hash args (s.view k).cash event)
    (h : settleOne hash args (s, current) event = .ok acc') :
    StoreInv hash acc'.1 ∧ (∃ sale key, Settled hash k args.ctx.now event sale key current acc'.2
        (s.view k) (acc'.1.view k)) ∧
      (∀ other, other ≠ k → acc'.1.view other = s.view other) ∧ acc'.1.fills = s.fills ∧
      acc'.1.orders = s.orders := by
  obtain ⟨key, sale, hsale, hcreated, heq⟩ := hdue
  obtain ⟨hsaleStored, hsaleKey⟩ := mem_filter.mp hsale
  obtain ⟨opening, st, hopen⟩ := (inv.views k).resolve_left fun hempty => by
    rw [hempty] at hsale
    cases hsale
  obtain rfl : st = current := Option.some.inj (hopen.latest.symm.trans hlatest)
  have hsettles : settledId event = some key :=
    settledId_eq_some.mpr ⟨by rw [heq]; rfl, by rw [heq]; rfl⟩
  have hsaleArm : sale.val.armId = args.armId :=
    congrArg ArmKey.armId ((of_decide_eq_true hsaleKey).trans hk.symm)
  have hkey : event.val.key = k := by
    rw [← hk, CashSettlementEventFields.key, heq, EntryContext.arm, ← hsaleArm]
    rfl
  have hnow : max args.ctx.now args.openAt = args.ctx.now := by
    have hchecks := event.checks.2
    rw [heq] at hchecks
    exact le_antisymm hchecks (le_max_left _ _)
  obtain ⟨hsettledType, hreceivable⟩ := settledId_eq_some.mp hsettles
  simp only [settleOne, hreceivable, ok_iff] at h
  obtain ⟨cashEvents, hcash, next, hnext, snapshots, hsnapshots, rfl⟩ := h
  have hnextArm : next.val.armId = args.armId :=
    (settle_armId hnext).trans (hopen.arm.trans (congrArg ArmKey.armId hk).symm)
  have hview : (s.view ⟨args.ctx.provenance.val.runId, next.val.armId⟩).latest = some st := by
    rw [hnextArm]
    show (s.view (args.ctx.arm args.armId)).latest = some st
    rw [hk]
    exact hlatest
  obtain ⟨-, hsequence, hrows⟩ := inv.appendArmState_eq collisionFree hsnapshots
  rw [hview, Option.elim_some] at hsequence
  have hunsettled := hopen.not_settled hnext hsequence
  obtain ⟨rfl, hfresh⟩ :=
    (inv.appendCashEvent_eq collisionFree ⟨_, _, heq⟩ hcash).resolve_right <| by
    rintro ⟨-, row, hrow, htype, hsame⟩
    exact hunsettled (inv.settled_of_repeat collisionFree hsale hcreated hsettles (by rw [heq]; rfl)
      hkey hrow htype hsame)
  have hrowKey : (snapshotRow hash args.ctx.provenance.val.runId next
      args.ctx.provenance.val.sourceCycleId args.ctx.now).key = k := by
    rw [← hk, EntryContext.arm, ← hnextArm]
    rfl
  have hmoves : CashMoves event.val := by
    have hsaleMoves := hopen.book.moves sale hsale
    rw [CashMoves, (createdId_eq_some.mp hcreated).1] at hsaleMoves
    rw [heq]
    exact ⟨(neg_neg _).symm, neg_neg_of_pos hsaleMoves.2.2⟩
  have hsettled : Settled hash k args.ctx.now event sale key st next (s.view k)
      (ArmStore.view { s with snapshots := snapshots, cashEvents := s.cashEvents ++ [event] } k) := by
    rw [hrows, view_concat hrowKey hkey, if_pos rfl]
    refine ⟨hlatest, ⟨_, ?_, rfl⟩, ⟨hkey, ⟨_, _, heq⟩, hmoves, ?_, ?_⟩, hsettles, ⟨hsale, hcreated⟩,
      ?_, ?_, ?_, hunsettled, hnext, hsequence⟩
    · rw [← hk, EntryContext.arm, ← hnextArm]
      exact snapshotOf_row
    · rw [heq]
      exact hnow
    · rw [heq]
      rfl
    · rw [heq]
      exact (neg_neg _).symm
    · rw [heq]
      rfl
    · rw [heq]
      rfl
  have hothers : ∀ other, other ≠ k →
      ArmStore.view { s with snapshots := snapshots, cashEvents := s.cashEvents ++ [event] } other =
        s.view other := by
    intro other hne
    rw [hrows, view_concat hrowKey hkey, if_neg hne]
  refine ⟨⟨fun other => ?_, inv.unique_concat hfresh, ?_, inv.orderMade, inv.filled⟩,
    ⟨sale, key, hsettled⟩, hothers, rfl, rfl⟩
  · by_cases hsame : other = k
    · rw [hsame]
      exact .inr ⟨opening, next, hopen.settle hsettled⟩
    · rw [hothers other hsame]
      exact inv.views other
  · rw [hrows]
    exact forall_mem_append.mpr ⟨inv.named, by simpa using snapshotNamed_row⟩

def SettledMove (hash : Hashing) (k : ArmKey) (t : Instant) (v v' : ArmView) : Prop :=
  ∃ event sale key st st', Settled hash k t event sale key st st' v v'

theorem DueOf.mono {cash cash' event} (h : DueOf hash args cash event) (sub : cash ⊆ cash') :
    DueOf hash args cash' event := by
  obtain ⟨key, sale, hsale, hrest⟩ := h
  exact ⟨key, sale, sub hsale, hrest⟩

theorem dueOf_of_mem {due}
    (h : settleDueReceivables hash (args.events s) ⟨args.sessionDate,
      max args.ctx.now args.openAt, args.ctx, args.calendar⟩ = .ok due)
    {event} (he : event ∈ due) :
    DueOf hash args (s.view (args.ctx.arm args.armId)).cash event := by
  obtain ⟨entry, hentry, heq⟩ := exists_entry_of_mem_due h he
  obtain ⟨hmem, hcreated, -⟩ := mem_dueEntries hentry
  obtain ⟨hstored, hkey⟩ := mem_filter.mp ((mem_sortedBy _).mp hmem)
  have hkey' := (of_decide_eq_true hkey).1
  exact ⟨entry.1, entry.2, mem_filter.mpr ⟨hstored, by simpa using hkey'⟩, hcreated, heq⟩

theorem settleArm_settles (collisionFree : hash.NoCollision) (inv : StoreInv hash s)
    (hk : args.ctx.arm args.armId = k) (h : settleArm hash s args = .ok s') :
    StoreInv hash s' ∧
      Relation.ReflTransGen (SettledMove hash k args.ctx.now) (s.view k) (s'.view k) ∧
      (∀ other, other ≠ k → s'.view other = s.view other) ∧ s'.fills = s.fills ∧
      s'.orders = s.orders := by
  unfold settleArm at h
  split at h
  · cases h
    exact ⟨inv, .refl, fun _ _ => rfl, rfl, rfl⟩
  · rename_i state hstate
    rw [inv.latestArmState_eq, hk] at hstate
    simp only [ok_iff] at h
    obtain ⟨due, hdue, ⟨s₁, current⟩, hfold, rfl⟩ := h
    have hall : ∀ e ∈ due, DueOf hash args (s.view k).cash e := fun e he =>
      hk ▸ dueOf_of_mem hdue he
    have hloop := foldlM_induction hfold (fun pre acc =>
      (∀ e ∈ pre, DueOf hash args (s.view k).cash e) →
        StoreInv hash acc.1 ∧ (acc.1.view k).latest = some acc.2 ∧
        (s.view k).cash ⊆ (acc.1.view k).cash ∧
        Relation.ReflTransGen (SettledMove hash k args.ctx.now) (s.view k) (acc.1.view k) ∧
        (∀ other, other ≠ k → acc.1.view other = s.view other) ∧ acc.1.fills = s.fills ∧
        acc.1.orders = s.orders)
      (fun _ => ⟨inv, hstate, fun _ he => he, .refl, fun _ _ => rfl, rfl, rfl⟩) ?_ hall
    · exact ⟨hloop.1, hloop.2.2.2⟩
    rintro pre event ⟨s₁, current⟩ acc' hacc hstep hdues
    obtain ⟨inv₁, hlatest, hsub, hmoves, hothers, hfills, horders⟩ :=
      hacc fun e he => hdues e (mem_append_left _ he)
    have hdueEvent := (hdues event (by simp)).mono hsub
    obtain ⟨inv', ⟨sale, key, hsettled⟩, hothers', hfills', horders'⟩ :=
      settleOne_settles collisionFree inv₁ hk hlatest hdueEvent hstep
    obtain ⟨row, hrow, hafter⟩ := hsettled.after
    refine ⟨inv', ?_, ?_, hmoves.tail ⟨event, sale, key, current, acc'.2, hsettled⟩,
      fun other hne => (hothers' other hne).trans (hothers other hne), hfills'.trans hfills,
      horders'.trans horders⟩
    · rw [hafter]
      exact latest_concat hrow
    · rw [hafter]
      exact fun e he => mem_append_left _ (hsub he)

theorem requireArmState_eq_ok {key : ArmKey} :
    requireArmState s key = .ok st ↔ latestArmState s.snapshots key = some st := by
  unfold requireArmState
  split <;> simp_all

theorem settlementEvent_eq_ok {args : FillArgs} (h : args.settlementEvent hash = .ok e) :
    EventOf hash (args.ctx.arm args.armId) args.ctx.now e ∧
      CashEventOf hash (args.ctx.arm args.armId) (args.q1Fill hash) e ∧
      (args.order.side = .buy → e.val.receivableId = none) := by
  unfold FillArgs.settlementEvent at h
  cases hside : args.order.side with
  | buy =>
    rw [hside] at h
    obtain ⟨made, moves, htype, hcost, hat, hfill⟩ := recordBuyCashDebit_eq_ok h
    simp only [recordBuyCashDebit, bind_eq_ok] at h
    obtain ⟨-, -, h⟩ := h
    obtain ⟨hrun, harm, hcreated, hreceivable, -⟩ := EventDraft.event_fields h
    refine ⟨⟨?_, made, moves, hat, hcreated⟩, ⟨hfill, .inl ⟨hside, htype, hcost⟩⟩, fun _ =>
      hreceivable⟩
    rw [CashSettlementEventFields.key, hrun, harm]
    rfl
  | sell =>
    rw [hside] at h
    obtain ⟨made, moves, hcreatedId, hamount, hat⟩ := recordSellReceivable_eq_ok h
    simp only [recordSellReceivable, bind_eq_ok] at h
    obtain ⟨-, -, -, -, -, -, -, -, date, -, h⟩ := h
    obtain ⟨hrun, harm, hcreated, -, hfill⟩ := EventDraft.event_fields h
    refine ⟨⟨?_, made, moves, hat, hcreated⟩, ⟨hfill, .inr ⟨hside, hamount, ?_⟩⟩, by simp⟩
    · rw [CashSettlementEventFields.key, hrun, harm]
      rfl
    · exact ⟨_, hcreatedId⟩

theorem receivable_eq_ok {args : FillArgs} {receivable} (hevent : args.settlementEvent hash = .ok e)
    (h : args.receivable hash e = .ok receivable) :
    ∀ r, receivable = some r → createdId e = some r.val.receivableId ∧
      e.val.unsettledReceivableDeltaUsd = r.val.amountUsd := by
  rintro r rfl
  unfold FillArgs.receivable at h
  unfold FillArgs.settlementEvent at hevent
  cases hside : args.order.side with
  | buy =>
    rw [hside] at h
    cases h
  | sell =>
    rw [hside] at h hevent
    obtain ⟨-, -, hcreated, -⟩ := recordSellReceivable_eq_ok hevent
    obtain ⟨htype, hid⟩ := createdId_eq_some.mp hcreated
    rw [hid] at h
    cases hdate : e.val.settlementDate with
    | none =>
      rw [hdate] at h
      cases h
    | some date =>
      rw [hdate] at h
      simp only [map_eq_ok, Option.some.injEq] at h
      obtain ⟨r', hr', rfl⟩ := h
      rw [validate_eq_ok] at hr'
      rw [hcreated, hr']
      exact ⟨rfl, rfl⟩

theorem orderEvent_eq_ok {args : FillArgs} {book} {e : OrderEvent}
    (h : args.orderEvent hash book = .ok e) :
    OrderEventOf args.ctx.now (args.q1Fill hash) e ∧ OrderMade hash e ∧ e.eventType.isFill ∧
      e.orderIntentId = args.order.orderIntentId := by
  simp only [FillArgs.orderEvent, appendOrderEvent, ok_iff] at h
  obtain ⟨aggregate, -, -, next, -, built, hbuilt, -, -, rfl⟩ := h
  rw [OrderEvent.construct_eq_ok] at hbuilt
  refine ⟨⟨by rw [hbuilt]; rfl, by rw [hbuilt]; rfl, by rw [hbuilt]; rfl, by rw [hbuilt]; rfl,
    by rw [hbuilt]; rfl⟩, ⟨_, _, _, hbuilt⟩, ?_, by rw [hbuilt]; rfl⟩
  rw [hbuilt]
  show OrderEventType.isFill (if _ then _ else _) = true
  split <;> rfl

theorem orderEventType_value_injective {a b : OrderEventType} (h : a.value = b.value) : a = b := by
  revert h
  cases a <;> cases b <;> decide

theorem OrderMade.of_key_eq (collisionFree : hash.NoCollision) {a b : OrderEvent}
    (made : OrderMade hash a) (made' : OrderMade hash b) (h : a.idempotencyKey = b.idempotencyKey) :
    a.eventType = b.eventType ∧ a.sourceId = b.sourceId := by
  obtain ⟨order, request, next, ha⟩ := made
  obtain ⟨order', request', next', hb⟩ := made'
  rw [ha, hb] at h ⊢
  have hid := collisionFree _ _ _ h
  simp only [List.cons.injEq, Canonical.str.injEq, and_true] at hid
  have hidentity := collisionFree _ _ _ hid
  simp only [orderEventIdentity, Canonical.dict, List.cons.injEq, and_true, Canonical.entry.injEq,
    Canonical.str.injEq, true_and] at hidentity
  obtain ⟨-, htype, -, -, -, -, -, hsource, -⟩ := hidentity
  exact ⟨orderEventType_value_injective htype, Canonical.optStr_injective hsource⟩

theorem StoreInv.not_repeat (collisionFree : hash.NoCollision) (inv : StoreInv hash s)
    {fill : Q1Fill} {event row : CashSettlementEvent}
    (fresh : ∀ f ∈ s.fills, f.fillId ≠ fill.fillId)
    (hcash : CashEventOf hash k fill event)
    (hbuy : fill.side = .buy → event.val.receivableId = none) (hrow : row ∈ s.cashEvents)
    (htype : row.val.eventType = event.val.eventType)
    (hsame : (row.val.key = event.val.key ∧ row.val.receivableId = event.val.receivableId ∧
      row.val.sourceFillId = event.val.sourceFillId) ∨ SameIdentity row event) : False := by
  obtain ⟨hsource, hkind⟩ := hcash
  obtain ⟨hmem, opening, st, hopen⟩ := inv.of_mem_cash hrow
  have hnew : row.val.sourceFillId ≠ some fill.fillId := by
    intro heq
    obtain ⟨f, hf, hid⟩ := mem_map.mp (hopen.sources row hmem _ heq)
    exact fresh f (mem_filter.mp hf).1 hid
  rcases hsame with ⟨-, -, hrowSource⟩ | ⟨-, ⟨key, hkey, hrowKey⟩ | ⟨id, hid, hrowId⟩⟩
  · exact hnew (hrowSource.trans hsource)
  · rcases hkind with ⟨hside, -⟩ | ⟨-, -, policy, hcreated⟩
    · rw [hbuy hside] at hkey
      cases hkey
    · obtain ⟨hcreatedType, hname⟩ := createdId_eq_some.mp hcreated
      obtain rfl := Option.some.inj (hname.symm.trans hkey)
      obtain ⟨id, policy', hrowSource, hname'⟩ := hopen.named row hmem _
        (createdId_eq_some.mpr ⟨htype.trans hcreatedType, hrowKey⟩)
      have hparts := collisionFree _ _ _ hname'
      simp only [List.cons.injEq, Canonical.str.injEq] at hparts
      exact hnew (hparts.2.2.1 ▸ hrowSource)
  · exact hnew (hrowId.trans (hid.symm.trans hsource))

theorem isRowOf_iff {row} (hrun : row.runId = k.runId) (harm : row.armId = k.armId.value)
    (other : ArmKey) :
    isRowOf other row = decide (k = other) := by
  cases k
  cases other
  simp only [isRowOf, hrun, harm, ArmKey.mk.injEq, decide_eq_decide]
  exact and_congr_right fun _ => ⟨fun h => Q1ArmId.value_injective h, fun h => h ▸ rfl⟩

theorem view_fill {row} {fill : Q1Fill} {event orderRow} {other : ArmKey} (hrow : row.key = k)
    (hfill : fill.key = k) (hevent : event.val.key = k)
    (horder : ∀ other, isRowOf other orderRow = decide (k = other))
    (isFill : orderRow.event.eventType.isFill = true) :
    ArmStore.view ⟨s.snapshots ++ [row], s.fills ++ [fill], s.cashEvents ++ [event],
        { s.orders with orderEvents := s.orders.orderEvents ++ [orderRow] }⟩ other =
      if other = k then ⟨(s.view k).snapshots ++ [row], (s.view k).fills ++ [fill],
        (s.view k).cash ++ [event], (s.view k).fillEvents ++ [orderRow.event]⟩
      else s.view other := by
  by_cases hsame : other = k
  · subst hsame
    rw [if_pos rfl]
    simp [ArmStore.view, fillEventRows, hrow, hevent, hfill, horder, isFill]
  · have hne : k ≠ other := fun h => hsame h.symm
    rw [if_neg hsame]
    simp [ArmStore.view, fillEventRows, hrow, hevent, hfill, horder, isFill, hne]

theorem commitFill_fills (collisionFree : hash.NoCollision) (inv : StoreInv hash s)
    {args : FillArgs} (hk : args.ctx.arm args.armId = k)
    (fresh : args.fillHash ∉ s.fills.map (·.fillHash)) (h : commitFill hash s args = .ok s') :
    StoreInv hash s' ∧ (∃ event orderEvent st st', Filled hash k args.ctx.now (args.q1Fill hash)
        event orderEvent st st' (s.view k) (s'.view k)) ∧
      (∀ other, other ≠ k → s'.view other = s.view other) := by
  subst hk
  simp only [commitFill, ok_iff, not_not] at h
  obtain ⟨hbook, st, hst, -, event, hevent, receivable, hreceivable, st', happlied, orderEvent,
    horder, fills, hfills, cashEvents, hcash, snapshots, hsnapshots, ⟨orders, orderRow⟩, horders,
    rfl⟩ := h
  rw [requireArmState_eq_ok, inv.latestArmState_eq] at hst
  obtain ⟨opening, before, hopen⟩ :=
    (inv.views (args.ctx.arm args.armId)).resolve_left fun hempty => by
    rw [hempty] at hst
    cases hst
  obtain rfl : before = st := Option.some.inj (hopen.latest.symm.trans hst)
  obtain ⟨heventOf, hcashOf, hbuy⟩ := settlementEvent_eq_ok hevent
  obtain ⟨horderOf, hmade, hisFill, hintentId⟩ := orderEvent_eq_ok horder
  -- The fill is new, and so are its events.
  obtain ⟨rfl, hnewFill⟩ := (appendFill_eq_ok hfills).resolve_right <| by
    rintro ⟨row, hrow, hhash⟩
    exact fresh (mem_map.mpr ⟨row, hrow, hhash⟩)
  obtain ⟨rfl, hfresh⟩ :=
    (inv.appendCashEvent_eq collisionFree heventOf.made hcash).resolve_right <| by
      rintro ⟨_, row, hrow, htype, hsame⟩
      exact inv.not_repeat collisionFree hnewFill hcashOf hbuy hrow htype hsame
  obtain ⟨intent, hintent, rfl, -, -, -, rfl⟩ :=
    (OrderEventRepository.append_cases horders).resolve_left <| by
      rintro ⟨-, hrow, hkey⟩
      obtain ⟨htype, hsource⟩ := (inv.orderMade orderRow hrow).of_key_eq collisionFree hmade hkey
      obtain ⟨f, hf, hid⟩ := inv.filled orderRow (mem_filter.mpr ⟨hrow, htype ▸ hisFill⟩)
      rw [hsource, horderOf.sourceId, Option.some.injEq] at hid
      exact hnewFill f hf hid.symm
  rw [hintentId] at hintent
  rw [FillArgs.inBook, hintent, Option.any_some, decide_eq_true_eq] at hbook
  have harm : st'.val.armId = args.armId :=
    (Q1ArmState.applyFill_eq_ok happlied).1.trans hopen.arm
  obtain ⟨-, -, hrows⟩ := inv.appendArmState_eq collisionFree hsnapshots
  have hrowKey : (snapshotRow hash (args.q1Fill hash).runId st'
      args.ctx.provenance.val.sourceCycleId args.ctx.now).key = args.ctx.arm args.armId := by
    rw [EntryContext.arm, ← harm]
    rfl
  rw [hrows]
  generalize hadded : ArmStore.mk _ _ _ _ = added
  have hview : ∀ other, added.view other = if other = args.ctx.arm args.armId then
      ⟨(s.view (args.ctx.arm args.armId)).snapshots ++ [_],
        (s.view (args.ctx.arm args.armId)).fills ++ [args.q1Fill hash],
        (s.view (args.ctx.arm args.armId)).cash ++ [event],
        (s.view (args.ctx.arm args.armId)).fillEvents ++ [orderEvent]⟩ else s.view other :=
    fun other => hadded ▸ view_fill hrowKey rfl heventOf.key (isRowOf_iff hbook.1 hbook.2) hisFill
  have hfilled : Filled hash (args.ctx.arm args.armId) args.ctx.now (args.q1Fill hash) event
      orderEvent before st' (s.view (args.ctx.arm args.armId))
      (added.view (args.ctx.arm args.armId)) := by
    rw [hview, if_pos rfl]
    refine ⟨hst, ⟨_, ?_, rfl⟩, heventOf, hcashOf, horderOf, ?_, ⟨rfl, rfl, rfl⟩, receivable,
      happlied, receivable_eq_ok hevent hreceivable⟩
    · rw [EntryContext.arm, ← harm]
      exact snapshotOf_row
    · intro hmem
      obtain ⟨f, hf, hid⟩ := mem_map.mp hmem
      exact hnewFill f (mem_filter.mp hf).1 hid
  have hothers : ∀ other, other ≠ args.ctx.arm args.armId → added.view other = s.view other :=
    fun other hne => by rw [hview, if_neg hne]
  have hviews : ∀ other, added.view other = .empty ∨
      ∃ opening st, OpenInv hash other opening (added.view other) st := by
    intro other
    by_cases hsame : other = args.ctx.arm args.armId
    · rw [hsame]
      exact .inr ⟨opening, st', hopen.fill collisionFree hfilled⟩
    · rw [hothers other hsame]
      exact inv.views other
  refine ⟨?_, ⟨event, orderEvent, before, st', hfilled⟩, hothers⟩
  subst hadded
  refine ⟨hviews, inv.unique_concat hfresh, ?_, ?_, fun row hrow => ?_⟩
  · exact forall_mem_append.mpr ⟨inv.named, by simpa using snapshotNamed_row⟩
  · exact forall_mem_append.mpr ⟨inv.orderMade, by simpa using hmade⟩
  · rw [fillEventRows, filter_append] at hrow
    rcases mem_append.mp hrow with hrow | hrow
    · obtain ⟨f, hf, hid⟩ := inv.filled row hrow
      exact ⟨f, mem_append_left _ hf, hid⟩
    · obtain rfl := mem_singleton.mp (mem_filter.mp hrow).1
      exact ⟨_, by simp, horderOf.sourceId⟩

def NewFill (s : ArmStore) : ArmCall → Prop
  | .fill args => args.fillHash ∉ s.fills.map (·.fillHash)
  | _ => True

def CallMoves (hash : Hashing) (k : ArmKey) : ArmCall → ArmView → ArmView → Prop
  | .openArm args, v, v' => args.ctx.arm args.armId = k ∧
      ∃ st event, Opened hash k args.ctx.now st event v v'
  | .fill args, v, v' => args.ctx.arm args.armId = k ∧ ∃ event orderEvent st st',
      Filled hash k args.ctx.now (args.q1Fill hash) event orderEvent st st' v v'
  | .settle args, v, v' => args.ctx.arm args.armId = k ∧
      Relation.ReflTransGen (SettledMove hash k args.ctx.now) v v'
  | _, _, _ => False

theorem orderEvent_keeps (inv : StoreInv hash s) {order request}
    (h : armStep hash s (.orderEvent order request databaseClock) = .ok s') :
    StoreInv hash s' ∧ ∀ k, s'.view k = s.view k := by
  simp only [armStep, ok_iff] at h
  obtain ⟨hnotFill, event, hevent, ⟨orders, row⟩, horders, rfl⟩ := h
  simp only [appendOrderEvent, ok_iff] at hevent
  obtain ⟨-, next, -, built, hbuilt, -, -, rfl⟩ := hevent
  rw [OrderEvent.construct_eq_ok] at hbuilt
  rcases OrderEventRepository.append_cases horders with ⟨rfl, -⟩ | ⟨intent, -, rfl, -, -, -, rfl⟩
  · exact ⟨inv, fun _ => rfl⟩
  have hrows : fillEventRows { s.orders with
      orderEvents := s.orders.orderEvents ++ [⟨intent.runId, intent.armId, built⟩] } =
      fillEventRows s.orders := by
    have hnone : built.eventType.isFill = false := by
      rw [hbuilt]
      exact Bool.eq_false_of_not_eq_true hnotFill
    simp [fillEventRows, hnone]
  have hviews : ∀ k, ArmStore.view { s with orders := { s.orders with
      orderEvents := s.orders.orderEvents ++ [⟨intent.runId, intent.armId, built⟩] } } k =
      s.view k := by
    intro k
    rw [ArmStore.view, hrows]
    rfl
  refine ⟨⟨fun k => hviews k ▸ inv.views k, inv.unique, inv.named, ?_, ?_⟩, hviews⟩
  · exact forall_mem_append.mpr ⟨inv.orderMade, by simpa using ⟨_, _, _, hbuilt⟩⟩
  · rw [hrows]
    exact inv.filled

theorem armStep_moves (collisionFree : hash.NoCollision) (inv : StoreInv hash s) {call : ArmCall}
    (fresh : NewFill s call) (h : armStep hash s call = .ok s') :
    StoreInv hash s' ∧
      ∀ k, s'.view k = s.view k ∨ CallMoves hash k call (s.view k) (s'.view k) := by
  cases call with
  | openArm args =>
    obtain ⟨inv', ⟨st, event, hopened⟩, hothers, -⟩ := openArm_opens collisionFree inv h
    refine ⟨inv', fun k => ?_⟩
    by_cases hk : k = args.ctx.arm args.armId
    · exact .inr (hk ▸ ⟨rfl, st, event, hopened⟩)
    · exact .inl (hothers k hk)
  | fill args =>
    obtain ⟨inv', hfilled, hothers⟩ := commitFill_fills collisionFree inv rfl fresh h
    refine ⟨inv', fun k => ?_⟩
    by_cases hk : k = args.ctx.arm args.armId
    · exact .inr (hk ▸ ⟨rfl, hfilled⟩)
    · exact .inl (hothers k hk)
  | settle args =>
    obtain ⟨inv', hsettled, hothers, -⟩ := settleArm_settles collisionFree inv rfl h
    refine ⟨inv', fun k => ?_⟩
    by_cases hk : k = args.ctx.arm args.armId
    · exact .inr (hk ▸ ⟨rfl, hsettled⟩)
    · exact .inl (hothers k hk)
  | orderEvent order request databaseClock =>
    obtain ⟨inv', hviews⟩ := orderEvent_keeps inv h
    exact ⟨inv', fun k => .inl (hviews k)⟩
  | others cycles intents =>
    cases h
    exact ⟨⟨inv.views, inv.unique, inv.named, inv.orderMade, inv.filled⟩, fun _ => .inl rfl⟩

/-- The runs of the writes, from empty tables, where every fill is new. -/
def ArmRun (hash : Hashing) (taken : List (ArmStore × ArmCall)) (s : ArmStore) : Prop :=
  Run (armStep hash) ⟨[], [], [], ⟨[], [], []⟩⟩ taken s ∧ ∀ x ∈ taken, NewFill x.1 x.2

theorem ArmRun.inv (collisionFree : hash.NoCollision) {taken} (run : ArmRun hash taken s) :
    StoreInv hash s :=
  run.1.inv_when .start
    (fun _ _ _ inv fresh ok => (armStep_moves collisionFree inv fresh ok).1) run.2

end AdaptiveQuant.Settlement
