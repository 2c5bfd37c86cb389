import AdaptiveQuant.Risk.ReconciliationCheck
import AdaptiveQuant.Runtime.ArmAgreement
import Mathlib.Tactic.MkIffOfInductiveProp

/-! The reconciliation of a recorded arm raises no alarm. -/

namespace AdaptiveQuant.Settlement

open Guard Sequence List
open Q1Cycle (ReconciliationCondition)

variable {hash : Hashing} {k : ArmKey} {t : Instant}

def CashOf (fill : Q1Fill) (events : List CashSettlementEvent) : Prop :=
  (fill.side = .buy ∧ ∃ e, events = [e] ∧ e.val.eventType = .buySettledCashDebit) ∨
    fill.side = .sell ∧ ∃ c key, createdId c = some key ∧
      (events = [c] ∨ ∃ d, events = [c, d] ∧ settledId d = some key ∧
        c.val.effectiveAt < d.val.effectiveAt)

variable (cash : List CashSettlementEvent)

def eventsOf (fillId : String) : List CashSettlementEvent :=
  cash.filter fun e => e.val.sourceFillId = some fillId

/-- The records of an arm agree with its state. -/
structure LedgerInv (v : ArmView) (st : Q1ArmState) : Prop where
  opening : ∃ row, v.snapshots.head? = some row ∧ ∀ symbol, st.val.positions.getD symbol 0 =
    row.state.val.positions.getD symbol 0 + filledQuantity v.fills symbol
  sequence : st.val.sequence = v.fills.length + settlementCount v.cash
  owed : ∀ key, st.owedFor key = receivableSum v.cash key
  reported : List.Forall₂ (fun fill event => reportsFill fill event = true) v.fills v.fillEvents
  fillIds : (v.fills.map (·.fillId)).Nodup
  cashOf : ∀ fill ∈ v.fills, CashOf fill (eventsOf v.cash fill.fillId)

theorem receivableSum_concat (e : CashSettlementEvent) (key : String) :
    receivableSum (cash ++ [e]) key = receivableSum cash key +
      if e.val.receivableId = some key then e.val.unsettledReceivableDeltaUsd else 0 := by
  simp [receivableSum]

theorem filledQuantity_concat (fills : List Q1Fill) (fill : Q1Fill) (symbol : String) :
    filledQuantity (fills ++ [fill]) symbol = filledQuantity fills symbol +
      if fill.symbol = symbol then Q1ArmState.signedQuantity fill.toFill else 0 := by
  simp [filledQuantity]

theorem settlementCount_concat (e : CashSettlementEvent) :
    settlementCount (cash ++ [e]) = settlementCount cash +
      if e.val.eventType = .receivableSettled then 1 else 0 := by
  rw [settlementCount, settlementCount, countP_append, countP_singleton]
  simp

theorem Q1ArmState.owedFor_eq_sum (st : Q1ArmState) (key : String) :
    st.owedFor key = (st.owed.map fun r => if r.1 = key then r.2 else 0).sum := by
  unfold owedFor actualReceivables
  generalize hnodup : st.owed_nodup = nodup
  clear hnodup
  generalize st.owed = owed at nodup
  induction owed with
  | nil => rfl
  | cons r rest ih =>
    rw [map_cons, nodup_cons] at nodup
    rw [map_cons, sum_cons, ← ih nodup.2]
    by_cases hsame : r.1 = key
    · subst hsame
      have hnone : (⟨rest, nodup.2⟩ : Dict String Decimal).get? r.1 = none :=
        Dict.get?_eq_none.mpr nodup.1
      rw [if_pos rfl, Dict.getD, Dict.getD, hnone]
      simp [Dict.get?]
    · rw [if_neg hsame, zero_add]
      simp [Dict.getD, Dict.get?, hsame]

theorem eventsOf_concat (e : CashSettlementEvent) (fillId : String) :
    eventsOf (cash ++ [e]) fillId = eventsOf cash fillId ++
      if e.val.sourceFillId = some fillId then [e] else [] := by
  rw [eventsOf, filter_append, eventsOf]
  by_cases hsame : e.val.sourceFillId = some fillId
  · simp [hsame]
  · simp [hsame]

section

variable {opening event : CashSettlementEvent} {st st' : Q1ArmState} {v v' : ArmView}

theorem Opened.ledger (h : Opened hash k t st event v v') : LedgerInv v' st := by
  obtain ⟨row, hrow, rfl⟩ := h.after
  have hmoves := h.eventOf.moves
  rw [CashMoves, h.eventType] at hmoves
  exact {
    opening := ⟨row, rfl, fun symbol => by simp [hrow.state, filledQuantity]⟩
    sequence := by simp [h.sequence, settlementCount, h.eventType]
    owed := fun key => by
      simp [Q1ArmState.owedFor_eq_sum, Q1ArmState.owed, h.receivables, receivableSum, hmoves.2.2]
    reported := .nil
    fillIds := nodup_nil
    cashOf := fun fill hfill => by cases hfill }

theorem head?_concat {rows : List ArmStateSnapshotRow} {row other : ArmStateSnapshotRow}
    (h : rows.head? = some row) : (rows ++ [other]).head? = some row := by
  rw [List.head?_append, h, Option.some_or]

theorem OpenInv.eventsOf_new (inv : OpenInv hash k opening v st) {fillId : String}
    (fresh : fillId ∉ v.fills.map (·.fillId)) : eventsOf v.cash fillId = [] := by
  refine filter_eq_nil_iff.mpr fun e he hsource => ?_
  exact fresh (inv.sources e he fillId (of_decide_eq_true hsource))

theorem LedgerInv.fill (inv : OpenInv hash k opening v st) (ledger : LedgerInv v st)
    {fill : Q1Fill} {orderEvent : OrderEvent}
    (h : Filled hash k t fill event orderEvent st st' v v') : LedgerInv v' st' := by
  obtain ⟨row, hrow, rfl⟩ := h.after
  obtain ⟨receivable, happlied, hreceivable⟩ := h.applied
  obtain ⟨-, hsequence, hpositions, hside⟩ := Q1ArmState.applyFill_eq_ok happlied
  obtain ⟨hsource, hkind⟩ := h.cashOf
  have hmoves := h.eventOf.moves
  have hnotSettled : event.val.eventType ≠ .receivableSettled := by
    rcases hkind with ⟨-, htype, -⟩ | ⟨-, -, policyVersion, hcreated⟩
    · simp [htype]
    · simp [(createdId_eq_some.mp hcreated).1]
  obtain ⟨first, hfirst, hheld⟩ := ledger.opening
  exact {
    opening := ⟨first, head?_concat hfirst, fun symbol => by
      rw [hpositions, hheld, filledQuantity_concat, add_assoc]⟩
    sequence := by
      rw [hsequence, ledger.sequence, settlementCount_concat, if_neg hnotSettled,
        length_append, length_singleton]
      omega
    owed := fun key => by
      rw [receivableSum_concat, ← ledger.owed, Q1ArmState.owedFor_eq_sum,
        Q1ArmState.owedFor_eq_sum]
      rcases hside with ⟨hbuy, -, -, -, hsame⟩ | ⟨r, hsell, hr, -, -, hadded⟩
      · rcases hkind with ⟨-, htype, -⟩ | ⟨hsell, -⟩
        · rw [CashMoves, htype] at hmoves
          simp [Q1ArmState.owed, hsame, hmoves.2]
        · rw [hbuy] at hsell
          cases hsell
      · obtain ⟨hcreated, hdelta⟩ := hreceivable r hr
        obtain ⟨-, hid⟩ := createdId_eq_some.mp hcreated
        simp [Q1ArmState.owed, hadded, hid, hdelta]
    reported := by
      refine rel_append ledger.reported (.cons ?_ .nil)
      simp [reportsFill, h.orderOf.sourceId, h.orderOf.orderIntentId, h.orderOf.quantityDelta,
        h.orderOf.commissionDelta]
    fillIds := by
      rw [map_append]
      exact nodup_snoc ledger.fillIds h.fresh
    cashOf := by
      intro other hother
      rw [eventsOf_concat, hsource]
      rcases mem_append.mp hother with hother | hother
      · have hne : fill.fillId ≠ other.fillId := fun heq =>
          h.fresh (heq ▸ mem_map_of_mem hother)
        rw [if_neg (by simpa using hne), append_nil]
        exact ledger.cashOf other hother
      · obtain rfl := mem_singleton.mp hother
        rw [inv.eventsOf_new h.fresh, if_pos rfl, nil_append]
        rcases hkind with ⟨hbuy, htype, -⟩ | ⟨hsell, -, policyVersion, hcreated⟩
        · exact .inl ⟨hbuy, event, rfl, htype⟩
        · exact .inr ⟨hsell, event, _, hcreated, .inl rfl⟩ }

theorem OpenInv.owedFor_sale (inv : OpenInv hash k opening v st) {sale} {key : String}
    (hsold : sale ∈ v.cash) (hcreated : createdId sale = some key)
    (unsettled : key ∉ v.cash.filterMap settledId) :
    st.owedFor key = sale.val.unsettledReceivableDeltaUsd := by
  have howed : (key, sale.val.unsettledReceivableDeltaUsd) ∈ st.owed := by
    rw [← inv.owed]
    refine mem_filter.mpr ⟨mem_filterMap.mpr ⟨sale, hsold, ?_⟩, by simpa using unsettled⟩
    simp [hcreated]
  exact Dict.getD_of_get? (Dict.get?_eq_some.mpr howed)

theorem Q1ArmState.owedFor_settled {key : String}
    (h : st'.val.unsettledReceivables =
      st.val.unsettledReceivables.filter fun item => item.val.receivableId ≠ key)
    (other : String) : st'.owedFor other = if other = key then 0 else st.owedFor other := by
  have hdict : actualReceivables st' =
      (actualReceivables st).filter fun other _ => other ≠ key := by
    simp only [actualReceivables, Dict.filter, Dict.mk.injEq, Q1ArmState.owed, h, filter_map]
    rfl
  rw [owedFor, hdict, Dict.getD, Dict.get?_filter, owedFor, Dict.getD]
  by_cases hsame : other = key
  · rw [if_pos hsame]
    cases (actualReceivables st).get? other <;> simp [Option.filter, hsame]
  · rw [if_neg hsame]
    cases (actualReceivables st).get? other <;> simp [Option.filter, hsame]

theorem CashOf.settle {fill : Q1Fill} {cash sale event} {key : String}
    (h : CashOf fill (eventsOf cash fill.fillId)) (hsale : sale ∈ eventsOf cash fill.fillId)
    (hcreated : createdId sale = some key) (unsettled : key ∉ cash.filterMap settledId)
    (hsettles : settledId event = some key) (later : sale.val.effectiveAt < event.val.effectiveAt) :
    CashOf fill (eventsOf cash fill.fillId ++ [event]) := by
  rcases h with ⟨-, e, hevents, htype⟩ | ⟨hsell, c, key', hc, hevents | ⟨d, hevents, hd, -⟩⟩
  · rw [hevents, mem_singleton] at hsale
    have hkind := (createdId_eq_some.mp hcreated).1
    rw [hsale, htype] at hkind
    cases hkind
  · rw [hevents, mem_singleton] at hsale
    subst hsale
    rw [hevents]
    exact .inr ⟨hsell, sale, key, hcreated, .inr ⟨event, rfl, hsettles, later⟩⟩
  · have hmem : d ∈ cash :=
      (mem_filter.mp (show d ∈ eventsOf cash fill.fillId by rw [hevents]; simp)).1
    rw [hevents, mem_cons, mem_singleton] at hsale
    rcases hsale with rfl | rfl
    · obtain rfl : key' = key := Option.some.inj (hc.symm.trans hcreated)
      exact absurd (mem_filterMap.mpr ⟨d, hmem, hd⟩) unsettled
    · rw [settledId_of_createdId hcreated] at hd
      cases hd

theorem LedgerInv.settle (inv : OpenInv hash k opening v st) (ledger : LedgerInv v st)
    {sale : CashSettlementEvent} {key : String}
    (h : Settled hash k t event sale key st st' v v') (later : sale.val.effectiveAt < t) :
    LedgerInv v' st' := by
  obtain ⟨row, hrow, rfl⟩ := h.after
  obtain ⟨hsold, hcreated⟩ := h.sold
  obtain ⟨htype, hreceivable⟩ := settledId_eq_some.mp h.settles
  rcases Q1ArmState.settle_eq_ok h.applied with rfl | ⟨r, hr, hid, hstate⟩
  · exact absurd h.sequence (by omega)
  obtain ⟨first, hfirst, hheld⟩ := ledger.opening
  obtain ⟨fillId, policyVersion, hsaleFill, -⟩ := inv.named sale hsold key hcreated
  have hamount : st.owedFor key = -event.val.unsettledReceivableDeltaUsd :=
    (inv.owedFor_sale hsold hcreated h.unsettled).trans h.amount
  have howed : ∀ other, st'.owedFor other = if other = key then 0 else st.owedFor other :=
    Q1ArmState.owedFor_settled (by rw [hstate])
  exact {
    opening := ⟨first, head?_concat hfirst, fun symbol => by rw [hstate]; exact hheld symbol⟩
    sequence := by
      rw [h.sequence, ledger.sequence, settlementCount_concat, if_pos htype, add_assoc]
    owed := fun other => by
      rw [receivableSum_concat, ← ledger.owed, hreceivable, howed]
      by_cases hsame : other = key
      · rw [if_pos hsame, if_pos (by rw [hsame]), hsame, hamount, neg_add_cancel]
      · have hne : some key ≠ some other := fun heq => hsame (Option.some.inj heq).symm
        rw [if_neg hsame, if_neg hne, add_zero]
    reported := ledger.reported
    fillIds := ledger.fillIds
    cashOf := by
      intro fill hfill
      rw [eventsOf_concat, ← h.sourceFillId, hsaleFill]
      by_cases hsame : fillId = fill.fillId
      · rw [if_pos (by rw [hsame])]
        have hmem : sale ∈ eventsOf v.cash fill.fillId :=
          mem_filter.mpr ⟨hsold, by simp [hsaleFill, hsame]⟩
        exact (ledger.cashOf fill hfill).settle hmem hcreated h.unsettled h.settles
          (h.eventOf.effectiveAt ▸ later)
      · rw [if_neg (by simpa using hsame), append_nil]
        exact ledger.cashOf fill hfill }

end

/-- The sales that are still unsettled come before the instant. -/
def SoldBefore (cash : List CashSettlementEvent) (t : Instant) : Prop :=
  ∀ e ∈ cash, ∀ key ∈ createdId e, key ∉ cash.filterMap settledId → e.val.effectiveAt < t

instance (cash : List CashSettlementEvent) (t : Instant) : Decidable (SoldBefore cash t) :=
  inferInstanceAs (Decidable (∀ e ∈ cash, _))

/-- A settlement comes at a later instant than the unsettled sales of its arm. -/
def SettlesLater (s : ArmStore) : ArmCall → Prop
  | .settle args => SoldBefore (s.view (args.ctx.arm args.armId)).cash args.ctx.now
  | _ => True

def StoreLedger (s : ArmStore) : Prop := ∀ k st, (s.view k).latest = some st →
    LedgerInv (s.view k) st

theorem LedgerInv.settleAll {opening} {v v' : ArmView} {st : Q1ArmState}
    (inv : OpenInv hash k opening v st) (ledger : LedgerInv v st) (later : SoldBefore v.cash t)
    (h : Relation.ReflTransGen (SettledMove hash k t) v v') :
    ∃ st', OpenInv hash k opening v' st' ∧ LedgerInv v' st' := by
  have hall : ∃ st', OpenInv hash k opening v' st' ∧ LedgerInv v' st' ∧ SoldBefore v'.cash t := by
    induction h with
    | refl => exact ⟨st, inv, ledger, later⟩
    | tail _ hmove ih =>
      obtain ⟨before, inv, ledger, later⟩ := ih
      obtain ⟨event, sale, key, st, st', hsettled⟩ := hmove
      obtain rfl : before = st := Option.some.inj (inv.latest.symm.trans hsettled.latest)
      obtain ⟨hsold, hcreated⟩ := hsettled.sold
      have hsale := later sale hsold key hcreated hsettled.unsettled
      refine ⟨st', inv.settle hsettled, ledger.settle inv hsettled hsale, ?_⟩
      obtain ⟨row, -, rfl⟩ := hsettled.after
      refine forall_mem_append.mpr ⟨fun e he key' hkey hleft => later e he key' hkey fun hmem =>
        hleft ?_, fun e he key' hkey => ?_⟩
      · rw [filterMap_append]
        exact mem_append_left _ hmem
      · rw [mem_singleton.mp he] at hkey
        cases (createdId_eq_some.mp hkey).1.symm.trans (settledId_eq_some.mp hsettled.settles).1
  obtain ⟨st', inv', ledger', -⟩ := hall
  exact ⟨st', inv', ledger'⟩

theorem armStep_ledger {s s' : ArmStore} {call : ArmCall} (collisionFree : hash.NoCollision)
    (inv : StoreInv hash s) (fresh : NewFill s call) (later : SettlesLater s call)
    (h : armStep hash s call = .ok s') (ledger : StoreLedger s) : StoreLedger s' := by
  intro k st hst
  rcases (armStep_moves collisionFree inv fresh h).2 k with hsame | hmoves
  · rw [hsame] at hst ⊢
    exact ledger k st hst
  have hopen : ∀ before, (s.view k).latest = some before →
      ∃ opening, OpenInv hash k opening (s.view k) before := by
    intro before hlatest
    obtain ⟨opening, other, hopen⟩ := (inv.views k).resolve_left fun hempty => by
      rw [hempty] at hlatest
      cases hlatest
    obtain rfl : other = before := Option.some.inj (hopen.latest.symm.trans hlatest)
    exact ⟨opening, hopen⟩
  cases call with
  | openArm args =>
    obtain ⟨rfl, opened, event, hopened⟩ := hmoves
    obtain rfl : opened = st := Option.some.inj (hopened.inv.latest.symm.trans hst)
    exact hopened.ledger
  | fill args =>
    obtain ⟨rfl, event, orderEvent, before, after, hfilled⟩ := hmoves
    obtain ⟨opening, hinv⟩ := hopen before hfilled.latest
    obtain rfl : after = st :=
      Option.some.inj ((hinv.fill collisionFree hfilled).latest.symm.trans hst)
    exact (ledger _ before hfilled.latest).fill hinv hfilled
  | settle args =>
    obtain ⟨rfl, hsettled⟩ := hmoves
    rcases inv.views (args.ctx.arm args.armId) with hempty | ⟨opening, before, hinv⟩
    · -- An arm that is not open has nothing to settle.
      rcases hsettled.cases_head with heq | ⟨v, ⟨event, sale, key, st, st', hmove⟩, -⟩
      · rw [← heq] at hst ⊢
        exact ledger _ st hst
      · have hlatest := hmove.latest
        rw [hempty] at hlatest
        cases hlatest
    · obtain ⟨after, hinv', hledger'⟩ :=
        (ledger _ before hinv.latest).settleAll hinv later hsettled
      obtain rfl : after = st := Option.some.inj (hinv'.latest.symm.trans hst)
      exact hledger'
  | orderEvent order request databaseClock => exact hmoves.elim
  | others cycles intents => exact hmoves.elim

theorem ArmRun.ledger {s : ArmStore} {taken : List (ArmStore × ArmCall)}
    (collisionFree : hash.NoCollision) (run : ArmRun hash taken s)
    (later : ∀ x ∈ taken, SettlesLater x.1 x.2) : StoreLedger s := by
  have hkeep : ∀ before call after, (StoreInv hash before ∧ StoreLedger before) →
      (NewFill before call ∧ SettlesLater before call) → armStep hash before call = .ok after →
      StoreInv hash after ∧ StoreLedger after :=
    fun _ _ _ h met ok => ⟨(armStep_moves collisionFree h.1 met.1 ok).1,
      armStep_ledger collisionFree h.1 met.1 met.2 ok h.2⟩
  have hstart : StoreLedger ⟨[], [], [], ⟨[], [], []⟩⟩ := fun _ _ hst => by cases hst
  exact (run.1.inv_when ⟨StoreInv.start, hstart⟩ hkeep fun x hx => ⟨run.2 x hx, later x hx⟩).2

/-- All records of the arm carry times up to the instant. -/
@[mk_iff]
structure RecordedBy (v : ArmView) (asOf : Instant) : Prop where
  snapshots : ∀ row ∈ v.snapshots, row.createdAt ≤ asOf
  fills : ∀ fill ∈ v.fills, fill.effectiveAt ≤ asOf ∧ fill.createdAt ≤ asOf
  cash : ∀ e ∈ v.cash, e.val.effectiveAt ≤ asOf ∧ e.val.createdAt ≤ asOf
  fillEvents : ∀ event ∈ v.fillEvents, event.availableAt ≤ asOf

section

variable {s : ArmStore} {asOf : Instant} {opening : CashSettlementEvent} {st : Q1ArmState}

section

variable (visible : RecordedBy (s.view k) asOf)

include visible

theorem ledgerRows_fills :
    ((s.ledgerRows k asOf).fills.filter (·.createdAt ≤ asOf)).Perm (s.view k).fills := by
  have hfills : (s.view k).fills.filter (fun fill => fill.effectiveAt ≤ asOf) = (s.view k).fills :=
    filter_eq_self.mpr fun fill hfill => by simpa using (visible.fills fill hfill).1
  have hcreated : (s.view k).fills.filter (fun fill => fill.createdAt ≤ asOf) = (s.view k).fills :=
    filter_eq_self.mpr fun fill hfill => by simpa using (visible.fills fill hfill).2
  have hperm := sortedBy_perm (fun fill : Q1Fill => toLex (fill.effectiveAt, fill.fillId))
    (s.view k).fills
  unfold ArmStore.ledgerRows
  rw [hfills]
  exact (hperm.filter _).trans (.of_eq hcreated)

theorem ledgerRows_cash :
    (s.ledgerRows k asOf).cash = sortedBy (fun e : CashSettlementEvent =>
      toLex (e.val.effectiveAt, e.val.cashSettlementEventId)) (s.view k).cash := by
  show sortedBy _ ((s.view k).cash.filter _) = _
  rw [filter_eq_self.mpr fun e he => by simpa using visible.cash e he]

theorem ledgerRows_cash_perm :
    (s.ledgerRows k asOf).cash.Perm (s.view k).cash := by
  rw [ledgerRows_cash visible]
  exact sortedBy_perm _ _

theorem ledgerRows_fillEvents :
    (s.ledgerRows k asOf).fillEvents = (s.view k).fillEvents :=
  filter_eq_self.mpr fun event hevent => by simpa using visible.fillEvents event hevent

theorem ledgerRows_opening (inv : OpenInv hash k opening (s.view k) st) :
    (s.ledgerRows k asOf).opening = (s.view k).snapshots.head? := by
  have hlt : ((s.view k).snapshots.map (·.sequence)).Pairwise (· < ·) := by
    rw [inv.numbered]
    exact pairwise_lt_range
  rw [pairwise_map] at hlt
  unfold ArmStore.ledgerRows
  rw [filter_eq_self.mpr fun row hrow => by simpa using visible.snapshots row hrow]
  exact congrArg List.head? (sortedBy_eq_self _ (hlt.imp fun h =>
    Prod.Lex.toLex_le_toLex.mpr (.inl h)))

end

theorem stateDiffers_perm {first st : Q1ArmState} {fills fills' cash cash'}
    (hfills : fills.Perm fills') (hcash : cash.Perm cash') :
    StateDiffers first st fills cash ↔ StateDiffers first st fills' cash' := by
  have hquantity : ∀ symbol, filledQuantity fills symbol = filledQuantity fills' symbol :=
    fun symbol => (hfills.map _).sum_eq
  have hreceivable : ∀ key, receivableSum cash key = receivableSum cash' key :=
    fun key => (hcash.map _).sum_eq
  have hsettled : settledSum cash = settledSum cash' := (hcash.map _).sum_eq
  have hcount : settlementCount cash = settlementCount cash' := hcash.countP_eq _
  simp only [StateDiffers, hquantity, hreceivable, hsettled, hcount, hfills.length_eq]

theorem LedgerInv.agrees {v : ArmView} (inv : OpenInv hash k opening v st) (ledger : LedgerInv v st)
    {first} (hfirst : v.snapshots.head? = some first) :
    ¬StateDiffers first.state st v.fills v.cash := by
  obtain ⟨row, hrow, hheld⟩ := ledger.opening
  obtain rfl : row = first := Option.some.inj (hrow.symm.trans hfirst)
  rintro (hsequence | ⟨symbol, hsymbol⟩ | hsettled | ⟨key, hkey⟩)
  · exact hsequence ledger.sequence
  · exact hsymbol (hheld symbol)
  · exact hsettled inv.settled.symm
  · exact hkey (ledger.owed key)

theorem owedFor_nonneg (st : Q1ArmState) (key : String) : 0 ≤ st.owedFor key := by
  rw [Q1ArmState.owedFor_eq_sum]
  refine sum_nonneg fun amount hamount => ?_
  obtain ⟨⟨id, owed⟩, hentry, rfl⟩ := mem_map.mp hamount
  obtain ⟨r, -, hr⟩ := mem_map.mp hentry
  have hchecked := r.valid
  rw [UnsettledReceivableFields.check, raiseIf_eq_ok, not_le, (Prod.mk.inj hr).2] at hchecked
  dsimp only
  split
  · exact hchecked.le
  · exact le_rfl

theorem position_nonneg (st : Q1ArmState) (symbol : String) :
    0 ≤ st.val.positions.getD symbol 0 := by
  have h := st.valid
  simp only [Q1ArmStateFields.check, ok_iff, not_exists, not_and, not_lt] at h
  rw [Dict.getD]
  cases hget : st.val.positions.get? symbol with
  | none => exact le_rfl
  | some quantity => exact h.2.1 quantity (Dict.mem_values_of_get? hget)

theorem values_nonneg {d : Dict String Decimal} {f : String → Decimal}
    (h : ∀ key, d.get? key = nonzero (f key)) (nonneg : ∀ key, 0 ≤ f key) :
    ¬∃ value ∈ d.values, value < 0 := by
  rintro ⟨value, hvalue, hneg⟩
  obtain ⟨⟨key, other⟩, hentry, rfl⟩ := mem_map.mp hvalue
  have hget := h key
  rw [Dict.get?_eq_some.mpr hentry, nonzero] at hget
  split at hget
  · cases hget
  · rw [Option.some.inj hget] at hneg
    exact absurd hneg (not_lt.mpr (nonneg key))

theorem negativeBalance_of_agrees {first : Q1ArmState} {fills : List Q1Fill}
    {cash : List CashSettlementEvent} (h : ¬StateDiffers first st fills cash) :
    negativeBalance first st fills cash = false := by
  simp only [StateDiffers, not_or, not_exists, not_not] at h
  obtain ⟨-, hpositions, hsettled, howed⟩ := h
  have hquantities := values_nonneg (get?_expectedPositions first fills)
    fun symbol => hpositions symbol ▸ position_nonneg st symbol
  have hamounts := values_nonneg (get?_expectedReceivables cash)
    fun key => howed key ▸ owedFor_nonneg st key
  have hnonneg := st.settled_nonneg
  simp only [negativeBalance, decide_eq_false_iff_not, not_or, hquantities, hamounts, ← hsettled,
    not_lt, not_false_eq_true, and_true]
  exact ⟨hnonneg, hnonneg⟩

theorem reportsFill_source {fill : Q1Fill} {event : OrderEvent}
    (h : reportsFill fill event = true) : event.sourceId = some fill.fillId := by
  rw [reportsFill, decide_eq_true_eq] at h
  exact h.1

theorem reported_once {fills events}
    (h : List.Forall₂ (fun fill event => reportsFill fill event = true) fills events)
    (nodup : (fills.map (·.fillId)).Nodup) :
    ∀ fill ∈ fills, (events.filter (reportsFill fill)).length = 1 := by
  induction h with
  | nil => simp
  | @cons first event fills events hfirst hrest ih =>
    rw [map_cons, nodup_cons] at nodup
    intro fill hfill
    rcases mem_cons.mp hfill with rfl | hfill
    · -- the later events report later fills
      have hnone : events.filter (reportsFill fill) = [] := by
        refine filter_eq_nil_iff.mpr fun other hother hreports => ?_
        obtain ⟨later, hlater, hboth⟩ := (exists_of_forall₂ hrest).2 other hother
        have hsame := (reportsFill_source hreports).symm.trans (reportsFill_source hboth)
        exact nodup.1 (Option.some.inj hsame ▸ mem_map_of_mem hlater)
      rw [filter_cons_of_pos hfirst, hnone, length_singleton]
    · have hnot : ¬reportsFill fill event = true := by
        intro hreports
        have hsame := (reportsFill_source hfirst).symm.trans (reportsFill_source hreports)
        exact nodup.1 (Option.some.inj hsame ▸ mem_map_of_mem hfill)
      rw [filter_cons_of_neg hnot]
      exact ih nodup.2 fill hfill

theorem eventsOf_sorted {fill : Q1Fill} {cash} (h : CashOf fill (eventsOf cash fill.fillId)) :
    CashOf fill (eventsOf (sortedBy (fun e : CashSettlementEvent =>
      toLex (e.val.effectiveAt, e.val.cashSettlementEventId)) cash) fill.fillId) := by
  have hperm : (eventsOf (sortedBy (fun e : CashSettlementEvent =>
      toLex (e.val.effectiveAt, e.val.cashSettlementEventId)) cash) fill.fillId).Perm
        (eventsOf cash fill.fillId) := (sortedBy_perm _ cash).filter _
  have hsorted := (sortedBy_pairwise (fun e : CashSettlementEvent =>
    toLex (e.val.effectiveAt, e.val.cashSettlementEventId)) cash).sublist
      (filter_sublist (p := fun e => decide (e.val.sourceFillId = some fill.fillId)))
  rcases h with ⟨hbuy, e, hevents, htype⟩ | ⟨hsell, c, key, hc, hevents | ⟨d, hevents, hd, hlt⟩⟩
  · rw [hevents] at hperm
    exact .inl ⟨hbuy, e, perm_singleton.mp hperm, htype⟩
  · rw [hevents] at hperm
    exact .inr ⟨hsell, c, key, hc, .inl (perm_singleton.mp hperm)⟩
  · rw [hevents] at hperm
    refine .inr ⟨hsell, c, key, hc, .inr ⟨d, ?_, hd, hlt⟩⟩
    have hpair : [c, d].Pairwise fun a b : CashSettlementEvent =>
        toLex (a.val.effectiveAt, a.val.cashSettlementEventId) ≤
          toLex (b.val.effectiveAt, b.val.cashSettlementEventId) := by
      simp [Prod.Lex.toLex_le_toLex, hlt]
    have hkeys : ([c, d].map fun e : CashSettlementEvent =>
        toLex (e.val.effectiveAt, e.val.cashSettlementEventId)).Nodup := by
      have hne : c.val.effectiveAt ≠ d.val.effectiveAt := hlt.ne
      simp [hne]
    have hboth := sortedBy_eq_of_perm _ hperm.symm hkeys
    rw [sortedBy_eq_self _ hpair] at hboth
    exact (hboth.trans (sortedBy_eq_self _ hsorted)).symm

theorem CashOf.types {fill : Q1Fill} {cash} (h : CashOf fill (eventsOf cash fill.fillId)) :
    cashTypesOf cash fill.fillId ≠ [] ∧
      validCashTypes fill.side (cashTypesOf cash fill.fillId) = true := by
  show (eventsOf cash fill.fillId).map _ ≠ [] ∧
    validCashTypes fill.side ((eventsOf cash fill.fillId).map _) = true
  rcases h with ⟨hbuy, e, hevents, htype⟩ | ⟨hsell, c, key, hc, hevents | ⟨d, hevents, hd, -⟩⟩
  · simp [hevents, hbuy, validCashTypes, htype]
  · simp [hevents, hsell, validCashTypes, (createdId_eq_some.mp hc).1]
  · simp [hevents, hsell, validCashTypes, (createdId_eq_some.mp hc).1, (settledId_eq_some.mp hd).1]

theorem unknownFill_of_ledger (visible : RecordedBy (s.view k) asOf)
    (inv : OpenInv hash k opening (s.view k) st) (ledger : LedgerInv (s.view k) st) :
    unknownFill (s.ledgerRows k asOf) asOf = false := by
  have hfills : ∀ {fill : Q1Fill},
      fill ∈ (s.ledgerRows k asOf).fills.filter (·.createdAt ≤ asOf) ↔ fill ∈ (s.view k).fills :=
    (ledgerRows_fills visible).mem_iff
  have hids : ∀ {fillId : String},
      fillId ∈ ((s.ledgerRows k asOf).fills.filter (·.createdAt ≤ asOf)).map (·.fillId) ↔
        fillId ∈ (s.view k).fills.map (·.fillId) :=
    ((ledgerRows_fills visible).map _).mem_iff
  have htypes : ∀ fill ∈ (s.view k).fills,
      cashTypesOf (s.ledgerRows k asOf).cash fill.fillId ≠ [] ∧
        validCashTypes fill.side (cashTypesOf (s.ledgerRows k asOf).cash fill.fillId) = true := by
    intro fill hfill
    rw [ledgerRows_cash visible]
    exact (eventsOf_sorted (ledger.cashOf fill hfill)).types
  rw [unknownFill, decide_eq_false_iff_not]
  rintro (⟨fill, hfill, hlate⟩ | ⟨fill, hfill, hcount⟩ | ⟨event, hevent, hunknown⟩ |
    ⟨e, he, hunknown⟩ | ⟨fill, hfill, hnone⟩ | ⟨fill, hfill, hinvalid⟩)
  · have hmem : fill ∈ (s.view k).fills :=
      (mem_filter.mp ((mem_sortedBy ..).mp hfill)).1
    exact absurd hlate (not_lt.mpr (visible.fills fill hmem).2)
  · rw [ledgerRows_fillEvents visible] at hcount
    exact hcount (reported_once ledger.reported ledger.fillIds fill (hfills.mp hfill))
  · rw [ledgerRows_fillEvents visible] at hevent
    obtain ⟨fill, hfill, hreports⟩ := (exists_of_forall₂ ledger.reported).2 event hevent
    rw [reportsFill_source hreports, Option.all_some, decide_eq_true_eq, hids] at hunknown
    exact hunknown (mem_map_of_mem hfill)
  · have hmem := (ledgerRows_cash_perm visible).mem_iff.mp he
    obtain ⟨fillId, hsource, hnot⟩ := Option.any_eq_true _ _ |>.mp hunknown
    rw [decide_eq_true_eq, hids] at hnot
    exact hnot (inv.sources e hmem fillId hsource)
  · exact (htypes fill (hfills.mp hfill)).1 hnone
  · exact hinvalid (htypes fill (hfills.mp hfill)).2

theorem ledgerUnavailable_of_ledger (visible : RecordedBy (s.view k) asOf)
    (inv : OpenInv hash k opening (s.view k) st) (ledger : LedgerInv (s.view k) st) :
    ledgerUnavailable (s.ledgerRows k asOf) st = false := by
  obtain ⟨first, hfirst, -⟩ := ledger.opening
  have hsequence : first.state.val.sequence = 0 := by
    rw [← inv.rows first (mem_of_mem_head? hfirst)]
    have hnumbered := inv.numbered
    obtain ⟨rest, hrest⟩ := List.head?_eq_some_iff.mp hfirst
    rw [hrest, map_cons, length_cons, range_succ_eq_map, List.cons.injEq] at hnumbered
    exact hnumbered.1
  have hopened : ((s.ledgerRows k asOf).cash.filter
      fun e => e.val.eventType = .openingSettledCash).length = 1 := by
    rw [((ledgerRows_cash_perm visible).filter _).length_eq, inv.book.opened,
      length_singleton]
  rw [ledgerUnavailable, decide_eq_false_iff_not, ledgerRows_opening visible inv, hfirst]
  simp [hsequence, hopened]

end

/-- The check of a recorded arm raises no alarm when sales are settled at a later instant, and any
state that is not the replayed one raises one. -/
theorem reconciliation_exact (collisionFree : hash.NoCollision) :
    (∀ taken s k st asOf, ArmRun hash taken s → (∀ x ∈ taken, SettlesLater x.1 x.2) →
      latestArmState s.snapshots k = some st → RecordedBy (s.view k) asOf →
      (reconcile s k st asOf).conditions = [.ok]) ∧
    ∀ s k state asOf,
      ReconciliationCondition.positionOrCashMismatch ∈ (reconcile s k state asOf).conditions ↔
        StateDiffers ((s.ledgerRows k asOf).opening.elim state (·.state)) state
          ((s.ledgerRows k asOf).fills.filter (·.createdAt ≤ asOf)) (s.ledgerRows k asOf).cash := by
  refine ⟨fun taken s k st asOf run later hst visible => ?_, fun s k state asOf => ?_⟩
  · have inv := run.inv collisionFree
    rw [inv.latestArmState_eq] at hst
    obtain ⟨opening, before, hopen⟩ := (inv.views k).resolve_left fun hempty => by
      rw [hempty] at hst
      cases hst
    obtain rfl : before = st := Option.some.inj (hopen.latest.symm.trans hst)
    have ledger := run.ledger collisionFree later k before hst
    obtain ⟨first, hfirst, -⟩ := ledger.opening
    have hopening := (ledgerRows_opening visible hopen).trans hfirst
    have hagrees : ¬StateDiffers ((s.ledgerRows k asOf).opening.elim before (·.state)) before
        ((s.ledgerRows k asOf).fills.filter (·.createdAt ≤ asOf)) (s.ledgerRows k asOf).cash := by
      rw [hopening, Option.elim_some,
        stateDiffers_perm (ledgerRows_fills visible) (ledgerRows_cash_perm visible)]
      exact ledger.agrees hopen hfirst
    refine reconcile_ok (ledgerUnavailable_of_ledger visible hopen ledger) ?_
      (negativeBalance_of_agrees hagrees) (unknownFill_of_ledger visible hopen ledger)
    rw [← Bool.not_eq_true, positionOrCashMismatch_iff]
    exact hagrees
  · rw [mem_reconcile_conditions, positionOrCashMismatch_iff]

instance (s : ArmStore) : ∀ call, Decidable (SettlesLater s call)
  | .settle args =>
    inferInstanceAs (Decidable (SoldBefore (s.view (args.ctx.arm args.armId)).cash args.ctx.now))
  | .openArm _ | .fill _ | .orderEvent .. | .others .. => inferInstanceAs (Decidable True)

instance (v : ArmView) (asOf : Instant) : Decidable (RecordedBy v asOf) :=
  decidable_of_iff' _ (recordedBy_iff ..)

theorem exists_of_runCalls {met : ArmStore → ArmCall → Bool} {calls : List ArmCall}
    {test : ArmStore → Q1ArmState → Bool}
    (h : ((runCalls hash met calls).toOption.any fun s =>
      (latestArmState s.snapshots sampleKey).any (test s)) = true) :
    ∃ taken s st, taken.map (·.2) = calls ∧ ArmRun hash taken s ∧ (∀ x ∈ taken, met x.1 x.2) ∧
      latestArmState s.snapshots sampleKey = some st ∧ test s st = true := by
  obtain ⟨s, hs, hstate⟩ := exists_of_any h
  obtain ⟨st, hst, htest⟩ := (Option.any_eq_true _ _).mp hstate
  obtain ⟨taken, hcalls, run, hmet⟩ := ArmRun.of_runCalls hs
  exact ⟨taken, s, st, hcalls, run, hmet, hst, htest⟩

/-- A sale that is settled one instant later. -/
theorem sample_reconciled : ∃ taken s st,
    taken.map (·.2) = openedCalls [sellOrder] 2 ++ [fillCall sellOrder 1, settleCall 2] ∧
      ArmRun Hashing.nested taken s ∧ latestArmState s.snapshots sampleKey = some st ∧
      st.val.settledCashUsd = 4 ∧ (reconcile s sampleKey st 2).conditions = [.ok] := by
  have heval : ((runCalls Hashing.nested (fun s call => SettlesLater s call)
      (openedCalls [sellOrder] 2 ++ [fillCall sellOrder 1, settleCall 2])).toOption.any fun s =>
        (latestArmState s.snapshots sampleKey).any fun st =>
          decide (st.val.settledCashUsd = 4 ∧ RecordedBy (s.view sampleKey) 2)) = true := by
    decide +kernel
  obtain ⟨taken, s, st, hcalls, run, later, hst, htest⟩ := exists_of_runCalls heval
  obtain ⟨hcash, hvisible⟩ := of_decide_eq_true htest
  exact ⟨taken, s, st, hcalls, run, hst, hcash,
    (reconciliation_exact Hashing.nested_noCollision).1 taken s sampleKey st 2 run
      (fun x hx => of_decide_eq_true (later x hx)) hst hvisible⟩

/-- A sale that is settled at its own instant: the settlement comes first by its name. -/
theorem sample_false_alarm : ∃ taken s st,
    taken.map (·.2) = openedCalls [sellOrder] 2 ++ [fillCall sellOrder 3, settleCall 3] ∧
      ArmRun Hashing.short taken s ∧ latestArmState s.snapshots sampleKey = some st ∧
      RecordedBy (s.view sampleKey) 3 ∧
      (reconcile s sampleKey st 3).conditions = [.unknownFill] := by
  have heval : ((runCalls Hashing.short (fun _ _ => true)
      (openedCalls [sellOrder] 2 ++ [fillCall sellOrder 3, settleCall 3])).toOption.any fun s =>
        (latestArmState s.snapshots sampleKey).any fun st =>
          decide (RecordedBy (s.view sampleKey) 3 ∧
            (reconcile s sampleKey st 3).conditions = [.unknownFill])) = true := by
    decide +kernel
  obtain ⟨taken, s, st, hcalls, run, -, hst, htest⟩ := exists_of_runCalls heval
  have hboth : RecordedBy (s.view sampleKey) 3 ∧
      (reconcile s sampleKey st 3).conditions = [.unknownFill] := of_decide_eq_true htest
  exact ⟨taken, s, st, hcalls, run, hst, hboth.1, hboth.2⟩

end AdaptiveQuant.Settlement
