import AdaptiveQuant.Runtime.ArmSteps
import AdaptiveQuant.Settlement.Conservation

/-! The three projections of an arm's cash. -/

namespace AdaptiveQuant.Settlement

open Guard Sequence List

variable {hash : Hashing} {s : ArmStore} {k : ArmKey} {t : Instant}

/-- Nothing that the arm has recorded comes after the write, and a buy does not happen at the
instant of a settlement. -/
def OnTime (s : ArmStore) : ArmCall → Prop
  | .fill args => ∀ e ∈ (s.view (args.ctx.arm args.armId)).cash, e.val.effectiveAt ≤ args.ctx.now ∧
      (args.order.side = .buy → e.val.eventType = .receivableSettled →
        e.val.effectiveAt ≠ args.ctx.now)
  | .settle args =>
    ∀ e ∈ (s.view (args.ctx.arm args.armId)).cash, e.val.effectiveAt ≤ args.ctx.now
  | _ => True

theorem settledSum_countsFor {cash} (moves : ∀ e ∈ cash, CashMoves e.val)
    (notAfter : ∀ e ∈ cash, e.val.effectiveAt ≤ t)
    (noSettlement : ∀ e ∈ cash, e.val.eventType = .receivableSettled → e.val.effectiveAt ≠ t) :
    settledSum (cash.filter (countsFor t)) = settledSum cash := by
  induction cash with
  | nil => rfl
  | cons e cash ih =>
    have ih := ih (fun x hx => moves x (mem_cons_of_mem e hx))
      (fun x hx => notAfter x (mem_cons_of_mem e hx))
      (fun x hx => noSettlement x (mem_cons_of_mem e hx))
    by_cases hcounts : countsFor t e = true
    · rw [filter_cons_of_pos hcounts, settledSum_cons, ih, settledSum_cons]
    · -- What does not count is a sale, which moves no settled cash.
      have hmoves := moves e mem_cons_self
      have hle := notAfter e mem_cons_self
      simp only [countsFor, decide_eq_true_eq, not_or, not_and, not_le, not_lt] at hcounts
      have hat := le_antisymm hle hcounts.1
      have horder := hcounts.2 hat
      have hsale : e.val.eventType = .sellReceivableCreated := by
        cases htype : e.val.eventType with
        | sellReceivableCreated => rfl
        | receivableSettled => exact absurd hat (noSettlement e mem_cons_self htype)
        | openingSettledCash | buySettledCashDebit =>
          rw [htype] at horder
          simp [CashSettlementEventType.order] at horder
      rw [CashMoves, hsale] at hmoves
      have hnot : ¬countsFor t e = true := by
        simp [countsFor, hat, hsale, CashSettlementEventType.order]
      rw [filter_cons_of_neg hnot, ih, settledSum_cons, hmoves.1, zero_add]

theorem Chronological.nil : Chronological [] where
  ids := by simp
  soldOnce := by simp
  settledLater := by simp
  covered := by simp

section

variable (collisionFree : hash.NoCollision)

include collisionFree

theorem OpenInv.chronological_fill
    {opening event : CashSettlementEvent} {v v' : ArmView} {st st' before : Q1ArmState}
    {fill : Q1Fill} {orderEvent : OrderEvent} (inv : OpenInv hash k opening v before)
    (h : Filled hash k t fill event orderEvent st st' v v') (chron : Chronological v.cash)
    (notAfter : ∀ e ∈ v.cash, e.val.effectiveAt ≤ t)
    (noSettlement : fill.side = .buy → ∀ e ∈ v.cash, e.val.eventType = .receivableSettled →
      e.val.effectiveAt ≠ t) : Chronological v'.cash := by
  obtain rfl : before = st := Option.some.inj (inv.latest.symm.trans h.latest)
  obtain ⟨row, -, rfl⟩ := h.after
  obtain ⟨hsource, hkind⟩ := h.cashOf
  have hat := h.eventOf.effectiveAt
  rcases hkind with ⟨hbuy, htype, hcost⟩ | ⟨hsell, -, policy, hcreated⟩
  · refine chron.debit collisionFree inv.book.made h.eventOf.made
      (hat ▸ notAfter) htype hsource ?_ ?_
    · intro hmem
      obtain ⟨x, hx, hdebited⟩ := mem_filterMap.mp hmem
      refine h.fresh (inv.sources x hx _ ?_)
      unfold debitedId at hdebited
      split at hdebited
      · exact hdebited
      · cases hdebited
    · obtain ⟨receivable, happlied, -⟩ := h.applied
      have hafford : fill.notional + fill.commissionUsd ≤ before.val.settledCashUsd := by
        rcases (Q1ArmState.applyFill_eq_ok happlied).2.2.2 with ⟨-, -, h, -⟩ | ⟨r, hsell, -⟩
        · exact h
        · rw [hbuy] at hsell
          cases hsell
      rw [hat, settledSum_countsFor inv.book.moves notAfter (noSettlement hbuy), inv.settled, hcost]
      linarith
  · refine chron.sale collisionFree inv.book.made h.eventOf.made (hat ▸ notAfter) hcreated ?_
    intro hmem
    obtain ⟨x, hx, hother⟩ := mem_filterMap.mp hmem
    obtain ⟨id, policy', hid, hname⟩ := inv.named x hx _ hother
    have hparts := collisionFree _ _ _ hname
    simp only [List.cons.injEq, Canonical.str.injEq, and_true, true_and] at hparts
    exact h.fresh (hparts.1 ▸ inv.sources x hx id hid)

theorem OpenInv.chronological_settle {opening} {v v' : ArmView} {st : Q1ArmState}
    (inv : OpenInv hash k opening v st) (chron : Chronological v.cash)
    (notAfter : ∀ e ∈ v.cash, e.val.effectiveAt ≤ t)
    (h : Relation.ReflTransGen (SettledMove hash k t) v v') : Chronological v'.cash := by
  have hall : (∃ st, OpenInv hash k opening v' st) ∧ Chronological v'.cash ∧
      ∀ e ∈ v'.cash, e.val.effectiveAt ≤ t := by
    induction h with
    | refl => exact ⟨⟨st, inv⟩, chron, notAfter⟩
    | tail _ hmove ih =>
      obtain ⟨⟨before, inv⟩, chron, notAfter⟩ := ih
      obtain ⟨event, sale, key, st, st', hsettled⟩ := hmove
      obtain rfl : before = st := Option.some.inj (inv.latest.symm.trans hsettled.latest)
      have inv' := inv.settle hsettled
      obtain ⟨row, hrow, rfl⟩ := hsettled.after
      have hat := hsettled.eventOf.effectiveAt
      refine ⟨⟨st', inv'⟩, ?_, forall_mem_append.mpr ⟨notAfter, by simp [hat]⟩⟩
      exact chron.settlement collisionFree inv.book.made hsettled.eventOf.made (hat ▸ notAfter)
        hsettled.settles hsettled.unsettled hsettled.sold.1 hsettled.sold.2 hsettled.amount
  exact hall.2.1

theorem armStep_chronological (inv : StoreInv hash s)
    {call : ArmCall} {s' : ArmStore} (fresh : NewFill s call) (onTime : OnTime s call)
    (h : armStep hash s call = .ok s') (chron : ∀ k, Chronological (s.view k).cash) (k : ArmKey) :
    Chronological (s'.view k).cash := by
  rcases (armStep_moves collisionFree inv fresh h).2 k with hsame | hmoves
  · rw [hsame]
    exact chron k
  cases call with
  | openArm args =>
    obtain ⟨rfl, st, event, hopened⟩ := hmoves
    obtain ⟨row, -, hafter⟩ := hopened.after
    rw [hafter]
    exact .start hopened.eventType
  | fill args =>
    obtain ⟨rfl, event, orderEvent, st, st', hfilled⟩ := hmoves
    obtain ⟨opening, before, hopen⟩ := (inv.views _).resolve_left fun hempty => by
      have hlatest := hfilled.latest
      rw [hempty] at hlatest
      cases hlatest
    exact hopen.chronological_fill collisionFree hfilled (chron _) (fun e he => (onTime e he).1)
      fun hbuy e he htype => (onTime e he).2 hbuy htype
  | settle args =>
    obtain ⟨rfl, hsettled⟩ := hmoves
    rcases inv.views (args.ctx.arm args.armId) with hempty | ⟨opening, st, hopen⟩
    · -- An arm that is not open has nothing to settle.
      rcases hsettled.cases_head with heq | ⟨v, ⟨event, sale, key, st, st', hmove⟩, -⟩
      · rw [← heq]
        exact chron _
      · have hlatest := hmove.latest
        rw [hempty] at hlatest
        cases hlatest
    · exact hopen.chronological_settle collisionFree (chron _) onTime hsettled
  | orderEvent order request databaseClock => exact hmoves.elim
  | others cycles intents => exact hmoves.elim

theorem ArmRun.chronological {taken} (run : ArmRun hash taken s)
    (onTime : ∀ x ∈ taken, OnTime x.1 x.2) (k : ArmKey) : Chronological (s.view k).cash := by
  have hkeep :
    ∀ before call after, (StoreInv hash before ∧ ∀ k, Chronological (before.view k).cash) →
      (NewFill before call ∧ OnTime before call) → armStep hash before call = .ok after →
      StoreInv hash after ∧ ∀ k, Chronological (after.view k).cash :=
    fun _ _ _ h met ok => ⟨(armStep_moves collisionFree h.1 met.1 ok).1,
      armStep_chronological collisionFree h.1 met.1 met.2 ok h.2⟩
  have hboth := run.1.inv_when ⟨StoreInv.start, fun _ => Chronological.nil⟩ hkeep
    fun x hx => ⟨run.2 x hx, onTime x hx⟩
  exact hboth.2 k

end

theorem cashBalances_eq {events : List CashSettlementEvent} {asOf : Instant}
    (visible : ∀ e ∈ events.filter (·.val.key = k), e.val.createdAt ≤ asOf)
    (kept : ∀ e ∈ events.filter (·.val.key = k), TenDecimals e.val.settledCashDeltaUsd ∧
      TenDecimals e.val.unsettledReceivableDeltaUsd) :
    cashBalances (events.map cashRow) k asOf =
      (settledSum (events.filter (·.val.key = k)), unsettledSum (events.filter (·.val.key = k))) := by
  have hselected : (events.map cashRow).filter (fun row => row.key = k ∧ row.effectiveAt ≤ asOf ∧
      row.createdAt ≤ asOf) = (events.filter (·.val.key = k)).map cashRow := by
    rw [filter_map]
    refine congrArg (List.map cashRow) (filter_congr fun e he => ?_)
    by_cases hkey : e.val.key = k
    · have hcreated := visible e (mem_filter.mpr ⟨he, by simpa using hkey⟩)
      have heffective := e.checks.2.trans hcreated
      simp [cashRow, hkey, hcreated, heffective]
    · simp [cashRow, hkey]
  rw [cashBalances, hselected, map_map, map_map, settledSum, unsettledSum]
  refine Prod.ext (congrArg List.sum ?_) (congrArg List.sum ?_)
  · exact map_congr_left fun e he => numericColumn_eq_self (kept e he).1
  · exact map_congr_left fun e he => numericColumn_eq_self (kept e he).2

/-- The state is what the events sum to. -/
theorem cash_projections_agree (collisionFree : hash.NoCollision)
    {taken : List (ArmStore × ArmCall)} (run : ArmRun hash taken s) {st : Q1ArmState}
    (hst : latestArmState s.snapshots k = some st) {asOf : Instant}
    (visible : ∀ e ∈ (s.view k).cash, e.val.createdAt ≤ asOf) :
    (settledSum (s.view k).cash = st.val.settledCashUsd ∧
      unsettledSum (s.view k).cash = st.unsettledCashUsd) ∧
    (∀ b, applySettlementEvents (s.view k).cash asOf = .ok b →
      b.val.settledCashUsd = st.val.settledCashUsd ∧
        b.unsettledReceivablesUsd = st.unsettledCashUsd) ∧
    ((∀ x ∈ taken, OnTime x.1 x.2) → ∃ b, applySettlementEvents (s.view k).cash asOf = .ok b) ∧
    ((∀ e ∈ (s.view k).cash, TenDecimals e.val.settledCashDeltaUsd ∧
        TenDecimals e.val.unsettledReceivableDeltaUsd) →
      cashBalances (s.cashEvents.map cashRow) k asOf =
        (st.val.settledCashUsd, st.unsettledCashUsd)) := by
  have inv := run.inv collisionFree
  rw [inv.latestArmState_eq] at hst
  obtain ⟨opening, before, hopen⟩ := (inv.views k).resolve_left fun hempty => by
    rw [hempty] at hst
    cases hst
  obtain rfl : before = st := Option.some.inj (hopen.latest.symm.trans hst)
  refine ⟨⟨hopen.settled, hopen.unsettled⟩, fun b h => ?_, fun onTime => ?_, fun kept => ?_⟩
  · obtain ⟨hsettled, hunsettled⟩ := applySettlementEvents_sums h hopen.book.moves
    rw [visibleEvents_eq_self visible] at hsettled hunsettled
    exact ⟨hsettled.trans hopen.settled, hunsettled.trans hopen.unsettled⟩
  · exact (run.chronological collisionFree onTime k).accepted collisionFree hopen.book visible
  · rw [cashBalances_eq visible kept]
    exact Prod.ext hopen.settled hopen.unsettled

instance (s : ArmStore) : ∀ call, Decidable (NewFill s call)
  | .fill args => inferInstanceAs (Decidable (args.fillHash ∉ s.fills.map (·.fillHash)))
  | .openArm _ | .settle _ | .orderEvent .. | .others .. => inferInstanceAs (Decidable True)

instance (s : ArmStore) : ∀ call, Decidable (OnTime s call)
  | .fill args => inferInstanceAs (Decidable (∀ e ∈ (s.view (args.ctx.arm args.armId)).cash, _ ∧ _))
  | .settle args => inferInstanceAs (Decidable (∀ e ∈ (s.view (args.ctx.arm args.armId)).cash, _))
  | .openArm _ | .orderEvent .. | .others .. => inferInstanceAs (Decidable True)

def sampleKey : ArmKey := ⟨"r", .q1Det⟩

def sellOrder : OrderDescriptor :=
  ⟨⟨"s", "Q1-DET", "d", "SPY", .sell, 1, .normal, 0, 9⟩, by decide +kernel⟩

def buyOrder : OrderDescriptor :=
  ⟨⟨"b", "Q1-DET", "d", "SPY", .buy, 1, .normal, 0, 9⟩, by decide +kernel⟩

def armProvenance : OrderEventProvenance :=
  ⟨⟨"config", "code", "model", "source", "fence", 1⟩, by decide +kernel⟩

/-- The two orders are in the book, and the arm holds one share and the given cash. -/
def openedCalls (orders : List OrderDescriptor) (cash : Decimal) : List ArmCall :=
  [.others [⟨"c", "RUNNING", some "fence", 1, some 9⟩]
      [⟨"s", "r", "Q1-DET", some 1, some 0⟩, ⟨"b", "r", "Q1-DET", some 1, some 0⟩]] ++
    orders.map (fun order => .orderEvent order
      { eventType := .created
        occurredAt := 0
        availableAt := 0
        provenance := armProvenance
        sourceCycleId := some "c" } none) ++
    [.openArm ⟨.q1Det, 1, cash, Dict.empty.set "SPY" 1, none, sampleContext 0, none⟩]

theorem oneDollar_nonneg : (0 : Decimal) ≤ 1 := by norm_num

def fillCall (order : OrderDescriptor) (t : Instant) : ArmCall :=
  .fill
    { order := order
      armId := .q1Det
      quoteId := "q"
      quantity := 1
      price := 3
      commissionUsd := 1
      quantity_pos := by norm_num
      price_pos := by norm_num
      commission_nonneg := oneDollar_nonneg
      fillHash := order.orderIntentId
      ctx := sampleContext t
      calendar := sampleCalendar
      sessionDate := sampleSession
      orderProvenance := armProvenance
      databaseClock := none }

def settleCall (t : Instant) : ArmCall :=
  .settle ⟨.q1Det, sampleSession, t, sampleContext t, sampleCalendar, none⟩

def runCalls (hash : Hashing) (met : ArmStore → ArmCall → Bool) (calls : List ArmCall) :
    Except Failure ArmStore :=
  calls.foldlM (fun s call => if NewFill s call ∧ met s call then armStep hash s call else
    .error (valueError "not met")) ⟨[], [], [], ⟨[], [], []⟩⟩

theorem ArmRun.of_runCalls {met calls} (h : runCalls hash met calls = .ok s) :
    ∃ taken, taken.map (·.2) = calls ∧ ArmRun hash taken s ∧ ∀ x ∈ taken, met x.1 x.2 := by
  obtain ⟨taken, hcalls, run, hmet⟩ := Run.of_guarded h
  exact ⟨taken, hcalls, ⟨run, fun x hx => (hmet x hx).1⟩, fun x hx => (hmet x hx).2⟩

/-- A sale, its settlement, and a buy with what it brought. -/
def settledCalls : List ArmCall :=
  openedCalls [sellOrder, buyOrder] 3 ++ [fillCall sellOrder 1, settleCall 2, fillCall buyOrder 3]

theorem sample_arm_run : ∃ taken s st, taken.map (·.2) = settledCalls ∧
      ArmRun Hashing.nested taken s ∧ (∀ x ∈ taken, OnTime x.1 x.2) ∧
      latestArmState s.snapshots sampleKey = some st ∧ st.val.settledCashUsd = 1 ∧
      ∀ e ∈ (s.view sampleKey).cash, e.val.createdAt ≤ 3 := by
  have heval : ((runCalls Hashing.nested (fun s call => OnTime s call) settledCalls).toOption.any
      fun s => (latestArmState s.snapshots sampleKey).any (fun st => st.val.settledCashUsd = 1) &&
        decide (∀ e ∈ (s.view sampleKey).cash, e.val.createdAt ≤ 3)) = true := by
    decide +kernel
  obtain ⟨s, hs, htest⟩ := exists_of_any heval
  obtain ⟨hstate, hvisible⟩ := Bool.and_eq_true_iff.mp htest
  obtain ⟨st, hst, hcash⟩ := Option.any_eq_true _ _ |>.mp hstate
  obtain ⟨taken, hcalls, run, onTime⟩ := ArmRun.of_runCalls hs
  exact ⟨taken, s, st, hcalls, run, fun x hx => of_decide_eq_true (onTime x hx), hst,
    of_decide_eq_true hcash, of_decide_eq_true hvisible⟩

theorem sample_projections_agree : ∃ taken s st b, taken.map (·.2) = settledCalls ∧
    ArmRun Hashing.nested taken s ∧
    latestArmState s.snapshots sampleKey = some st ∧ st.val.settledCashUsd = 1 ∧
      applySettlementEvents (s.view sampleKey).cash 3 = .ok b ∧
      b.val.settledCashUsd = st.val.settledCashUsd ∧
      b.unsettledReceivablesUsd = st.unsettledCashUsd := by
  obtain ⟨taken, s, st, hcalls, run, onTime, hst, hcash, visible⟩ := sample_arm_run
  have agree := cash_projections_agree Hashing.nested_noCollision run hst visible
  obtain ⟨b, hb⟩ := agree.2.2.1 onTime
  exact ⟨taken, s, st, b, hcalls, run, hst, hcash, hb, agree.2.1 b hb⟩

/-- The replay refuses what the cycles accepted, when a buy happens at the instant of the settlement
that pays for it; and the columns lose an amount of more than ten decimals. -/
theorem cash_projections_differ :
    (∃ taken s st, ArmRun Hashing.short taken s ∧
      latestArmState s.snapshots sampleKey = some st ∧ st.val.settledCashUsd = 0 ∧
      (∀ e ∈ (s.view sampleKey).cash, e.val.createdAt ≤ 2) ∧
      applySettlementEvents (s.view sampleKey).cash 2 =
        .error (settlementError "BUY fill would consume more than settled cash")) ∧
    ∃ taken s st, ArmRun Hashing.short taken s ∧
      latestArmState s.snapshots sampleKey = some st ∧ st.val.settledCashUsd = 1 / 10 ^ 11 ∧
      cashBalances (s.cashEvents.map cashRow) sampleKey 0 = (0, 0) := by
  constructor
  · have heval : ((runCalls Hashing.short (fun _ _ => true) (openedCalls [sellOrder, buyOrder] 2 ++
        [fillCall sellOrder 1, settleCall 2, fillCall buyOrder 2])).toOption.any fun s =>
          (latestArmState s.snapshots sampleKey).any (fun st => st.val.settledCashUsd = 0) &&
            decide ((∀ e ∈ (s.view sampleKey).cash, e.val.createdAt ≤ 2) ∧
              failure? (applySettlementEvents (s.view sampleKey).cash 2) =
                some (settlementError "BUY fill would consume more than settled cash"))) =
                  true := by
      decide +kernel
    obtain ⟨s, hs, htest⟩ := exists_of_any heval
    obtain ⟨hstate, hrefused⟩ := Bool.and_eq_true_iff.mp htest
    obtain ⟨st, hst, hcash⟩ := Option.any_eq_true _ _ |>.mp hstate
    obtain ⟨taken, -, run, -⟩ := ArmRun.of_runCalls hs
    obtain ⟨hvisible, hfailure⟩ := of_decide_eq_true hrefused
    exact ⟨taken, s, st, run, hst, of_decide_eq_true hcash, hvisible,
      failure?_eq_some.mp hfailure⟩
  · have heval : ((runCalls Hashing.short (fun _ _ => true)
        (openedCalls [] (1 / 10 ^ 11))).toOption.any fun s =>
          (latestArmState s.snapshots sampleKey).any
            (fun st => st.val.settledCashUsd = 1 / 10 ^ 11) &&
            decide (cashBalances (s.cashEvents.map cashRow) sampleKey 0 = (0, 0))) = true := by
      decide +kernel
    obtain ⟨s, hs, htest⟩ := exists_of_any heval
    obtain ⟨hstate, hcolumns⟩ := Bool.and_eq_true_iff.mp htest
    obtain ⟨st, hst, hcash⟩ := Option.any_eq_true _ _ |>.mp hstate
    obtain ⟨taken, -, run, -⟩ := ArmRun.of_runCalls hs
    exact ⟨taken, s, st, run, hst, of_decide_eq_true hcash, of_decide_eq_true hcolumns⟩

end AdaptiveQuant.Settlement
