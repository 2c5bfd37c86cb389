import AdaptiveQuant.Runtime.CanaryExit
import AdaptiveQuant.Runtime.CanarySnapshot
import Mathlib.Tactic.MkIffOfInductiveProp

/-! Whether a sync records what the broker reports. -/

namespace AdaptiveQuant

open Guard Effect List

section Avoid

variable {service : CanaryService} {runId : String} {source : CanarySource}
  {binding : PaperBrokerBindingRow} {now : Instant}

theorem timestampFailure_ne_died : timestampFailure ≠ .died := nofun

theorem avoids_request {α : Type} (message : Option BrokerMessage)
    (handle : Broker → Acceptance → Except AlpacaPaperTradingError α × Broker) :
    Effect.Avoids timestampFailure (request message handle : Sync α) := by
  refine avoids_act timestampFailure_ne_died fun w => ?_
  unfold respond
  split
  · exact mapError_ne_error fun _ _ => nofun
  · exact nofun
  · exact nofun

theorem avoids_checkEvent (store : PaperStore) (row : PaperBrokerEventRow) :
    Guard.Avoids (valueError "Alpaca Paper event timestamps are inconsistent")
      (store.checkEvent row) := by
  refine .bind ?_ fun _ => .check (by decide) <| .check (by decide) ?_
  · unfold PaperStore.requiredBinding
    split
    · exact avoids_error nofun
    · exact avoids_ok _ _
  · split
    · exact avoids_ok _ _
    · refine .bind ?_ fun _ => .check (by decide) <| .check (by decide) <| .check (by decide) <|
        .check (by decide) <| .check (by decide) <|
        avoids_raiseIf (by decide)
      unfold PaperStore.requiredCommand
      split
      · exact avoids_error nofun
      · exact avoids_ok _ _

theorem writeEvent_ne_timestampFailure {event : BrokerEvent} (time : event.occurredAt ≤ now)
    (store : PaperStore) :
    writeEvent service binding now event store ≠ .error timestampFailure := by
  refine raised_ne_timestampFailure (.bind ?_ fun _ => .bind (avoids_checkEvent _ _) fun _ => ?_)
  · have htime : ¬((event.row service binding now).availableAt <
        (event.row service binding now).occurredAt ∨ (event.row service binding now).createdAt <
        (event.row service binding now).availableAt) := by
      rw [not_or, not_lt, not_lt]
      exact ⟨time, le_refl now⟩
    refine .bind (avoids_requireStrings _) fun _ => .check (by decide) <| .check (by decide) <|
      .check (by decide) <| .check (by decide) ?_
    rw [raiseIf_neg _ htime, ok_bind]
    exact .check (by decide) <| avoids_raiseIf (by decide)
  · split
    · exact .check (by decide) (avoids_ok _ _)
    · exact avoids_ok _ _

theorem avoids_recordReady (binding : PaperBrokerBindingRow) :
    Effect.Avoids timestampFailure (recordReady service binding now) :=
  avoids_transactEvents timestampFailure_ne_died fun store =>
    writeEvent_ne_timestampFailure (le_refl now) store

theorem avoids_cancelOrders (source : CanarySource) (binding : PaperBrokerBindingRow)
    (decisionId reason : String) (orders : List AlpacaPaperOrder) :
    Effect.Avoids timestampFailure
      (cancelOrders service source binding decisionId reason now orders) := by
  refine .each fun order _ => .bind (avoids_transact timestampFailure_ne_died fun store =>
    ensureCommand_ne_timestampFailure _ _ _ _) fun command => .bind (avoids_reads _ _)
    fun latest => ?_
  split
  · exact avoids_pure _ _
  · refine .bind (avoids_request _ _) fun _ =>
      avoids_transactEvents timestampFailure_ne_died fun store => ?_
    unfold writeNewEvent
    split
    · exact nofun
    · exact writeEvent_ne_timestampFailure (le_refl now) store

theorem avoids_planQuoted (d : AlpacaPaperCanaryDocument) (decisionId symbol : String)
    (risk : RiskSeverity) (side : OrderSide) (quantity : Decimal) (quote : Option CanaryQuoteRow) :
    Guard.Avoids timestampFailure (planQuoted d decisionId symbol risk side quantity quote) := by
  unfold planQuoted
  split
  · exact avoids_error nofun
  · split
    · exact avoids_error nofun
    · split
      · exact avoids_ok _ _
      · exact avoids_ok _ _

theorem avoids_planOrders (account : AlpacaPaperAccount) (positions : List AlpacaPaperPosition)
    (decision : PortfolioDecisionRow) (risk : RiskSeverity) :
    Guard.Avoids timestampFailure
      (planOrders service source account positions decision risk now) := by
  refine .check nofun <| .bind ?_ fun _ => .check nofun <| .bind ?_ fun _ => avoids_ok _ _
  · unfold freshQuotes
    split
    · exact avoids_ok _ _
    · refine .check nofun <| avoids_mapM fun symbol _ => ?_
      unfold freshQuote
      simp only
      split
      · exact avoids_error nofun
      · split
        · exact avoids_error nofun
        · exact avoids_ok _ _
  · exact avoids_mapM fun symbol _ =>
      iteInduction (fun _ => avoids_ok _ _) fun _ => avoids_planQuoted _ _ _ _ _ _ _

theorem avoids_bindAccount (account : AlpacaPaperAccount) (positions : List AlpacaPaperPosition)
    (openOrders : List AlpacaPaperOrder) (existing : Option PaperBrokerBindingRow) :
    Effect.Avoids timestampFailure
      (bindAccount service runId account positions openOrders now existing) := by
  cases existing with
  | some binding =>
    have hbound : Guard.Avoids timestampFailure (validateBoundAccount service binding account) :=
      .check nofun <| .check nofun <|
        avoids_raiseIf nofun
    exact .bind (avoids_ofExcept hbound) fun _ => avoids_pure _ _
  | none =>
    have hnew : Guard.Avoids timestampFailure
        (validateNewBinding service account positions openOrders) :=
      .check nofun <| avoids_raiseIf nofun
    refine .bind (avoids_ofExcept hnew) fun _ =>
      avoids_transact timestampFailure_ne_died fun store => ?_
    refine raised_ne_timestampFailure (.bind (.bind (avoids_requireStrings _) fun _ =>
      .check (by decide) <| .check (by decide) <| .check (by decide) <| .check (by decide) <|
      avoids_raiseIf (by decide)) fun _ => ?_)
    split
    · exact .check (by decide) (avoids_ok _ _)
    · exact avoids_ok _ _

theorem avoids_gather : Effect.Avoids timestampFailure (gather service runId source now) := by
  have hrun : Guard.Avoids timestampFailure (checkRun service source.run) := by
    unfold checkRun
    split
    · exact avoids_error nofun
    · exact .check nofun <| avoids_raiseIf nofun
  refine .bind (avoids_ofExcept hrun) fun _ => .bind (avoids_reads _ _) fun _ =>
    .bind (avoids_reads _ _) fun _ => .bind (avoids_request _ _) fun _ =>
    .bind (avoids_request _ _) fun _ => .bind ?_ fun _ => .bind (avoids_bindAccount _ _ _ _)
    fun _ => .bind ?_ fun _ => avoids_pure _ _
  · exact .bind (avoids_ofExcept (raised_ne_timestampFailure (avoids_raiseIf (by decide))))
      fun _ => avoids_request _ _
  · exact .bind (avoids_ofExcept (raised_ne_timestampFailure (avoids_raiseIf (by decide))))
      fun _ => avoids_request _ _

theorem avoids_conclude (g : Gathered) (commands : List PaperBrokerCommandRow) :
    Effect.Avoids timestampFailure (conclude service runId source g commands) := by
  have hfills : ∀ events : List PaperBrokerEventRow,
      Guard.Avoids timestampFailure (events.mapM signedFill) := by
    refine fun events => avoids_mapM fun event _ => ?_
    unfold signedFill
    split
    · exact avoids_ok _ _
    · exact avoids_error nofun
  intro w
  have hchecked : Guard.Avoids timestampFailure (validateDedicatedAccount service g.binding
      g.positions (g.orders.filter (·.isOpen)) commands w.store) :=
    .check nofun <| .bind (hfills _) fun _ =>
      .check nofun <| .check nofun <|
      avoids_raiseIf nofun
  have hdecision : Guard.Avoids timestampFailure (latestSourceDecision service source runId) :=
    .check nofun (avoids_ok _ _)
  rw [conclude, bind_ok (by rfl)]
  exact (avoids_ofExcept hchecked).bind (fun _ => .bind (avoids_ofExcept hdecision)
    fun _ => avoids_pure _ _) w

end Avoid

/-- The results that a loop of submissions records, as the broker would have them. -/
def loopReports (service : CanaryService) (binding : PaperBrokerBindingRow)
    (decision : PortfolioDecisionRow) (broker : Broker) :
    List Exchange → List CanaryOrderPlan → List (String × Instant)
  | _, [] => []
  | exchanges, plan :: rest =>
    if plan.limitPrice ≤ 0 then []
    else match broker.order? (planClientId service binding decision plan) with
      | none =>
        let order := plannedOrder service binding decision plan
          (exchanges.tail.headD silence).taken
        (resultKey service binding order, order.updatedAt) ::
          loopReports service binding decision broker (exchanges.drop 2) rest
      | some order =>
        if order.HasTermsOf plan then
          (resultKey service binding order, order.updatedAt) ::
            loopReports service binding decision broker (exchanges.drop 1) rest
        else []

variable (service : CanaryService)

/-- The order under the id of a plan, if there is one, is reported in a way that the store takes. -/
def GenuineExisting (binding : PaperBrokerBindingRow)
    (decision : PortfolioDecisionRow) (broker : Broker) (plans : List CanaryOrderPlan) : Prop :=
  ∀ plan ∈ plans, ∀ order ∈ broker.order? (planClientId service binding decision plan),
    order.status.IsSupported ∧ 0 ≤ order.filledQuantity ∧
      ∀ price ∈ order.filledAveragePrice, 0 < price

instance (service : CanaryService) (binding : PaperBrokerBindingRow)
    (decision : PortfolioDecisionRow) (broker : Broker) (plans : List CanaryOrderPlan) :
    Decidable (GenuineExisting service binding decision broker plans) :=
  inferInstanceAs (Decidable (∀ plan ∈ plans, _))

section Loop

variable {service : CanaryService} {runId : String} {source : CanarySource}
  {binding : PaperBrokerBindingRow} {decision : PortfolioDecisionRow} {now : Instant}
  {plan : CanaryOrderPlan} {plans : List CanaryOrderPlan} {w : World PaperStore}

theorem loopReports_congr {broker broker' : Broker} {exchanges : List Exchange}
    (h : ∀ plan ∈ plans, broker'.order? (planClientId service binding decision plan) =
      broker.order? (planClientId service binding decision plan)) :
    loopReports service binding decision broker' exchanges plans =
      loopReports service binding decision broker exchanges plans := by
  induction plans generalizing exchanges with
  | nil => rfl
  | cons plan rest ih =>
    rw [forall_mem_cons] at h
    simp only [loopReports, h.1, ih h.2]

theorem eventExists_quiet (service : CanaryService) (runId bindingId key : String) :
    Quiet service runId fun store _ => store.eventExists bindingId key where
  moves _ _ _ h := h
  event _ _ _ _ _ _ _ _ h := by
    obtain ⟨event, hevent, hkey⟩ := h
    exact ⟨event, mem_append_left _ hevent, hkey⟩
  command _ _ _ _ _ _ _ h := h
  post _ _ _ h := h
  cancel _ _ _ h := h

theorem keeps_submitPlans_exists (source : CanarySource) (binding : PaperBrokerBindingRow)
    (decision : PortfolioDecisionRow) (plans : List CanaryOrderPlan) (bindingId key : String) :
    Keeps (Holds fun store _ => store.eventExists bindingId key)
      (submitPlans service source binding decision now plans) :=
  keeps_submitPlans (fun _ _ _ h => h) (eventExists_quiet service "" bindingId key).event
    (fun _ _ _ h => h) (fun _ _ _ h => h) (fun _ _ _ _ h => h) source binding decision now plans

/-- What a loop did when no result came too late: every order that is new has its result. -/
def NewOrdersRecorded (service : CanaryService) (binding : PaperBrokerBindingRow)
    (before : Broker) (w : World PaperStore) : Prop :=
  ∀ order ∈ w.broker.orders, order ∈ before.orders ∨
    w.store.eventExists binding.bindingId (resultKey service binding order)

theorem ResultIn.keys {order} {before after : PaperStore} {outcome reports}
    (h : ResultIn service binding now order before after outcome) :
    (outcome = .ok () ∧ (TimelyReports now (before.keysOf binding.bindingId)
        ((resultKey service binding order, order.updatedAt) :: reports) ↔
        TimelyReports now (after.keysOf binding.bindingId) reports) ∧
        after.eventExists binding.bindingId (resultKey service binding order)) ∨
      (outcome = .error timestampFailure ∧ ¬TimelyReports now (before.keysOf binding.bindingId)
        ((resultKey service binding order, order.updatedAt) :: reports)) := by
  rcases h with ⟨hcan, houtcome, hkeys⟩ | ⟨hlate, houtcome, -⟩
  · refine .inl ⟨houtcome, ?_, (hkeys _).mpr (.inr rfl)⟩
    rw [CanRecord, ← PaperStore.mem_keysOf] at hcan
    refine (and_iff_right hcan).trans (timelyReports_congr fun key => ?_)
    rw [mem_cons, PaperStore.mem_keysOf, PaperStore.mem_keysOf, hkeys key, or_comm]
  · refine .inr ⟨houtcome, fun htimely => hlate ?_⟩
    rw [CanRecord, ← PaperStore.mem_keysOf]
    exact htimely.1

theorem submitPlans_timely (apart : service.hash.TellsApart) (ready : Ready service runId binding w)
    (followed : decision.Followed service runId source) (hplans : OrderPlans plans)
    (calm : ∀ x ∈ w.exchanges, x.IsCalm) (enough : 2 * plans.length ≤ w.exchanges.length)
    (existing : GenuineExisting service binding decision w.broker plans) (now : Instant) :
    ((submitPlans service source binding decision now plans w).1 ≠ .error timestampFailure ↔
      TimelyReports now (w.store.keysOf binding.bindingId)
        (loopReports service binding decision w.broker w.exchanges plans)) ∧
    ((submitPlans service source binding decision now plans w).1 ≠ .error timestampFailure →
      NewOrdersRecorded service binding w.broker
        (submitPlans service source binding decision now plans w).2) := by
  induction plans generalizing w with
  | nil => exact ⟨iff_of_true nofun trivial, fun _ order horder => .inl horder⟩
  | cons plan rest ih =>
    obtain ⟨x, y, later, hx, hlater⟩ := exchanges_cons enough
    rw [hx] at calm
    simp only [forall_mem_cons] at calm
    have hrunEq : submitPlans service source binding decision now (plan :: rest) w =
        (submitPlan service source binding decision now plan >>= fun _ =>
          submitPlans service source binding decision now rest) w := rfl
    rw [hrunEq]
    by_cases hlimit : plan.limitPrice ≤ 0
    · obtain ⟨failure, w', hrun, htime, hbroker, -⟩ := submitPlan_unsendable ready.alive
        (hplans.symbol plan mem_cons_self) hlimit service source binding decision now
      rw [bind_error hrun, loopReports, if_pos hlimit]
      refine ⟨iff_of_true (fun heq => htime (Except.error.inj heq)) trivial,
        fun _ order horder => .inl ?_⟩
      rw [← hbroker]
      exact horder
    · have hsendable := sendable_of_limit hplans (not_le.mp hlimit)
      rw [loopReports, if_neg hlimit]
      have hexisting := forall_mem_cons.mp existing
      cases hfound : w.broker.order? (planClientId service binding decision plan) with
      | none =>
        obtain ⟨outcome, store', hrun, hready, hresult⟩ := submitPlan_unused apart ready followed
          hsendable hx calm.1 calm.2.1 hfound now
        have hothers : ∀ other ∈ rest, _ = w.broker.order? (planClientId service binding decision
            other) := fun other hother => order?_plannedOrder hplans apart hother w.broker y.taken
        simp only [hx, tail_cons, headD_cons, drop_succ_cons, drop_zero]
        rcases hresult.keys with ⟨rfl, htimely, hrecorded⟩ | ⟨rfl, hlate⟩
        · rw [bind_ok hrun, htimely]
          have hnext := ih (w := w.took store' later
          (plannedOrder service binding decision plan y.taken))
            ⟨hready.alive, hready.sound, hready.binding⟩ hplans.tail calm.2.2 hlater
            (fun other hother => by rw [hothers other hother]; exact hexisting.2 other hother)
          rw [loopReports_congr hothers] at hnext
          refine ⟨hnext.1, fun hok order horder => ?_⟩
          rcases hnext.2 hok order horder with hold | hnew
          · rcases mem_append.mp hold with hbefore | hplanned
            · exact .inl hbefore
            · rw [mem_singleton.mp hplanned]
              exact .inr (keeps_submitPlans_exists source binding decision rest _ _ _ hrecorded)
          · exact .inr hnew
        · rw [bind_error hrun]
          exact ⟨iff_of_false (not_not.mpr rfl) hlate, fun hok => (hok rfl).elim⟩
      | some order =>
        obtain ⟨hsupported, hfilled, hprice⟩ := hexisting.1 order hfound
        have hx' : w.exchanges = x :: (y :: later) := hx
        simp only
        by_cases hterms : order.HasTermsOf plan
        · obtain ⟨outcome, store', hrun, hready, hresult⟩ := submitPlan_same apart ready followed
            hsendable hx' calm.1 hfound hterms hsupported hfilled hprice now
          rw [if_pos hterms, hx, drop_one, tail_cons]
          rcases hresult.keys with ⟨rfl, htimely, -⟩ | ⟨rfl, hlate⟩
          · rw [bind_ok hrun, htimely]
            exact ih (w := { w with store := store', exchanges := y :: later })
              ⟨hready.alive, hready.sound, hready.binding⟩ hplans.tail
              (forall_mem_cons.mpr calm.2) (by simp only [length_cons]; omega) hexisting.2
          · rw [bind_error hrun]
            exact ⟨iff_of_false (not_not.mpr rfl) hlate, fun hok => (hok rfl).elim⟩
        · obtain ⟨store', hrun, -⟩ := submitPlan_conflict apart ready followed hsendable hx' calm.1
            hfound hterms hsupported now
          rw [if_neg hterms, bind_error hrun]
          exact ⟨iff_of_true nofun trivial, fun _ order horder => .inl horder⟩

end Loop

def PlannedThen (source : CanarySource) (now : Instant) (o : Observation)
    (P : PortfolioDecisionRow → List CanaryOrderPlan → Prop) : Prop :=
  ∀ decision ∈ o.decision, activeMarketSession service source now → now < decision.validUntil →
    ownedOpen o.commands o.openOrders = [] →
    ∀ plans ∈ (planOrders service source o.account o.positions decision o.risk now).toOption,
      P decision plans

instance (service : CanaryService) (source : CanarySource) (now : Instant) (o : Observation)
    (P : PortfolioDecisionRow → List CanaryOrderPlan → Prop)
    [∀ decision plans, Decidable (P decision plans)] :
    Decidable (PlannedThen service source now o P) :=
  inferInstanceAs (Decidable (∀ decision ∈ o.decision, _))

theorem plannedThen_iff {service source} {now : Instant} {o}
    {P : PortfolioDecisionRow → List CanaryOrderPlan → Prop} :
    PlannedThen service source now o P ↔
      ∀ decision plans, Planned service source now o decision plans → P decision plans := by
  constructor
  · intro h decision plans hplanned
    exact h decision hplanned.latest hplanned.session hplanned.unexpired hplanned.idle plans
      (by rw [hplanned.plans]; rfl)
  · intro h decision hdecision hsession hvalid hidle plans hplans
    exact h decision plans ⟨hdecision, hsession, hvalid, hidle, toOption_mem hplans⟩

/-- The process lives, the broker answers the submissions, and its reports are ones that the store
takes but for their times. -/
@[mk_iff]
structure GenuineSync (service : CanaryService) (runId : String) (w : World PaperStore)
    (call : SyncCall) : Prop where
  alive : call.life = none
  reports : ∀ g ∈ (w.gathered service runId call).1.toOption,
    g.Genuine service call.now (w.gathered service runId call).2.store
  submissions : ∀ o ∈ (w.observed service runId call).1.toOption,
    PlannedThen service call.source call.now o fun decision plans =>
      (∀ x ∈ (w.observed service runId call).2.exchanges, x.IsCalm) ∧
      2 * plans.length ≤ (w.observed service runId call).2.exchanges.length ∧
      GenuineExisting service o.binding decision (w.observed service runId call).2.broker plans

instance (service : CanaryService) (runId : String) (w : World PaperStore) (call : SyncCall) :
    Decidable (GenuineSync service runId w call) :=
  decidable_of_iff' _ (genuineSync_iff ..)

/-- Every order, fill and submission that the broker reports in the sync is recorded already or
carries a time up to the start of the sync. -/
def ReportsInTime (runId : String) (w : World PaperStore)
    (call : SyncCall) : Prop :=
  (∀ g ∈ (w.gathered service runId call).1.toOption,
    TimelyReports call.now ((w.gathered service runId call).2.store.keysOf g.binding.bindingId)
      ((g.events service call.now (w.gathered service runId call).2.store).map (·.report))) ∧
  ∀ o ∈ (w.observed service runId call).1.toOption,
    PlannedThen service call.source call.now o fun decision plans =>
      TimelyReports call.now ((w.observed service runId call).2.store.keysOf o.binding.bindingId)
        (loopReports service o.binding decision (w.observed service runId call).2.broker
          (w.observed service runId call).2.exchanges plans)

instance (service : CanaryService) (runId : String) (w : World PaperStore) (call : SyncCall) :
    Decidable (ReportsInTime service runId w call) := inferInstanceAs (Decidable (_ ∧ _))

/-- No event of the sync is refused for its time: the snapshot of the owned orders and fills is
stored, and so is the result of every order that the broker took. -/
def RecordsReports (runId : String) (w : World PaperStore)
    (call : SyncCall) : Prop :=
  (syncOnce service runId call.source call.now (w.enter call)).1 ≠ .error timestampFailure ∧
  (∀ g ∈ (w.gathered service runId call).1.toOption,
    ∀ event ∈ g.events service call.now (w.gathered service runId call).2.store,
    (w.synced service runId call).2.store.eventExists g.binding.bindingId event.idempotencyKey) ∧
  ∀ o ∈ (w.observed service runId call).1.toOption,
    PlannedThen service call.source call.now o fun _ _ =>
      NewOrdersRecorded service o.binding (w.observed service runId call).2.broker
        (w.synced service runId call).2

section Syncs

variable {service : CanaryService} {runId : String} {source : CanarySource} {now : Instant}
variable {o : Observation} {w : World PaperStore}

theorem avoids_follow (h : ∀ decision plans, ¬Planned service source now o decision plans) :
    (follow service source o now w).1 ≠ .error timestampFailure := by
  rw [follow]
  split
  · refine Effect.Avoids.bind (avoids_ofExcept ?_) (fun _ => .bind (avoids_cancelOrders _ _ _ _ _)
      fun _ => avoids_recordReady _) w
    unfold cancelSource
    split
    · rintro ⟨⟩
    · split
      · split
        · rintro ⟨⟩
        · rintro ⟨⟩
      · rintro ⟨⟩
  · cases hlatest : o.decision with
    | none => exact avoids_recordReady _ w
    | some decision =>
      show (followDecision service source o decision now w).1 ≠ _
      rw [followDecision]
      split
      · rw [leaveSession]
        refine Effect.Avoids.bind (avoids_cancelOrders _ _ _ _ _) (fun _ => ?_) w
        exact avoids_fail (by rintro ⟨⟩)
      · rename_i hsession
        split
        · rintro ⟨⟩
        · rename_i hunexpired
          split
          · exact avoids_recordReady _ w
          · rename_i hidle
            cases hplans : planOrders service source o.account o.positions decision o.risk now with
            | ok plans =>
              exact (h decision plans ⟨hlatest, not_not.mp hsession, not_le.mp hunexpired,
                not_not.mp hidle, hplans⟩).elim
            | error failure =>
              have hplan : Guard.Avoids timestampFailure (planOrders service source o.account
                o.positions decision o.risk now) := avoids_planOrders _ _ _ _
              rw [submitPlanned, hplans]
              rw [hplans] at hplan
              exact fun heq => hplan (by rw [Except.error.inj heq])

theorem eventExists_follow {bindingId key : String} (h : w.store.eventExists bindingId key) :
    (follow service source o now w).2.store.eventExists bindingId key :=
  (eventExists_quiet service o.binding.runId bindingId key).follow rfl h fun decision plans _ =>
    keeps_submitPlans_exists source o.binding decision plans bindingId key w h

theorem eventExists_sync {bindingId key : String}
    (h : (syncOnce service runId source now w).2.store.eventExists bindingId key) :
    (sync service runId source now w).2.store.eventExists bindingId key :=
  (eventExists_quiet service runId bindingId key).sync h

def World.snapshot (service : CanaryService) (now : Instant) (w : World PaperStore)
    (g : Gathered) : World PaperStore :=
  { w with store := w.store.withEvents service g.binding now (g.events service now w.store) }

theorem persist_run {g : Gathered} (apart : service.hash.TellsApart)
    (ready : Ready service runId g.binding w) (genuine : g.Genuine service now w.store) :
    persistReconciliationSnapshot service g.binding g.account g.positions g.orders g.fills now w =
      if TimelyReports now (w.store.keysOf g.binding.bindingId)
          ((g.events service now w.store).map (·.report)) then
        (.ok (w.store.commandsOf g.binding.bindingId), w.snapshot service now g)
      else (.error timestampFailure, w) := by
  rw [persistReconciliationSnapshot, transact, act_alive _ ready.alive,
    writeSnapshot_genuine apart ready.sound ready.binding genuine]
  by_cases htimely : TimelyReports now (w.store.keysOf g.binding.bindingId)
      ((g.events service now w.store).map (·.report))
  · rw [if_pos htimely, if_pos htimely]
    rfl
  · rw [if_neg htimely, if_neg htimely]
    rfl

theorem conclude_state (service : CanaryService) (runId : String) (source : CanarySource)
    (g : Gathered) (commands : List PaperBrokerCommandRow) (w : World PaperStore) :
    (conclude service runId source g commands w).2 = w := by
  have hkeep : Keeps (fun w' => w' = w) (conclude service runId source g commands) :=
    (Keeps.reads _).bind fun _ => (Keeps.ofExcept _).bind fun _ => (Keeps.ofExcept _).bind
      fun _ => Keeps.pure _
  exact hkeep w rfl

theorem Planned.then_iff {decision plans} (h : Planned service source now o decision plans)
    {P : PortfolioDecisionRow → List CanaryOrderPlan → Prop} :
    PlannedThen service source now o P ↔ P decision plans := by
  rw [plannedThen_iff]
  refine ⟨fun hall => hall decision plans h, fun hone decision' plans' h' => ?_⟩
  obtain rfl : decision = decision' := Option.some.inj (h.latest.symm.trans h'.latest)
  obtain rfl : plans = plans' := Except.ok.inj (h.plans.symm.trans h'.plans)
  exact hone

theorem follow_planned {decision plans} (h : Planned service source now o decision plans) :
    ((follow service source o now w).1 ≠ .error timestampFailure ↔
      (submitPlans service source o.binding decision now plans w).1 ≠ .error timestampFailure) ∧
    (follow service source o now w).2.broker =
      (submitPlans service source o.binding decision now plans w).2.broker ∧
    ∀ bindingId key,
      (submitPlans service source o.binding decision now plans w).2.store.eventExists bindingId
        key → (follow service source o now w).2.store.eventExists bindingId key := by
  rw [h.follow_eq]
  rcases hrun : submitPlans service source o.binding decision now plans w with
    ⟨failure | ⟨⟩, w'⟩
  · rw [bind_error hrun]
    exact ⟨Iff.rfl, rfl, fun _ _ => id⟩
  · rw [bind_ok hrun]
    exact ⟨iff_of_true (avoids_recordReady _ w') nofun, recordReady_broker _ _ _ _,
      fun bindingId key => (eventExists_quiet service o.binding.runId bindingId key).recordReady
        o.binding now w'⟩

theorem follow_timely (apart : service.hash.TellsApart) (ready : Ready service runId o.binding w)
    (latest : o.decision = latestDecision service source runId)
    (submissions : PlannedThen service source now o fun decision plans =>
      (∀ x ∈ w.exchanges, x.IsCalm) ∧ 2 * plans.length ≤ w.exchanges.length ∧
      GenuineExisting service o.binding decision w.broker plans) :
    ((follow service source o now w).1 ≠ .error timestampFailure ↔
      PlannedThen service source now o fun decision plans =>
        TimelyReports now (w.store.keysOf o.binding.bindingId)
          (loopReports service o.binding decision w.broker w.exchanges plans)) ∧
    ((follow service source o now w).1 ≠ .error timestampFailure →
      PlannedThen service source now o fun _ _ =>
        NewOrdersRecorded service o.binding w.broker (follow service source o now w).2) := by
  by_cases hplanned : ∃ decision plans, Planned service source now o decision plans
  · obtain ⟨decision, plans, hplanned⟩ := hplanned
    obtain ⟨houtcome, hbroker, hexists⟩ := follow_planned hplanned (w := w)
    obtain ⟨hcalm, henough, hexisting⟩ := hplanned.then_iff.mp submissions
    obtain ⟨htimely, hrecorded⟩ := submitPlans_timely apart ready
      (latestDecision_followed (latest.symm.trans hplanned.latest))
      (planOrders_plans hplanned.plans) hcalm henough hexisting now
    rw [hplanned.then_iff, hplanned.then_iff, houtcome]
    refine ⟨htimely, fun hok order horder => ?_⟩
    rw [hbroker] at horder
    exact (hrecorded hok order horder).imp_right (hexists _ _)
  · have hnone : ∀ decision plans, ¬Planned service source now o decision plans :=
      fun decision plans h => hplanned ⟨decision, plans, h⟩
    refine ⟨iff_of_true (avoids_follow hnone) ?_, fun _ => ?_⟩
    · exact plannedThen_iff.mpr fun decision plans h => (hnone decision plans h).elim
    · exact plannedThen_iff.mpr fun decision plans h => (hnone decision plans h).elim

end Syncs

/-- In every run, with any earlier history, a sync of a living process records every order, fill and
submission that the broker reports exactly when none of them that is not recorded yet carries a
time after the start of the sync. -/
theorem broker_reports_recorded_iff {service : CanaryService} {runId : String}
    {init w : World PaperStore} {taken : List (World PaperStore × SyncCall)} {call : SyncCall}
    (apart : service.hash.TellsApart) (run : Run (syncStep service runId) init taken w)
    (start : init.IsUntouched) (h : GenuineSync service runId w call) :
    RecordsReports service runId w call ↔ ReportsInTime service runId w call := by
  have hsound : (w.enter call).store.Sound service runId := (sound_of_run run start).1
  rcases hgather : w.gathered service runId call with ⟨failure | g, w1⟩
  · have hobserve : w.observed service runId call = (.error failure, w1) := by
      rw [World.observed, observe_eq, bind_error hgather]
    have hsync : syncOnce service runId call.source call.now (w.enter call) =
        (.error failure, w1) := by
      rw [syncOnce, bind_error hobserve]
    have havoid : failure ≠ timestampFailure := fun heq =>
      avoids_gather (w.enter call) (show (w.gathered service runId call).1 = _ by rw [hgather, heq])
    simp only [RecordsReports, ReportsInTime, hgather, hobserve, hsync, Except.toOption,
      Option.not_mem_none, IsEmpty.forall_iff, implies_true, and_true, iff_true]
    exact fun heq => havoid (Except.error.inj heq)
  · have hof := gather_ok hsound hgather
    have hready : Ready service runId g.binding w1 :=
      ⟨hof.alive h.alive,
        (keeps_gather sound_steady.moves sound_steady.bind call.source call.now).ok
        hgather hsound, hof.binding⟩
    have hgenuine : g.Genuine service call.now w1.store := by
      have := h.reports g (by rw [hgather]; rfl)
      rwa [hgather] at this
    have hpersist := persist_run apart hready hgenuine
    by_cases htimely : TimelyReports call.now (w1.store.keysOf g.binding.bindingId)
        ((g.events service call.now w1.store).map (·.report))
    · rw [if_pos htimely] at hpersist
      have hpart : w.observed service runId call =
          conclude service runId call.source g (w1.store.commandsOf g.binding.bindingId)
            (w1.snapshot service call.now g) := by
        rw [World.observed, observe_eq, bind_ok hgather, bind_ok hpersist]
      have hwritten : ∀ event ∈ g.events service call.now w1.store,
          (w1.snapshot service call.now g).store.eventExists g.binding.bindingId
            event.idempotencyKey := fun event hevent => withEvents_exists hevent
      rcases hconclude : conclude service runId call.source g
        (w1.store.commandsOf g.binding.bindingId) (w1.snapshot service call.now g) with
        ⟨failure | o, w2⟩
      · have hstate := conclude_state service runId call.source g
          (w1.store.commandsOf g.binding.bindingId) (w1.snapshot service call.now g)
        rw [hconclude] at hstate
        have hobserve : w.observed service runId call =
            (.error failure, w1.snapshot service call.now g) := by
          rw [hpart, hconclude, ← hstate]
        have hsync : syncOnce service runId call.source call.now (w.enter call) =
            (.error failure, w1.snapshot service call.now g) := by
          rw [syncOnce, bind_error hobserve]
        have havoid : failure ≠ timestampFailure := fun heq =>
          avoids_conclude g _ (w1.snapshot service call.now g) (by rw [hconclude, heq])
        simp only [RecordsReports, ReportsInTime, hgather, hobserve, hsync, Except.toOption,
          Option.mem_def, Option.some.injEq, forall_eq', reduceCtorEq, IsEmpty.forall_iff,
          implies_true, and_true]
        refine iff_of_true
          ⟨fun heq => havoid (Except.error.inj heq), fun event hevent => ?_⟩ htimely
        exact eventExists_sync (by rw [hsync]; exact hwritten event hevent)
      · have hstate := conclude_state service runId call.source g
          (w1.store.commandsOf g.binding.bindingId) (w1.snapshot service call.now g)
        rw [hconclude] at hstate
        have hobserve : w.observed service runId call =
          (.ok o, w1.snapshot service call.now g) := by
          rw [hpart, hconclude, ← hstate]
        have hsync : syncOnce service runId call.source call.now (w.enter call) =
            follow service call.source o call.now (w1.snapshot service call.now g) := by
          rw [syncOnce, bind_ok hobserve]
        have hobserved := observe_ok hobserve
        have hfollow : Ready service runId o.binding (w1.snapshot service call.now g) :=
          ⟨hobserved.alive h.alive, (sound_steady.observe call.source call.now).ok hobserve hsound,
            hobserved.binding⟩
        have hsubmissions := h.submissions o (by rw [hobserve]; rfl)
        rw [hobserve] at hsubmissions
        obtain ⟨houtcome, hrecorded⟩ := follow_timely apart hfollow hobserved.decision hsubmissions
        simp only [RecordsReports, ReportsInTime, hgather, hobserve, hsync, Except.toOption,
          Option.mem_def, Option.some.injEq, forall_eq']
        rw [houtcome]
        refine ⟨fun hrecords => ⟨htimely, hrecords.1⟩, fun hintime => ⟨hintime.2, ?_, ?_⟩⟩
        · intro event hevent
          refine eventExists_sync ?_
          rw [hsync]
          exact eventExists_follow (hwritten event hevent)
        · rw [plannedThen_iff]
          intro decision plans hplanned order horder
          rw [sync_broker, hsync] at horder
          have hnew :=
            plannedThen_iff.mp (hrecorded (houtcome.mpr hintime.2)) decision plans hplanned
          refine (hnew order horder).imp_right fun hexists => eventExists_sync ?_
          rw [hsync]
          exact hexists
    · rw [if_neg htimely] at hpersist
      have hobserve : w.observed service runId call = (.error timestampFailure, w1) := by
        rw [World.observed, observe_eq, bind_ok hgather, bind_error hpersist]
      have hsync : syncOnce service runId call.source call.now (w.enter call) =
          (.error timestampFailure, w1) := by
        rw [syncOnce, bind_error hobserve]
      refine iff_of_false (fun hrecords => hrecords.1 (by rw [hsync])) fun hintime => htimely ?_
      have := hintime.1 g (by rw [hgather]; rfl)
      rwa [hgather] at this

/-- The filled buy, its fill and the accepted sell are recorded. -/
theorem exit_reports_recorded : GenuineSync sampleCanary "run" boughtWorld exitCall ∧
      RecordsReports sampleCanary "run" boughtWorld exitCall := by
  have hgenuine : GenuineSync sampleCanary "run" boughtWorld exitCall := by decide +kernel
  have hrun : Run (syncStep sampleCanary "run") sampleWorld [(sampleWorld, buyCall)] boughtWorld :=
    .next .start rfl
  exact ⟨hgenuine, (broker_reports_recorded_iff sampleHash_tellsApart hrun sampleWorld_isUntouched
    hgenuine).mpr (by decide +kernel)⟩

def lateCall : SyncCall where
  now := 1
  source := firstSource "NORMAL" 100
  exchanges := List.replicate 5 { moves := [] } ++ [{ taken := ⟨"order", .accepted, 2⟩ }]
  life := none

/-- The order of the late buy is at the broker, and the sync stops instead of recording it. -/
theorem late_buy_unrecorded : sampleCanary.hash.TellsApart ∧
    ∃ (init w : World PaperStore) (taken : List (World PaperStore × SyncCall)) (call : SyncCall),
      Run (syncStep sampleCanary "run") init taken w ∧ init.IsUntouched ∧
      GenuineSync sampleCanary "run" w call ∧ ¬RecordsReports sampleCanary "run" w call := by
  have hstop : (syncOnce sampleCanary "run" lateCall.source lateCall.now
      (sampleWorld.enter lateCall)).1 = .error timestampFailure := by decide +kernel
  exact ⟨sampleHash_tellsApart, sampleWorld, sampleWorld, [], lateCall, .start,
    sampleWorld_isUntouched, by decide +kernel, fun hrecords => hrecords.1 hstop⟩

end AdaptiveQuant
