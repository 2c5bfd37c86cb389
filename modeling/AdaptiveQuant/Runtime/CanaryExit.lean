import AdaptiveQuant.Runtime.CanaryLoop

/-! The sells of a sync in `HARD_REDUCE` or `CRITICAL_EXIT`. -/

namespace AdaptiveQuant

open Guard Effect List

/-- What the broker makes of the orders that a loop submits: each takes a lookup and a
submission. -/
def acceptances : List Exchange → List Acceptance
  | _ :: x :: rest => x.taken :: acceptances rest
  | _ => []

variable (service : CanaryService) (binding : PaperBrokerBindingRow)

def Broker.HasPlanned
    (decision : PortfolioDecisionRow) (broker : Broker) (plan : CanaryOrderPlan) : Prop :=
  ∃ order ∈ broker.order? (planClientId service binding decision plan), order.HasTermsOf plan

/-- The planned order was not at the broker before and is there after. -/
def SubmittedNow
    (decision : PortfolioDecisionRow) (before after : Broker) (plan : CanaryOrderPlan) : Prop :=
  before.order? (planClientId service binding decision plan) = none ∧
    after.HasPlanned service binding decision plan

/-- The client order ids of the plans are new, their limit prices are positive, and the broker
stamps every order but the last by the time at which the sync started. -/
def Submittable
    (decision : PortfolioDecisionRow) (now : Instant) (broker : Broker) (taken : List Acceptance)
    (plans : List CanaryOrderPlan) : Prop :=
  (∀ plan ∈ plans, broker.order? (planClientId service binding decision plan) = none ∧
      0 < plan.limitPrice) ∧
    ∀ acceptance ∈ taken.take (plans.length - 1), acceptance.acceptedAt ≤ now

instance (service : CanaryService) (binding : PaperBrokerBindingRow)
    (decision : PortfolioDecisionRow) (now : Instant) (broker : Broker) (taken : List Acceptance)
    (plans : List CanaryOrderPlan) :
    Decidable (Submittable service binding decision now broker taken plans) :=
  inferInstanceAs (Decidable (_ ∧ _))

def FreshResults (store : PaperStore)
    (taken : List Acceptance) : Prop :=
  (taken.map fun acceptance => service.hash.stableId "alpaca-submit-result"
      [.str binding.bindingId, .str acceptance.brokerOrderId, .str acceptance.status.value,
        .decimal 0, .instant acceptance.acceptedAt]).Nodup ∧
    ∀ acceptance ∈ taken, ¬store.eventExists binding.bindingId
      (service.hash.stableId "alpaca-submit-result"
        [.str binding.bindingId, .str acceptance.brokerOrderId, .str acceptance.status.value,
          .decimal 0, .instant acceptance.acceptedAt])

instance (service : CanaryService) (binding : PaperBrokerBindingRow) (store : PaperStore)
    (taken : List Acceptance) : Decidable (FreshResults service binding store taken) :=
  inferInstanceAs (Decidable (_ ∧ _))

theorem Broker.order?_append_of_ne {broker : Broker} {order} {clientOrderId : String}
    (h : order.clientOrderId ≠ clientOrderId) :
    { broker with orders := broker.orders ++ [order] }.order? clientOrderId =
      broker.order? clientOrderId := by
  simp [Broker.order?, List.find?_append, h]

theorem Broker.order?_of_append {broker broker' : Broker} {added : List AlpacaPaperOrder}
    {order : AlpacaPaperOrder} {clientOrderId : String}
    (h : broker'.orders = broker.orders ++ added)
    (found : broker.order? clientOrderId = some order) :
    broker'.order? clientOrderId = some order := by
  have hfound : broker.orders.find? (·.clientOrderId = clientOrderId) = some order := found
  rw [Broker.order?, h, List.find?_append, hfound, Option.some_or]

section Loop

variable {service : CanaryService} {runId : String} {source : CanarySource}
  {binding : PaperBrokerBindingRow} {decision : PortfolioDecisionRow} {now : Instant}
  {plan other : CanaryOrderPlan} {plans : List CanaryOrderPlan} {w : World PaperStore}

theorem OrderPlans.planClientId_ne (h : OrderPlans (plan :: plans))
    (apart : service.hash.TellsApart) (hother : other ∈ plans) :
    planClientId service binding decision plan ≠ planClientId service binding decision other := by
  intro hsame
  have hsymbol := (apart.order _ _ _ _ _ _ (h.symbol plan mem_cons_self) _
    (h.symbol other (mem_cons_of_mem _ hother)) hsame).1
  exact (nodup_cons.mp h.distinct).1 (mem_map.mpr ⟨other, hother, hsymbol.symm⟩)

theorem order?_plannedOrder (h : OrderPlans (plan :: plans)) (apart : service.hash.TellsApart)
    (hother : other ∈ plans) (broker : Broker) (taken : Acceptance) :
    { broker with orders := broker.orders ++
        [plannedOrder service binding decision plan taken] }.order?
      (planClientId service binding decision other) =
      broker.order? (planClientId service binding decision other) :=
  Broker.order?_append_of_ne (h.planClientId_ne apart hother)

variable {broker : Broker}

theorem order?_self (taken : Acceptance)
    (unused : broker.order? (planClientId service binding decision plan) = none) :
    ({ broker with orders := broker.orders ++
      [plannedOrder service binding decision plan taken] }.order?
        (planClientId service binding decision plan)) =
      some (plannedOrder service binding decision plan taken) := by
  have hnone : broker.orders.find?
    (·.clientOrderId = planClientId service binding decision plan) = none := unused
  simp [Broker.order?, List.find?_append, hnone, plannedOrder]

theorem sendable_of_limit (h : OrderPlans (plan :: plans)) (limit : 0 < plan.limitPrice) :
    plan.IsSendable :=
  ⟨h.symbol plan mem_cons_self, h.quantity plan mem_cons_self, limit,
    h.reason plan mem_cons_self⟩

theorem exchanges_cons {exchanges : List Exchange} {n : ℕ} (h : 2 * (n + 1) ≤ exchanges.length) :
    ∃ x y rest, exchanges = x :: y :: rest ∧ 2 * n ≤ rest.length := by
  match exchanges, h with
  | x :: y :: rest, h =>
    refine ⟨x, y, rest, rfl, ?_⟩
    simp only [length_cons] at h
    omega

variable {x y : Exchange} {rest : List Exchange}

theorem Submittable.head
    (h : Submittable service binding decision now broker (acceptances (x :: y :: rest))
      (plan :: plans)) :
    broker.order? (planClientId service binding decision plan) = none ∧ 0 < plan.limitPrice ∧
      (plans = [] ∨ y.taken.acceptedAt ≤ now) := by
  obtain ⟨hunused, hlimit⟩ := h.1 plan mem_cons_self
  refine ⟨hunused, hlimit, ?_⟩
  cases plans with
  | nil => exact .inl rfl
  | cons next later => exact .inr (h.2 y.taken (by simp [acceptances]))

theorem Submittable.tail
    (h : Submittable service binding decision now broker (acceptances (x :: y :: rest))
      (plan :: plans)) (hplans : OrderPlans (plan :: plans)) (apart : service.hash.TellsApart) :
    Submittable service binding decision now
      { broker with orders := broker.orders ++
        [plannedOrder service binding decision plan y.taken] } (acceptances rest) plans := by
  constructor
  · intro other hother
    rw [order?_plannedOrder hplans apart hother]
    exact h.1 other (mem_cons_of_mem _ hother)
  · intro acceptance hacceptance
    refine h.2 acceptance ?_
    cases plans with
    | nil => simp at hacceptance
    | cons next later =>
      simp only [length_cons, Nat.add_sub_cancel] at hacceptance ⊢
      rw [acceptances, take_succ_cons]
      exact mem_cons_of_mem _ hacceptance

theorem FreshResults.tail {store store' : PaperStore}
    (h : FreshResults service binding store (acceptances (x :: y :: rest)))
    (keys : ∀ key, store'.eventExists binding.bindingId key →
      store.eventExists binding.bindingId key ∨
        key = resultKey service binding (plannedOrder service binding decision plan y.taken)) :
    FreshResults service binding store' (acceptances rest) := by
  obtain ⟨hdistinct, hnew⟩ := h
  simp only [acceptances, map_cons, nodup_cons] at hdistinct
  refine ⟨hdistinct.2, fun acceptance hacceptance hexists => ?_⟩
  rcases keys _ hexists with hold | hsame
  · exact hnew acceptance (mem_cons_of_mem _ hacceptance) hold
  · exact hdistinct.1 (mem_map.mpr ⟨acceptance, hacceptance, hsame⟩)

section

variable (apart : service.hash.TellsApart) (ready : Ready service runId binding w)
  (followed : decision.Followed service runId source) (hplans : OrderPlans plans)
  (calm : ∀ x ∈ w.exchanges, x.IsCalm) (enough : 2 * plans.length ≤ w.exchanges.length)

include apart ready followed hplans calm enough

theorem submitPlans_submits
    (submittable : Submittable service binding decision now w.broker (acceptances w.exchanges)
      plans) :
    ∃ outcome w' added, submitPlans service source binding decision now plans w = (outcome, w') ∧
      (outcome = .ok () ∨ outcome = .error timestampFailure) ∧
      w'.broker.orders = w.broker.orders ++ added ∧
      ∀ plan ∈ plans, w'.broker.HasPlanned service binding decision plan := by
  induction plans generalizing w with
  | nil => exact ⟨.ok (), w, [], rfl, .inl rfl, by simp, by simp⟩
  | cons plan rest ih =>
    obtain ⟨x, y, later, hx, hlater⟩ := exchanges_cons enough
    rw [hx] at calm submittable
    simp only [forall_mem_cons] at calm
    obtain ⟨hunused, hlimit, htime⟩ := submittable.head
    obtain ⟨outcome, store', hrun, hready, hresult⟩ := submitPlan_unused apart ready followed
      (sendable_of_limit hplans hlimit) hx calm.1 calm.2.1 hunused now
    have hfirst := order?_self y.taken hunused
    rcases hresult with ⟨-, rfl, -⟩ | ⟨hlate, rfl, -⟩
    · obtain ⟨outcome', w', added, hrest, houtcome, horders, hhas⟩ := ih
        (w := w.took store' later
          (plannedOrder service binding decision plan y.taken))
        ⟨hready.alive, hready.sound, hready.binding⟩ hplans.tail calm.2.2 hlater
        (submittable.tail hplans apart)
      refine ⟨outcome', w', plannedOrder service binding decision plan y.taken :: added,
        (bind_ok hrun).trans hrest, houtcome, by rw [horders]; simp, ?_⟩
      rw [forall_mem_cons]
      refine ⟨⟨_, Broker.order?_of_append horders hfirst, rfl, rfl, rfl, rfl⟩, hhas⟩
    · -- Only the last result may be late.
      have hlast : rest = [] := htime.resolve_right fun hontime => hlate (.inr hontime)
      subst hlast
      refine ⟨_, _, [plannedOrder service binding decision plan y.taken], bind_error hrun,
        .inr rfl, rfl, ?_⟩
      rw [forall_mem_cons]
      exact ⟨⟨_, hfirst, rfl, rfl, rfl, rfl⟩, by simp⟩

theorem submittable_of_submitPlans
    (fresh : FreshResults service binding w.store (acceptances w.exchanges))
    (submitted : ∀ plan ∈ plans, SubmittedNow service binding decision w.broker
      (submitPlans service source binding decision now plans w).2.broker plan) :
    Submittable service binding decision now w.broker (acceptances w.exchanges) plans := by
  induction plans generalizing w with
  | nil => exact ⟨by simp, by simp⟩
  | cons plan rest ih =>
    obtain ⟨x, y, later, hx, hlater⟩ := exchanges_cons enough
    rw [hx] at calm fresh ⊢
    simp only [forall_mem_cons] at calm
    have hrunEq : submitPlans service source binding decision now (plan :: rest) w =
        (submitPlan service source binding decision now plan >>= fun _ =>
          submitPlans service source binding decision now rest) w := rfl
    rw [hrunEq, forall_mem_cons] at submitted
    obtain ⟨⟨hunused, order, horder, hterms⟩, hrest⟩ := submitted
    have hlimit : 0 < plan.limitPrice := by
      by_contra hbad
      obtain ⟨failure, w', hrun, -, hbroker, -⟩ := submitPlan_unsendable ready.alive
        (hplans.symbol plan mem_cons_self) (not_lt.mp hbad) service source binding decision now
      rw [bind_error hrun, hbroker, hunused] at horder
      cases horder
    obtain ⟨outcome, store', hrun, hready, hresult⟩ := submitPlan_unused apart ready followed
      (sendable_of_limit hplans hlimit) hx calm.1 calm.2.1 hunused now
    rcases hresult with ⟨hcan, rfl, hkeys⟩ | ⟨hlate, rfl, -⟩
    · have hontime : y.taken.acceptedAt ≤ now :=
        hcan.resolve_left (fresh.2 y.taken mem_cons_self)
      rw [bind_ok hrun] at hrest
      obtain ⟨hfree, htimes⟩ := ih (w := w.took store' later
          (plannedOrder service binding decision plan y.taken))
        ⟨hready.alive, hready.sound, hready.binding⟩ hplans.tail calm.2.2 hlater
        (fresh.tail fun key => (hkeys key).mp) fun other hother => by
          refine ⟨?_, (hrest other hother).2⟩
          rw [order?_plannedOrder hplans apart hother]
          exact (hrest other hother).1
      constructor
      · rw [forall_mem_cons]
        exact ⟨⟨hunused, hlimit⟩, fun other hother =>
          ⟨(hrest other hother).1, (hfree other hother).2⟩⟩
      · cases rest with
        | nil => simp
        | cons next others =>
          rw [length_cons, Nat.add_sub_cancel, length_cons, acceptances,
            take_succ_cons, forall_mem_cons]
          exact ⟨hontime, by simpa using htimes⟩
    · rw [bind_error hrun] at hrest
      have hlast : rest = [] := by
        rw [eq_nil_iff_forall_not_mem]
        intro other hother
        obtain ⟨hfree, found, hfound, -⟩ := hrest other hother
        rw [order?_plannedOrder hplans apart hother, hfree] at hfound
        cases hfound
      subst hlast
      exact ⟨by simp [hunused, hlimit], by simp⟩

end

end Loop

/-- A sync that reconciled in `HARD_REDUCE` or `CRITICAL_EXIT`, has no order to wait for and fresh
quotes, and whose further requests the broker answers. -/
structure RiskExit (service : CanaryService) (runId : String) (w : World PaperStore)
    (call : SyncCall) (o : Observation) (w1 : World PaperStore) (decision : PortfolioDecisionRow)
    (plans : List CanaryOrderPlan) : Prop where
  alive : call.life = none
  observed : w.observed service runId call = (.ok o, w1)
  risk : o.risk = .hardReduce ∨ o.risk = .criticalExit
  planned : Planned service call.source call.now o decision plans
  calm : ∀ x ∈ w1.exchanges, x.IsCalm
  enough : 2 * plans.length ≤ w1.exchanges.length
  fresh : FreshResults service o.binding w1.store (acceptances w1.exchanges)

/-- Every plan sells and reaches the broker, without a conflict. -/
def SubmitsSells (runId : String) (w : World PaperStore)
    (call : SyncCall) (o : Observation) (w1 : World PaperStore) (decision : PortfolioDecisionRow)
    (plans : List CanaryOrderPlan) : Prop :=
  (∀ plan ∈ plans, plan.side = .sell ∧ SubmittedNow service o.binding decision w1.broker
      (w.synced service runId call).2.broker plan) ∧
    ∀ error, (syncOnce service runId call.source call.now (w.enter call)).1 =
      .error (.trading error) → error.conflict = false

section Exit

variable {service : CanaryService} {runId : String} {source : CanarySource} {now : Instant}
  {w : World PaperStore}

theorem sync_broker (service : CanaryService) (runId : String) (source : CanarySource)
    (now : Instant) (w : World PaperStore) :
    (sync service runId source now w).2.broker =
    (syncOnce service runId source now w).2.broker := by
  have hkeep : ∀ outcome, Keeps (Holds fun _ broker =>
      broker = (syncOnce service runId source now w).2.broker)
      (settleSync service runId now outcome) := by
    intro outcome
    unfold settleSync
    split
    · exact Keeps.pure _
    · split
      · exact Keeps.fail _
      · exact ((keeps_transactEvents fun _ _ _ h _ => h).attempt.bind fun _ =>
          Keeps.pure _).bind fun _ => Keeps.pure _
  rw [sync, bind_ok attempt_run]
  exact hkeep _ _ rfl

theorem recordReady_broker (service : CanaryService) (binding : PaperBrokerBindingRow)
    (now : Instant) (w : World PaperStore) :
    (recordReady service binding now w).2.broker = w.broker :=
  (keeps_transactEvents (J := fun _ broker => broker = w.broker) fun _ _ _ h _ => h) w rfl

theorem avoids_recordReady_trading (error : AlpacaPaperTradingError)
    (binding : PaperBrokerBindingRow) :
    Effect.Avoids (.trading error) (recordReady service binding now) :=
  avoids_transactEvents nofun fun _ => mapError_ne_error fun _ _ => nofun

variable {o : Observation} {w1 : World PaperStore}

theorem RiskExit.ready {call : SyncCall} {decision plans}
    (h : RiskExit service runId w call o w1 decision plans) (sound : w.store.Sound service runId) :
    Ready service runId o.binding w1 where
  alive := (observe_ok h.observed).alive h.alive
  sound := (sound_steady.observe call.source call.now).ok h.observed sound
  binding := (observe_ok h.observed).binding

theorem RiskExit.syncOnce_eq {call : SyncCall} {decision plans}
    (h : RiskExit service runId w call o w1 decision plans) :
    syncOnce service runId call.source call.now (w.enter call) =
      (submitPlans service call.source o.binding decision call.now plans >>= fun _ =>
        recordReady service o.binding call.now) w1 := by
  rw [syncOnce, bind_ok h.observed, h.planned.follow_eq]

theorem RiskExit.sync_broker_eq {call : SyncCall} {decision plans}
    (h : RiskExit service runId w call o w1 decision plans) :
    (w.synced service runId call).2.broker =
      (submitPlans service call.source o.binding decision call.now plans w1).2.broker := by
  rw [sync_broker, h.syncOnce_eq]
  rcases hrun : submitPlans service call.source o.binding decision call.now plans w1 with
    ⟨failure | ⟨⟩, w2⟩
  · rw [bind_error hrun]
  · rw [bind_ok hrun, recordReady_broker]

end Exit

/-- In every run, with any history of orders, a sync that is to reduce risk submits its planned
sells, without an order-identity conflict, exactly when their client order ids are new, their limit
prices positive, and every order but the last is stamped in time. -/
theorem risk_exit_submits_iff {service : CanaryService} {runId : String}
    {init w w1 : World PaperStore} {taken : List (World PaperStore × SyncCall)} {call : SyncCall}
    {o : Observation} {decision : PortfolioDecisionRow} {plans : List CanaryOrderPlan}
    (apart : service.hash.TellsApart) (run : Run (syncStep service runId) init taken w)
    (start : init.IsUntouched) (h : RiskExit service runId w call o w1 decision plans) :
    SubmitsSells service runId w call o w1 decision plans ↔
      Submittable service o.binding decision call.now w1.broker (acceptances w1.exchanges)
        plans := by
  have hready := h.ready (sound_of_run run start).1
  have hfollowed : decision.Followed service runId call.source := by
    refine latestDecision_followed ?_
    rw [← (observe_ok h.observed).decision]
    exact h.planned.latest
  have hplans := planOrders_plans h.planned.plans
  have hrisk : o.risk ≠ .normal := by
    rcases h.risk with hrisk | hrisk <;> rw [hrisk] <;> decide
  have hsells := planOrders_sells hrisk h.planned.plans
  constructor
  · intro hsubmits
    refine submittable_of_submitPlans apart hready hfollowed hplans h.calm h.enough h.fresh ?_
    intro plan hplan
    have hsubmitted := (hsubmits.1 plan hplan).2
    rwa [h.sync_broker_eq] at hsubmitted
  · intro hsubmittable
    obtain ⟨outcome, w2, added, hrun, houtcome, -, hhas⟩ :=
      submitPlans_submits apart hready hfollowed hplans h.calm h.enough hsubmittable
    constructor
    · intro plan hplan
      refine ⟨hsells plan hplan, (hsubmittable.1 plan hplan).1, ?_⟩
      rw [h.sync_broker_eq, hrun]
      exact hhas plan hplan
    · intro error herror
      rw [h.syncOnce_eq] at herror
      rcases houtcome with rfl | rfl
      · rw [bind_ok hrun] at herror
        exact (avoids_recordReady_trading error o.binding w2 herror).elim
      · rw [bind_error hrun] at herror
        cases herror

def orderTail (symbol : String) (side : OrderSide) : List Char :=
  ("symbol:" ++ symbol ++ ",side:" ++ side.value ++ ",").toList

theorem sampleHash_orderId (runId decisionId symbol : String) (side : OrderSide)
    (length : 12 ≤ (orderTail symbol side).length) :
    ((deterministicClientOrderId sampleHash runId decisionId symbol side).toList.drop 4).take 12 =
      (orderTail symbol side).reverse.take 12 := by
  have htext : (Canonical.dict [("lane", .str "ALPACA_PAPER_CANARY"), ("run_id", .str runId),
      ("source_decision_id", .str decisionId), ("symbol", .str symbol),
      ("side", .str side.value)]).json.toList =
      ("lane:ALPACA_PAPER_CANARY,run_id:" ++ runId ++ ",source_decision_id:" ++ decisionId ++
        ",").toList ++ orderTail symbol side := by
    simp [Canonical.dict, Canonical.json, orderTail]
  have hdrop : canaryPrefix.toList.length = 4 := by decide
  simp only [deterministicClientOrderId, sampleHash, htext, String.toList_append,
    String.toList_ofList, reverse_append, take_take]
  rw [drop_left' hdrop, take_take, take_append_of_le_length (by simpa using length)]
  rfl

theorem sampleHash_tellsApart : sampleHash.TellsApart where
  named tag values hempty := by
    have hlist := congrArg String.toList hempty
    simp [sampleHash, Hashing.json] at hlist
  tag tag tag' values values' htag htag' hsame := by
    have hlist := congrArg String.toList hsame
    simp only [sampleHash, Hashing.json, String.toList_append] at hlist
    refine String.toList_injective ?_
    have hcut : ∀ (a b : List Char), '_' ∉ a → (a ++ "_".toList ++ b).takeWhile (· ≠ '_') = a := by
      intro a b ha
      rw [append_assoc, takeWhile_append_of_pos]
      · simp
      · intro c hc
        simpa using fun heq : c = '_' => ha (heq ▸ hc)
    have htake := congrArg (List.takeWhile (· ≠ '_')) hlist
    rwa [hcut _ _ htag, hcut _ _ htag'] at htake
  command a b hsame := by
    have hlist := congrArg String.toList hsame
    exact String.toList_injective
      (by simpa [sampleHash, Hashing.json, Canonical.list, Canonical.json] using hlist)
  event bindingId a b hsame := by
    have hlist := congrArg String.toList hsame
    exact String.toList_injective
      (by simpa [sampleHash, Hashing.json, Canonical.list, Canonical.json] using hlist)
  fill bindingId a b hsame := by
    have hlist := congrArg String.toList hsame
    exact String.toList_injective
      (by simpa [sampleHash, Hashing.json, Canonical.list, Canonical.json] using hlist)
  order runId decisionId decisionId' side side' symbol hsymbol symbol' hsymbol' hsame := by
    have hlength : ∀ symbol ∈ alpacaPaperAllowedSymbols, ∀ side,
        12 ≤ (orderTail symbol side).length := by
      intro symbol hsymbol side
      cases side <;> revert symbol <;> decide
    have htail := congrArg (fun id => (id.toList.drop 4).take 12) hsame
    simp only [sampleHash_orderId _ _ _ _ (hlength symbol hsymbol side),
      sampleHash_orderId _ _ _ _ (hlength symbol' hsymbol' side')] at htail
    clear hsame
    revert symbol symbol'
    cases side <;> cases side' <;> decide

def exitCall : SyncCall where
  now := 3
  source := firstSource "CRITICAL_EXIT" 100
  exchanges := { moves := [.progress "order" .filled 50 (some 100) 2,
      .fill ⟨"bought", "order", "QQQ", .buy, 50, 100, 2⟩,
      .positions [⟨"QQQ", 50, 5000, 100, "long"⟩]] } ::
    List.replicate 4 { moves := [] } ++ [{ taken := ⟨"sell", .accepted, 3⟩ }]
  life := none

def exitedWorld : World PaperStore := (boughtWorld.synced sampleCanary "run" exitCall).2

def secondExitCall : SyncCall where
  now := 5
  source := firstSource "CRITICAL_EXIT" 100
  exchanges := { moves := [.progress "sell" .canceled 20 (some 100) 4,
      .fill ⟨"sold", "sell", "QQQ", .sell, 20, 100, 4⟩,
      .positions [⟨"QQQ", 30, 3000, 100, "long"⟩]] } ::
    List.replicate 4 { moves := [] } ++ [{ taken := ⟨"second", .accepted, 5⟩ }]
  life := none

/-- What makes a sync a `RiskExit`, for a call that can be evaluated. -/
def ExitsWith (runId : String) (w : World PaperStore) (call : SyncCall)
    (P : Observation → PortfolioDecisionRow → List CanaryOrderPlan → Prop) : Prop :=
  call.life = none ∧
    ∃ o ∈ (w.observed service runId call).1.toOption,
    ∃ decision ∈ o.decision,
    ∃ plans ∈ (planOrders service call.source o.account o.positions decision o.risk
      call.now).toOption,
    (o.risk = .hardReduce ∨ o.risk = .criticalExit) ∧
    activeMarketSession service call.source call.now ∧ call.now < decision.validUntil ∧
    ownedOpen o.commands o.openOrders = [] ∧
    (∀ x ∈ (w.observed service runId call).2.exchanges, x.IsCalm) ∧
    2 * plans.length ≤ (w.observed service runId call).2.exchanges.length ∧
    FreshResults service o.binding (w.observed service runId call).2.store
      (acceptances (w.observed service runId call).2.exchanges) ∧
    P o decision plans

instance (service : CanaryService) (runId : String) (w : World PaperStore) (call : SyncCall)
    (P : Observation → PortfolioDecisionRow → List CanaryOrderPlan → Prop)
    [∀ o decision plans, Decidable (P o decision plans)] :
    Decidable (ExitsWith service runId w call P) := inferInstanceAs (Decidable (_ ∧ _))

theorem toOption_mem {ε α : Type} {x : Except ε α} {a : α} (h : a ∈ x.toOption) : x = .ok a := by
  cases x with
  | error e => cases h
  | ok b =>
    cases h
    rfl

theorem ExitsWith.riskExit {service} {runId : String} {w} {call : SyncCall}
    {P : Observation → PortfolioDecisionRow → List CanaryOrderPlan → Prop}
    (h : ExitsWith service runId w call P) :
    ∃ o decision plans, RiskExit service runId w call o
      (w.observed service runId call).2 decision plans ∧
      P o decision plans := by
  obtain ⟨halive, o, ho, decision, hdecision, plans, hplans, hrisk, hsession, hvalid, hidle, hcalm,
    henough, hfresh, hP⟩ := h
  exact ⟨o, decision, plans, ⟨halive, Prod.ext (toOption_mem ho) rfl, hrisk,
    ⟨hdecision, hsession, hvalid, hidle, toOption_mem hplans⟩, hcalm, henough, hfresh⟩, hP⟩

theorem exitRun : Run (syncStep sampleCanary "run") sampleWorld
    [(sampleWorld, buyCall), (boughtWorld, exitCall)] exitedWorld :=
  .next (.next .start rfl) rfl

/-- The first exit sells the position. -/
theorem first_exit_submits : ∃ o decision plans, RiskExit sampleCanary "run" boughtWorld exitCall o
      (boughtWorld.observed sampleCanary "run" exitCall).2
      decision plans ∧ plans ≠ [] ∧
      SubmitsSells sampleCanary "run" boughtWorld exitCall o
        (boughtWorld.observed sampleCanary "run" exitCall).2
        decision plans := by
  have hexit : ExitsWith sampleCanary "run" boughtWorld exitCall fun o decision plans =>
      plans ≠ [] ∧ Submittable sampleCanary o.binding decision exitCall.now
        (boughtWorld.observed sampleCanary "run" exitCall).2.broker
        (acceptances (boughtWorld.observed sampleCanary "run" exitCall).2.exchanges) plans :=
          by decide +kernel
  obtain ⟨o, decision, plans, hrisk, hsome, hsubmittable⟩ := hexit.riskExit
  exact ⟨o, decision, plans, hrisk, hsome, (risk_exit_submits_iff sampleHash_tellsApart
    (.next .start rfl) sampleWorld_isUntouched hrisk).mpr hsubmittable⟩

/-- The second exit, for what the first one left, meets the first order and is blocked. -/
theorem second_exit_blocked : sampleCanary.hash.TellsApart ∧
    ∃ (init w : World PaperStore) (taken : List (World PaperStore × SyncCall)) (call : SyncCall)
      (o : Observation) (w1 : World PaperStore) (decision : PortfolioDecisionRow)
      (plans : List CanaryOrderPlan), Run (syncStep sampleCanary "run") init taken w ∧
      init.IsUntouched ∧ RiskExit sampleCanary "run" w call o w1 decision plans ∧
      ¬SubmitsSells sampleCanary "run" w call o w1 decision plans := by
  have hexit : ExitsWith sampleCanary "run" exitedWorld secondExitCall fun o decision plans =>
      ∃ plan ∈ plans, (exitedWorld.observed sampleCanary "run" secondExitCall).2.broker.order?
        (planClientId sampleCanary o.binding decision plan) ≠ none := by decide +kernel
  obtain ⟨o, decision, plans, hrisk, plan, hplan, hused⟩ := hexit.riskExit
  exact ⟨sampleHash_tellsApart, _, _, _, _, o, _, decision, plans, exitRun,
    sampleWorld_isUntouched, hrisk, fun hsubmits => hused (hsubmits.1 plan hplan).2.1⟩

end AdaptiveQuant
