import AdaptiveQuant.Runtime.CanaryCancel

/-! Whether the orders at the broker have the terms of their stored SUBMIT commands. -/

namespace AdaptiveQuant

open Guard Effect List

def PaperStore.IsSubmit (store : PaperStore) (clientOrderId : String)
    (command : PaperBrokerCommandRow) : Prop :=
  command ∈ store.commands ∧ command.commandType = .submit ∧
    command.clientOrderId = some clientOrderId

def PaperStore.Records (store : PaperStore) (clientOrderId : String) (quantity : Decimal)
    (limitPrice : Option Decimal) : Prop :=
  ∃ command, store.IsSubmit clientOrderId command ∧ command.quantity = quantity ∧
    command.limitPrice = limitPrice

/-- Every canary order has the terms of a stored SUBMIT, and so has every submission in flight,
unless its order is at the broker already. -/
structure Recorded (store : PaperStore) (broker : Broker) : Prop where
  orders : ∀ order ∈ broker.orders, isCanaryId order.clientOrderId = true →
    store.Records order.clientOrderId order.quantity order.limitPrice
  inFlight : ∀ request, .submit request ∈ broker.inFlight →
    store.Records request.val.clientOrderId request.val.quantity (some request.val.limitPrice) ∨
      broker.order? request.val.clientOrderId ≠ none

variable {clientOrderId : String}

theorem PaperStore.Records.mono {store store' : PaperStore} {quantity : Decimal} {limitPrice}
    (sub : ∀ command ∈ store.commands, command ∈ store'.commands)
    (h : store.Records clientOrderId quantity limitPrice) :
    store'.Records clientOrderId quantity limitPrice := by
  obtain ⟨command, ⟨hmem, htype, hclient⟩, hterms⟩ := h
  exact ⟨command, ⟨sub command hmem, htype, hclient⟩, hterms⟩

variable {broker : Broker}

theorem Recorded.mono {store store' : PaperStore}
    (sub : ∀ command ∈ store.commands, command ∈ store'.commands) (h : Recorded store broker) :
    Recorded store' broker where
  orders order horder hcanary := (h.orders order horder hcanary).mono sub
  inFlight request hrequest := (h.inFlight request hrequest).imp_left (·.mono sub)

theorem Broker.order?_ne_none : broker.order? clientOrderId ≠ none ↔
      ∃ order ∈ broker.orders, order.clientOrderId = clientOrderId := by
  simp [Broker.order?]

theorem Broker.order?_append {order} (h : broker.order? clientOrderId ≠ none) :
    { broker with orders := broker.orders ++ [order] }.order? clientOrderId ≠ none := by
  rw [Broker.order?_ne_none] at h ⊢
  obtain ⟨found, hmem, hclient⟩ := h
  exact ⟨found, mem_append_left _ hmem, hclient⟩

theorem Broker.order?_submit_ne_none {request} {taken : Acceptance}
    (h : broker.order? clientOrderId ≠ none) :
    (broker.submit request taken).2.order? clientOrderId ≠ none := by
  unfold Broker.submit
  split
  · exact h
  · exact Broker.order?_append h

variable {brokerOrderId : String}

theorem Broker.order?_cancel :
    (broker.cancel brokerOrderId).2.order? clientOrderId = broker.order? clientOrderId := by
  unfold Broker.cancel
  split
  · rfl
  · split <;> rfl

theorem Broker.order?_move {move : BrokerMove}
    (h : broker.order? clientOrderId ≠ none) : (broker.move move).order? clientOrderId ≠ none := by
  cases move with
  | account account => exact h
  | positions positions => exact h
  | fill activity => exact h
  | progress brokerOrderId status filledQuantity filledAveragePrice updatedAt =>
    rw [Broker.order?_ne_none] at h ⊢
    obtain ⟨order, hmem, hclient⟩ := h
    refine ⟨_, mem_map_of_mem hmem, ?_⟩
    split
    · exact hclient
    · exact hclient
  | foreign order =>
    unfold Broker.move
    simp only
    split
    · exact h
    · exact Broker.order?_append h
  | deliver index taken =>
    unfold Broker.move
    simp only
    split
    · exact h
    · rename_i message _
      cases message with
      | submit request => exact Broker.order?_submit_ne_none h
      | cancel brokerOrderId =>
        show (Broker.cancel _ brokerOrderId).2.order? clientOrderId ≠ none
        rw [Broker.order?_cancel]
        exact h

theorem Recorded.submit {store : PaperStore} {request : AlpacaPaperOrderRequest}
    {taken : Acceptance} (h : Recorded store broker)
    (terms : store.Records request.val.clientOrderId request.val.quantity
      (some request.val.limitPrice) ∨ broker.order? request.val.clientOrderId ≠ none) :
    Recorded store (broker.submit request taken).2 := by
  unfold Broker.submit
  split
  · exact h
  · rename_i hfree
    have hterms := terms.resolve_right fun hused => hused hfree
    constructor
    · intro order horder hcanary
      rcases mem_append.mp horder with hold | hnew
      · exact h.orders order hold hcanary
      · rw [mem_singleton.mp hnew]
        exact hterms
    · intro other hother
      exact (h.inFlight other hother).imp_right Broker.order?_append

theorem Recorded.cancel {store : PaperStore}
    (h : Recorded store broker) : Recorded store (broker.cancel brokerOrderId).2 := by
  unfold Broker.cancel
  split
  · exact h
  · split
    · exact ⟨h.orders, h.inFlight⟩
    · exact h

theorem Recorded.move {store : PaperStore} {move : BrokerMove}
    (h : Recorded store broker) : Recorded store (broker.move move) := by
  cases move with
  | account account => exact ⟨h.orders, h.inFlight⟩
  | positions positions => exact ⟨h.orders, h.inFlight⟩
  | fill activity => exact ⟨h.orders, h.inFlight⟩
  | progress brokerOrderId status filledQuantity filledAveragePrice updatedAt =>
    refine ⟨fun order horder hcanary => ?_, fun request hrequest =>
      (h.inFlight request hrequest).imp_right Broker.order?_move⟩
    obtain ⟨before, hbefore, rfl⟩ := mem_map.mp horder
    -- An order keeps its client order id and its terms as it goes on.
    revert hcanary
    split
    · exact h.orders before hbefore
    · exact h.orders before hbefore
  | foreign order =>
    unfold Broker.move
    simp only
    split
    · exact h
    · rename_i hforeign
      refine ⟨fun other hother hcanary => ?_, fun request hrequest =>
        (h.inFlight request hrequest).imp_right Broker.order?_append⟩
      rcases mem_append.mp hother with hold | hnew
      · exact h.orders other hold hcanary
      · rw [mem_singleton.mp hnew] at hcanary
        exact (hforeign hcanary).elim
  | deliver index taken =>
    unfold Broker.move
    simp only
    split
    · exact h
    · rename_i message hmessage
      have hrest : Recorded store { broker with inFlight := broker.inFlight.eraseIdx index } :=
        ⟨h.orders, fun request hrequest => h.inFlight request (mem_of_mem_eraseIdx hrequest)⟩
      cases message with
      | submit request => exact hrest.submit (h.inFlight request (mem_of_getElem? hmessage))
      | cancel brokerOrderId => exact hrest.cancel

theorem Recorded.post_cancel {store : PaperStore}
    (h : Recorded store broker) : Recorded store (broker.post (some (.cancel brokerOrderId))) := by
  refine ⟨h.orders, fun request hrequest => ?_⟩
  rcases mem_append.mp hrequest with hold | hnew
  · exact h.inFlight request hold
  · simp at hnew

theorem Recorded.post_submit {store : PaperStore}
    {request : AlpacaPaperOrderRequest} (h : Recorded store broker)
    (terms : store.Records request.val.clientOrderId request.val.quantity
      (some request.val.limitPrice) ∨ broker.order? request.val.clientOrderId ≠ none) :
    Recorded store (broker.post (some (.submit request))) := by
  refine ⟨h.orders, fun other hother => ?_⟩
  rcases mem_append.mp hother with hold | hnew
  · exact h.inFlight other hold
  · obtain rfl : other = request := by simpa using hnew
    exact terms

variable {service : CanaryService} {runId : String}

theorem recorded_steady : Steady service runId Recorded where
  moves _ _ _ h := h.move
  event _ _ _ _ _ _ _ _ h := ⟨h.orders, h.inFlight⟩
  bind _ _ _ _ _ h := ⟨h.orders, h.inFlight⟩

theorem recorded_quiet : Quiet service runId Recorded where
  moves _ _ _ h := h.move
  event _ _ _ _ _ _ _ _ h := ⟨h.orders, h.inFlight⟩
  command _ _ _ _ _ _ _ h := h.mono fun _ => mem_append_left _
  post _ _ _ h := h.post_cancel
  cancel _ _ _ h := h.cancel

section Submissions

variable {service : CanaryService} {runId : String} {source : CanarySource}
  {binding : PaperBrokerBindingRow} {decision : PortfolioDecisionRow} {now : Instant}
  {plan : CanaryOrderPlan} {store store' : PaperStore} {w w' : World PaperStore}

theorem submitKey_inj {bindingId a b : String}
    (h : "SUBMIT:" ++ bindingId ++ ":" ++ a = "SUBMIT:" ++ bindingId ++ ":" ++ b) : a = b := by
  refine String.toList_injective ?_
  have hlist := congrArg String.toList h
  simp only [String.toList_append] at hlist
  exact append_cancel_left hlist

variable {command : PaperBrokerCommandRow}

theorem ensureSubmit_ok (sound : store.Sound service runId)
    (ok : ensureCommand service source (plannedRow service binding decision plan now) store =
      .ok (command, store')) :
    (store' = store ∧ store.IsSubmit (planClientId service binding decision plan) command) ∨
      (command = plannedRow service binding decision plan now ∧
        store' = { store with commands := store.commands ++ [command] }) := by
  rcases ensureCommand_ok ok with ⟨rfl, hmem, htype, hbinding, hkey⟩ | ⟨rfl, rfl, -⟩
  · obtain ⟨clientOrderId, hclient, -, hsubmitKey⟩ := sound.submit_key hmem htype
    rw [hsubmitKey, hbinding] at hkey
    rw [← submitKey_inj hkey]
    exact .inl ⟨rfl, hmem, htype, hclient⟩
  · exact .inr ⟨rfl, rfl⟩

def TermsAgree (service : CanaryService) (binding : PaperBrokerBindingRow)
    (decision : PortfolioDecisionRow) (store : PaperStore) (broker : Broker)
    (plans : List CanaryOrderPlan) : Prop :=
  ∀ plan ∈ plans, ∀ command, store.IsSubmit (planClientId service binding decision plan) command →
    (command.quantity = plan.quantity ∧ command.limitPrice = some plan.limitPrice) ∨
      broker.order? (planClientId service binding decision plan) ≠ none

instance (service : CanaryService) (binding : PaperBrokerBindingRow)
    (decision : PortfolioDecisionRow) (store : PaperStore) (broker : Broker)
    (plans : List CanaryOrderPlan) :
    Decidable (TermsAgree service binding decision store broker plans) :=
  decidable_of_iff (∀ plan ∈ plans, ∀ command ∈ store.commands, command.commandType = .submit →
      command.clientOrderId = some (planClientId service binding decision plan) →
      (command.quantity = plan.quantity ∧ command.limitPrice = some plan.limitPrice) ∨
        broker.order? (planClientId service binding decision plan) ≠ none)
    (by simp only [TermsAgree, PaperStore.IsSubmit, and_imp])

theorem placeOrder_recorded (h : Recorded w.store w.broker)
    (terms : w.store.Records (planClientId service binding decision plan) plan.quantity
      (some plan.limitPrice) ∨
      w.broker.order? (planClientId service binding decision plan) ≠ none) :
    Holds Recorded (placeOrder service binding decision now plan command w).2 := by
  have hkeep : Keeps (Holds fun store broker => Recorded store broker ∧
      (store.Records (planClientId service binding decision plan) plan.quantity
        (some plan.limitPrice) ∨
      broker.order? (planClientId service binding decision plan) ≠ none))
      (placeOrder service binding decision now plan command) := by
    refine keeps_placeOrder (fun _ _ _ h => ⟨h.1.move, h.2.imp_right Broker.order?_move⟩)
      (fun _ _ _ _ _ _ _ _ h => ⟨⟨h.1.orders, h.1.inFlight⟩, h.2⟩) ?_ ?_
    · intro request hrequest store broker h
      exact ⟨h.1.post_submit (by rw [hrequest]; exact h.2), h.2⟩
    · intro request hrequest store broker taken h
      exact ⟨h.1.submit (by rw [hrequest]; exact h.2),
        h.2.imp_right Broker.order?_submit_ne_none⟩
  exact (hkeep w ⟨h, terms⟩).1

theorem placeOrder_ok (h : placeOrder service binding decision now plan command w = (.ok (), w')) :
    w'.store.commands = w.store.commands ∧
      w'.broker.order? (planClientId service binding decision plan) ≠ none ∧
      ∀ clientOrderId, w.broker.order? clientOrderId ≠ none →
        w'.broker.order? clientOrderId ≠ none := by
  have hcommands : Keeps (Holds fun store _ => store.commands = w.store.commands)
      (placeOrder service binding decision now plan command) :=
    keeps_placeOrder (fun _ _ _ h => h) (fun _ _ _ _ _ _ _ _ h => h) (fun _ _ _ _ h => h)
      fun _ _ _ _ _ h => h
  have horders : ∀ clientOrderId, Keeps
      (Holds fun (_ : PaperStore) broker => broker.order? clientOrderId ≠ none)
      (placeOrder service binding decision now plan command) := fun clientOrderId =>
    keeps_placeOrder (fun _ _ _ h => Broker.order?_move h) (fun _ _ _ _ _ _ _ _ h => h)
      (fun _ _ _ _ h => h) fun _ _ _ _ _ h => Broker.order?_submit_ne_none h
  refine ⟨hcommands.ok h rfl, ?_, fun clientOrderId => (horders clientOrderId).ok h⟩
  simp only [placeOrder, bind_run_eq_ok, ofExcept_run, Prod.mk.injEq] at h
  obtain ⟨request, w1, ⟨hrequest, rfl⟩, order, w2, horder, hevent⟩ := h
  have hterms : request.val = planTerms service binding decision plan :=
    validate_eq_ok.mp (mapError_eq_ok.mp hrequest)
  obtain ⟨life, store', -, -, rfl⟩ := transact_ok hevent
  have hfound := ensureSubmitted_ok horder
  rw [hterms] at hfound
  exact hfound ▸ Option.some_ne_none order

theorem ensureSubmit_terms {plans : List CanaryOrderPlan}
    {broker : Broker} (sound : store.Sound service runId)
    (agree : TermsAgree service binding decision store broker (plan :: plans))
    (ok : ensureCommand service source (plannedRow service binding decision plan now) store =
      .ok (command, store')) :
    store'.Records (planClientId service binding decision plan) plan.quantity
        (some plan.limitPrice) ∨
      broker.order? (planClientId service binding decision plan) ≠ none := by
  rcases ensureSubmit_ok sound ok with ⟨rfl, hstored⟩ | ⟨rfl, rfl⟩
  · rcases agree plan mem_cons_self command hstored with hterms | hplaced
    · exact .inl ⟨command, hstored, hterms⟩
    · exact .inr hplaced
  · exact .inl ⟨_, ⟨mem_append_right _ mem_cons_self, rfl, rfl⟩, rfl, rfl⟩

theorem ensureSubmit_recorded {broker : Broker}
    (sound : store.Sound service runId) (h : Recorded store broker)
    (ok : ensureCommand service source (plannedRow service binding decision plan now) store =
      .ok (command, store')) :
    Recorded store' broker := by
  rcases ensureSubmit_ok sound ok with ⟨rfl, -⟩ | ⟨-, rfl⟩
  · exact h
  · exact h.mono fun _ => mem_append_left _

theorem TermsAgree.after {plans : List CanaryOrderPlan} (sound : w.store.Sound service runId)
    (agree : TermsAgree service binding decision w.store w.broker (plan :: plans))
    (ok : ensureCommand service source (plannedRow service binding decision plan now) w.store =
      .ok (command, store'))
    (commands : w'.store.commands = store'.commands)
    (placed : w'.broker.order? (planClientId service binding decision plan) ≠ none)
    (orders : ∀ clientOrderId, w.broker.order? clientOrderId ≠ none →
      w'.broker.order? clientOrderId ≠ none) :
    TermsAgree service binding decision w'.store w'.broker plans := by
  rintro other hother row ⟨hrow, htype, hclient⟩
  rw [commands] at hrow
  rcases ensureSubmit_ok sound ok with ⟨rfl, -⟩ | ⟨rfl, rfl⟩
  · exact (agree other (mem_cons_of_mem _ hother) row ⟨hrow, htype, hclient⟩).imp_right
      (orders _)
  · rcases mem_append.mp hrow with hold | hnew
    · exact (agree other (mem_cons_of_mem _ hother) row ⟨hold, htype, hclient⟩).imp_right
        (orders _)
    · -- The new SUBMIT is the one of the order that was just placed.
      rw [mem_singleton.mp hnew] at hclient
      right
      rw [← Option.some.inj hclient]
      exact placed

theorem submitPlans_recorded (hrun : binding.runId = runId) {plans}
    (sound : w.store.Sound service runId) (h : Recorded w.store w.broker)
    (agree : TermsAgree service binding decision w.store w.broker plans) :
    Holds Recorded (submitPlans service source binding decision now plans w).2 := by
  induction plans generalizing w with
  | nil => exact h
  | cons plan rest ih =>
    show Holds Recorded ((submitPlan service source binding decision now plan >>= fun _ =>
      submitPlans service source binding decision now rest) w).2
    rcases hensure : transact (ensureCommand service source
        (plannedRow service binding decision plan now)) w with ⟨failure | command, w1⟩
    · have hplan : submitPlan service source binding decision now plan w = (.error failure, w1) :=
        bind_error hensure
      rw [bind_error hplan]
      obtain ⟨hstore, hbroker⟩ := transact_error hensure
      show Recorded w1.store w1.broker
      rw [hstore, hbroker]
      exact h
    · have hplan : submitPlan service source binding decision now plan w =
          placeOrder service binding decision now plan command w1 := bind_ok hensure
      obtain ⟨life, store', -, hok, rfl⟩ := transact_ok hensure
      have hplace : Holds Recorded
          (placeOrder service binding decision now plan command
            { w with store := store', life }).2 :=
        placeOrder_recorded (ensureSubmit_recorded sound h hok) (ensureSubmit_terms sound agree hok)
      rcases hplaced : placeOrder service binding decision now plan command
        { w with store := store', life } with ⟨failure | ⟨⟩, w2⟩
      · rw [bind_error (hplan.trans hplaced)]
        rwa [hplaced] at hplace
      · rw [bind_ok (hplan.trans hplaced)]
        rw [hplaced] at hplace
        obtain ⟨hcommands, hnew, horders⟩ := placeOrder_ok hplaced
        have hsound : w2.store.Sound service runId :=
          (keeps_submitPlan_sound source hrun decision now plan).ok (hplan.trans hplaced) sound
        exact ih hsound hplace (agree.after sound hok hcommands hnew horders)

end Submissions

/-- Whenever a sync plans an order whose SUBMIT is stored, the plan has its quantity and limit
price, or the broker has the order. -/
def RepeatsTerms (service : CanaryService) (runId : String) (w : World PaperStore)
    (call : SyncCall) : Prop :=
  ∀ o ∈ (w.observed service runId call).1.toOption,
    ∀ decision ∈ o.decision, activeMarketSession service call.source call.now →
    call.now < decision.validUntil → ownedOpen o.commands o.openOrders = [] →
    ∀ plans ∈ (planOrders service call.source o.account o.positions decision o.risk
      call.now).toOption,
    TermsAgree service o.binding decision w.store (w.observed service runId call).2.broker plans

instance (service : CanaryService) (runId : String) (w : World PaperStore) (call : SyncCall) :
    Decidable (RepeatsTerms service runId w call) :=
  inferInstanceAs (Decidable (∀ o ∈ (w.observed service runId call).1.toOption, _))

/-- The order has a SUBMIT, and every SUBMIT of it has its terms. -/
def PaperStore.HasTermsOf (store : PaperStore) (order : AlpacaPaperOrder) : Prop :=
  (∃ command, store.IsSubmit order.clientOrderId command) ∧
    ∀ command, store.IsSubmit order.clientOrderId command →
      command.quantity = order.quantity ∧ command.limitPrice = order.limitPrice

theorem syncStep_recorded {w w'} {call : SyncCall}
    (h : w.store.Sound service runId ∧ Recorded w.store w.broker)
    (repeats : RepeatsTerms service runId w call) (ok : syncStep service runId w call = .ok w') :
    w'.store.Sound service runId ∧ Recorded w'.store w'.broker := by
  refine ⟨syncStep_sound h.1 ok, ?_⟩
  cases ok
  refine recorded_quiet.sync (recorded_quiet.syncOnce recorded_steady h.2
    fun o w1 decision plans hobserve hw1 hplanned => ?_)
  have hobserved := observe_ok hobserve
  have hsound : w1.store.Sound service runId :=
    (sound_steady.observe call.source call.now).ok hobserve h.1
  refine submitPlans_recorded hobserved.run hsound hw1 ?_
  change w.observed service runId call = _ at hobserve
  have hseen : o ∈ (w.observed service runId call).1.toOption := by
    rw [hobserve]
    rfl
  have hplans : plans ∈ (planOrders service call.source o.account o.positions decision o.risk
      call.now).toOption := by
    rw [hplanned.plans]
    rfl
  have hagree := repeats o hseen decision hplanned.latest hplanned.session hplanned.unexpired
    hplanned.idle plans hplans
  rw [hobserve] at hagree
  rintro plan hplan command ⟨hcommand, hkind⟩
  rw [hobserved.stored] at hcommand
  exact hagree plan hplan command ⟨hcommand, hkind⟩

/-- In every run, with any broker, network and crashes, whose syncs only ever repeat the stored
terms of a submission that did not get through, every canary order at the broker has the quantity
and the limit price of its stored SUBMIT. -/
theorem canary_orders_have_stored_terms {service : CanaryService} {runId : String}
    {init w : World PaperStore} {taken : List (World PaperStore × SyncCall)}
    (run : Run (syncStep service runId) init taken w) (start : init.IsUntouched)
    (repeats : ∀ x ∈ taken, RepeatsTerms service runId x.1 x.2) :
    ∀ order ∈ w.broker.orders, isCanaryId order.clientOrderId = true →
      w.store.HasTermsOf order := by
  have hstart : init.store.Sound service runId ∧ Recorded init.store init.broker := by
    refine ⟨start.1 ▸ PaperStore.Sound.empty, ?_, ?_⟩
    · intro order horder hcanary
      rw [start.2.1 order horder] at hcanary
      cases hcanary
    · intro request hrequest
      rw [start.2.2] at hrequest
      cases hrequest
  obtain ⟨hsound, hrecorded⟩ := run.inv_when hstart
    (fun _ _ _ h hrepeats ok => syncStep_recorded h hrepeats ok) repeats
  intro order horder hcanary
  obtain ⟨command, hcommand, hquantity, hlimit⟩ := hrecorded.orders order horder hcanary
  refine ⟨⟨command, hcommand⟩, fun other hother => ?_⟩
  rw [hsound.submit_unique hother.1 hcommand.1 hother.2.1 hcommand.2.1
    (hother.2.2.trans hcommand.2.2.symm)]
  exact ⟨hquantity, hlimit⟩

/-- The first decision buys QQQ, and the submission times out before it reaches the broker. -/
def lostBuyCall : SyncCall where
  now := 1
  source := firstSource "NORMAL" 100
  exchanges := List.replicate 5 { moves := [] } ++ [{ fate := .failed .timeout false }] ++
    List.replicate 3 { moves := [] }
  life := none

def lostBuyWorld : World PaperStore := (sampleWorld.synced sampleCanary "run" lostBuyCall).2

def rebuyCall (price : Decimal) : SyncCall where
  now := 2
  source := firstSource "NORMAL" price
  exchanges := answeredExchanges 5 "order"
  life := none

def reboughtWorld (price : Decimal) : World PaperStore :=
  (sync sampleCanary "run" (rebuyCall price).source (rebuyCall price).now
    (lostBuyWorld.enter (rebuyCall price))).2

theorem rebuyRun (price : Decimal) : Run (syncStep sampleCanary "run") sampleWorld
    [(sampleWorld, lostBuyCall), (lostBuyWorld, rebuyCall price)] (reboughtWorld price) :=
  .next (.next .start rfl) rfl

/-- At the old price the second submission repeats the first. -/
theorem rebuy_at_same_price : ((reboughtWorld 100).broker.orders.length = 1 ∧
      ∀ order ∈ (reboughtWorld 100).broker.orders, isCanaryId order.clientOrderId = true) ∧
    ∀ order ∈ (reboughtWorld 100).broker.orders, isCanaryId order.clientOrderId = true →
      (reboughtWorld 100).store.HasTermsOf order := by
  refine ⟨by decide +kernel,
    canary_orders_have_stored_terms (rebuyRun 100) sampleWorld_isUntouched ?_⟩
  intro x hx
  rcases mem_cons.mp hx with rfl | hx
  · decide +kernel
  · rw [mem_singleton.mp hx]
    decide +kernel

/-- At another price the broker takes an order that no SUBMIT records. -/
theorem rebuy_at_new_price_unrecorded :
    ∃ (init w : World PaperStore) (taken : List (World PaperStore × SyncCall)),
      Run (syncStep sampleCanary "run") init taken w ∧ init.IsUntouched ∧
      ∃ order ∈ w.broker.orders, isCanaryId order.clientOrderId = true ∧
        ¬w.store.HasTermsOf order := by
  refine ⟨_, _, _, rebuyRun 110, sampleWorld_isUntouched, ?_⟩
  have hdiffer : ∃ order ∈ (reboughtWorld 110).broker.orders,
      isCanaryId order.clientOrderId = true ∧
      ∃ command ∈ (reboughtWorld 110).store.commands, command.commandType = .submit ∧
        command.clientOrderId = some order.clientOrderId ∧
        command.quantity ≠ order.quantity := by decide +kernel
  obtain ⟨order, horder, hcanary, command, hcommand, htype, hclient, hquantity⟩ := hdiffer
  exact ⟨order, horder, hcanary, fun hterms =>
    hquantity (hterms.2 command ⟨hcommand, htype, hclient⟩).1⟩

end AdaptiveQuant
