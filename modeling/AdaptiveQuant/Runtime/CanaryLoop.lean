import AdaptiveQuant.Runtime.CanaryEvents
import AdaptiveQuant.Runtime.CanarySubmit
import AdaptiveQuant.Runtime.PlannedOrders
import Mathlib.Tactic.MkIffOfInductiveProp

/-! One pass of `_submit_plans` while the broker answers. -/

namespace AdaptiveQuant

open Guard Effect List

def AlpacaOrderStatus.IsSupported (status : AlpacaOrderStatus) : Prop :=
  (status.isOpen || status.isTerminal) = true

instance (status : AlpacaOrderStatus) : Decidable status.IsSupported :=
  inferInstanceAs (Decidable (_ = true))

theorem AlpacaOrderStatus.IsSupported.value_ne_empty {status : AlpacaOrderStatus}
    (h : status.IsSupported) : status.value ≠ "" := by
  cases status <;> first | decide | cases h

theorem parseOrder_of_supported {order : AlpacaPaperOrder} (h : order.status.IsSupported) :
    parseOrder order = .ok order := if_pos h

/-- The broker answers the request and does nothing else meanwhile. -/
def Exchange.IsCalm (x : Exchange) : Prop :=
  x.moves = [] ∧ x.fate = .answered ∧ x.taken.status.IsSupported

instance (x : Exchange) : Decidable x.IsCalm :=
  decidable_of_iff (x.moves.isEmpty = true ∧ x.fate = .answered ∧ x.taken.status.IsSupported)
    (by rw [Exchange.IsCalm, List.isEmpty_iff])

section Requests

variable {τ : Type} {w : World τ} {x : Exchange} {rest : List Exchange}

theorem World.next_calm (hx : w.exchanges = x :: rest) (calm : x.IsCalm) :
    w.exchange = x ∧ w.next = { w with exchanges := rest } := by
  have hexchange : w.exchange = x := by rw [World.exchange, hx, headD_cons]
  refine ⟨hexchange, ?_⟩
  rw [World.next, hexchange, calm.1, hx]
  rfl

theorem request_calm {α : Type} {message : Option BrokerMessage}
    {handle : Broker → Acceptance → Except AlpacaPaperTradingError α × Broker}
    (alive : w.life = none) (hx : w.exchanges = x :: rest) (calm : x.IsCalm) :
    request message handle w = ((handle w.broker x.taken).1.mapError .trading,
      { w with exchanges := rest, broker := (handle w.broker x.taken).2 }) := by
  obtain ⟨hexchange, hnext⟩ := World.next_calm hx calm
  rw [request_answered alive (by rw [hexchange]; exact calm.2.1), hexchange, hnext]

theorem getOrderByClientId_calm {clientOrderId : String} (alive : w.life = none)
    (hx : w.exchanges = x :: rest) (calm : x.IsCalm)
    (supported : ∀ order ∈ w.broker.order? clientOrderId, order.status.IsSupported) :
    getOrderByClientId clientOrderId w =
      (.ok (w.broker.order? clientOrderId), { w with exchanges := rest }) := by
  have hquery : attempt (query fun broker => broker.answerOrder clientOrderId) w =
      (.ok ((w.broker.answerOrder clientOrderId).mapError .trading),
        { w with exchanges := rest }) := by
    rw [attempt_run, query, request_calm alive hx calm]
  rw [getOrderByClientId, bind_ok hquery, Broker.answerOrder]
  cases horder : w.broker.order? clientOrderId with
  | none => rfl
  | some order =>
    show missingOrder ((parseOrder order).mapError .trading) _ = _
    rw [parseOrder_of_supported (supported order horder)]
    rfl

theorem submitOrder_calm {request : AlpacaPaperOrderRequest} (alive : w.life = none)
    (hx : w.exchanges = x :: rest) (calm : x.IsCalm)
    (unused : w.broker.order? request.val.clientOrderId = none) :
    submitOrder request w = (.ok (x.taken.order request), { w with
      exchanges := rest
      broker := { w.broker with orders := w.broker.orders ++ [x.taken.order request] } }) := by
  have hparse : parseOrder (x.taken.order request) = .ok (x.taken.order request) :=
    parseOrder_of_supported calm.2.2
  rw [submitOrder, request_calm alive hx calm]
  simp only [Broker.submit, unused, hparse]
  rfl

theorem sameOrder_new (taken : Acceptance) (request : AlpacaPaperOrderRequest) :
    sameOrder (taken.order request) request w = (.ok (taken.order request), w) := by
  have hsame : requireSameOrder (taken.order request) request = .ok () := by
    simp [requireSameOrder, Acceptance.order]
  rw [sameOrder, hsame]
  rfl

theorem ensureSubmitted_unused {request} {y : Exchange} (attempts : ℕ) (alive : w.life = none)
    (hx : w.exchanges = x :: y :: rest) (calm : x.IsCalm) (calm' : y.IsCalm)
    (unused : w.broker.order? request.val.clientOrderId = none) :
    ensureSubmitted attempts request w = (.ok (y.taken.order request), { w with
      exchanges := rest
      broker := { w.broker with orders := w.broker.orders ++ [y.taken.order request] } }) := by
  have hlookup := getOrderByClientId_calm alive hx calm (by rw [unused]; simp)
  have hsubmit := submitOrder_calm (w := { w with exchanges := y :: rest }) alive rfl calm' unused
  have hattempt : attempt (submitOrder request) { w with exchanges := y :: rest } =
      (.ok (.ok (y.taken.order request)), { w with
        exchanges := rest
        broker := { w.broker with orders := w.broker.orders ++ [y.taken.order request] } }) := by
    rw [attempt_run, hsubmit]
  rw [ensureSubmitted, bind_ok hlookup, unused]
  simp only
  rw [bind_ok hattempt]
  exact sameOrder_new y.taken request

theorem ensureSubmitted_used {request order} (attempts : ℕ) (alive : w.life = none)
    (hx : w.exchanges = x :: rest) (calm : x.IsCalm)
    (used : w.broker.order? request.val.clientOrderId = some order)
    (supported : order.status.IsSupported) :
    ensureSubmitted attempts request w =
      sameOrder order request { w with exchanges := rest } := by
  have hsupported : ∀ found ∈ w.broker.order? request.val.clientOrderId,
      found.status.IsSupported := by
    rw [used]
    intro found hfound
    cases hfound
    exact supported
  rw [ensureSubmitted, bind_ok (getOrderByClientId_calm alive hx calm hsupported), used]

end Requests

/-- A sync that goes on to submit: the process lives, its store is sound, and it has a binding. -/
structure Ready (service : CanaryService) (runId : String) (binding : PaperBrokerBindingRow)
    (w : World PaperStore) : Prop where
  alive : w.life = none
  sound : w.store.Sound service runId
  binding : binding ∈ w.store.bindings

theorem Ready.made {service} {runId : String} {binding w} (h : Ready service runId binding w) :
    binding.Made service runId :=
  h.sound.bindings binding h.binding

structure PortfolioDecisionRow.Followed (service : CanaryService) (runId : String)
    (source : CanarySource) (decision : PortfolioDecisionRow) : Prop where
  stored : decision ∈ source.decisions
  run : decision.runId = runId
  arm : decision.armId = service.config.val.sourceArm.value

theorem latestDecision_followed {service source} {runId : String} {decision}
    (h : latestDecision service source runId = some decision) :
    decision.Followed service runId source := by
  have hmem := mem_of_getLast? h
  rw [Sequence.mem_sortedBy, mem_filter, decide_eq_true_eq] at hmem
  exact ⟨hmem.1, hmem.2.1, hmem.2.2.1⟩

structure CanaryOrderPlan.IsSendable (plan : CanaryOrderPlan) : Prop where
  symbol : plan.symbol ∈ alpacaPaperAllowedSymbols
  quantity : 0 < plan.quantity
  limit : 0 < plan.limitPrice
  reason : plan.reason ≠ ""

theorem length_deterministicClientOrderId (hash : Hashing) (runId decisionId symbol : String)
    (side : OrderSide) :
    0 < (deterministicClientOrderId hash runId decisionId symbol side).length ∧
      (deterministicClientOrderId hash runId decisionId symbol side).length ≤ 128 := by
  have htake := length_take_le 32 (hash.canonicalHash (.dict
    [("lane", .str "ALPACA_PAPER_CANARY"), ("run_id", .str runId),
      ("source_decision_id", .str decisionId), ("symbol", .str symbol),
      ("side", .str side.value)])).toList
  have hinitial : canaryPrefix.length = 4 := by decide
  simp only [deterministicClientOrderId, String.length_append, String.length_ofList, hinitial]
  omega

section Submission

variable {service : CanaryService} {runId : String} {source : CanarySource}
  {binding : PaperBrokerBindingRow} {decision : PortfolioDecisionRow} {now : Instant}
  {plan : CanaryOrderPlan} {w : World PaperStore}

theorem planRequest_ok (service : CanaryService) (binding : PaperBrokerBindingRow)
    (decision : PortfolioDecisionRow) (sendable : plan.IsSendable) :
    ∃ request : AlpacaPaperOrderRequest, request.val = planTerms service binding decision plan ∧
      validate AlpacaPaperOrderTerms.check (planTerms service binding decision plan) =
        .ok request := by
  obtain ⟨htype, htime, hhours⟩ := orderTerms_eq service.config
  obtain ⟨hpositive, hlength⟩ := length_deterministicClientOrderId service.hash binding.runId
    decision.portfolioDecisionId plan.symbol plan.side
  have hcheck : (planTerms service binding decision plan).check = .ok () := by
    simp only [AlpacaPaperOrderTerms.check, ok_iff, not_not, not_or, not_le, not_lt]
    refine ⟨sendable.symbol, ⟨sendable.quantity, sendable.limit⟩, ⟨htype, htime⟩,
      by simpa [planTerms] using hhours, fun hempty => ?_, hlength⟩
    have hid : deterministicClientOrderId service.hash binding.runId decision.portfolioDecisionId
      plan.symbol plan.side = "" := hempty
    rw [hid] at hpositive
    exact absurd hpositive (by decide)
  exact ⟨_, rfl, validate_of_ok hcheck⟩

structure SubmitOf (service : CanaryService) (binding : PaperBrokerBindingRow)
    (decision : PortfolioDecisionRow) (plan : CanaryOrderPlan) (store : PaperStore)
    (command : PaperBrokerCommandRow) : Prop where
  stored : command ∈ store.commands
  client : command.clientOrderId = some (planClientId service binding decision plan)
  broker : command.brokerOrderId = none
  symbol : command.symbol = plan.symbol
  side : command.side = plan.side

theorem submitRow_validate (apart : service.hash.TellsApart) (ready : Ready service runId binding w)
    (followed : decision.Followed service runId source) (sendable : plan.IsSendable) :
    (plannedRow service binding decision plan now).validate = .ok () := by
  obtain ⟨hid, hrun, hmanifest, hcode⟩ := ready.made.named
  have hlength := (length_deterministicClientOrderId service.hash binding.runId
    decision.portfolioDecisionId plan.symbol plan.side).2
  simp only [PaperBrokerCommandRow.validate, ok_iff, requireStrings_eq_ok, forall_mem_cons,
    not_mem_nil, IsEmpty.forall_iff, implies_true, and_true, not_not]
  refine ⟨⟨apart.named _ _, hid, hrun, source.decisionsNamed decision followed.stored,
    sendable.reason, ?_, hmanifest, hcode⟩, sendable.symbol, not_le.mpr sendable.quantity, ?_, ?_⟩
  · intro hempty
    have hlist := congrArg String.toList hempty
    simp [submitRow] at hlist
  · simpa [submitRow] using sendable.limit
  · simp only [PaperBrokerCommandRow.validateType, submitRow, bind_eq_ok]
    exact ⟨(), by simp, raiseIf_neg _ (not_lt.mpr hlength)⟩

theorem submitRow_check (ready : Ready service runId binding w)
    (followed : decision.Followed service runId source) :
    w.store.checkCommand source.decisions (plannedRow service binding decision plan now) =
      .ok () := by
  obtain ⟨hrun, harm, hmanifest, hcode, -⟩ := ready.made
  have hfind : source.decisions.find?
      (·.portfolioDecisionId = decision.portfolioDecisionId) = some decision := by
    cases hfound : source.decisions.find?
        (·.portfolioDecisionId = decision.portfolioDecisionId) with
    | none =>
      have hnone := List.find?_eq_none.mp hfound decision followed.stored
      simp at hnone
    | some found =>
      have hid : found.portfolioDecisionId = decision.portfolioDecisionId := by
        simpa using List.find?_some hfound
      rw [inj_on_of_nodup_map source.decisionsKey (mem_of_find?_eq_some hfound)
        followed.stored hid]
  have hbinding : w.store.requiredBinding
      (plannedRow service binding decision plan now).bindingId = .ok binding :=
    ready.sound.requiredBinding ready.binding
  rw [PaperStore.checkCommand, hbinding, ok_bind, raiseIf_neg _ (fun hdiffer => hdiffer rfl),
    ok_bind, raiseIf_neg _ (by rw [not_or, not_not, not_not]; exact ⟨hmanifest, hcode⟩), ok_bind]
  have hsource : source.decisions.find? (·.portfolioDecisionId = (submitRow service binding decision
      plan (planClientId service binding decision plan) now).sourceDecisionId) =
        some decision := hfind
  rw [hsource]
  refine raiseIf_neg _ ?_
  rw [not_or, not_not, not_not]
  exact ⟨followed.run.trans hrun.symm, followed.arm.trans harm.symm⟩

theorem Ready.submit_of_key (ready : Ready service runId binding w) {clientOrderId : String}
    {command} (hcommand : command ∈ w.store.commands)
    (key : command.idempotencyKey = "SUBMIT:" ++ binding.bindingId ++ ":" ++ clientOrderId) :
    command.commandType = .submit ∧ command.bindingId = binding.bindingId := by
  refine ⟨?_, ready.sound.bindingId_eq hcommand ready.binding⟩
  cases htype : command.commandType with
  | submit => rfl
  | cancel =>
    obtain ⟨⟨-, -, -, -, hkeyed⟩, -⟩ := ready.sound.commands command hcommand
    simp only [PaperBrokerCommandRow.Keyed, htype] at hkeyed
    obtain ⟨brokerOrderId, hcancel⟩ := hkeyed
    have hlist := congrArg String.toList (hcancel.symm.trans key)
    simp at hlist

theorem ensureSubmit_runs (apart : service.hash.TellsApart) (ready : Ready service runId binding w)
    (followed : decision.Followed service runId source) (sendable : plan.IsSendable)
    (now : Instant) : ∃ command store', ensureCommand service source
      (plannedRow service binding decision plan now) w.store = .ok (command, store') := by
  unfold ensureCommand
  split
  · exact ⟨_, _, rfl⟩
  · rename_i hnone
    have hkey : ∀ other ∈ w.store.commands, other.idempotencyKey ≠
        (plannedRow service binding decision plan now).idempotencyKey := by
      intro other hother hsame
      obtain ⟨htype, hbinding⟩ := ready.submit_of_key hother hsame
      refine List.find?_eq_none.mp hnone other ?_ (decide_eq_true hsame)
      simp only [PaperStore.commandsOfType, PaperStore.commandsOf, mem_filter,
        Sequence.mem_sortedBy, decide_eq_true_eq]
      exact ⟨⟨hother, hbinding⟩, htype⟩
    have hnew : (w.store.commandById (plannedRow service binding decision plan now).commandId).or
        (w.store.commands.find? (·.idempotencyKey =
          (plannedRow service binding decision plan now).idempotencyKey)) = none := by
      rw [Option.or_eq_none_iff]
      constructor
      · refine List.find?_eq_none.mpr fun other hother hid => ?_
        obtain ⟨⟨-, -, -, hname, -⟩, -⟩ := ready.sound.commands other hother
        rw [decide_eq_true_eq, hname] at hid
        exact hkey other hother (apart.command _ _ hid)
      · refine List.find?_eq_none.mpr fun other hother hsame => ?_
        exact hkey other hother (by simpa using hsame)
    rw [PaperStore.appendCommand, submitRow_validate apart ready followed sendable, ok_bind,
      submitRow_check ready followed, ok_bind, hnew]
    exact ⟨_, _, rfl⟩

variable {store' : PaperStore}

theorem Ready.ensured (ready : Ready service runId binding w) (apart : service.hash.TellsApart)
    (sendable : plan.IsSendable) {command : PaperBrokerCommandRow}
    (ok : ensureCommand service source (plannedRow service binding decision plan now) w.store =
      .ok (command, store')) :
    Ready service runId binding { w with store := store' } ∧ store'.events = w.store.events ∧
      SubmitOf service binding decision plan store' command := by
  have hrun := ready.made.1
  have hsound : store'.Sound service runId := ensureCommand_sound
    (fun _ => submitRow_made hrun decision sendable.symbol now) ready.sound ok
  have hready : store'.bindings = w.store.bindings ∧ store'.events = w.store.events ∧
      store'.IsSubmit (planClientId service binding decision plan) command := by
    rcases ensureSubmit_ok ready.sound ok with ⟨rfl, hstored⟩ | ⟨rfl, rfl⟩
    · exact ⟨rfl, rfl, hstored⟩
    · exact ⟨rfl, rfl, mem_append_right _ mem_cons_self, rfl, rfl⟩
  obtain ⟨hbindings, hevents, hmem, htype, hclient⟩ := hready
  -- The id tells the symbol and the side of the SUBMIT.
  obtain ⟨⟨-, -, -, -, hkeyed⟩, -⟩ := hsound.commands command hmem
  simp only [PaperBrokerCommandRow.Keyed, htype] at hkeyed
  obtain ⟨hid, hbroker, hsymbol, -⟩ := hkeyed
  have hsame := Option.some.inj (hclient.symm.trans hid)
  rw [planClientId, hrun] at hsame
  obtain ⟨hsymbols, hsides⟩ := apart.order _ _ _ _ _ _ sendable.symbol _ hsymbol hsame
  exact ⟨⟨ready.alive, hsound, hbindings ▸ ready.binding⟩, hevents,
    hmem, hclient, hbroker, hsymbols.symm, hsides.symm⟩

/-- The broker reports an order of a command in a way that the store takes. -/
@[mk_iff]
structure AlpacaPaperOrder.Genuine (order : AlpacaPaperOrder) (command : PaperBrokerCommandRow) :
    Prop where
  quantity : 0 < order.quantity
  filled : 0 ≤ order.filledQuantity
  price : ∀ price ∈ order.filledAveragePrice, 0 < price
  status : order.status.IsSupported
  client : command.clientOrderId = some order.clientOrderId
  length : order.clientOrderId.length ≤ 128
  broker : ∀ id ∈ command.brokerOrderId, id = order.brokerOrderId
  allowed : order.symbol ∈ alpacaPaperAllowedSymbols
  symbol : order.symbol = command.symbol
  side : order.side = command.side

instance (order : AlpacaPaperOrder) (command : PaperBrokerCommandRow) :
    Decidable (order.Genuine command) :=
  decidable_of_iff' _ (AlpacaPaperOrder.genuine_iff ..)

theorem AlpacaPaperOrder.Genuine.fits {order : AlpacaPaperOrder} {command : PaperBrokerCommandRow}
    {store : PaperStore} (genuine : order.Genuine command) (apart : service.hash.TellsApart)
    (stored : command ∈ store.commands) {eventType : BrokerEventType}
    (kind : eventType ≠ .fillActivity) (tag : String) :
    (orderEvent service binding command eventType tag order).Fits store where
  status := genuine.status.value_ne_empty
  key := apart.named _ _
  symbol := by simpa [orderEvent] using genuine.allowed
  quantity := by simpa [orderEvent] using genuine.quantity
  filled := by simpa [orderEvent] using genuine.filled
  price := genuine.price
  client := genuine.length
  complete htype := (kind htype).elim
  command other h := by
    obtain rfl := Option.some.inj h
    refine ⟨stored, fun _ _ => genuine.client.symm, fun _ hnone => ?_, fun symbol hsymbol => ?_,
      fun side hside => ?_⟩
    · obtain ⟨id, hid⟩ := Option.ne_none_iff_exists'.mp hnone
      rw [hid, genuine.broker id hid]
      rfl
    · rw [← Option.some.inj hsymbol, genuine.symbol]
    · rw [← Option.some.inj hside, genuine.side]

def resultKey (service : CanaryService) (binding : PaperBrokerBindingRow)
    (order : AlpacaPaperOrder) : String :=
  service.hash.stableId "alpaca-submit-result"
    [.str binding.bindingId, .str order.brokerOrderId, .str order.status.value,
      .decimal order.filledQuantity, .instant order.updatedAt]

def CanRecord (service : CanaryService) (binding : PaperBrokerBindingRow) (now : Instant)
    (store : PaperStore) (order : AlpacaPaperOrder) : Prop :=
  store.eventExists binding.bindingId (resultKey service binding order) ∨ order.updatedAt ≤ now

variable {f : PaperStore → Except CanaryFailure PaperStore}

theorem transactEvents_alive_ok (alive : w.life = none) (h : f w.store = .ok store') :
    transactEvents f w = (.ok (), { w with store := store' }) := by
  rw [transactEvents, transact, act_alive _ alive, h]
  rfl

theorem transactEvents_alive_error {failure} (alive : w.life = none)
    (h : f w.store = .error failure) :
    transactEvents f w = (.error failure, w) := by
  rw [transactEvents, transact, act_alive _ alive, h]
  rfl

variable {order : AlpacaPaperOrder} {command : PaperBrokerCommandRow}

theorem recordResult_ok (apart : service.hash.TellsApart) (ready : Ready service runId binding w)
    (stored : command ∈ w.store.commands) (genuine : order.Genuine command)
    (can : CanRecord service binding now w.store order) :
    ∃ store', transactEvents (writeNewEvent service binding now
        (orderEvent service binding command .submitReconciled "alpaca-submit-result" order)) w =
        (.ok (), { w with store := store' }) ∧
      Ready service runId binding { w with store := store' } ∧
      ∀ key, store'.eventExists binding.bindingId key ↔
        w.store.eventExists binding.bindingId key ∨ key = resultKey service binding order := by
  have hfits : (orderEvent service binding command .submitReconciled "alpaca-submit-result"
      order).Fits w.store := genuine.fits apart stored (by decide) _
  have hwrite : writeNewEvent service binding now _ w.store = _ :=
    hfits.writeNewEvent apart ready.sound ready.binding (.submitted command order)
  by_cases hexists : w.store.eventExists binding.bindingId (resultKey service binding order)
  · rw [if_pos (by exact hexists)] at hwrite
    refine ⟨w.store, transactEvents_alive_ok ready.alive hwrite, ready, fun key => ?_⟩
    constructor
    · exact .inl
    · rintro (hkey | rfl)
      · exact hkey
      · exact hexists
  · have htime : ¬now < order.updatedAt := not_lt.mpr (can.resolve_left hexists)
    rw [if_neg (by exact hexists), if_neg (by exact htime)] at hwrite
    refine ⟨_, transactEvents_alive_ok ready.alive hwrite, ⟨ready.alive, ?_, ready.binding⟩,
      fun key => ?_⟩
    · exact ready.sound.append_event (.submitted command order) ⟨binding, ready.binding, rfl⟩
    · simp only [PaperStore.eventExists, mem_append, mem_singleton]
      constructor
      · rintro ⟨event, hold | rfl, hevent⟩
        · exact .inl ⟨event, hold, hevent⟩
        · exact .inr hevent.2.symm
      · rintro (⟨event, hevent, hkey⟩ | rfl)
        · exact ⟨event, .inl hevent, hkey⟩
        · exact ⟨_, .inr rfl, rfl, rfl⟩

theorem recordResult_late (apart : service.hash.TellsApart) (ready : Ready service runId binding w)
    (stored : command ∈ w.store.commands) (genuine : order.Genuine command)
    (late : ¬CanRecord service binding now w.store order) :
    transactEvents (writeNewEvent service binding now
      (orderEvent service binding command .submitReconciled "alpaca-submit-result" order)) w =
      (.error timestampFailure, w) := by
  rw [CanRecord, not_or, not_le] at late
  have hfits : (orderEvent service binding command .submitReconciled "alpaca-submit-result"
      order).Fits w.store := genuine.fits apart stored (by decide) _
  have hwrite : writeNewEvent service binding now _ w.store = _ :=
    hfits.writeNewEvent apart ready.sound ready.binding (.submitted command order)
  rw [if_neg (by exact late.1), if_pos (by exact late.2)] at hwrite
  exact transactEvents_alive_error ready.alive hwrite

def plannedOrder (service : CanaryService) (binding : PaperBrokerBindingRow)
    (decision : PortfolioDecisionRow) (plan : CanaryOrderPlan) (taken : Acceptance) :
    AlpacaPaperOrder where
  brokerOrderId := taken.brokerOrderId
  clientOrderId := planClientId service binding decision plan
  symbol := plan.symbol
  side := plan.side
  quantity := plan.quantity
  filledQuantity := 0
  filledAveragePrice := none
  limitPrice := some plan.limitPrice
  status := taken.status
  submittedAt := taken.acceptedAt
  updatedAt := taken.acceptedAt

/-- The world when the broker took the order and the store has its answer. -/
abbrev World.took (w : World PaperStore) (store' : PaperStore) (later : List Exchange)
    (order : AlpacaPaperOrder) : World PaperStore :=
  { w with
    store := store'
    exchanges := later
    broker := { w.broker with orders := w.broker.orders ++ [order] } }

theorem SubmitOf.genuine_new {store : PaperStore}
    (submit : SubmitOf service binding decision plan store command) (sendable : plan.IsSendable)
    {taken : Acceptance} (supported : taken.status.IsSupported) :
    (plannedOrder service binding decision plan taken).Genuine command where
  quantity := sendable.quantity
  filled := le_refl _
  price _ h := by cases h
  status := supported
  client := submit.client
  length := (length_deterministicClientOrderId _ _ _ _ _).2
  broker _ h := by
    rw [submit.broker] at h
    cases h
  allowed := sendable.symbol
  symbol := submit.symbol.symm
  side := submit.side.symm

def ResultIn (service : CanaryService) (binding : PaperBrokerBindingRow) (now : Instant)
    (order : AlpacaPaperOrder) (before after : PaperStore) (outcome : Except CanaryFailure Unit) :
    Prop :=
  (CanRecord service binding now before order ∧ outcome = .ok () ∧
      ∀ key, after.eventExists binding.bindingId key ↔
        before.eventExists binding.bindingId key ∨ key = resultKey service binding order) ∨
    (¬CanRecord service binding now before order ∧ outcome = .error timestampFailure ∧
      after.events = before.events)

theorem placeOrder_recorded_in {request w'} (apart : service.hash.TellsApart)
    (ready : Ready service runId binding w')
    (hrequest : validate AlpacaPaperOrderTerms.check (planTerms service binding decision plan) =
      .ok request)
    (horder : ensureSubmitted service.config.val.reconciliationLookupAttempts request w =
      (.ok order, w'))
    (stored : command ∈ w'.store.commands) (genuine : order.Genuine command) :
    ∃ outcome store', placeOrder service binding decision now plan command w =
        (outcome, { w' with store := store' }) ∧
      Ready service runId binding { w' with store := store' } ∧
      ResultIn service binding now order w'.store store' outcome := by
  have hplace : placeOrder service binding decision now plan command w =
      transactEvents (writeNewEvent service binding now
        (orderEvent service binding command .submitReconciled "alpaca-submit-result" order)) w' := by
    rw [placeOrder, hrequest, bind_ok (by rfl), bind_ok horder]
  rw [hplace]
  by_cases can : CanRecord service binding now w'.store order
  · obtain ⟨store', hrun, hready, hkeys⟩ := recordResult_ok apart ready stored genuine can
    exact ⟨_, store', hrun, hready, .inl ⟨can, rfl, hkeys⟩⟩
  · exact ⟨_, w'.store, recordResult_late apart ready stored genuine can, ready,
      .inr ⟨can, rfl, rfl⟩⟩

theorem submitPlan_eq (ready : Ready service runId binding w)
    (ok : ensureCommand service source (plannedRow service binding decision plan now) w.store =
      .ok (command, store')) :
    submitPlan service source binding decision now plan w =
      placeOrder service binding decision now plan command { w with store := store' } := by
  have hensure : transact
      (ensureCommand service source (plannedRow service binding decision plan now)) w =
      (.ok command, { w with store := store' }) := by
    rw [transact, act_alive _ ready.alive, ok]
  rw [submitPlan, bind_ok hensure]

theorem submitPlan_found {rest : List Exchange} {broker' : Broker} (apart : service.hash.TellsApart)
    (ready : Ready service runId binding w) (followed : decision.Followed service runId source)
    (sendable : plan.IsSendable)
    (found : ∀ request : AlpacaPaperOrderRequest,
      request.val = planTerms service binding decision plan → ∀ store : PaperStore,
      ensureSubmitted service.config.val.reconciliationLookupAttempts request { w with store } =
        (.ok order, { w with store, exchanges := rest, broker := broker' }))
    (genuine : ∀ store command, SubmitOf service binding decision plan store command →
      order.Genuine command) :
    ∃ outcome store', submitPlan service source binding decision now plan w =
        (outcome, { w with store := store', exchanges := rest, broker := broker' }) ∧
      Ready service runId binding { w with store := store' } ∧
      ResultIn service binding now order w.store store' outcome := by
  obtain ⟨command, store1, hok⟩ := ensureSubmit_runs apart ready followed sendable now
  obtain ⟨hready, hevents, hsubmit⟩ := ready.ensured apart sendable hok
  obtain ⟨request, hterms, hrequest⟩ := planRequest_ok service binding decision sendable
  have hready' : Ready service runId binding
      { w with store := store1, exchanges := rest, broker := broker' } :=
    ⟨hready.alive, hready.sound, hready.binding⟩
  obtain ⟨outcome, store', hplace, hdone, hresult⟩ := placeOrder_recorded_in apart hready' hrequest
    (found request hterms store1) hsubmit.stored (genuine store1 command hsubmit)
  refine ⟨outcome, store', (submitPlan_eq ready hok).trans hplace,
    ⟨hdone.alive, hdone.sound, hdone.binding⟩, ?_⟩
  simpa only [ResultIn, CanRecord, PaperStore.eventExists, hevents] using hresult

theorem ensureCommand_error {row} {store : PaperStore} {failure}
    (h : ensureCommand service source row store = .error failure) :
    ∃ raised, failure = .raised raised := by
  unfold ensureCommand at h
  split at h
  · cases h
  · cases happend : store.appendCommand service.hash source.decisions row with
    | ok result =>
      rw [happend] at h
      cases h
    | error raised =>
      rw [happend] at h
      exact ⟨raised, (Except.error.inj h).symm⟩

theorem submitPlan_unsendable (alive : w.life = none)
    (symbol : plan.symbol ∈ alpacaPaperAllowedSymbols) (limit : plan.limitPrice ≤ 0)
    (service : CanaryService) (source : CanarySource) (binding : PaperBrokerBindingRow)
    (decision : PortfolioDecisionRow) (now : Instant) :
    ∃ failure w', submitPlan service source binding decision now plan w =
        (.error (.raised failure), w') ∧ CanaryFailure.raised failure ≠ timestampFailure ∧
      w'.broker = w.broker ∧ w'.store.events = w.store.events := by
  have hcheck : (planTerms service binding decision plan).check = .error
      ⟨.valueError, "Alpaca Paper order quantity and limit price must be positive", []⟩ := by
    rw [AlpacaPaperOrderTerms.check, raiseIf_neg _ (by exact not_not.mpr symbol), ok_bind,
      raiseIf_pos _ (by exact .inr limit)]
    rfl
  cases hensure : ensureCommand service source (plannedRow service binding decision plan now)
    w.store with
  | error failure =>
    have hrun : submitPlan service source binding decision now plan w = (.error failure, w) := by
      rw [submitPlan, bind_error (by rw [transact, act_alive _ alive, hensure])]
    have htime := ensureCommand_ne_timestampFailure service source (submitRow service binding
      decision plan (planClientId service binding decision plan) now) w.store
    rw [hensure] at htime
    obtain ⟨raised, rfl⟩ := ensureCommand_error hensure
    exact ⟨raised, w, hrun, fun heq => htime (by rw [heq]), rfl, rfl⟩
  | ok result =>
    obtain ⟨command, store'⟩ := result
    have hrequest : validate AlpacaPaperOrderTerms.check (planTerms service binding decision plan) =
        .error ⟨.valueError, "Alpaca Paper order quantity and limit price must be positive", []⟩ :=
      validate_of_error hcheck
    refine ⟨⟨.valueError, "Alpaca Paper order quantity and limit price must be positive", []⟩,
      { w with store := store' }, ?_, by decide, rfl, ?_⟩
    · rw [submitPlan, bind_ok (by rw [transact, act_alive _ alive, hensure]), placeOrder, hrequest]
      rfl
    · rcases ensureCommand_ok hensure with ⟨rfl, -⟩ | ⟨-, rfl, -⟩
      · rfl
      · rfl

variable {x y : Exchange} {rest : List Exchange}

theorem submitPlan_unused (apart : service.hash.TellsApart) (ready : Ready service runId binding w)
    (followed : decision.Followed service runId source) (sendable : plan.IsSendable)
    (hx : w.exchanges = x :: y :: rest) (calm : x.IsCalm) (calm' : y.IsCalm)
    (unused : w.broker.order? (planClientId service binding decision plan) = none) (now : Instant) :
    ∃ outcome store', submitPlan service source binding decision now plan w = (outcome,
        w.took store' rest (plannedOrder service binding decision plan y.taken)) ∧
      Ready service runId binding { w with store := store' } ∧
      ResultIn service binding now (plannedOrder service binding decision plan y.taken) w.store
        store' outcome := by
  refine submitPlan_found apart ready followed sendable (fun request hterms store => ?_)
    fun store command hsubmit => hsubmit.genuine_new sendable calm'.2.2
  have horder : y.taken.order request = plannedOrder service binding decision plan y.taken := by
    rw [Acceptance.order, hterms]
    rfl
  rw [← horder]
  refine ensureSubmitted_unused _ ready.alive hx calm calm' ?_
  rw [hterms]
  exact unused

/-- The order at the broker is the planned one. -/
def AlpacaPaperOrder.HasTermsOf (order : AlpacaPaperOrder) (plan : CanaryOrderPlan) : Prop :=
  order.symbol = plan.symbol ∧ order.side = plan.side ∧ order.quantity = plan.quantity ∧
    order.limitPrice = some plan.limitPrice

instance (order : AlpacaPaperOrder) (plan : CanaryOrderPlan) : Decidable (order.HasTermsOf plan) :=
  inferInstanceAs (Decidable (_ ∧ _))

theorem requireSameOrder_eq_ok {request}
    (hterms : request.val = planTerms service binding decision plan)
    (client : order.clientOrderId = planClientId service binding decision plan) :
    requireSameOrder order request = .ok () ↔ order.HasTermsOf plan := by
  rw [requireSameOrder, raiseIf_eq_ok, hterms]
  simp only [planTerms, client, ne_eq, not_true_eq_false, false_or, not_or, not_not]
  rfl

theorem submitPlan_same (apart : service.hash.TellsApart) (ready : Ready service runId binding w)
    (followed : decision.Followed service runId source) (sendable : plan.IsSendable)
    (hx : w.exchanges = x :: rest) (calm : x.IsCalm)
    (used : w.broker.order? (planClientId service binding decision plan) = some order)
    (terms : order.HasTermsOf plan) (supported : order.status.IsSupported)
    (filled : 0 ≤ order.filledQuantity) (price : ∀ price ∈ order.filledAveragePrice, 0 < price)
    (now : Instant) : ∃ outcome store', submitPlan service source binding decision now plan w =
        (outcome, { w with store := store', exchanges := rest }) ∧
      Ready service runId binding { w with store := store' } ∧
      ResultIn service binding now order w.store store' outcome := by
  have hclient : order.clientOrderId = planClientId service binding decision plan := by
    simpa using List.find?_some used
  refine submitPlan_found apart ready followed sendable (fun request hterms store => ?_)
    fun store command hsubmit => ?_
  · have hused : w.broker.order? request.val.clientOrderId = some order := by
      rw [hterms]
      exact used
    rw [ensureSubmitted_used _ (w := { w with store }) ready.alive hx calm hused supported,
      sameOrder, (requireSameOrder_eq_ok hterms hclient).mpr terms]
    rfl
  · obtain ⟨hsymbol, hside, hquantity, -⟩ := terms
    exact {
      quantity := hquantity ▸ sendable.quantity
      filled := filled
      price := price
      status := supported
      client := hclient ▸ hsubmit.client
      length := hclient ▸ (length_deterministicClientOrderId _ _ _ _ _).2
      broker := fun id hid => by
        rw [hsubmit.broker] at hid
        cases hid
      allowed := hsymbol ▸ sendable.symbol
      symbol := hsymbol.trans hsubmit.symbol.symm
      side := hside.trans hsubmit.side.symm }

def conflictFailure : CanaryFailure :=
  .trading ⟨"Existing Alpaca Paper client_order_id belongs to another order", none, false, true⟩

theorem submitPlan_conflict (apart : service.hash.TellsApart)
    (ready : Ready service runId binding w) (followed : decision.Followed service runId source)
    (sendable : plan.IsSendable) (hx : w.exchanges = x :: rest) (calm : x.IsCalm)
    (used : w.broker.order? (planClientId service binding decision plan) = some order)
    (terms : ¬order.HasTermsOf plan) (supported : order.status.IsSupported) (now : Instant) :
    ∃ store', submitPlan service source binding decision now plan w =
        (.error conflictFailure, { w with store := store', exchanges := rest }) ∧
      store'.events = w.store.events := by
  have hclient : order.clientOrderId = planClientId service binding decision plan := by
    simpa using List.find?_some used
  obtain ⟨command, store1, hok⟩ := ensureSubmit_runs apart ready followed sendable now
  obtain ⟨hready, hevents, hsubmit⟩ := ready.ensured apart sendable hok
  obtain ⟨request, hterms, hrequest⟩ := planRequest_ok service binding decision sendable
  have hused : w.broker.order? request.val.clientOrderId = some order := by
    rw [hterms]
    exact used
  have hother : requireSameOrder order request = .error
      ⟨"Existing Alpaca Paper client_order_id belongs to another order", none, false, true⟩ := by
    refine raiseIf_pos _ ?_
    by_contra hsame
    exact terms ((requireSameOrder_eq_ok hterms hclient).mp (raiseIf_neg _ hsame))
  have hensure : ensureSubmitted service.config.val.reconciliationLookupAttempts request
      { w with store := store1 } =
      (.error conflictFailure, { w with store := store1, exchanges := rest }) := by
    rw [ensureSubmitted_used _ (w := { w with store := store1 }) ready.alive hx calm hused
      supported, sameOrder, hother]
    rfl
  refine ⟨store1, ?_, hevents⟩
  rw [submitPlan_eq ready hok, placeOrder, hrequest, bind_ok (by rfl), bind_error hensure]

end Submission

end AdaptiveQuant
