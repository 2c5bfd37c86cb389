import AdaptiveQuant.Execution.AlpacaLink
import AdaptiveQuant.Lib.Run
import AdaptiveQuant.Runtime.AlpacaCanary

/-! Runs of syncs. -/

namespace AdaptiveQuant

open Guard Effect List

/-- One sync: its clock, what it reads, what the broker does, and when the process dies. -/
structure SyncCall where
  now : Instant
  source : CanarySource
  exchanges : List Exchange
  life : Option ℕ

def World.enter (w : World PaperStore) (call : SyncCall) : World PaperStore :=
  { w with exchanges := call.exchanges, life := call.life }

/-- What the call sees of the store and the broker. -/
abbrev World.observed (w : World PaperStore) (service : CanaryService) (runId : String)
    (call : SyncCall) :=
  observe service runId call.source call.now (w.enter call)

/-- The whole call. -/
abbrev World.synced (w : World PaperStore) (service : CanaryService) (runId : String)
    (call : SyncCall) :=
  sync service runId call.source call.now (w.enter call)

def syncStep (service : CanaryService) (runId : String) (w : World PaperStore) (call : SyncCall) :
    Except CanaryFailure (World PaperStore) :=
  .ok (w.synced service runId call).2

/-- The canary has stored and sent nothing yet. -/
def World.IsUntouched (w : World PaperStore) : Prop :=
  w.store = ⟨[], [], []⟩ ∧ (∀ order ∈ w.broker.orders, isCanaryId order.clientOrderId = false) ∧
    w.broker.inFlight = []

def PaperBrokerBindingRow.Made (service : CanaryService) (runId : String)
    (binding : PaperBrokerBindingRow) : Prop :=
  binding.runId = runId ∧ binding.sourceArmId = service.config.val.sourceArm.value ∧
    binding.configManifestHash = service.paperManifestHash ∧
    binding.codeVersion = service.codeVersion ∧ binding.validate = .ok ()

def PaperBrokerCommandRow.Keyed (service : CanaryService) (runId : String)
    (command : PaperBrokerCommandRow) : Prop :=
  match command.commandType with
  | .submit =>
    let clientOrderId := deterministicClientOrderId service.hash runId command.sourceDecisionId
      command.symbol command.side
    command.clientOrderId = some clientOrderId ∧ command.brokerOrderId = none ∧
      command.symbol ∈ alpacaPaperAllowedSymbols ∧
      command.idempotencyKey = "SUBMIT:" ++ command.bindingId ++ ":" ++ clientOrderId
  | .cancel => ∃ brokerOrderId,
      command.idempotencyKey = "CANCEL:" ++ command.bindingId ++ ":" ++ brokerOrderId

def PaperBrokerCommandRow.Made (service : CanaryService) (runId : String)
    (command : PaperBrokerCommandRow) : Prop :=
  command.runId = runId ∧ command.configManifestHash = service.paperManifestHash ∧
    command.codeVersion = service.codeVersion ∧
    command.commandId =
      service.hash.stableId "alpaca-paper-command" [.str command.idempotencyKey] ∧
    command.Keyed service runId

variable {service : CanaryService} {runId : String}

theorem cancelRow_made {binding} (h : binding.runId = runId) (decisionId : String)
    (order : AlpacaPaperOrder) (reason : String) (now : Instant) :
    (cancelRow service binding decisionId order reason now).Made service runId :=
  ⟨h, rfl, rfl, rfl, order.brokerOrderId, rfl⟩

/-- The command that submits a plan, under the client order id of the plan. -/
abbrev plannedRow (service : CanaryService) (binding : PaperBrokerBindingRow)
    (decision : PortfolioDecisionRow) (plan : CanaryOrderPlan) (now : Instant) :
    PaperBrokerCommandRow :=
  submitRow service binding decision plan (planClientId service binding decision plan) now

theorem submitRow_made {binding} (h : binding.runId = runId) (decision : PortfolioDecisionRow)
    {plan} (symbol : plan.symbol ∈ alpacaPaperAllowedSymbols) (now : Instant) :
    (plannedRow service binding decision plan now).Made service runId := by
  subst h
  exact ⟨rfl, rfl, rfl, rfl, rfl, rfl, symbol, rfl⟩

theorem validate_symbol {row : PaperBrokerCommandRow} (h : row.validate = .ok ()) :
    row.symbol ∈ alpacaPaperAllowedSymbols := by
  simp only [PaperBrokerCommandRow.validate, ok_iff, not_not] at h
  obtain ⟨-, -, hsymbol, -⟩ := h
  exact hsymbol

section Transactions

variable {α : Type} {J : PaperStore → Broker → Prop} {w w' : World PaperStore}
variable {f : PaperStore → Except CanaryFailure (α × PaperStore)}

theorem keeps_transact
    (h : ∀ store broker a store', J store broker → f store = .ok (a, store') → J store' broker) :
    Keeps (Holds J) (transact f) := by
  refine keeps_act fun w hw => ?_
  cases hf : f w.store with
  | error failure => exact hw
  | ok result => exact h _ _ _ _ hw hf

theorem transact_ok {a : α} (h : transact f w = (.ok a, w')) :
    ∃ life store', (w.life = none → life = none) ∧ f w.store = .ok (a, store') ∧
      w' = { w with store := store', life } := by
  rw [transact] at h
  obtain ⟨life, hlife, h⟩ := act_ok h
  cases hf : f w.store with
  | error failure =>
    simp only [hf] at h
    cases h
  | ok result =>
    simp only [hf] at h
    obtain ⟨ha, rfl⟩ := Prod.mk.inj h
    cases ha
    exact ⟨life, _, hlife, rfl, rfl⟩

theorem transact_error {failure} (h : transact f w = (.error failure, w')) :
    w'.store = w.store ∧ w'.broker = w.broker := by
  rw [transact] at h
  rcases act_error h with rfl | ⟨life, h⟩
  · exact ⟨rfl, rfl⟩
  · cases hf : f w.store with
    | error e =>
      simp only [hf] at h
      cases h
      exact ⟨rfl, rfl⟩
    | ok result =>
      simp only [hf] at h
      cases h

theorem keeps_transactEvents {f}
    (h : ∀ store broker store', J store broker → f store = .ok store' → J store' broker) :
    Keeps (Holds J) (transactEvents f) := by
  refine keeps_transact fun store broker _ store' hJ hf => ?_
  cases hstore : f store with
  | error failure =>
    rw [hstore] at hf
    cases hf
  | ok result =>
    rw [hstore] at hf
    cases hf
    exact h _ _ _ hJ hstore

end Transactions

variable {source : CanarySource}

theorem ensureCommand_ok {row command} {store store' : PaperStore}
    (h : ensureCommand service source row store = .ok (command, store')) :
    (store' = store ∧ command ∈ store.commands ∧ command.commandType = row.commandType ∧
        command.bindingId = row.bindingId ∧ command.idempotencyKey = row.idempotencyKey) ∨
      (command = row ∧ store' = { store with commands := store.commands ++ [row] } ∧
        row.validate = .ok () ∧ (∃ binding ∈ store.bindings, binding.bindingId = row.bindingId) ∧
        ∀ other ∈ store.commands, other.idempotencyKey ≠ row.idempotencyKey) := by
  unfold ensureCommand at h
  split at h
  · rename_i existing hexisting
    cases h
    have hmem := mem_of_find?_eq_some hexisting
    have hkey := List.find?_some hexisting
    simp only [PaperStore.commandsOfType, PaperStore.commandsOf, mem_filter,
      Sequence.mem_sortedBy, decide_eq_true_eq] at hmem hkey
    exact .inl ⟨rfl, hmem.1.1, hmem.2, hmem.1.2, hkey⟩
  · obtain ⟨hvalid, hcheck, hstored | ⟨rfl, rfl, hnew⟩⟩ :=
      PaperStore.appendCommand_ok (mapError_eq_ok.mp h)
    · obtain ⟨rfl, hmem, hsame⟩ := hstored
      rw [← hsame]
      exact .inl ⟨rfl, hmem, rfl, rfl, rfl⟩
    · exact .inr ⟨rfl, rfl, hvalid, PaperStore.checkCommand_ok hcheck, hnew⟩

def readyEvent (service : CanaryService) (binding : PaperBrokerBindingRow) (now : Instant) :
    BrokerEvent where
  eventType := .reconciliationReady
  status := "READY"
  occurredAt := now
  idempotencyKey := service.hash.stableId "alpaca-reconciliation-ready"
    [.str binding.bindingId, .instant now]
  payload := .dict [("real_order_routing", .bool false),
    ("matched_attribution_included", .bool false)]

inductive SyncEvent (service : CanaryService) (binding : PaperBrokerBindingRow) (now : Instant) :
    BrokerEvent → Prop
  | account (account : AlpacaPaperAccount) :
    SyncEvent service binding now (accountEvent service binding account now)
  | positions (positions : List AlpacaPaperPosition) :
    SyncEvent service binding now (positionsEvent service binding positions now)
  | order (command : PaperBrokerCommandRow) (order : AlpacaPaperOrder) :
    SyncEvent service binding now
      (orderEvent service binding command .orderSnapshot "alpaca-order-snapshot" order)
  | fill (command : PaperBrokerCommandRow) (order : AlpacaPaperOrder)
      (fill : AlpacaPaperFillActivity) :
    SyncEvent service binding now (fillEvent service binding command order fill)
  | submitted (command : PaperBrokerCommandRow) (order : AlpacaPaperOrder) :
    SyncEvent service binding now
      (orderEvent service binding command .submitReconciled "alpaca-submit-result" order)
  | cancelled (command : PaperBrokerCommandRow) (order : AlpacaPaperOrder) :
    SyncEvent service binding now (cancelAcceptedEvent service command order now)
  | ready : SyncEvent service binding now (readyEvent service binding now)
  | blocked (code detail : String) :
    SyncEvent service binding now (blockedEvent service binding now code detail)

theorem SyncEvent.provider {binding} {now : Instant} {event}
    (h : SyncEvent service binding now event) :
    ∀ id ∈ event.providerEventId, event.idempotencyKey =
      service.hash.stableId "alpaca-fill-activity" [.str binding.bindingId, .str id] := by
  intro id hid
  cases h with
  | fill command order fill =>
    cases hid
    rfl
  | account | positions | order | submitted | cancelled | ready | blocked => cases hid

def BrokerEventType.isSnapshot : BrokerEventType → Bool
  | .accountSnapshot | .positionsSnapshot | .orderSnapshot | .fillActivity => true
  | _ => false

/-- The canary's events keep `P`: those of a reconciliation, or the others. -/
def EventClosed (service : CanaryService) (snapshot : Bool) (P : PaperStore → Prop) : Prop :=
  ∀ store binding now event, SyncEvent service binding now event →
    event.eventType.isSnapshot = snapshot →
    (∃ stored ∈ store.bindings, stored.bindingId = binding.bindingId) → P store →
    P { store with events := store.events ++ [event.row service binding now] }

section Events

variable {service : CanaryService} {snapshot : Bool} {P : PaperStore → Prop}
  {binding : PaperBrokerBindingRow} {now : Instant} {store store' : PaperStore}

theorem EventClosed.writeEvent (closed : EventClosed service snapshot P) {event}
    (made : SyncEvent service binding now event) (kind : event.eventType.isSnapshot = snapshot)
    (h : P store) (ok : AdaptiveQuant.writeEvent service binding now event store = .ok store') :
    P store' := by
  rcases PaperStore.appendEvent_ok (mapError_eq_ok.mp ok) with rfl | ⟨hbinding, rfl⟩
  · exact h
  · exact closed _ _ _ _ made kind hbinding h

theorem EventClosed.writeNewEvent (closed : EventClosed service snapshot P) {event}
    (made : SyncEvent service binding now event) (kind : event.eventType.isSnapshot = snapshot)
    (h : P store) (ok : AdaptiveQuant.writeNewEvent service binding now event store = .ok store') :
    P store' := by
  unfold AdaptiveQuant.writeNewEvent at ok
  split at ok
  · cases ok
    exact h
  · exact closed.writeEvent made kind h ok

theorem EventClosed.writeSnapshot (closed : EventClosed service true P)
    {account : AlpacaPaperAccount} {positions : List AlpacaPaperPosition}
    {orders : List AlpacaPaperOrder}
    {fills : List AlpacaPaperFillActivity} (h : P store)
    (ok : AdaptiveQuant.writeSnapshot service binding account positions orders fills now store =
      .ok store') : P store' := by
  simp only [AdaptiveQuant.writeSnapshot, bind_eq_ok] at ok
  obtain ⟨s1, h1, s2, h2, s3, h3, h4⟩ := ok
  have hpositions := closed.writeEvent (.positions positions) rfl
    (closed.writeEvent (.account account) rfl h h1) h2
  have horders : P s3 := by
    refine foldlM_induction h3 (fun _ store => P store) hpositions ?_
    intro _ order acc acc' hacc hstep
    unfold snapshotOrder at hstep
    split at hstep
    · cases hstep
      exact hacc
    · exact closed.writeNewEvent (.order _ order) rfl hacc hstep
  refine foldlM_induction h4 (fun _ store => P store) horders ?_
  intro _ fill acc acc' hacc hstep
  unfold recordFill at hstep
  split at hstep
  · cases hstep
    exact hacc
  · exact closed.writeNewEvent (.fill _ _ fill) rfl hacc hstep

theorem eventClosed_tables (tables : PaperStore) : EventClosed service snapshot fun store =>
    store.bindings = tables.bindings ∧ store.commands = tables.commands :=
  fun _ _ _ _ _ _ _ h => h

end Events

/-- What an invariant of the store and the broker has to survive in a reconciliation. -/
structure Steady (service : CanaryService) (runId : String) (J : PaperStore → Broker → Prop) :
    Prop where
  moves : Unmoved J
  event : ∀ broker, EventClosed service true (J · broker)
  bind : ∀ store broker row, PaperBrokerBindingRow.Made service runId row →
    store.bindingForRun runId = none → J store broker →
    J { store with bindings := store.bindings ++ [row] } broker

/-- What it has to survive in a sync after the reconciliation, apart from submissions. -/
structure Quiet (service : CanaryService) (runId : String) (J : PaperStore → Broker → Prop) :
    Prop where
  moves : Unmoved J
  event : ∀ broker, EventClosed service false (J · broker)
  command : ∀ store broker row, PaperBrokerCommandRow.Made service runId row →
    row.commandType = .cancel → (∃ binding ∈ store.bindings, binding.bindingId = row.bindingId) →
    (∀ other ∈ store.commands, other.idempotencyKey ≠ row.idempotencyKey) → J store broker →
    J { store with commands := store.commands ++ [row] } broker
  post : ∀ store broker brokerOrderId, J store broker →
    J store (Broker.post broker (some (.cancel brokerOrderId)))
  cancel : ∀ store broker brokerOrderId, J store broker →
    J store (Broker.cancel broker brokerOrderId).2

theorem keeps_bindAccount {J : PaperStore → Broker → Prop}
    (bind : ∀ store broker row, PaperBrokerBindingRow.Made service runId row →
      store.bindingForRun runId = none → J store broker →
      J { store with bindings := store.bindings ++ [row] } broker)
    (account : AlpacaPaperAccount) (positions : List AlpacaPaperPosition)
    (openOrders : List AlpacaPaperOrder) (now : Instant) (existing : Option PaperBrokerBindingRow) :
    Keeps (Holds J) (bindAccount service runId account positions openOrders now existing) := by
  cases existing with
  | some binding => exact (Keeps.ofExcept _).bind fun _ => Keeps.pure _
  | none =>
    refine (Keeps.ofExcept _).bind fun _ => keeps_transact fun store broker _ store' hJ hf => ?_
    obtain ⟨hvalid, ⟨rfl, -⟩ | ⟨-, hnone, rfl⟩⟩ :=
      PaperStore.createBinding_ok (mapError_eq_ok.mp hf)
    · exact hJ
    · exact bind _ _ _ ⟨rfl, rfl, rfl, rfl, hvalid⟩ hnone hJ

namespace Steady

variable {service : CanaryService} {runId : String} {J : PaperStore → Broker → Prop}

theorem observe (q : Steady service runId J) (source : CanarySource) (now : Instant) :
    Keeps (Holds J) (AdaptiveQuant.observe service runId source now) := by
  refine (Keeps.ofExcept _).bind fun _ => (Keeps.reads _).bind fun _ => (Keeps.reads _).bind
    fun _ => (keeps_getAccount q.moves).bind fun _ => (keeps_listPositions q.moves).bind
    fun _ => (keeps_listOrders q.moves _).bind fun _ => (keeps_bindAccount q.bind _ _ _ _ _).bind
    fun _ => (keeps_listFillActivities q.moves _ _).bind fun _ => ?_
  refine Keeps.bind (keeps_transact fun store broker _ store' hJ hf => ?_) fun _ =>
    (Keeps.reads _).bind fun _ => (Keeps.ofExcept _).bind fun _ => (Keeps.ofExcept _).bind
    fun _ => Keeps.pure _
  cases hsnapshot : AdaptiveQuant.writeSnapshot service _ _ _ _ _ now store with
  | error failure =>
    rw [hsnapshot] at hf
    cases hf
  | ok result =>
    rw [hsnapshot] at hf
    cases hf
    exact (q.event broker).writeSnapshot hJ hsnapshot

end Steady

namespace Quiet

variable {service : CanaryService} {runId : String} {J : PaperStore → Broker → Prop}

section

variable (q : Quiet service runId J)

include q

theorem recordReady (binding : PaperBrokerBindingRow) (now : Instant) :
    Keeps (Holds J) (AdaptiveQuant.recordReady service binding now) :=
  keeps_transactEvents fun _ broker _ hJ hf =>
    (q.event broker).writeEvent .ready rfl hJ hf

theorem cancelOne (source : CanarySource) {binding} (hrun : binding.runId = runId)
    (decisionId reason : String) (now : Instant) (order : AlpacaPaperOrder) :
    Keeps (Holds J)
      (AdaptiveQuant.cancelOne service source binding decisionId reason now order) := by
  refine Keeps.bind (keeps_transact fun store broker command store' hJ hf => ?_) fun command => ?_
  · rcases ensureCommand_ok hf with ⟨rfl, -⟩ | ⟨-, rfl, -, hbinding, hnew⟩
    · exact hJ
    · exact q.command _ _ _ (cancelRow_made hrun _ _ _ _) rfl hbinding hnew hJ
  · refine (Keeps.reads _).bind fun latest => ?_
    split
    · exact Keeps.pure _
    · exact (keeps_cancelOrder q.moves _ (fun _ _ => q.post _ _ _)
        fun _ _ => q.cancel _ _ _).bind fun _ =>
          keeps_transactEvents fun _ broker _ hJ hf =>
            (q.event broker).writeNewEvent (.cancelled command order) rfl hJ hf

theorem cancelOrders (source : CanarySource) {binding} (hrun : binding.runId = runId)
    (decisionId reason : String) (now : Instant) (orders : List AlpacaPaperOrder) :
    Keeps (Holds J)
      (AdaptiveQuant.cancelOrders service source binding decisionId reason now orders) :=
  Keeps.each fun order _ => q.cancelOne source hrun decisionId reason now order

theorem recordBlocked (now : Instant) (code detail : String) :
    Keeps (Holds J) (AdaptiveQuant.recordBlocked service runId now code detail) := by
  refine Keeps.bind (keeps_transactEvents fun store broker store' hJ hf => ?_).attempt
    fun _ => Keeps.pure _
  split at hf
  · cases hf
    exact hJ
  · exact (q.event broker).writeEvent (.blocked code detail) rfl hJ hf

end

end Quiet

variable {orders : List AlpacaPaperOrder}

theorem parseOrders_ok {result} (h : orders.mapM parseOrder = .ok result) : result = orders := by
  induction orders generalizing result with
  | nil =>
    rw [mapM_nil, pure_eq_ok] at h
    exact h.symm
  | cons order rest ih =>
    simp only [mapM_cons, ok_iff] at h
    obtain ⟨head, hhead, tail, htail, rfl⟩ := h
    rw [parseOrder_ok hhead, ih htail]

/-- The broker that the third request of a sync meets: the one that lists its orders. -/
def World.listing (w : World PaperStore) : Broker := w.next.next.next.broker

variable {w w' : World PaperStore}

theorem bindAccount_ok {account : AlpacaPaperAccount}
    {positions : List AlpacaPaperPosition} {openOrders : List AlpacaPaperOrder} {now : Instant}
    {existing : Option PaperBrokerBindingRow} {binding : PaperBrokerBindingRow}
    (found : existing = w.store.bindingForRun runId)
    (h : bindAccount service runId account positions openOrders now existing w =
      (.ok binding, w')) :
    binding.runId = runId ∧ binding ∈ w'.store.bindings ∧
      w'.store.commands = w.store.commands ∧ w'.broker = w.broker ∧
      w'.exchanges = w.exchanges ∧ (w.life = none → w'.life = none) ∧
      w'.store.events = w.store.events ∧
      (existing = some binding ∨ (existing = none ∧ binding.createdAt = now)) := by
  cases existing with
  | some stored =>
    simp only [bindAccount, bind_run_eq_ok] at h
    obtain ⟨_, s, hcheck, hpure⟩ := h
    obtain ⟨-, rfl⟩ := Prod.mk.inj hcheck
    cases hpure
    have hmem := mem_of_find?_eq_some found.symm
    have hrun := List.find?_some found.symm
    exact ⟨by simpa using hrun, hmem, rfl, rfl, rfl, id, rfl, .inl rfl⟩
  | none =>
    simp only [bindAccount, bind_run_eq_ok] at h
    obtain ⟨_, s, hcheck, hcreate⟩ := h
    obtain ⟨-, rfl⟩ := Prod.mk.inj hcheck
    obtain ⟨life, store', hlife, hstore, rfl⟩ := transact_ok hcreate
    obtain ⟨-, ⟨rfl, hmem, hsame⟩ | ⟨rfl, -, rfl⟩⟩ :=
      PaperStore.createBinding_ok (mapError_eq_ok.mp hstore)
    · have hrun : binding.runId = (bindingRow service runId account now).runId := by rw [← hsame]
      have hcreated : binding.createdAt = (bindingRow service runId account now).createdAt := by
        rw [← hsame]
      exact ⟨hrun, hmem, rfl, rfl, rfl, hlife, rfl, .inr ⟨rfl, hcreated⟩⟩
    · exact ⟨rfl, by simp, rfl, rfl, rfl, hlife, rfl, .inr ⟨rfl, rfl⟩⟩

theorem listOrders_ok {limit : ℕ} (h : listOrders limit w = (.ok orders, w')) :
    orders = w.next.broker.orders.take limit ∧
      ∃ life, (w.life = none → life = none) ∧ w' = { w.next with life } := by
  simp only [listOrders, bind_run_eq_ok] at h
  obtain ⟨_, s, hcheck, hquery⟩ := h
  obtain ⟨-, rfl⟩ := Prod.mk.inj hcheck
  obtain ⟨hanswer, hw'⟩ := query_ok hquery
  exact ⟨parseOrders_ok hanswer, hw'⟩

theorem listFillActivities_ok {after : Instant} {pageSize : ℕ} {fills}
    (h : listFillActivities after pageSize w = (.ok fills, w')) :
    fills = w.next.broker.listFillActivities after pageSize ∧
      ∃ life, (w.life = none → life = none) ∧ w' = { w.next with life } := by
  simp only [listFillActivities, bind_run_eq_ok] at h
  obtain ⟨_, s, hcheck, hquery⟩ := h
  obtain ⟨-, rfl⟩ := Prod.mk.inj hcheck
  obtain ⟨hanswer, hw'⟩ := query_ok hquery
  exact ⟨(Except.ok.inj hanswer).symm, hw'⟩

theorem persistReconciliationSnapshot_ok
    {binding : PaperBrokerBindingRow} {account : AlpacaPaperAccount}
    {positions : List AlpacaPaperPosition}
    {fills : List AlpacaPaperFillActivity} {now : Instant} {rows : List PaperBrokerCommandRow}
    (h : persistReconciliationSnapshot service binding account positions orders fills now w =
      (.ok rows, w')) :
    rows = w.store.commandsOf binding.bindingId ∧ w'.store.bindings = w.store.bindings ∧
      w'.store.commands = w.store.commands ∧ w'.broker = w.broker ∧
      w'.exchanges = w.exchanges ∧ (w.life = none → w'.life = none) := by
  obtain ⟨life, store', hlife, hstore, rfl⟩ := transact_ok h
  cases hwrite : writeSnapshot service binding account positions orders fills now w.store with
  | error failure =>
    rw [hwrite] at hstore
    cases hstore
  | ok result =>
    rw [hwrite] at hstore
    cases hstore
    obtain ⟨hbindings, hcommands⟩ :=
      (eventClosed_tables w.store).writeSnapshot ⟨rfl, rfl⟩ hwrite
    exact ⟨rfl, hbindings, hcommands, rfl, rfl, hlife⟩

structure Observed (service : CanaryService) (runId : String) (source : CanarySource)
    (w : World PaperStore) (o : Observation) (w' : World PaperStore) : Prop where
  run : o.binding.runId = runId
  binding : o.binding ∈ w'.store.bindings
  stored : w'.store.commands = w.store.commands
  openOrders : o.openOrders =
    (w.listing.orders.take service.config.val.orderHistoryLimit).filter (·.isOpen)
  commands : o.commands = w.store.commandsOf o.binding.bindingId
  decision : o.decision = latestDecision service source runId
  risk : o.risk = latestSourceRiskState service source runId
  exchanges : w'.exchanges = w.exchanges.drop 4
  alive : w.life = none → w'.life = none

theorem latestSourceDecision_ok {decision}
    (h : latestSourceDecision service source runId = .ok decision) :
    decision = latestDecision service source runId := by
  simp only [latestSourceDecision, ok_iff] at h
  obtain ⟨-, -, rfl⟩ := h
  rfl

theorem observe_ok {now : Instant} {o} (h : observe service runId source now w = (.ok o, w')) :
    Observed service runId source w o w' := by
  simp only [observe, bind_run_eq_ok, ofExcept_run, reads_run, pure_run, Prod.mk.injEq,
    Except.ok.injEq] at h
  obtain ⟨_, s, ⟨-, rfl⟩, _, s, ⟨rfl, rfl⟩, _, s, ⟨-, rfl⟩, account, w1, haccount, positions, w2,
    hpositions, orders, w3, horders, binding, w4, hbinding, fills, w5, hfills, rows, w6, hrows,
    _, s, ⟨-, rfl⟩, _, s, ⟨-, rfl⟩, decision, s, ⟨hdecision, rfl⟩, rfl, rfl⟩ := h
  obtain ⟨-, life1, hlife1, rfl⟩ := query_ok haccount
  obtain ⟨-, life2, hlife2, rfl⟩ := query_ok hpositions
  obtain ⟨rfl, life3, hlife3, rfl⟩ := listOrders_ok horders
  obtain ⟨hrun, hmem, hstored, hbroker, hexchanges, hlife4, -⟩ := bindAccount_ok (by rfl) hbinding
  obtain ⟨-, life5, hlife5, rfl⟩ := listFillActivities_ok hfills
  obtain ⟨rfl, hbindings, hcommands, -, hexchanges', hlife6⟩ :=
    persistReconciliationSnapshot_ok hrows
  exact {
    run := hrun
    binding := by rw [hbindings]; exact hmem
    stored := hcommands.trans hstored
    openOrders := rfl
    commands := by
      show PaperStore.commandsOf w4.store binding.bindingId = _
      rw [PaperStore.commandsOf, hstored]
      rfl
    decision := latestSourceDecision_ok hdecision
    risk := rfl
    exchanges := by
      rw [hexchanges']
      show w4.exchanges.tail = _
      rw [hexchanges]
      show w.exchanges.tail.tail.tail.tail = _
      simp only [← drop_one, drop_drop]
    alive := fun halive =>
      hlife6 (hlife5 (hlife4 (hlife3 (hlife2 (hlife1 halive))))) }

end AdaptiveQuant
