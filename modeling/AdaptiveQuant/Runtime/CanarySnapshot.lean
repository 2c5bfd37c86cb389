import AdaptiveQuant.Runtime.CanaryLoop
import Mathlib.Tactic.MkIffOfInductiveProp

/-! The reconciliation of a sync in its parts. -/

namespace AdaptiveQuant

open Guard Effect List

structure Gathered where
  binding : PaperBrokerBindingRow
  account : AlpacaPaperAccount
  positions : List AlpacaPaperPosition
  orders : List AlpacaPaperOrder
  fills : List AlpacaPaperFillActivity

def gather (service : CanaryService) (runId : String) (source : CanarySource) (now : Instant) :
    Sync Gathered := do
  Effect.ofExcept (checkRun service source.run)
  let existing ← Effect.reads fun w => w.store.bindingForRun runId
  let fillsAfter ← Effect.reads fun w => fillCursor w.store now existing
  let account ← getAccount
  let positions ← listPositions
  let orders ← listOrders service.config.val.orderHistoryLimit
  let binding ← bindAccount service runId account positions (orders.filter (·.isOpen)) now existing
  let fills ← listFillActivities fillsAfter service.config.val.fillActivityPageSize
  pure { binding, account, positions, orders, fills }

/-- What the call gathers before it writes. -/
abbrev World.gathered (w : World PaperStore) (service : CanaryService) (runId : String)
    (call : SyncCall) :=
  gather service runId call.source call.now (w.enter call)

def conclude (service : CanaryService) (runId : String) (source : CanarySource) (g : Gathered)
    (commands : List PaperBrokerCommandRow) : Sync Observation := do
  let checked ← Effect.reads fun w => validateDedicatedAccount service g.binding g.positions
    (g.orders.filter (·.isOpen)) commands w.store
  Effect.ofExcept checked
  let decision ← Effect.ofExcept (latestSourceDecision service source runId)
  pure { binding := g.binding, account := g.account, positions := g.positions,
         openOrders := g.orders.filter (·.isOpen), commands, decision,
         risk := latestSourceRiskState service source runId }

theorem observe_eq (service : CanaryService) (runId : String) (source : CanarySource)
    (now : Instant) : observe service runId source now = (do
      let g ← gather service runId source now
      let commands ← persistReconciliationSnapshot service g.binding g.account g.positions g.orders
        g.fills now
      conclude service runId source g commands) := by
  simp only [gather, bind_bind, pure_bind_eq]
  rfl

/-- The broker that the fourth request of a sync meets: the one that lists its fills. -/
def World.fetching (w : World PaperStore) : Broker := w.next.next.next.next.broker

structure Gathered.Of (service : CanaryService) (runId : String) (now : Instant)
    (w : World PaperStore) (g : Gathered) (w' : World PaperStore) : Prop where
  run : g.binding.runId = runId
  binding : g.binding ∈ w'.store.bindings
  commands : w'.store.commands = w.store.commands
  events : w'.store.events = w.store.events
  orders : g.orders = w.listing.orders.take service.config.val.orderHistoryLimit
  fills : g.fills = w'.broker.listFillActivities
    (((w.store.lastFill g.binding.bindingId).map (·.occurredAt)).getD g.binding.createdAt)
    service.config.val.fillActivityPageSize
  bound : w.store.bindingForRun runId = some g.binding ∨
    (w.store.bindingForRun runId = none ∧ g.binding.createdAt = now)
  broker : w'.broker = w.fetching
  exchanges : w'.exchanges = w.exchanges.drop 4
  alive : w.life = none → w'.life = none

variable {service : CanaryService} {runId : String}

theorem PaperStore.Sound.events_nil {store : PaperStore}
    (h : store.Sound service runId) (new : store.bindingForRun runId = none) :
    store.events = [] := by
  rw [eq_nil_iff_forall_not_mem]
  intro event hevent
  obtain ⟨-, binding, hbinding, -⟩ := h.events event hevent
  have := h.binding binding hbinding
  rw [new] at this
  cases this

theorem keeps_gather {J : PaperStore → Broker → Prop} (moves : Unmoved J)
    (bind : ∀ store broker row, PaperBrokerBindingRow.Made service runId row →
      store.bindingForRun runId = none → J store broker →
      J { store with bindings := store.bindings ++ [row] } broker)
    (source : CanarySource) (now : Instant) :
    Keeps (Holds J) (gather service runId source now) :=
  (Keeps.ofExcept _).bind fun _ => (Keeps.reads _).bind fun _ => (Keeps.reads _).bind
    fun _ => (keeps_getAccount moves).bind fun _ => (keeps_listPositions moves).bind
    fun _ => (keeps_listOrders moves _).bind fun _ => (keeps_bindAccount bind _ _ _ _ _).bind
    fun _ => (keeps_listFillActivities moves _ _).bind fun _ => Keeps.pure _

theorem gather_ok {source} {now : Instant} {g : Gathered} {w w'}
    (sound : w.store.Sound service runId) (h : gather service runId source now w = (.ok g, w')) :
    g.Of service runId now w w' := by
  simp only [gather, bind_run_eq_ok, ofExcept_run, reads_run, pure_run, Prod.mk.injEq,
    Except.ok.injEq] at h
  obtain ⟨_, s, ⟨-, rfl⟩, existing, s, ⟨hexisting, rfl⟩, _, s, ⟨rfl, rfl⟩, account, w1, haccount,
    positions, w2, hpositions, orders, w3, horders, binding, w4, hbinding, fills, w5, hfills, rfl,
    rfl⟩ := h
  obtain ⟨-, life1, hlife1, rfl⟩ := query_ok haccount
  obtain ⟨-, life2, hlife2, rfl⟩ := query_ok hpositions
  obtain ⟨rfl, life3, hlife3, rfl⟩ := listOrders_ok horders
  obtain ⟨hrun, hmem, hstored, hbroker, hexchanges, hlife4, hevents, hnew⟩ :=
    bindAccount_ok (by exact hexisting.symm) hbinding
  obtain ⟨rfl, life5, hlife5, rfl⟩ := listFillActivities_ok hfills
  exact {
    run := hrun
    binding := hmem
    commands := hstored
    events := hevents
    orders := rfl
    fills := by
      rcases hnew with rfl | ⟨rfl, hcreated⟩
      · rfl
      · have hlast : w.store.lastFill binding.bindingId = none := by
          rw [PaperStore.lastFill, sound.events_nil hexisting]
          rfl
        show _ = Broker.listFillActivities _ (((w.store.lastFill binding.bindingId).map
          (·.occurredAt)).getD binding.createdAt) _
        rw [hlast, hcreated]
        rfl
    bound := by
      rcases hnew with rfl | ⟨rfl, hcreated⟩
      · exact .inl hexisting
      · exact .inr ⟨hexisting, hcreated⟩
    broker := by
      show (w4.exchanges.headD silence).moves.foldl Broker.move w4.broker = _
      rw [hexchanges, hbroker]
      rfl
    exchanges := by
      show w4.exchanges.tail = _
      rw [hexchanges]
      show w.exchanges.tail.tail.tail.tail = _
      simp only [← drop_one, drop_drop]
    alive := fun halive => hlife5 (hlife4 (hlife3 (hlife2 (hlife1 halive)))) }

def PaperStore.keysOf (store : PaperStore) (bindingId : String) : List String :=
  (store.events.filter (·.bindingId = bindingId)).map (·.idempotencyKey)

theorem PaperStore.mem_keysOf {store : PaperStore} {bindingId key : String} :
    key ∈ store.keysOf bindingId ↔ store.eventExists bindingId key := by
  simp only [PaperStore.keysOf, PaperStore.eventExists, mem_map, mem_filter,
    decide_eq_true_eq, and_assoc]

/-- Each report is recorded already, under its key, or it is in time. -/
def TimelyReports (now : Instant) : List String → List (String × Instant) → Prop
  | _, [] => True
  | known, (key, occurredAt) :: rest =>
    (key ∈ known ∨ occurredAt ≤ now) ∧ TimelyReports now (key :: known) rest

instance TimelyReports.decidable (now : Instant) :
    ∀ known reports, Decidable (TimelyReports now known reports)
  | _, [] => isTrue trivial
  | known, (key, occurredAt) :: rest =>
    haveI := TimelyReports.decidable now (key :: known) rest
    inferInstanceAs (Decidable ((key ∈ known ∨ occurredAt ≤ now) ∧ _))

theorem timelyReports_congr {now : Instant} {known known' reports}
    (h : ∀ key, key ∈ known ↔ key ∈ known') :
    TimelyReports now known reports ↔ TimelyReports now known' reports := by
  induction reports generalizing known known' with
  | nil => exact Iff.rfl
  | cons report rest ih =>
    obtain ⟨key, occurredAt⟩ := report
    refine and_congr (or_congr_left (h key)) (ih fun other => ?_)
    rw [mem_cons, mem_cons, h other]

def newEvents : List String → List BrokerEvent → List BrokerEvent
  | _, [] => []
  | known, event :: rest =>
    if event.idempotencyKey ∈ known then newEvents known rest
    else event :: newEvents (event.idempotencyKey :: known) rest

theorem newEvents_congr {known known' events} (h : ∀ key, key ∈ known ↔ key ∈ known') :
    newEvents known events = newEvents known' events := by
  induction events generalizing known known' with
  | nil => rfl
  | cons event rest ih =>
    have hcons : ∀ key, key ∈ event.idempotencyKey :: known ↔
        key ∈ event.idempotencyKey :: known' := fun key => by
      rw [mem_cons, mem_cons, h key]
    rw [newEvents, newEvents, ih h, ih hcons]
    exact if_congr (h _) rfl rfl

def BrokerEvent.report (event : BrokerEvent) : String × Instant :=
  (event.idempotencyKey, event.occurredAt)

def writeEvents (service : CanaryService) (binding : PaperBrokerBindingRow) (now : Instant)
    (events : List BrokerEvent) (store : PaperStore) : Except CanaryFailure PaperStore :=
  events.foldlM (fun store event => writeNewEvent service binding now event store) store

def PaperStore.withEvents (service : CanaryService) (binding : PaperBrokerBindingRow)
    (now : Instant) (events : List BrokerEvent) (store : PaperStore) : PaperStore :=
  { store with events := store.events ++
      (newEvents (store.keysOf binding.bindingId) events).map (·.row service binding now) }

section Writing

variable {service : CanaryService} {runId : String} {binding : PaperBrokerBindingRow}
  {now : Instant} {store : PaperStore}

theorem keysOf_append (service : CanaryService) (now : Instant) (event : BrokerEvent)
    (key : String) :
    key ∈ PaperStore.keysOf { store with events := store.events ++ [event.row service binding now] }
      binding.bindingId ↔ key ∈ event.idempotencyKey :: store.keysOf binding.bindingId := by
  have hrow : (event.row service binding now).bindingId = binding.bindingId := rfl
  simp only [PaperStore.keysOf, filter_append, map_append, mem_append,
    filter_cons, hrow, decide_true, filter_nil, map_cons, map_nil,
    mem_cons, not_mem_nil, or_false, if_true]
  exact or_comm

theorem withEvents_cons_new {event rest}
    (new : event.idempotencyKey ∉ store.keysOf binding.bindingId) :
    store.withEvents service binding now (event :: rest) =
      PaperStore.withEvents service binding now rest
        { store with events := store.events ++ [event.row service binding now] } := by
  rw [PaperStore.withEvents, newEvents, if_neg new, PaperStore.withEvents,
    newEvents_congr (keysOf_append service now event), map_cons, append_assoc]
  rfl

theorem withEvents_cons_known {event rest}
    (known : event.idempotencyKey ∈ store.keysOf binding.bindingId) :
    store.withEvents service binding now (event :: rest) =
      store.withEvents service binding now rest := by
  rw [PaperStore.withEvents, newEvents, if_pos known]
  rfl

theorem mem_newEvents {known events event} (h : event ∈ events) : event.idempotencyKey ∈ known ∨
      ∃ other ∈ newEvents known events, other.idempotencyKey = event.idempotencyKey := by
  induction events generalizing known with
  | nil => cases h
  | cons first rest ih =>
    rw [newEvents]
    split
    · rename_i hknown
      rcases mem_cons.mp h with rfl | hrest
      · exact .inl hknown
      · exact ih hrest
    · rcases mem_cons.mp h with rfl | hrest
      · exact .inr ⟨event, mem_cons_self, rfl⟩
      · rcases ih hrest with hknown | ⟨other, hother, hkey⟩
        · rcases mem_cons.mp hknown with hfirst | hknown
          · exact .inr ⟨first, mem_cons_self, hfirst.symm⟩
          · exact .inl hknown
        · exact .inr ⟨other, mem_cons_of_mem _ hother, hkey⟩

theorem withEvents_exists {events event} (h : event ∈ events) :
    (store.withEvents service binding now events).eventExists binding.bindingId
      event.idempotencyKey := by
  rcases mem_newEvents h with hknown | ⟨other, hother, hkey⟩
  · obtain ⟨stored, hstored, hfacts⟩ := PaperStore.mem_keysOf.mp hknown
    exact ⟨stored, mem_append_left _ hstored, hfacts⟩
  · exact ⟨other.row service binding now,
      mem_append_right _ (mem_map_of_mem hother), rfl, hkey⟩

theorem writeEvents_eq (apart : service.hash.TellsApart) (sound : store.Sound service runId)
    (hbinding : binding ∈ store.bindings) {events} (fits : ∀ event ∈ events, event.Fits store)
    (made : ∀ event ∈ events, SyncEvent service binding now event) :
    writeEvents service binding now events store =
      if TimelyReports now (store.keysOf binding.bindingId) (events.map (·.report)) then
        .ok (store.withEvents service binding now events)
      else .error timestampFailure := by
  induction events generalizing store with
  | nil =>
    rw [if_pos (by exact trivial)]
    simp [writeEvents, PaperStore.withEvents, newEvents]
  | cons event rest ih =>
    rw [forall_mem_cons] at fits made
    have hwrite := fits.1.writeNewEvent apart sound hbinding made.1
    have hfold : writeEvents service binding now (event :: rest) store =
        (AdaptiveQuant.writeNewEvent service binding now event store >>=
          fun store' => writeEvents service binding now rest store') := foldlM_cons
    rw [hfold, hwrite]
    by_cases hknown : event.idempotencyKey ∈ store.keysOf binding.bindingId
    · have htimely : TimelyReports now (store.keysOf binding.bindingId)
          ((event :: rest).map (·.report)) ↔
          TimelyReports now (store.keysOf binding.bindingId) (rest.map (·.report)) := by
        refine (and_iff_right (.inl hknown)).trans (timelyReports_congr fun key => ?_)
        rw [mem_cons, or_iff_right_of_imp]
        rintro rfl
        exact hknown
      rw [if_pos (PaperStore.mem_keysOf.mp hknown), ok_bind, ih sound hbinding fits.2 made.2,
        withEvents_cons_known hknown]
      exact if_congr htimely.symm rfl rfl
    · rw [if_neg (mt PaperStore.mem_keysOf.mpr hknown)]
      by_cases hlate : now < event.occurredAt
      · have hnot : ¬TimelyReports now (store.keysOf binding.bindingId)
            ((event :: rest).map (·.report)) := fun h =>
          absurd (h.1.resolve_left hknown) (not_le.mpr hlate)
        rw [if_pos hlate, if_neg hnot, error_bind]
      · have htimely : TimelyReports now (store.keysOf binding.bindingId)
            ((event :: rest).map (·.report)) ↔ TimelyReports now (PaperStore.keysOf
              { store with events := store.events ++ [event.row service binding now] }
              binding.bindingId) (rest.map (·.report)) :=
          (and_iff_right (.inr (not_lt.mp hlate))).trans
            (timelyReports_congr fun key => (keysOf_append service now event key).symm)
        rw [if_neg hlate, ok_bind, ih (sound.append_event made.1 ⟨binding, hbinding, rfl⟩) hbinding
          (fun other hother => (fits.2 other hother).of_commands rfl) made.2,
          withEvents_cons_new hknown]
        exact if_congr htimely.symm rfl rfl

end Writing

def snapshotEvents (service : CanaryService) (binding : PaperBrokerBindingRow)
    (rows : List PaperBrokerCommandRow) (orders : List AlpacaPaperOrder) : List BrokerEvent :=
  orders.filterMap fun order => (commandFor rows order.clientOrderId).map fun command =>
    orderEvent service binding command .orderSnapshot "alpaca-order-snapshot" order

def fillEvents (service : CanaryService) (binding : PaperBrokerBindingRow)
    (rows : List PaperBrokerCommandRow) (orders : List AlpacaPaperOrder)
    (fills : List AlpacaPaperFillActivity) : List BrokerEvent :=
  fills.filterMap fun fill => (ownedByBroker rows orders fill.brokerOrderId).map fun owned =>
    fillEvent service binding owned.2 owned.1 fill

def Gathered.events (service : CanaryService) (now : Instant) (store : PaperStore) (g : Gathered) :
    List BrokerEvent :=
  accountEvent service g.binding g.account now ::
    positionsEvent service g.binding g.positions now ::
    (snapshotEvents service g.binding (store.commandsOf g.binding.bindingId) g.orders ++
      fillEvents service g.binding (store.commandsOf g.binding.bindingId) g.orders g.fills)

/-- The broker reports a fill of an order in a way that the store takes. -/
@[mk_iff]
structure AlpacaPaperFillActivity.Genuine (fill : AlpacaPaperFillActivity)
    (order : AlpacaPaperOrder) (command : PaperBrokerCommandRow) : Prop where
  quantity : 0 < fill.quantity
  price : 0 < fill.price
  length : order.clientOrderId.length ≤ 128
  client : command.clientOrderId = some order.clientOrderId
  broker : ∀ id ∈ command.brokerOrderId, id = fill.brokerOrderId
  allowed : fill.symbol ∈ alpacaPaperAllowedSymbols
  symbol : fill.symbol = command.symbol
  side : fill.side = command.side

instance (fill : AlpacaPaperFillActivity) (order : AlpacaPaperOrder)
    (command : PaperBrokerCommandRow) : Decidable (fill.Genuine order command) :=
  decidable_of_iff' _ (AlpacaPaperFillActivity.genuine_iff ..)

/-- The broker's reports are ones that the store takes, but for their times, and no snapshot was
taken at this instant before. -/
@[mk_iff]
structure Gathered.Genuine (service : CanaryService) (now : Instant) (store : PaperStore)
    (g : Gathered) : Prop where
  orders : ∀ order ∈ g.orders, ∀ command ∈
    commandFor (store.commandsOf g.binding.bindingId) order.clientOrderId, order.Genuine command
  fills : ∀ fill ∈ g.fills, ∀ owned ∈ ownedByBroker (store.commandsOf g.binding.bindingId) g.orders
    fill.brokerOrderId, fill.Genuine owned.1 owned.2
  account : ¬store.eventExists g.binding.bindingId
    (accountEvent service g.binding g.account now).idempotencyKey
  positions : ¬store.eventExists g.binding.bindingId
    (positionsEvent service g.binding g.positions now).idempotencyKey

instance (service : CanaryService) (now : Instant) (store : PaperStore) (g : Gathered) :
    Decidable (g.Genuine service now store) :=
  decidable_of_iff' _ (Gathered.genuine_iff ..)

section Snapshot

variable {service : CanaryService} {runId : String} {now : Instant} {store : PaperStore}
  {g : Gathered}

variable {command : PaperBrokerCommandRow}

theorem mem_commandFor {rows} {clientOrderId : String}
    (h : commandFor rows clientOrderId = some command) :
    command ∈ rows := (mem_filter.mp (mem_of_getLast? h)).1

theorem mem_ownedByBroker {rows orders} {brokerOrderId : String} {owned}
    (h : ownedByBroker rows orders brokerOrderId = some owned) :
    owned.1 ∈ orders ∧ owned.2 ∈ rows ∧ owned.1.brokerOrderId = brokerOrderId := by
  obtain ⟨hmem, hid⟩ := mem_filter.mp (mem_of_getLast? h)
  obtain ⟨order, horder, hcommand⟩ := mem_filterMap.mp hmem
  obtain ⟨command, hfound, rfl⟩ := Option.map_eq_some_iff.mp hcommand
  exact ⟨horder, mem_commandFor hfound, by simpa using hid⟩

theorem mem_commandsOf {bindingId : String}
    (h : command ∈ store.commandsOf bindingId) : command ∈ store.commands := by
  rw [PaperStore.commandsOf, Sequence.mem_sortedBy, mem_filter] at h
  exact h.1

theorem AlpacaPaperFillActivity.Genuine.fits {fill order} (genuine : fill.Genuine order command)
    (apart : service.hash.TellsApart) (stored : command ∈ store.commands)
    (binding : PaperBrokerBindingRow) :
    (fillEvent service binding command order fill).Fits store where
  status := by simp [fillEvent]
  key := apart.named _ _
  symbol := by simpa [fillEvent] using genuine.allowed
  quantity := by simpa [fillEvent] using genuine.quantity
  filled quantity h := by
    obtain rfl := Option.some.inj h
    exact le_max_of_le_left genuine.quantity.le
  price := by simpa [fillEvent] using genuine.price
  client := genuine.length
  complete _ := by simp [fillEvent]
  command other h := by
    obtain rfl := Option.some.inj h
    refine ⟨stored, fun _ _ => genuine.client.symm, fun _ hnone => ?_, fun symbol hsymbol => ?_,
      fun side hside => ?_⟩
    · obtain ⟨id, hid⟩ := Option.ne_none_iff_exists'.mp hnone
      rw [hid, genuine.broker id hid]
      rfl
    · rw [← Option.some.inj hsymbol, genuine.symbol]
    · rw [← Option.some.inj hside, genuine.side]

theorem accountEvent_fits (apart : service.hash.TellsApart) (binding : PaperBrokerBindingRow)
    (account : AlpacaPaperAccount) : (accountEvent service binding account now).Fits store where
  status := by
    simp only [accountEvent]
    split <;> decide
  key := apart.named _ _
  symbol _ h := by cases h
  quantity _ h := by cases h
  filled _ h := by cases h
  price _ h := by cases h
  client := by simp [accountEvent]
  complete h := by cases h
  command _ h := by cases h

theorem positionsEvent_fits (apart : service.hash.TellsApart) (binding : PaperBrokerBindingRow)
    (positions : List AlpacaPaperPosition) :
    (positionsEvent service binding positions now).Fits store where
  status := by simp [positionsEvent]
  key := apart.named _ _
  symbol _ h := by cases h
  quantity _ h := by cases h
  filled _ h := by cases h
  price _ h := by cases h
  client := by simp [positionsEvent]
  complete h := by cases h
  command _ h := by cases h

theorem Gathered.Genuine.fits (genuine : g.Genuine service now store)
    (apart : service.hash.TellsApart) : ∀ event ∈ g.events service now store, event.Fits store := by
  rw [Gathered.events]
  simp only [forall_mem_cons, forall_mem_append]
  refine ⟨accountEvent_fits apart _ _, positionsEvent_fits apart _ _, ?_, ?_⟩
  · intro event hevent
    obtain ⟨order, horder, hcommand⟩ := mem_filterMap.mp hevent
    obtain ⟨command, hfound, rfl⟩ := Option.map_eq_some_iff.mp hcommand
    exact (genuine.orders order horder command hfound).fits apart
      (mem_commandsOf (mem_commandFor hfound)) (by decide) _
  · intro event hevent
    obtain ⟨fill, hfill, howned⟩ := mem_filterMap.mp hevent
    obtain ⟨owned, hfound, rfl⟩ := Option.map_eq_some_iff.mp howned
    exact (genuine.fills fill hfill owned hfound).fits apart
      (mem_commandsOf (mem_ownedByBroker hfound).2.1) _

theorem Gathered.events_made (service : CanaryService) (now : Instant) (store : PaperStore)
    (g : Gathered) :
    ∀ event ∈ g.events service now store, SyncEvent service g.binding now event := by
  rw [Gathered.events]
  simp only [forall_mem_cons, forall_mem_append]
  refine ⟨.account _, .positions _, ?_, ?_⟩
  · intro event hevent
    obtain ⟨order, horder, hcommand⟩ := mem_filterMap.mp hevent
    obtain ⟨command, hfound, rfl⟩ := Option.map_eq_some_iff.mp hcommand
    exact .order command order
  · intro event hevent
    obtain ⟨fill, hfill, howned⟩ := mem_filterMap.mp hevent
    obtain ⟨owned, hfound, rfl⟩ := Option.map_eq_some_iff.mp howned
    exact .fill owned.2 owned.1 fill

theorem foldlM_snapshotOrder (service : CanaryService) (binding : PaperBrokerBindingRow)
    (rows : List PaperBrokerCommandRow) (now : Instant) (orders : List AlpacaPaperOrder)
    (store : PaperStore) :
    orders.foldlM (snapshotOrder service binding rows now) store =
      writeEvents service binding now (snapshotEvents service binding rows orders) store := by
  rw [writeEvents, snapshotEvents, foldlM_filterMap]
  refine congrArg (fun step => orders.foldlM step store) ?_
  funext store order
  unfold snapshotOrder
  cases commandFor rows order.clientOrderId <;> rfl

theorem foldlM_recordFill (service : CanaryService) (binding : PaperBrokerBindingRow)
    (rows : List PaperBrokerCommandRow) (orders : List AlpacaPaperOrder) (now : Instant)
    (fills : List AlpacaPaperFillActivity) (store : PaperStore) :
    fills.foldlM (recordFill service binding rows orders now) store =
      writeEvents service binding now (fillEvents service binding rows orders fills) store := by
  rw [writeEvents, fillEvents, foldlM_filterMap]
  refine congrArg (fun step => fills.foldlM step store) ?_
  funext store fill
  unfold recordFill
  cases ownedByBroker rows orders fill.brokerOrderId <;> rfl

theorem writeEvent_now {event binding} (apart : service.hash.TellsApart)
    (sound : store.Sound service runId) (hbinding : binding ∈ store.bindings)
    (fits : event.Fits store) (made : SyncEvent service binding now event)
    (time : event.occurredAt = now)
    (new : ¬store.eventExists binding.bindingId event.idempotencyKey) :
    writeEvent service binding now event store =
      .ok { store with events := store.events ++ [event.row service binding now] } := by
  have hwrite := fits.writeNewEvent apart sound hbinding made
  rw [if_neg new, if_neg (by rw [time]; exact lt_irrefl now), writeNewEvent, if_neg new] at hwrite
  exact hwrite

theorem writeEvents_cons {binding event rest} {store' : PaperStore}
    (new : ¬store.eventExists binding.bindingId event.idempotencyKey)
    (ok : writeEvent service binding now event store = .ok store') :
    writeEvents service binding now (event :: rest) store =
      writeEvents service binding now rest store' := by
  rw [writeEvents, foldlM_cons, writeNewEvent, if_neg new, ok, ok_bind]
  rfl

theorem writeSnapshot_genuine (apart : service.hash.TellsApart) (sound : store.Sound service runId)
    (hbinding : g.binding ∈ store.bindings) (genuine : g.Genuine service now store) :
    writeSnapshot service g.binding g.account g.positions g.orders g.fills now store =
      if TimelyReports now (store.keysOf g.binding.bindingId)
          ((g.events service now store).map (·.report)) then
        .ok (store.withEvents service g.binding now (g.events service now store))
      else .error timestampFailure := by
  rw [← writeEvents_eq apart sound hbinding (genuine.fits apart) (g.events_made service now store)]
  have haccount := writeEvent_now apart sound hbinding (accountEvent_fits apart g.binding g.account)
    (.account g.account) rfl genuine.account
  have hsound : PaperStore.Sound service runId { store with events := store.events ++
      [(accountEvent service g.binding g.account now).row service g.binding now] } :=
    sound.append_event (.account g.account) ⟨g.binding, hbinding, rfl⟩
  -- The positions are recorded under another tag than the account.
  have hpositions : ¬PaperStore.eventExists { store with events := store.events ++
      [(accountEvent service g.binding g.account now).row service g.binding now] }
      g.binding.bindingId (positionsEvent service g.binding g.positions now).idempotencyKey := by
    rintro ⟨event, hevent, hbound, hkey⟩
    rcases mem_append.mp hevent with hold | hnew
    · exact genuine.positions ⟨event, hold, hbound, hkey⟩
    · rw [mem_singleton.mp hnew] at hkey
      exact absurd (apart.tag _ _ _ _ (by decide) (by decide) hkey) (by decide)
  have hwrite := writeEvent_now apart hsound hbinding
    (positionsEvent_fits apart g.binding g.positions) (.positions g.positions) rfl hpositions
  rw [Gathered.events, writeEvents_cons genuine.account haccount,
    writeEvents_cons hpositions hwrite,
    writeEvents, foldlM_append]
  rw [writeSnapshot, haccount, ok_bind, hwrite, ok_bind, foldlM_snapshotOrder]
  simp only [foldlM_recordFill]
  rfl

end Snapshot

end AdaptiveQuant
