import AdaptiveQuant.Runtime.CanaryClock
import Mathlib.Tactic.MkIffOfInductiveProp

/-! Whether every fill is recorded, once. -/

namespace AdaptiveQuant

open Guard Effect List

/-- The event tells of the fill. -/
structure AlpacaPaperFillActivity.RecordedBy (fill : AlpacaPaperFillActivity)
    (event : PaperBrokerEventRow) : Prop where
  activity : event.providerEventId = some fill.activityId
  order : event.brokerOrderId = some fill.brokerOrderId
  symbol : event.symbol = some fill.symbol
  side : event.side = some fill.side
  quantity : event.quantity = some fill.quantity
  price : event.fillPrice = some fill.price
  time : event.occurredAt = fill.executedAt

def PaperStore.runFills (store : PaperStore) (runId : String) : List PaperBrokerEventRow :=
  ((store.bindingForRun runId).map fun binding => store.fillsOf binding.bindingId).getD []

def PaperStore.runCommands (store : PaperStore) (runId : String) : List PaperBrokerCommandRow :=
  ((store.bindingForRun runId).map fun binding => store.commandsOf binding.bindingId).getD []

def RecordsFills (runId : String) (w : World PaperStore) : Prop :=
  Forall₂ (·.RecordedBy ·)
    (w.broker.activities.take (w.store.runFills runId).length) (w.store.runFills runId)

/-- In the order of their times, each once. -/
@[mk_iff]
structure InOrder (activities : List AlpacaPaperFillActivity) : Prop where
  times : activities.Pairwise fun a b => a.executedAt ≤ b.executedAt
  ids : (activities.map (·.activityId)).Nodup

instance (activities : List AlpacaPaperFillActivity) : Decidable (InOrder activities) :=
  decidable_of_iff' _ (inOrder_iff ..)

/-- What a sync needs of the activities that it has not recorded. -/
@[mk_iff]
structure FillsApart (service : CanaryService) (runId : String) (w : World PaperStore)
    (call : SyncCall) : Prop where
  bound : ∀ fill ∈ (w.enter call).fetching.activities,
    ((w.store.bindingForRun runId).map (·.createdAt)).getD call.now < fill.executedAt
  ties : ∀ fill ∈ (w.enter call).fetching.activities.take (w.store.runFills runId).length,
    ∀ next ∈ (w.enter call).fetching.activities.drop (w.store.runFills runId).length,
    fill.executedAt ≠ next.executedAt
  owned : ∀ fill ∈ ((w.enter call).fetching.activities.drop (w.store.runFills runId).length).take
      service.config.val.fillActivityPageSize,
    ownedByBroker (w.store.runCommands runId)
      ((w.enter call).listing.orders.take service.config.val.orderHistoryLimit)
      fill.brokerOrderId ≠ none

instance (service : CanaryService) (runId : String) (w : World PaperStore) (call : SyncCall) :
    Decidable (FillsApart service runId w call) :=
  decidable_of_iff' _ (fillsApart_iff ..)

def StoresSnapshot (service : CanaryService) (runId : String) (w : World PaperStore)
    (call : SyncCall) : Prop :=
  call.life = none ∧
  ∃ g ∈ (w.gathered service runId call).1.toOption,
    g.Genuine service call.now (w.gathered service runId call).2.store ∧
    TimelyReports call.now ((w.gathered service runId call).2.store.keysOf g.binding.bindingId)
      ((g.events service call.now (w.gathered service runId call).2.store).map (·.report))

instance (service : CanaryService) (runId : String) (w : World PaperStore) (call : SyncCall) :
    Decidable (StoresSnapshot service runId w call) := inferInstanceAs (Decidable (_ ∧ _))

def netPosition (activities : List AlpacaPaperFillActivity) (symbol : String) : Decimal :=
  ((activities.filter (·.symbol = symbol)).map fun fill =>
    if fill.side = .buy then fill.quantity else -fill.quantity).sum

def PaperStore.fills (store : PaperStore) : List PaperBrokerEventRow :=
  store.events.filter (·.eventType = .fillActivity)

def PaperStore.FillKeys (service : CanaryService) (store : PaperStore) : Prop :=
  ∀ event ∈ store.events, ∀ id, event.idempotencyKey =
      service.hash.stableId "alpaca-fill-activity" [.str event.bindingId, .str id] →
    event.eventType = .fillActivity ∧ event.providerEventId = some id

section Stored

variable {service : CanaryService} {runId : String} {store : PaperStore}

theorem PaperStore.Sound.bindingId_of_event (sound : store.Sound service runId) {binding}
    (hbinding : binding ∈ store.bindings) {event} (hevent : event ∈ store.events) :
    event.bindingId = binding.bindingId := by
  obtain ⟨-, other, hother, hid⟩ := sound.events event hevent
  rw [← hid, Option.some.inj ((sound.binding other hother).symm.trans
    (sound.binding binding hbinding))]

theorem PaperStore.Sound.runFills_eq (sound : store.Sound service runId) :
    store.runFills runId = store.fills := by
  cases hbinding : store.bindingForRun runId with
  | none =>
    rw [PaperStore.runFills, hbinding, PaperStore.fills, sound.events_nil hbinding]
    rfl
  | some binding =>
    rw [PaperStore.runFills, hbinding]
    refine filter_congr fun event hevent => ?_
    rw [sound.bindingId_of_event (mem_of_find?_eq_some hbinding) hevent]
    simp

theorem fillKeys_event (apart : service.hash.TellsApart) (snapshot : Bool) :
    EventClosed service snapshot (PaperStore.FillKeys service) := by
  intro store binding now event made _ _ h stored hstored id hkey
  rcases mem_append.mp hstored with hold | hnew
  · exact h stored hold id hkey
  · rw [mem_singleton.mp hnew] at hkey ⊢
    have hother : ∀ tag values, '_' ∉ tag.toList → tag ≠ "alpaca-fill-activity" →
        service.hash.stableId tag values ≠ service.hash.stableId "alpaca-fill-activity"
          [.str binding.bindingId, .str id] := fun tag values hplain hne heq =>
      hne (apart.tag _ _ _ _ hplain (by decide) heq)
    cases made with
    | fill command order fill =>
      exact ⟨rfl, congrArg some (apart.fill _ _ _ hkey)⟩
    | account => exact (hother _ _ (by decide) (by decide) hkey).elim
    | positions => exact (hother _ _ (by decide) (by decide) hkey).elim
    | order => exact (hother _ _ (by decide) (by decide) hkey).elim
    | submitted => exact (hother _ _ (by decide) (by decide) hkey).elim
    | cancelled => exact (hother _ _ (by decide) (by decide) hkey).elim
    | ready => exact (hother _ _ (by decide) (by decide) hkey).elim
    | blocked => exact (hother _ _ (by decide) (by decide) hkey).elim

theorem fills_append {binding : PaperBrokerBindingRow} {now : Instant} {event : BrokerEvent}
    (other : event.eventType ≠ .fillActivity) :
    PaperStore.fills { store with events := store.events ++ [event.row service binding now] } =
      store.fills := by
  have hrow : (event.row service binding now).eventType ≠ .fillActivity := other
  simp [PaperStore.fills, filter_append, hrow]

end Stored

section Adding

variable {service : CanaryService} {runId : String} {store store' : PaperStore}
  {binding : PaperBrokerBindingRow} {now : Instant} {event : BrokerEvent}

theorem writeNewEvent_ok (apart : service.hash.TellsApart) (sound : store.Sound service runId)
    (hbinding : binding ∈ store.bindings) (made : SyncEvent service binding now event)
    (ok : writeNewEvent service binding now event store = .ok store') :
    store' = if store.eventExists binding.bindingId event.idempotencyKey then store
      else { store with events := store.events ++ [event.row service binding now] } := by
  unfold writeNewEvent at ok
  by_cases hknown : store.eventExists binding.bindingId event.idempotencyKey
  · rw [if_pos hknown] at ok ⊢
    exact (Except.ok.inj ok).symm
  · rw [if_neg hknown] at ok ⊢
    have happend := mapError_eq_ok.mp ok
    simp only [PaperStore.appendEvent, bind_eq_ok,
      sound.eventLike_none apart hbinding hknown made] at happend
    obtain ⟨-, -, -, -, hstore⟩ := happend
    exact (pure_eq_ok.mp hstore).symm

theorem writeEvents_ok (apart : service.hash.TellsApart) (sound : store.Sound service runId)
    (hbinding : binding ∈ store.bindings) {events}
    (made : ∀ event ∈ events, SyncEvent service binding now event)
    (ok : writeEvents service binding now events store = .ok store') :
    store' = store.withEvents service binding now events := by
  induction events generalizing store with
  | nil =>
    cases ok
    simp [PaperStore.withEvents, newEvents]
  | cons event rest ih =>
    rw [forall_mem_cons] at made
    simp only [writeEvents, foldlM_cons, bind_eq_ok] at ok
    obtain ⟨next, hnext, hrest⟩ := ok
    have hstore := writeNewEvent_ok apart sound hbinding made.1 hnext
    by_cases hknown : store.eventExists binding.bindingId event.idempotencyKey
    · rw [if_pos hknown] at hstore
      rw [withEvents_cons_known (PaperStore.mem_keysOf.mpr hknown)]
      subst hstore
      exact ih sound hbinding made.2 hrest
    · rw [if_neg hknown] at hstore
      rw [withEvents_cons_new (mt PaperStore.mem_keysOf.mp hknown)]
      subst hstore
      exact ih (sound.append_event made.1 ⟨binding, hbinding, rfl⟩) hbinding made.2 hrest

structure PaperStore.HasFills (service : CanaryService) (runId : String)
    (fills : List PaperBrokerEventRow) (bindings : List PaperBrokerBindingRow)
    (store : PaperStore) : Prop where
  sound : store.Sound service runId
  keys : store.FillKeys service
  fills : store.fills = fills
  bindings : store.bindings = bindings

section Others

variable {fills : List PaperBrokerEventRow} {bindings : List PaperBrokerBindingRow}

section

variable (h : store.HasFills service runId fills bindings)

include h

theorem PaperStore.HasFills.writeEvent (apart : service.hash.TellsApart)
    (made : SyncEvent service binding now event) (other : event.eventType ≠ .fillActivity)
    (ok : AdaptiveQuant.writeEvent service binding now event store = .ok store') :
    store'.HasFills service runId fills bindings := by
  rcases PaperStore.appendEvent_ok (mapError_eq_ok.mp ok) with rfl | ⟨hbound, rfl⟩
  · exact h
  · exact ⟨h.sound.append_event made hbound, fillKeys_event apart _ _ _ _ _ made rfl hbound h.keys,
      (fills_append other).trans h.fills, h.bindings⟩

theorem PaperStore.HasFills.writeNewEvent (apart : service.hash.TellsApart)
    (made : SyncEvent service binding now event) (other : event.eventType ≠ .fillActivity)
    (ok : AdaptiveQuant.writeNewEvent service binding now event store = .ok store') :
    store'.HasFills service runId fills bindings := by
  unfold AdaptiveQuant.writeNewEvent at ok
  split at ok
  · cases ok
    exact h
  · exact h.writeEvent apart made other ok

theorem PaperStore.HasFills.writeSnapshot
    (apart : service.hash.TellsApart) (hbinding : binding ∈ bindings)
    {account : AlpacaPaperAccount} {positions : List AlpacaPaperPosition}
    {orders : List AlpacaPaperOrder} {activities : List AlpacaPaperFillActivity}
    (ok : AdaptiveQuant.writeSnapshot service binding account positions orders activities now
      store = .ok store') :
    ∃ middle : PaperStore, middle.HasFills service runId fills bindings ∧
      store' = middle.withEvents service binding now
        (fillEvents service binding (store.commandsOf binding.bindingId) orders activities) := by
  simp only [AdaptiveQuant.writeSnapshot, bind_eq_ok] at ok
  obtain ⟨s1, h1, s2, h2, s3, h3, h4⟩ := ok
  have hpositions := (h.writeEvent apart (.account account) (by simp [accountEvent]) h1).writeEvent
    apart (.positions positions) (by simp [positionsEvent]) h2
  have horders : s3.HasFills service runId fills bindings := by
    refine foldlM_induction h3 (fun _ store => store.HasFills service runId fills bindings)
      hpositions ?_
    intro _ order acc acc' hacc hstep
    unfold snapshotOrder at hstep
    split at hstep
    · cases hstep
      exact hacc
    · exact hacc.writeNewEvent apart (.order _ order) (by simp [orderEvent]) hstep
  rw [foldlM_recordFill] at h4
  refine ⟨s3, horders, writeEvents_ok apart horders.sound (by rw [horders.bindings]; exact hbinding)
    (fun event hevent => ?_) h4⟩
  obtain ⟨fill, hfill, howned⟩ := mem_filterMap.mp hevent
  obtain ⟨owned, hfound, rfl⟩ := Option.map_eq_some_iff.mp howned
  exact .fill owned.2 owned.1 fill

end

end Others

theorem newEvents_eq_self {known events} (new : ∀ event ∈ events, event.idempotencyKey ∉ known)
    (nodup : (events.map (·.idempotencyKey)).Nodup) : newEvents known events = events := by
  induction events generalizing known with
  | nil => rfl
  | cons event rest ih =>
    rw [forall_mem_cons] at new
    rw [map_cons, nodup_cons] at nodup
    rw [newEvents, if_neg new.1, ih (fun other hother hmem => ?_) nodup.2]
    rcases mem_cons.mp hmem with heq | hknown
    · exact nodup.1 (heq ▸ mem_map_of_mem hother)
    · exact new.2 other hother hknown

end Adding

section Page

variable {service : CanaryService} {runId : String} {store : PaperStore}
  {binding : PaperBrokerBindingRow} {now : Instant}
  {activities page : List AlpacaPaperFillActivity} {fills : List PaperBrokerEventRow}

variable {orders : List AlpacaPaperOrder}

theorem fillEvents_owned {rows}
    (owned : ∀ fill ∈ page, ownedByBroker rows orders fill.brokerOrderId ≠ none) :
    List.Forall₂ (fun fill event => ∃ command order,
        event = fillEvent service binding command order fill) page
      (fillEvents service binding rows orders page) := by
  induction page with
  | nil => exact .nil
  | cons fill rest ih =>
    rw [forall_mem_cons] at owned
    obtain ⟨found, hfound⟩ := Option.ne_none_iff_exists'.mp owned.1
    have hcons : fillEvents service binding rows orders (fill :: rest) =
        fillEvent service binding found.2 found.1 fill ::
          fillEvents service binding rows orders rest := by
      rw [fillEvents, filterMap_cons, hfound]
      rfl
    rw [hcons]
    exact .cons ⟨_, _, rfl⟩ (ih owned.2)

theorem fillEvents_keys {events : List BrokerEvent}
    (h : List.Forall₂ (fun fill event => ∃ command order,
      event = fillEvent service binding command order fill) page events) :
    events.map (·.idempotencyKey) = (page.map (·.activityId)).map fun id =>
      service.hash.stableId "alpaca-fill-activity" [.str binding.bindingId, .str id] := by
  induction h with
  | nil => rfl
  | cons hfill _ ih =>
    obtain ⟨command, order, rfl⟩ := hfill
    rw [map_cons, map_cons, map_cons, ih]
    rfl

theorem fillEvents_recorded (now : Instant) {events : List BrokerEvent}
    (h : List.Forall₂ (fun fill event => ∃ command order,
      event = fillEvent service binding command order fill) page events) :
    Forall₂ (·.RecordedBy ·) page
      (events.map (·.row service binding now)) ∧
    (events.map (·.row service binding now)).filter (·.eventType = .fillActivity) =
      events.map (·.row service binding now) := by
  induction h with
  | nil => exact ⟨.nil, rfl⟩
  | cons hfill _ ih =>
    obtain ⟨command, order, rfl⟩ := hfill
    rw [map_cons]
    refine ⟨.cons ⟨rfl, rfl, rfl, rfl, rfl, rfl, rfl⟩ ih.1, ?_⟩
    rw [filter_cons_of_pos (by rfl), ih.2]

variable {bindings : List PaperBrokerBindingRow}

theorem fillKey_new (h : store.HasFills service runId fills bindings)
    (recorded : Forall₂ (·.RecordedBy ·) (activities.take fills.length) fills)
    (order : InOrder activities) {fill} (hfill : fill ∈ activities.drop fills.length) :
    service.hash.stableId "alpaca-fill-activity" [.str binding.bindingId, .str fill.activityId] ∉
      store.keysOf binding.bindingId := by
  intro hkey
  obtain ⟨event, hevent, hbound, hname⟩ := PaperStore.mem_keysOf.mp hkey
  rw [← hbound] at hname
  obtain ⟨htype, hid⟩ := h.keys event hevent _ hname
  have hstored : event ∈ fills := by
    rw [← h.fills, PaperStore.fills, mem_filter]
    exact ⟨hevent, by simpa using htype⟩
  obtain ⟨earlier, hearlier, hrecorded⟩ := (Sequence.exists_of_forall₂ recorded).2 event hstored
  have hsame : earlier.activityId = fill.activityId :=
    Option.some.inj (hrecorded.activity.symm.trans hid)
  have hids := order.ids
  rw [← take_append_drop fills.length activities, map_append,
    nodup_append] at hids
  exact hids.2.2 _ (mem_map_of_mem hearlier) _ (mem_map_of_mem hfill) hsame

theorem withEvents_page (binding : PaperBrokerBindingRow) (now : Instant)
    (h : store.HasFills service runId fills bindings)
    (apart : service.hash.TellsApart)
    (recorded : Forall₂ (·.RecordedBy ·)
      (activities.take fills.length) fills) (order : InOrder activities) {size : ℕ}
    {rows : List PaperBrokerCommandRow}
    (owned : ∀ fill ∈ (activities.drop fills.length).take size,
      ownedByBroker rows orders fill.brokerOrderId ≠ none) :
    ∃ added, (store.withEvents service binding now (fillEvents service binding rows orders
        ((activities.drop fills.length).take size))).fills = fills ++ added ∧
      Forall₂ (·.RecordedBy ·)
        ((activities.drop fills.length).take size) added := by
  have hevents : List.Forall₂ (fun fill event => ∃ command order,
      event = fillEvent service binding command order fill) _ _ := fillEvents_owned owned
  have hkeys := fillEvents_keys hevents
  have hsub : List.Sublist ((activities.drop fills.length).take size) activities :=
    (take_sublist _ _).trans (drop_sublist _ _)
  have hnew : newEvents (store.keysOf binding.bindingId) (fillEvents service binding rows orders
      ((activities.drop fills.length).take size)) = fillEvents service binding rows orders
      ((activities.drop fills.length).take size) := by
    refine newEvents_eq_self (fun event hevent => ?_) ?_
    · obtain ⟨fill, hfill, command, found, rfl⟩ :=
        (Sequence.exists_of_forall₂ hevents).2 event hevent
      exact fillKey_new h recorded order (mem_of_mem_take hfill)
    · rw [hkeys]
      have hids : (((activities.drop fills.length).take size).map (·.activityId)).Nodup :=
        order.ids.sublist (hsub.map _)
      exact hids.map fun a b heq => apart.fill _ _ _ heq
  obtain ⟨hrecorded, hfills⟩ := fillEvents_recorded now hevents
  refine ⟨_, ?_, hrecorded⟩
  rw [PaperStore.withEvents, hnew, PaperStore.fills, filter_append, hfills]
  exact congrArg (· ++ _) h.fills

end Page

section Step

variable {service : CanaryService} {runId : String} {source : CanarySource} {now : Instant}
  {J : PaperStore → Broker → Prop} {w w1 w2 : World PaperStore} {g : Gathered}

theorem Quiet.sync_of_snapshot (q : Quiet service runId J)
    (submits : ∀ (binding : PaperBrokerBindingRow) (decision : PortfolioDecisionRow)
      (plans : List CanaryOrderPlan),
      Keeps (Holds J) (submitPlans service source binding decision now plans))
    (hgather : gather service runId source now w = (.ok g, w1)) {outcome}
    (hpersist : persistReconciliationSnapshot service g.binding g.account g.positions g.orders
      g.fills now w1 = (outcome, w2))
    (h : Holds J w2) :
    Holds J (AdaptiveQuant.sync service runId source now w).2 := by
  refine q.sync ?_
  cases outcome with
  | error failure =>
    have hobserve : observe service runId source now w = (.error failure, w2) := by
      rw [observe_eq, bind_ok hgather, bind_error hpersist]
    rw [AdaptiveQuant.syncOnce, bind_error hobserve]
    exact h
  | ok rows =>
    have hobserve : observe service runId source now w =
      conclude service runId source g rows w2 := by
      rw [observe_eq, bind_ok hgather, bind_ok hpersist]
    have hstate := conclude_state service runId source g rows w2
    rcases hconclude : conclude service runId source g rows w2 with ⟨failure | o, w3⟩
    · rw [hconclude] at hobserve hstate
      rw [AdaptiveQuant.syncOnce, bind_error hobserve]
      exact hstate ▸ h
    · rw [hconclude] at hobserve hstate
      rw [AdaptiveQuant.syncOnce, bind_ok hobserve]
      have hw3 : Holds J w3 := by
        rw [show w3 = w2 from hstate]
        exact h
      exact q.follow (observe_ok hobserve).run hw3 fun decision plans _ =>
        submits o.binding decision plans w3 hw3

theorem activities_submit (broker : Broker) (request : AlpacaPaperOrderRequest)
    (taken : Acceptance) : (broker.submit request taken).2.activities = broker.activities := by
  unfold Broker.submit
  split
  · rfl
  · rfl

theorem activities_cancel (broker : Broker) (brokerOrderId : String) :
    (broker.cancel brokerOrderId).2.activities = broker.activities := by
  unfold Broker.cancel
  split
  · rfl
  · split
    · rfl
    · rfl

theorem activities_move (broker : Broker) (move : BrokerMove) :
    broker.activities <+: (broker.move move).activities := by
  cases move with
  | fill activity => exact prefix_append _ _
  | account account => exact prefix_rfl
  | positions positions => exact prefix_rfl
  | progress brokerOrderId status filledQuantity filledAveragePrice updatedAt =>
    exact prefix_rfl
  | foreign order =>
    unfold Broker.move
    simp only
    split
    · exact prefix_rfl
    · exact prefix_rfl
  | deliver index taken =>
    unfold Broker.move
    simp only
    split
    · exact prefix_rfl
    · rename_i message _
      cases message with
      | submit request =>
        show broker.activities <+: (Broker.submit _ request taken).2.activities
        exact (activities_submit ..).symm ▸ prefix_rfl
      | cancel brokerOrderId =>
        show broker.activities <+: (Broker.cancel _ brokerOrderId).2.activities
        exact (activities_cancel ..).symm ▸ prefix_rfl

def FillsStay (fills : List PaperBrokerEventRow) (activities : List AlpacaPaperFillActivity)
    (store : PaperStore) (broker : Broker) : Prop :=
  store.fills = fills ∧ activities <+: broker.activities

variable {fills : List PaperBrokerEventRow} {activities : List AlpacaPaperFillActivity}

theorem fillsStay_moves : Unmoved (FillsStay fills activities) :=
  fun _ broker move h => ⟨h.1, h.2.trans (activities_move broker move)⟩

theorem fillsStay_event (broker : Broker) :
    EventClosed service false (FillsStay fills activities · broker) := by
  intro _ _ _ event _ later _ h
  refine ⟨(fills_append fun heq => ?_).trans h.1, h.2⟩
  rw [heq] at later
  exact absurd later (by decide)

theorem fillsStay_quiet : Quiet service runId (FillsStay fills activities) where
  moves := fillsStay_moves
  event := fillsStay_event
  command _ _ _ _ _ _ _ h := h
  post _ _ _ h := h
  cancel _ broker brokerOrderId h := ⟨h.1, by rw [activities_cancel]; exact h.2⟩

theorem keeps_submitPlans_fills (binding : PaperBrokerBindingRow)
    (decision : PortfolioDecisionRow) (plans : List CanaryOrderPlan) :
    Keeps (Holds (FillsStay fills activities))
      (submitPlans service source binding decision now plans) :=
  keeps_submitPlans fillsStay_moves fillsStay_event (fun _ _ _ h => h) (fun _ _ _ h => h)
    (fun _ _ _ _ h => ⟨h.1, by rw [activities_submit]; exact h.2⟩) source binding decision now plans

theorem activities_fetching (w : World PaperStore) :
    w.broker.activities <+: w.fetching.activities := by
  have hmoves : Unmoved fun (_ : PaperStore) (broker : Broker) =>
      w.broker.activities <+: broker.activities :=
    fun _ broker move h => h.trans (activities_move broker move)
  have hstart : Holds (fun (_ : PaperStore) (broker : Broker) =>
      w.broker.activities <+: broker.activities) w := prefix_rfl
  exact hmoves.next (hmoves.next (hmoves.next (hmoves.next hstart)))

theorem recorded_of_prefix {more}
    (recorded : Forall₂ (·.RecordedBy ·) (activities.take fills.length) fills)
    (reveals : activities <+: more) :
    Forall₂ (·.RecordedBy ·) (more.take fills.length) fills := by
  obtain ⟨rest, rfl⟩ := reveals
  have hlength := recorded.length_eq
  rw [length_take] at hlength
  rw [take_append_of_le_length (by omega)]
  exact recorded

theorem cursor_of_fills {store : PaperStore} {bindingId : String} {opened : Instant}
    (hfills : store.fillsOf bindingId = fills) :
    (fills = [] ∧ ((store.lastFill bindingId).map (·.occurredAt)).getD opened = opened) ∨
      ∃ event ∈ fills, ((store.lastFill bindingId).map (·.occurredAt)).getD opened =
        event.occurredAt ∧ ∀ other ∈ fills, other.occurredAt ≤ event.occurredAt := by
  have hlast : store.lastFill bindingId = (Sequence.sortedBy (fun event : PaperBrokerEventRow =>
      toLex (event.occurredAt, event.eventId)) (store.fillsOf bindingId)).getLast? := rfl
  rw [hfills] at hlast
  cases hfound : store.lastFill bindingId with
  | none =>
    rw [hfound, eq_comm, List.getLast?_eq_none_iff, Sequence.sortedBy_eq_nil] at hlast
    exact .inl ⟨hlast, rfl⟩
  | some event =>
    rw [hfound] at hlast
    obtain ⟨hmem, hmax⟩ := Sequence.getLast?_sortedBy _ hlast.symm
    refine .inr ⟨event, hmem, rfl, fun other hother => ?_⟩
    have hle := hmax other hother
    rw [Prod.Lex.toLex_le_toLex] at hle
    rcases hle with hlt | ⟨heq, -⟩
    · exact hlt.le
    · exact heq.le

theorem listFillActivities_page {broker : Broker} {store : PaperStore} {bindingId : String}
    {opened : Instant} (size : ℕ) (hfills : store.fillsOf bindingId = fills)
    (recorded : Forall₂ (·.RecordedBy ·)
      (broker.activities.take fills.length) fills) (order : InOrder broker.activities)
    (bound : ∀ fill ∈ broker.activities, opened < fill.executedAt)
    (ties : ∀ fill ∈ broker.activities.take fills.length,
      ∀ next ∈ broker.activities.drop fills.length, fill.executedAt ≠ next.executedAt) :
    broker.listFillActivities (((store.lastFill bindingId).map (·.occurredAt)).getD opened) size =
      (broker.activities.drop fills.length).take size := by
  refine congrArg (List.take size) (Sequence.sortedBy_filter_eq_drop _ order.times ?_ ?_)
  · intro fill hfill
    rcases cursor_of_fills hfills with ⟨hnone, -⟩ | ⟨event, -, hcursor, hmax⟩
    · rw [hnone] at hfill
      simp at hfill
    · obtain ⟨stored, hstored, hby⟩ := (Sequence.exists_of_forall₂ recorded).1 fill hfill
      rw [hcursor, ← hby.time]
      exact hmax stored hstored
  · intro next hnext
    rcases cursor_of_fills hfills with ⟨-, hcursor⟩ | ⟨event, hevent, hcursor, -⟩
    · rw [hcursor]
      exact bound next (mem_of_mem_drop hnext)
    · obtain ⟨fill, hfill, hby⟩ := (Sequence.exists_of_forall₂ recorded).2 event hevent
      have htimes := order.times
      rw [← take_append_drop fills.length broker.activities, pairwise_append] at htimes
      rw [hcursor, hby.time]
      exact lt_of_le_of_ne (htimes.2.2 fill hfill next hnext) (ties fill hfill next hnext)

theorem recorded_append {added} {size : ℕ}
    (recorded : Forall₂ (·.RecordedBy ·) (activities.take fills.length) fills)
    (page : Forall₂ (·.RecordedBy ·) ((activities.drop fills.length).take size) added) :
    Forall₂ (·.RecordedBy ·)
      (activities.take (fills ++ added).length) (fills ++ added) ∧
    min (fills.length + size) activities.length ≤ (fills ++ added).length := by
  have hlength := page.length_eq
  have hread := recorded.length_eq
  rw [length_take] at hread
  rw [length_take, length_drop] at hlength
  have hpage : (activities.drop fills.length).take added.length =
      (activities.drop fills.length).take size := by
    rw [← hlength, ← length_drop, take_eq_take_iff]
    omega
  rw [length_append, take_add, hpage]
  exact ⟨rel_append recorded page, by omega⟩

structure FillsAdvance (service : CanaryService) (runId : String) (w : World PaperStore)
    (call : SyncCall) (w' : World PaperStore) : Prop where
  recorded : RecordsFills runId w'
  reveals : w.broker.activities <+: w'.broker.activities
  keeps : (w.store.runFills runId).length ≤ (w'.store.runFills runId).length
  page : StoresSnapshot service runId w call →
    min ((w.store.runFills runId).length + service.config.val.fillActivityPageSize)
      (w.enter call).fetching.activities.length ≤ (w'.store.runFills runId).length

section

variable (hof : g.Of service runId now w w1)

include hof

theorem Gathered.Of.hasFills
    (sound : w1.store.Sound service runId) (keys : w.store.FillKeys service) :
    w1.store.HasFills service runId w.store.fills w1.store.bindings where
  sound := sound
  keys := by
    rw [PaperStore.FillKeys, hof.events]
    exact keys
  fills := by rw [PaperStore.fills, hof.events, PaperStore.fills]
  bindings := rfl

theorem Gathered.Of.opened :
    ((w.store.bindingForRun runId).map (·.createdAt)).getD now = g.binding.createdAt := by
  rcases hof.bound with hbound | ⟨hbound, hcreated⟩
  · rw [hbound]
    rfl
  · rw [hbound, hcreated]
    rfl

theorem Gathered.Of.rows (sound : w.store.Sound service runId) :
    w1.store.commandsOf g.binding.bindingId = w.store.runCommands runId := by
  rw [PaperStore.commandsOf, hof.commands]
  rcases hof.bound with hbound | ⟨hbound, -⟩
  · rw [PaperStore.runCommands, hbound]
    rfl
  · have hnone : w.store.commands = [] := by
      rw [eq_nil_iff_forall_not_mem]
      intro command hcommand
      obtain ⟨-, binding, hbinding, -⟩ := sound.commands command hcommand
      exact absurd ((sound.binding binding hbinding).symm.trans hbound) (Option.some_ne_none _)
    rw [PaperStore.runCommands, hbound, hnone]
    rfl

theorem Gathered.Of.page (sound : w.store.Sound service runId)
    (recorded : Forall₂ (·.RecordedBy ·)
      (w.fetching.activities.take w.store.fills.length) w.store.fills)
    (order : InOrder w.fetching.activities)
    (bound : ∀ fill ∈ w.fetching.activities,
      ((w.store.bindingForRun runId).map (·.createdAt)).getD now < fill.executedAt)
    (ties : ∀ fill ∈ w.fetching.activities.take w.store.fills.length,
      ∀ next ∈ w.fetching.activities.drop w.store.fills.length,
      fill.executedAt ≠ next.executedAt) :
    g.fills = (w.fetching.activities.drop w.store.fills.length).take
      service.config.val.fillActivityPageSize := by
  have hfills : w.store.fillsOf g.binding.bindingId = w.store.fills := by
    rw [← sound.runFills_eq]
    rcases hof.bound with hbound | ⟨hbound, -⟩
    · rw [PaperStore.runFills, hbound]
      rfl
    · rw [PaperStore.runFills, hbound, PaperStore.fillsOf, sound.events_nil hbound]
      rfl
  rw [hof.fills, hof.broker, ← hof.opened]
  exact listFillActivities_page _ hfills recorded order bound ties

end

end Step

section Syncs

variable {service : CanaryService} {runId : String} {w w1 w' : World PaperStore} {call : SyncCall}
  {g : Gathered} {fills : List PaperBrokerEventRow} {activities : List AlpacaPaperFillActivity}

theorem FillsAdvance.of_stay (sound : w.store.Sound service runId)
    (sound' : w'.store.Sound service runId) (stay : Holds (FillsStay fills activities) w')
    (reveals : w.broker.activities <+: activities)
    (recorded : Forall₂ (·.RecordedBy ·)
      (activities.take fills.length) fills)
    (keeps : w.store.fills.length ≤ fills.length)
    (page : StoresSnapshot service runId w call → min (w.store.fills.length +
      service.config.val.fillActivityPageSize) (w.enter call).fetching.activities.length ≤
      fills.length) : FillsAdvance service runId w call w' := by
  have hrun : w'.store.runFills runId = fills := sound'.runFills_eq.trans stay.1
  refine ⟨?_, reveals.trans stay.2, ?_, fun hstores => ?_⟩
  · rw [RecordsFills, hrun]
    exact recorded_of_prefix recorded stay.2
  · rw [hrun, sound.runFills_eq]
    exact keeps
  · rw [hrun, sound.runFills_eq]
    exact page hstores

theorem stay_of_gather_error {failure}
    (hgather : w.gathered service runId call = (.error failure, w1)) :
    Holds (FillsStay w.store.fills w.broker.activities) (w.synced service runId call).2 := by
  have hkeeps : Keeps (Holds (FillsStay w.store.fills w.broker.activities))
      (gather service runId call.source call.now) :=
    keeps_gather fillsStay_moves (fun _ _ _ _ _ h => h) call.source call.now
  have hstay : Holds _ (w.gathered service runId call).2 := hkeeps (w.enter call) ⟨rfl, prefix_rfl⟩
  rw [hgather] at hstay
  have hobserve : w.observed service runId call = (.error failure, w1) := by
    rw [World.observed, observe_eq, bind_error hgather]
  refine fillsStay_quiet.sync ?_
  rw [syncOnce, bind_error hobserve]
  exact hstay

theorem StoresSnapshot.persists (stores : StoresSnapshot service runId w call)
    (apart : service.hash.TellsApart) (sound : w.store.Sound service runId)
    (hgather : w.gathered service runId call = (.ok g, w1)) :
    persistReconciliationSnapshot service g.binding g.account g.positions g.orders g.fills
      call.now w1 = (.ok (w1.store.commandsOf g.binding.bindingId),
        w1.snapshot service call.now g) := by
  obtain ⟨halive, g', hg', hgenuine, htimely⟩ := stores
  rw [hgather] at hg' hgenuine htimely
  cases hg'
  have henter : (w.enter call).store.Sound service runId := sound
  have hof := gather_ok henter hgather
  have hsound1 : w1.store.Sound service runId := (keeps_gather sound_steady.moves
    sound_steady.bind call.source call.now).ok hgather sound
  rw [persist_run apart ⟨hof.alive halive, hsound1, hof.binding⟩ hgenuine, if_pos htimely]

theorem snapshot_page (apart : service.hash.TellsApart) (sound : w.store.Sound service runId)
    (keys : w.store.FillKeys service)
    (recorded : Forall₂ (·.RecordedBy ·)
      ((w.enter call).fetching.activities.take w.store.fills.length) w.store.fills)
    (order : InOrder (w.enter call).fetching.activities)
    (cond : FillsApart service runId w call)
    (hgather : w.gathered service runId call = (.ok g, w1))
    {store' : PaperStore} (hwrite : writeSnapshot service g.binding g.account g.positions g.orders
      g.fills call.now w1.store = .ok store') :
    ∃ added, store'.fills = w.store.fills ++ added ∧
      Forall₂ (·.RecordedBy ·)
        (((w.enter call).fetching.activities.drop w.store.fills.length).take
          service.config.val.fillActivityPageSize) added := by
  have henter : (w.enter call).store.Sound service runId := sound
  have hof := gather_ok henter hgather
  have hsound1 : w1.store.Sound service runId := (keeps_gather sound_steady.moves
    sound_steady.bind call.source call.now).ok hgather sound
  obtain ⟨hbound, hties, howned⟩ := cond
  rw [sound.runFills_eq] at hties howned
  obtain ⟨middle, hmiddle, hstore⟩ :=
    (hof.hasFills hsound1 keys).writeSnapshot apart hof.binding hwrite
  rw [hof.rows henter, hof.orders, hof.page henter recorded order hbound hties] at hstore
  rw [hstore]
  exact withEvents_page g.binding call.now hmiddle apart recorded order howned

theorem syncStep_fills (apart : service.hash.TellsApart) (sound : w.store.Sound service runId)
    (keys : w.store.FillKeys service) (recorded : RecordsFills runId w)
    (order : InOrder (w.enter call).fetching.activities)
    (cond : FillsApart service runId w call) (ok : syncStep service runId w call = .ok w') :
    FillsAdvance service runId w call w' := by
  have hsound' : w'.store.Sound service runId := syncStep_sound sound ok
  cases ok
  have hreveals : w.broker.activities <+: (w.enter call).fetching.activities :=
    activities_fetching (w.enter call)
  rw [RecordsFills, sound.runFills_eq] at recorded
  have hfetched := recorded_of_prefix recorded hreveals
  rcases hgather : w.gathered service runId call with ⟨failure | g, w1⟩
  · refine .of_stay sound hsound' (stay_of_gather_error hgather) prefix_rfl recorded
      (le_refl _) fun hstores => ?_
    obtain ⟨-, g, hg, -⟩ := hstores
    rw [hgather] at hg
    cases hg
  · have henter : (w.enter call).store.Sound service runId := sound
    have hof := gather_ok henter hgather
    rcases hpersist : persistReconciliationSnapshot service g.binding g.account g.positions
      g.orders g.fills call.now w1 with ⟨failure | rows, w2⟩
    · obtain ⟨hstore, hbroker⟩ := transact_error hpersist
      have hstay : Holds (FillsStay w.store.fills (w.enter call).fetching.activities) w2 := by
        refine ⟨?_, ?_⟩
        · rw [hstore, PaperStore.fills, hof.events]
          rfl
        · have hsame := hbroker.trans hof.broker
          exact hsame ▸ prefix_rfl
      refine .of_stay sound hsound' (fillsStay_quiet.sync_of_snapshot keeps_submitPlans_fills
        hgather hpersist hstay) hreveals hfetched (le_refl _) fun hstores => ?_
      rw [hstores.persists apart sound hgather] at hpersist
      cases hpersist
    · obtain ⟨life, store', -, hwrite, rfl⟩ := transact_ok hpersist
      cases hsnapshot : writeSnapshot service g.binding g.account g.positions g.orders g.fills
          call.now w1.store with
      | error failure =>
        rw [hsnapshot] at hwrite
        cases hwrite
      | ok written =>
        rw [hsnapshot] at hwrite
        cases hwrite
        obtain ⟨added, hadded, hby⟩ :=
          snapshot_page apart sound keys hfetched order cond hgather hsnapshot
        have hstay : Holds (FillsStay (w.store.fills ++ added)
            (w.enter call).fetching.activities) { w1 with store := store', life } :=
          ⟨hadded, hof.broker ▸ prefix_rfl⟩
        obtain ⟨hrecorded, hlength⟩ := recorded_append hfetched hby
        exact .of_stay sound hsound' (fillsStay_quiet.sync_of_snapshot keeps_submitPlans_fills
          hgather hpersist hstay) hreveals hrecorded (by simp) fun _ => hlength

theorem fillKeys_syncStep (apart : service.hash.TellsApart) (keys : w.store.FillKeys service)
    (ok : syncStep service runId w call = .ok w') : w'.store.FillKeys service := by
  cases ok
  have hquiet : Quiet service runId fun store _ => store.FillKeys service :=
    { moves := fun _ _ _ h => h
      event := fun _ => fillKeys_event apart false
      command := fun _ _ _ _ _ _ _ h => h
      post := fun _ _ _ h => h
      cancel := fun _ _ _ h => h }
  have hsteady : Steady service runId fun store _ => store.FillKeys service :=
    { moves := fun _ _ _ h => h
      event := fun _ => fillKeys_event apart true
      bind := fun _ _ _ _ _ h => h }
  refine hquiet.sync (hquiet.syncOnce hsteady keys fun o w1 decision plans _ hw1 _ => ?_)
  exact keeps_submitPlans (fun _ _ _ h => h) hquiet.event (fun _ _ _ h => h) (fun _ _ _ h => h)
    (fun _ _ _ _ h => h) call.source o.binding decision call.now plans w1 hw1

end Syncs

structure FillsSound (service : CanaryService) (runId : String) (w : World PaperStore) : Prop where
  sound : w.store.Sound service runId
  keys : w.store.FillKeys service
  recorded : RecordsFills runId w

def revealedBefore (w : World PaperStore) (post : List (World PaperStore × SyncCall)) :
    List AlpacaPaperFillActivity :=
  ((post.head?.map (·.1)).getD w).broker.activities

section Runs

variable {service : CanaryService} {runId : String} {init w : World PaperStore}
  {taken : List (World PaperStore × SyncCall)}

theorem FillsSound.of_untouched (start : init.IsUntouched) : FillsSound service runId init := by
  obtain ⟨hstore, -⟩ := start
  refine ⟨?_, ?_, ?_⟩
  · rw [hstore]
    exact PaperStore.Sound.empty
  · rw [hstore]
    exact fun event hevent => nomatch hevent
  · rw [RecordsFills, hstore]
    exact .nil

theorem fillsSound_of_run (apart : service.hash.TellsApart)
    (run : Run (syncStep service runId) init taken w) (start : init.IsUntouched)
    (met : ∀ x ∈ taken, InOrder (x.1.enter x.2).fetching.activities ∧
      FillsApart service runId x.1 x.2) : FillsSound service runId w := by
  refine run.inv_when (Q := fun s call => InOrder (s.enter call).fetching.activities ∧
    FillsApart service runId s call) (.of_untouched start) (fun s call s' h hmet ok => ?_) met
  exact ⟨syncStep_sound h.sound ok, fillKeys_syncStep apart h.keys ok,
    (syncStep_fills apart h.sound h.keys h.recorded hmet.1 hmet.2 ok).recorded⟩

theorem recorded_of_run (apart : service.hash.TellsApart)
    (run : Run (syncStep service runId) init taken w) (start : init.IsUntouched)
    (met : ∀ x ∈ taken, InOrder (x.1.enter x.2).fetching.activities ∧
      FillsApart service runId x.1 x.2) {pre post : List (World PaperStore × SyncCall)}
    (split : taken = pre ++ post) (stores : ∀ x ∈ post, StoresSnapshot service runId x.1 x.2) :
    revealedBefore w post <+: w.broker.activities ∧
      min (post.length * service.config.val.fillActivityPageSize) (revealedBefore w post).length ≤
        (w.store.runFills runId).length := by
  induction run generalizing post with
  | start =>
    obtain ⟨-, rfl⟩ := append_eq_nil_iff.mp split.symm
    exact ⟨prefix_rfl, by simp⟩
  | @next taken s s' call run ok ih =>
    rcases eq_nil_or_concat' post with rfl | ⟨front, last, rfl⟩
    · exact ⟨prefix_rfl, by simp⟩
    · rw [← append_assoc] at split
      obtain ⟨hfront, hlast⟩ := append_inj' split rfl
      obtain rfl : (s, call) = last := by simpa using hlast
      have hbefore := fun x hx => met x (mem_append_left _ hx)
      obtain ⟨hreveals, hcount⟩ :=
        ih hbefore hfront fun x hx => stores x (mem_append_left _ hx)
      have hstate := fillsSound_of_run apart run start hbefore
      obtain ⟨horder, hcond⟩ := met (s, call) (by simp)
      have hstep : FillsAdvance service runId s call s' :=
        syncStep_fills apart hstate.sound hstate.keys hstate.recorded horder hcond ok
      have hsame : revealedBefore s' (front ++ [(s, call)]) = revealedBefore s front := by
        cases front with
        | nil => rfl
        | cons first rest => rfl
      have hpage := hstep.page (stores (s, call) (by simp))
      have hfetched : (revealedBefore s front).length ≤
          (s.enter call).fetching.activities.length :=
        (hreveals.trans (activities_fetching (s.enter call))).length_le
      rw [hsame, length_append, length_singleton, Nat.add_mul, one_mul]
      exact ⟨hreveals.trans hstep.reveals, by omega⟩

end Runs

theorem signedFills_recorded {activities : List AlpacaPaperFillActivity}
    {fills : List PaperBrokerEventRow} (h : Forall₂ (·.RecordedBy ·) activities fills) :
    fills.mapM signedFill = .ok (activities.map fun fill =>
      (fill.symbol, if fill.side = .buy then fill.quantity else -fill.quantity)) := by
  induction h with
  | nil => rfl
  | @cons fill event activities fills hby _ ih =>
    have hfill : signedFill event =
        .ok (fill.symbol, if fill.side = .buy then fill.quantity else -fill.quantity) := by
      rw [signedFill, hby.symbol, hby.side, hby.quantity]
    rw [mapM_cons, hfill, ok_bind, ih, ok_bind]
    rfl

theorem expectedPosition_activities (activities : List AlpacaPaperFillActivity) (symbol : String) :
    expectedPosition (activities.map fun fill =>
      (fill.symbol, if fill.side = .buy then fill.quantity else -fill.quantity)) symbol =
      netPosition activities symbol := by
  rw [expectedPosition, netPosition, filter_map, map_map]
  rfl

/-- Every activity that the broker reveals is recorded, once. -/
structure RecordsEveryFill (service : CanaryService) (runId : String)
    (taken : List (World PaperStore × SyncCall)) (w : World PaperStore) : Prop where
  once : RecordsFills runId w
  every : ∀ pre post, taken = pre ++ post →
    (∀ x ∈ post, StoresSnapshot service runId x.1 x.2) →
    (revealedBefore w post).length ≤ post.length * service.config.val.fillActivityPageSize →
    (revealedBefore w post).length ≤ (w.store.runFills runId).length
  positions : ∃ signed, (w.store.runFills runId).mapM signedFill = .ok signed ∧
    ((w.store.runFills runId).length = w.broker.activities.length →
      ∀ symbol, expectedPosition signed symbol = netPosition w.broker.activities symbol)

/-- In every run in which no activity that is still to be recorded shares its time with a recorded
one, and the orders of every page are listed, every activity is recorded once. -/
theorem fills_recorded_once {service : CanaryService} {runId : String} {init w : World PaperStore}
    {taken : List (World PaperStore × SyncCall)} (apart : service.hash.TellsApart)
    (run : Run (syncStep service runId) init taken w) (start : init.IsUntouched)
    (order : ∀ x ∈ taken, InOrder (x.1.enter x.2).fetching.activities)
    (met : ∀ x ∈ taken, FillsApart service runId x.1 x.2) :
    RecordsEveryFill service runId taken w := by
  have hmet : ∀ x ∈ taken, InOrder (x.1.enter x.2).fetching.activities ∧
      FillsApart service runId x.1 x.2 := fun x hx => ⟨order x hx, met x hx⟩
  have hstate := fillsSound_of_run apart run start hmet
  refine ⟨hstate.recorded, fun pre post split stores hpages => ?_, _,
    signedFills_recorded hstate.recorded, fun hall symbol => ?_⟩
  · obtain ⟨-, hcount⟩ := recorded_of_run apart run start hmet split stores
    omega
  · rw [hall, take_length]
    exact expectedPosition_activities _ _

def partCall : SyncCall where
  now := 3
  source := firstSource "NORMAL" 100
  exchanges := { moves := [.progress "order" .partiallyFilled 20 (some 100) 2,
      .fill ⟨"first", "order", "QQQ", .buy, 20, 100, 2⟩,
      .positions [⟨"QQQ", 20, 2000, 100, "long"⟩]] } :: List.replicate 3 { moves := [] }
  life := none

def partWorld : World PaperStore := (boughtWorld.synced sampleCanary "run" partCall).2

variable (executedAt : Instant)

def restCall : SyncCall where
  now := 5
  source := firstSource "NORMAL" 100
  exchanges := { moves := [.progress "order" .filled 50 (some 100) 4,
      .fill ⟨"second", "order", "QQQ", .buy, 30, 100, executedAt⟩,
      .positions [⟨"QQQ", 50, 5000, 100, "long"⟩]] } :: List.replicate 3 { moves := [] }
  life := none

def restWorld : World PaperStore :=
  (sync sampleCanary "run" (restCall executedAt).source (restCall executedAt).now
    (partWorld.enter (restCall executedAt))).2

def laterCall : SyncCall where
  now := 7
  source := firstSource "NORMAL" 100
  exchanges := List.replicate 4 { moves := [] }
  life := none

def laterWorld : World PaperStore :=
  (sync sampleCanary "run" laterCall.source laterCall.now
    ((restWorld executedAt).enter laterCall)).2

/-- A buy that is filled in two parts, the second at `executedAt`. -/
def partsRun : List (World PaperStore × SyncCall) :=
  [(sampleWorld, buyCall), (boughtWorld, partCall), (partWorld, restCall executedAt),
    (restWorld executedAt, laterCall)]

theorem partsRun_runs : Run (syncStep sampleCanary "run") sampleWorld
    (partsRun executedAt) (laterWorld executedAt) :=
      .next (.next (.next (.next .start rfl) rfl) rfl) rfl

/-- The second part is filled after the first. -/
theorem parts_recorded : RecordsEveryFill sampleCanary "run" (partsRun 4) (laterWorld 4) ∧
    ((laterWorld 4).store.runFills "run").length = 2 := by
  have hfacts : (∀ x ∈ partsRun 4, InOrder (x.1.enter x.2).fetching.activities) ∧
      (∀ x ∈ partsRun 4, FillsApart sampleCanary "run" x.1 x.2) ∧
      ((laterWorld 4).store.runFills "run").length = 2 := by decide +kernel
  exact ⟨fills_recorded_once sampleHash_tellsApart (partsRun_runs 4) sampleWorld_isUntouched
    hfacts.1 hfacts.2.1, hfacts.2.2⟩

/-- A second part filled when the first is, is never recorded, and the syncs end with a position
mismatch. -/
theorem tied_fill_lost :
    sampleCanary.hash.TellsApart ∧ sampleWorld.IsUntouched ∧
    Run (syncStep sampleCanary "run") sampleWorld (partsRun 2) (laterWorld 2) ∧
    (∀ x ∈ partsRun 2, InOrder (x.1.enter x.2).fetching.activities ∧
      ∀ fill ∈ (x.1.enter x.2).fetching.activities, ownedByBroker (x.1.store.runCommands "run")
        ((x.1.enter x.2).listing.orders.take sampleCanary.config.val.orderHistoryLimit)
        fill.brokerOrderId ≠ none) ∧
    (sync sampleCanary "run" laterCall.source laterCall.now ((restWorld 2).enter laterCall)).1 =
      .ok (some ("POSITION_RECONCILIATION_MISMATCH",
        "Paper positions do not reconcile to owned fill activities")) ∧
    ¬RecordsEveryFill sampleCanary "run" (partsRun 2) (laterWorld 2) := by
  have hfacts : StoresSnapshot sampleCanary "run" (restWorld 2) laterCall ∧
      ((laterWorld 2).store.runFills "run").length < (restWorld 2).broker.activities.length ∧
      (restWorld 2).broker.activities.length ≤ sampleCanary.config.val.fillActivityPageSize := by
    decide +kernel
  obtain ⟨hstores, hlost, hpage⟩ := hfacts
  refine ⟨sampleHash_tellsApart, sampleWorld_isUntouched, partsRun_runs 2, by decide +kernel,
    by decide +kernel, fun hrecords => ?_⟩
  have hevery := hrecords.every [(sampleWorld, buyCall), (boughtWorld, partCall),
    (partWorld, restCall 2)] [(restWorld 2, laterCall)] rfl (by simpa using hstores)
    (by rw [length_singleton, one_mul]; exact hpage)
  exact absurd hlost (not_lt.mpr hevery)

end AdaptiveQuant
