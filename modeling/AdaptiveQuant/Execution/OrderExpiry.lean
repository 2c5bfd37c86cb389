import AdaptiveQuant.Execution.PendingOrders

/-! Soft stops and expiries of a book of orders. -/

namespace AdaptiveQuant

open Guard Sequence List

variable {hash : Hashing} {orders : List OrderDescriptor} {events result : List OrderEvent}
  {asOf : Instant} {boundary : Bool}

/-- No BUY is pending, and the SELLs and what was not pending are as before, in every view. -/
structure StopsBuys (orders : List OrderDescriptor) (events result : List OrderEvent) : Prop where
  stopped : ∃ pending, pendingOrders orders (events ++ result) = .ok pending ∧
    ∀ a ∈ pending, a.order.side = .sell
  kept : ∀ order ∈ orders, ∀ a, reduceOrderEvents order events = .ok a →
    order.side = .sell ∨ a.isPending = false → ∀ view,
      reduceOrderEvents order (events ++ result) view = reduceOrderEvents order events view

theorem softStop_stops {occurredAt availableAt : Instant} {provenance : OrderEventProvenance}
    {sourceCycleId : String} (ids : (orders.map (·.orderIntentId)).Nodup)
    (h : softStopBuyCancellations hash orders events occurredAt availableAt provenance
      sourceCycleId = .ok result) : StopsBuys orders events result := by
  simp only [softStopBuyCancellations, bind_eq_ok] at h
  obtain ⟨pending, hpending, hloop⟩ := h
  constructor
  · obtain ⟨after, hafter, hperm⟩ := appendForPending_pending rfl ids hpending hloop
    refine ⟨after, hafter, fun a ha => ?_⟩
    obtain ⟨-, hkept⟩ := mem_filter.mp (hperm.mem_iff.mp ha)
    cases hside : a.order.side with
    | buy => simp [hside] at hkept
    | sell => rfl
  · intro order mem a ha hfree view
    refine appendForPending_frame rfl ids hpending hloop mem ?_ view
    intro b hb heq
    obtain ⟨-, hreduce, hlive⟩ := mem_pendingOrders hpending hb
    rw [heq, ha] at hreduce
    obtain rfl : a = b := Except.ok.inj hreduce
    rcases hfree with hsell | hdead
    · simp [heq, hsell]
    · rw [hdead] at hlive
      cases hlive

theorem StopsBuys.again (h : StopsBuys orders events result) (occurredAt availableAt : Instant)
    (provenance : OrderEventProvenance) (sourceCycleId : String) :
    softStopBuyCancellations hash orders (events ++ result) occurredAt availableAt provenance
      sourceCycleId = .ok [] := by
  obtain ⟨pending, hpending, hsells⟩ := h.stopped
  simp only [softStopBuyCancellations, hpending, ok_bind]
  exact appendForPending_none fun a ha => by simp [hsells a ha]

/-- Pending in the view at `asOf`, and past its validity or at a session boundary. -/
def Expiring (events : List OrderEvent) (asOf : Instant) (boundary : Bool)
    (order : OrderDescriptor) : Prop :=
  ∃ a, reduceOrderEvents order events (some asOf) = .ok a ∧ a.isPending ∧
    (boundary = true ∨ order.validUntil < asOf)

/-- No event of the order is hidden at the instant. -/
def Visible (events : List OrderEvent) (asOf : Instant) (order : OrderDescriptor) : Prop :=
  ∀ event ∈ events, order.owns event → event.availableAt ≤ asOf

theorem reduce_visible {order} (h : Visible events asOf order) :
    reduceOrderEvents order events (some asOf) = reduceOrderEvents order events := by
  unfold reduceOrderEvents
  congr 1
  refine filter_congr fun event mem => ?_
  rw [reads_none]
  cases hown : order.owns event with
  | false => simp [OrderDescriptor.reads, hown]
  | true => simp [OrderDescriptor.reads, hown, h event mem hown]

theorem visible_of_terminal {order aggregate view}
    (h : reduceOrderEvents order events = .ok aggregate)
    (hview : reduceOrderEvents order events (some asOf) = .ok view) {event : OrderEvent}
    (mem : event ∈ events) (read : order.reads (some asOf) event)
    (terminal : isTerminalOrderEvent event.eventType) : Visible events asOf order := by
  have hown : order.owns event := by
    unfold OrderDescriptor.reads at read
    exact (Bool.and_eq_true_iff.mp read).1
  obtain ⟨-, hfull⟩ := reduce_terminal h mem (by simpa using hown) terminal
  obtain ⟨-, hseen⟩ := reduce_terminal hview mem read terminal
  have hfilter : events.filter (order.reads (some asOf)) =
      (events.filter (order.reads none)).filter (·.availableAt ≤ asOf) := by
    rw [filter_filter]
    refine filter_congr fun e _ => ?_
    rw [reads_none, Bool.and_comm]
    rfl
  have hlength : ((events.filter (order.reads none)).filter (·.availableAt ≤ asOf)).length =
      (events.filter (order.reads none)).length := by
    rw [← hfilter]
    omega
  rw [length_filter_eq_length_iff] at hlength
  intro e he howned
  simpa using hlength e (mem_filter.mpr ⟨he, by simpa using howned⟩)

/-- The status of exactly the expiring orders changes, and a repetition finds nothing to expire. -/
structure Expires (hash : Hashing) (orders : List OrderDescriptor) (events result : List OrderEvent)
    (asOf : Instant) (provenance : OrderEventProvenance) (sourceCycleId : String)
    (boundary : Bool) : Prop where
  changed : ∀ order ∈ orders, ∃ before after,
    reduceOrderEvents order events (some asOf) = .ok before ∧
    reduceOrderEvents order (events ++ result) (some asOf) = .ok after ∧
    (after.status ≠ before.status ↔ Expiring events asOf boundary order)
  again : expireOrders hash orders (events ++ result) asOf provenance sourceCycleId boundary =
    .ok []

section Expiry

variable {pending : List OrderAggregate} {provenance : OrderEventProvenance}
  {sourceCycleId : String}

/-- The test of the loop of `expire_orders`. -/
def pastValidity (asOf : Instant) (boundary : Bool) (a : OrderAggregate) : Bool :=
  boundary || decide (a.order.validUntil < asOf)

theorem expiring_iff (hpending : pendingOrders orders events (some asOf) = .ok pending)
    {order : OrderDescriptor} (mem : order ∈ orders) :
    Expiring events asOf boundary order ↔
      ∃ a ∈ pending, a.order = order ∧ pastValidity asOf boundary a = true := by
  constructor
  · rintro ⟨a, ha, hlive, hpast⟩
    have heq : a.order = order := reduce_order ha
    refine ⟨a, mem_pendingOrders_of_reduce hpending (heq ▸ mem) (heq ▸ ha) hlive, heq, ?_⟩
    simpa [pastValidity, heq] using hpast
  · rintro ⟨a, ha, rfl, hpast⟩
    obtain ⟨-, hreduce, hlive⟩ := mem_pendingOrders hpending ha
    exact ⟨a, hreduce, hlive, by simpa [pastValidity] using hpast⟩

theorem status_ne_of_closed {before after : OrderAggregate} (hlive : before.isPending)
    (hclosed : after.isTerminal) : after.status ≠ before.status := by
  intro heq
  have hopen : before.isTerminal = false := by
    simp only [OrderAggregate.isPending, Bool.and_eq_true, Bool.not_eq_true'] at hlive
    exact hlive.1
  rw [OrderAggregate.isTerminal, heq] at hclosed
  exact absurd hclosed (by simpa [OrderAggregate.isTerminal] using hopen)

theorem expiry_closes (ids : (orders.map (·.orderIntentId)).Nodup)
    (hpending : pendingOrders orders events (some asOf) = .ok pending)
    {request : AppendRequest} (terminal : isTerminalOrderEvent request.eventType)
    (now : request.availableAt = asOf)
    (hloop : appendForPending hash events pending (pastValidity asOf boundary) request = .ok result)
    {a : OrderAggregate} (mem : a ∈ pending) (past : pastValidity asOf boundary a = true) :
    (∀ view, reduceOrderEvents a.order (events ++ result) (some asOf) = .ok view →
      Visible events asOf a.order) ∧
    (Visible events asOf a.order → ∃ closed,
      reduceOrderEvents a.order (events ++ result) (some asOf) = .ok closed ∧
        closed.isTerminal) := by
  obtain ⟨hclosed, -⟩ := appendForPending_reduces terminal (pendingOrders_nodup hpending ids) hloop
  obtain ⟨hfields, howned⟩ := appendForPending_events hloop
  obtain ⟨closed, hreduce, hterminal⟩ := hclosed a mem past
  constructor
  · intro view hview
    obtain ⟨event, he, hown⟩ := howned a mem past
    obtain ⟨hkind, havailable⟩ := hfields event he
    have hread : a.order.reads (some asOf) event := by
      simp [OrderDescriptor.reads, hown, havailable, now]
    have hall := visible_of_terminal hreduce hview (mem_append_right _ he) hread
      (hkind ▸ terminal)
    exact fun e hmem => hall e (mem_append_left _ hmem)
  · intro hvisible
    have hall : Visible (events ++ result) asOf a.order := by
      intro event he hown
      rcases mem_append.mp he with he | he
      · exact hvisible event he hown
      · rw [(hfields event he).2, now]
    rw [reduce_visible hall]
    exact ⟨closed, hreduce, hterminal⟩

theorem expiry_iff (ids : (orders.map (·.orderIntentId)).Nodup)
    (h : expireOrders hash orders events asOf provenance sourceCycleId boundary = .ok result) :
    Expires hash orders events result asOf provenance sourceCycleId boundary ↔
      ∀ order ∈ orders, Expiring events asOf boundary order → Visible events asOf order := by
  simp only [expireOrders, bind_eq_ok] at h
  obtain ⟨pending, hpending, hloop⟩ := h
  have hcloses {a : OrderAggregate} (mem : a ∈ pending)
    (past : pastValidity asOf boundary a = true) :=
    expiry_closes ids hpending rfl rfl hloop mem past
  have hframe : ∀ order ∈ orders, (∀ a ∈ pending, a.order = order →
      pastValidity asOf boundary a = false) →
        reduceOrderEvents order (events ++ result) (some asOf) =
        reduceOrderEvents order events (some asOf) := fun order mem kept =>
    appendForPending_frame rfl ids hpending hloop mem kept (some asOf)
  constructor
  · rintro ⟨-, hagain⟩ order mem hexpiring
    obtain ⟨a, ha, rfl, hpast⟩ := (expiring_iff hpending mem).mp hexpiring
    simp only [expireOrders, bind_eq_ok] at hagain
    obtain ⟨after, hafter, -⟩ := hagain
    obtain ⟨view, hview⟩ := reduces_of_pendingOrders hafter mem
    exact (hcloses ha hpast).1 view hview
  · intro hvisible
    have hclosed : ∀ a ∈ pending, pastValidity asOf boundary a = true → ∃ closed,
        reduceOrderEvents a.order (events ++ result) (some asOf) = .ok closed ∧
          closed.isTerminal := by
      intro a ha hpast
      obtain ⟨horder, -, -⟩ := mem_pendingOrders hpending ha
      exact (hcloses ha hpast).2
        (hvisible _ horder ((expiring_iff hpending horder).mpr ⟨a, ha, rfl, hpast⟩))
    constructor
    · intro order mem
      obtain ⟨before, hbefore⟩ := reduces_of_pendingOrders hpending mem
      by_cases hexpiring : Expiring events asOf boundary order
      · obtain ⟨a, ha, rfl, hpast⟩ := (expiring_iff hpending mem).mp hexpiring
        obtain ⟨-, hreduce, hlive⟩ := mem_pendingOrders hpending ha
        obtain ⟨after, hafter, hterminal⟩ := hclosed a ha hpast
        exact ⟨a, after, hreduce, hafter,
          iff_of_true (status_ne_of_closed hlive hterminal) hexpiring⟩
      · have hsame := hframe order mem fun a ha heq => by
          by_contra hpast
          exact hexpiring ((expiring_iff hpending mem).mpr ⟨a, ha, heq, by simpa using hpast⟩)
        exact ⟨before, before, hbefore, hsame.trans hbefore,
          iff_of_false (fun hne => hne rfl) hexpiring⟩
    · obtain ⟨after, hafter, hperm⟩ := pendingOrders_without hpending hclosed hframe
      simp only [expireOrders, hafter, ok_bind]
      refine appendForPending_none fun a ha => ?_
      obtain ⟨-, hkept⟩ := mem_filter.mp (hperm.mem_iff.mp ha)
      simpa [pastValidity] using hkept

end Expiry

/-- A soft stop closes the pending BUYs and nothing else, and an expiry the expiring orders and
nothing else, and neither finds anything the second time: for an expiry, exactly when none of the
expiring orders has a hidden event. -/
theorem stops_and_expires (hash : Hashing) (orders : List OrderDescriptor)
    (ids : (orders.map (·.orderIntentId)).Nodup) (events : List OrderEvent) :
    (∀ occurredAt availableAt provenance sourceCycleId result,
      softStopBuyCancellations hash orders events occurredAt availableAt provenance sourceCycleId =
        .ok result →
      StopsBuys orders events result ∧
      softStopBuyCancellations hash orders (events ++ result) occurredAt availableAt provenance
        sourceCycleId = .ok []) ∧
    ∀ asOf provenance sourceCycleId boundary result,
      expireOrders hash orders events asOf provenance sourceCycleId boundary = .ok result →
      (Expires hash orders events result asOf provenance sourceCycleId boundary ↔
        ∀ order ∈ orders, Expiring events asOf boundary order → Visible events asOf order) := by
  constructor
  · intro occurredAt availableAt provenance sourceCycleId result h
    have hstops := softStop_stops ids h
    exact ⟨hstops, hstops.again occurredAt availableAt provenance sourceCycleId⟩
  · intro asOf provenance sourceCycleId boundary result h
    exact expiry_iff ids h

section Sample

def lateStream : List OrderEvent := [sampleCreated, samplePartial]

theorem lateStream_calls : ∃ expired,
    expireOrders .json [sampleOrder] lateStream 5 sampleProvenance "cycle" true = .ok expired ∧
    ¬∃ again, expireOrders .json [sampleOrder] (lateStream ++ expired) 5 sampleProvenance "cycle"
      true = .ok again := by
  have hexpire : (expireOrders .json [sampleOrder] lateStream 5 sampleProvenance "cycle"
      true).toOption.any (fun expired => (expireOrders .json [sampleOrder] (lateStream ++ expired) 5
        sampleProvenance "cycle" true).toOption.isNone) = true := by decide +kernel
  obtain ⟨expired, hexpired, hnone⟩ := exists_of_any hexpire
  refine ⟨expired, hexpired, ?_⟩
  rintro ⟨again, hagain⟩
  rw [hagain] at hnone
  cases hnone

/-- The order expires at instant 5, and its view at that instant has a hole from then on. -/
theorem hidden_fill_breaks_expiry : ∃ expired,
    expireOrders .json [sampleOrder] lateStream 5 sampleProvenance "cycle" true = .ok expired ∧
    ¬Expires .json [sampleOrder] lateStream expired 5 sampleProvenance "cycle" true := by
  obtain ⟨expired, hexpired, hfails⟩ := lateStream_calls
  exact ⟨expired, hexpired, fun h => hfails ⟨[], h.again⟩⟩

/-- While the fill has not come the order is visible: the stop closes it, and so does the expiry. -/
theorem sampleCreated_stopped_and_expired : ∃ stopped expired,
    stopped ≠ [] ∧ StopsBuys [sampleOrder] [sampleCreated] stopped ∧
    expired ≠ [] ∧
    Expires .json [sampleOrder] [sampleCreated] expired 5 sampleProvenance "cycle" true := by
  have hcalls : ((softStopBuyCancellations .json [sampleOrder] [sampleCreated] 5 5 sampleProvenance
      "cycle").bind fun stopped => (expireOrders .json [sampleOrder] [sampleCreated] 5
        sampleProvenance "cycle" true).map fun expired => (stopped, expired)).toOption.any
      (fun (stopped, expired) => decide (stopped ≠ [] ∧ expired ≠ [])) = true := by
    decide +kernel
  obtain ⟨stopped, expired, hstopped, hexpired, hsome⟩ := exists_both_of_any hcalls
  obtain ⟨hstop, hexpire⟩ := of_decide_eq_true hsome
  obtain ⟨hstops, hexpires⟩ := stops_and_expires .json [sampleOrder] (by decide) [sampleCreated]
  refine ⟨stopped, expired, hstop, (hstops 5 5 sampleProvenance "cycle" stopped hstopped).1,
    hexpire, (hexpires 5 sampleProvenance "cycle" true expired hexpired).mpr ?_⟩
  intro order horder _
  obtain rfl := mem_singleton.mp horder
  intro event hevent _
  obtain rfl := mem_singleton.mp hevent
  decide

end Sample

end AdaptiveQuant
