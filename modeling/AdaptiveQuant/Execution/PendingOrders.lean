import AdaptiveQuant.Execution.OrderStream

/-! The loop of the book operations over the pending orders. -/

namespace AdaptiveQuant

open Guard Sequence List

variable {hash : Hashing}
variable {book : List OrderEvent}

theorem append_id {order request} {event : OrderEvent}
    (h : appendOrderEvent hash order book request = .ok event) :
    event.orderIntentId = order.orderIntentId := of_decide_eq_true (append_ok h).1

variable {asOf : Option Instant}

theorem reduce_terminal {order events aggregate}
    (h : reduceOrderEvents order events asOf = .ok aggregate) {event : OrderEvent}
    (mem : event ∈ events) (read : order.reads asOf event)
    (terminal : isTerminalOrderEvent event.eventType) :
    aggregate.isTerminal ∧ event.eventSequence = (events.filter (order.reads asOf)).length := by
  obtain ⟨acc, latest, hacc, hlast, rfl⟩ := reduce_eq_ok.mp h
  have hlive := (replay_induction hacc.replayed).live
  have hnum := hacc.numbered
  have hlength := (sortedBy_perm (·.eventSequence) (events.filter (order.reads asOf))).length_eq
  have hmem : event ∈ sortedBy (·.eventSequence) (events.filter (order.reads asOf)) := by
    rw [mem_sortedBy, mem_filter]
    exact ⟨mem, read⟩
  obtain ⟨front, hfront⟩ := List.getLast?_eq_some_iff.mp hlast
  rw [hfront] at hlive hmem hnum hlength
  rw [dropLast_concat] at hlive
  rw [length_append, length_singleton] at hlength
  rcases mem_append.mp hmem with hmem | hmem
  · rw [hlive event hmem] at terminal
    cases terminal
  · rw [mem_singleton.mp hmem] at terminal ⊢
    exact ⟨terminal, hlength ▸ (numbered_concat.mp hnum).2⟩

theorem append_fields {order request} {event : OrderEvent}
    (h : appendOrderEvent hash order book request = .ok event) :
    event.eventType = request.eventType ∧ event.availableAt = request.availableAt := by
  simp only [appendOrderEvent, ok_iff] at h
  obtain ⟨-, next, -, built, hbuilt, -, -, rfl⟩ := h
  rw [OrderEvent.construct_eq_ok] at hbuilt
  simp [hbuilt, orderEventFields]

theorem append_terminal {order request} {event : OrderEvent}
    (h : appendOrderEvent hash order book request = .ok event)
    (terminal : isTerminalOrderEvent request.eventType) :
    order.owns event ∧ ∃ aggregate, reduceOrderEvents order (book ++ [event]) = .ok aggregate ∧
      aggregate.isTerminal := by
  obtain ⟨hown, aggregate, hreduce⟩ := append_ok h
  obtain ⟨hkind, -⟩ := append_fields h
  have hbook : reduceOrderEvents order (book ++ [event]) = .ok aggregate := by
    have hreads : order.reads none = order.owns := funext (reads_none order)
    rw [← hreduce]
    simp only [reduceOrderEvents, filter_append, hreads, filter_filter, Bool.and_self]
  have hmem : event ∈ book ++ [event] := mem_append_right _ mem_cons_self
  have hclosed := reduce_terminal hbook hmem (by simpa using hown) (hkind ▸ terminal)
  exact ⟨hown, aggregate, hbook, hclosed.1⟩

theorem reduce_append_other {order} {event : OrderEvent} (other : order.owns event = false) :
    reduceOrderEvents order (book ++ [event]) asOf = reduceOrderEvents order book asOf := by
  simp only [reduceOrderEvents, filter_append]
  rw [filter_cons_of_neg (by simp [OrderDescriptor.reads, other]), filter_nil,
    append_nil]

variable {result : List OrderEvent} {pending : List OrderAggregate} {chosen : OrderAggregate → Bool}

theorem appendForPending_reduces {events request}
    (terminal : isTerminalOrderEvent request.eventType)
    (ids : (pending.map (·.order.orderIntentId)).Nodup)
    (h : appendForPending hash events pending chosen request = .ok result) :
    (∀ a ∈ pending, chosen a = true → ∃ closed,
      reduceOrderEvents a.order (events ++ result) = .ok closed ∧ closed.isTerminal) ∧
    ∀ (order : OrderDescriptor) (asOf : Option Instant),
      (∀ a ∈ pending, chosen a = true → a.order.orderIntentId ≠ order.orderIntentId) →
      reduceOrderEvents order (events ++ result) asOf = reduceOrderEvents order events asOf := by
  induction pending using List.reverseRecOn generalizing result with
  | nil =>
    obtain rfl : [] = result := Except.ok.inj h
    simp
  | append_singleton front last ih =>
    rw [map_append, nodup_append] at ids
    obtain ⟨hfront, -, hne⟩ := ids
    have hlast : ∀ a ∈ front, a.order.orderIntentId ≠ last.order.orderIntentId := fun a ha =>
      hne _ (mem_map_of_mem ha) _ (by simp)
    obtain ⟨before, hbefore, hstep⟩ := foldlM_concat_eq_ok.mp h
    obtain ⟨hclosed, hothers⟩ := ih hfront hbefore
    split at hstep
    · rename_i hchosen
      simp only [ok_iff] at hstep
      obtain ⟨event, hevent, rfl⟩ := hstep
      obtain ⟨hown, closed, hreduce, hterminal⟩ := append_terminal hevent terminal
      have hid : event.orderIntentId = last.order.orderIntentId := of_decide_eq_true hown
      have hread : ∀ (order : OrderDescriptor) (asOf : Option Instant),
          last.order.orderIntentId ≠ order.orderIntentId →
          reduceOrderEvents order (events ++ (before ++ [event])) asOf =
            reduceOrderEvents order (events ++ before) asOf := by
        intro order asOf hother
        rw [← append_assoc]
        refine reduce_append_other (decide_eq_false ?_)
        rw [hid]
        exact hother
      refine ⟨fun a ha hchosenA => ?_, fun order asOf hother => ?_⟩
      · rcases mem_append.mp ha with ha | ha
        · rw [hread _ _ (hlast a ha).symm]
          exact hclosed a ha hchosenA
        · rw [mem_singleton.mp ha, ← append_assoc]
          exact ⟨closed, hreduce, hterminal⟩
      · rw [hread order asOf (hother last (by simp) hchosen)]
        exact hothers order asOf fun a ha => hother a (mem_append_left _ ha)
    · rename_i hchosen
      obtain rfl : before = result := Except.ok.inj hstep
      refine ⟨fun a ha hchosenA => ?_, fun order asOf hother => ?_⟩
      · rcases mem_append.mp ha with ha | ha
        · exact hclosed a ha hchosenA
        · rw [mem_singleton.mp ha] at hchosenA
          exact absurd hchosenA hchosen
      · exact hothers order asOf fun a ha => hother a (mem_append_left _ ha)

theorem appendForPending_events {events request}
    (h : appendForPending hash events pending chosen request = .ok result) :
    (∀ event ∈ result, event.eventType = request.eventType ∧
      event.availableAt = request.availableAt) ∧
    ∀ a ∈ pending, chosen a = true → ∃ event ∈ result, a.order.owns event := by
  induction pending using List.reverseRecOn generalizing result with
  | nil =>
    obtain rfl : [] = result := Except.ok.inj h
    simp
  | append_singleton front last ih =>
    obtain ⟨before, hbefore, hstep⟩ := foldlM_concat_eq_ok.mp h
    obtain ⟨hfields, howned⟩ := ih hbefore
    split at hstep
    · simp only [ok_iff] at hstep
      obtain ⟨event, hevent, rfl⟩ := hstep
      refine ⟨fun e he => ?_, fun a ha hchosen => ?_⟩
      · rcases mem_append.mp he with he | he
        · exact hfields e he
        · rw [mem_singleton.mp he]
          exact append_fields hevent
      · rcases mem_append.mp ha with ha | ha
        · obtain ⟨e, he, hown⟩ := howned a ha hchosen
          exact ⟨e, mem_append_left _ he, hown⟩
        · rw [mem_singleton.mp ha]
          exact ⟨event, by simp, (append_ok hevent).1⟩
    · rename_i hskipped
      obtain rfl : before = result := Except.ok.inj hstep
      refine ⟨hfields, fun a ha hchosen => ?_⟩
      rcases mem_append.mp ha with ha | ha
      · exact howned a ha hchosen
      · rw [mem_singleton.mp ha] at hchosen
        exact absurd hchosen hskipped

theorem appendForPending_ids {events request}
    (h : appendForPending hash events pending chosen request = .ok result) :
    result.map (·.orderIntentId) = (pending.filter chosen).map (·.order.orderIntentId) := by
  refine foldlM_induction h (fun seen result =>
    result.map (·.orderIntentId) = (seen.filter chosen).map (·.order.orderIntentId)) rfl ?_
  intro seen aggregate acc acc' inv hstep
  split at hstep
  · rename_i hchosen
    simp only [ok_iff] at hstep
    obtain ⟨event, hevent, rfl⟩ := hstep
    simp [inv, hchosen, append_id hevent]
  · rename_i hskipped
    obtain rfl := Except.ok.inj hstep
    simp [inv, hskipped]

theorem reduce_order {order events aggregate}
    (h : reduceOrderEvents order events asOf = .ok aggregate) :
    aggregate.order = order := by
  obtain ⟨acc, latest, -, -, rfl⟩ := reduce_eq_ok.mp h
  rfl

variable {orders : List OrderDescriptor}

theorem mapM_reduce_filter {events events' : List OrderEvent} {keep : OrderAggregate → Bool}
    {aggregates : List OrderAggregate}
    (h : orders.mapM (reduceOrderEvents · events asOf) = .ok aggregates)
    (each : ∀ order ∈ orders, ∀ a, reduceOrderEvents order events asOf = .ok a →
      ∃ a', reduceOrderEvents order events' asOf = .ok a' ∧
        if a.isPending ∧ keep a = false then a'.isPending = false else a' = a) :
    ∃ aggregates', orders.mapM (reduceOrderEvents · events' asOf) = .ok aggregates' ∧
      aggregates'.filter (·.isPending) = (aggregates.filter (·.isPending)).filter keep := by
  induction orders generalizing aggregates with
  | nil =>
    obtain rfl : [] = aggregates := Except.ok.inj h
    exact ⟨[], rfl, rfl⟩
  | cons order rest ih =>
    simp only [mapM_cons, ok_iff] at h
    obtain ⟨a, ha, as, has, rfl⟩ := h
    rw [forall_mem_cons] at each
    obtain ⟨a', ha', hstep⟩ := each.1 a ha
    obtain ⟨as', has', hrest⟩ := ih has each.2
    refine ⟨a' :: as', ?_, ?_⟩
    · simp only [mapM_cons, ha', has', ok_bind]
      rfl
    · split at hstep
      · rename_i hdropped
        simp [hdropped, hstep, hrest]
      · rename_i hkept
        subst hstep
        cases hpending : a'.isPending with
        | false => simp [hpending, hrest]
        | true =>
          have hkeep : keep a' = true := by
            by_contra hnot
            exact hkept ⟨hpending, by simpa using hnot⟩
          simp [hpending, hkeep, hrest]

theorem pendingOrders_eq_ok {events} (h : pendingOrders orders events asOf = .ok pending) :
    ∃ aggregates, orders.mapM (reduceOrderEvents · events asOf) = .ok aggregates ∧
      pending.Perm (aggregates.filter (·.isPending)) := by
  simp only [pendingOrders, ok_iff] at h
  obtain ⟨aggregates, hmap, rfl⟩ := h
  exact ⟨aggregates, hmap, sortedBy_perm _ _⟩

theorem reduces_of_pendingOrders {events} (h : pendingOrders orders events asOf = .ok pending)
    {order} (mem : order ∈ orders) : ∃ a, reduceOrderEvents order events asOf = .ok a := by
  obtain ⟨aggregates, hmap, -⟩ := pendingOrders_eq_ok h
  obtain ⟨a, -, ha⟩ := exists_of_mapM_eq_ok hmap order mem
  exact ⟨a, ha⟩

theorem mem_pendingOrders {events} (h : pendingOrders orders events asOf = .ok pending) {a}
    (mem : a ∈ pending) :
    a.order ∈ orders ∧ reduceOrderEvents a.order events asOf = .ok a ∧ a.isPending := by
  obtain ⟨aggregates, hmap, hperm⟩ := pendingOrders_eq_ok h
  obtain ⟨hmem, hpending⟩ := mem_filter.mp (hperm.mem_iff.mp mem)
  obtain ⟨order, horder, hreduce⟩ := mem_of_mapM_eq_ok hmap a hmem
  rw [reduce_order hreduce]
  exact ⟨horder, hreduce, hpending⟩

theorem mem_pendingOrders_of_reduce {events} (h : pendingOrders orders events asOf = .ok pending)
    {a} (mem : a.order ∈ orders) (ok : reduceOrderEvents a.order events asOf = .ok a)
    (live : a.isPending) : a ∈ pending := by
  obtain ⟨aggregates, hmap, hperm⟩ := pendingOrders_eq_ok h
  obtain ⟨b, hb, hreduce⟩ := exists_of_mapM_eq_ok hmap a.order mem
  obtain rfl : a = b := Except.ok.inj (ok.symm.trans hreduce)
  exact hperm.mem_iff.mpr (mem_filter.mpr ⟨hb, live⟩)

theorem pendingOrders_nodup {events} (h : pendingOrders orders events asOf = .ok pending)
    (ids : (orders.map (·.orderIntentId)).Nodup) :
    (pending.map (·.order.orderIntentId)).Nodup := by
  obtain ⟨aggregates, hmap, hperm⟩ := pendingOrders_eq_ok h
  have hsame : aggregates.map (·.order.orderIntentId) = orders.map (·.orderIntentId) :=
    map_of_mapM_eq_ok (fun order a ha => by rw [reduce_order ha]) hmap
  refine (hperm.map _).nodup_iff.mpr (List.Nodup.sublist (filter_sublist.map _) ?_)
  rw [hsame]
  exact ids

theorem pendingOrders_without {events : List OrderEvent}
    (hpending : pendingOrders orders events asOf = .ok pending)
    (hclosed : ∀ a ∈ pending, chosen a = true → ∃ closed,
      reduceOrderEvents a.order (events ++ result) asOf = .ok closed ∧ closed.isTerminal)
    (hframe : ∀ order ∈ orders, (∀ a ∈ pending, a.order = order → chosen a = false) →
      reduceOrderEvents order (events ++ result) asOf = reduceOrderEvents order events asOf) :
    ∃ after, pendingOrders orders (events ++ result) asOf = .ok after ∧
      after.Perm (pending.filter fun a => !chosen a) := by
  obtain ⟨aggregates, hmap, hperm⟩ := pendingOrders_eq_ok hpending
  have heach : ∀ order ∈ orders, ∀ a, reduceOrderEvents order events asOf = .ok a →
      ∃ a', reduceOrderEvents order (events ++ result) asOf = .ok a' ∧
        if a.isPending ∧ (!chosen a) = false then a'.isPending = false else a' = a := by
    intro order horder a ha
    have horder' : a.order = order := reduce_order ha
    by_cases hdrop : a.isPending ∧ chosen a = true
    · have hmem : a ∈ pending := mem_pendingOrders_of_reduce hpending (horder' ▸ horder)
        (horder' ▸ ha) hdrop.1
      obtain ⟨closed, hreduce, hterminal⟩ := hclosed a hmem hdrop.2
      rw [horder'] at hreduce
      refine ⟨closed, hreduce, ?_⟩
      rw [if_pos ⟨hdrop.1, by simp [hdrop.2]⟩]
      simp [OrderAggregate.isPending, hterminal]
    · refine ⟨a, ?_, by rw [if_neg (by simpa using hdrop)]⟩
      rw [hframe order horder, ha]
      intro b hb heq
      obtain ⟨-, hreduce, hlive⟩ := mem_pendingOrders hpending hb
      rw [heq, ha] at hreduce
      obtain rfl : a = b := Except.ok.inj hreduce
      by_contra hchosen
      exact hdrop ⟨hlive, by simpa using hchosen⟩
  obtain ⟨aggregates', hmap', hfilter⟩ := mapM_reduce_filter hmap heach
  refine ⟨_, by simp only [pendingOrders, hmap', ok_bind]; rfl, ?_⟩
  refine (sortedBy_perm _ _).trans ?_
  rw [hfilter]
  exact (hperm.filter _).symm

theorem appendForPending_frame {events request} (terminal : isTerminalOrderEvent request.eventType)
    (ids : (orders.map (·.orderIntentId)).Nodup)
    (hpending : pendingOrders orders events asOf = .ok pending)
    (h : appendForPending hash events pending chosen request = .ok result) {order}
    (mem : order ∈ orders) (kept : ∀ a ∈ pending, a.order = order → chosen a = false)
    (view : Option Instant) :
    reduceOrderEvents order (events ++ result) view = reduceOrderEvents order events view := by
  obtain ⟨-, hothers⟩ := appendForPending_reduces terminal (pendingOrders_nodup hpending ids) h
  refine hothers order view fun a ha hchosen heq => ?_
  have hsame : a.order = order :=
    inj_on_of_nodup_map ids (mem_pendingOrders hpending ha).1 mem heq
  rw [kept a ha hsame] at hchosen
  cases hchosen

theorem appendForPending_pending {events request}
    (terminal : isTerminalOrderEvent request.eventType) (ids : (orders.map (·.orderIntentId)).Nodup)
    (hpending : pendingOrders orders events = .ok pending)
    (h : appendForPending hash events pending chosen request = .ok result) :
    ∃ after, pendingOrders orders (events ++ result) = .ok after ∧
      after.Perm (pending.filter fun a => !chosen a) :=
  pendingOrders_without hpending
    (appendForPending_reduces terminal (pendingOrders_nodup hpending ids) h).1
    fun _ mem kept => appendForPending_frame terminal ids hpending h mem kept none

theorem appendForPending_none {events request} (h : ∀ a ∈ pending, chosen a = false) :
    appendForPending hash events pending chosen request = .ok [] := by
  unfold appendForPending
  induction pending with
  | nil => rfl
  | cons a rest ih =>
    rw [forall_mem_cons] at h
    rw [foldlM_cons, if_neg (by simp [h.1])]
    exact ih h.2

end AdaptiveQuant
