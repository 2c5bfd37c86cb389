import AdaptiveQuant.Execution.OrderReplay
import AdaptiveQuant.Domain.CanonicalText

/-! Streams that the appender builds. -/

namespace AdaptiveQuant

open Guard Sequence List

section Streams

variable (hash : Hashing) (order : OrderDescriptor)

/-- The streams that `append_order_event` builds for one order, whatever else the book holds. -/
inductive Appended : List OrderEvent → Prop
  | created {book : List OrderEvent} {request : AppendRequest} {event : OrderEvent}
      (fresh : book.filter order.owns = []) (kind : request.eventType = .created)
      (ok : appendOrderEvent hash order book request = .ok event) : Appended [event]
  | next {events book : List OrderEvent} {request : AppendRequest} {event : OrderEvent}
      (stream : Appended events) (held : (book.filter order.owns).Perm events)
      (ok : appendOrderEvent hash order book request = .ok event) : Appended (events ++ [event])

end Streams

variable {hash : Hashing} {order : OrderDescriptor}

theorem append_ok {book request} {event : OrderEvent}
    (h : appendOrderEvent hash order book request = .ok event) :
    order.owns event ∧ ∃ aggregate,
      reduceOrderEvents order (book.filter order.owns ++ [event]) = .ok aggregate := by
  simp only [appendOrderEvent, ok_iff] at h
  obtain ⟨-, next, -, built, hbuilt, aggregate, hreduce, rfl⟩ := h
  refine ⟨?_, aggregate, hreduce⟩
  rw [OrderEvent.construct_eq_ok] at hbuilt
  simp [OrderDescriptor.owns, hbuilt, orderEventFields]

structure WellFormedStream (order : OrderDescriptor) (events : List OrderEvent) : Prop where
  owned : ∀ event ∈ events, order.owns event
  numbered : Numbered (·.eventSequence) events
  accepted : ∃ acc, Accepts order events acc
  nonempty : events ≠ []

theorem WellFormedStream.of_reduce {events aggregate} (owned : ∀ event ∈ events, order.owns event)
    (numbered : Numbered (·.eventSequence) events)
    (h : reduceOrderEvents order events = .ok aggregate) : WellFormedStream order events := by
  obtain ⟨acc, latest, hacc, hlast, -⟩ := (reduce_numbered_eq_ok owned numbered).mp h
  exact ⟨owned, numbered, ⟨acc, hacc⟩, by rintro rfl; cases hlast⟩

theorem WellFormedStream.concat {events book} {event : OrderEvent} {aggregate}
    (owned : ∀ e ∈ events, order.owns e) (numbered : Numbered (·.eventSequence) events)
    (held : book.Perm events) (hown : order.owns event)
    (h : reduceOrderEvents order (book ++ [event]) = .ok aggregate) :
    WellFormedStream order (events ++ [event]) := by
  have howned : ∀ e ∈ events ++ [event], order.owns e := by
    intro e he
    rcases mem_append.mp he with he | he
    · exact owned e he
    · rw [mem_singleton.mp he]
      exact hown
  have hread : (book ++ [event]).filter (order.reads none) = book ++ [event] := by
    refine filter_eq_self.mpr fun e he => ?_
    rw [reads_none]
    exact howned e ((held.append_right [event]).mem_iff.mp he)
  obtain ⟨acc, latest, hacc, -, -⟩ := reduce_eq_ok.mp h
  have hnum := hacc.numbered
  rw [hread] at hnum
  have hseq := numbered.seq_of_sorted_concat held hnum
  exact .of_reduce howned (numbered_concat.mpr ⟨numbered, hseq⟩)
    (reduce_perm h (held.append_right [event]).symm)

theorem Appended.wellFormed {events} (h : Appended hash order events) :
    WellFormedStream order events := by
  induction h with
  | created fresh _ ok =>
    obtain ⟨hown, aggregate, hreduce⟩ := append_ok ok
    rw [fresh] at hreduce
    exact .concat (by simp) .nil (.refl []) hown hreduce
  | next _ held ok ih =>
    obtain ⟨hown, aggregate, hreduce⟩ := append_ok ok
    exact .concat ih.owned ih.numbered held hown hreduce

/-- The aggregate of an order is the sum of its events. -/
structure Totals (order : OrderDescriptor) (events : List OrderEvent)
    (aggregate : OrderAggregate) : Prop where
  conserved : aggregate.cumulativeFilledQuantity + aggregate.remainingQuantity = order.quantity
  fill : aggregate.cumulativeFilledQuantity = (events.map (·.quantityDelta)).sum
  commission : aggregate.cumulativeCommissionUsd = (events.map (·.commissionDeltaUsd)).sum
  fill_nonneg : 0 ≤ aggregate.cumulativeFilledQuantity
  remaining_nonneg : 0 ≤ aggregate.remainingQuantity
  commission_nonneg : 0 ≤ aggregate.cumulativeCommissionUsd
  status : events.getLast?.map (·.eventType) = some aggregate.status

theorem sum_map_nonneg {f : OrderEvent → Decimal} (hf : ∀ event, 0 ≤ f event)
    (events : List OrderEvent) : 0 ≤ (events.map f).sum := by
  refine sum_nonneg fun x hx => ?_
  obtain ⟨event, -, rfl⟩ := mem_map.mp hx
  exact hf event

theorem WellFormedStream.totals {events : List OrderEvent} (h : WellFormedStream order events) :
    ∃ aggregate, reduceOrderEvents order events = .ok aggregate ∧ Totals order events aggregate ∧
      ∀ event ∈ events.dropLast, isTerminalOrderEvent event.eventType = false := by
  obtain ⟨acc, hacc⟩ := h.accepted
  obtain ⟨latest, hlast⟩ := Option.isSome_iff_exists.mp (List.getLast?_isSome.mpr h.nonempty)
  have hinv := replay_induction hacc.replayed
  refine ⟨acc.aggregate order latest,
    (reduce_numbered_eq_ok h.owned h.numbered).mpr ⟨acc, latest, hacc, hlast, rfl⟩, ?_, hinv.live⟩
  refine ⟨hinv.total, hinv.fill, hinv.commission, ?_, hinv.nonneg, ?_, ?_⟩
  · show 0 ≤ acc.cumulativeFill
    rw [hinv.fill]
    exact sum_map_nonneg (fun event => event.amounts_nonneg.1) events
  · show 0 ≤ acc.cumulativeCommission
    rw [hinv.commission]
    exact sum_map_nonneg (fun event => event.amounts_nonneg.2.1) events
  · simp [hlast, Replay.aggregate]

/-- The reducer accepts every stream that the appender builds, in any arrangement, and reports its
totals; no event of it follows a terminal one. -/
theorem appended_stream_reduces (hash : Hashing) (order : OrderDescriptor)
    (events : List OrderEvent) (h : Appended hash order events) :
    ∃ aggregate, (∀ arrangement, arrangement.Perm events →
        reduceOrderEvents order arrangement = .ok aggregate) ∧
      Totals order events aggregate ∧
      ∀ event ∈ events.dropLast, isTerminalOrderEvent event.eventType = false := by
  obtain ⟨aggregate, hreduce, htotals, hlive⟩ := h.wellFormed.totals
  exact ⟨aggregate, fun _ hp => reduce_perm hreduce hp, htotals, hlive⟩

section Sample

def sampleOrder : OrderDescriptor where
  orderIntentId := "intent"
  armId := "CORE_ONLY"
  portfolioDecisionId := "decision"
  symbol := "QQQ"
  side := .buy
  quantity := 10
  orderClass := .normal
  createdAt := 0
  validUntil := 100
  valid := by decide

def sampleProvenance : OrderEventProvenance where
  configManifestHash := "config"
  codeVersion := "code"
  modelVersion := "model"
  sourceManifestHash := "source"
  workerFenceToken := "worker"
  cycleAttemptCount := 1
  valid := by decide

def sampleRequest (eventType : OrderEventType) (availableAt : Instant) (quantity : Decimal := 0) :
    AppendRequest where
  eventType := eventType
  occurredAt := 1
  availableAt := availableAt
  provenance := sampleProvenance
  quantityDelta := quantity
  sourceCycleId := some "cycle"

def sampleCreated : OrderEvent :=
  ⟨orderEventFields .json sampleOrder (sampleRequest .created 1) ⟨1, 10, 0, 0⟩, by decide +kernel⟩

def samplePartial : OrderEvent :=
  ⟨orderEventFields .json sampleOrder (sampleRequest .partiallyFilled 10 4) ⟨2, 6, 4, 0⟩,
    by decide +kernel⟩

/-- A fill of the rest of the quantity, available at an instant of the caller's choice. -/
def sampleFilled (availableAt : Instant) : OrderEventFields :=
  orderEventFields .json sampleOrder (sampleRequest .filled availableAt 6) ⟨3, 0, 10, 0⟩

def sampleLateFill : OrderEvent := ⟨sampleFilled 20, by decide +kernel⟩

theorem samplePartial_append : appendOrderEvent .json sampleOrder [sampleCreated]
    (sampleRequest .partiallyFilled 10 4) = .ok samplePartial := by decide +kernel

theorem sampleLateFill_append : appendOrderEvent .json sampleOrder [samplePartial, sampleCreated]
    (sampleRequest .filled 20 6) = .ok sampleLateFill := by decide +kernel

theorem samplePartial_appended :
    Appended .json sampleOrder ([sampleCreated] ++ [samplePartial]) := by
  have hok : appendOrderEvent .json sampleOrder [] (sampleRequest .created 1) =
      .ok sampleCreated := by decide +kernel
  have hcreated : Appended .json sampleOrder [sampleCreated] := .created rfl rfl hok
  have held : ([sampleCreated].filter sampleOrder.owns).Perm [sampleCreated] := by decide +kernel
  exact .next hcreated held samplePartial_append

def sampleFills : List OrderEvent := [sampleCreated] ++ [samplePartial] ++ [sampleLateFill]

theorem sampleFills_appended : Appended .json sampleOrder sampleFills := by
  have held : ([samplePartial, sampleCreated].filter sampleOrder.owns).Perm
      ([sampleCreated] ++ [samplePartial]) := by decide +kernel
  exact .next samplePartial_appended held sampleLateFill_append

theorem sampleFills_reduce : Appended .json sampleOrder sampleFills ∧
    ∃ aggregate, (∀ arrangement, arrangement.Perm sampleFills →
        reduceOrderEvents sampleOrder arrangement = .ok aggregate) ∧
      Totals sampleOrder sampleFills aggregate ∧
      ∀ event ∈ sampleFills.dropLast, isTerminalOrderEvent event.eventType = false :=
  ⟨sampleFills_appended, appended_stream_reduces _ _ _ sampleFills_appended⟩

end Sample

theorem Accepts.take {events} {acc : Replay} (h : Accepts order events acc) {n : ℕ} (hn : n ≠ 0) :
    ∃ acc', Accepts order (events.take n) acc' := by
  obtain ⟨acc', hreplay⟩ := foldlM_take n h.replayed
  refine ⟨acc', ?_, ?_, ?_, h.numbered.take n, hreplay⟩
  · rw [map_take]
    exact h.eventIds.take
  · rw [map_take]
    exact h.idempotencyKeys.take
  · rw [List.head?_take, if_neg hn]
    exact h.created

theorem WellFormedStream.take {events} (h : WellFormedStream order events) {n : ℕ} (hn : n ≠ 0) :
    WellFormedStream order (events.take n) := by
  obtain ⟨acc, hacc⟩ := h.accepted
  refine ⟨fun e he => h.owned e (mem_of_mem_take he), h.numbered.take n, hacc.take hn, ?_⟩
  simp [take_eq_nil_iff, hn, h.nonempty]

def availableBy (asOf : Instant) (events : List OrderEvent) : List OrderEvent :=
  events.filter (·.availableAt ≤ asOf)

theorem WellFormedStream.reads_eq {events} (h : WellFormedStream order events) (asOf : Instant) :
    events.filter (order.reads (some asOf)) = availableBy asOf events := by
  refine filter_congr fun e he => ?_
  simp [OrderDescriptor.reads, h.owned e he]

theorem WellFormedStream.reduce_available {events} (h : WellFormedStream order events)
    {asOf : Instant} {n : ℕ} (hn : availableBy asOf events = events.take n) :
    reduceOrderEvents order events (some asOf) = reduceOrderEvents order (events.take n) := by
  have hown : (events.take n).filter (order.reads none) = events.take n := by
    refine filter_eq_self.mpr fun e he => ?_
    rw [reads_none]
    exact h.owned e (mem_of_mem_take he)
  unfold reduceOrderEvents
  rw [h.reads_eq, hn, hown]

theorem WellFormedStream.available_prefix {events : List OrderEvent}
    (h : WellFormedStream order events) {asOf : Instant} {aggregate : OrderAggregate}
    (hok : reduceOrderEvents order events (some asOf) = .ok aggregate) :
    availableBy asOf events <+: events := by
  obtain ⟨acc, -, hacc, -, -⟩ := reduce_eq_ok.mp hok
  have hnum := hacc.numbered
  have hsorted : (availableBy asOf events).Pairwise fun a b => a.eventSequence ≤ b.eventSequence :=
    (h.numbered.pairwise.imp le_of_lt).filter _
  rw [h.reads_eq, sortedBy_eq_self _ hsorted] at hnum
  rw [availableBy, h.numbered.filter_eq_take _ hnum]
  exact take_prefix _ _

/-- At every cutoff from the CREATED event's availability on, the reducer succeeds and returns the
reduction of a beginning of the stream, exactly when no event becomes available after both the
CREATED event and an event of a higher number. -/
theorem reduce_at_cutoff_iff (hash : Hashing) (order : OrderDescriptor) (created : OrderEvent)
    (rest : List OrderEvent) (h : Appended hash order (created :: rest)) :
    (∀ asOf, created.availableAt ≤ asOf → ∃ n aggregate,
        reduceOrderEvents order (created :: rest) (some asOf) = .ok aggregate ∧
        reduceOrderEvents order ((created :: rest).take n) = .ok aggregate) ↔
      (created :: rest).Pairwise fun event later =>
        event.availableAt ≤ max created.availableAt later.availableAt := by
  have hstream := h.wellFormed
  rw [← filter_le_prefix_iff]
  constructor
  · intro hcut asOf hle
    obtain ⟨-, aggregate, hok, -⟩ := hcut asOf hle
    exact hstream.available_prefix hok
  · intro hpre asOf hle
    have htake := prefix_iff_eq_take.mp (hpre asOf hle)
    have hlen : (availableBy asOf (created :: rest)).length ≠ 0 := by
      simp [availableBy, hle]
    obtain ⟨aggregate, hok, -⟩ := (hstream.take hlen).totals
    refine ⟨_, aggregate, ?_, hok⟩
    rw [hstream.reduce_available htake]
    exact hok

theorem sampleFills_at_cutoff : Appended .json sampleOrder sampleFills ∧
    ((∀ asOf, sampleCreated.availableAt ≤ asOf → ∃ n aggregate,
        reduceOrderEvents sampleOrder sampleFills (some asOf) = .ok aggregate ∧
        reduceOrderEvents sampleOrder (sampleFills.take n) = .ok aggregate) ↔
      sampleFills.Pairwise fun event later =>
        event.availableAt ≤ max sampleCreated.availableAt later.availableAt) :=
  ⟨sampleFills_appended, reduce_at_cutoff_iff _ _ _ _ sampleFills_appended⟩

def sampleEarlyFill : OrderEvent := ⟨sampleFilled 5, by decide +kernel⟩

def sampleHole : List OrderEvent := [sampleCreated] ++ [samplePartial] ++ [sampleEarlyFill]

theorem sampleHole_appended : Appended .json sampleOrder sampleHole := by
  have held : ([sampleCreated, samplePartial].filter sampleOrder.owns).Perm
      ([sampleCreated] ++ [samplePartial]) := by decide +kernel
  have hok : appendOrderEvent .json sampleOrder [sampleCreated, samplePartial]
      (sampleRequest .filled 5 6) = .ok sampleEarlyFill := by decide +kernel
  exact .next samplePartial_appended held hok

/-- The view at instant 5 of that stream has a hole: the reducer rejects it. -/
theorem sampleHole_rejected_at_cutoff : Appended .json sampleOrder sampleHole ∧
    sampleCreated.availableAt ≤ 5 ∧
    ¬∃ aggregate, reduceOrderEvents sampleOrder sampleHole (some 5) = .ok aggregate := by
  refine ⟨sampleHole_appended, by decide +kernel, ?_⟩
  rintro ⟨aggregate, hok⟩
  have hpre := sampleHole_appended.wellFormed.available_prefix hok
  revert hpre
  decide +kernel

theorem view_prefix {events : List OrderEvent} {earlier later : Instant} (le : earlier ≤ later) :
    let view := fun asOf => sortedBy (·.eventSequence) (events.filter (order.reads (some asOf)))
    Numbered (·.eventSequence) (view earlier) → Numbered (·.eventSequence) (view later) →
      view earlier <+: view later := by
  intro view numbered numbered'
  have hfilter : events.filter (order.reads (some earlier)) =
      (events.filter (order.reads (some later))).filter (·.availableAt ≤ earlier) := by
    rw [filter_filter]
    refine filter_congr fun e _ => ?_
    have hlater : e.availableAt ≤ earlier → e.availableAt ≤ later := fun h => h.trans le
    simp only [OrderDescriptor.reads, Option.all_some]
    grind
  have hview : view earlier = (view later).filter (·.availableAt ≤ earlier) := by
    have hsorted := (sortedBy_pairwise (·.eventSequence) (events.filter
      (order.reads (some later)))).filter (·.availableAt ≤ earlier)
    rw [← sortedBy_eq_self _ hsorted]
    simp only [view, hfilter]
    exact (sortedBy_eq_of_perm _ ((sortedBy_perm _ _).filter _)
      (numbered'.nodup.sublist (filter_sublist.map _))).symm
  rw [hview] at numbered ⊢
  rw [numbered'.filter_eq_take _ numbered]
  exact take_prefix _ _

/-- A later cutoff only adds to what is known of an order, and nothing once it has ended. -/
theorem later_view_extends {events : List OrderEvent} {earlier later : Instant}
    {before after : OrderAggregate} (le : earlier ≤ later)
    (hbefore : reduceOrderEvents order events (some earlier) = .ok before)
    (hafter : reduceOrderEvents order events (some later) = .ok after) :
    before.cumulativeFilledQuantity ≤ after.cumulativeFilledQuantity ∧
      after.remainingQuantity ≤ before.remainingQuantity ∧
      before.cumulativeCommissionUsd ≤ after.cumulativeCommissionUsd ∧
      (isTerminalOrderEvent before.status → after = before) := by
  obtain ⟨acc, latest, hacc, hlast, rfl⟩ := reduce_eq_ok.mp hbefore
  obtain ⟨acc', latest', hacc', hlast', rfl⟩ := reduce_eq_ok.mp hafter
  obtain ⟨rest, hrest⟩ := view_prefix le hacc.numbered hacc'.numbered
  beta_reduce at hrest
  have hinv := replay_induction hacc.replayed
  have hinv' := replay_induction hacc'.replayed
  have hfill := hinv'.fill
  have hcommission := hinv'.commission
  rw [← hrest, map_append, sum_append, ← hinv.fill] at hfill
  rw [← hrest, map_append, sum_append, ← hinv.commission] at hcommission
  have hmore := sum_map_nonneg (fun e => e.amounts_nonneg.1) rest
  have hcharged := sum_map_nonneg (fun e => e.amounts_nonneg.2.1) rest
  have hfilled : acc.cumulativeFill ≤ acc'.cumulativeFill := by linarith
  refine ⟨hfilled, ?_, ?_, fun hended => ?_⟩
  · show acc'.remaining ≤ acc.remaining
    linarith [hinv.total, hinv'.total]
  · show acc.cumulativeCommission ≤ acc'.cumulativeCommission
    linarith
  · have hdone : rest = [] := by
      by_contra hne
      have hlive := hinv'.live latest (by
        rw [← hrest, dropLast_append_of_ne_nil hne]
        exact mem_append_left _ (mem_of_getLast? hlast))
      exact absurd (hlive.symm.trans hended) (by decide)
    rw [hdone, append_nil] at hrest
    rw [← hrest] at hlast'
    cases hlast.symm.trans hlast'
    have hreplayed := hacc'.replayed
    rw [← hrest, hacc.replayed] at hreplayed
    cases hreplayed
    rfl

theorem sampleFills_extend : ∃ before after,
    reduceOrderEvents sampleOrder sampleFills (some 10) = .ok before ∧
    reduceOrderEvents sampleOrder sampleFills (some 20) = .ok after ∧
    before.cumulativeFilledQuantity ≤ after.cumulativeFilledQuantity := by
  have hreduce : ∀ asOf ∈ [10, 20], (reduceOrderEvents sampleOrder sampleFills
      (some asOf)).toOption.any (fun _ => true) = true := by decide +kernel
  obtain ⟨before, hbefore, -⟩ := exists_of_any (hreduce 10 (by decide))
  obtain ⟨after, hafter, -⟩ := exists_of_any (hreduce 20 (by decide))
  exact ⟨before, after, hbefore, hafter, (later_view_extends (by decide) hbefore hafter).1⟩

end AdaptiveQuant
