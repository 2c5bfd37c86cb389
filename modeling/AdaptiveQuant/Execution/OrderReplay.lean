import AdaptiveQuant.Execution.OrderState

/-! What the reducer accepts and what it returns. -/

namespace AdaptiveQuant

open Guard Sequence List

/-- The loop variables after an accepted event. -/
def Replay.advance (acc : Replay) (event : OrderEvent) : Replay where
  remaining := acc.remaining - event.quantityDelta
  cumulativeFill := acc.cumulativeFill + event.quantityDelta
  cumulativeCommission := acc.cumulativeCommission + event.commissionDeltaUsd
  previousStatus := some event.eventType

/-- The conditions on the next event, given the loop variables before it. -/
structure Replay.Admits (acc : Replay) (order : OrderDescriptor) (event : OrderEvent) : Prop where
  notBefore : order.createdAt ≤ event.occurredAt
  live : acc.previousStatus.any isTerminalOrderEvent = false
  createdOnce : event.eventType = .created → acc.previousStatus = none
  within : event.quantityDelta ≤ acc.remaining
  partialLeaves : event.eventType = .partiallyFilled → 0 < acc.remaining - event.quantityDelta
  filledConsumes : event.eventType = .filled → acc.remaining - event.quantityDelta = 0
  remaining : event.remainingQuantity = acc.remaining - event.quantityDelta
  cumulativeFill : event.cumulativeFilledQuantity = acc.cumulativeFill + event.quantityDelta
  cumulativeCommission :
    event.cumulativeCommissionUsd = acc.cumulativeCommission + event.commissionDeltaUsd

variable {acc acc' : Replay}

theorem replayDeltas_eq_ok {event : OrderEvent} (hrem : 0 ≤ acc.remaining) :
    replayDeltas acc event = .ok acc' ↔
      (event.eventType = .created → acc.previousStatus = none) ∧
      event.quantityDelta ≤ acc.remaining ∧
      (event.eventType = .partiallyFilled → 0 < acc.remaining - event.quantityDelta) ∧
      (event.eventType = .filled → acc.remaining - event.quantityDelta = 0) ∧
      acc' = { acc.advance event with previousStatus := acc.previousStatus } := by
  have hpos := event.quantityDelta_pos
  have hzero := event.deltas_eq_zero
  unfold replayDeltas Replay.advance
  by_cases hcreated : event.eventType = .created
  · obtain ⟨hq, hc⟩ := hzero (by rw [hcreated]; rfl)
    simp only [hcreated, if_true, ok_iff, hq, hc, sub_zero, add_zero]
    constructor
    · rintro ⟨hnone, -, rfl⟩
      exact ⟨fun _ => not_not.mp hnone, hrem, by simp, by simp, rfl⟩
    · rintro ⟨hnone, -, -, -, rfl⟩
      exact ⟨not_not.mpr (hnone trivial), by simp, rfl⟩
  · by_cases hfill : event.eventType.isFill
    · have hp := hpos hfill
      simp only [hcreated, hfill, if_false, if_true, ok_iff]
      constructor
      · rintro ⟨-, hle, hpart, hfull, rfl⟩
        exact ⟨by simp, not_lt.mp hle, fun h => not_le.mp fun h' => hpart ⟨h, h'⟩,
          fun h => not_not.mp fun h' => hfull ⟨h, h'⟩, rfl⟩
      · rintro ⟨-, hle, hpart, hfull, rfl⟩
        exact ⟨not_le.mpr hp, not_lt.mpr hle, fun h => absurd (hpart h.1) (not_lt.mpr h.2),
          fun h => h.2 (hfull h.1), rfl⟩
    · obtain ⟨hq, hc⟩ := hzero (by simpa using hfill)
      have hnp : event.eventType ≠ .partiallyFilled := fun h => hfill (by rw [h]; rfl)
      have hnf : event.eventType ≠ .filled := fun h => hfill (by rw [h]; rfl)
      simp only [hcreated, hfill, Bool.false_eq_true, if_false, ok_iff, hq, hc, sub_zero, add_zero]
      constructor
      · rintro ⟨-, rfl⟩
        exact ⟨by simp, hrem, fun h => absurd h hnp, fun h => absurd h hnf, rfl⟩
      · rintro ⟨-, -, -, -, rfl⟩
        exact ⟨by simp, rfl⟩

theorem replayEvent_eq_ok {order} {event : OrderEvent} (hrem : 0 ≤ acc.remaining) :
    replayEvent order acc event = .ok acc' ↔ acc.Admits order event ∧ acc' = acc.advance event := by
  simp only [replayEvent, ok_iff, replayDeltas_eq_ok hrem]
  constructor
  · rintro ⟨hnot, hlive, mid, ⟨hcreated, hle, hpart, hfull, rfl⟩, hr, hf, hc, rfl⟩
    exact ⟨⟨not_lt.mp hnot, by simpa using hlive, hcreated, hle, hpart, hfull, not_not.mp hr,
      not_not.mp hf, not_not.mp hc⟩, rfl⟩
  · rintro ⟨h, rfl⟩
    exact ⟨not_lt.mpr h.notBefore, by simp [h.live], _,
      ⟨h.createdOnce, h.within, h.partialLeaves, h.filledConsumes, rfl⟩, not_not.mpr h.remaining,
      not_not.mpr h.cumulativeFill, not_not.mpr h.cumulativeCommission, rfl⟩

/-- What holds of the loop variables after the events `pre`. -/
structure Replayed (order : OrderDescriptor) (pre : List OrderEvent) (acc : Replay) : Prop where
  total : acc.cumulativeFill + acc.remaining = order.quantity
  fill : acc.cumulativeFill = (pre.map (·.quantityDelta)).sum
  commission : acc.cumulativeCommission = (pre.map (·.commissionDeltaUsd)).sum
  nonneg : 0 ≤ acc.remaining
  status : acc.previousStatus = pre.getLast?.map (·.eventType)
  live : ∀ event ∈ pre.dropLast, isTerminalOrderEvent event.eventType = false
  snapshot : ∀ event ∈ pre.getLast?, event.remainingQuantity = acc.remaining ∧
    event.cumulativeFilledQuantity = acc.cumulativeFill ∧
    event.cumulativeCommissionUsd = acc.cumulativeCommission

theorem Replayed.start (order : OrderDescriptor) : Replayed order [] (.start order) where
  total := by simp [Replay.start]
  fill := rfl
  commission := rfl
  nonneg := le_of_lt order.quantity_pos
  status := rfl
  live := by simp
  snapshot := by simp

theorem Replayed.step {order pre} {event : OrderEvent} (h : Replayed order pre acc)
    (hstep : replayEvent order acc event = .ok acc') : Replayed order (pre ++ [event]) acc' := by
  obtain ⟨hadm, rfl⟩ := (replayEvent_eq_ok h.nonneg).mp hstep
  refine ⟨?_, ?_, ?_, sub_nonneg.mpr hadm.within, by simp [Replay.advance], ?_, ?_⟩
  · simp only [Replay.advance]
    linarith [h.total]
  · simp [Replay.advance, h.fill]
  · simp [Replay.advance, h.commission]
  · -- every event before the new one: those before `pre`'s last, and that last one itself
    intro e he
    rw [dropLast_concat] at he
    have hlast := hadm.live
    rw [h.status] at hlast
    rcases eq_nil_or_concat' pre with rfl | ⟨front, last, rfl⟩
    · cases he
    · rcases mem_append.mp he with hfront | hlast'
      · exact h.live e (by simpa using hfront)
      · obtain rfl := mem_singleton.mp hlast'
        simpa using hlast
  · intro e he
    obtain rfl : event = e := by simpa using he
    exact ⟨hadm.remaining, hadm.cumulativeFill, hadm.cumulativeCommission⟩

theorem replay_induction {order events} {acc : Replay}
    (h : events.foldlM (replayEvent order) (.start order) = .ok acc) : Replayed order events acc :=
  foldlM_induction h (Replayed order) (.start order) fun _ _ _ _ hinv hstep => hinv.step hstep

def Replay.aggregate (acc : Replay) (order : OrderDescriptor) (latest : OrderEvent) :
    OrderAggregate where
  order := order
  status := latest.eventType
  remainingQuantity := acc.remaining
  cumulativeFilledQuantity := acc.cumulativeFill
  cumulativeCommissionUsd := acc.cumulativeCommission
  latestEventSequence := latest.eventSequence
  latestEventId := latest.eventId

/-- An accepted stream in sequence order: a CREATED event first, numbered 1, 2, 3, and so on, no
identifier twice, and each event admitted in turn. -/
structure Accepts (order : OrderDescriptor) (ordered : List OrderEvent) (acc : Replay) : Prop where
  eventIds : (ordered.map (·.eventId)).Nodup
  idempotencyKeys : (ordered.map (·.idempotencyKey)).Nodup
  created : ordered.head?.map (·.eventType) = some .created
  numbered : Numbered (·.eventSequence) ordered
  replayed : ordered.foldlM (replayEvent order) (.start order) = .ok acc

theorem Accepts.nonempty {order ordered} {acc : Replay} (h : Accepts order ordered acc) :
    ordered ≠ [] := by
  rintro rfl
  cases h.created

theorem nodup_map_concat {β : Type*} {f : OrderEvent → β} {events : List OrderEvent}
    {event : OrderEvent} :
    ((events ++ [event]).map f).Nodup ↔ (events.map f).Nodup ∧ f event ∉ events.map f := by
  rw [map_append, nodup_append]
  constructor
  · rintro ⟨h, -, hne⟩
    exact ⟨h, fun hmem => hne _ hmem (f event) (by simp) rfl⟩
  · rintro ⟨h, hfresh⟩
    refine ⟨h, by simp, fun a ha b hb hab => hfresh ?_⟩
    obtain rfl : b = f event := by simpa using hb
    exact hab ▸ ha

theorem accepts_concat {order : OrderDescriptor} {ordered : List OrderEvent} {event : OrderEvent}
    {acc' : Replay} (hne : ordered ≠ []) :
    Accepts order (ordered ++ [event]) acc' ↔ ∃ acc, Accepts order ordered acc ∧
      event.eventSequence = ordered.length + 1 ∧ event.eventId ∉ ordered.map (·.eventId) ∧
      event.idempotencyKey ∉ ordered.map (·.idempotencyKey) ∧
      replayEvent order acc event = .ok acc' := by
  have hhead : (ordered ++ [event]).head? = ordered.head? := by
    cases ordered with
    | nil => exact absurd rfl hne
    | cons => rfl
  constructor
  · intro h
    obtain ⟨hid, hid'⟩ := nodup_map_concat.mp h.eventIds
    obtain ⟨hkey, hkey'⟩ := nodup_map_concat.mp h.idempotencyKeys
    obtain ⟨hnum, hseq⟩ := numbered_concat.mp h.numbered
    obtain ⟨acc, hacc, hstep⟩ := foldlM_concat_eq_ok.mp h.replayed
    exact ⟨acc, ⟨hid, hkey, hhead ▸ h.created, hnum, hacc⟩, hseq, hid', hkey', hstep⟩
  · rintro ⟨acc, h, hseq, hid, hkey, hstep⟩
    exact ⟨nodup_map_concat.mpr ⟨h.eventIds, hid⟩, nodup_map_concat.mpr ⟨h.idempotencyKeys, hkey⟩,
      by rw [hhead]; exact h.created, numbered_concat.mpr ⟨h.numbered, hseq⟩,
      foldlM_concat_eq_ok.mpr ⟨acc, h.replayed, hstep⟩⟩

theorem validateEventIdentity_eq_ok {events} {u : Unit} :
    validateEventIdentity events = .ok u ↔
      (events.map (·.eventId)).Nodup ∧ (events.map (·.idempotencyKey)).Nodup := by
  simp [validateEventIdentity]

theorem reduceMaterialized_eq_ok {order events aggregate} :
    reduceMaterialized order events = .ok aggregate ↔
      ∃ acc latest, Accepts order (sortedBy (·.eventSequence) events) acc ∧
        (sortedBy (·.eventSequence) events).getLast? = some latest ∧
        aggregate = acc.aggregate order latest := by
  have hperm := sortedBy_perm (·.eventSequence) events
  have hids := (hperm.map (·.eventId)).nodup_iff
  have hkeys := (hperm.map (·.idempotencyKey)).nodup_iff
  simp only [reduceMaterialized, bind_eq_ok, validateEventIdentity_eq_ok]
  rw [← hids, ← hkeys]
  cases hsorted : sortedBy (·.eventSequence) events with
  | nil => simp
  | cons first rest =>
    have hlast : (first :: rest).getLast? = some (rest.getLastD first) := by
      rw [List.getLast?_cons, getLastD_eq_getLast?]
    simp only [ok_iff, not_not, hlast, Option.some.injEq]
    constructor
    · rintro ⟨⟨hid, hkey⟩, hcreated, -, hnum, acc, hacc, rfl⟩
      exact ⟨acc, _, ⟨hid, hkey, by simp [hcreated], hnum, hacc⟩, rfl, rfl⟩
    · rintro ⟨acc, latest, h, rfl, rfl⟩
      have hone : first.eventSequence = 1 := by
        have := h.numbered
        simp only [Numbered, map_cons, length_cons, List.range'_succ, List.cons.injEq]
          at this
        exact this.1
      exact ⟨⟨h.eventIds, h.idempotencyKeys⟩, by simpa using h.created, hone, h.numbered, acc,
        h.replayed, rfl⟩

theorem reduce_eq_ok {order events asOf aggregate} :
    reduceOrderEvents order events asOf = .ok aggregate ↔
      ∃ acc latest,
        Accepts order (sortedBy (·.eventSequence) (events.filter (order.reads asOf))) acc ∧
        (sortedBy (·.eventSequence) (events.filter (order.reads asOf))).getLast? = some latest ∧
        aggregate = acc.aggregate order latest :=
  reduceMaterialized_eq_ok

theorem reduce_perm {order events events' asOf aggregate}
    (h : reduceOrderEvents order events asOf = .ok aggregate) (hp : events'.Perm events) :
    reduceOrderEvents order events' asOf = .ok aggregate := by
  obtain ⟨acc, latest, hacc, hlast, rfl⟩ := reduce_eq_ok.mp h
  have hp' := hp.filter (order.reads asOf)
  have hsame : sortedBy (·.eventSequence) (events'.filter (order.reads asOf)) =
      sortedBy (·.eventSequence) (events.filter (order.reads asOf)) :=
    hacc.numbered.eq_of_perm (hp'.trans (sortedBy_perm _ _).symm)
  rw [reduce_eq_ok, hsame]
  exact ⟨acc, latest, hacc, hlast, rfl⟩

@[simp] theorem reads_none (order : OrderDescriptor) (event : OrderEvent) :
    order.reads none event = order.owns event := by
  simp [OrderDescriptor.reads]

theorem reduce_numbered_eq_ok {order events} (hown : ∀ event ∈ events, order.owns event)
    (hnum : Numbered (·.eventSequence) events) {aggregate} :
    reduceOrderEvents order events = .ok aggregate ↔
      ∃ acc latest, Accepts order events acc ∧ events.getLast? = some latest ∧
        aggregate = acc.aggregate order latest := by
  have hread : events.filter (order.reads none) = events :=
    filter_eq_self.mpr fun event he => by rw [reads_none]; exact hown event he
  rw [reduce_eq_ok, hread, hnum.sortedBy_eq]

end AdaptiveQuant
