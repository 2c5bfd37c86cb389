import AdaptiveQuant.Persistence.OrderEvents
import AdaptiveQuant.Execution.OrderStream

/-! Whether the reducer accepts what the order-event repository stores. -/

namespace AdaptiveQuant

open Guard Sequence OrderEventRepository List

/-- The intent row is the order's. -/
structure OrderIntentRow.Describes (intent : OrderIntentRow) (order : OrderDescriptor) : Prop where
  orderIntentId : intent.orderIntentId = order.orderIntentId
  quantity : intent.quantity = some order.quantity
  createdAt : intent.createdAt = some order.createdAt

/-- What the reducer requires of the event after `existing` and the repository does not check. -/
structure ReplayableNext (order : OrderDescriptor) (existing : List OrderEvent)
    (event : OrderEvent) : Prop where
  notBefore : order.createdAt ≤ event.occurredAt
  createdOnce : event.eventType = .created → existing = []
  partialLeaves : event.eventType = .partiallyFilled → 0 < event.remainingQuantity
  freshId : event.eventId ∉ existing.map (·.eventId)
  freshKey : event.idempotencyKey ∉ existing.map (·.idempotencyKey)

theorem validateTransition_first_eq_ok {event : OrderEvent} {intent} {u : Unit} :
    validateTransition event intent none = .ok u ↔
      event.eventSequence = 1 ∧ event.eventType = .created ∧ event.cumulativeFilledQuantity = 0 ∧
        event.cumulativeCommissionUsd = 0 ∧ intent.quantity = some event.remainingQuantity := by
  unfold validateTransition
  cases hq : intent.quantity with
  | none => simp
  | some quantity =>
    simp only [ok_iff, not_or, not_not, Option.some.injEq]
    constructor
    · rintro ⟨⟨hseq, htype⟩, -, hfill, hcom, hrem⟩
      exact ⟨hseq, htype, hfill, hcom, hrem.symm⟩
    · rintro ⟨hseq, htype, hfill, hcom, hrem⟩
      exact ⟨⟨hseq, htype⟩, (event.deltas_eq_zero (by rw [htype]; rfl)).1, hfill, hcom,
        hrem.symm⟩

theorem validateTransition_next_eq_ok {event : OrderEvent} {intent latest} {u : Unit} :
    validateTransition event intent (some latest) = .ok u ↔
      intent.quantity.isSome ∧ isTerminalOrderEvent latest.event.eventType = false ∧
      event.eventSequence = latest.event.eventSequence + 1 ∧
      event.cumulativeFilledQuantity =
        latest.event.cumulativeFilledQuantity + event.quantityDelta ∧
      event.remainingQuantity = latest.event.remainingQuantity - event.quantityDelta ∧
      event.cumulativeCommissionUsd =
        latest.event.cumulativeCommissionUsd + event.commissionDeltaUsd := by
  have hdelta : (if event.eventType.isFill then event.quantityDelta else 0) =
      event.quantityDelta := by
    split
    · rfl
    · rename_i h
      exact (event.deltas_eq_zero (by simpa using h)).1.symm
  unfold validateTransition
  cases intent.quantity with
  | none => simp
  | some quantity =>
    simp only [ok_iff, not_not, hdelta, isTerminalOrderEvent]
    simp

theorem validateTransition_seq {event : OrderEvent} {intent rows} {u : Unit}
    (hnum : Numbered (·.event.eventSequence) rows)
    (h : validateTransition event intent rows.getLast? = .ok u) :
    event.eventSequence = rows.length + 1 := by
  rcases eq_nil_or_concat' rows with rfl | ⟨front, latest, rfl⟩
  · exact (validateTransition_first_eq_ok.mp h).1
  · rw [List.getLast?_concat] at h
    have hlast := (numbered_concat.mp hnum).2
    rw [(validateTransition_next_eq_ok.mp h).2.2.1, hlast, length_append]
    rfl

section Step

variable {order : OrderDescriptor} {intent : OrderIntentRow} {event : OrderEvent}

theorem accepts_first_iff (hintent : intent.Describes order)
    (hok : validateTransition event intent none = .ok ()) :
    (∃ acc, Accepts order [event] acc) ↔ ReplayableNext order [] event := by
  obtain ⟨hseq, htype, hfill, hcom, hrem⟩ := validateTransition_first_eq_ok.mp hok
  obtain ⟨hq, hc⟩ := event.deltas_eq_zero (by rw [htype]; rfl)
  have hrem' : event.remainingQuantity = order.quantity := by
    rw [hintent.quantity] at hrem
    exact (Option.some.inj hrem).symm
  have hpos : 0 ≤ (Replay.start order).remaining := le_of_lt order.quantity_pos
  constructor
  · rintro ⟨acc, h⟩
    have hstep : replayEvent order (.start order) event = .ok acc := by simpa using h.replayed
    exact ⟨((replayEvent_eq_ok hpos).mp hstep).1.notBefore, fun _ => rfl,
      fun h => by simp [htype] at h, by simp, by simp⟩
  · intro h
    refine ⟨(Replay.start order).advance event, by simp, by simp, by simp [htype], ?_, ?_⟩
    · simp [Numbered, hseq]
    · simp only [foldlM_cons, foldlM_nil, bind_pure]
      refine (replayEvent_eq_ok hpos).mpr ⟨⟨h.notBefore, rfl, fun _ => rfl, ?_, ?_, ?_, ?_, ?_, ?_⟩,
        rfl⟩
      · rw [hq]
        exact hpos
      · intro hp
        simp [htype] at hp
      · intro hp
        simp [htype] at hp
      · simp [hrem', hq, Replay.start]
      · simp [hfill, hq, Replay.start]
      · simp [hcom, hc, Replay.start]

theorem accepts_next_iff {ordered latest} {acc : Replay} (hacc : Accepts order ordered acc)
    (hlatest : ordered.getLast? = some latest.event)
    (hok : validateTransition event intent (some latest) = .ok ()) :
    (∃ acc', Accepts order (ordered ++ [event]) acc') ↔ ReplayableNext order ordered event := by
  obtain ⟨-, hlive, hseq, hfill, hrem, hcom⟩ := validateTransition_next_eq_ok.mp hok
  have hinv := replay_induction hacc.replayed
  obtain ⟨hsrem, hsfill, hscom⟩ := hinv.snapshot latest.event (by rw [hlatest]; rfl)
  have hstatus : acc.previousStatus = some latest.event.eventType := by
    rw [hinv.status, hlatest]
    rfl
  rw [hsrem] at hrem
  rw [hsfill] at hfill
  rw [hscom] at hcom
  have hnext : event.eventSequence = ordered.length + 1 := by
    obtain ⟨front, hfront⟩ := List.getLast?_eq_some_iff.mp hlatest
    have hlast := (numbered_concat.mp (hfront ▸ hacc.numbered)).2
    rw [hseq, hlast, hfront, length_append]
    rfl
  constructor
  · rintro ⟨acc', h⟩
    obtain ⟨acc'', hacc'', -, hid, hkey, hstep⟩ := (accepts_concat hacc.nonempty).mp h
    obtain rfl : acc = acc'' := by
      have := hacc''.replayed
      rw [hacc.replayed] at this
      exact Except.ok.inj this
    have hadm := ((replayEvent_eq_ok hinv.nonneg).mp hstep).1
    refine ⟨hadm.notBefore, fun hc => ?_, fun hp => ?_, hid, hkey⟩
    · exact absurd (hadm.createdOnce hc) (by simp [hstatus])
    · rw [hrem]
      exact hadm.partialLeaves hp
  · intro h
    have hrem0 := event.amounts_nonneg.2.2.1
    refine ⟨acc.advance event, (accepts_concat hacc.nonempty).mpr
      ⟨acc, hacc, hnext, h.freshId, h.freshKey, (replayEvent_eq_ok hinv.nonneg).mpr ⟨?_, rfl⟩⟩⟩
    refine ⟨h.notBefore, by simp [hstatus, hlive], fun hc =>
      absurd (h.createdOnce hc) hacc.nonempty,
      ?_, fun hp => ?_, fun hf => ?_, hrem, hfill, hcom⟩
    · linarith
    · rw [← hrem]
      exact h.partialLeaves hp
    · rw [← hrem]
      exact event.checks.2.2.1 hf

theorem ReplayableNext.perm {existing existing'} (h : ReplayableNext order existing event)
    (hp : existing'.Perm existing) :
    ReplayableNext order existing' event where
  notBefore := h.notBefore
  createdOnce hc := by
    have := h.createdOnce hc
    subst this
    exact hp.eq_nil
  partialLeaves := h.partialLeaves
  freshId hmem := h.freshId ((hp.map _).mem_iff.mp hmem)
  freshKey hmem := h.freshKey ((hp.map _).mem_iff.mp hmem)

theorem latestForOrder_of_accepts {rows : List OrderEventRow} {acc : Replay}
    (hacc : Accepts order
      (sortedBy (·.eventSequence) ((rows.map (·.event)).filter order.owns)) acc) :
    ∃ latest, latestForOrder rows order.orderIntentId = some latest ∧
      (sortedBy (·.eventSequence) ((rows.map (·.event)).filter order.owns)).getLast? =
        some latest.event := by
  have hfilter : (rows.map (·.event)).filter order.owns =
      (rows.filter fun row => row.event.orderIntentId = order.orderIntentId).map (·.event) := by
    rw [filter_map]
    rfl
  set own := rows.filter fun row => row.event.orderIntentId = order.orderIntentId with hown
  rw [hfilter, ← map_sortedBy] at hacc
  rw [hfilter, ← map_sortedBy]
  have hnum : Numbered (·.event.eventSequence) (sortedBy (·.event.eventSequence) own) := by
    have := hacc.numbered
    rwa [Numbered, map_map, length_map] at this
  -- sequence numbers are distinct, so ordering by number and identifier is ordering by number
  have hnodup : (own.map fun row => toLex (row.event.eventSequence, row.event.eventId)).Nodup := by
    have hseq : (own.map (·.event.eventSequence)).Nodup :=
      ((sortedBy_perm _ own).map _).nodup_iff.mp hnum.nodup
    refine List.Nodup.of_map (fun key => (ofLex key).1) ?_
    rwa [map_map]
  have hlex : sortedBy (fun row => toLex (row.event.eventSequence, row.event.eventId)) own =
      sortedBy (·.event.eventSequence) own :=
    sortedBy_eq_sortedBy _ _ hnodup
      (hnum.pairwise.imp fun hlt => Prod.Lex.toLex_le_toLex.mpr (.inl hlt))
  have hlatest : latestForOrder rows order.orderIntentId =
      (sortedBy (·.event.eventSequence) own).getLast? := by
    rw [← hlex, hown]
    simp [latestForOrder]
  have hne : sortedBy (·.event.eventSequence) own ≠ [] := fun h => hacc.nonempty (by simp [h])
  obtain ⟨latest, hlast⟩ := Option.isSome_iff_exists.mp (List.getLast?_isSome.mpr hne)
  exact ⟨latest, by rw [hlatest, hlast], by rw [List.getLast?_map, hlast]; rfl⟩

theorem reduce_concat_iff {rows aggregate} (hown : order.owns event)
    (hreduce : reduceOrderEvents order (rows.map (·.event)) = .ok aggregate)
    (hok : validateTransition event intent (latestForOrder rows order.orderIntentId) = .ok ()) :
    Succeeds (reduceOrderEvents order (rows.map (·.event) ++ [event])) ↔
      ReplayableNext order ((rows.map (·.event)).filter order.owns) event := by
  have hreads : order.reads none = order.owns := funext fun e => reads_none order e
  obtain ⟨acc, -, hacc, -, -⟩ := reduce_eq_ok.mp hreduce
  rw [hreads] at hacc
  set existing := (rows.map (·.event)).filter order.owns with hexisting
  have hperm := sortedBy_perm (·.eventSequence) existing
  obtain ⟨latest, hlatest, hlast⟩ := latestForOrder_of_accepts hacc
  rw [hlatest] at hok
  have hnext : event.eventSequence = (sortedBy (·.eventSequence) existing).length + 1 := by
    obtain ⟨front, hfront⟩ := List.getLast?_eq_some_iff.mp hlast
    have hseq := (numbered_concat.mp (hfront ▸ hacc.numbered)).2
    rw [(validateTransition_next_eq_ok.mp hok).2.2.1, hseq, hfront, length_append]
    rfl
  have hsorted : sortedBy (·.eventSequence) (existing ++ [event]) =
      sortedBy (·.eventSequence) existing ++ [event] := by
    refine sortedBy_concat _ fun e he => ?_
    have := hacc.numbered.le_length (hperm.mem_iff.mpr he)
    omega
  have hsplit : (rows.map (·.event) ++ [event]).filter (order.reads none) = existing ++
    [event] := by
    rw [hreads, filter_append, filter_cons_of_pos hown, filter_nil]
  have hiff := accepts_next_iff hacc hlast hok
  have hsucceeds : Succeeds (reduceOrderEvents order (rows.map (·.event) ++ [event])) ↔
      ∃ acc', Accepts order (sortedBy (·.eventSequence) existing ++ [event]) acc' := by
    unfold Succeeds
    simp only [reduce_eq_ok, hsplit, hsorted, List.getLast?_concat, Option.some.injEq]
    constructor
    · rintro ⟨-, acc', -, h, -, -⟩
      exact ⟨acc', h⟩
    · rintro ⟨acc', h⟩
      exact ⟨_, acc', event, h, rfl, rfl⟩
  rw [hsucceeds, hiff]
  exact ⟨fun h => h.perm hperm.symm, fun h => h.perm hperm⟩

end Step

def OrderStore.rowsOf (store : OrderStore) (orderIntentId : String) : List OrderEventRow :=
  store.orderEvents.filter fun row => row.event.orderIntentId = orderIntentId

/-- Rows that the repository added one at a time: each passed `_validate_transition` against the row
before it and met the unique keys of the table. -/
inductive Persisted (intent : OrderIntentRow) : List OrderEventRow → Prop
  | nil : Persisted intent []
  | next {rows : List OrderEventRow} {row : OrderEventRow} (stream : Persisted intent rows)
      (owned : row.event.orderIntentId = intent.orderIntentId)
      (checked : validateTransition row.event intent rows.getLast? = .ok ())
      (freshId : row.event.eventId ∉ rows.map (·.event.eventId))
      (freshKey : row.event.idempotencyKey ∉ rows.map (·.event.idempotencyKey)) :
      Persisted intent (rows ++ [row])

variable {order : OrderDescriptor} {intent : OrderIntentRow} {rows : List OrderEventRow}

theorem Persisted.numbered (h : Persisted intent rows) :
    Numbered (·.event.eventSequence) rows := by
  induction h with
  | nil => exact .nil
  | next _ _ checked _ _ ih => exact numbered_concat.mpr ⟨ih, validateTransition_seq ih checked⟩

theorem Persisted.owned (h : Persisted intent rows) :
    ∀ row ∈ rows, row.event.orderIntentId = intent.orderIntentId := by
  induction h with
  | nil => simp
  | next _ owned _ _ _ ih =>
    intro row hrow
    rcases mem_append.mp hrow with hrow | hrow
    · exact ih row hrow
    · rw [mem_singleton.mp hrow]
      exact owned

theorem latestForOrder_eq_getLast? {orderIntentId : String}
    (hnum : Numbered (·.event.eventSequence)
      (rows.filter fun row => row.event.orderIntentId = orderIntentId)) :
    latestForOrder rows orderIntentId =
      (rows.filter fun row => row.event.orderIntentId = orderIntentId).getLast? := by
  have hsorted : (rows.filter fun row => row.event.orderIntentId = orderIntentId).Pairwise
      fun a b => toLex (a.event.eventSequence, a.event.eventId) ≤
        toLex (b.event.eventSequence, b.event.eventId) :=
    hnum.pairwise.imp fun hlt => Prod.Lex.toLex_le_toLex.mpr (.inl hlt)
  unfold latestForOrder
  simp only [Option.all_none, and_true]
  rw [sortedBy_eq_self _ hsorted]

/-- The stores that the repository can get to, while cycles and intents come from elsewhere. -/
inductive OrderStore.Reached : OrderStore → Prop
  | opened (cycles : List PaperCycleRow) (intents : List OrderIntentRow)
      (unique : (intents.map (·.orderIntentId)).Nodup) : Reached ⟨cycles, intents, []⟩
  | changed {store : OrderStore} (h : Reached store) (cycles : List PaperCycleRow)
      (added : List OrderIntentRow)
      (unique : ((store.intents ++ added).map (·.orderIntentId)).Nodup) :
      Reached { store with cycles := cycles, intents := store.intents ++ added }
  | appended {store store' : OrderStore} {databaseClock : Option Instant} {event : OrderEvent}
      {row : OrderEventRow} (h : Reached store)
      (ok : append store databaseClock event = .ok (store', row)) : Reached store'

/-- What holds of every reached store. -/
structure OrderStore.Sound (store : OrderStore) : Prop where
  unique : (store.intents.map (·.orderIntentId)).Nodup
  known : ∀ row ∈ store.orderEvents,
    row.event.orderIntentId ∈ store.intents.map (·.orderIntentId)
  persisted : ∀ intent ∈ store.intents, Persisted intent (store.rowsOf intent.orderIntentId)

theorem OrderStore.Sound.changed {store : OrderStore} (h : store.Sound)
    (cycles : List PaperCycleRow) (added : List OrderIntentRow)
    (unique : ((store.intents ++ added).map (·.orderIntentId)).Nodup) :
    OrderStore.Sound { store with cycles := cycles, intents := store.intents ++ added } := by
  refine ⟨unique, fun row hrow => ?_, fun intent hintent => ?_⟩
  · rw [map_append]
    exact mem_append_left _ (h.known row hrow)
  · rcases mem_append.mp hintent with hold | hnew
    · exact h.persisted intent hold
    · -- a new intent has no stored event yet
      have hempty : store.rowsOf intent.orderIntentId = [] := by
        refine filter_eq_nil_iff.mpr fun row hrow => ?_
        rw [decide_eq_true_eq]
        intro heq
        rw [map_append, nodup_append] at unique
        exact unique.2.2 _ (h.known row hrow) _ (mem_map_of_mem hnew) heq
      show Persisted intent (store.rowsOf intent.orderIntentId)
      rw [hempty]
      exact .nil

theorem OrderStore.Sound.appended {store store' : OrderStore} {databaseClock} {event : OrderEvent}
    {row} (h : store.Sound) (ok : append store databaseClock event = .ok (store', row)) :
    store'.Sound := by
  rcases append_cases ok with ⟨rfl, -⟩ | ⟨intent, hfind, hrow, hvalid, hid, hkey, rfl⟩
  · exact h
  obtain rfl : row.event = event := by rw [hrow]
  have hmem : intent ∈ store.intents := mem_of_find?_eq_some hfind
  have howner : intent.orderIntentId = row.event.orderIntentId := by
    simpa using List.find?_some hfind
  refine ⟨h.unique, fun other hother => ?_, fun other hother => ?_⟩
  · rcases mem_append.mp hother with hold | hnew
    · exact h.known other hold
    · rw [mem_singleton.mp hnew, ← howner]
      exact mem_map_of_mem hmem
  · show Persisted other ((store.orderEvents ++ [row]).filter _)
    rw [filter_append]
    by_cases hsame : row.event.orderIntentId = other.orderIntentId
    · obtain rfl : intent = other :=
        inj_on_of_nodup_map h.unique hmem hother (howner.trans hsame)
      have hpersisted := h.persisted intent hother
      have hlatest := latestForOrder_eq_getLast? hpersisted.numbered
      rw [← howner, hlatest] at hvalid
      rw [filter_cons_of_pos (by simpa using hsame), filter_nil]
      refine .next hpersisted hsame hvalid (fun hmem => hid ?_) fun hmem => hkey ?_
      · exact map_subset _ (filter_subset_self _) hmem
      · exact map_subset _ (filter_subset_self _) hmem
    · rw [filter_cons_of_neg (by simpa using hsame), filter_nil, append_nil]
      exact h.persisted other hother

theorem OrderStore.Reached.sound {store : OrderStore} (h : store.Reached) : store.Sound := by
  induction h with
  | opened _ _ unique => exact ⟨unique, by simp, fun _ _ => .nil⟩
  | changed _ cycles added unique ih => exact ih.changed cycles added unique
  | appended _ ok ih => exact ih.appended ok

theorem Persisted.reduce_succeeds_iff (hintent : intent.Describes order)
    (h : Persisted intent rows) (hne : rows ≠ []) :
    Succeeds (reduceOrderEvents order (rows.map (·.event))) ↔
      ∃ acc, Accepts order (rows.map (·.event)) acc := by
  have hown : ∀ event ∈ rows.map (·.event), order.owns event := by
    intro event hevent
    obtain ⟨row, hrow, rfl⟩ := mem_map.mp hevent
    simp [OrderDescriptor.owns, h.owned row hrow, hintent.orderIntentId]
  have hnum : Numbered (·.eventSequence) (rows.map (·.event)) := by
    have := h.numbered
    rwa [Numbered, map_map, length_map]
  have hne' : rows.map (·.event) ≠ [] := by simpa using hne
  obtain ⟨latest, hlast⟩ := Option.isSome_iff_exists.mp (List.getLast?_isSome.mpr hne')
  unfold Succeeds
  simp only [reduce_numbered_eq_ok hown hnum, hlast, Option.some.injEq]
  constructor
  · rintro ⟨-, acc, -, hacc, -, -⟩
    exact ⟨acc, hacc⟩
  · rintro ⟨acc, hacc⟩
    exact ⟨_, acc, latest, hacc, rfl, rfl⟩

/-- Every stored beginning of the stream replays. -/
def ReplaysThroughout (order : OrderDescriptor) (rows : List OrderEventRow) : Prop :=
  ∀ pre post, rows = pre ++ post → pre ≠ [] →
    Succeeds (reduceOrderEvents order (pre.map (·.event)))

/-- Every event of the stream meets the unchecked condition where it was added. -/
def EachReplayable (order : OrderDescriptor) (rows : List OrderEventRow) : Prop :=
  ∀ pre row post, rows = pre ++ row :: post → ReplayableNext order (pre.map (·.event)) row.event

theorem replaysThroughout_concat {row} :
    ReplaysThroughout order (rows ++ [row]) ↔ ReplaysThroughout order rows ∧
      Succeeds (reduceOrderEvents order ((rows ++ [row]).map (·.event))) := by
  constructor
  · intro h
    refine ⟨fun pre post hsplit hne => ?_, h (rows ++ [row]) [] (by simp) (by simp)⟩
    exact h pre (post ++ [row]) (by rw [hsplit, append_assoc]) hne
  · rintro ⟨hold, hnew⟩ pre post hsplit hne
    rcases eq_nil_or_concat' post with rfl | ⟨post, last, rfl⟩
    · rw [append_nil] at hsplit
      exact hsplit ▸ hnew
    · rw [← append_assoc] at hsplit
      exact hold pre post (append_inj' hsplit rfl).1 hne

theorem eachReplayable_concat {row} :
    EachReplayable order (rows ++ [row]) ↔ EachReplayable order rows ∧
      ReplayableNext order (rows.map (·.event)) row.event := by
  constructor
  · intro h
    refine ⟨fun pre other post hsplit => ?_, h rows row [] rfl⟩
    exact h pre other (post ++ [row]) (by rw [hsplit, append_assoc, cons_append])
  · rintro ⟨hold, hnew⟩ pre other post hsplit
    rcases eq_nil_or_concat' post with rfl | ⟨post, last, rfl⟩
    · obtain ⟨rfl, hlast⟩ := append_inj' hsplit rfl
      obtain rfl : row = other := by simpa using hlast
      exact hnew
    · rw [← cons_append, ← append_assoc] at hsplit
      exact hold pre other post (append_inj' hsplit rfl).1

theorem Persisted.replays_iff (hintent : intent.Describes order) (h : Persisted intent rows) :
    ReplaysThroughout order rows ↔ EachReplayable order rows := by
  induction h with
  | nil =>
    constructor
    · intro _ pre row post hsplit
      simp at hsplit
    · intro _ pre post hsplit hne
      simp only [nil_eq, append_eq_nil_iff] at hsplit
      exact absurd hsplit.1 hne
  | @next rows row stream owned checked freshId freshKey ih =>
    rw [replaysThroughout_concat, eachReplayable_concat, ih]
    refine and_congr_right fun hinitial => ?_
    have hstream : Persisted intent (rows ++ [row]) := .next stream owned checked freshId freshKey
    rw [hstream.reduce_succeeds_iff hintent (by simp), map_append, map_singleton]
    rcases eq_nil_or_concat' rows with rfl | ⟨front, latest, rfl⟩
    · exact accepts_first_iff hintent checked
    · -- the stream before the new event is replayable, so the step from it applies
      obtain ⟨acc, hacc⟩ := (stream.reduce_succeeds_iff hintent (by simp)).mp
        (ih.mpr hinitial _ [] (by simp) (by simp))
      rw [List.getLast?_concat] at checked
      exact accepts_next_iff hacc (by simp) checked

/-- After an accepted stream, an event that `_validate_transition` accepts extends the stream to an
accepted one exactly when it meets the unchecked condition; and what the repository has stored for
an order, in any reached store, can be replayed after each of its events exactly when each of them
meets it. -/
theorem stored_stream_replays_iff {order : OrderDescriptor} {intent : OrderIntentRow}
    (hintent : intent.Describes order) :
    (∀ (rows : List OrderEventRow) (event : OrderEvent), order.owns event →
        Succeeds (reduceOrderEvents order (rows.map (·.event))) →
        validateTransition event intent (latestForOrder rows order.orderIntentId) = .ok () →
        (Succeeds (reduceOrderEvents order (rows.map (·.event) ++ [event])) ↔
          ReplayableNext order ((rows.map (·.event)).filter order.owns) event)) ∧
      ∀ store : OrderStore, store.Reached → intent ∈ store.intents →
        (ReplaysThroughout order (store.rowsOf order.orderIntentId) ↔
          EachReplayable order (store.rowsOf order.orderIntentId)) := by
  refine ⟨fun rows event hown hreduce hok => ?_, ?_⟩
  · obtain ⟨aggregate, hreduce⟩ := hreduce
    exact reduce_concat_iff hown hreduce hok
  · intro store hreached hmem
    have hpersisted := hreached.sound.persisted intent hmem
    rw [hintent.orderIntentId] at hpersisted
    exact hpersisted.replays_iff hintent

section Sample

def sampleIntent : OrderIntentRow := ⟨"intent", "run", "CORE_ONLY", some 10, some 0⟩

def sampleStore (events : List OrderEvent) : OrderStore where
  cycles := [⟨"cycle", "RUNNING", some "worker", 1, some 50⟩]
  intents := [sampleIntent]
  orderEvents := events.map fun event => ⟨"run", "CORE_ONLY", event⟩

theorem sampleIntent_describes : sampleIntent.Describes sampleOrder := ⟨rfl, rfl, rfl⟩

theorem sampleStore_created_reached : (sampleStore [sampleCreated]).Reached := by
  have hok : append (sampleStore []) none sampleCreated =
      .ok (sampleStore [sampleCreated], ⟨"run", "CORE_ONLY", sampleCreated⟩) := by decide +kernel
  exact .appended (.opened _ _ (by decide)) hok

theorem sampleCreated_reduces :
    Succeeds (reduceOrderEvents sampleOrder
      ((sampleStore [sampleCreated]).orderEvents.map (·.event))) := by
  obtain ⟨aggregate, hok, -⟩ := samplePartial_appended.wellFormed.take (n := 1)
    (by decide) |>.totals
  exact ⟨aggregate, hok⟩

theorem sampleStore_replays :
    (Succeeds (reduceOrderEvents sampleOrder
        ((sampleStore [sampleCreated]).orderEvents.map (·.event) ++ [samplePartial])) ↔
      ReplayableNext sampleOrder
        (((sampleStore [sampleCreated]).orderEvents.map (·.event)).filter sampleOrder.owns)
        samplePartial) ∧
    (ReplaysThroughout sampleOrder ((sampleStore [sampleCreated]).rowsOf "intent") ↔
      EachReplayable sampleOrder ((sampleStore [sampleCreated]).rowsOf "intent")) :=
  ⟨(stored_stream_replays_iff sampleIntent_describes).1 _ samplePartial (by decide +kernel)
      sampleCreated_reduces (by decide +kernel),
    (stored_stream_replays_iff sampleIntent_describes).2 _ sampleStore_created_reached (by decide)⟩

def sampleWholePartial : OrderEvent :=
  ⟨orderEventFields .json sampleOrder (sampleRequest .partiallyFilled 10 10) ⟨2, 0, 10, 0⟩,
    by decide +kernel⟩

/-- The repository stores that event after CREATED, and the reducer rejects the stored stream. -/
theorem wholePartial_stored_and_rejected :
    Succeeds (reduceOrderEvents sampleOrder
      ((sampleStore [sampleCreated]).orderEvents.map (·.event))) ∧
    validateTransition sampleWholePartial sampleIntent
      (latestForOrder (sampleStore [sampleCreated]).orderEvents "intent") = .ok () ∧
    append (sampleStore [sampleCreated]) none sampleWholePartial =
      .ok (sampleStore [sampleCreated, sampleWholePartial],
        ⟨"run", "CORE_ONLY", sampleWholePartial⟩) ∧
    ¬Succeeds (reduceOrderEvents sampleOrder
      ((sampleStore [sampleCreated, sampleWholePartial]).orderEvents.map (·.event))) := by
  have hvalid : validateTransition sampleWholePartial sampleIntent
      (latestForOrder (sampleStore [sampleCreated]).orderEvents "intent") = .ok () := by
    decide +kernel
  refine ⟨sampleCreated_reduces, hvalid, by decide +kernel, fun hreduce => ?_⟩
  obtain ⟨aggregate, hcreated⟩ := sampleCreated_reduces
  have hnext := (reduce_concat_iff (by decide +kernel) hcreated hvalid).mp hreduce
  exact absurd (hnext.partialLeaves rfl) (by decide +kernel)

end Sample

end AdaptiveQuant
