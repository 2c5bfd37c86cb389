import AdaptiveQuant.Persistence.ExperimentOutcomes

/-! The chains of the experiment outcome ledger. -/

namespace AdaptiveQuant.ResearchPlane

open Guard Sequence List

variable {R : Type}

structure Follows (chain : List (ExperimentOutcomeEvent R)) (e : ExperimentOutcomeEvent R) :
    Prop where
  sequence : e.eventSequence = chain.length + 1
  previous : e.previousEventHash = chain.getLast?.map (·.eventHash)
  created : ∀ last ∈ chain.getLast?, last.outcome.createdAt ≤ e.outcome.createdAt
  available : ∀ last ∈ chain.getLast?, last.outcome.availableAt ≤ e.outcome.availableAt
  supersedes : ∀ id ∈ e.outcome.supersedesEventId, id ∈ chain.map (·.eventId)
  fresh : e.eventId ∉ chain.map (·.eventId)
  terminal : ∀ t ∈ effectiveEvents chain, isTerminalOutcome t = true →
    e.outcome.supersedesEventId = some t.eventId

def OutcomeChain (chain : List (ExperimentOutcomeEvent R)) : Prop :=
  ∀ pre e post, chain = pre ++ e :: post → Follows pre e

theorem OutcomeChain.nil : OutcomeChain ([] : List (ExperimentOutcomeEvent R)) := by
  simp [OutcomeChain]

variable {e : ExperimentOutcomeEvent R}

theorem outcomeChain_concat {chain} :
    OutcomeChain (chain ++ [e]) ↔ OutcomeChain chain ∧ Follows chain e :=
  forall_split_concat

theorem OutcomeChain.of_initial {chain pre : List (ExperimentOutcomeEvent R)}
    (h : OutcomeChain chain) (hpre : pre <+: chain) : OutcomeChain pre := by
  obtain ⟨rest, rfl⟩ := hpre
  intro front e post hsplit
  exact h front e (post ++ rest) (by simp [hsplit])

theorem OutcomeChain.numbered {chain : List (ExperimentOutcomeEvent R)} (h : OutcomeChain chain) :
    Numbered (·.eventSequence) chain := by
  induction chain using List.reverseRecOn with
  | nil => exact .nil
  | append_singleton chain e ih =>
    obtain ⟨hchain, hfollows⟩ := outcomeChain_concat.mp h
    exact numbered_concat.mpr ⟨ih hchain, hfollows.sequence⟩

theorem OutcomeChain.times {chain : List (ExperimentOutcomeEvent R)} (h : OutcomeChain chain) :
    chain.Pairwise fun a b => a.outcome.createdAt ≤ b.outcome.createdAt ∧
      a.outcome.availableAt ≤ b.outcome.availableAt := by
  induction chain using List.reverseRecOn with
  | nil => exact .nil
  | append_singleton chain e ih =>
    obtain ⟨hchain, hfollows⟩ := outcomeChain_concat.mp h
    exact pairwise_concat (fun h1 h2 => ⟨h1.1.trans h2.1, h1.2.trans h2.2⟩) (ih hchain)
      fun last hlast => ⟨hfollows.created last hlast, hfollows.available last hlast⟩

theorem OutcomeChain.nodup {chain : List (ExperimentOutcomeEvent R)} (h : OutcomeChain chain) :
    (chain.map (·.eventId)).Nodup := by
  induction chain using List.reverseRecOn with
  | nil => exact .nil
  | append_singleton chain e ih =>
    obtain ⟨hchain, hfollows⟩ := outcomeChain_concat.mp h
    rw [map_append, map_singleton]
    exact nodup_snoc (ih hchain) hfollows.fresh

theorem OutcomeChain.supersedes {chain : List (ExperimentOutcomeEvent R)} (h : OutcomeChain chain)
    (he : e ∈ chain) {id : String} (hid : e.outcome.supersedesEventId = some id) :
    ∃ target ∈ chain, target.eventId = id ∧ target.outcome.createdAt ≤ e.outcome.createdAt := by
  obtain ⟨pre, post, rfl⟩ := append_of_mem he
  obtain ⟨target, htarget, htargetId⟩ :=
    mem_map.mp ((h pre e post rfl).supersedes id (by rw [hid]; rfl))
  refine ⟨target, mem_append_left _ htarget, htargetId, ?_⟩
  exact ((pairwise_append.mp h.times).2.2 target htarget e (by simp)).1

theorem OutcomeChain.effective_terminal {chain} (h : OutcomeChain chain)
    (he : e ∈ effectiveEvents chain) (hterminal : isTerminalOutcome e = true) :
    chain.getLast? = some e := by
  obtain ⟨hmem, heffective⟩ := mem_filter.mp he
  obtain ⟨pre, post, rfl⟩ := append_of_mem hmem
  cases post with
  | nil => simp
  | cons next post =>
    exfalso
    have hnext := h (pre ++ [e]) next post (by simp)
    rw [decide_eq_true_eq, mem_filterMap] at heffective
    have hearly : e ∈ effectiveEvents (pre ++ [e]) := by
      refine mem_filter.mpr ⟨by simp, ?_⟩
      rw [decide_eq_true_eq, mem_filterMap]
      rintro ⟨x, hx, hid⟩
      refine heffective ⟨x, ?_, hid⟩
      rw [mem_append, mem_cons]
      rcases mem_append.mp hx with hx | hx
      · exact .inl hx
      · exact .inr (.inl (mem_singleton.mp hx))
    exact heffective ⟨next, by simp, hnext.terminal e hearly hterminal⟩

theorem checkLink_ok {chain} (h : Follows chain e) :
    checkLink chain.length (chain.getLast?.map (·.eventHash))
      (chain.getLast?.map (·.outcome.createdAt)) e = .ok () := by
  have hcreated : ¬(chain.getLast?.map (·.outcome.createdAt)).any (e.outcome.createdAt < ·) =
    true := by
    cases hlast : chain.getLast? with
    | none => simp
    | some last =>
      have := h.created last (by rw [hlast]; rfl)
      simpa using this
  rw [checkLink, raiseIf_neg _ (not_not.mpr h.sequence)]
  simp only [ok_bind]
  rw [raiseIf_neg _ (not_not.mpr h.previous), raiseIf_neg _ hcreated]
  rfl

def keptBy (createdAtCutoff : Option Instant) (e : ExperimentOutcomeEvent R) : Bool :=
  !createdAtCutoff.any (e.outcome.createdAt > ·)

theorem OutcomeChain.kept_initial {chain : List (ExperimentOutcomeEvent R)} (h : OutcomeChain chain)
    (createdAtCutoff : Option Instant) : chain.filter (keptBy createdAtCutoff) <+: chain := by
  refine prefix_of_monotone (h.times.imp fun {a b} hab hb => ?_)
  cases createdAtCutoff with
  | none => rfl
  | some cutoff =>
    simp only [keptBy, Option.any_some, Bool.not_eq_true', decide_eq_false_iff_not, not_lt] at hb ⊢
    exact hab.1.trans hb

theorem OutcomeChain.last_sequence {chain : List (ExperimentOutcomeEvent R)}
    (h : OutcomeChain chain) :
    (chain.getLast?.map (·.eventSequence)).getD 0 = chain.length := by
  rcases eq_nil_or_concat' chain with rfl | ⟨front, last, rfl⟩
  · rfl
  · have hlast := (outcomeChain_concat.mp h).2.sequence
    rw [List.getLast?_concat, length_append, length_singleton]
    exact hlast

variable {m : OutcomeMaturationInput R}

theorem validateSupersession_ok {chain} (h : validateSupersession chain m = .ok ()) :
    ∀ id ∈ m.outcome.supersedesEventId, id ∈ chain.map (·.eventId) := by
  intro id hid
  rw [validateSupersession, Option.mem_def.mp hid] at h
  dsimp only at h
  split at h
  · cases h
  · rename_i target others htargets
    have htarget : target ∈ chain.filter (·.eventId = id) := htargets ▸ mem_cons_self
    obtain ⟨hmem, hname⟩ := mem_filter.mp htarget
    rw [decide_eq_true_eq] at hname
    exact mem_map.mpr ⟨target, hmem, hname⟩

theorem validateOutcomeTransition_ok {chain} (h : validateOutcomeTransition chain m = .ok ()) :
    ∀ t ∈ effectiveEvents chain, isTerminalOutcome t = true →
      m.outcome.supersedesEventId = some t.eventId := by
  intro t ht hterminal
  have hmem : t ∈ (effectiveEvents chain).filter isTerminalOutcome :=
    mem_filter.mpr ⟨ht, hterminal⟩
  rw [validateOutcomeTransition] at h
  split at h
  · rename_i hnone
    rw [hnone] at hmem
    cases hmem
  · rename_i terminal others hsome
    simp only [ok_iff, not_or, not_not] at h
    obtain ⟨⟨-, rfl, hsupersedes⟩, -⟩ := h
    rw [hsome] at hmem
    obtain rfl := mem_singleton.mp hmem
    exact hsupersedes

def chainOf (rows : List (OutcomeEventRow R)) (experimentId : String) :
    List (ExperimentOutcomeEvent R) :=
  (rows.filter fun row : OutcomeEventRow R => row.experimentId = experimentId).map (·.payload)

theorem chainOf_concat (rows : List (OutcomeEventRow R)) (row : OutcomeEventRow R) (x : String) :
    chainOf (rows ++ [row]) x =
      chainOf rows x ++ if row.experimentId = x then [row.payload] else [] := by
  by_cases h : row.experimentId = x
  · simp [chainOf, h]
  · simp [chainOf, h]

variable [OutcomeNumber R] {hash : Hashing}

def OutcomeStore.chain (s : OutcomeStore R) (experimentId : String) :
    List (ExperimentOutcomeEvent R) :=
  chainOf s.events experimentId

structure EventOf (hash : Hashing) (a : ResearchExperimentAction R) (row : OutcomeEventRow R) :
    Prop where
  built : row = row.payload.row a.actionId
  valid : validateEvent hash row.payload = .ok ()
  experimentId : row.payload.experimentId = a.experimentId
  origin : row.payload.origin = a.origin
  contract : row.payload.outcome.evaluationContractHash = a.evaluationContractHash

/-- The invariant of the outcome ledger. -/
structure LedgerInv (hash : Hashing) (s : OutcomeStore R) : Prop where
  actions : ∀ row ∈ s.actions, row = row.payload.row ∧ validateAction hash row.payload = .ok ()
  experiments : (s.actions.map (·.experimentId)).Nodup
  events : ∀ row ∈ s.events, ∃ action, s.findAction row.experimentId = some action ∧
    EventOf hash action.payload row
  ids : (s.events.map (·.eventId)).Nodup
  hashes : (s.events.map (·.eventHash)).Nodup
  chains : ∀ x, OutcomeChain (s.chain x)

variable {a : ResearchExperimentAction R}

theorem EventOf.eventFromRow {row} (h : EventOf hash a row) :
    eventFromRow hash row = .ok row.payload := by
  have hrow : row = row.payload.row row.actionId := by
    have hid : row.actionId = a.actionId := by rw [h.built]; rfl
    rw [hid]
    exact h.built
  rw [ResearchPlane.eventFromRow, h.valid]
  dsimp only
  rw [raiseIf_neg _ (not_not.mpr hrow)]
  rfl

theorem EventOf.binding {row} (h : EventOf hash a row) :
    validateEventActionBinding a row.payload row.actionId = .ok () := by
  have hid : row.actionId = a.actionId := by rw [h.built]; rfl
  rw [validateEventActionBinding, raiseIf_neg]
  simp [hid, h.experimentId, h.origin, h.contract]

theorem actionFromRow_ok {row : ExperimentActionRow R}
    (h : row = row.payload.row ∧ validateAction hash row.payload = .ok ()) :
    actionFromRow hash row = .ok row.payload := by
  rw [actionFromRow, h.2]
  dsimp only
  rw [raiseIf_neg _ (not_not.mpr h.1)]
  rfl

variable {s : OutcomeStore R} {x : String}

theorem LedgerInv.requireAction (inv : LedgerInv hash s)
    {row : ExperimentActionRow R} (h : s.findAction x = some row) :
    requireAction hash s x = .ok row.payload := by
  rw [ResearchPlane.requireAction, h]
  exact actionFromRow_ok (inv.actions row (mem_of_find?_eq_some h))

theorem LedgerInv.eventOf (inv : LedgerInv hash s) {action} (h : s.findAction x = some action) {row}
    (hrow : row ∈ s.events) (hx : row.experimentId = x) : EventOf hash action.payload row := by
  obtain ⟨action', haction, hof⟩ := inv.events row hrow
  rw [hx, h] at haction
  cases haction
  exact hof

theorem foldlM_verifyRow {rows : List (OutcomeEventRow R)}
    (hrows : ∀ row ∈ rows, EventOf hash a row) (hchain : OutcomeChain (rows.map (·.payload)))
    (createdAtCutoff : Option Instant) :
    rows.foldlM (verifyRow hash a createdAtCutoff) [] =
      .ok ((rows.map (·.payload)).filter (keptBy createdAtCutoff)) := by
  induction rows using List.reverseRecOn with
  | nil => rfl
  | append_singleton rows row ih =>
    rw [map_append, map_singleton] at hchain
    obtain ⟨hbefore, hfollows⟩ := outcomeChain_concat.mp hchain
    have hrow := hrows row (by simp)
    rw [foldlM_append, ih (fun r hr => hrows r (by simp [hr])) hbefore, ok_bind,
      foldlM_cons, map_append, map_singleton, filter_append]
    have hstep : verifyRow hash a createdAtCutoff
        ((rows.map (·.payload)).filter (keptBy createdAtCutoff)) row =
        .ok ((rows.map (·.payload)).filter (keptBy createdAtCutoff) ++
          [row.payload].filter (keptBy createdAtCutoff)) := by
      rw [verifyRow, hrow.eventFromRow]
      simp only [ok_bind, hrow.binding]
      by_cases hskip : createdAtCutoff.any (row.payload.outcome.createdAt > ·) = true
      · rw [if_pos hskip, filter_cons_of_neg (by simp [keptBy, hskip]), filter_nil,
          append_nil]
        rfl
      · -- a kept event keeps all the events before it
        have hkept : keptBy createdAtCutoff row.payload = true := by simpa [keptBy] using hskip
        have hall : (rows.map (·.payload)).filter (keptBy createdAtCutoff) =
            rows.map (·.payload) := by
          refine filter_eq_self.mpr fun e he => ?_
          have htimes := (pairwise_append.mp hchain.times).2.2 e he row.payload (by simp)
          cases createdAtCutoff with
          | none => rfl
          | some cutoff =>
            simp only [keptBy, Option.any_some, Bool.not_eq_true', decide_eq_false_iff_not,
              not_lt] at hkept ⊢
            exact htimes.1.trans hkept
        rw [if_neg hskip, hall, checkLink_ok hfollows, filter_cons_of_pos hkept,
          filter_nil]
        rfl
    rw [hstep]
    rfl

theorem LedgerInv.verifiedChain (inv : LedgerInv hash s) {action : ExperimentActionRow R}
    (h : s.findAction x = some action) (createdAtCutoff : Option Instant) :
    verifiedChain hash s x createdAtCutoff =
      .ok ((s.chain x).filter (keptBy createdAtCutoff)) := by
  have hrows : ∀ row ∈ s.events.filter fun row : OutcomeEventRow R => row.experimentId = x,
      EventOf hash action.payload row := fun row hrow => by
    obtain ⟨hmem, hx⟩ := mem_filter.mp hrow
    exact inv.eventOf h hmem (by simpa using hx)
  have hchain := inv.chains x
  have hsorted : sortedBy (·.eventSequence)
      (s.events.filter fun row : OutcomeEventRow R => row.experimentId = x) =
      s.events.filter fun row : OutcomeEventRow R => row.experimentId = x := by
    refine sortedBy_eq_self _ (List.Pairwise.imp_of_mem ?_
      (pairwise_map.mp (hchain.numbered.pairwise)))
    intro a b ha hb hlt
    rw [(hrows a ha).built, (hrows b hb).built]
    exact hlt.le
  rw [ResearchPlane.verifiedChain, hsorted, inv.requireAction h]
  simp only [ok_bind]
  rw [foldlM_verifyRow hrows hchain]
  simp only [ok_bind]
  have hknown : ¬∃ e ∈ (s.chain x).filter (keptBy createdAtCutoff),
      e.outcome.supersedesEventId.any
        (· ∉ ((s.chain x).filter (keptBy createdAtCutoff)).map (·.eventId)) = true := by
    rintro ⟨e, he, hunknown⟩
    have hinitial := hchain.of_initial (hchain.kept_initial createdAtCutoff)
    cases hid : e.outcome.supersedesEventId with
    | none => simp [hid] at hunknown
    | some id =>
      obtain ⟨target, htarget, rfl, -⟩ := hinitial.supersedes he hid
      simp only [hid, Option.any_some, decide_eq_true_eq] at hunknown
      exact hunknown (mem_map_of_mem htarget)
  exact (congrArg (· >>= _) (raiseIf_neg _ hknown)).trans rfl

structure RowsSeen (rows : List (OutcomeEventRow R)) (state : RowsState R) : Prop where
  events : state.events = rows.map (·.payload)
  chainState : ∀ x, (state.chainState.get? x).getD (0, none, none) =
    ((chainOf rows x).length, (chainOf rows x).getLast?.map (·.eventHash),
      (chainOf rows x).getLast?.map (·.outcome.createdAt))
  eventIds : ∀ x, (state.eventIds.get? x).getD [] = (chainOf rows x).map (·.eventId)
  supersessions : ∀ p ∈ state.supersessions, ∃ e ∈ chainOf rows p.1,
    e.outcome.supersedesEventId = some p.2

variable {actions : Dict String (ResearchExperimentAction R)}

theorem foldlM_verifyEventRow {rows}
    (hrows : ∀ row ∈ rows, ∃ a, actions.get? row.experimentId = some a ∧ EventOf hash a row)
    (hchains : ∀ x, OutcomeChain (chainOf rows x)) :
    ∃ state, rows.foldlM (verifyEventRow hash actions) {} = .ok state ∧ RowsSeen rows state := by
  induction rows using List.reverseRecOn with
  | nil => exact ⟨{}, rfl, ⟨rfl, fun _ => rfl, fun _ => rfl, by simp⟩⟩
  | append_singleton rows row ih =>
    have hinitial : ∀ x, chainOf rows x <+: chainOf (rows ++ [row]) x := fun x => by
      rw [chainOf_concat]
      exact prefix_append _ _
    obtain ⟨state, hstate, seen⟩ := ih (fun r hr => hrows r (by simp [hr]))
      fun x => (hchains x).of_initial (hinitial x)
    obtain ⟨a, haction, hof⟩ := hrows row (by simp)
    have hid : row.payload.experimentId = row.experimentId := by
      conv_rhs => rw [hof.built]
      rfl
    have hlast := hchains row.experimentId
    rw [chainOf_concat, if_pos rfl] at hlast
    have hfollows := (outcomeChain_concat.mp hlast).2
    refine ⟨state.advance row.payload, ?_, ?_, fun x => ?_, fun x => ?_, fun p hp => ?_⟩
    · rw [foldlM_append, hstate, ok_bind, foldlM_cons, verifyEventRow, haction]
      simp only [hof.eventFromRow, ok_bind, hof.binding, hid, seen.chainState,
        checkLink_ok hfollows]
      rfl
    · rw [map_append, ← seen.events]
      rfl
    · rw [chainOf_concat, RowsState.advance, hid]
      dsimp only
      rw [Dict.get?_set]
      by_cases hx : row.experimentId = x
      · rw [if_pos hx.symm, if_pos hx, ← hx, length_append, List.getLast?_concat,
          length_singleton]
        simp [hfollows.sequence]
      · rw [if_neg (Ne.symm hx), if_neg hx, append_nil, seen.chainState]
    · rw [chainOf_concat, RowsState.advance, hid]
      dsimp only
      rw [Dict.get?_set]
      by_cases hx : row.experimentId = x
      · rw [if_pos hx.symm, if_pos hx, ← hx, map_append, ← seen.eventIds]
        rfl
      · rw [if_neg (Ne.symm hx), if_neg hx, append_nil, seen.eventIds]
    · rcases mem_append.mp hp with hp | hp
      · obtain ⟨e, he, hsupersedes⟩ := seen.supersessions p hp
        exact ⟨e, (hinitial p.1).subset he, hsupersedes⟩
      · cases hsupersedes : row.payload.outcome.supersedesEventId with
        | none => simp [hsupersedes] at hp
        | some id =>
          simp only [hsupersedes, hid, Option.map_some, Option.toList_some,
            mem_singleton] at hp
          subst hp
          exact ⟨row.payload, by simp [chainOf_concat], hsupersedes⟩

theorem verifiedEventRows_ok {rows : List (OutcomeEventRow R)}
    (hrows : ∀ row ∈ rows, ∃ a, actions.get? row.experimentId = some a ∧ EventOf hash a row)
    (hchains : ∀ x, OutcomeChain (chainOf rows x)) :
    verifiedEventRows hash actions rows = .ok (rows.map (·.payload)) := by
  obtain ⟨state, hstate, seen⟩ := foldlM_verifyEventRow hrows hchains
  rw [verifiedEventRows, hstate]
  simp only [ok_bind]
  have hknown : ¬∃ x ∈ state.supersessions, x.2 ∉ (state.eventIds.get? x.1).getD [] := by
    rintro ⟨p, hp, hunknown⟩
    obtain ⟨e, he, hsupersedes⟩ := seen.supersessions p hp
    obtain ⟨target, htarget, hid, -⟩ := (hchains p.1).supersedes he hsupersedes
    rw [seen.eventIds, ← hid] at hunknown
    exact hunknown (mem_map_of_mem htarget)
  rw [raiseIf_neg _ hknown, ← seen.events]
  rfl

theorem foldlM_actions {rows : List (ExperimentActionRow R)}
    (valid : ∀ row ∈ rows, row = row.payload.row ∧ validateAction hash row.payload = .ok ())
    (nodup : (rows.map (·.experimentId)).Nodup) :
    ∃ d : Dict String (ResearchExperimentAction R),
      (rows.foldlM (fun actions row => do
        let action ← actionFromRow hash row
        return actions.set row.experimentId action) Dict.empty : Except Failure _) = .ok d ∧
      ∀ row ∈ rows, d.get? row.experimentId = some row.payload := by
  induction rows using List.reverseRecOn with
  | nil => exact ⟨.empty, rfl, by simp⟩
  | append_singleton rows row ih =>
    rw [map_append, map_singleton, nodup_append] at nodup
    obtain ⟨d, hd, hget⟩ := ih (fun r hr => valid r (by simp [hr])) nodup.1
    refine ⟨d.set row.experimentId row.payload, ?_, fun r hr => ?_⟩
    · rw [foldlM_append, hd, ok_bind, foldlM_cons, actionFromRow_ok (valid row (by simp))]
      rfl
    · rw [Dict.get?_set]
      rcases mem_append.mp hr with hr | hr
      · have hne := nodup.2.2 r.experimentId (mem_map_of_mem hr) row.experimentId (by simp)
        rw [if_neg hne, hget r hr]
      · obtain rfl := mem_singleton.mp hr
        rw [if_pos rfl]

theorem LedgerInv.actionsByExperiment (inv : LedgerInv hash s) :
    ∃ d, ResearchPlane.actionsByExperiment hash s.actions = .ok d ∧
      ∀ x row, s.findAction x = some row → d.get? x = some row.payload := by
  have hperm := sortedBy_perm (fun row : ExperimentActionRow R => row.experimentId) s.actions
  obtain ⟨d, hd, hget⟩ := foldlM_actions
    (fun row hrow => inv.actions row (hperm.mem_iff.mp hrow))
    ((hperm.map _).nodup_iff.mpr inv.experiments)
  refine ⟨d, hd, fun x row hrow => ?_⟩
  have hx : row.experimentId = x := by simpa using List.find?_some hrow
  rw [← hx]
  exact hget row (hperm.mem_iff.mpr (mem_of_find?_eq_some hrow))

theorem LedgerInv.chainOf_rowsUntil (inv : LedgerInv hash s) (asOf : Instant)
    (x : String) : chainOf (s.rowsUntil asOf) x = (s.chain x).filter (keptBy (some asOf)) := by
  have hseq : ∀ row ∈ s.events, row.eventSequence = row.payload.eventSequence ∧
      row.createdAt = row.payload.outcome.createdAt := fun row hrow => by
    obtain ⟨action, -, hof⟩ := inv.events row hrow
    constructor <;> (conv_lhs => rw [hof.built]) <;> rfl
  have hrows : (s.events.filter fun row : OutcomeEventRow R => row.experimentId = x).Pairwise
      fun a b => a.eventSequence ≤ b.eventSequence := by
    refine List.Pairwise.imp_of_mem ?_ (pairwise_map.mp (inv.chains x).numbered.pairwise)
    intro a b ha hb hlt
    rw [(hseq a (mem_filter.mp ha).1).1, (hseq b (mem_filter.mp hb).1).1]
    exact hlt.le
  have hsorted : ((s.rowsUntil asOf).filter fun row : OutcomeEventRow R =>
      row.experimentId = x).Pairwise fun a b => a.eventSequence ≤ b.eventSequence := by
    refine List.Pairwise.imp_of_mem ?_ ((sortedBy_pairwise rowKey _).filter _)
    intro a b ha hb hle
    have hax : a.experimentId = x := by simpa using (mem_filter.mp ha).2
    have hbx : b.experimentId = x := by simpa using (mem_filter.mp hb).2
    rw [rowKey, rowKey, hax, hbx, Prod.Lex.toLex_le_toLex] at hle
    rcases hle with hlt | ⟨-, hle⟩
    · exact absurd hlt (lt_irrefl x)
    · exact hle
  have hperm : ((s.rowsUntil asOf).filter fun row : OutcomeEventRow R => row.experimentId = x).Perm
      ((s.events.filter fun row : OutcomeEventRow R => row.experimentId = x).filter
        (·.createdAt ≤ asOf)) := by
    rw [filter_filter, OutcomeStore.rowsUntil]
    refine ((sortedBy_perm rowKey _).filter _).trans (List.Perm.of_eq ?_)
    rw [filter_filter]
    exact filter_congr fun row _ => Bool.and_comm _ _
  have hnodup : (((s.events.filter fun row : OutcomeEventRow R => row.experimentId = x).filter
      (·.createdAt ≤ asOf)).map (·.eventSequence)).Nodup := by
    have hall := (inv.chains x).numbered.nodup
    have hmap : (s.events.filter fun row : OutcomeEventRow R => row.experimentId = x).map
        (·.eventSequence) = (s.chain x).map (·.eventSequence) := by
      rw [OutcomeStore.chain, chainOf, map_map]
      exact map_congr_left fun row hrow => (hseq row (mem_filter.mp hrow).1).1
    rw [← hmap] at hall
    exact hall.sublist (filter_sublist.map _)
  have heq := sortedBy_eq_of_perm (·.eventSequence) hperm
    ((hperm.map _).nodup_iff.mpr hnodup)
  rw [sortedBy_eq_self _ hsorted, sortedBy_eq_self _ (hrows.filter _)] at heq
  rw [chainOf, heq, OutcomeStore.chain, chainOf, filter_map]
  congr 1
  refine filter_congr fun row hrow => ?_
  rw [(hseq row (mem_filter.mp hrow).1).2, Function.comp_apply, keptBy, Option.any_some,
    ← decide_not]
  exact decide_eq_decide.mpr not_lt.symm

theorem LedgerInv.verifiedRows (inv : LedgerInv hash s) (asOf : Instant) :
    ∃ actions, ResearchPlane.actionsByExperiment hash s.actions = .ok actions ∧
      verifiedEventRows hash actions (s.rowsUntil asOf) =
        .ok ((s.rowsUntil asOf).map (·.payload)) := by
  obtain ⟨actions, hactions, hget⟩ := inv.actionsByExperiment
  refine ⟨actions, hactions, verifiedEventRows_ok (fun row hrow => ?_) fun x => ?_⟩
  · have hmem : row ∈ s.events := by
      rw [OutcomeStore.rowsUntil, mem_sortedBy] at hrow
      exact (mem_filter.mp hrow).1
    obtain ⟨action, haction, hof⟩ := inv.events row hmem
    exact ⟨action.payload, hget _ action haction, hof⟩
  · rw [inv.chainOf_rowsUntil]
    exact (inv.chains x).of_initial ((inv.chains x).kept_initial _)

theorem buildOutcomeEvent_ok {previous} (h : buildOutcomeEvent hash a m previous = .ok e) :
    m.experimentId = a.experimentId ∧
      m.outcome.evaluationContractHash = a.evaluationContractHash ∧
      (∀ last ∈ previous, last.outcome.createdAt ≤ m.outcome.createdAt ∧
        last.outcome.availableAt ≤ m.outcome.availableAt) ∧
      (∃ hashes times, e = outcomeEvent hash a m previous hashes times) ∧
      validateEvent hash e = .ok () := by
  simp only [buildOutcomeEvent, ok_iff, not_not] at h
  obtain ⟨hexperiment, hcontract, -, -, -, hcreated, -, -, havailable, ⟨hashes, times⟩, -, ⟨⟩,
    hvalid, rfl⟩ := h
  refine ⟨hexperiment, hcontract, fun last hlast => ?_, ⟨hashes, times, rfl⟩, hvalid⟩
  obtain rfl := Option.mem_def.mp hlast
  simp only [Option.any_some, decide_eq_true_eq, not_lt] at hcreated havailable
  exact ⟨hcreated, havailable⟩

variable {s' : OutcomeStore R}

theorem appendOutcome_cases (inv : LedgerInv hash s) {m answer}
    (h : appendOutcome hash s m = .ok (answer, s')) :
    s' = s ∨ ∃ action e, s.findAction m.val.experimentId = some action ∧
      e.experimentId = m.val.experimentId ∧
      EventOf hash action.payload (e.row action.payload.actionId) ∧
      Follows (s.chain m.val.experimentId) e ∧ e.eventId ∉ s.events.map (·.eventId) ∧
      e.eventHash ∉ s.events.map (·.eventHash) ∧
      s' = { s with events := s.events ++ [e.row action.payload.actionId] } := by
  cases haction : s.findAction m.val.experimentId with
  | none =>
    rw [appendOutcome, ResearchPlane.requireAction, haction] at h
    cases h
  | some action =>
    have hall : (s.chain m.val.experimentId).filter (keptBy none) = s.chain m.val.experimentId :=
      filter_eq_self.mpr fun _ _ => rfl
    rw [appendOutcome, inv.requireAction haction, ok_bind, inv.verifiedChain haction, ok_bind,
      hall] at h
    simp only [bind_eq_ok] at h
    obtain ⟨existing, -, h⟩ := h
    split at h
    · simp only [pure_eq_ok, Prod.mk.injEq] at h
      exact .inl h.2.symm
    · simp only [ok_iff, Prod.mk.injEq] at h
      obtain ⟨⟨⟩, hsupersession, ⟨⟩, htransition, e, hbuild, store, hinsert, -, rfl⟩ := h
      obtain ⟨hexperiment, hcontract, htimes, ⟨hashes, times, heq⟩, hvalid⟩ :=
        buildOutcomeEvent_ok hbuild
      simp only [OutcomeStore.insertEvent, ok_iff, not_exists, not_and, not_or] at hinsert
      obtain ⟨hunique, -, rfl⟩ := hinsert
      have hchain := inv.chains m.val.experimentId
      have hname : e.experimentId = m.val.experimentId := by rw [heq, hexperiment]; rfl
      have hfresh : e.eventId ∉ s.events.map (·.eventId) := by
        intro hmem
        obtain ⟨old, hold, hid⟩ := mem_map.mp hmem
        exact (hunique old hold).1 hid
      have hnew : e.eventHash ∉ s.events.map (·.eventHash) := by
        intro hmem
        obtain ⟨old, hold, hid⟩ := mem_map.mp hmem
        exact (hunique old hold).2.1 hid
      refine .inr ⟨action, e, rfl, hname, ⟨rfl, hvalid, ?_, ?_, ?_⟩, ?_, hfresh, hnew, rfl⟩
      · exact hname.trans hexperiment
      · rw [heq]
        rfl
      · rw [← hcontract, heq]
        rfl
      · refine ⟨?_, by rw [heq]; rfl, ?_, ?_, ?_, ?_, ?_⟩
        · rw [← hchain.last_sequence, heq]
          rfl
        · intro last hlast
          rw [heq]
          exact (htimes last hlast).1
        · intro last hlast
          rw [heq]
          exact (htimes last hlast).2
        · rw [heq]
          exact validateSupersession_ok hsupersession
        · intro hmem
          obtain ⟨old, hold, hid⟩ := mem_map.mp hmem
          obtain ⟨row, hrow, rfl⟩ := mem_map.mp hold
          have hrow := (mem_filter.mp hrow).1
          obtain ⟨action', -, hof⟩ := inv.events row hrow
          refine hfresh (mem_map.mpr ⟨row, hrow, ?_⟩)
          rw [← hid]
          conv_lhs => rw [hof.built]
          rfl
        · rw [heq]
          exact validateOutcomeTransition_ok htransition

theorem registerAction_cases {a : Validated (validateAction (R := R) hash)}
    {created : Bool} (h : registerAction hash s a = .ok (created, s')) :
    s' = s ∨ (∀ row ∈ s.actions, row.experimentId ≠ a.val.experimentId) ∧
      s' = { s with actions := s.actions ++ [a.val.row] } := by
  rw [registerAction] at h
  split at h
  · simp only [ok_iff, Prod.mk.injEq] at h
    obtain ⟨-, -, -, -, -, rfl⟩ := h
    exact .inl rfl
  · rename_i hfind
    simp only [ok_iff, Prod.mk.injEq] at h
    obtain ⟨-, -, -, rfl⟩ := h
    refine .inr ⟨fun row hrow hid => ?_, rfl⟩
    have := List.find?_eq_none.mp hfind row hrow
    simp [hid] at this

theorem ledgerStep_inv {call} (inv : LedgerInv hash s) (h : ledgerStep hash s call = .ok s') :
    LedgerInv hash s' := by
  cases call with
  | register a =>
    obtain ⟨⟨created, store⟩, hregister, rfl⟩ := map_eq_ok.mp h
    rcases registerAction_cases hregister with rfl | ⟨hnew, rfl⟩
    · exact inv
    · refine ⟨fun row hrow => ?_, ?_, fun row hrow => ?_, inv.ids, inv.hashes, inv.chains⟩
      · rcases mem_append.mp hrow with hrow | hrow
        · exact inv.actions row hrow
        · obtain rfl := mem_singleton.mp hrow
          exact ⟨rfl, a.valid⟩
      · rw [map_append, map_singleton]
        refine nodup_append.mpr ⟨inv.experiments, nodup_singleton _, fun x hx y hy => ?_⟩
        obtain ⟨row, hrow, rfl⟩ := mem_map.mp hx
        obtain rfl := mem_singleton.mp hy
        exact hnew row hrow
      · obtain ⟨action, haction, hof⟩ := inv.events row hrow
        refine ⟨action, ?_, hof⟩
        rw [OutcomeStore.findAction] at haction ⊢
        rw [List.find?_append, haction, Option.some_or]
  | append m =>
    obtain ⟨⟨answer, store⟩, happend, rfl⟩ := map_eq_ok.mp h
    rcases appendOutcome_cases inv happend with rfl |
      ⟨action, e, haction, hname, hof, hfollows, hfresh, hnew, rfl⟩
    · exact inv
    · refine ⟨inv.actions, inv.experiments, fun row hrow => ?_, ?_, ?_, fun x => ?_⟩
      · rcases mem_append.mp hrow with hrow | hrow
        · exact inv.events row hrow
        · obtain rfl := mem_singleton.mp hrow
          have hfind : s.findAction e.experimentId = some action := by rw [hname, haction]
          exact ⟨action, hfind, hof⟩
      · rw [map_append, map_singleton]
        exact nodup_snoc inv.ids hfresh
      · rw [map_append, map_singleton]
        exact nodup_snoc inv.hashes hnew
      · rw [OutcomeStore.chain, chainOf_concat]
        by_cases hx : (e.row action.payload.actionId).experimentId = x
        · rw [if_pos hx, outcomeChain_concat]
          have hmx : m.val.experimentId = x := hname.symm.trans hx
          rw [hmx] at hfollows
          exact ⟨inv.chains x, hfollows⟩
        · rw [if_neg hx, append_nil]
          exact inv.chains x

end AdaptiveQuant.ResearchPlane
