import AdaptiveQuant.Persistence.ShadowReplay

/-! Runs of the shadow store: pairs are initialised, cycles are appended, and the lifecycle of the
Challengers moves on. -/

namespace AdaptiveQuant.Shadow

open Guard Ledger ArmCycle Sequence List

variable {hash : Hashing}

/-- The rows share no key. -/
def Apart (a b : Row hash) : Prop := ∀ key ∈ a.keys, key ∉ b.keys

theorem insertRow_eq_ok {rows rows'} {row : Row hash} :
    insertRow rows row = .ok rows' ↔ rows' = rows ++ [row] ∧ ∀ stored ∈ rows, Apart stored row := by
  simp only [insertRow, ok_iff, not_exists, not_and, Apart]
  constructor
  · rintro ⟨hapart, hrows⟩
    exact ⟨hrows.symm, hapart⟩
  · rintro ⟨hrows, hapart⟩
    exact ⟨hapart, hrows.symm⟩

variable {added : List (Row hash)}

theorem insertRows_eq_ok {rows rows' : List (Row hash)} :
    insertRows rows added = .ok rows' ↔ rows' = rows ++ added ∧
      (∀ stored ∈ rows, ∀ row ∈ added, Apart stored row) ∧ added.Pairwise Apart := by
  induction added using List.reverseRecOn generalizing rows' with
  | nil =>
    rw [append_nil]
    exact ⟨fun h => ⟨(pure_eq_ok.mp h).symm, by simp, List.Pairwise.nil⟩,
      fun h => pure_eq_ok.mpr h.1.symm⟩
  | append_singleton added row ih =>
    rw [insertRows, foldlM_concat_eq_ok]
    change (∃ acc, insertRows rows added = .ok acc ∧ insertRow acc row = .ok rows') ↔ _
    simp only [ih, insertRow_eq_ok, pairwise_append, forall_mem_append,
      forall_mem_singleton, pairwise_singleton, true_and]
    constructor
    · rintro ⟨_, ⟨rfl, hold, hadded⟩, rfl, hrow⟩
      obtain ⟨hstored, hnew⟩ := forall_mem_append.mp hrow
      exact ⟨append_assoc _ _ _, fun row hmem => ⟨hold row hmem, hstored row hmem⟩, hadded,
        hnew⟩
    · rintro ⟨rfl, hold, hadded, hnew⟩
      refine ⟨_, ⟨rfl, fun row hmem => (hold row hmem).1, hadded⟩, (append_assoc _ _ _).symm,
        forall_mem_append.mpr ⟨fun row hmem => (hold row hmem).2, hnew⟩⟩

def cycleRows (rows : List (Row hash)) (runId : String) : List (EventRow hash) :=
  (rows.filterMap Row.event?).filter fun event =>
    event.aggregateType = .matchedShadowCycle ∧ event.aggregateId = runId

def stateRows (rows : List (Row hash)) (runId armId : String) : List (String × ArmState hash) :=
  (rows.filterMap Row.state?).filter fun snapshot =>
    snapshot.2.val.runId = runId ∧ snapshot.2.val.armId = armId

theorem cycleRows_append (rows added : List (Row hash)) (runId : String) :
    cycleRows (rows ++ added) runId = cycleRows rows runId ++ cycleRows added runId := by
  simp only [cycleRows, filterMap_append, filter_append]

theorem stateRows_append (rows added : List (Row hash)) (runId armId : String) :
    stateRows (rows ++ added) runId armId =
      stateRows rows runId armId ++ stateRows added runId armId := by
  simp only [stateRows, filterMap_append, filter_append]

def Row.Plain (row : Row hash) : Prop := row.run? = none ∧ row.state? = none ∧ row.event? = none

theorem filterMap_plain {rows : List (Row hash)} (h : ∀ row ∈ rows, row.Plain) :
    rows.filterMap Row.run? = [] ∧ rows.filterMap Row.state? = [] ∧
      rows.filterMap Row.event? = [] :=
  ⟨filterMap_eq_nil_iff.mpr fun row hrow => (h row hrow).1,
    filterMap_eq_nil_iff.mpr fun row hrow => (h row hrow).2.1,
    filterMap_eq_nil_iff.mpr fun row hrow => (h row hrow).2.2⟩

theorem ledgerRows_plain (runId : String) (entry : LedgerEntry) :
    ∀ row ∈ (ledgerRows runId entry : List (Row hash)), row.Plain := by
  intro row hrow
  rw [ledgerRows, mem_cons, mem_map] at hrow
  rcases hrow with rfl | ⟨posting, -, rfl⟩
  · exact ⟨rfl, rfl, rfl⟩
  · exact ⟨rfl, rfl, rfl⟩

theorem armCycleRows_eq (spec : PairRuntimeSpec hash) (bundle : QuoteBundle hash)
    (r : ArmCycleResult hash) : ∃ plain : List (Row hash), (∀ row ∈ plain, row.Plain) ∧
      armCycleRows spec bundle r = plain ++ [stateRow r.nextState] := by
  refine ⟨_, ?_, append_cons _ _ _⟩
  intro row hrow
  simp only [mem_append, mem_map, mem_filterMap, mem_flatMap,
    mem_singleton, Option.map_eq_some_iff] at hrow
  rcases hrow with ((((rfl | ⟨order, -, rfl⟩) | ⟨fill, -, cost, -, rfl⟩) |
    ⟨order, -, event, -, rfl⟩) | ⟨entry, -, hentry⟩) | rfl
  · exact ⟨rfl, rfl, rfl⟩
  · exact ⟨rfl, rfl, rfl⟩
  · exact ⟨rfl, rfl, rfl⟩
  · exact ⟨rfl, rfl, rfl⟩
  · exact ledgerRows_plain _ entry row hentry
  · exact ⟨rfl, rfl, rfl⟩

structure OneState (rows : List (Row hash)) (state : ArmState hash) : Prop where
  runs : rows.filterMap Row.run? = []
  states : rows.filterMap Row.state? = [(state.val.stateHash, state)]
  events : rows.filterMap Row.event? = []

theorem oneState {front back : List (Row hash)} (hfront : ∀ row ∈ front, row.Plain)
    (hback : ∀ row ∈ back, row.Plain) (state : ArmState hash) :
    OneState (front ++ stateRow state :: back) state := by
  obtain ⟨hfront1, hfront2, hfront3⟩ := filterMap_plain hfront
  obtain ⟨hback1, hback2, hback3⟩ := filterMap_plain hback
  refine ⟨?_, ?_, ?_⟩
  · rw [filterMap_append, hfront1, nil_append, filterMap_cons_none rfl, hback1]
  · rw [filterMap_append, hfront2, nil_append, filterMap_cons, hback2]
    rfl
  · rw [filterMap_append, hfront3, nil_append, filterMap_cons_none rfl, hback3]

theorem armCycleRows_oneState (spec : PairRuntimeSpec hash) (bundle : QuoteBundle hash)
    (r : ArmCycleResult hash) : OneState (armCycleRows spec bundle r) r.nextState := by
  obtain ⟨plain, hplain, hrows⟩ := armCycleRows_eq spec bundle r
  rw [hrows]
  exact oneState hplain (by simp) r.nextState

theorem initialArmRows_oneState {spec : PairRuntimeSpec hash} {role : ArmRole}
    {rows : List (Row hash)} (h : initialArmRows spec role = .ok rows) :
    OneState rows (initialState spec role) := by
  simp only [initialArmRows, buildInitialShadowState_eq, ok_bind, ok_iff] at h
  obtain ⟨opening, -, nav, -, rfl⟩ := h
  refine @oneState hash [_] _ (fun row hrow => ?_) (fun row hrow => ?_) _
  · rw [mem_singleton] at hrow
    exact hrow ▸ ⟨rfl, rfl, rfl⟩
  · rcases mem_append.mp hrow with hrow | hrow
    · exact ledgerRows_plain _ opening row hrow
    · rw [mem_singleton] at hrow
      exact hrow ▸ ⟨rfl, rfl, rfl⟩

/-- The calls that change the store. -/
inductive ShadowCall (hash : Hashing)
  | openRun (pair : PairRegistration)
  | append (request : AppendRequest hash)
  | lifecycle (events : List ChallengerEvent)

def shadowStep (store : ShadowStore hash) : ShadowCall hash → Except Failure (ShadowStore hash)
  | .openRun pair => (·.2) <$> initializeFromLifecycle store pair
  | .append request => (·.2) <$> appendMatchedCycle store request
  | .lifecycle events => .ok { store with lifecycle := events }

structure Initialized (store : ShadowStore hash) (spec : PairRuntimeSpec hash)
    (store' : ShadowStore hash) : Prop where
  unknown : store.findRun spec.val.runId = none
  rows : ∃ champion challenger, initialArmRows spec .champion = .ok champion ∧
    initialArmRows spec .challenger = .ok challenger ∧
    store'.rows = store.rows ++ (runRow spec :: champion ++ challenger)

variable {store' : ShadowStore hash}

theorem initialize_cases {store pair spec}
    (h : initializeFromLifecycle store pair = .ok (spec, store')) :
    store' = store ∨ Initialized store spec store' := by
  simp only [initializeFromLifecycle, bind_eq_ok] at h
  obtain ⟨u, -, built, hbuilt, h⟩ := h
  cases hfind : store.findRun built.val.runId with
  | some existing =>
    rw [hfind] at h
    simp only [ok_iff, Prod.mk.injEq] at h
    obtain ⟨stored, -, u, -, -, rfl⟩ := h
    exact .inl rfl
  | none =>
    rw [hfind] at h
    simp only [ok_iff, Prod.mk.injEq] at h
    obtain ⟨champion, hchampion, challenger, hchallenger, rows, hrows, rfl, rfl⟩ := h
    exact .inr ⟨hfind, champion, challenger, hchampion, hchallenger, (insertRows_eq_ok.mp hrows).1⟩

/-- The cycle was new, ran from the latest states, and its rows were stored. -/
structure Appended (store : ShadowStore hash) (request : AppendRequest hash)
    (spec : PairRuntimeSpec hash) (result : MatchedCycleResult hash) (store' : ShadowStore hash) :
    Prop where
  missing : store.findEvent request.cycleEventId = none
  executed : ∃ champion challenger,
    store.latestState request.runId spec.val.champion.armId = .ok champion ∧
    store.latestState request.runId spec.val.challenger.armId = .ok challenger ∧
    (request.input.cycle spec ⟨champion, challenger, []⟩).execute = .ok result
  rows : ∃ added, newCycleRows store request spec result = .ok added ∧
    insertRows store.rows added = .ok store'.rows

variable {result : MatchedCycleResult hash}

theorem append_cases {store request} (h : appendMatchedCycle store request = .ok (result, store')) :
    ∃ run spec, store.findRun request.runId = some run ∧ ShadowStore.specFromRun run = .ok spec ∧
      run.experimentVersion = shadowRuntimeVersion ∧
      (store' = store ∧ (store.findEvent request.cycleEventId).isSome ∨
        Appended store request spec result store') := by
  unfold appendMatchedCycle at h
  cases hfind : store.findRun request.runId with
  | none =>
    rw [hfind] at h
    cases h
  | some run =>
    rw [hfind] at h
    simp only [ok_iff, not_not] at h
    obtain ⟨spec, hspec, hversion, h⟩ := h
    refine ⟨run, spec, rfl, hspec, hversion, ?_⟩
    cases hevent : store.findEvent request.cycleEventId with
    | some existing =>
      rw [hevent] at h
      simp only [ok_iff, Prod.mk.injEq] at h
      obtain ⟨-, -, -, rfl⟩ := h
      exact .inl ⟨rfl, rfl⟩
    | none =>
      rw [hevent] at h
      simp only [ok_iff, Prod.mk.injEq] at h
      obtain ⟨u, -, u', -, champion, hchampion, challenger, hchallenger, result', hresult, added,
        hadded, rows, hrows, rfl, rfl⟩ := h
      exact .inr ⟨hevent, ⟨champion, challenger, hchampion, hchallenger, hresult⟩,
        added, hadded, hrows⟩

inductive Sourced (store : ShadowStore hash) (request : AppendRequest hash) :
    List (EventRow hash) → Prop
  | unattested (absent : request.provenance = none) : Sourced store request []
  | stored (p : ProspectiveSource) (event : EventRow hash) (given : request.provenance = some p)
      (found : store.findEvent p.provenanceId = some event) (same : SourceMatches event p) :
      Sourced store request []
  | new (p : ProspectiveSource) (given : request.provenance = some p)
      (missing : store.findEvent p.provenanceId = none) : Sourced store request [sourceEvent p]

theorem newCycleRows_eq_ok {store : ShadowStore hash} {request : AppendRequest hash}
    {spec : PairRuntimeSpec hash}
    (h : newCycleRows store request spec result = .ok added) : ∃ sources,
      Sourced store request sources ∧ added = sources.map .event ++
        armCycleRows spec request.input.bundle result.val.champion ++
        armCycleRows spec request.input.bundle result.val.challenger ++
        [.event (cycleEvent request spec.val result)] := by
  unfold newCycleRows at h
  cases hprovenance : request.provenance with
  | none =>
    rw [hprovenance] at h
    exact ⟨[], .unattested hprovenance, (pure_eq_ok.mp h).symm⟩
  | some p =>
    rw [hprovenance] at h
    simp only [ok_iff] at h
    obtain ⟨-, source, hsource, rfl⟩ := h
    unfold provenanceRows at hsource
    cases hfound : store.findEvent p.provenanceId with
    | some event =>
      rw [hfound] at hsource
      simp only [ok_iff, not_not] at hsource
      obtain ⟨hmatches, rfl⟩ := hsource
      exact ⟨[], .stored p event hprovenance hfound hmatches, rfl⟩
    | none =>
      rw [hfound] at hsource
      obtain rfl := pure_eq_ok.mp hsource
      exact ⟨[sourceEvent p], .new p hprovenance hfound, rfl⟩

structure CycleReads (sources : List (EventRow hash)) (event : EventRow hash)
    (result : MatchedCycleResultFields hash) (added : List (Row hash)) : Prop where
  runs : added.filterMap Row.run? = []
  states : added.filterMap Row.state? =
    [(result.champion.nextState.val.stateHash, result.champion.nextState),
      (result.challenger.nextState.val.stateHash, result.challenger.nextState)]
  events : added.filterMap Row.event? = sources ++ [event]

theorem cycleReads (spec : PairRuntimeSpec hash) (bundle : QuoteBundle hash)
    (sources : List (EventRow hash)) (event : EventRow hash)
    (result : MatchedCycleResultFields hash) :
    CycleReads sources event result
      (sources.map .event ++ armCycleRows spec bundle result.champion ++
      armCycleRows spec bundle result.challenger ++ [.event event]) := by
  obtain ⟨hruns, hstates, hevents⟩ := armCycleRows_oneState spec bundle result.champion
  obtain ⟨hruns', hstates', hevents'⟩ := armCycleRows_oneState spec bundle result.challenger
  have hsources : ∀ {α : Type} (f : Row hash → Option α), (∀ e, f (.event e) = none) →
      (sources.map Row.event).filterMap f = [] := by
    intro α f hf
    refine filterMap_eq_nil_iff.mpr fun row hrow => ?_
    obtain ⟨e, -, rfl⟩ := mem_map.mp hrow
    exact hf e
  refine ⟨?_, ?_, ?_⟩
  · rw [filterMap_append, filterMap_append, filterMap_append, hruns, hruns',
      hsources Row.run? fun _ => rfl]
    rfl
  · rw [filterMap_append, filterMap_append, filterMap_append, hstates, hstates',
      hsources Row.state? fun _ => rfl]
    rfl
  · have hself : (sources.map Row.event).filterMap Row.event? = sources := by
      rw [filterMap_map]
      exact filterMap_some
    rw [filterMap_append, filterMap_append, filterMap_append, hevents, hevents',
      hself, append_nil, append_nil]
    rfl

/-- The rows keep the results and the states of the pair. -/
structure Kept (rows : List (Row hash)) (spec : PairRuntimeSpec hash) (p : PairState hash) :
    Prop where
  cycles : (cycleRows rows spec.val.runId).map (fun event => (event.occurredAt, event.payload)) =
    p.results.map fun result => (result.val.quoteBundle.val.asOf, .cycle result)
  states : ∀ role, stateRows rows spec.val.runId (spec.val.bindingFor role).armId =
    (trail spec p role).map fun state => (state.val.stateHash, state)

def Faithful (rows : List (Row hash)) (run : RunRow hash) : Prop :=
  ∃ spec, Row.run run = runRow spec ∧ ∃ taken p,
    Run (pairStep spec) (pairStart spec) taken p ∧ Kept rows spec p

/-- The store keeps every run it knows, and nothing of another one. -/
structure StoreInv (store : ShadowStore hash) : Prop where
  known : ∀ runId run, store.findRun runId = some run → Faithful store.rows run
  unknown : ∀ runId, store.findRun runId = none →
    cycleRows store.rows runId = [] ∧ ∀ armId, stateRows store.rows runId armId = []

theorem findRun_runId {store : ShadowStore hash} {runId : String} {run : RunRow hash}
    (h : store.findRun runId = some run) : run.runId = runId := by
  simpa using List.find?_some h

theorem runRow_runId {spec : PairRuntimeSpec hash} {run : RunRow hash}
    (h : Row.run run = runRow spec) : run.runId = spec.val.runId := by
  cases h
  rfl

theorem specFromRun_runRow {spec : PairRuntimeSpec hash} {run : RunRow hash}
    (h : Row.run run = runRow spec) : ShadowStore.specFromRun run = .ok spec := by
  cases h
  show (raiseIf _ _ >>= _) = _
  rw [raiseIf_neg _ (by simp)]
  rfl

theorem Kept.latestState {store : ShadowStore hash} {spec : PairRuntimeSpec hash}
    {p : PairState hash} (kept : Kept store.rows spec p) (known : Trail spec p) (role : ArmRole) :
    store.latestState spec.val.runId (spec.val.bindingFor role).armId = .ok (p.arm role) := by
  have hsnapshots : store.snapshots spec.val.runId (spec.val.bindingFor role).armId =
      (trail spec p role).map fun state => (state.val.stateHash, state) := by
    show sortedBy _ (stateRows store.rows _ _) = _
    rw [kept.states role, sortedBy_eq_self]
    refine pairwise_map.mpr ((known.sequences role).imp fun {a b} hlt => ?_)
    exact (Prod.Lex.toLex_le_toLex).mpr (.inl hlt)
  rw [ShadowStore.latestState, hsnapshots, List.getLast?_map, known.last role]
  show (raiseIf _ _ >>= _) = _
  rw [raiseIf_neg _ (not_not.mpr rfl)]
  rfl

theorem findRun_append {store : ShadowStore hash}
    (h : store'.rows = store.rows ++ added) (runId : String) :
    store'.findRun runId =
      (store.findRun runId).or ((added.filterMap Row.run?).find? (·.runId = runId)) := by
  rw [ShadowStore.findRun, h, filterMap_append, List.find?_append]
  rfl

theorem findEvent_append {store : ShadowStore hash}
    (h : store'.rows = store.rows ++ added) (eventId : String) :
    store'.findEvent eventId =
      (store.findEvent eventId).or ((added.filterMap Row.event?).find? (·.eventId = eventId)) := by
  rw [ShadowStore.findEvent, h, filterMap_append, List.find?_append]
  rfl

theorem Kept.frame {rows spec p} (kept : Kept rows spec p)
    (cycles : cycleRows added spec.val.runId = [])
    (states : ∀ armId, stateRows added spec.val.runId armId = []) :
    Kept (rows ++ added) spec p := by
  refine ⟨?_, fun role => ?_⟩
  · rw [cycleRows_append, cycles, append_nil, kept.cycles]
  · rw [stateRows_append, states, append_nil, kept.states]

variable {states : ArmRole → ArmState hash}

theorem stateRows_pair {spec : PairRuntimeSpec hash}
    {added : List (Row hash)} (hadded : added.filterMap Row.state? =
      [((states .champion).val.stateHash, states .champion),
        ((states .challenger).val.stateHash, states .challenger)])
    (hrun : ∀ role, (states role).val.runId = spec.val.runId)
    (harm : ∀ role, (states role).val.armId = (spec.val.bindingFor role).armId) (role : ArmRole) :
    stateRows added spec.val.runId (spec.val.bindingFor role).armId =
      [((states role).val.stateHash, states role)] := by
  have harms : spec.val.champion.armId ≠ spec.val.challenger.armId :=
    (PairRuntimeSpecFields.check_eq_ok.mp spec.valid).2.2.1
  simp only [stateRows, hadded, filter_cons, filter_nil, hrun, harm, true_and,
    decide_eq_true_eq]
  cases role with
  | champion => simp [PairRuntimeSpecFields.bindingFor, harms.symm]
  | challenger => simp [PairRuntimeSpecFields.bindingFor, harms]

theorem stateRows_other {spec : PairRuntimeSpec hash}
    {added : List (Row hash)} (hadded : added.filterMap Row.state? =
      [((states .champion).val.stateHash, states .champion),
        ((states .challenger).val.stateHash, states .challenger)])
    (hrun : ∀ role, (states role).val.runId = spec.val.runId) {runId : String}
    (hne : runId ≠ spec.val.runId) (armId : String) : stateRows added runId armId = [] := by
  rw [stateRows, hadded, filter_eq_nil_iff]
  intro snapshot hsnapshot
  have hsame : snapshot.2.val.runId = spec.val.runId := by
    simp only [mem_cons, not_mem_nil, or_false] at hsnapshot
    rcases hsnapshot with rfl | rfl
    · exact hrun .champion
    · exact hrun .challenger
  simp only [hsame, decide_eq_true_eq, not_and]
  exact fun heq => absurd heq.symm hne

theorem Initialized.reads {store spec} (h : Initialized store spec store') :
    ∃ added, store'.rows = store.rows ++ added ∧
      (added.filterMap Row.run?).map Row.run = [runRow spec] ∧
      added.filterMap Row.state? =
        [((initialState spec .champion).val.stateHash, initialState spec .champion),
          ((initialState spec .challenger).val.stateHash, initialState spec .challenger)] ∧
      added.filterMap Row.event? = [] := by
  obtain ⟨-, champion, challenger, hchampion, hchallenger, hrows⟩ := h
  obtain ⟨hruns, hstates, hevents⟩ := initialArmRows_oneState hchampion
  obtain ⟨hruns', hstates', hevents'⟩ := initialArmRows_oneState hchallenger
  refine ⟨_, hrows, ?_, ?_, ?_⟩
  · rw [cons_append, filterMap_cons, filterMap_append, hruns, hruns']
    rfl
  · rw [cons_append, filterMap_cons, filterMap_append, hstates, hstates']
    rfl
  · rw [cons_append, filterMap_cons, filterMap_append, hevents, hevents']
    rfl

theorem initialize_inv {store : ShadowStore hash} {spec : PairRuntimeSpec hash}
    (inv : StoreInv store) (h : Initialized store spec store') : StoreInv store' := by
  have hunknown := h.unknown
  obtain ⟨added, hrows, haddedRuns, haddedStates, haddedEvents⟩ := h.reads
  obtain ⟨row, haddedRun, hrow⟩ := map_eq_singleton_iff.mp haddedRuns
  obtain ⟨hnoCycles, hnoStates⟩ := inv.unknown _ hunknown
  have hcycles : ∀ runId, cycleRows added runId = [] := by
    intro runId
    rw [cycleRows, haddedEvents]
    rfl
  have hothers : ∀ runId, runId ≠ spec.val.runId → ∀ armId, stateRows added runId armId = [] :=
    fun _ hne => stateRows_other haddedStates (fun _ => rfl) hne
  refine ⟨fun runId run hfind => ?_, fun runId hfind => ?_⟩
  · rw [findRun_append hrows, haddedRun] at hfind
    rcases hold : store.findRun runId with _ | old
    · -- the run that is new
      rw [hold, Option.none_or] at hfind
      obtain rfl := mem_singleton.mp (mem_of_find?_eq_some hfind)
      refine ⟨spec, hrow, [], pairStart spec, .start, ?_, fun role => ?_⟩
      · rw [hrows, cycleRows_append, hcycles, hnoCycles]
        rfl
      · rw [hrows, stateRows_append, hnoStates, nil_append]
        exact stateRows_pair haddedStates (fun _ => rfl) (fun _ => rfl) role
    · rw [hold, Option.some_or] at hfind
      obtain rfl := Option.some.inj hfind
      obtain ⟨spec', hrow, taken, p, run, kept⟩ := inv.known _ _ hold
      refine ⟨spec', hrow, taken, p, run, hrows ▸ kept.frame (hcycles _) (hothers _ ?_)⟩
      rintro heq
      rw [← runRow_runId hrow, findRun_runId hold] at heq
      rw [heq, hunknown] at hold
      cases hold
  · rw [findRun_append hrows, haddedRun, Option.or_eq_none_iff] at hfind
    obtain ⟨hold, hnew⟩ := hfind
    obtain ⟨hcyclesOld, hstatesOld⟩ := inv.unknown _ hold
    have hne : runId ≠ spec.val.runId := by
      rintro rfl
      simp [runRow_runId hrow] at hnew
    refine ⟨?_, fun armId => ?_⟩
    · rw [hrows, cycleRows_append, hcycles, hcyclesOld]
      rfl
    · rw [hrows, stateRows_append, hothers _ hne, hstatesOld]
      rfl

theorem cycleRows_added {store : ShadowStore hash} {request : AppendRequest hash}
    {spec : PairRuntimeSpec hash}
    {sources : List (EventRow hash)} (hsourced : Sourced store request sources)
    (reads : CycleReads sources (cycleEvent request spec.val result) result.val added)
    (runId : String) : cycleRows added runId =
      if spec.val.runId = runId then [cycleEvent request spec.val result] else [] := by
  have hsources : sources.filter (fun event =>
      event.aggregateType = .matchedShadowCycle ∧ event.aggregateId = runId) = [] := by
    rw [filter_eq_nil_iff]
    intro event hevent
    cases hsourced with
    | unattested => cases hevent
    | stored => cases hevent
    | new p =>
      rw [mem_singleton.mp hevent]
      simp [sourceEvent]
  rw [cycleRows, reads.events, filter_append, hsources, nil_append, filter_singleton]
  simp [cycleEvent]

theorem append_inv {store : ShadowStore hash} {request : AppendRequest hash}
    {run : RunRow hash} {spec : PairRuntimeSpec hash}
    (inv : StoreInv store) (hfind : store.findRun request.runId = some run)
    (hspec : ShadowStore.specFromRun run = .ok spec)
    (h : Appended store request spec result store') : StoreInv store' := by
  obtain ⟨-, ⟨champion, challenger, hchampion, hchallenger, hresult⟩, added, hadded, hinsert⟩ := h
  obtain ⟨hrows, -, -⟩ := insertRows_eq_ok.mp hinsert
  obtain ⟨sources, hsourced, rfl⟩ := newCycleRows_eq_ok hadded
  have hreads := cycleReads spec request.input.bundle sources (cycleEvent request spec.val result)
    result.val
  obtain ⟨spec', hrow, taken, p, hrun, hkept⟩ := inv.known _ _ hfind
  obtain rfl : spec = spec' := Except.ok.inj (hspec.symm.trans (specFromRun_runRow hrow))
  have hrunId : request.runId = spec.val.runId := by
    rw [← findRun_runId hfind, runRow_runId hrow]
  have htrail := run_trail hrun
  -- the states that were read are the present ones, so the call made a step of the pair
  have hstep : pairStep spec p request.input = .ok
      ⟨result.val.champion.nextState, result.val.challenger.nextState, p.results ++ [result]⟩ := by
    rw [hrunId] at hchampion hchallenger
    obtain rfl : p.arm .champion = champion :=
      Except.ok.inj ((hkept.latestState htrail .champion).symm.trans hchampion)
    obtain rfl : p.arm .challenger = challenger :=
      Except.ok.inj ((hkept.latestState htrail .challenger).symm.trans hchallenger)
    have hexecute : (request.input.cycle spec p).execute = .ok result := hresult
    rw [pairStep, hexecute]
    rfl
  have hbundle : result.val.quoteBundle = request.input.bundle :=
    congrArg CycleInput.bundle (MatchedCycle.execute_input hresult)
  have htrail' := run_trail (hrun.next hstep)
  have hbound : ∀ role, (result.val.arm role).nextState.val.runId = spec.val.runId ∧
      (result.val.arm role).nextState.val.armId = (spec.val.bindingFor role).armId := by
    intro role
    have hlast := htrail'.last role
    have hmem := htrail'.bound role _ (mem_of_getLast? hlast)
    cases role <;> exact hmem
  generalize haddedEq : (sources.map Row.event ++ _ ++ _ ++ _ : List (Row hash)) =
    added at hrows hreads
  have hcycles := cycleRows_added hsourced hreads
  have hothers : ∀ runId, runId ≠ spec.val.runId → ∀ armId, stateRows added runId armId = [] :=
    fun _ hne => @stateRows_other hash (fun role => (result.val.arm role).nextState) spec added
      hreads.states (fun role => (hbound role).1) _ hne
  have hsame : ∀ runId, store'.findRun runId = store.findRun runId := by
    intro runId
    rw [findRun_append hrows, hreads.runs]
    exact Option.or_none
  refine ⟨fun runId run' hfind' => ?_, fun runId hfind' => ?_⟩
  · rw [hsame] at hfind'
    obtain ⟨spec', hrow', taken', p', hrun', hkept'⟩ := inv.known _ _ hfind'
    by_cases heq : spec'.val.runId = spec.val.runId
    · -- the run that has one more cycle
      have hid : runId = request.runId := by
        rw [← findRun_runId hfind', runRow_runId hrow', heq, hrunId]
      rw [hid, hfind] at hfind'
      obtain rfl := Option.some.inj hfind'
      refine ⟨spec, hrow, _, _, hrun.next hstep, ?_, fun role => ?_⟩
      · rw [hrows, cycleRows_append, hcycles, if_pos rfl, map_append, map_append,
          hkept.cycles, map_singleton, map_singleton, hbundle]
        rfl
      · have hpair := @stateRows_pair hash (fun role => (result.val.arm role).nextState) spec added
          hreads.states (fun role => (hbound role).1) (fun role => (hbound role).2) role
        rw [hrows, stateRows_append, hkept.states, hpair,
          @trail_concat hash spec p ⟨_, _, p.results ++ [result]⟩ result rfl role, map_append]
        rfl
    · refine ⟨spec', hrow', taken', p', hrun', hrows ▸ hkept'.frame ?_ (hothers _ heq)⟩
      rw [hcycles, if_neg fun h => heq h.symm]
  · rw [hsame] at hfind'
    obtain ⟨hcyclesOld, hstatesOld⟩ := inv.unknown _ hfind'
    have hne : runId ≠ spec.val.runId := by
      rintro rfl
      rw [← hrunId, hfind] at hfind'
      cases hfind'
    refine ⟨?_, fun armId => ?_⟩
    · rw [hrows, cycleRows_append, hcycles, if_neg hne.symm, hcyclesOld]
      rfl
    · rw [hrows, stateRows_append, hothers _ hne, hstatesOld]
      rfl

theorem shadowStep_inv {store : ShadowStore hash} {call : ShadowCall hash}
    (inv : StoreInv store) (h : shadowStep store call = .ok store') : StoreInv store' := by
  cases call with
  | openRun pair =>
    obtain ⟨⟨spec, _⟩, hok, rfl⟩ := map_eq_ok.mp h
    rcases initialize_cases hok with rfl | hnew
    · exact inv
    · exact initialize_inv inv hnew
  | append request =>
    obtain ⟨⟨result, _⟩, hok, rfl⟩ := map_eq_ok.mp h
    obtain ⟨run, spec, hfind, hspec, -, ⟨rfl, -⟩ | hnew⟩ := append_cases hok
    · exact inv
    · exact append_inv inv hfind hspec hnew
  | lifecycle events =>
    obtain rfl := Except.ok.inj h
    exact ⟨inv.known, inv.unknown⟩

end AdaptiveQuant.Shadow
