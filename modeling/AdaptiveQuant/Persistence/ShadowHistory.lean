import AdaptiveQuant.Persistence.ShadowStore

/-! The three views of a run that the store can have. -/

namespace AdaptiveQuant.Shadow

open Guard Ledger ArmCycle Sequence List

variable {hash : Hashing}

structure Answers (store : ShadowStore hash) (request : AppendRequest hash)
    (result : MatchedCycleResult hash) : Prop where
  answer : appendMatchedCycle store request = .ok (result, store)
  stored : (store.findEvent request.cycleEventId).isSome

variable {result : MatchedCycleResult hash}

theorem answers_iff {store request}
    : Answers store request result ↔ ∃ run spec existing,
      store.findRun request.runId = some run ∧ ShadowStore.specFromRun run = .ok spec ∧
      run.experimentVersion = shadowRuntimeVersion ∧
      store.findEvent request.cycleEventId = some existing ∧
      answerStored store request existing = .ok result := by
  constructor
  · rintro ⟨hanswer, hstored⟩
    obtain ⟨existing, hexisting⟩ := Option.isSome_iff_exists.mp hstored
    obtain ⟨run, spec, hfind, hspec, hversion, -⟩ := append_cases hanswer
    rw [appendMatchedCycle, hfind] at hanswer
    simp only [hspec, hexisting, ok_bind, bind_eq_ok, pure_eq_ok, Prod.mk.injEq] at hanswer
    obtain ⟨-, -, answered, hresult, rfl, -⟩ := hanswer
    exact ⟨run, spec, existing, hfind, hspec, hversion, hexisting, hresult⟩
  · rintro ⟨run, spec, existing, hfind, hspec, hversion, hexisting, hresult⟩
    refine ⟨?_, Option.isSome_iff_exists.mpr ⟨existing, hexisting⟩⟩
    rw [appendMatchedCycle, hfind]
    simp only [hspec, hexisting, ok_bind, raiseIf_neg _ (not_not.mpr hversion), hresult]
    rfl

theorem Answers.payload {store request} (answers : Answers store request result) :
    (store.findEvent request.cycleEventId).map (·.payload) = some (.cycle result) := by
  obtain ⟨-, -, existing, -, -, -, hexisting, hresult⟩ := answers_iff.mp answers
  simp only [answerStored, ok_iff] at hresult
  obtain ⟨stored, hpayload, -, -, -, -, rfl⟩ := hresult
  rw [hexisting, Option.map_some]
  cases hcases : existing.payload with
  | cycle other =>
    rw [hcases] at hpayload
    rw [Except.ok.inj hpayload]
  | source p =>
    rw [hcases] at hpayload
    cases hpayload

variable {store' : ShadowStore hash}

theorem answerStored_append {store request existing added}
    (hrows : store'.rows = store.rows ++ added)
    (h : answerStored store request existing = .ok result) :
    answerStored store' request existing = .ok result := by
  simp only [answerStored, bind_eq_ok, pure_eq_ok] at h ⊢
  obtain ⟨stored, hpayload, u, hbound, u', hprovenance, rfl⟩ := h
  refine ⟨stored, hpayload, u, hbound, u', ?_, rfl⟩
  simp only [validateExistingProvenance, bind_eq_ok] at hprovenance ⊢
  obtain ⟨u'', htype, hsource⟩ := hprovenance
  refine ⟨u'', htype, ?_⟩
  cases hgiven : request.provenance with
  | none =>
    rw [hgiven] at hsource
    exact hsource
  | some p =>
    rw [hgiven] at hsource
    simp only [raiseIf_eq_ok, not_or, not_not, Bool.not_eq_false, Option.any_eq_true] at hsource ⊢
    obtain ⟨hcause, source, hfound, hmatches⟩ := hsource
    refine ⟨hcause, source, ?_, hmatches⟩
    rw [findEvent_append hrows, hfound, Option.some_or]

theorem Answers.append {store request added} (answers : Answers store request result)
    (hrows : store'.rows = store.rows ++ added) :
    Answers store' request result := by
  obtain ⟨run, spec, existing, hfind, hspec, hversion, hexisting, hresult⟩ :=
    answers_iff.mp answers
  refine answers_iff.mpr ⟨run, spec, existing, ?_, hspec, hversion, ?_,
    answerStored_append hrows hresult⟩
  · rw [findRun_append hrows, hfind, Option.some_or]
  · rw [findEvent_append hrows, hexisting, Option.some_or]

theorem Appended.findEvent {store request spec} (h : Appended store request spec result store') :
    store'.findEvent request.cycleEventId = some (cycleEvent request spec.val result) ∧
      ∀ p, request.provenance = some p →
        ∃ source, store'.findEvent p.provenanceId = some source ∧ SourceMatches source p := by
  obtain ⟨hmissing, -, added, hadded, hinsert⟩ := h
  obtain ⟨hrows, -, hapart⟩ := insertRows_eq_ok.mp hinsert
  obtain ⟨sources, hsourced, rfl⟩ := newCycleRows_eq_ok hadded
  have hreads := cycleReads spec request.input.bundle sources (cycleEvent request spec.val result)
    result.val
  refine ⟨?_, fun p hp => ?_⟩
  · rw [findEvent_append hrows, hmissing, Option.none_or, hreads.events, List.find?_append]
    -- the event of a new source has another identity
    have hsources : sources.find? (·.eventId = request.cycleEventId) = none := by
      rw [List.find?_eq_none]
      intro source hsource heq
      have hclash := (pairwise_append.mp hapart).2.2 (.event source)
        (by simp [hsource]) _ (mem_singleton.mpr rfl)
      refine hclash ("domain_events.event_id", [.str source.eventId]) (by simp [Row.keys]) ?_
      rw [decide_eq_true_eq] at heq
      simp [Row.keys, cycleEvent, heq]
    rw [hsources, Option.none_or]
    simp [cycleEvent]
  · rw [findEvent_append hrows, hreads.events]
    cases hsourced with
    | unattested habsent =>
      rw [habsent] at hp
      cases hp
    | stored p' source hgiven hfound hsame =>
      obtain rfl : p = p' := Option.some.inj (hp.symm.trans hgiven)
      exact ⟨source, by rw [hfound, Option.some_or], hsame⟩
    | new p' hgiven habsent =>
      obtain rfl : p = p' := Option.some.inj (hp.symm.trans hgiven)
      refine ⟨sourceEvent p, ?_, rfl, rfl, rfl, rfl, rfl, rfl⟩
      rw [habsent, Option.none_or, cons_append]
      exact List.find?_cons_of_pos (by simp [sourceEvent])

theorem cycleEvent_provenance {store : ShadowStore hash} {request : AppendRequest hash}
    {spec : PairRuntimeSpecFields}
    (hsource : ∀ p, request.provenance = some p →
      ∃ source, store.findEvent p.provenanceId = some source ∧ SourceMatches source p) :
    validateExistingProvenance store (cycleEvent request spec result) request.provenance =
      .ok () := by
  obtain ⟨runId, input, provenance⟩ := request
  cases provenance with
  | none => rfl
  | some p =>
    obtain ⟨source, hfound, hsame⟩ := hsource p rfl
    simp only [validateExistingProvenance, ok_iff, hfound, Option.any_some, hsame]
    simp [cycleEvent]

theorem append_answers {store : ShadowStore hash} {request : AppendRequest hash}
    (h : appendMatchedCycle store request = .ok (result, store')) :
    Answers store' request result := by
  obtain ⟨run, spec, hfind, hspec, hversion, ⟨rfl, hstored⟩ | hnew⟩ := append_cases h
  · exact ⟨h, hstored⟩
  · obtain ⟨hevent, hsource⟩ := hnew.findEvent
    obtain ⟨-, ⟨champion, challenger, -, -, hexecute⟩, added, -, hinsert⟩ := hnew
    obtain ⟨hrows, -, -⟩ := insertRows_eq_ok.mp hinsert
    have hinput := MatchedCycle.execute_input hexecute
    refine answers_iff.mpr ⟨run, spec, _, ?_, hspec, hversion, hevent, ?_⟩
    · rw [findRun_append hrows, hfind, Option.some_or]
    · have hchampion : result.val.champion.target = request.input.championTarget :=
        congrArg CycleInput.championTarget hinput
      have hchallenger : result.val.challenger.target = request.input.challengerTarget :=
        congrArg CycleInput.challengerTarget hinput
      have hbundle : result.val.quoteBundle = request.input.bundle :=
        congrArg CycleInput.bundle hinput
      simp only [answerStored, bind_eq_ok, pure_eq_ok]
      refine ⟨result, rfl, (), raiseIf_neg _ ?_, (), cycleEvent_provenance hsource, rfl⟩
      simp [hchampion, hchallenger, hbundle]

theorem shadowStep_rows {store call} (h : shadowStep store call = .ok store') :
    ∃ added, store'.rows = store.rows ++ added := by
  cases call with
  | openRun pair =>
    obtain ⟨⟨spec, _⟩, hok, rfl⟩ := map_eq_ok.mp h
    rcases initialize_cases hok with rfl | ⟨-, champion, challenger, -, -, hrows⟩
    · exact ⟨[], (append_nil _).symm⟩
    · exact ⟨_, hrows⟩
  | append request =>
    obtain ⟨⟨result, _⟩, hok, rfl⟩ := map_eq_ok.mp h
    obtain ⟨-, -, -, -, -, ⟨rfl, -⟩ | ⟨-, -, added, -, hinsert⟩⟩ := append_cases hok
    · exact ⟨[], (append_nil _).symm⟩
    · exact ⟨added, (insertRows_eq_ok.mp hinsert).1⟩
  | lifecycle events =>
    obtain rfl := Except.ok.inj h
    exact ⟨[], (append_nil _).symm⟩

theorem run_answers {calls : List (ShadowStore hash × ShadowCall hash)} {store : ShadowStore hash}
    (run : Run shadowStep {} calls store) {before : ShadowStore hash} {request : AppendRequest hash}
    (taken : (before, .append request) ∈ calls) : ∃ result after,
      appendMatchedCycle before request = .ok (result, after) ∧ Answers store request result := by
  induction run with
  | start => cases taken
  | @next calls s s' call run ok ih =>
    rcases mem_append.mp taken with taken | taken
    · obtain ⟨result, after, hfirst, hanswers⟩ := ih taken
      obtain ⟨added, hrows⟩ := shadowStep_rows ok
      exact ⟨result, after, hfirst, hanswers.append hrows⟩
    · cases mem_singleton.mp taken
      obtain ⟨⟨result, _⟩, hok, rfl⟩ := map_eq_ok.mp ok
      exact ⟨result, _, hok, append_answers hok⟩

theorem Kept.cycleResults {store : ShadowStore hash} {spec : PairRuntimeSpec hash}
    {p : PairState hash} (kept : Kept store.rows spec p) (known : Trail spec p)
    (hspec : store.loadSpec spec.val.runId = .ok spec) :
    store.cycleResults spec.val.runId = .ok p.results := by
  have hsorted : store.cycleEvents spec.val.runId = cycleRows store.rows spec.val.runId := by
    refine sortedBy_eq_self _ ?_
    have htimes : ((cycleRows store.rows spec.val.runId).map
        (fun event => (event.occurredAt, event.payload))).Pairwise fun a b => a.1 < b.1 := by
      rw [kept.cycles]
      exact pairwise_map.mpr known.times
    refine (pairwise_map.mp htimes).imp fun {a b} hlt => ?_
    exact Prod.Lex.toLex_le_toLex.mpr (.inl hlt)
  have hpayloads : (cycleRows store.rows spec.val.runId).map (·.payload) =
      p.results.map .cycle := by
    have hsecond := congrArg (List.map Prod.snd) kept.cycles
    rw [map_map, map_map] at hsecond
    exact hsecond
  have hread : (store.cycleEvents spec.val.runId).mapM
      (fun event => ShadowStore.cyclePayload event.payload) = .ok p.results := by
    have hcycles : (p.results.map EventPayload.cycle).mapM ShadowStore.cyclePayload =
        .ok p.results := by
      rw [mapM_map]
      refine (mapM_eq_ok fun _ _ => ?_).trans (congrArg _ (map_id _))
      rfl
    rw [hsorted, ← hcycles, ← hpayloads, mapM_map]
    rfl
  rw [ShadowStore.cycleResults, hspec, ok_bind, hread, ok_bind, raiseIf_neg]
  · rfl
  · rintro ⟨result, hmem, hother⟩
    exact hother (known.owned result hmem).1

theorem replay_succeeds {store : ShadowStore hash} {spec : PairRuntimeSpec hash} {runId : String}
    {taken : List (PairState hash × CycleInput hash)} {p : PairState hash}
    (run : Run (pairStep spec) (pairStart spec) taken p) (hspec : store.loadSpec runId = .ok spec)
    (hresults : store.cycleResults runId = .ok p.results) :
    ∃ digest, deterministicReplayHash store runId = .ok digest := by
  have hreplay : p.results.foldlM (replayCycle spec)
      ⟨initialState spec .champion, initialState spec .challenger, []⟩ = .ok p := replay_run run
  rw [deterministicReplayHash, hspec, ok_bind, hresults, ok_bind, buildInitialShadowState_eq,
    ok_bind, buildInitialShadowState_eq, ok_bind, hreplay]
  exact ⟨_, rfl⟩

theorem StoreInv.replay {store : ShadowStore hash} (inv : StoreInv store) {runId : String}
    {row : RunRow hash} (hfind : store.findRun runId = some row) :
    ∃ digest, deterministicReplayHash store runId = .ok digest := by
  obtain ⟨spec, hrow, taken, p, hrun, hkept⟩ := inv.known _ _ hfind
  obtain rfl : runId = spec.val.runId := (findRun_runId hfind).symm.trans (runRow_runId hrow)
  have hspec : store.loadSpec spec.val.runId = .ok spec := by
    rw [ShadowStore.loadSpec, hfind]
    exact specFromRun_runRow hrow
  exact replay_succeeds hrun hspec (hkept.cycleResults (run_trail hrun) hspec)

theorem storeInv_empty : StoreInv ({} : ShadowStore hash) where
  known _ _ hfind := by cases hfind
  unknown _ _ := ⟨rfl, fun _ => rfl⟩

def samplePair : PairRegistration :=
  let spec := (sampleSpec Hashing.short 100000 sampleCapital_pos).val
  ⟨spec.shadowPairId, spec.challengerId, spec.champion, spec.challenger, spec.executionContract,
    spec.paperParameters, spec.codeVersion, spec.createdAt⟩

def sampleCalls : List (ShadowCall Hashing.short) :=
  let requests := sampleInputs.map fun input =>
    (⟨(sampleSpec Hashing.short 100000 sampleCapital_pos).val.runId, input, none⟩ :
      AppendRequest Hashing.short)
  [.lifecycle [⟨"event", "challenger", 1, .shadowPending, .shadowRunning, "EXPLICIT_SHADOW_START",
      none, "key", "hash", 0⟩], .openRun samplePair] ++ (requests ++ requests.take 1).map .append

end AdaptiveQuant.Shadow
