import AdaptiveQuant.Persistence.ShadowHistory
import AdaptiveQuant.Runtime.ProspectiveShadow

/-! The queue of the prospective bridge over whole histories. -/

namespace AdaptiveQuant.Shadow

open Guard Sequence ArmCycle List

variable {hash : Hashing} {F : Type} [CandidateNumber F]

theorem predates_mem : predates ∈ bookGuards := by decide

theorem operationError_ne (code : String) : operationError code ≠ predates :=
  exception_ne predates_mem (by decide)

theorem shadowError_ne (message : String) : shadowError message ≠ predates :=
  exception_ne predates_mem (by decide)

theorem specFromRun_avoids (run : RunRow hash) : Avoids predates (ShadowStore.specFromRun run) := by
  unfold ShadowStore.specFromRun
  cases run.resultManifest with
  | none => exact avoids_error (shadowError_ne _)
  | some spec => exact .check (shadowError_ne _) (avoids_ok _ _)

theorem loadSpec_avoids (store : ShadowStore hash) (runId : String) :
    Avoids predates (store.loadSpec runId) := by
  unfold ShadowStore.loadSpec
  cases store.findRun runId with
  | none => exact avoids_error (shadowError_ne _)
  | some run => exact specFromRun_avoids run

theorem latestState_avoids (store : ShadowStore hash) (runId armId : String) :
    Avoids predates (store.latestState runId armId) := by
  unfold ShadowStore.latestState
  cases (store.snapshots runId armId).getLast? with
  | none => exact avoids_error (shadowError_ne _)
  | some snapshot => exact .check (shadowError_ne _) (avoids_ok _ _)

theorem assertBoundTo_avoids (response : CandidateResponseFields F) (request : CandidateRequest F) :
    Avoids predates (response.assertBoundTo request) := by
  unfold CandidateResponseFields.assertBoundTo
  refine .check (ne_guard predates_mem (by decide)) ?_
  refine .check (ne_guard predates_mem (by decide)) ?_
  refine Avoids.bind (avoids_foldlM fun gross target _ => ?_) fun gross => ?_
  · unfold addGross
    cases request.constraints.maximumWeightBySymbol.get? target.symbol with
    | none => exact avoids_error (exception_ne predates_mem (by decide))
    | some cap =>
      exact .check (ne_guard predates_mem (by decide)) (avoids_ok _ _)
  · refine .check (ne_guard predates_mem (by decide)) ?_
    exact avoids_raiseIf (ne_guard predates_mem (by decide))

theorem buildShadowTargetDecision_avoids (targetId : String) (spec : PairRuntimeSpec hash)
    (role : ArmRole) (decisionTime signalDataCutoff validUntil : Instant)
    (quoteManifestHash : String) (weights : Dict String Decimal) :
    Avoids predates (buildShadowTargetDecision targetId spec role decisionTime signalDataCutoff
      validUntil quoteManifestHash weights) := by
  have hrecord : ∀ fields, Failure.validation "ShadowTargetDecisionV1" fields ≠ predates :=
    validation_ne predates_mem _
  refine Avoids.bind (avoids_mapM fun item _ => ?_) fun ws => avoids_validate ?_
  · unfold buildTargetWeight
    split
    · exact avoids_ok _ _
    · exact avoids_error (validation_ne predates_mem _ _)
  · refine .check (hrecord _) ?_
    refine .check (hrecord _) ?_
    refine .check (hrecord _) ?_
    refine .check (hrecord _) ?_
    refine .check (hrecord _) ?_
    refine .check (hrecord _) ?_
    exact avoids_raiseIf (hrecord _)

variable (store : ProspectiveStore hash F)

theorem advSource_avoids (market : ProspectiveMarketConfig)
    (evidence : ProspectiveRequestEvidence F) (lookback : ℕ) (symbol : String) :
    Avoids predates (advSource store market evidence lookback symbol) := by
  unfold advSource
  refine .check (operationError_ne _) ?_
  refine .check (operationError_ne _) ?_
  refine Avoids.bind (avoids_mapM fun source _ => ?_) fun volumes => ?_
  · cases store.bars.find? (·.barId = source.barId) with
    | none => exact avoids_error (operationError_ne _)
    | some row => exact .check (operationError_ne _) (avoids_ok _ _)
  · exact .check (operationError_ne _) (avoids_ok _ _)

theorem marketBundle_avoids (config : ProspectiveConfig)
    (spec : PairRuntimeSpec hash) (evidence : ProspectiveRequestEvidence F) (symbols : List String)
    (decisionAvailableAt quoteAsOf : Instant) :
    Avoids predates (marketBundle store config spec evidence symbols decisionAvailableAt
      quoteAsOf) := by
  have hquote : ∀ fields, Failure.validation "ShadowQuoteV1" fields ≠ predates :=
    validation_ne predates_mem _
  have hbundle : ∀ fields, Failure.validation "MatchedQuoteBundleV1" fields ≠ predates :=
    validation_ne predates_mem _
  unfold marketBundle
  refine .check (operationError_ne _) ?_
  refine Avoids.bind (avoids_mapM fun symbol _ => ?_) fun rows => ?_
  · dsimp only
    split
    · exact avoids_error (operationError_ne _)
    · exact avoids_ok _ _
  refine .check (operationError_ne _) ?_
  refine Avoids.bind (avoids_mapM fun symbol _ => advSource_avoids _ _ _ _ _) fun adv => ?_
  refine Avoids.bind (avoids_mapM fun item _ => avoids_validate ?_) fun quotes => ?_
  · refine .check (hquote _) ?_
    exact .check (hquote _) <| avoids_raiseIf (hquote _)
  · refine avoids_validate (.check (hbundle _) ?_)
    refine .check (hbundle _) ?_
    exact .check (hbundle _) <| avoids_raiseIf (hbundle _)

theorem storedEvidence_avoids (spec : PairRuntimeSpecFields)
    (requestId : String) : Avoids predates (storedEvidence store spec requestId) := by
  unfold storedEvidence
  split
  · dsimp only
    split
    · exact avoids_ok _ _
    · exact avoids_error (operationError_ne _)
  · exact avoids_error (operationError_ne _)

theorem buildProspectiveSource_avoids (spec : PairRuntimeSpecFields) (requestId : String)
    (execution : ProspectiveExecutionEvidence hash F) (input : CycleInput hash)
    (decisionAvailableAt recordedAt : Instant) :
    Avoids predates (buildProspectiveSource spec requestId execution input decisionAvailableAt
      recordedAt) := by
  have hrecord : ∀ fields, Failure.validation "ProspectiveShadowCycleSourceV1" fields ≠ predates :=
    validation_ne predates_mem _
  unfold buildProspectiveSource
  refine .check (hrecord _) ?_
  refine .check (hrecord _) ?_
  exact .check (hrecord _) (avoids_ok _ _)

theorem prepare_avoids (config : ProspectiveConfig)
    (now : Instant) (asOf : Option Instant) (runId requestId : String) :
    Avoids predates (prepare store config now asOf runId requestId) := by
  unfold prepare
  refine (loadSpec_avoids _ _).bind fun spec => ?_
  refine .check (operationError_ne _) ?_
  refine (storedEvidence_avoids _ _ _).bind fun stored => ?_
  dsimp only
  split
  · refine (assertBoundTo_avoids _ _).bind fun _ => (assertBoundTo_avoids _ _).bind fun _ => ?_
    refine .check (operationError_ne _) ?_
    refine .check (operationError_ne _) ?_
    refine Avoids.bind ?_ fun challenger => ?_
    · exact .check (operationError_ne _) (avoids_ok _ _)
    refine (latestState_avoids _ _ _).bind fun _ => (latestState_avoids _ _ _).bind fun _ => ?_
    refine .check (operationError_ne _) ?_
    refine (marketBundle_avoids _ _ _ _ _ _ _).bind fun bundle => ?_
    refine (buildShadowTargetDecision_avoids _ _ _ _ _ _ _ _).bind fun _ => ?_
    refine (buildShadowTargetDecision_avoids _ _ _ _ _ _ _ _).bind fun _ => ?_
    exact (buildProspectiveSource_avoids _ _ _ _ _ _).bind fun _ => avoids_ok _ _
  · exact avoids_error (operationError_ne _)

/-- The persisted states of a run are not later than an instant. -/
def SettledBy (store : ShadowStore hash) (runId : String) (time : Instant) : Prop :=
  ∀ snapshot ∈ store.rows.filterMap Row.state?, snapshot.2.val.runId = runId →
    snapshot.2.val.asOf ≤ time

variable {runId : String}

theorem latestState_settled {store : ShadowStore hash} {armId : String} {time : Instant}
    {state : ArmState hash} (settled : SettledBy store runId time)
    (h : store.latestState runId armId = .ok state) : state.val.asOf ≤ time := by
  unfold ShadowStore.latestState at h
  cases hlast : (store.snapshots runId armId).getLast? with
  | none =>
    rw [hlast] at h
    cases h
  | some snapshot =>
    rw [hlast] at h
    simp only [ok_iff] at h
    obtain ⟨u, -, rfl⟩ := h
    have hmem := (sortedBy_perm _ _).mem_iff.mp (mem_of_getLast? hlast)
    rw [mem_filter, decide_eq_true_eq] at hmem
    exact settled snapshot hmem.1 hmem.2.1

theorem checkBinding_avoids {c : ArmCycle hash} (role : ArmRole)
    (decided : c.state.val.asOf ≤ c.target.val.decisionTime)
    (quoted : c.state.val.asOf < c.bundle.val.asOf) : Avoids predates (c.checkBinding role) := by
  unfold ArmCycle.checkBinding
  refine .check (ne_guard predates_mem (by decide)) ?_
  refine Avoids.bind (avoids_raiseIf_self fun _ hearly => ?_) fun _ => ?_
  · rcases hearly with hearly | hearly
    · exact absurd decided (not_le.mpr hearly)
    · exact absurd quoted (not_lt.mpr hearly)
  · exact avoids_raiseIf (ne_guard predates_mem (by decide))

theorem execute_avoids_predates {m : MatchedCycle hash}
    (decided : ∀ role, (m.arm role).state.val.asOf ≤ (m.arm role).target.val.decisionTime)
    (quoted : ∀ role, (m.arm role).state.val.asOf < m.bundle.val.asOf) :
    Avoids predates m.execute := by
  have hvalid : Avoids predates m.validateCommonInputs := by
    unfold MatchedCycle.validateCommonInputs
    refine .check (ne_guard predates_mem (by decide)) ?_
    refine .check (ne_guard predates_mem (by decide)) ?_
    refine .check (ne_guard predates_mem (by decide)) ?_
    refine .check (ne_guard predates_mem (by decide)) ?_
    refine .check (ne_guard predates_mem (by decide)) ?_
    refine .check (ne_guard predates_mem (by decide)) ?_
    refine .check (ne_guard predates_mem (by decide)) ?_
    refine (checkBinding_avoids .champion (decided .champion) (quoted .champion)).bind fun _ => ?_
    exact checkBinding_avoids .challenger (decided .challenger) (quoted .challenger)
  cases hcommon : m.validateCommonInputs with
  | ok u =>
    exact MatchedCycle.execute_avoids predates_mem hcommon fun role => execute_not_predates _
  | error e =>
    rw [hcommon] at hvalid
    rw [MatchedCycle.execute, hcommon]
    exact avoids_error fun heq => hvalid (congrArg _ heq)

theorem requireLifecycleShadowStart_avoids (store : ShadowStore hash) (challengerId : String) :
    Avoids predates (store.requireLifecycleShadowStart challengerId) :=
  .check (shadowError_ne _) <| avoids_raiseIf (shadowError_ne _)

theorem answerStored_avoids (store : ShadowStore hash) (request : AppendRequest hash)
    (existing : EventRow hash) : Avoids predates (answerStored store request existing) := by
  unfold answerStored
  refine Avoids.bind ?_ fun result => ?_
  · cases existing.payload with
    | cycle result => exact avoids_ok _ _
    | source p => exact avoids_error (validation_ne predates_mem _ _)
  refine .check (shadowError_ne _) <| Avoids.bind ?_ fun _ => avoids_ok _ _
  unfold validateExistingProvenance
  refine .check (shadowError_ne _) ?_
  cases request.provenance with
  | none => exact avoids_raiseIf (shadowError_ne _)
  | some p => exact avoids_raiseIf (shadowError_ne _)

theorem newCycleRows_avoids (store : ShadowStore hash) (request : AppendRequest hash)
    (spec : PairRuntimeSpec hash) (result : MatchedCycleResult hash) :
    Avoids predates (newCycleRows store request spec result) := by
  unfold newCycleRows
  cases request.provenance with
  | none => exact avoids_ok _ _
  | some p =>
    refine .check (shadowError_ne _) <| Avoids.bind ?_ fun _ => avoids_ok _ _
    unfold provenanceRows
    cases store.findEvent p.provenanceId with
    | none => exact avoids_ok _ _
    | some event => exact .check (shadowError_ne _) (avoids_ok _ _)

theorem append_avoids {store : ShadowStore hash} {request : AppendRequest hash} {time : Instant}
    (settled : SettledBy store request.runId time)
    (champion : request.input.championTarget.val.decisionTime = time)
    (challenger : request.input.challengerTarget.val.decisionTime = time)
    (quoted : time < request.input.bundle.val.asOf) :
    Avoids predates (appendMatchedCycle store request) := by
  unfold appendMatchedCycle
  cases store.findRun request.runId with
  | none => exact avoids_error (shadowError_ne _)
  | some run =>
    refine (specFromRun_avoids run).bind fun spec => ?_
    refine .check (shadowError_ne _) ?_
    cases store.findEvent request.cycleEventId with
    | some existing => exact (answerStored_avoids _ _ _).bind fun _ => avoids_ok _ _
    | none =>
      refine (requireLifecycleShadowStart_avoids _ _).bind fun _ => ?_
      refine Avoids.bind (avoids_raiseIf (shadowError_ne _)) fun _ => ?_
      refine (latestState_avoids _ _ _).bind_ok fun s hs => ?_
      refine (latestState_avoids _ _ _).bind_ok fun s' hs' => ?_
      have hlater := latestState_settled settled hs
      have hlater' := latestState_settled settled hs'
      refine Avoids.bind (execute_avoids_predates (fun role => ?_) fun role => ?_) fun _ => ?_
      · cases role with
        | champion => exact champion ▸ hlater
        | challenger => exact challenger ▸ hlater'
      · cases role with
        | champion => exact lt_of_le_of_lt hlater quoted
        | challenger => exact lt_of_le_of_lt hlater' quoted
      refine (newCycleRows_avoids _ _ _ _).bind fun added => ?_
      refine Avoids.bind (avoids_foldlM fun rows row _ => ?_) fun _ => avoids_ok _ _
      exact .check (exception_ne predates_mem (by decide)) (avoids_ok _ _)

/-- What a preparation fixes: the evidence it read, and the times and the name of its cycle. -/
structure Prepared (store : ProspectiveStore hash F) (runId requestId : String)
    (quoteAsOf : Instant) (prepared : PreparedCycle hash) (spec : PairRuntimeSpec hash)
    (stored : StoredEvidence hash F) : Prop where
  loaded : store.shadow.loadSpec runId = .ok spec
  evidence : storedEvidence store spec.val requestId = .ok stored
  request : spec.val.createdAt ≤ stored.request.recordedAt
  execution : spec.val.createdAt ≤ stored.execution.recordedAt
  champion : prepared.input.championTarget.val.decisionTime =
    decisionAvailableAt stored.request stored.execution stored.parent
  challenger : prepared.input.challengerTarget.val.decisionTime =
    decisionAvailableAt stored.request stored.execution stored.parent
  quotes : prepared.input.bundle.val.asOf = quoteAsOf
  later : decisionAvailableAt stored.request stored.execution stored.parent < quoteAsOf
  named : prepared.provenance.prospectiveRequestId = requestId

theorem decisionTime_of_build {targetId quoteManifestHash : String} {spec : PairRuntimeSpec hash}
    {role : ArmRole} {decisionTime signalDataCutoff validUntil : Instant}
    {weights : Dict String Decimal} {target : TargetDecision hash}
    (h : buildShadowTargetDecision targetId spec role decisionTime signalDataCutoff validUntil
      quoteManifestHash weights = .ok target) : target.val.decisionTime = decisionTime := by
  simp only [buildShadowTargetDecision, bind_eq_ok, validate_eq_ok] at h
  obtain ⟨ws, -, hval⟩ := h
  rw [hval]
  rfl

variable {config : ProspectiveConfig}

theorem asOf_of_marketBundle {store : ProspectiveStore hash F}
    {spec : PairRuntimeSpec hash} {evidence : ProspectiveRequestEvidence F} {symbols : List String}
    {decisionAvailableAt quoteAsOf : Instant} {bundle : QuoteBundle hash}
    (h : marketBundle store config spec evidence symbols decisionAvailableAt quoteAsOf =
      .ok bundle) : bundle.val.asOf = quoteAsOf := by
  simp only [marketBundle, bind_eq_ok] at h
  obtain ⟨-, -, -, -, -, -, -, -, quotes, -, h⟩ := h
  rw [validate_eq_ok.mp h]

variable {requestId : String}

theorem prepare_eq_ok {store : ProspectiveStore hash F} {now : Instant}
    {asOf : Option Instant} {prepared : PreparedCycle hash}
    (h : prepare store config now asOf runId requestId = .ok prepared) :
    ∃ spec stored, Prepared store runId requestId (asOf.getD now) prepared spec stored := by
  simp only [prepare, bind_eq_ok] at h
  obtain ⟨spec, hspec, u, -, stored, hstored, h⟩ := h
  split at h
  · rename_i primary replay hprimary hreplay
    simp only [ok_iff, not_not, not_or, not_le] at h
    obtain ⟨u', -, u'', -, hbindings, ⟨-, hlater, -⟩, weights, -, state, -, state', -, -, bundle,
      hbundle, champion, hchampion, challenger, hchallenger, source, hsource, rfl⟩ := h
    simp only [BindingsValid] at hbindings
    refine ⟨spec, stored, hspec, hstored, by tauto, by tauto, decisionTime_of_build hchampion,
      decisionTime_of_build hchallenger, asOf_of_marketBundle hbundle, hlater, ?_⟩
    simp only [buildProspectiveSource, ok_iff] at hsource
    obtain ⟨v, -, v', -, v'', -, rfl⟩ := hsource
    rfl
  · cases h

theorem mem_joinedRequests {store : ProspectiveStore hash F} {j : JoinedRequest hash F} :
    j ∈ joinedRequests store ↔ j.request ∈ store.requests ∧ j.execution ∈ store.executions ∧
      j.parent ∈ store.decisions ∧
      j.execution.payload.prospectiveRequestId = j.request.prospectiveRequestId ∧
      j.parent.portfolioDecisionId = j.request.parentPortfolioDecisionId := by
  simp only [joinedRequests, mem_flatMap, mem_filterMap, Option.ite_none_right_eq_some,
    Option.some.injEq]
  constructor
  · rintro ⟨request, hrequest, execution, hexecution, parent, hparent, ⟨hid, hparentId⟩, rfl⟩
    exact ⟨hrequest, hexecution, hparent, hid, hparentId⟩
  · rintro ⟨hrequest, hexecution, hparent, hid, hparentId⟩
    exact ⟨_, hrequest, _, hexecution, _, hparent, ⟨hid, hparentId⟩, rfl⟩

theorem storedEvidence_joined {store : ProspectiveStore hash F} {spec : PairRuntimeSpecFields}
    {stored : StoredEvidence hash F} (h : storedEvidence store spec requestId = .ok stored) :
    (⟨stored.request, stored.execution, stored.parent⟩ : JoinedRequest hash F) ∈
        joinedRequests store ∧ stored.request.prospectiveRequestId = requestId ∧
      stored.execution.payload.status = .succeeded := by
  unfold storedEvidence at h
  split at h
  · rename_i request execution hrequest hexecution
    dsimp only at h
    split at h
    · rename_i parent artifact manifest proposal hparent hartifact hmanifest hproposal
      obtain rfl := Except.ok.inj h
      have hid : request.prospectiveRequestId = requestId := by
        simpa using List.find?_some hrequest
      have hparentId : parent.portfolioDecisionId = request.parentPortfolioDecisionId := by
        simpa using List.find?_some hparent
      have hidentity : execution.successIdentity = some requestId := by
        simpa using List.find?_some hexecution
      rw [ProspectiveExecutionRow.successIdentity, ite_eq_iff] at hidentity
      obtain ⟨hstatus, hsame⟩ | ⟨-, hnone⟩ := hidentity
      · refine ⟨?_, hid, hstatus⟩
        exact mem_joinedRequests.mpr ⟨mem_of_find?_eq_some hrequest,
          mem_of_find?_eq_some hexecution, mem_of_find?_eq_some hparent,
          (Option.some.inj hsame).trans hid.symm, hparentId⟩
      · cases hnone
    · cases h
  · cases h

def JoinedRequest.availableAt (j : JoinedRequest hash F) : Instant :=
  decisionAvailableAt j.request j.execution j.parent

theorem nextEligible_pending {store : ProspectiveStore hash F}
    {instant : Instant} (h : nextEligibleRequestId store runId instant = .ok (some requestId)) :
    ∃ spec j, store.shadow.loadSpec runId = .ok spec ∧ j ∈ joinedRequests store ∧
      Pending store runId spec.val j ∧ j.request.prospectiveRequestId = requestId := by
  simp only [nextEligibleRequestId, ok_iff, Option.map_eq_some_iff] at h
  obtain ⟨spec, hspec, j, hhead, hid⟩ := h
  have hmem := (sortedBy_perm _ _).mem_iff.mp (mem_of_head? hhead)
  simp only [mem_filter, decide_eq_true_eq] at hmem
  exact ⟨spec, j, hspec, hmem.1, hmem.2.1, hid⟩

/-- The calls that change the tables. -/
inductive QueueCall (hash : Hashing) (F : Type) [CandidateNumber F]
  | shadow (call : ShadowCall hash)
  | commit (config : ProspectiveConfig) (now : Instant) (asOf : Option Instant)
      (runId requestId : String)
  | storeDecision (row : ParentDecisionRow)
  | storeRequest (row : ProspectiveRequestRow F)
  | storeExecution (row : ProspectiveExecutionRow hash F)
  | evidence (artifacts : List CandidateArtifactRow) (manifests : List ChallengerManifestRow)
      (proposals : List AlgorithmProposalRow)
  | market (streams : List MarketStreamStatus) (quotes : List MarketQuoteRow)
      (bars : List MarketBarRow)

def integrityError (message : String) : Failure := ⟨.integrityError, message, []⟩

def queueStep :
    QueueCall hash F → Except Failure (ProspectiveStore hash F)
  | .shadow call => (fun shadow => { store with shadow := shadow }) <$> shadowStep store.shadow call
  | .commit config now asOf runId requestId =>
    (·.2) <$> commit store config now asOf runId requestId
  | .storeDecision row => do
    raiseIf (∃ stored ∈ store.decisions, stored.portfolioDecisionId = row.portfolioDecisionId)
      (integrityError "UNIQUE constraint failed")
    return { store with decisions := store.decisions ++ [row] }
  | .storeRequest row => do
    raiseIf (∃ stored ∈ store.requests, stored.prospectiveRequestId = row.prospectiveRequestId)
      (integrityError "UNIQUE constraint failed")
    raiseIf (¬∃ parent ∈ store.decisions,
        parent.portfolioDecisionId = row.parentPortfolioDecisionId)
      (integrityError "FOREIGN KEY constraint failed")
    return { store with requests := store.requests ++ [row] }
  | .storeExecution row => do
    raiseIf (∃ stored ∈ store.executions, stored.payload.executionId = row.payload.executionId ∨
        stored.successIdentity ≠ none ∧ stored.successIdentity = row.successIdentity)
      (integrityError "UNIQUE constraint failed")
    raiseIf (¬∃ request ∈ store.requests,
        request.prospectiveRequestId = row.payload.prospectiveRequestId)
      (integrityError "FOREIGN KEY constraint failed")
    return { store with executions := store.executions ++ [row] }
  | .evidence artifacts manifests proposals =>
    .ok { store with artifacts := artifacts, manifests := manifests, proposals := proposals }
  | .market streams quotes bars =>
    .ok { store with streams := streams, quotes := quotes, bars := bars }

def NoneEarlier (runId : String) (committed : Option String)
    (time : Instant) : Prop :=
  ∀ spec ∈ (store.shadow.loadSpec runId).toOption, ∀ j ∈ joinedRequests store,
    Pending store runId spec.val j → committed ≠ some j.request.prospectiveRequestId →
    time ≤ j.availableAt

instance (store : ProspectiveStore hash F) (runId : String) (committed : Option String)
    (time : Instant) : Decidable (NoneEarlier store runId committed time) := by
  unfold NoneEarlier; infer_instance

/-- A cycle is appended when no other request waits that was available before its quotes, and an
execution is recorded when no state is later. -/
def Orderly : QueueCall hash F → Prop
  | .shadow (.append request) => NoneEarlier store request.runId
      (request.provenance.map (·.prospectiveRequestId)) request.input.bundle.val.asOf
  | .commit _ now asOf runId requestId => NoneEarlier store runId (some requestId) (asOf.getD now)
  | .storeExecution row => ∀ snapshot ∈ store.shadow.rows.filterMap Row.state?,
      snapshot.2.val.asOf ≤ row.recordedAt
  | .shadow (.openRun _) | .shadow (.lifecycle _) | .storeDecision _ | .storeRequest _
  | .evidence .. | .market .. => True

instance (store : ProspectiveStore hash F) (call : QueueCall hash F) :
    Decidable (Orderly store call) := by
  unfold Orderly; split <;> infer_instance

structure QueueInv (store : ProspectiveStore hash F) : Prop where
  shadow : StoreInv store.shadow
  requests : (store.requests.map (·.prospectiveRequestId)).Nodup
  parents : ∀ request ∈ store.requests, ∃ parent ∈ store.decisions,
    parent.portfolioDecisionId = request.parentPortfolioDecisionId
  executions : ∀ execution ∈ store.executions, ∃ request ∈ store.requests,
    request.prospectiveRequestId = execution.payload.prospectiveRequestId
  ready : ∀ runId spec, store.shadow.loadSpec runId = .ok spec → ∀ j ∈ joinedRequests store,
    Pending store runId spec.val j → SettledBy store.shadow runId j.availableAt

theorem loadSpec_runId {store : ShadowStore hash} (inv : StoreInv store)
    {spec : PairRuntimeSpec hash} (h : store.loadSpec runId = .ok spec) :
    spec.val.runId = runId := by
  unfold ShadowStore.loadSpec at h
  cases hfind : store.findRun runId with
  | none =>
    rw [hfind] at h
    cases h
  | some run =>
    rw [hfind] at h
    obtain ⟨spec', hrow, -⟩ := inv.known _ _ hfind
    obtain rfl : spec = spec' := Except.ok.inj (h.symm.trans (specFromRun_runRow hrow))
    rw [← runRow_runId hrow, findRun_runId hfind]

theorem commit_avoids {store : ProspectiveStore hash F} (inv : QueueInv store) {instant : Instant}
    (head : nextEligibleRequestId store runId instant = .ok (some requestId))
    (config : ProspectiveConfig) (now : Instant) (asOf : Option Instant) :
    Avoids predates (commit store config now asOf runId requestId) := by
  refine (prepare_avoids _ _ _ _ _ _).bind_ok fun prepared hprepared => ?_
  obtain ⟨spec, stored, facts⟩ := prepare_eq_ok hprepared
  obtain ⟨spec', j, hspec, hj, hpending, hid⟩ := nextEligible_pending head
  obtain rfl : spec = spec' := Except.ok.inj (facts.loaded.symm.trans hspec)
  obtain ⟨hjoined, hstoredId, hstatus⟩ := storedEvidence_joined facts.evidence
  have hsame : stored.request = j.request :=
    inj_on_of_nodup_map inv.requests (mem_joinedRequests.mp hjoined).1
      (mem_joinedRequests.mp hj).1 (hstoredId.trans hid.symm)
  -- the evidence that was read waits as the head does
  have hwaits : Pending store runId spec.val ⟨stored.request, stored.execution, stored.parent⟩ :=
    ⟨by rw [hsame]; exact hpending.1, facts.request, facts.execution, hstatus,
      by rw [hsame]; exact hpending.2.2.2.2⟩
  have hsettled := inv.ready runId spec hspec _ hjoined hwaits
  refine Avoids.bind_ok ?_ fun answer hanswer => ?_
  · exact append_avoids hsettled facts.champion facts.challenger
      (lt_of_lt_of_eq facts.later facts.quotes.symm)
  · -- the replay of the run succeeds
    obtain ⟨result, shadow⟩ := answer
    have hstep : shadowStep store.shadow
        (.append ⟨runId, prepared.input, some prepared.provenance⟩) = .ok shadow :=
      map_eq_ok.mpr ⟨_, hanswer, rfl⟩
    obtain ⟨run, -, hfind, -⟩ := append_cases hanswer
    obtain ⟨added, hrows⟩ := shadowStep_rows hstep
    have hfind' : shadow.findRun runId = some run := by
      rw [findRun_append hrows, hfind, Option.some_or]
    obtain ⟨digest, hdigest⟩ := (shadowStep_inv inv.shadow hstep).replay hfind'
    refine Avoids.bind ?_ fun _ => avoids_ok _ _
    rw [hdigest]
    exact avoids_ok _ _

section Shadow

variable {store : ProspectiveStore hash F} {shadow : ShadowStore hash} {added : List (Row hash)}

theorem pending_of_append (hrows : shadow.rows = store.shadow.rows ++ added) {runId : String}
    {spec j} (h : Pending { store with shadow := shadow } runId spec j) :
    Pending store runId spec j := by
  obtain ⟨hchallenger, hrequest, hexecution, hstatus, hopen⟩ := h
  refine ⟨hchallenger, hrequest, hexecution, hstatus, fun hcommitted => hopen ?_⟩
  obtain ⟨event, hevent, hnames⟩ := hcommitted
  refine ⟨event, ?_, hnames⟩
  show event ∈ shadow.rows.filterMap Row.event?
  rw [hrows, filterMap_append]
  exact mem_append_left _ hevent

variable {result : MatchedCycleResult hash}

theorem Appended.settled {old request spec} (h : Appended old request spec result shadow) :
    ∃ added, shadow.rows = old.rows ++ added ∧
      added.filterMap Row.run? = [] ∧
      (∀ snapshot ∈ added.filterMap Row.state?, snapshot.2.val.runId = spec.val.runId ∧
        snapshot.2.val.asOf = request.input.bundle.val.asOf) ∧
      ∀ p, request.provenance = some p → ∃ event ∈ shadow.rows.filterMap Row.event?,
        event.aggregateType = .prospectiveShadowSource ∧ event.aggregateId = p.runId ∧
        event.correlationId = p.prospectiveRequestId := by
  obtain ⟨-, hsource⟩ := h.findEvent
  obtain ⟨-, ⟨champion, challenger, -, -, hexecute⟩, added, hadded, hinsert⟩ := h
  obtain ⟨hrows, -, -⟩ := insertRows_eq_ok.mp hinsert
  obtain ⟨sources, -, rfl⟩ := newCycleRows_eq_ok hadded
  have hreads := cycleReads spec request.input.bundle sources (cycleEvent request spec.val result)
    result.val
  obtain ⟨hvalid, harms, -⟩ := MatchedCycle.execute_eq_ok hexecute
  have hnext : ∀ role, (result.val.arm role).nextState.val.runId = spec.val.runId ∧
      (result.val.arm role).nextState.val.asOf = request.input.bundle.val.asOf := by
    intro role
    obtain ⟨-, hasOf, hrunId, -⟩ := ArmCycle.execute_next (harms role)
    have hbound := (ArmCycle.bound_of_checkBinding
      (MatchedCycle.checkBinding_of_valid hvalid role)).1.1
    refine ⟨hrunId.trans (hbound.trans ?_), hasOf.trans ?_⟩
    · cases role <;> rfl
    · cases role <;> rfl
  refine ⟨_, hrows, hreads.runs, ?_, fun p hp => ?_⟩
  · rw [hreads.states]
    intro snapshot hsnapshot
    simp only [mem_cons, not_mem_nil, or_false] at hsnapshot
    rcases hsnapshot with rfl | rfl
    · exact hnext .champion
    · exact hnext .challenger
  · obtain ⟨source, hfound, htype, hrun, -, -, -, hnames⟩ := hsource p hp
    exact ⟨source, mem_of_find?_eq_some hfound, htype, hrun, hnames⟩

theorem loadSpec_append (hrows : shadow.rows = store.shadow.rows ++ added)
    (hruns : added.filterMap Row.run? = []) (runId : String) :
    shadow.loadSpec runId = store.shadow.loadSpec runId := by
  unfold ShadowStore.loadSpec
  rw [findRun_append hrows, hruns, List.find?_nil, Option.or_none]

theorem append_ready (inv : QueueInv store) {request : AppendRequest hash}
    {spec : PairRuntimeSpec hash} (hload : store.shadow.loadSpec request.runId = .ok spec)
    (hbound : ∀ p, request.provenance = some p → p.runId = spec.val.runId)
    (h : Appended store.shadow request spec result shadow)
    (orderly : Orderly store (.shadow (.append request))) :
    ∀ runId spec, shadow.loadSpec runId = .ok spec → ∀ j ∈ joinedRequests store,
      Pending { store with shadow := shadow } runId spec.val j →
      SettledBy shadow runId j.availableAt := by
  obtain ⟨added, hrows, hruns, hstates, hnamed⟩ := h.settled
  have hrunId := loadSpec_runId inv.shadow hload
  intro runId spec' hload' j hj hpending snapshot hsnapshot howned
  rw [loadSpec_append hrows hruns] at hload'
  have hbefore := pending_of_append hrows hpending
  rw [hrows, filterMap_append, mem_append] at hsnapshot
  rcases hsnapshot with hsnapshot | hsnapshot
  · exact inv.ready runId spec' hload' j hj hbefore snapshot hsnapshot howned
  · obtain ⟨hsame, hasOf⟩ := hstates snapshot hsnapshot
    obtain rfl : runId = request.runId := by rw [← howned, hsame, hrunId]
    obtain rfl : spec' = spec := Except.ok.inj (hload'.symm.trans hload)
    rw [hasOf]
    refine orderly spec' (by rw [hload]; rfl) j hj hbefore fun hcommitted => ?_
    -- the request of this very cycle waits no longer
    obtain ⟨p, hp, hid⟩ := Option.map_eq_some_iff.mp hcommitted
    obtain ⟨event, hevent, htype, hrun, hnames⟩ := hnamed p hp
    refine hpending.2.2.2.2 ⟨event, hevent, htype, ?_, hnames.trans hid⟩
    rw [hrun, hbound p hp, hrunId]

theorem initialize_ready (inv : QueueInv store) {spec} (h : Initialized store.shadow spec shadow) :
    ∀ runId spec, shadow.loadSpec runId = .ok spec → ∀ j ∈ joinedRequests store,
      Pending { store with shadow := shadow } runId spec.val j →
      SettledBy shadow runId j.availableAt := by
  obtain ⟨added, hrows, hruns, hstates, -⟩ := h.reads
  obtain ⟨row, hrun, hrow⟩ := map_eq_singleton_iff.mp hruns
  have hfresh : ∀ snapshot ∈ added.filterMap Row.state?,
      snapshot.2.val.runId = spec.val.runId ∧ snapshot.2.val.asOf = spec.val.createdAt := by
    rw [hstates]
    intro snapshot hsnapshot
    simp only [mem_cons, not_mem_nil, or_false] at hsnapshot
    rcases hsnapshot with rfl | rfl <;> exact ⟨rfl, rfl⟩
  intro runId spec' hload j hj hpending snapshot hsnapshot howned
  rw [hrows, filterMap_append, mem_append] at hsnapshot
  have hfind := findRun_append hrows runId
  rw [hrun] at hfind
  by_cases hnew : runId = spec.val.runId
  · subst hnew
    rw [h.unknown, Option.none_or, List.find?_cons_of_pos (by simp [runRow_runId hrow])] at hfind
    rw [ShadowStore.loadSpec, hfind] at hload
    obtain rfl : spec = spec' := Except.ok.inj ((specFromRun_runRow hrow).symm.trans hload)
    rcases hsnapshot with hsnapshot | hsnapshot
    · -- the store had no states of an unknown run
      have hnone := (inv.shadow.unknown _ h.unknown).2 snapshot.2.val.armId
      rw [stateRows, filter_eq_nil_iff] at hnone
      exact absurd (by simpa using howned) (hnone snapshot hsnapshot)
    · rw [(hfresh snapshot hsnapshot).2]
      exact hpending.2.1.trans ((le_max_left _ _).trans (le_max_left _ _))
  · have hskip : [row].find? (·.runId = runId) = none := by
      simpa [runRow_runId hrow] using fun heq => hnew heq.symm
    rw [hskip, Option.or_none] at hfind
    rcases hsnapshot with hsnapshot | hsnapshot
    · refine inv.ready runId spec' ?_ j hj (pending_of_append hrows hpending) snapshot hsnapshot
        howned
      rw [← hload, ShadowStore.loadSpec, ShadowStore.loadSpec, hfind]
    · exact absurd (howned.symm.trans (hfresh snapshot hsnapshot).1) hnew

theorem newCycleRows_bound {old request spec p}
    (h : newCycleRows old request spec result = .ok added) (hp : request.provenance = some p) :
    p.runId = spec.val.runId := by
  unfold newCycleRows at h
  rw [hp] at h
  simp only [ok_iff, not_not] at h
  exact h.1.1

theorem QueueInv.shadowStep (inv : QueueInv store) {call} (orderly : Orderly store (.shadow call))
    (h : Shadow.shadowStep store.shadow call = .ok shadow) :
    QueueInv { store with shadow := shadow } := by
  refine ⟨shadowStep_inv inv.shadow h, inv.requests, inv.parents, inv.executions, ?_⟩
  cases call with
  | openRun pair =>
    obtain ⟨⟨spec, _⟩, hok, rfl⟩ := map_eq_ok.mp h
    rcases initialize_cases hok with rfl | hnew
    · exact inv.ready
    · have hready := initialize_ready inv hnew
      exact hready
  | append request =>
    obtain ⟨⟨result, _⟩, hok, rfl⟩ := map_eq_ok.mp h
    obtain ⟨run, spec, hfind, hspec, -, ⟨rfl, -⟩ | hnew⟩ := append_cases hok
    · exact inv.ready
    · have hload : store.shadow.loadSpec request.runId = .ok spec := by
        rw [ShadowStore.loadSpec, hfind]
        exact hspec
      obtain ⟨added, hadded, -⟩ := hnew.rows
      have hready := append_ready inv hload (fun p hp => newCycleRows_bound hadded hp) hnew orderly
      exact hready
  | lifecycle events =>
    obtain rfl := Except.ok.inj h
    exact inv.ready

end Shadow

variable {store' : ProspectiveStore hash F}

theorem commit_cases {store : ProspectiveStore hash F} {now : Instant} {asOf : Option Instant}
    (orderly : Orderly store (.commit config now asOf runId requestId))
    (h : queueStep store (.commit config now asOf runId requestId) = .ok store') :
    ∃ call shadow, Orderly store (.shadow call) ∧ shadowStep store.shadow call = .ok shadow ∧
      store' = { store with shadow := shadow } := by
  obtain ⟨⟨committed, _⟩, hcommit, rfl⟩ := map_eq_ok.mp h
  simp only [commit, ok_iff, Prod.mk.injEq] at hcommit
  obtain ⟨prepared, hprepared, ⟨cycle, shadow⟩, happend, digest, -, -, rfl⟩ := hcommit
  obtain ⟨spec, stored, facts⟩ := prepare_eq_ok hprepared
  refine ⟨.append ⟨runId, prepared.input, some prepared.provenance⟩, shadow, ?_,
    map_eq_ok.mpr ⟨_, happend, rfl⟩, rfl⟩
  show NoneEarlier store runId (some prepared.provenance.prospectiveRequestId)
    prepared.input.bundle.val.asOf
  rw [facts.named, facts.quotes]
  exact orderly

theorem storeDecision_inv {store : ProspectiveStore hash F} {row : ParentDecisionRow}
    (inv : QueueInv store) (h : queueStep store (.storeDecision row) = .ok store') :
    QueueInv store' := by
  simp only [queueStep, ok_iff] at h
  obtain ⟨hfresh, rfl⟩ := h
  refine ⟨inv.shadow, inv.requests, fun request hrequest => ?_, inv.executions, ?_⟩
  · obtain ⟨parent, hparent, hid⟩ := inv.parents request hrequest
    exact ⟨parent, mem_append_left _ hparent, hid⟩
  intro runId spec hload j hj
  obtain ⟨hrequest, hexecution, hparent, hid, hparentId⟩ := mem_joinedRequests.mp hj
  rcases mem_append.mp hparent with hparent | hparent
  · exact inv.ready runId spec hload j
      (mem_joinedRequests.mpr ⟨hrequest, hexecution, hparent, hid, hparentId⟩)
  · -- the parent of a stored request was there before
    obtain ⟨parent, hold, hsame⟩ := inv.parents j.request hrequest
    rw [mem_singleton.mp hparent] at hparentId
    exact absurd ⟨parent, hold, hsame.trans hparentId.symm⟩ hfresh

theorem storeRequest_inv {store : ProspectiveStore hash F} {row : ProspectiveRequestRow F}
    (inv : QueueInv store) (h : queueStep store (.storeRequest row) = .ok store') :
    QueueInv store' := by
  simp only [queueStep, ok_iff, not_not] at h
  obtain ⟨hfresh, hparent, rfl⟩ := h
  refine ⟨inv.shadow, ?_, fun request hrequest => ?_, fun execution hexecution => ?_, ?_⟩
  · show ((store.requests ++ [row]).map (·.prospectiveRequestId)).Nodup
    rw [map_append, map_singleton]
    refine List.Nodup.append inv.requests (nodup_singleton _) fun id hid hrow => hfresh ?_
    obtain ⟨stored, hstored, rfl⟩ := mem_map.mp hid
    exact ⟨stored, hstored, mem_singleton.mp hrow⟩
  · rcases mem_append.mp hrequest with hrequest | hrequest
    · exact inv.parents request hrequest
    · rw [mem_singleton.mp hrequest]
      exact hparent
  · obtain ⟨request, hrequest, hid⟩ := inv.executions execution hexecution
    exact ⟨request, mem_append_left _ hrequest, hid⟩
  intro runId spec hload j hj
  obtain ⟨hrequest, hexecution, hparent', hid, hparentId⟩ := mem_joinedRequests.mp hj
  rcases mem_append.mp hrequest with hrequest | hrequest
  · exact inv.ready runId spec hload j
      (mem_joinedRequests.mpr ⟨hrequest, hexecution, hparent', hid, hparentId⟩)
  · -- the request of a stored execution was there before
    obtain ⟨request, hold, hsame⟩ := inv.executions j.execution hexecution
    rw [mem_singleton.mp hrequest] at hid
    exact absurd ⟨request, hold, hsame.trans hid⟩ hfresh

theorem storeExecution_inv {store : ProspectiveStore hash F} {row : ProspectiveExecutionRow hash F}
    (inv : QueueInv store) (orderly : Orderly store (.storeExecution row))
    (h : queueStep store (.storeExecution row) = .ok store') : QueueInv store' := by
  simp only [queueStep, ok_iff, not_not] at h
  obtain ⟨-, hknown, rfl⟩ := h
  refine ⟨inv.shadow, inv.requests, inv.parents, fun execution hexecution => ?_, ?_⟩
  · rcases mem_append.mp hexecution with hexecution | hexecution
    · exact inv.executions execution hexecution
    · rw [mem_singleton.mp hexecution]
      exact hknown
  intro runId spec hload j hj hpending
  obtain ⟨hrequest, hexecution, hparent, hid, hparentId⟩ := mem_joinedRequests.mp hj
  rcases mem_append.mp hexecution with hexecution | hexecution
  · exact inv.ready runId spec hload j
      (mem_joinedRequests.mpr ⟨hrequest, hexecution, hparent, hid, hparentId⟩) hpending
  · -- what is recorded now is available only now
    intro snapshot hsnapshot _
    have hlater := orderly snapshot hsnapshot
    rw [← mem_singleton.mp hexecution] at hlater
    exact hlater.trans ((le_max_right _ _).trans (le_max_left _ _))

theorem queueStep_inv {store : ProspectiveStore hash F} {call : QueueCall hash F}
    (inv : QueueInv store) (orderly : Orderly store call) (h : queueStep store call = .ok store') :
    QueueInv store' := by
  cases call with
  | shadow call =>
    obtain ⟨shadow, hstep, rfl⟩ := map_eq_ok.mp h
    exact inv.shadowStep orderly hstep
  | commit config now asOf runId requestId =>
    obtain ⟨call, shadow, hcall, hstep, rfl⟩ := commit_cases orderly h
    exact inv.shadowStep hcall hstep
  | storeDecision row => exact storeDecision_inv inv h
  | storeRequest row => exact storeRequest_inv inv h
  | storeExecution row => exact storeExecution_inv inv orderly h
  | evidence artifacts manifests proposals =>
    obtain rfl := Except.ok.inj h
    exact ⟨inv.shadow, inv.requests, inv.parents, inv.executions, inv.ready⟩
  | market streams quotes bars =>
    obtain rfl := Except.ok.inj h
    exact ⟨inv.shadow, inv.requests, inv.parents, inv.executions, inv.ready⟩

theorem queueInv_empty : QueueInv ({} : ProspectiveStore hash F) where
  shadow := storeInv_empty
  requests := nodup_nil
  parents _ hmem := absurd hmem not_mem_nil
  executions _ hmem := absurd hmem not_mem_nil
  ready _ _ hload := by cases hload

/-- After any orderly calls, the request at the head of the queue is never refused for being earlier
than the states of the arms. -/
theorem queue_head_commits {calls : List (ProspectiveStore hash F × QueueCall hash F)}
    {store : ProspectiveStore hash F} (run : Run queueStep {} calls store)
    (orderly : ∀ x ∈ calls, Orderly x.1 x.2) {runId requestId : String} {instant : Instant}
    (head : nextEligibleRequestId store runId instant = .ok (some requestId))
    (config : ProspectiveConfig) (now : Instant) (asOf : Option Instant) :
    commit store config now asOf runId requestId ≠ .error predates :=
  commit_avoids (run.inv_when queueInv_empty (fun _ _ _ => queueStep_inv) orderly) head config now
    asOf

def queueConfig : ProspectiveConfig where
  strategyId := "core"
  strategyVersion := "v2"
  referenceUniverse := ["SPY"]
  strategyConfigContentSha256 := "config-content"
  marketData := ⟨"provider", "feed", "1Day", "all", "dataset"⟩
  manifestHash := "host-config"

def queueRequest (id : String) : CandidateRequest ℚ where
  requestId := id
  challengerId := "challenger"
  candidateArtifactHash := "artifact-b"
  strategyId := "core"
  strategyVersion := "v2"
  decisionTime := 0
  signalDataCutoff := 0
  instruments := ["SPY"]
  constraints :=
    { sampleConstraints with
      maximumWeightBySymbol := ⟨[("SPY", 1)], by decide⟩
      caps := by simp [Dict.values] }
  requestHash := id
  cutoff_le := sampleRequest.cutoff_le
  nonempty := by decide
  sorted := by decide
  caps_universe := rfl

/-- The response that holds half of the book in `SPY`. -/
def queueResponse (id : String) : CandidateResponseFields ℚ :=
  let response : CandidateResponseFields ℚ :=
    ⟨id, id, "challenger", "artifact-b", [⟨"SPY", 1, 1 / 2⟩], .nil, ""⟩
  { response with outputHash := Hashing.short.canonicalHash response.payload }

def queueBars : List ProspectiveSourceBar :=
  (List.range 20).map fun n => ⟨toString n, "SPY", (n : ℤ) - 20, 0, 0, "bar"⟩

def queueDecision (id : String) : StrategyDecisionFields where
  versions := ⟨"config", "code", "model", "source"⟩
  algorithmVersion := "q1_math_core_v1"
  portfolioDecisionId := id
  runId := "parent-run"
  armId := .q1Det
  decisionKind := "STRATEGIC_TARGET"
  scheduledAt := 0
  signalDataCutoff := 0
  portfolioStateAsOf := 0
  quoteAsOf := 0
  decisionCreatedAt := 0
  validUntil := 100
  inputManifest := ⟨⟨"config", "code", "model", "source"⟩, "session", [], [], "manifest"⟩
  targetWeights := ⟨[("SPY", 1 / 2), (usdCash, 1 / 2)], by decide⟩
  decisionHash := "hash"

def queueRequestRow (id decisionId : String) (scheduled : Instant) : ProspectiveRequestRow ℚ :=
  ⟨id, "challenger", "bundle", decisionId, scheduled, id, id, 1,
    ⟨"challenger", "artifact-b", "config-b", "config-content", "parent-run", decisionId,
      ⟨"hash", "manifest", "host-config", "dataset", queueBars, "sources"⟩, queueRequest id, id⟩⟩

def queueExecutionRow (id : String) (response : CandidateResponse Hashing.short ℚ)
    (recordedAt : Instant) : ProspectiveExecutionRow Hashing.short ℚ :=
  ⟨recordedAt, ⟨id ++ "-run", id, .succeeded, "attestation", "security", some response,
    some response, true, id ++ "-hash"⟩⟩

def queueQuote (id : String) (time : Instant) : MarketQuoteRow :=
  ⟨id, "provider", "feed", "SPY", time, time, 49998 / 100, 50002 / 100, 5000, 5000, "quote-hash"⟩

def queueFirst (recordedAt : Instant) : QueueCall Hashing.short ℚ :=
  .storeExecution (queueExecutionRow "request-1" ⟨queueResponse "request-1", by decide +kernel⟩
    recordedAt)

def queueSecond (recordedAt : Instant) : QueueCall Hashing.short ℚ :=
  .storeExecution (queueExecutionRow "request-2" ⟨queueResponse "request-2", by decide +kernel⟩
    recordedAt)

def queueRunId : String := (sampleSpec Hashing.short 100000 sampleCapital_pos).val.runId

def queueSetup : List (QueueCall Hashing.short ℚ) :=
  [.shadow (.lifecycle [⟨"event", "challenger", 1, .shadowPending, .shadowRunning,
      "EXPLICIT_SHADOW_START", none, "key", "hash", 0⟩]), .shadow (.openRun samplePair),
    .storeDecision ⟨"decision-1", 100, "hash", ⟨queueDecision "decision-1", by decide +kernel⟩⟩,
    .storeDecision ⟨"decision-2", 100, "hash", ⟨queueDecision "decision-2", by decide +kernel⟩⟩,
    .storeRequest (queueRequestRow "request-1" "decision-1" 0),
    .storeRequest (queueRequestRow "request-2" "decision-2" 1),
    .evidence [⟨"bundle", "challenger", "artifact-b", "config-b", false⟩]
      [⟨"challenger", "proposal", "core", "v2", "config-b"⟩] [⟨"proposal", "core", "v1"⟩],
    .market [⟨"provider", "feed", "CONNECTED"⟩] [queueQuote "quote-1" 5, queueQuote "quote-2" 15]
      (queueBars.map fun bar => ⟨bar.barId, "SPY", "provider", "feed", "1Day", 0, 0, 1000000, "bar",
        some "all", some "dataset"⟩)]

/-- The first request is committed at 10, in a queue that may hold the second one. -/
def queueCommit : QueueCall Hashing.short ℚ :=
  .commit queueConfig 10 none queueRunId "request-1"

/-- The second execution is recorded after the first request was committed, and its request can be
committed. -/
theorem queueSecond_commits : ∃ calls store,
    calls.map (·.2) = queueSetup ++ [queueFirst 2, queueCommit, queueSecond 12] ∧
      Run queueStep {} calls store ∧
      nextEligibleRequestId store queueRunId 20 = .ok (some "request-2") ∧
      (commit store queueConfig 20 none queueRunId "request-2").isOk ∧
      commit store queueConfig 20 none queueRunId "request-2" ≠ .error predates := by
  have heval : ((queueSetup ++ [queueFirst 2, queueCommit, queueSecond 12]).foldlM
      (fun store call => if Orderly store call then queueStep store call
        else .error (operationError "")) {}).toOption.any (fun store =>
      decide (nextEligibleRequestId store queueRunId 20 = .ok (some "request-2")) &&
        (commit store queueConfig 20 none queueRunId "request-2").isOk) = true := by
    decide +kernel
  obtain ⟨store, hstore, htest⟩ := exists_of_any heval
  obtain ⟨hhead, hcommit⟩ := Bool.and_eq_true_iff.mp htest
  obtain ⟨calls, hcalls, run, horderly⟩ := Run.of_guarded hstore
  rw [decide_eq_true_eq] at hhead
  exact ⟨calls, store, hcalls, run, hhead, hcommit,
    queue_head_commits run horderly hhead queueConfig 20 none⟩

/-- Both executions are recorded before the first request is committed at 10. -/
theorem queueSecond_blocked : ∃ calls store,
    calls.map (·.2) = queueSetup ++ [queueFirst 2, queueSecond 3, queueCommit] ∧
      Run queueStep {} calls store ∧
      nextEligibleRequestId store queueRunId 20 = .ok (some "request-2") ∧
      (prepare store queueConfig 20 none queueRunId "request-2").isOk ∧
      commit store queueConfig 20 none queueRunId "request-2" = .error predates := by
  have heval : ((queueSetup ++ [queueFirst 2, queueSecond 3, queueCommit]).foldlM queueStep
      {}).toOption.any (fun store =>
      decide (nextEligibleRequestId store queueRunId 20 = .ok (some "request-2")) &&
        ((prepare store queueConfig 20 none queueRunId "request-2").isOk &&
          decide (failure? (commit store queueConfig 20 none queueRunId "request-2") =
            some predates))) = true := by
    decide +kernel
  obtain ⟨store, hstore, htest⟩ := exists_of_any heval
  obtain ⟨hhead, htest⟩ := Bool.and_eq_true_iff.mp htest
  obtain ⟨hprepare, hcommit⟩ := Bool.and_eq_true_iff.mp htest
  obtain ⟨calls, hcalls, run⟩ := Run.of_foldlM hstore
  rw [decide_eq_true_eq] at hhead hcommit
  exact ⟨calls, store, hcalls, run, hhead, hprepare, failure?_eq_some.mp hcommit⟩

end AdaptiveQuant.Shadow
