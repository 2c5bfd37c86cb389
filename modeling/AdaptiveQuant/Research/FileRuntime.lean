import AdaptiveQuant.Research.Host

/-! The import of a decision, `import_decision` of `research/file_runtime.py`. -/

namespace AdaptiveQuant.ResearchPlane

open Guard List

/-- The four files of one import. -/
structure DecisionImport where
  request : ResearchRequest
  decision : ResearchDecision
  catalog : AvailableDataCatalog
  evidence : EvidenceBundle
deriving DecidableEq

section Import

variable (hash : Hashing)

/-- A transaction: it commits its tables or raises an exception and leaves them. -/
def transaction {α : Type} (f : CycleStore → Except Failure (α × CycleStore)) :
    Effect CycleStore Failure α := fun store =>
  match f store with
  | .ok (a, store') => (.ok a, store')
  | .error e => (.error e, store)

def requireCatalogBinding (request : ResearchRequest) (catalog : AvailableDataCatalog) :
    Except Failure Unit :=
  raiseIf (request.availableDataCatalogHash ≠ catalog.canonicalHash)
    (fileRuntimeError "catalog differs from the version bound to the Research request")

def requireEvidenceBinding (request : ResearchRequest) (evidence : EvidenceBundle) :
    Except Failure Unit := do
  raiseIf (evidence.researchCycleId ≠ request.researchCycleId)
    (fileRuntimeError "evidence belongs to another Research cycle")
  raiseIf (evidence.canonicalHash ∉ request.evidenceBundleHashes)
    (fileRuntimeError "evidence hash is not bound to the Research request")

/-- What both `accept_decision` and `accept_decision_v2` of the host check of the evidence. -/
def hostEvidenceBinding (request : ResearchRequest) (evidence : EvidenceBundle) :
    Except Failure Unit := do
  raiseIf (evidence.researchCycleId ≠ request.researchCycleId)
    (hostError "evidence bundle belongs to another cycle")
  raiseIf (evidence.canonicalHash ∉ request.evidenceBundleHashes)
    (hostError "Commander request does not bind the supplied evidence bundle")

variable (files : DecisionImport)

def hostProposalChecks (proposal : AlgorithmProposal) :
    Except Failure Unit := do
  validateProposalAgainstCatalog proposal files.catalog (files.evidence.sources.map (·.sourceId))
    files.request
  requireShadowExecutionSupport proposal files.catalog

def hostChecks : Except Failure Unit := do
  hostEvidenceBinding files.request files.evidence
  match files.decision.proposal with
  | none => return ()
  | some proposal => hostProposalChecks files proposal

def hostChecksV2 : Except Failure Unit := do
  hostEvidenceBinding files.request files.evidence
  match files.decision.proposal with
  | none => return ()
  | some proposal =>
    raiseIf (∃ plan ∈ files.request.actionPlan,
        ∀ kind ∈ proposal.primaryActionKind, kind ∉ plan.permittedActionKinds)
      (hostError "Commander proposal action is outside the action plan")
    hostProposalChecks files proposal

def importChecks (receivedAt : Instant) : Except Failure Unit := do
  raiseIf (files.request.actionPlan.isSome ≠ files.decision.planHashes.isSome)
    (fileRuntimeError "Research request and decision schema versions differ")
  requireCatalogBinding files.request files.catalog
  requireEvidenceBinding files.request files.evidence
  raiseIf (receivedAt < files.evidence.capturedAt ∨ receivedAt < files.decision.createdAt)
    (fileRuntimeError "decision receipt cannot predate its decision or evidence")

def importDecision (receivedAt : Instant) :
    Effect CycleStore Failure (Option String) := do
  Effect.ofExcept (importChecks files receivedAt)
  let _ ← transaction fun store => storeEvidenceBundle hash store files.evidence receivedAt
  if files.request.actionPlan.isSome then
    Effect.ofExcept (hostChecksV2 files)
    transaction fun store => acceptDecisionV2 hash store files.decision receivedAt
  else
    Effect.ofExcept (hostChecks files)
    transaction fun store => acceptDecision hash store files.decision receivedAt

end Import

variable {hash : Hashing}
variable {α : Type}

theorem transaction_ok {f} {a : α} {store store' : CycleStore} :
    transaction f store = (.ok a, store') ↔ f store = .ok (a, store') := by
  unfold transaction
  cases hf : f store with
  | error e => simp
  | ok answer => simp [Prod.ext_iff]

def acceptanceEvent (files : DecisionImport) (receivedAt : Instant) : EventContent :=
  if files.request.actionPlan.isSome then
    decisionEvent files.decision "DECISION_V2_ACCEPTED" "decision-v2:" receivedAt
  else decisionEvent files.decision "DECISION_ACCEPTED" "decision:" receivedAt

def accept (hash : Hashing) (files : DecisionImport) (receivedAt : Instant) (store : CycleStore) :
    Except Failure (Option String × CycleStore) :=
  if files.request.actionPlan.isSome then do
    hostChecksV2 files
    acceptDecisionV2 hash store files.decision receivedAt
  else do
    hostChecks files
    acceptDecision hash store files.decision receivedAt

variable {files : DecisionImport} {receivedAt : Instant} {answer : Option String}

theorem importDecision_ok {store store' : CycleStore} :
    importDecision hash files receivedAt store = (.ok answer, store') ↔
      importChecks files receivedAt = .ok () ∧ ∃ created recorded,
        storeEvidenceBundle hash store files.evidence receivedAt = .ok (created, recorded) ∧
        accept hash files receivedAt recorded = .ok (answer, store') := by
  unfold importDecision accept
  simp only [Effect.bind_run_eq_ok, transaction_ok, Effect.ofExcept_run, Prod.mk.injEq]
  constructor
  · rintro ⟨u, _, ⟨hchecks, rfl⟩, created, recorded, hevidence, h⟩
    refine ⟨hchecks, created, recorded, hevidence, ?_⟩
    split at h
    · rename_i hv2
      rw [if_pos hv2]
      obtain ⟨u', _, hhost, haccept⟩ := Effect.bind_run_eq_ok.mp h
      rw [Effect.ofExcept_run, Prod.mk.injEq] at hhost
      obtain ⟨hhost, rfl⟩ := hhost
      exact bind_eq_ok.mpr ⟨u', hhost, transaction_ok.mp haccept⟩
    · rename_i hv1
      rw [if_neg hv1]
      obtain ⟨u', _, hhost, haccept⟩ := Effect.bind_run_eq_ok.mp h
      rw [Effect.ofExcept_run, Prod.mk.injEq] at hhost
      obtain ⟨hhost, rfl⟩ := hhost
      exact bind_eq_ok.mpr ⟨u', hhost, transaction_ok.mp haccept⟩
  · rintro ⟨hchecks, created, recorded, hevidence, h⟩
    refine ⟨(), _, ⟨hchecks, rfl⟩, created, recorded, hevidence, ?_⟩
    split at h
    · rename_i hv2
      rw [if_pos hv2]
      obtain ⟨u', hhost, haccept⟩ := bind_eq_ok.mp h
      exact Effect.bind_run_eq_ok.mpr ⟨u', recorded, by rw [Effect.ofExcept_run, hhost],
        transaction_ok.mpr haccept⟩
    · rename_i hv1
      rw [if_neg hv1]
      obtain ⟨u', hhost, haccept⟩ := bind_eq_ok.mp h
      exact Effect.bind_run_eq_ok.mpr ⟨u', recorded, by rw [Effect.ofExcept_run, hhost],
        transaction_ok.mpr haccept⟩

theorem find_of_prefix {xs ys : List α} {p : α → Bool} {x : α} (h : xs <+: ys)
    (hfind : xs.find? p = some x) : ys.find? p = some x := by
  obtain ⟨rest, rfl⟩ := h
  rw [List.find?_append, hfind, Option.some_or]

variable {recorded s : CycleStore}

theorem addCycleEvent_found {store : CycleStore} {content}
    (h : addCycleEvent hash store content = .ok recorded) (grows : recorded.events <+: s.events) :
    ∃ row, s.findEvent content.researchCycleId content.idempotencyKey = some row ∧
      row.eventHash = hash.canonicalHash content.data := by
  rcases addCycleEvent_cases h with ⟨rfl, row, hfind, hhash⟩ | ⟨rfl, hnone⟩
  · exact ⟨row, find_of_prefix grows hfind, hhash⟩
  · refine ⟨content.row hash, find_of_prefix grows ?_, rfl⟩
    have hnew : store.events.find? (fun event => event.researchCycleId = content.researchCycleId ∧
        event.idempotencyKey = content.idempotencyKey) = none := hnone
    rw [List.find?_append, hnew, Option.none_or]
    exact List.find?_cons_of_pos (by simp [EventContent.row])

theorem addCycleEvent_again {store : CycleStore} {content}
    (h : addCycleEvent hash store content = .ok recorded) (grows : recorded.events <+: s.events) :
    addCycleEvent hash s content = .ok s := by
  obtain ⟨row, hfind, hhash⟩ := addCycleEvent_found h grows
  rw [addCycleEvent, hfind]
  dsimp only
  rw [raiseIf_neg _ (not_not.mpr hhash)]
  rfl

theorem storeProposal_again {rows rows' later row} {conflict : String}
    (h : storeProposal rows row conflict = .ok rows') (grows : rows' <+: later) :
    storeProposal later row conflict = .ok later := by
  have hfound : ∃ existing, findProposal later row.proposal.proposalId = some existing ∧
      existing.proposal.proposalHash = row.proposal.proposalHash := by
    rcases storeProposal_cases h with ⟨rfl, existing, hfind, hhash⟩ | ⟨rfl, hnone⟩
    · exact ⟨existing, find_of_prefix grows hfind, hhash⟩
    · refine ⟨row, find_of_prefix grows ?_, rfl⟩
      have hnew : rows.find? (·.proposal.proposalId = row.proposal.proposalId) = none := hnone
      rw [List.find?_append, hnew, Option.none_or]
      exact List.find?_cons_of_pos (by simp)
  obtain ⟨existing, hfind, hhash⟩ := hfound
  rw [storeProposal, hfind]
  dsimp only
  rw [raiseIf_neg _ (not_not.mpr hhash)]
  rfl

theorem asPersistenceError_ok {x} (h : x = .ok ()) :
    asPersistenceError x = .ok () := by
  rw [h]
  rfl

theorem acceptDecision_again {store after : CycleStore} {decision}
    (h : acceptDecision hash store decision receivedAt = .ok (answer, after))
    (grows : Grows after s) (unchanged : s.currentSelection = store.currentSelection) :
    acceptDecision hash s decision receivedAt = .ok (answer, s) := by
  obtain ⟨cycle, selection, recorded, hfind, hplan, hbound, hselection, hassert, hrecorded,
    hrest⟩ :=
    acceptDecision_cases h
  have hafter : Grows recorded after ∧ ∀ proposal, decision.proposal = some proposal →
      storeProposal s.proposals ⟨cycle.researchCycleId, proposal, receivedAt⟩
        "proposal ID hash conflict" = .ok s.proposals ∧ answer = some proposal.proposalId := by
    rcases hrest with ⟨hnone, -, rfl⟩ | ⟨proposal, proposals, hproposal, hstore, rfl, rfl⟩
    · exact ⟨.refl _, fun proposal hsome => by simp [hnone] at hsome⟩
    · refine ⟨⟨prefix_rfl, prefix_rfl, prefix_rfl, storeProposal_grows hstore,
        prefix_rfl⟩, fun other hother => ?_⟩
      obtain rfl := Option.some.inj (hproposal.symm.trans hother)
      exact ⟨storeProposal_again hstore grows.proposals, rfl⟩
  have hall := (addCycleEvent_grows hrecorded).trans (hafter.1.trans grows)
  have hfind' : s.findCycle decision.researchCycleId = some cycle :=
    find_of_prefix hall.cycles hfind
  have hevent := addCycleEvent_again hrecorded (hafter.1.trans grows).events
  rw [acceptDecision, hfind']
  dsimp only
  rw [raiseIf_neg _ (by simp [hplan]), ok_bind, raiseIf_neg _ (by simp [hbound]), ok_bind,
    unchanged,
    hselection]
  dsimp only
  rw [asPersistenceError_ok hassert, ok_bind, hevent, ok_bind]
  cases hproposal : decision.proposal with
  | none =>
    rcases hrest with ⟨-, rfl, -⟩ | ⟨proposal, proposals, hsome, -⟩
    · rfl
    · rw [hproposal] at hsome
      cases hsome
  | some proposal =>
    obtain ⟨hstore, rfl⟩ := hafter.2 proposal hproposal
    dsimp only
    rw [hstore]
    rfl

theorem acceptDecisionV2_again {store after : CycleStore} {decision}
    (h : acceptDecisionV2 hash store decision receivedAt = .ok (answer, after))
    (grows : Grows after s) (unchanged : s.currentSelection = store.currentSelection) :
    acceptDecisionV2 hash s decision receivedAt = .ok (answer, s) := by
  obtain ⟨cycle, selection, recorded, hfind, hplan, hselection, hassert, hrecorded, hrest⟩ :=
    acceptDecisionV2_cases h
  have hafter : Grows recorded after ∧ ∀ proposal, decision.proposal = some proposal →
      storeProposal s.proposalsV2 ⟨cycle.researchCycleId, proposal, receivedAt⟩
        "AlgorithmProposalV2 ID hash conflict" = .ok s.proposalsV2 ∧
      storeProposal s.proposals ⟨cycle.researchCycleId, proposal, receivedAt⟩
        "AlgorithmProposalV2 compatibility-row conflict" = .ok s.proposals ∧
      answer = some proposal.proposalId := by
    rcases hrest with ⟨hnone, -, rfl⟩ |
      ⟨proposal, proposalsV2, proposals, hproposal, hstoreV2, hstore, rfl, rfl⟩
    · exact ⟨.refl _, fun proposal hsome => by simp [hnone] at hsome⟩
    · refine ⟨⟨prefix_rfl, prefix_rfl, prefix_rfl, storeProposal_grows hstore,
        storeProposal_grows hstoreV2⟩, fun other hother => ?_⟩
      obtain rfl := Option.some.inj (hproposal.symm.trans hother)
      exact ⟨storeProposal_again hstoreV2 grows.proposalsV2,
        storeProposal_again hstore grows.proposals, rfl⟩
  have hall := (addCycleEvent_grows hrecorded).trans (hafter.1.trans grows)
  have hfind' : s.findCycle decision.researchCycleId = some cycle :=
    find_of_prefix hall.cycles hfind
  have hevent := addCycleEvent_again hrecorded (hafter.1.trans grows).events
  rw [acceptDecisionV2, hfind']
  dsimp only
  rw [raiseIf_neg _ (by simp [Option.isNone_iff_eq_none, Option.isSome_iff_ne_none.mp hplan]),
    ok_bind, unchanged, hselection]
  dsimp only
  rw [asPersistenceError_ok hassert, ok_bind, hevent, ok_bind]
  cases hproposal : decision.proposal with
  | none =>
    rcases hrest with ⟨-, rfl, -⟩ | ⟨proposal, proposalsV2, proposals, hsome, -⟩
    · rfl
    · rw [hproposal] at hsome
      cases hsome
  | some proposal =>
    obtain ⟨hstoreV2, hstore, rfl⟩ := hafter.2 proposal hproposal
    dsimp only
    rw [hstoreV2, ok_bind, hstore]
    rfl

theorem storeEvidenceBundle_again {store : CycleStore} {bundle} {createdAt : Instant}
    {created : Bool} (h : storeEvidenceBundle hash store bundle createdAt = .ok (created, recorded))
    (grows : Grows recorded s) (later : Instant) :
    recorded.selections = store.selections ∧
      storeEvidenceBundle hash s bundle later = .ok (false, s) := by
  have hgrows := (storeEvidenceBundle_grows h).trans grows
  unfold storeEvidenceBundle at h
  cases hfind : store.findCycle bundle.researchCycleId with
  | none =>
    rw [hfind] at h
    cases h
  | some cycle =>
    have hfind' : s.findCycle bundle.researchCycleId = some cycle :=
      find_of_prefix hgrows.cycles hfind
    rw [hfind] at h
    dsimp only at h
    have hknown : recorded.selections = store.selections ∧
        ∃ row, s.findEvent bundle.researchCycleId (evidenceKey bundle) = some row := by
      cases hevent : store.findEvent bundle.researchCycleId (evidenceKey bundle) with
      | some row => exact ⟨by
          rw [hevent] at h
          obtain ⟨-, rfl⟩ := Prod.mk.inj (Except.ok.inj h)
          rfl, row, find_of_prefix hgrows.events hevent⟩
      | none =>
        rw [hevent] at h
        simp only [ok_iff, Prod.mk.injEq] at h
        obtain ⟨sources, -, added, hadded, -, rfl⟩ := h
        obtain ⟨row, hrow, -⟩ := addCycleEvent_found hadded grows.events
        refine ⟨?_, row, hrow⟩
        rcases addCycleEvent_cases hadded with ⟨rfl, -⟩ | ⟨rfl, -⟩ <;> rfl
    obtain ⟨hselections, row, hrow⟩ := hknown
    refine ⟨hselections, ?_⟩
    rw [storeEvidenceBundle, hfind']
    dsimp only
    rw [hrow]

theorem accept_again
    {store after : CycleStore} (h : accept hash files receivedAt store = .ok (answer, after))
    (grows : Grows after s) (unchanged : s.currentSelection = store.currentSelection) :
    accept hash files receivedAt s = .ok (answer, s) := by
  unfold accept at h ⊢
  split at h
  · rename_i hv2
    obtain ⟨u, hchecks, haccept⟩ := bind_eq_ok.mp h
    rw [if_pos hv2, hchecks, ok_bind]
    exact acceptDecisionV2_again haccept grows unchanged
  · rename_i hv1
    obtain ⟨u, hchecks, haccept⟩ := bind_eq_ok.mp h
    rw [if_neg hv1, hchecks, ok_bind]
    exact acceptDecision_again haccept grows unchanged

theorem accept_recorded
    {store after : CycleStore} (h : accept hash files receivedAt store = .ok (answer, after)) :
    Grows store after ∧ ∃ row,
      after.findEvent (acceptanceEvent files receivedAt).researchCycleId
        (acceptanceEvent files receivedAt).idempotencyKey = some row ∧
      row.eventHash = hash.canonicalHash (acceptanceEvent files receivedAt).data := by
  unfold accept at h
  unfold acceptanceEvent
  split at h
  · rename_i hv2
    rw [if_pos hv2]
    obtain ⟨u, -, haccept⟩ := bind_eq_ok.mp h
    obtain ⟨cycle, selection, recorded, -, -, -, -, hrecorded, ⟨-, -, rfl⟩ |
      ⟨proposal, proposalsV2, proposals, -, hstoreV2, hstore, -, rfl⟩⟩ :=
      acceptDecisionV2_cases haccept
    · exact ⟨addCycleEvent_grows hrecorded, addCycleEvent_found hrecorded prefix_rfl⟩
    · have hgrows : Grows recorded
          { recorded with proposalsV2 := proposalsV2, proposals := proposals } :=
        ⟨prefix_rfl, prefix_rfl, prefix_rfl, storeProposal_grows hstore,
          storeProposal_grows hstoreV2⟩
      exact ⟨(addCycleEvent_grows hrecorded).trans hgrows,
        addCycleEvent_found hrecorded hgrows.events⟩
  · rename_i hv1
    rw [if_neg hv1]
    obtain ⟨u, -, haccept⟩ := bind_eq_ok.mp h
    obtain ⟨cycle, selection, recorded, -, -, -, -, -, hrecorded, ⟨-, -, rfl⟩ |
      ⟨proposal, proposals, -, hstore, -, rfl⟩⟩ := acceptDecision_cases haccept
    · exact ⟨addCycleEvent_grows hrecorded, addCycleEvent_found hrecorded prefix_rfl⟩
    · have hgrows : Grows recorded { recorded with proposals := proposals } :=
        ⟨prefix_rfl, prefix_rfl, prefix_rfl, storeProposal_grows hstore,
          prefix_rfl⟩
      exact ⟨(addCycleEvent_grows hrecorded).trans hgrows,
        addCycleEvent_found hrecorded hgrows.events⟩

theorem acceptanceEvent_key (files : DecisionImport) (a b : Instant) :
    (acceptanceEvent files a).researchCycleId = (acceptanceEvent files b).researchCycleId ∧
      (acceptanceEvent files a).idempotencyKey = (acceptanceEvent files b).idempotencyKey := by
  unfold acceptanceEvent
  split <;> exact ⟨rfl, rfl⟩

theorem acceptanceEvent_createdAt {a b : Instant}
    (h : (acceptanceEvent files a).data = (acceptanceEvent files b).data) : a = b := by
  unfold acceptanceEvent EventContent.data decisionEvent at h
  split at h <;> simpa [Canonical.dict] using h

theorem cycleRun_grows {store : CycleStore} {calls} (run : Run (cycleStep hash) store calls s) :
    Grows store s :=
  run.inv (.refl store) fun _ _ _ hgrows ok => hgrows.trans (cycleStep_grows ok)

/-- A decision that was imported, of either generation: importing it again later, after any other
calls under the same selection, returns the same proposal and leaves the tables as they are exactly
when the receipt time is the one of the first import. -/
theorem import_again_iff (collisionFree : Function.Injective hash.canonicalHash)
    {files : DecisionImport} {receivedAt : Instant} {answer : Option String}
    {before after : CycleStore}
    (first : importDecision hash files receivedAt before = (.ok answer, after))
    {calls : List (CycleStore × CycleCall)} {s : CycleStore}
    (run : Run (cycleStep hash) after calls s)
    (unchanged : s.currentSelection = before.currentSelection) (later : Instant) :
    importDecision hash files later s = (.ok answer, s) ↔ later = receivedAt := by
  obtain ⟨hchecks, created, recorded, hevidence, haccept⟩ := importDecision_ok.mp first
  have hgrows := cycleRun_grows run
  obtain ⟨haccepted, row, hrow, hhash⟩ := accept_recorded haccept
  obtain ⟨hselections, hknown⟩ := storeEvidenceBundle_again hevidence (haccepted.trans hgrows) later
  constructor
  · intro again
    obtain ⟨-, created', recorded', hevidence', haccept'⟩ := importDecision_ok.mp again
    obtain ⟨-, rfl⟩ := Prod.mk.inj (Except.ok.inj (hknown.symm.trans hevidence'))
    -- both events have one key, so their digests agree
    obtain ⟨-, row', hrow', hhash'⟩ := accept_recorded haccept'
    have hstored := find_of_prefix hgrows.events hrow
    rw [CycleStore.findEvent, (acceptanceEvent_key files later receivedAt).1,
      (acceptanceEvent_key files later receivedAt).2] at hrow'
    obtain rfl : row' = row := Option.some.inj (hrow'.symm.trans hstored)
    exact acceptanceEvent_createdAt (collisionFree (hhash'.symm.trans hhash))
  · rintro rfl
    refine importDecision_ok.mpr ⟨hchecks, false, s, hknown, accept_again haccept hgrows ?_⟩
    rw [unchanged, CycleStore.currentSelection, CycleStore.currentSelection, hselections]

def sampleProposal : AlgorithmProposal where
  proposalId := "proposal"
  hypothesisId := "hypothesis"
  parentStrategyId := "core"
  parentStrategyVersion := "v1"
  proposedStrategyId := "core"
  proposedStrategyVersion := "v2"
  targetHorizon := "1d"
  targetUniverse := ["SPY"]
  requiredData := ["daily-bars"]
  estimatedCapacity := .nil
  estimatedTurnover := .nil
  filesAllowedToChange := ["research/candidates/core.py"]
  evidenceSourceIds := ["source"]
  primaryActionKind := none
  proposalHash := "proposal-hash"

def sampleImport : DecisionImport where
  request := { sampleRequest Hashing.short with commanderSelectionId := "selection" }
  decision :=
    { requestId := "request"
      researchCycleId := "cycle"
      selectedCommander := .codexSolMax
      commanderSelectionId := "selection"
      commanderSelectionVersion := 1
      sourceSnapshotCommit := "commit"
      championVersion := "v1"
      experimentFamily := "family"
      contextManifestHash := "context"
      requestSchemaVersion := "research_request_v1"
      requestExpiresAt := 100
      proposal := some sampleProposal
      planHashes := none
      createdAt := 15
      outputHash := "output" }
  catalog := ⟨[⟨"SPY", false, true, 500, true⟩], "catalog"⟩
  evidence := ⟨"cycle", 12, [⟨"source", "content"⟩], 1, "evidence"⟩

def sampleStore : CycleStore where
  selections := [⟨"selection", 1, .codexSolMax, 0, 5, "config"⟩]
  cycles := [⟨"cycle", "request", "selection", 1, .codexSolMax, "request-hash",
    sampleImport.request⟩]

theorem pair_of_fst {β : Type} {x : α × β} {a : α} (h : x.1 = a) : x = (a, x.2) := by
  rw [← h]

theorem sampleImport_repeats : ∃ after,
    importDecision Hashing.plain sampleImport 20 sampleStore = (.ok (some "proposal"), after) ∧
      importDecision Hashing.plain sampleImport 20 after = (.ok (some "proposal"), after) := by
  have heval : (importDecision Hashing.plain sampleImport 20 sampleStore).1 =
        .ok (some "proposal") ∧
      (importDecision Hashing.plain sampleImport 20 sampleStore).2.currentSelection =
        sampleStore.currentSelection := by
    decide +kernel
  have hfirst := pair_of_fst heval.1
  exact ⟨_, hfirst, (import_again_iff Hashing.plain_injective hfirst .start heval.2 20).mpr rfl⟩

/-- Received again at 30, before the request expires at 100, the decision is taken for a
conflict. -/
theorem sampleImport_conflicts : ∃ after,
    importDecision Hashing.short sampleImport 20 sampleStore = (.ok (some "proposal"), after) ∧
      after.currentSelection = sampleStore.currentSelection ∧
      sampleImport.request.expiresAt = 100 ∧
      (importDecision Hashing.short sampleImport 30 after).1 =
        .error (persistenceError "cycle-event idempotency conflict") := by
  have heval : (importDecision Hashing.short sampleImport 20 sampleStore).1 =
        .ok (some "proposal") ∧
      (importDecision Hashing.short sampleImport 20 sampleStore).2.currentSelection =
        sampleStore.currentSelection ∧
      (importDecision Hashing.short sampleImport 30
        (importDecision Hashing.short sampleImport 20 sampleStore).2).1 =
        .error (persistenceError "cycle-event idempotency conflict") := by
    decide +kernel
  exact ⟨_, pair_of_fst heval.1, heval.2.1, rfl, heval.2.2⟩

end AdaptiveQuant.ResearchPlane
