import AdaptiveQuant.Research.CycleContracts

/-! The tables of the research cycles in `persistence/research.py`. -/

namespace AdaptiveQuant.ResearchPlane

open Guard Sequence List

def persistenceError (message : String) : Failure := ⟨.researchPersistenceError, message, []⟩

structure CycleRow where
  researchCycleId : String
  requestId : String
  selectionId : String
  selectionVersion : ℕ
  selectedCommander : ResearchCommanderKind
  requestHash : String
  payload : ResearchRequest
deriving DecidableEq

structure CycleEventRow where
  eventId : String
  researchCycleId : String
  eventType : String
  actorRole : String
  artifactHash : Option String
  idempotencyKey : String
  eventHash : String
  payload : Canonical
  createdAt : Instant
deriving DecidableEq

structure EvidenceSourceRow where
  sourceId : String
  researchCycleId : String
  contentHash : String
  createdAt : Instant
deriving DecidableEq

structure ProposalRow where
  researchCycleId : String
  proposal : AlgorithmProposal
  createdAt : Instant
deriving DecidableEq

/-- The tables of the research cycles. -/
structure CycleStore where
  selections : List CommanderSelection := []
  cycles : List CycleRow := []
  events : List CycleEventRow := []
  sources : List EvidenceSourceRow := []
  proposals : List ProposalRow := []
  proposalsV2 : List ProposalRow := []
deriving DecidableEq

/-- `IntegrityError`. -/
def uniqueFailed : Failure := ⟨.integrityError, "UNIQUE constraint failed", []⟩

section Operations

variable (hash : Hashing)

variable (store : CycleStore)

def CycleStore.currentSelection : Option CommanderSelection :=
  (sortedBy (·.version) store.selections).getLast?

def selectCommander (commander : ResearchCommanderKind) (configHash : String)
    (effectiveAt createdAt : Instant) (expectedVersion : Option ℕ) :
    Except Failure (CommanderSelection × CycleStore) := do
  let current := (store.currentSelection.map (·.version)).getD 0
  raiseIf (expectedVersion.any (· ≠ current) = true)
    (persistenceError "research commander selection version conflict")
  let version := current + 1
  let selection : CommanderSelection :=
    { selectionId := hash.stableId "research-selection" [.int version, .str commander.value,
        .str configHash, .instant effectiveAt]
      version := version
      selectedCommander := commander
      effectiveAt := effectiveAt
      createdAt := createdAt
      configHash := configHash }
  return (selection, { store with selections := store.selections ++ [selection] })

/-- The content of an event, of which `event_hash` is a digest. -/
structure EventContent where
  researchCycleId : String
  eventType : String
  actorRole : String
  artifactHash : Option String
  idempotencyKey : String
  payload : Canonical
  createdAt : Instant
deriving DecidableEq

def EventContent.data (content : EventContent) : Canonical :=
  .dict [("research_cycle_id", .str content.researchCycleId),
    ("event_type", .str content.eventType), ("actor_role", .str content.actorRole),
    ("artifact_hash", .optStr content.artifactHash),
    ("idempotency_key", .str content.idempotencyKey), ("payload", content.payload),
    ("created_at", .instant content.createdAt)]

def EventContent.row (content : EventContent) : CycleEventRow where
  eventId := hash.stableId "research-cycle-event"
    [.str content.researchCycleId, .str content.idempotencyKey]
  researchCycleId := content.researchCycleId
  eventType := content.eventType
  actorRole := content.actorRole
  artifactHash := content.artifactHash
  idempotencyKey := content.idempotencyKey
  eventHash := hash.canonicalHash content.data
  payload := content.data
  createdAt := content.createdAt

def CycleStore.findEvent (cycleId key : String) : Option CycleEventRow :=
  store.events.find? fun event => event.researchCycleId = cycleId ∧ event.idempotencyKey = key

def addCycleEvent (content : EventContent) : Except Failure CycleStore :=
  match store.findEvent content.researchCycleId content.idempotencyKey with
  | some existing => do
    raiseIf (existing.eventHash ≠ hash.canonicalHash content.data)
      (persistenceError "cycle-event idempotency conflict")
    return store
  | none => do
    let row := content.row hash
    raiseIf (∃ event ∈ store.events, event.eventId = row.eventId ∨ event.eventHash = row.eventHash)
      uniqueFailed
    return { store with events := store.events ++ [row] }

def CycleStore.findCycle (cycleId : String) : Option CycleRow :=
  store.cycles.find? (·.researchCycleId = cycleId)

def CycleStore.findRequest (requestId : String) : Option CycleRow :=
  store.cycles.find? (·.requestId = requestId)

def cycleRow (request : ResearchRequest) (selection : CommanderSelection) : CycleRow where
  researchCycleId := request.researchCycleId
  requestId := request.requestId
  selectionId := selection.selectionId
  selectionVersion := selection.version
  selectedCommander := request.selectedCommander
  requestHash := hash.canonicalHash request.payload
  payload := request

def createCycle (request : ResearchRequest) :
    Except Failure (Bool × CycleStore) :=
  match store.findRequest request.requestId with
  | some existing => do
    raiseIf (existing.requestHash ≠ hash.canonicalHash request.payload)
      (persistenceError "request_id already belongs to different research request")
    return (false, store)
  | none =>
    match store.currentSelection with
    | none => .error (persistenceError "no Research Commander selected")
    | some selection => do
      raiseIf (selection.selectionId ≠ request.commanderSelectionId ∨
          selection.version ≠ request.commanderSelectionVersion ∨
          selection.selectedCommander ≠ request.selectedCommander)
        (persistenceError "STALE_SELECTION")
      let row := cycleRow hash request selection
      raiseIf (∃ cycle ∈ store.cycles, cycle.researchCycleId = row.researchCycleId ∨
          cycle.requestHash = row.requestHash) uniqueFailed
      let store ← addCycleEvent hash { store with cycles := store.cycles ++ [row] }
        { researchCycleId := request.researchCycleId
          eventType := "REQUEST_CREATED"
          actorRole := "HOST"
          artifactHash := some request.contextManifestHash
          idempotencyKey := "request:" ++ request.requestId
          payload := .dict [("request_id", .str request.requestId)]
          createdAt := request.createdAt }
      return (true, store)

def storeSource (cycleId : String) (createdAt : Instant) (sources : List EvidenceSourceRow)
    (source : ResearchSource) : Except Failure (List EvidenceSourceRow) :=
  match sources.find? (·.sourceId = source.sourceId) with
  | some existing => do
    raiseIf (existing.contentHash ≠ source.contentHash ∨ existing.researchCycleId ≠ cycleId)
      (persistenceError "evidence source ID hash conflict")
    return sources
  | none => do
    raiseIf (∃ row ∈ sources, row.researchCycleId = cycleId ∧ row.contentHash = source.contentHash)
      uniqueFailed
    return sources ++ [⟨source.sourceId, cycleId, source.contentHash, createdAt⟩]

def evidenceKey (bundle : EvidenceBundle) : String := "evidence:" ++ bundle.canonicalHash

def storeEvidenceBundle (bundle : EvidenceBundle) (createdAt : Instant) :
    Except Failure (Bool × CycleStore) :=
  match store.findCycle bundle.researchCycleId with
  | none => .error (persistenceError "unknown research cycle")
  | some _ =>
    match store.findEvent bundle.researchCycleId (evidenceKey bundle) with
    | some _ => .ok (false, store)
    | none => do
      let sources ← bundle.sources.foldlM (storeSource bundle.researchCycleId createdAt)
        store.sources
      let store ← addCycleEvent hash { store with sources := sources }
        { researchCycleId := bundle.researchCycleId
          eventType := "EVIDENCE_CAPTURED"
          actorRole := "WEB_SCOUT"
          artifactHash := some bundle.canonicalHash
          idempotencyKey := evidenceKey bundle
          payload := .dict [("bundle_hash", .str bundle.canonicalHash),
            ("source_count", .int bundle.sources.length), ("claim_count", .int bundle.claimCount)]
          createdAt := createdAt }
      return (true, store)

def findProposal (rows : List ProposalRow) (proposalId : String) : Option ProposalRow :=
  rows.find? (·.proposal.proposalId = proposalId)

/-- The insertion of a proposal, unless it is stored already with the same digest. -/
def storeProposal (rows : List ProposalRow) (row : ProposalRow) (conflict : String) :
    Except Failure (List ProposalRow) :=
  match findProposal rows row.proposal.proposalId with
  | some existing => do
    raiseIf (existing.proposal.proposalHash ≠ row.proposal.proposalHash) (persistenceError conflict)
    return rows
  | none => do
    raiseIf (∃ stored ∈ rows, stored.proposal.proposalHash = row.proposal.proposalHash) uniqueFailed
    return rows ++ [row]

def decisionEvent (decision : ResearchDecision) (eventType key : String) (receivedAt : Instant) :
    EventContent where
  researchCycleId := decision.researchCycleId
  eventType := eventType
  actorRole := "RESEARCH_COMMANDER"
  artifactHash := some decision.outputHash
  idempotencyKey := key ++ decision.outputHash
  payload := decision.payload
  createdAt := receivedAt

/-- `ValueError` as the `ResearchPersistenceError` with the same text. -/
def asPersistenceError (x : Except Failure Unit) : Except Failure Unit :=
  x.mapError fun failure => persistenceError failure.message

def acceptDecision (decision : ResearchDecision) (receivedAt : Instant) :
    Except Failure (Option String × CycleStore) :=
  match store.findCycle decision.researchCycleId with
  | none => .error (persistenceError "unknown research cycle")
  | some cycle => do
    let request := cycle.payload
    raiseIf (request.actionPlan.isSome) (.validation "ResearchRequestV1" [])
    raiseIf (cycle.selectionId ≠ request.commanderSelectionId ∨
        cycle.selectionVersion ≠ request.commanderSelectionVersion ∨
        cycle.selectedCommander ≠ request.selectedCommander)
      (persistenceError "stored research cycle selection binding mismatch")
    match store.currentSelection with
    | none => .error (persistenceError "no Research Commander selected")
    | some selection =>
      asPersistenceError (decision.assertBoundTo request receivedAt selection)
      let store ← addCycleEvent hash store
        (decisionEvent decision "DECISION_ACCEPTED" "decision:" receivedAt)
      match decision.proposal with
      | none => return (none, store)
      | some proposal =>
        let proposals ← storeProposal store.proposals ⟨cycle.researchCycleId, proposal, receivedAt⟩
          "proposal ID hash conflict"
        return (some proposal.proposalId, { store with proposals := proposals })

def acceptDecisionV2 (decision : ResearchDecision) (receivedAt : Instant) :
    Except Failure (Option String × CycleStore) :=
  match store.findCycle decision.researchCycleId with
  | none => .error (persistenceError "unknown research cycle")
  | some cycle => do
    let request := cycle.payload
    raiseIf (request.actionPlan.isNone)
      (persistenceError "stored research cycle is not ResearchRequestV2")
    match store.currentSelection with
    | none => .error (persistenceError "no Research Commander selected")
    | some selection =>
      asPersistenceError (decision.assertBoundToV2 request receivedAt selection)
      let store ← addCycleEvent hash store
        (decisionEvent decision "DECISION_V2_ACCEPTED" "decision-v2:" receivedAt)
      match decision.proposal with
      | none => return (none, store)
      | some proposal =>
        let row : ProposalRow := ⟨cycle.researchCycleId, proposal, receivedAt⟩
        let proposalsV2 ← storeProposal store.proposalsV2 row "AlgorithmProposalV2 ID hash conflict"
        let proposals ← storeProposal store.proposals row
          "AlgorithmProposalV2 compatibility-row conflict"
        return (some proposal.proposalId,
          { store with proposalsV2 := proposalsV2, proposals := proposals })

end Operations

/-- Every operation of the cycle repository. -/
inductive CycleCall
  | select (commander : ResearchCommanderKind) (configHash : String)
      (effectiveAt createdAt : Instant) (expectedVersion : Option ℕ)
  | create (request : ResearchRequest)
  | evidence (bundle : EvidenceBundle) (createdAt : Instant)
  | decision (decision : ResearchDecision) (receivedAt : Instant)
  | decisionV2 (decision : ResearchDecision) (receivedAt : Instant)

def cycleStep (hash : Hashing) (store : CycleStore) : CycleCall → Except Failure CycleStore
  | .select commander configHash effectiveAt createdAt expectedVersion => (·.2) <$>
      selectCommander hash store commander configHash effectiveAt createdAt expectedVersion
  | .create request => (·.2) <$> createCycle hash store request
  | .evidence bundle createdAt => (·.2) <$> storeEvidenceBundle hash store bundle createdAt
  | .decision decision receivedAt => (·.2) <$> acceptDecision hash store decision receivedAt
  | .decisionV2 decision receivedAt => (·.2) <$> acceptDecisionV2 hash store decision receivedAt

structure Grows (store store' : CycleStore) : Prop where
  selections : store.selections <+: store'.selections
  cycles : store.cycles <+: store'.cycles
  events : store.events <+: store'.events
  proposals : store.proposals <+: store'.proposals
  proposalsV2 : store.proposalsV2 <+: store'.proposalsV2

theorem Grows.refl (store : CycleStore) : Grows store store :=
  ⟨prefix_rfl, prefix_rfl, prefix_rfl, prefix_rfl, prefix_rfl⟩

theorem Grows.trans {a b c : CycleStore} (first : Grows a b) (second : Grows b c) : Grows a c :=
  ⟨first.selections.trans second.selections, first.cycles.trans second.cycles,
    first.events.trans second.events, first.proposals.trans second.proposals,
    first.proposalsV2.trans second.proposalsV2⟩

section Growth

variable {hash : Hashing} {store store' : CycleStore}

theorem addCycleEvent_cases {content} (h : addCycleEvent hash store content = .ok store') :
    (store' = store ∧ ∃ existing,
      store.findEvent content.researchCycleId content.idempotencyKey = some existing ∧
      existing.eventHash = hash.canonicalHash content.data) ∨
    (store' = { store with events := store.events ++ [content.row hash] } ∧
      store.findEvent content.researchCycleId content.idempotencyKey = none) := by
  unfold addCycleEvent at h
  cases hfind : store.findEvent content.researchCycleId content.idempotencyKey with
  | some existing =>
    rw [hfind] at h
    simp only [ok_iff, not_not] at h
    exact .inl ⟨h.2.symm, existing, rfl, h.1⟩
  | none =>
    rw [hfind] at h
    simp only [ok_iff] at h
    exact .inr ⟨h.2.symm, rfl⟩

theorem addCycleEvent_grows {content} (h : addCycleEvent hash store content = .ok store') :
    Grows store store' := by
  rcases addCycleEvent_cases h with ⟨rfl, -⟩ | ⟨rfl, -⟩
  · exact .refl _
  · exact ⟨prefix_rfl, prefix_rfl, prefix_append _ _, prefix_rfl,
      prefix_rfl⟩

theorem createCycle_cases {request} {created : Bool}
    (h : createCycle hash store request = .ok (created, store')) :
    (created = false ∧ store' = store ∧ ∃ row, store.findRequest request.requestId = some row ∧
      row.requestHash = hash.canonicalHash request.payload) ∨
    (created = true ∧ store.findRequest request.requestId = none ∧
      (∀ cycle ∈ store.cycles, cycle.researchCycleId ≠ request.researchCycleId) ∧
      store'.selections = store.selections ∧ Grows store store' ∧
      ∃ selection, store'.cycles = store.cycles ++ [cycleRow hash request selection]) := by
  unfold createCycle at h
  cases hfind : store.findRequest request.requestId with
  | some row =>
    rw [hfind] at h
    simp only [ok_iff, not_not, Prod.mk.injEq] at h
    obtain ⟨hhash, rfl, rfl⟩ := h
    exact .inl ⟨rfl, rfl, row, rfl, hhash⟩
  | none =>
    rw [hfind] at h
    dsimp only at h
    cases hselection : store.currentSelection with
    | none =>
      rw [hselection] at h
      cases h
    | some selection =>
      rw [hselection] at h
      simp only [ok_iff, Prod.mk.injEq] at h
      obtain ⟨-, hfresh, added, hadded, rfl, rfl⟩ := h
      refine .inr ⟨rfl, rfl, fun cycle hcycle heq => hfresh ⟨cycle, hcycle, .inl heq⟩, ?_, ?_,
        selection, ?_⟩
      · rcases addCycleEvent_cases hadded with ⟨rfl, -⟩ | ⟨rfl, -⟩ <;> rfl
      · refine Grows.trans ?_ (addCycleEvent_grows hadded)
        exact ⟨prefix_rfl, prefix_append _ _, prefix_rfl, prefix_rfl,
          prefix_rfl⟩
      · rcases addCycleEvent_cases hadded with ⟨rfl, -⟩ | ⟨rfl, -⟩ <;> rfl

theorem storeProposal_cases {rows rows' row} {conflict : String}
    (h : storeProposal rows row conflict = .ok rows') :
    (rows' = rows ∧ ∃ existing, findProposal rows row.proposal.proposalId = some existing ∧
      existing.proposal.proposalHash = row.proposal.proposalHash) ∨
    (rows' = rows ++ [row] ∧ findProposal rows row.proposal.proposalId = none) := by
  unfold storeProposal at h
  cases hfind : findProposal rows row.proposal.proposalId with
  | some existing =>
    rw [hfind] at h
    simp only [ok_iff, not_not] at h
    exact .inl ⟨h.2.symm, existing, rfl, h.1⟩
  | none =>
    rw [hfind] at h
    simp only [ok_iff] at h
    exact .inr ⟨h.2.symm, rfl⟩

theorem storeProposal_grows {rows rows' row} {conflict : String}
    (h : storeProposal rows row conflict = .ok rows') : rows <+: rows' := by
  rcases storeProposal_cases h with ⟨rfl, -⟩ | ⟨rfl, -⟩
  · exact prefix_rfl
  · exact prefix_append _ _

theorem storeEvidenceBundle_grows {bundle} {createdAt : Instant} {created : Bool}
    (h : storeEvidenceBundle hash store bundle createdAt = .ok (created, store')) :
    Grows store store' := by
  unfold storeEvidenceBundle at h
  split at h
  · cases h
  · split at h
    · obtain ⟨-, rfl⟩ := Prod.mk.inj (Except.ok.inj h)
      exact .refl _
    · simp only [ok_iff, Prod.mk.injEq] at h
      obtain ⟨sources, -, added, hadded, -, rfl⟩ := h
      obtain ⟨hselections, hcycles, hevents, hproposals, hproposalsV2⟩ := addCycleEvent_grows hadded
      exact ⟨hselections, hcycles, hevents, hproposals, hproposalsV2⟩

theorem ok_of_asPersistenceError {x} {u : Unit} (h : asPersistenceError x = .ok u) :
    x = .ok () := by
  cases x with
  | ok v => rfl
  | error e => cases h

theorem acceptDecision_cases {decision} {receivedAt : Instant} {answer}
    (h : acceptDecision hash store decision receivedAt = .ok (answer, store')) :
    ∃ cycle selection recorded, store.findCycle decision.researchCycleId = some cycle ∧
      cycle.payload.actionPlan.isSome = false ∧
      (cycle.selectionId = cycle.payload.commanderSelectionId ∧
        cycle.selectionVersion = cycle.payload.commanderSelectionVersion ∧
        cycle.selectedCommander = cycle.payload.selectedCommander) ∧
      store.currentSelection = some selection ∧
      decision.assertBoundTo cycle.payload receivedAt selection = .ok () ∧
      addCycleEvent hash store (decisionEvent decision "DECISION_ACCEPTED" "decision:" receivedAt) =
        .ok recorded ∧
      (decision.proposal = none ∧ answer = none ∧ store' = recorded ∨
        ∃ proposal proposals, decision.proposal = some proposal ∧
          storeProposal recorded.proposals ⟨cycle.researchCycleId, proposal, receivedAt⟩
            "proposal ID hash conflict" = .ok proposals ∧
          answer = some proposal.proposalId ∧ store' = { recorded with proposals := proposals }) := by
  unfold acceptDecision at h
  cases hfind : store.findCycle decision.researchCycleId with
  | none =>
    rw [hfind] at h
    cases h
  | some cycle =>
    rw [hfind] at h
    simp only [ok_iff, not_or, not_not] at h
    obtain ⟨hplan, hbound, h⟩ := h
    cases hselection : store.currentSelection with
    | none =>
      rw [hselection] at h
      cases h
    | some selection =>
      rw [hselection] at h
      simp only [bind_eq_ok] at h
      obtain ⟨u, hassert, recorded, hrecorded, h⟩ := h
      refine ⟨cycle, selection, recorded, rfl, by simpa using hplan, hbound, rfl,
        ok_of_asPersistenceError hassert, hrecorded, ?_⟩
      cases hproposal : decision.proposal with
      | none =>
        rw [hproposal] at h
        obtain ⟨rfl, rfl⟩ := Prod.mk.inj (pure_eq_ok.mp h)
        exact .inl ⟨rfl, rfl, rfl⟩
      | some proposal =>
        rw [hproposal] at h
        simp only [ok_iff, Prod.mk.injEq] at h
        obtain ⟨proposals, hproposals, rfl, rfl⟩ := h
        exact .inr ⟨proposal, proposals, rfl, hproposals, rfl, rfl⟩

theorem acceptDecisionV2_cases {decision} {receivedAt : Instant} {answer}
    (h : acceptDecisionV2 hash store decision receivedAt = .ok (answer, store')) :
    ∃ cycle selection recorded, store.findCycle decision.researchCycleId = some cycle ∧
      cycle.payload.actionPlan.isSome ∧ store.currentSelection = some selection ∧
      decision.assertBoundToV2 cycle.payload receivedAt selection = .ok () ∧
      addCycleEvent hash store
        (decisionEvent decision "DECISION_V2_ACCEPTED" "decision-v2:" receivedAt) = .ok recorded ∧
      (decision.proposal = none ∧ answer = none ∧ store' = recorded ∨
        ∃ proposal proposalsV2 proposals, decision.proposal = some proposal ∧
          storeProposal recorded.proposalsV2 ⟨cycle.researchCycleId, proposal, receivedAt⟩
            "AlgorithmProposalV2 ID hash conflict" = .ok proposalsV2 ∧
          storeProposal recorded.proposals ⟨cycle.researchCycleId, proposal, receivedAt⟩
            "AlgorithmProposalV2 compatibility-row conflict" = .ok proposals ∧
          answer = some proposal.proposalId ∧
          store' = { recorded with proposalsV2 := proposalsV2, proposals := proposals }) := by
  unfold acceptDecisionV2 at h
  cases hfind : store.findCycle decision.researchCycleId with
  | none =>
    rw [hfind] at h
    cases h
  | some cycle =>
    rw [hfind] at h
    simp only [ok_iff] at h
    obtain ⟨hplan, h⟩ := h
    cases hselection : store.currentSelection with
    | none =>
      rw [hselection] at h
      cases h
    | some selection =>
      rw [hselection] at h
      simp only [bind_eq_ok] at h
      obtain ⟨u, hassert, recorded, hrecorded, h⟩ := h
      refine ⟨cycle, selection, recorded, rfl, by simpa [Option.isNone_iff_eq_none,
        Option.isSome_iff_ne_none] using hplan, rfl, ok_of_asPersistenceError hassert,
          hrecorded, ?_⟩
      cases hproposal : decision.proposal with
      | none =>
        rw [hproposal] at h
        obtain ⟨rfl, rfl⟩ := Prod.mk.inj (pure_eq_ok.mp h)
        exact .inl ⟨rfl, rfl, rfl⟩
      | some proposal =>
        rw [hproposal] at h
        simp only [ok_iff, Prod.mk.injEq] at h
        obtain ⟨proposalsV2, hproposalsV2, proposals, hproposals, rfl, rfl⟩ := h
        exact .inr ⟨proposal, proposalsV2, proposals, rfl, hproposalsV2, hproposals, rfl, rfl⟩

theorem cycleStep_grows {call : CycleCall} (h : cycleStep hash store call = .ok store') :
    Grows store store' := by
  cases call with
  | select commander configHash effectiveAt createdAt expectedVersion =>
    obtain ⟨⟨selection, _⟩, hok, rfl⟩ := map_eq_ok.mp h
    simp only [selectCommander, ok_iff, Prod.mk.injEq] at hok
    obtain ⟨u, -, -, rfl⟩ := hok
    exact ⟨prefix_append _ _, prefix_rfl, prefix_rfl, prefix_rfl,
      prefix_rfl⟩
  | create request =>
    obtain ⟨⟨created, _⟩, hok, rfl⟩ := map_eq_ok.mp h
    rcases createCycle_cases hok with ⟨-, rfl, -⟩ | ⟨-, -, -, -, hgrows, -⟩
    · exact .refl _
    · exact hgrows
  | evidence bundle createdAt =>
    obtain ⟨⟨created, _⟩, hok, rfl⟩ := map_eq_ok.mp h
    exact storeEvidenceBundle_grows hok
  | decision decision receivedAt =>
    obtain ⟨⟨answer, _⟩, hok, rfl⟩ := map_eq_ok.mp h
    obtain ⟨cycle, selection, recorded, -, -, -, -, -, hrecorded, ⟨-, -, rfl⟩ |
      ⟨proposal, proposals, -, hproposals, -, rfl⟩⟩ := acceptDecision_cases hok
    · exact addCycleEvent_grows hrecorded
    · exact (addCycleEvent_grows hrecorded).trans ⟨prefix_rfl, prefix_rfl,
        prefix_rfl, storeProposal_grows hproposals, prefix_rfl⟩
  | decisionV2 decision receivedAt =>
    obtain ⟨⟨answer, _⟩, hok, rfl⟩ := map_eq_ok.mp h
    obtain ⟨cycle, selection, recorded, -, -, -, -, hrecorded, ⟨-, -, rfl⟩ |
      ⟨proposal, proposalsV2, proposals, -, hproposalsV2, hproposals, -, rfl⟩⟩ :=
      acceptDecisionV2_cases hok
    · exact addCycleEvent_grows hrecorded
    · exact (addCycleEvent_grows hrecorded).trans ⟨prefix_rfl, prefix_rfl,
        prefix_rfl, storeProposal_grows hproposals, storeProposal_grows hproposalsV2⟩

theorem addCycleEvent_cycles {content} (h : addCycleEvent hash store content = .ok store') :
    store'.cycles = store.cycles := by
  rcases addCycleEvent_cases h with ⟨rfl, -⟩ | ⟨rfl, -⟩ <;> rfl

theorem cycleStep_cycles {call : CycleCall} (h : cycleStep hash store call = .ok store') :
    store'.cycles = store.cycles ∨
      ∃ request selection, store'.cycles = store.cycles ++ [cycleRow hash request selection] := by
  cases call with
  | select commander configHash effectiveAt createdAt expectedVersion =>
    obtain ⟨⟨selection, _⟩, hok, rfl⟩ := map_eq_ok.mp h
    simp only [selectCommander, ok_iff, Prod.mk.injEq] at hok
    obtain ⟨u, -, -, rfl⟩ := hok
    exact .inl rfl
  | create request =>
    obtain ⟨⟨created, _⟩, hok, rfl⟩ := map_eq_ok.mp h
    rcases createCycle_cases hok with ⟨-, rfl, -⟩ | ⟨-, -, -, -, -, selection, hcycles⟩
    · exact .inl rfl
    · exact .inr ⟨request, selection, hcycles⟩
  | evidence bundle createdAt =>
    obtain ⟨⟨created, _⟩, hok, rfl⟩ := map_eq_ok.mp h
    unfold storeEvidenceBundle at hok
    split at hok
    · cases hok
    · split at hok
      · obtain ⟨-, rfl⟩ := Prod.mk.inj (Except.ok.inj hok)
        exact .inl rfl
      · simp only [ok_iff, Prod.mk.injEq] at hok
        obtain ⟨sources, -, added, hadded, -, rfl⟩ := hok
        have hcycles := addCycleEvent_cycles hadded
        exact .inl hcycles
  | decision decision receivedAt =>
    obtain ⟨⟨answer, _⟩, hok, rfl⟩ := map_eq_ok.mp h
    obtain ⟨cycle, selection, recorded, -, -, -, -, -, hrecorded, ⟨-, -, rfl⟩ |
      ⟨proposal, proposals, -, -, -, rfl⟩⟩ := acceptDecision_cases hok
    · exact .inl (addCycleEvent_cycles hrecorded)
    · have hcycles := addCycleEvent_cycles hrecorded
      exact .inl hcycles
  | decisionV2 decision receivedAt =>
    obtain ⟨⟨answer, _⟩, hok, rfl⟩ := map_eq_ok.mp h
    obtain ⟨cycle, selection, recorded, -, -, -, -, hrecorded, ⟨-, -, rfl⟩ |
      ⟨proposal, proposalsV2, proposals, -, -, -, -, rfl⟩⟩ := acceptDecisionV2_cases hok
    · exact .inl (addCycleEvent_cycles hrecorded)
    · have hcycles := addCycleEvent_cycles hrecorded
      exact .inl hcycles

end Growth

end AdaptiveQuant.ResearchPlane
