import AdaptiveQuant.Control.Contracts
import AdaptiveQuant.Lib.Run
import AdaptiveQuant.Lib.Sequence
import AdaptiveQuant.Persistence.CycleFence
import Mathlib.Data.Prod.Lex
import Mathlib.Data.String.Basic

/-! `ControlPlaneService` of `control/service.py`. -/

namespace AdaptiveQuant.Control

open Guard Sequence

structure CommanderSelectionRow where
  selectionId : String
  version : ℕ
  provider : CommanderProvider
  model : String
  reasoningProfile : String
  createdAt : Instant
  configHash : String
deriving DecidableEq

structure CommanderRequestRow where
  request : CommanderRequest
  selectionId : String
deriving DecidableEq

structure CommanderDecisionRow where
  decisionId : String
  requestId : String
  provider : CommanderProvider
  receivedAt : Instant
  payloadHash : String
deriving DecidableEq

structure CommanderDecisionResultRow where
  decisionId : String
  receipt : DecisionReceipt
deriving DecidableEq

structure PolicyPatchRow (R : Type) where
  scopeId : String
  patch : PolicyPatch R
deriving DecidableEq

structure PolicyVersionRow (R : Type) where
  scopeId : String
  state : PolicyState R
  createdAt : Instant

structure ControlTables (R : Type) where
  selections : List CommanderSelectionRow
  requests : List CommanderRequestRow
  decisions : List CommanderDecisionRow
  results : List CommanderDecisionResultRow
  patches : List (PolicyPatchRow R)
  versions : List (PolicyVersionRow R)
  cycles : List PaperCycleRow

def controlPlaneError (message : String) : Failure := ⟨.controlPlaneError, message, []⟩

def decisionConflict (message : String) : Failure := ⟨.decisionConflict, message, []⟩

def uniqueViolation (constraint : String) : Failure := ⟨.integrityError, constraint, []⟩

/-- A time that `datetime.fromisoformat` has read, if it could. -/
inductive IsoTime
  | invalid
  | naive
  | aware (instant : Instant)
deriving DecidableEq

/-- The library calls of the service: reading a time, and the size of a context as UTF-8 JSON. -/
structure ControlEnvironment where
  fromisoformat : String → IsoTime
  jsonBytes : Canonical → ℕ

def requestTtl : Instant := 6 * 3600 * 1000000

def maxPolicyTtl : Instant := 6 * 3600 * 1000000

def maxContextBytes : ℕ := 512 * 1024

variable {R : Type}

namespace ControlTables

variable (tables : ControlTables R) (armScope scopeId : String)

def versionsOf : List (PolicyVersionRow R) :=
  tables.versions.filter fun row => row.scopeId = scopeId ∧ row.state.armId = armScope

def patchesOf : List (PolicyPatch R) :=
  (tables.patches.filter fun row => row.scopeId = scopeId ∧ row.patch.armScope = armScope).map
    (·.patch)

variable [PolicyNumber R]

def loadLatestPolicyState
    (asOf : Option Instant) : PolicyState R :=
  let rows := (tables.versionsOf armScope scopeId).filter fun row =>
    asOf.all fun instant => row.createdAt ≤ instant
  ((sortedBy (·.state.version) rows).getLast?.map (·.state)).getD (.default armScope)

/-- The patches that `_resolve_policy_state` composes. -/
def activePatches (activeAt : Instant) :
    List (PolicyPatch R) :=
  sortedBy (fun patch => toLex (patch.createdAt, patch.patchId))
    ((tables.patchesOf armScope scopeId).filter fun patch =>
      (patch.effectiveFrom ≤ activeAt ∧ activeAt < patch.expiresAt) ∧ patch.createdAt ≤ activeAt)

end ControlTables

def samePolicyEffects (left right : PolicyState R) : Prop :=
  left.armId = right.armId ∧ left.portfolioRiskMultiplier = right.portfolioRiskMultiplier ∧
    left.strategyRiskDeltas = right.strategyRiskDeltas ∧
    left.blockedTargets = right.blockedTargets ∧ left.activeBuckets = right.activeBuckets ∧
    left.sourcePatchId = right.sourcePatchId

variable [PolicyNumber R]

instance (left right : PolicyState R) : Decidable (samePolicyEffects left right) :=
  inferInstanceAs (Decidable (_ ∧ _))

namespace ControlTables

variable (tables : ControlTables R)

def appendVersion (row : PolicyVersionRow R) :
    Except Failure (ControlTables R) := do
  raiseIf (∃ other ∈ tables.versions, other.scopeId = row.scopeId ∧
      other.state.armId = row.state.armId ∧ other.state.version = row.state.version)
    (uniqueViolation "uq_scope_arm_policy_version")
  return { tables with versions := tables.versions ++ [row] }

def resolvePolicyState (armScope scopeId : String) (activeAt : Instant) :
    Except Failure (PolicyState R × ControlTables R) := do
  let latest := tables.loadLatestPolicyState armScope scopeId none
  let stored := tables.loadLatestPolicyState armScope scopeId (some activeAt)
  let composed ← compose armScope (tables.activePatches armScope scopeId activeAt) stored.version
    activeAt true
  if samePolicyEffects stored composed then
    return (stored, tables)
  else if stored.version < latest.version then
    return (composed, tables)
  else
    let recomposed := { composed with version := stored.version + 1 }
    let appended ← tables.appendVersion ⟨scopeId, recomposed, activeAt⟩
    return (recomposed, appended)

def latestSelectionRow : Option CommanderSelectionRow :=
  (sortedBy (·.version) tables.selections).getLast?

def selectProvider (hash : Hashing) (provider : CommanderProvider)
    (expectedVersion : Option ℕ) (selectedAt : Instant) : Except Failure (ControlTables R) := do
  let current := tables.latestSelectionRow
  let currentVersion := (current.map (·.version)).getD 0
  raiseIf (∃ expected ∈ expectedVersion, expected ≠ currentVersion)
    (controlPlaneError
      s!"Selection version changed: expected {expectedVersion.getD 0}, current {currentVersion}")
  if current.map (·.provider) = some provider then
    return tables
  else
    let version := currentVersion + 1
    let config := Canonical.dict [("version", .int version), ("provider", .str provider.value),
      ("model", .str provider.model), ("reasoning_profile", .str provider.reasoningProfile)]
    let row : CommanderSelectionRow :=
      ⟨hash.stableId "selection" [.int version, .str provider.value], version, provider,
        provider.model, provider.reasoningProfile, selectedAt, hash.canonicalHash config⟩
    raiseIf (∃ other ∈ tables.selections, other.selectionId = row.selectionId ∨
        other.version = row.version) (uniqueViolation "commander_selections")
    return { tables with selections := tables.selections ++ [row] }

end ControlTables

/-- Whether `str.isspace` holds of a character. -/
def isSpace (c : Char) : Bool :=
  let code := c.toNat
  (9 ≤ code && code ≤ 13) || (28 ≤ code && code ≤ 32) || code == 133 || code == 160 ||
    code == 5760 || (8192 ≤ code && code ≤ 8202) || code == 8232 || code == 8233 || code == 8239 ||
    code == 8287 || code == 12288

/-- What `create_request` is called with, its times already read. -/
structure RequestDraft where
  armScope : ArmScope
  scopeId : String
  context : Canonical
  asOf : Instant
  dataAvailableCutoff : Instant
  createdAt : Instant
deriving DecidableEq

def buildDecisionPrompt (requestId : String) (provider : CommanderProvider) (scopeId : String)
    (armScope : ArmScope) (basePolicyVersion : ℕ) (contextManifestHash : String) : String :=
  "You are the selected adaptive-policy commander: " ++ provider.value ++ ".\n\n" ++
  "Read the prepared request JSON and use only evidence inside that bounded request.\n" ++
  "Return exactly one JSON object matching adaptive_policy_decision_v1.\n\n" ++
  "Hard boundaries:\n" ++
  "- You may return NO_CHANGE or a versioned PolicyPatch proposal only.\n" ++
  "- Never emit orders, target shares, broker actions, credentials, code edits,\n" ++
  "  or raw portfolio weights.\n" ++
  "- Preserve request_id=" ++ requestId ++ ".\n" ++
  "- Preserve context_manifest_hash=" ++ contextManifestHash ++ ".\n" ++
  "- Preserve the host-bound policy scope=" ++ scopeId ++ "; never infer another run.\n" ++
  "- Preserve arm_scope=" ++ armScope.value ++ " and base_policy_version=" ++
    toString basePolicyVersion ++ ".\n" ++
  "- If evidence is insufficient, contradictory, stale, or outside the request, return NO_CHANGE.\n" ++
  "- B3-RISK risk reduction must use PORTFOLIO:TOTAL with risk_multiplier in [0.25, 1.00]\n" ++
  "  and risk_budget_delta=null.\n" ++
  "- B3-RISK entry blocking may target only SYMBOL:QQQ, FACTOR:US_EQUITY_BETA,\n" ++
  "  or FACTOR:US_TECH_BETA. B3-FULL tilts remain shadow-only.\n" ++
  "- Every APPLY_PATCH decision needs explicit evidence IDs, a TTL no longer than six\n" ++
  "  hours, and a TIME_REACHED current_time rollback exactly equal to expires_at.\n\n" ++
  "The host validates the JSON schema, selection version, context hash, policy base\n" ++
  "version, operation allowlist, risk bounds, expiry, idempotency, and audit record.\n" ++
  "The deterministic risk engine retains final veto authority.\n"

def RequestDraft.request (draft : RequestDraft) (hash : Hashing) (selection : CommanderSelectionRow)
    (policy : PolicyState R) : CommanderRequest :=
  let manifest := Canonical.dict [("selection_version", .int selection.version),
    ("provider", .str selection.provider.value), ("scope_id", .str draft.scopeId),
    ("arm_scope", .str draft.armScope.value), ("base_policy_version", .int policy.version),
    ("as_of", .instant draft.asOf), ("data_available_cutoff", .instant draft.dataAvailableCutoff),
    ("context", draft.context), ("active_policy", policy.asPayload)]
  let contextManifestHash := hash.canonicalHash manifest
  let requestId := hash.stableId "control-request" [.str selection.selectionId, .str draft.scopeId,
    .str draft.armScope.value, .int policy.version, .str contextManifestHash,
    .instant draft.createdAt]
  let prompt := buildDecisionPrompt requestId selection.provider draft.scopeId draft.armScope
    policy.version contextManifestHash
  { requestId, selectionVersion := selection.version, provider := selection.provider
    model := selection.provider.model, reasoningProfile := selection.provider.reasoningProfile
    scopeId := draft.scopeId, armScope := draft.armScope, basePolicyVersion := policy.version
    asOf := draft.asOf, dataAvailableCutoff := draft.dataAvailableCutoff
    expiresAt := draft.createdAt + requestTtl, context := draft.context
    activePolicy := policy.asPayload, contextManifestHash
    promptHash := hash.canonicalHash (.str prompt), createdAt := draft.createdAt }

namespace ControlTables

def storeRequest (tables : ControlTables R) (hash : Hashing) (row : CommanderRequestRow) :
    Except Failure (ControlTables R) :=
  match tables.requests.find? (·.request.requestId = row.request.requestId) with
  | some stored => do
    raiseIf (hash.canonicalHash stored.request.payload ≠ hash.canonicalHash row.request.payload)
      (decisionConflict "Deterministic commander request ID has different content")
    return tables
  | none => return { tables with requests := tables.requests ++ [row] }

def createRequest (env : ControlEnvironment) (hash : Hashing) (draft : RequestDraft)
    (tables : ControlTables R) : Except Failure (ControlTables R) := do
  raiseIf (draft.asOf < draft.dataAvailableCutoff)
    (controlPlaneError "data_available_cutoff must not exceed as_of")
  raiseIf (draft.scopeId.toList.all isSpace ∨ 80 < draft.scopeId.length)
    (controlPlaneError "scope_id must contain 1 to 80 characters")
  raiseIf (maxContextBytes < env.jsonBytes draft.context)
    (controlPlaneError "Context exceeds 524288 UTF-8 bytes")
  match tables.latestSelectionRow with
  | none => .error (controlPlaneError "Select a commander provider first")
  | some selection => do
    let (policy, resolved) ← tables.resolvePolicyState draft.armScope.value draft.scopeId draft.asOf
    resolved.storeRequest hash ⟨draft.request hash selection policy, selection.selectionId⟩

end ControlTables

/-- What `submit_decision` is called with. -/
structure Submission (R : Type) where
  requestId : String
  provider : CommanderProvider
  output : AdaptivePolicyDecision R
  receivedAt : Instant
  cycleId : Option String
  cycleLeaseOwner : Option String
  cycleAttemptCount : Option ℕ
  databaseClock : Option Instant
deriving DecidableEq

def Submission.payloadHash (submission : Submission R) (hash : Hashing) : String :=
  hash.canonicalHash submission.output.payload

def Submission.decisionId (submission : Submission R) (hash : Hashing) : String :=
  hash.stableId "control-decision" [.str submission.requestId, .str (submission.payloadHash hash)]

/-- How a decision ends: the fields of its receipt that the branches of `submit_decision` set. -/
structure Verdict where
  status : DecisionStatus
  reasonCode : String
  reasonDetail : String
  appliedPolicyVersion : Option ℕ := none
  compiledPolicyHash : Option String := none
deriving DecidableEq

def Verdict.rejection (reasonCode reasonDetail : String) : Verdict :=
  ⟨.rejected, reasonCode, reasonDetail, none, none⟩

def Verdict.acceptance (version : ℕ) (compiledHash : String) : Verdict :=
  ⟨.accepted, "POLICY_APPLIED", "Validated policy patch compiled into a new shadow policy version",
    some version, some compiledHash⟩

namespace ControlTables

variable (tables : ControlTables R)

def assertCycleFence (cycleId leaseOwner : String) (attemptCount : ℕ)
    (comparisonNow : Instant) : Except Failure Unit :=
  raiseIf (¬(tables.cycles.find? fun row : PaperCycleRow => row.cycleId = cycleId).any fun cycle =>
      cycle.status = "RUNNING" ∧ cycle.leaseOwner = some leaseOwner ∧
      cycle.attemptCount = attemptCount ∧ cycle.leaseExpiresAt.any (comparisonNow < ·))
    (controlPlaneError "Commander cycle lease fence is stale")

/-- The fence of `submit_decision`, if the caller gave one. -/
def checkFence (submission : Submission R) : Except Failure Unit :=
  match submission.cycleId, submission.cycleLeaseOwner, submission.cycleAttemptCount with
  | none, none, none => return ()
  | some cycleId, some leaseOwner, some attemptCount =>
    tables.assertCycleFence cycleId leaseOwner attemptCount
      (submission.databaseClock.getD submission.receivedAt)
  | _, _, _ => .error (controlPlaneError "Commander cycle fence is incomplete")

def selectionError (row : CommanderRequestRow)
    (provider : CommanderProvider) : Option (String × String) :=
  match tables.latestSelectionRow with
  | none => some ("NO_ACTIVE_PROVIDER", "No commander provider is currently selected")
  | some current =>
    if current.selectionId ≠ row.selectionId ∨ current.version ≠ row.request.selectionVersion ∨
        current.provider ≠ provider then
      some ("STALE_SELECTION", "The UI selection changed after this request was prepared")
    else none

def bindingError (row : CommanderRequestRow)
    (submission : Submission R) : Option (String × String) :=
  let request := row.request
  let decision := submission.output
  if request.expiresAt ≤ submission.receivedAt then
    some ("REQUEST_EXPIRED", "The decision request has expired")
  else if decision.requestId ≠ request.requestId then
    some ("REQUEST_ID_MISMATCH", "Output request_id does not match its envelope")
  else if decision.contextManifestHash ≠ request.contextManifestHash then
    some ("CONTEXT_HASH_MISMATCH",
      "Output context_manifest_hash does not match the prepared request")
  else if decision.armScope ≠ request.armScope then
    some ("ARM_SCOPE_MISMATCH", "Output arm_scope differs from the request")
  else if decision.basePolicyVersion ≠ request.basePolicyVersion then
    some ("BASE_VERSION_MISMATCH", "Output base_policy_version differs from the request")
  else if ∃ eventId ∈ decision.evidenceNewsEventIds, eventId ∉ requestNewsEventIds request then
    some ("EVIDENCE_NOT_IN_CONTEXT",
      "Output cites news-event evidence outside the prepared request")
  else if submission.provider ≠ request.provider then
    some ("PROVIDER_MISMATCH", "Request belongs to " ++ request.provider.value ++ ", not " ++
      submission.provider.value)
  else tables.selectionError row submission.provider

end ControlTables

def replaceZulu (value : String) : String :=
  String.ofList (value.toList.flatMap fun c => if c = 'Z' then "+00:00".toList else [c])

def isExpiryRollback (env : ControlEnvironment) (expiresAt : Instant)
    (condition : TypedCondition R) :
    Except Failure Bool :=
  match condition.value with
  | .text value =>
    if condition.conditionType ≠ .timeReached ∨ condition.field ≠ "current_time" then
      return false
    else
      match env.fromisoformat (replaceZulu value) with
      | .invalid => return false
      | .naive => .error ⟨.valueError, "datetime must be timezone-aware", []⟩
      | .aware expected => return expected = expiresAt
  | _ => return false

def allExpiryRollbacks (env : ControlEnvironment) (expiresAt : Instant) :
    List (TypedCondition R) → Except Failure Bool
  | [] => return true
  | condition :: conditions => do
    if ← isExpiryRollback env expiresAt condition then
      allExpiryRollbacks env expiresAt conditions
    else return false

def Submission.patch (submission : Submission R) (hash : Hashing) (request : CommanderRequest)
    (effectiveFrom expiresAt : Instant) : Except Failure (PolicyPatch R) :=
  if operations : submission.output.operations = [] then
    .error (.validation "PolicyPatch" [⟨"operations",
      "List should have at least 1 item after validation, not 0"⟩])
  else if evidence : submission.output.evidenceNewsEventIds = [] then
    .error (.validation "PolicyPatch" [⟨"evidence_news_event_ids",
      "List should have at least 1 item after validation, not 0"⟩])
  else if window : effectiveFrom < expiresAt then
    return {
      patchId := hash.stableId "policy-patch" [.str (submission.decisionId hash)]
      armScope := submission.output.armScope.value
      basePolicyVersion := submission.output.basePolicyVersion
      effectiveFrom, expiresAt
      operations := submission.output.operations
      evidenceNewsEventIds := submission.output.evidenceNewsEventIds
      rawConfidence := submission.output.rawConfidence
      rollbackConditions := submission.output.rollbackConditions
      modelRunId := hash.stableId "model-run" [.str submission.provider.value,
        .str submission.requestId]
      promptHash := request.promptHash
      contextManifestHash := request.contextManifestHash
      createdAt := submission.receivedAt
      window, operations_ne := operations, evidence_ne := evidence }
  else .error (.record "PolicyPatch" "PolicyPatch expires_at must be after effective_from")

namespace ControlTables

variable (tables : ControlTables R)

def storePatch (scopeId : String) (patch : PolicyPatch R)
    (compiled : PolicyState R) : Except Failure (ControlTables R) := do
  raiseIf (∃ other ∈ tables.patches, other.patch.patchId = patch.patchId)
    (uniqueViolation "policy_patches_pkey")
  let patched : ControlTables R := { tables with patches := tables.patches ++ [⟨scopeId, patch⟩] }
  patched.appendVersion ⟨scopeId, compiled, patch.createdAt⟩

/-- The part of `submit_decision` that holds the policy lock. -/
def adopt (hash : Hashing) (request : CommanderRequest)
    (submission : Submission R) (effectiveFrom expiresAt : Instant) :
    Except Failure (Verdict × ControlTables R) := do
  let (current, resolved) ← tables.resolvePolicyState request.armScope.value request.scopeId
    submission.receivedAt
  if current.version ≠ request.basePolicyVersion then
    return (.rejection "POLICY_VERSION_CONFLICT"
      s!"Request base version {request.basePolicyVersion} is stale; current version is {current.version}", resolved)
  else
    let patch ← submission.patch hash request effectiveFrom expiresAt
    match compile patch current submission.receivedAt true with
    | .error failure => return (.rejection "POLICY_COMPILE_REJECTED" failure.message, resolved)
    | .ok compiled => do
      let stored ← resolved.storePatch request.scopeId patch compiled
      return (Verdict.acceptance compiled.version (hash.canonicalHash compiled.asPayload), stored)

def judgePatch (env : ControlEnvironment) (hash : Hashing)
    (request : CommanderRequest) (submission : Submission R) :
    Except Failure (Verdict × ControlTables R) :=
  match submission.output.effectiveFrom, submission.output.expiresAt with
  | some effectiveFrom, some expiresAt => do
    if maxPolicyTtl < expiresAt - effectiveFrom then
      return (.rejection "POLICY_TTL_EXCEEDED" "B3 policy TTL cannot exceed six hours", tables)
    else
      let supported ← allExpiryRollbacks env expiresAt submission.output.rollbackConditions
      if submission.output.rollbackConditions = [] ∨ supported = false then
        return (.rejection "UNSUPPORTED_ROLLBACK_CONDITION"
          "Forward paper currently supports TIME_REACHED rollback conditions only", tables)
      else tables.adopt hash request submission effectiveFrom expiresAt
  | _, _ => .error (controlPlaneError "Validated APPLY_PATCH decision lost its time window")

def judge (env : ControlEnvironment) (hash : Hashing)
    (row : CommanderRequestRow) (submission : Submission R) :
    Except Failure (Verdict × ControlTables R) :=
  match tables.bindingError row submission with
  | some (code, detail) => return (.rejection code detail, tables)
  | none =>
    match submission.output.decision with
    | .noChange => return (Verdict.mk .noChange "MODEL_NO_CHANGE"
        submission.output.rationaleSummary none none, tables)
    | .applyPatch => tables.judgePatch env hash row.request submission

end ControlTables

/-- The receipt that `_store_result` builds. -/
def Submission.receipt (submission : Submission R) (decisionId : String)
    (request : CommanderRequest)
    (verdict : Verdict) : DecisionReceipt where
  decisionId := decisionId
  requestId := request.requestId
  provider := submission.provider
  status := verdict.status
  reasonCode := verdict.reasonCode
  reasonDetail := String.ofList (verdict.reasonDetail.toList.take 500)
  armScope := request.armScope
  basePolicyVersion := request.basePolicyVersion
  appliedPolicyVersion := verdict.appliedPolicyVersion
  compiledPolicyHash := verdict.compiledPolicyHash
  createdAt := submission.receivedAt
  idempotentReplay := false

namespace ControlTables

def storeResult (tables : ControlTables R) (receipt : DecisionReceipt) :
    Except Failure (DecisionReceipt × ControlTables R) := do
  raiseIf (∃ other ∈ tables.results, other.decisionId = receipt.decisionId)
    (uniqueViolation "commander_decision_results_decision_id_key")
  return (receipt, { tables with results := tables.results ++ [⟨receipt.decisionId, receipt⟩] })

def decide (tables : ControlTables R) (env : ControlEnvironment) (hash : Hashing)
    (row : CommanderRequestRow) (submission : Submission R) :
    Except Failure (DecisionReceipt × ControlTables R) := do
  let decision : CommanderDecisionRow := ⟨submission.decisionId hash, submission.requestId,
    submission.provider, submission.receivedAt, submission.payloadHash hash⟩
  raiseIf (∃ other ∈ tables.decisions, other.decisionId = decision.decisionId)
    (uniqueViolation "commander_decisions_pkey")
  let decided : ControlTables R := { tables with decisions := tables.decisions ++ [decision] }
  let (verdict, judged) ← decided.judge env hash row submission
  judged.storeResult (submission.receipt decision.decisionId row.request verdict)

def replay (tables : ControlTables R) (hash : Hashing) (submission : Submission R)
    (previous : CommanderDecisionRow) : Except Failure (DecisionReceipt × ControlTables R) := do
  raiseIf (previous.payloadHash ≠ submission.payloadHash hash)
    (decisionConflict "A different decision already consumed this request")
  match tables.results.find? (·.decisionId = previous.decisionId) with
  | none => .error (controlPlaneError "Decision exists without a terminal result")
  | some result => do
    raiseIf (result.receipt.provider ≠ previous.provider)
      (controlPlaneError "Decision provider and result provider disagree")
    return ({ result.receipt with idempotentReplay := true }, tables)

def submitDecision (env : ControlEnvironment) (hash : Hashing) (submission : Submission R)
    (tables : ControlTables R) : Except Failure (DecisionReceipt × ControlTables R) := do
  submission.output.validate
  tables.checkFence submission
  match tables.requests.find? (·.request.requestId = submission.requestId) with
  | none => .error ⟨.requestNotFound, "Unknown request_id: " ++ submission.requestId, []⟩
  | some row =>
    match tables.decisions.find? (·.requestId = submission.requestId) with
    | some previous => tables.replay hash submission previous
    | none => tables.decide env hash row submission

end ControlTables

/-- One call on the control plane. -/
inductive ControlAction (R : Type)
  | leaseCycles (cycles : List PaperCycleRow)
  | select (provider : CommanderProvider) (expectedVersion : Option ℕ) (selectedAt : Instant)
  | request (draft : RequestDraft)
  | submit (submission : Submission R)
  | resolve (armScope scopeId : String) (activeAt : Instant)

def controlStep (env : ControlEnvironment) (hash : Hashing) (tables : ControlTables R) :
    ControlAction R → Except Failure (ControlTables R)
  | .leaseCycles cycles => .ok { tables with cycles }
  | .select provider expectedVersion selectedAt =>
    tables.selectProvider hash provider expectedVersion selectedAt
  | .request draft => tables.createRequest env hash draft
  | .submit submission => (·.2) <$> tables.submitDecision env hash submission
  | .resolve armScope scopeId activeAt =>
    (·.2) <$> tables.resolvePolicyState armScope scopeId activeAt

/-- The runs of the control plane; a transaction that fails is rolled back. -/
abbrev ControlRun (env : ControlEnvironment) (hash : Hashing) :=
  Run fun (tables : ControlTables R) action => controlStep env hash tables action

def ControlTables.empty : ControlTables R := ⟨[], [], [], [], [], [], []⟩

end AdaptiveQuant.Control
