import AdaptiveQuant.Domain.CanonicalText
import AdaptiveQuant.Lib.Sequence
import Mathlib.Data.String.Basic

/-! The records of a research cycle. -/

namespace AdaptiveQuant.ResearchPlane

open Guard Sequence

inductive ResearchCommanderKind
  | codexSolMax
  | webgptSolPro
deriving DecidableEq

def ResearchCommanderKind.value : ResearchCommanderKind → String
  | .codexSolMax => "CODEX_SOL_MAX"
  | .webgptSolPro => "WEBGPT_SOL_PRO"

structure CommanderSelection where
  selectionId : String
  version : ℕ
  selectedCommander : ResearchCommanderKind
  effectiveAt : Instant
  createdAt : Instant
  configHash : String
deriving DecidableEq

inductive ResearchActionKind
  | addFeature
  | removeFeature
  | changeSignalForm
  | addRegimeGate
  | changePositionSizing
  | changeExitRule
  | addDiversifyingSleeve
  | recalibrateParameter
  | retireRedundantSleeve
  | requestNewData
  | unknownLegacy
deriving DecidableEq

def ResearchActionKind.value : ResearchActionKind → String
  | .addFeature => "ADD_FEATURE"
  | .removeFeature => "REMOVE_FEATURE"
  | .changeSignalForm => "CHANGE_SIGNAL_FORM"
  | .addRegimeGate => "ADD_REGIME_GATE"
  | .changePositionSizing => "CHANGE_POSITION_SIZING"
  | .changeExitRule => "CHANGE_EXIT_RULE"
  | .addDiversifyingSleeve => "ADD_DIVERSIFYING_SLEEVE"
  | .recalibrateParameter => "RECALIBRATE_PARAMETER"
  | .retireRedundantSleeve => "RETIRE_REDUNDANT_SLEEVE"
  | .requestNewData => "REQUEST_NEW_DATA"
  | .unknownLegacy => "UNKNOWN_LEGACY"

/-- `AvailableInstrumentV1`: the fields that a proposal is checked against. -/
structure AvailableInstrument where
  symbol : String
  usEquity : Bool
  pointInTimeMembershipAvailable : Bool
  dailyHistorySessions : ℕ
  executionSupported : Bool
deriving DecidableEq

/-- `AvailableDataCatalogV1`: the instruments, and the digest of the whole record. -/
structure AvailableDataCatalog where
  instruments : List AvailableInstrument
  canonicalHash : String
deriving DecidableEq

/-- What a request of the second generation adds: the memory snapshot and the action plan. -/
structure ActionPlanBinding where
  snapshotHash : String
  planHash : String
  rankedActions : List (ResearchActionKind × ℕ)
deriving DecidableEq

def ActionPlanBinding.permittedActionKinds (plan : ActionPlanBinding) : List ResearchActionKind :=
  (plan.rankedActions.filter (0 < ·.2)).map (·.1)

/-- `ResearchRequestV1` and `ResearchRequestV2`: the fields that the host reads, and the canonical
data of the others. -/
structure ResearchRequest where
  requestId : String
  researchCycleId : String
  selectedCommander : ResearchCommanderKind
  commanderSelectionId : String
  commanderSelectionVersion : ℕ
  createdAt : Instant
  expiresAt : Instant
  sourceSnapshotCommit : String
  championVersion : String
  experimentFamily : String
  championStrategyId : Option String
  evidenceBundleHashes : List String
  availableDataCatalogHash : String
  allowedChangeScope : List String
  forbiddenChangeScope : List String
  actionPlan : Option ActionPlanBinding
  contextManifestHash : String
  others : Canonical
deriving DecidableEq

namespace ResearchRequest

def schemaVersion (request : ResearchRequest) : String :=
  if request.actionPlan.isSome then "research_request_v2" else "research_request_v1"

/-- What `canonical_hash(request)` is a digest of. -/
def payload (request : ResearchRequest) : Canonical :=
  let texts (items : List String) : Canonical := .list (items.map .str)
  let plan : Canonical := match request.actionPlan with
    | none => .null
    | some plan => .dict [("snapshot_hash", .str plan.snapshotHash),
      ("plan_hash", .str plan.planHash),
        ("ranked_actions", .list (plan.rankedActions.map fun item =>
        .list [.str item.1.value, .int item.2]))]
  .dict [("schema_version", .str request.schemaVersion), ("request_id", .str request.requestId),
    ("research_cycle_id", .str request.researchCycleId),
    ("selected_commander", .str request.selectedCommander.value),
    ("commander_selection_id", .str request.commanderSelectionId),
    ("commander_selection_version", .int request.commanderSelectionVersion),
    ("created_at", .instant request.createdAt), ("expires_at", .instant request.expiresAt),
    ("source_snapshot_commit", .str request.sourceSnapshotCommit),
    ("champion_version", .str request.championVersion),
    ("experiment_family", .str request.experimentFamily),
    ("champion_strategy_id", .optStr request.championStrategyId),
    ("recent_web_research", texts request.evidenceBundleHashes),
    ("available_data_catalog", .str request.availableDataCatalogHash),
    ("allowed_change_scope", texts request.allowedChangeScope),
    ("forbidden_change_scope", texts request.forbiddenChangeScope), ("action_plan", plan),
    ("context_manifest_hash", .str request.contextManifestHash), ("others", request.others)]

def assertCurrentSelection (request : ResearchRequest) (current : CommanderSelection) :
    Except Failure Unit :=
  raiseIf (current.selectionId ≠ request.commanderSelectionId ∨
      current.version ≠ request.commanderSelectionVersion ∨
      current.selectedCommander ≠ request.selectedCommander ∨
      current.createdAt > request.createdAt ∨ current.effectiveAt > request.createdAt)
    ⟨.valueError, "STALE_SELECTION", []⟩

end ResearchRequest

/-- `AlgorithmProposalV1` and `AlgorithmProposalV2`: the fields that the host and the repository
read. -/
structure AlgorithmProposal where
  proposalId : String
  hypothesisId : String
  parentStrategyId : String
  parentStrategyVersion : String
  proposedStrategyId : String
  proposedStrategyVersion : String
  targetHorizon : String
  targetUniverse : List String
  requiredData : List String
  estimatedCapacity : Canonical
  estimatedTurnover : Canonical
  filesAllowedToChange : List String
  evidenceSourceIds : List String
  primaryActionKind : Option ResearchActionKind
  proposalHash : String
deriving DecidableEq

def proposalError (message : String) : Failure := ⟨.valueError, message, []⟩

def joined (items : List String) : String := String.intercalate "," items

/-- The characters that `str.strip` removes. -/
def isSpace (c : Char) : Bool :=
  c.toNat ∈ [9, 10, 11, 12, 13, 28, 29, 30, 31, 32, 133, 160, 5760, 8192, 8193, 8194, 8195, 8196,
    8197, 8198, 8199, 8200, 8201, 8202, 8232, 8233, 8239, 8287, 12288]

def rstrip (drop : Char → Bool) (text : List Char) : List Char :=
  (text.reverse.dropWhile drop).reverse

def splitPath : List Char → List (List Char)
  | [] => [[]]
  | '/' :: rest => [] :: splitPath rest
  | c :: rest => match splitPath rest with
    | [] => [[c]]
    | part :: parts => (c :: part) :: parts

def scopePrefix (value : String) : Except Failure (List Char) := do
  let slashed := value.toList.map fun c => if c = '\\' then '/' else c
  let normalized := (rstrip isSpace (slashed.dropWhile isSpace)).dropWhile fun c => c =
    '.' || c = '/'
  raiseIf (normalized = [] ∨ ['.', '.'] ∈ splitPath normalized)
    (proposalError "request contains an unsafe file scope")
  let trimmed := if ['/', '*', '*'].isSuffixOf normalized then
    rstrip (· = '/') (normalized.take (normalized.length - 3)) else normalized
  return if ['/'].isSuffixOf trimmed then trimmed else trimmed ++ ['/']

def validateProposalAgainstRequest (proposal : AlgorithmProposal) (request : ResearchRequest) :
    Except Failure Unit := do
  raiseIf (∃ strategyId ∈ request.championStrategyId, proposal.parentStrategyId ≠ strategyId)
    (proposalError "proposal parent strategy does not match the current Champion")
  raiseIf (proposal.parentStrategyVersion ≠ request.championVersion)
    (proposalError "proposal parent version does not match the current Champion")
  let forbidden ← request.forbiddenChangeScope.mapM scopePrefix
  let allowed ← request.allowedChangeScope.mapM scopePrefix
  let violations := proposal.filesAllowedToChange.filter fun path =>
    !allowed.any (·.isPrefixOf path.toList) || forbidden.any (·.isPrefixOf path.toList)
  raiseIf (violations ≠ [])
    (proposalError ("proposal file scope exceeds the Commander request: " ++
      joined (sortedBy id violations)))

def AvailableDataCatalog.instrument? (catalog : AvailableDataCatalog) (symbol : String) :
    Option AvailableInstrument := catalog.instruments.reverse.find? (·.symbol = symbol)

def missingData (catalog : AvailableDataCatalog) (symbol : String) : List String :=
  match catalog.instrument? symbol with
  | none => []
  | some instrument =>
    (if instrument.dailyHistorySessions = 0 then [symbol ++ ":NO_DAILY_HISTORY"] else []) ++
      if instrument.usEquity = true ∧ instrument.pointInTimeMembershipAvailable = false then
        [symbol ++ ":NO_PIT_MEMBERSHIP"] else []

def validateProposalAgainstCatalog (proposal : AlgorithmProposal) (catalog : AvailableDataCatalog)
    (evidenceSourceIds : List String) (request : ResearchRequest) : Except Failure Unit := do
  let missing := proposal.targetUniverse.dedup.filter fun symbol =>
    (catalog.instrument? symbol).isNone
  raiseIf (missing ≠ [])
    (proposalError ("target universe is outside the versioned data catalog: " ++
      joined (sortedBy id missing)))
  let unsupported := proposal.evidenceSourceIds.dedup.filter (· ∉ evidenceSourceIds)
  raiseIf (unsupported ≠ [])
    (proposalError ("proposal cites evidence outside the current request: " ++
      joined (sortedBy id unsupported)))
  let lacking := proposal.targetUniverse.flatMap (missingData catalog)
  raiseIf (lacking ≠ [])
    (proposalError ("target universe lacks mandatory research data: " ++ joined lacking))
  validateProposalAgainstRequest proposal request

def requireShadowExecutionSupport (proposal : AlgorithmProposal) (catalog : AvailableDataCatalog) :
    Except Failure Unit :=
  let blocked := proposal.targetUniverse.filter fun symbol =>
    !(catalog.instrument? symbol).any (·.executionSupported)
  raiseIf (blocked ≠ [])
    (proposalError ("shadow execution is unsupported for: " ++ joined (sortedBy id blocked)))

/-- `ResearchSourceRecord`: its name and its digest. -/
structure ResearchSource where
  sourceId : String
  contentHash : String
deriving DecidableEq

/-- `ResearchEvidenceBundleV1`: the fields that the import reads, and the digest of the whole. -/
structure EvidenceBundle where
  researchCycleId : String
  capturedAt : Instant
  sources : List ResearchSource
  claimCount : ℕ
  canonicalHash : String
deriving DecidableEq

/-- `ResearchDecisionV1` and `ResearchDecisionV2`. -/
structure ResearchDecision where
  requestId : String
  researchCycleId : String
  selectedCommander : ResearchCommanderKind
  commanderSelectionId : String
  commanderSelectionVersion : ℕ
  sourceSnapshotCommit : String
  championVersion : String
  experimentFamily : String
  contextManifestHash : String
  requestSchemaVersion : String
  requestExpiresAt : Instant
  proposal : Option AlgorithmProposal
  planHashes : Option (String × String)
  createdAt : Instant
  outputHash : String
deriving DecidableEq

namespace ResearchDecision

variable (decision : ResearchDecision)

def payload : Canonical :=
  .dict [("request_id", .str decision.requestId),
    ("research_cycle_id", .str decision.researchCycleId),
    ("proposal", .optStr (decision.proposal.map (·.proposalHash))),
    ("created_at", .instant decision.createdAt), ("output_hash", .str decision.outputHash)]

def BoundTo (request : ResearchRequest) : Prop :=
  decision.requestId = request.requestId ∧ decision.researchCycleId = request.researchCycleId ∧
    decision.selectedCommander = request.selectedCommander ∧
    decision.commanderSelectionId = request.commanderSelectionId ∧
    decision.commanderSelectionVersion = request.commanderSelectionVersion ∧
    decision.sourceSnapshotCommit = request.sourceSnapshotCommit ∧
    decision.championVersion = request.championVersion ∧
    decision.experimentFamily = request.experimentFamily ∧
    decision.contextManifestHash = request.contextManifestHash ∧
    decision.requestSchemaVersion = request.schemaVersion ∧
    decision.requestExpiresAt = request.expiresAt

instance (request : ResearchRequest) : Decidable (decision.BoundTo request) := by
  unfold BoundTo; infer_instance

def assertBoundTo (request : ResearchRequest) (receivedAt : Instant)
    (current : CommanderSelection) : Except Failure Unit := do
  raiseIf (¬decision.BoundTo request) ⟨.valueError, "research decision binding mismatch", []⟩
  raiseIf (receivedAt ≥ request.expiresAt) ⟨.valueError, "research request expired", []⟩
  request.assertCurrentSelection current

def assertBoundToV2 (request : ResearchRequest) (receivedAt : Instant)
    (current : CommanderSelection) : Except Failure Unit := do
  raiseIf (¬(decision.BoundTo request ∧ decision.planHashes =
      request.actionPlan.map fun plan => (plan.snapshotHash, plan.planHash)))
    ⟨.valueError, "ResearchDecisionV2 binding mismatch", []⟩
  raiseIf (receivedAt ≥ request.expiresAt) ⟨.valueError, "research request expired", []⟩
  request.assertCurrentSelection current
  raiseIf (∃ proposal ∈ decision.proposal, ∃ plan ∈ request.actionPlan,
      ∀ kind ∈ proposal.primaryActionKind, kind ∉ plan.permittedActionKinds)
    ⟨.valueError, "proposal primary action is outside the action plan", []⟩

end ResearchDecision

end AdaptiveQuant.ResearchPlane
