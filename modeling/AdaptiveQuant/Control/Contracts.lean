import AdaptiveQuant.Llm.PolicyCompiler

/-! The contracts of the control plane. -/

namespace AdaptiveQuant.Control

open Guard

variable {R : Type}

inductive CommanderProvider
  | codexSolMax
  | webgptSolPro
deriving DecidableEq

def CommanderProvider.value : CommanderProvider → String
  | .codexSolMax => "CODEX_SOL_MAX"
  | .webgptSolPro => "WEBGPT_SOL_PRO"

def CommanderProvider.model : CommanderProvider → String
  | .codexSolMax => "gpt-5.6-sol"
  | .webgptSolPro => "gpt-5.6-sol"

def CommanderProvider.reasoningProfile : CommanderProvider → String
  | .codexSolMax => "max"
  | .webgptSolPro => "pro"

inductive ArmScope
  | b3Risk
  | b3Full
deriving DecidableEq

def ArmScope.value : ArmScope → String
  | .b3Risk => "B3-RISK"
  | .b3Full => "B3-FULL"

structure CommanderRequest where
  requestId : String
  selectionVersion : ℕ
  provider : CommanderProvider
  model : String
  reasoningProfile : String
  scopeId : String
  armScope : ArmScope
  basePolicyVersion : ℕ
  asOf : Instant
  dataAvailableCutoff : Instant
  expiresAt : Instant
  context : Canonical
  activePolicy : Canonical
  contextManifestHash : String
  promptHash : String
  createdAt : Instant
deriving DecidableEq

def CommanderRequest.payload (request : CommanderRequest) : Canonical :=
  .dict [("schema_version", .str "adaptive_control_request_v1"),
    ("request_id", .str request.requestId), ("selection_version", .int request.selectionVersion),
    ("provider", .str request.provider.value), ("model", .str request.model),
    ("reasoning_profile", .str request.reasoningProfile), ("scope_id", .str request.scopeId),
    ("arm_scope", .str request.armScope.value),
    ("base_policy_version", .int request.basePolicyVersion), ("as_of", .instant request.asOf),
    ("data_available_cutoff", .instant request.dataAvailableCutoff),
    ("expires_at", .instant request.expiresAt), ("context", request.context),
    ("active_policy", request.activePolicy),
    ("context_manifest_hash", .str request.contextManifestHash),
    ("prompt_hash", .str request.promptHash), ("created_at", .instant request.createdAt)]

def requestNewsEventIds (request : CommanderRequest) : List String :=
  match request.context.get? "news_analyses" with
  | none => []
  | some analyses => analyses.items.filterMap fun analysis =>
    match analysis.get? "news_event_id" with
    | some (.str eventId) => if eventId = "" then none else some eventId
    | _ => none

inductive DecisionKind
  | noChange
  | applyPatch
deriving DecidableEq

def DecisionKind.value : DecisionKind → String
  | .noChange => "NO_CHANGE"
  | .applyPatch => "APPLY_PATCH"

structure AdaptivePolicyDecision (R : Type) where
  requestId : String
  contextManifestHash : String
  decision : DecisionKind
  armScope : ArmScope
  basePolicyVersion : ℕ
  effectiveFrom : Option Instant
  expiresAt : Option Instant
  operations : List (PolicyOperation R)
  evidenceNewsEventIds : List String
  rawConfidence : R
  rollbackConditions : List (TypedCondition R)
  rationaleSummary : String
deriving DecidableEq

def isHash (text : String) : Prop :=
  text.length = 64 ∧ ∀ c ∈ text.toList, c.isDigit ∨ c ∈ ['a', 'b', 'c', 'd', 'e', 'f']

instance (text : String) : Decidable (isHash text) :=
  @instDecidableAnd _ _ inferInstance (List.decidableBAll _ _)

def itemsCheck {α : Type} (field : String) (most : ℕ) (items : List α) : List FieldError :=
  fieldCheck field (items.length ≤ most)
    s!"List should have at most {most} items after validation, not {items.length}"

section Numbers

variable [PolicyNumber R]

variable (decision : AdaptivePolicyDecision R)

def AdaptivePolicyDecision.fieldErrors : List FieldError :=
  lengthCheck "request_id" 100 decision.requestId ++
    fieldCheck "context_manifest_hash" (isHash decision.contextManifestHash)
      "String should match pattern '^[0-9a-f]\x7b64\x7d$'" ++
    itemsCheck "operations" 20 decision.operations ++
    itemsCheck "evidence_news_event_ids" 100 decision.evidenceNewsEventIds ++
    fieldCheck "raw_confidence" (0 ≤ decision.rawConfidence)
      "Input should be greater than or equal to 0" ++
    fieldCheck "raw_confidence" (decision.rawConfidence ≤ 1)
      "Input should be less than or equal to 1" ++
    itemsCheck "rollback_conditions" 20 decision.rollbackConditions ++
    lengthCheck "rationale_summary" 2000 decision.rationaleSummary

def decisionError (message : String) : Failure := .record "AdaptivePolicyDecision" message

def AdaptivePolicyDecision.validateDecision :
    Except Failure Unit :=
  match decision.decision with
  | .noChange => do
    raiseIf (decision.effectiveFrom.isSome ∨ decision.expiresAt.isSome)
      (decisionError "NO_CHANGE must not include an effective window")
    raiseIf (decision.operations ≠ [] ∨ decision.rollbackConditions ≠ [])
      (decisionError "NO_CHANGE must not include policy operations")
  | .applyPatch => do
    raiseIf (decision.effectiveFrom.isNone ∨ decision.expiresAt.isNone)
      (decisionError "APPLY_PATCH requires effective_from and expires_at")
    raiseIf (∃ effectiveFrom ∈ decision.effectiveFrom, ∃ expiresAt ∈ decision.expiresAt,
        expiresAt ≤ effectiveFrom)
      (decisionError "expires_at must be after effective_from")
    raiseIf (decision.operations = [])
      (decisionError "APPLY_PATCH requires at least one operation")
    raiseIf (decision.evidenceNewsEventIds = [])
      (decisionError "APPLY_PATCH requires news-event evidence")

/-- `AdaptivePolicyDecision.model_validate`. -/
def AdaptivePolicyDecision.validate : Except Failure Unit := do
  raiseIf (decision.fieldErrors ≠ []) (.validation "AdaptivePolicyDecision" decision.fieldErrors)
  decision.validateDecision

def optNumber (value : Option R) : Canonical := value.elim .null PolicyNumber.canonical

def PolicyOperation.payload (operation : PolicyOperation R) : Canonical :=
  .dict [("action", .str operation.action.value), ("target_kind", .str operation.targetKind.value),
    ("target_id", .str operation.targetId),
    ("risk_budget_delta", optNumber operation.riskBudgetDelta),
    ("risk_multiplier", optNumber operation.riskMultiplier),
    ("blocked", operation.blocked.elim .null .bool)]

def ConditionValue.payload : ConditionValue R → Canonical
  | .text value => .str value
  | .int value => .int value
  | .float value => PolicyNumber.canonical value
  | .bool value => .bool value
  | .none => .null

def TypedCondition.payload (condition : TypedCondition R) : Canonical :=
  .dict [("condition_id", .str condition.conditionId),
    ("condition_type", .str condition.conditionType.value), ("field", .str condition.field),
    ("operator", .str condition.operator.value), ("value", condition.value.payload),
    ("evaluation_window", .optStr condition.evaluationWindow),
    ("source_ids", .list (condition.sourceIds.map .str))]

def AdaptivePolicyDecision.payload : Canonical :=
  .dict [("schema_version", .str "adaptive_policy_decision_v1"),
    ("request_id", .str decision.requestId),
    ("context_manifest_hash", .str decision.contextManifestHash),
    ("decision", .str decision.decision.value), ("arm_scope", .str decision.armScope.value),
    ("base_policy_version", .int decision.basePolicyVersion),
    ("effective_from", .optInstant decision.effectiveFrom),
    ("expires_at", .optInstant decision.expiresAt),
    ("operations", .list (decision.operations.map (·.payload))),
    ("evidence_news_event_ids", .list (decision.evidenceNewsEventIds.map .str)),
    ("raw_confidence", PolicyNumber.canonical decision.rawConfidence),
    ("rollback_conditions", .list (decision.rollbackConditions.map (·.payload))),
    ("rationale_summary", .str decision.rationaleSummary)]

end Numbers

inductive DecisionStatus
  | accepted
  | rejected
  | noChange
deriving DecidableEq

structure DecisionReceipt where
  decisionId : String
  requestId : String
  provider : CommanderProvider
  status : DecisionStatus
  reasonCode : String
  reasonDetail : String
  armScope : ArmScope
  basePolicyVersion : ℕ
  appliedPolicyVersion : Option ℕ
  compiledPolicyHash : Option String
  createdAt : Instant
  idempotentReplay : Bool
deriving DecidableEq

end AdaptiveQuant.Control
