import AdaptiveQuant.Research.ExperimentOutcomes

/-! The contracts of `research/chronological_meta_oos.py`. -/

namespace AdaptiveQuant.ResearchPlane

open Guard Sequence

/-- The operations on Python floats that the audit uses.  Nothing is assumed of them, so a value may
also be a NaN or an infinity. -/
class MetaOosFloat (R : Type) where
  isFinite : R → Bool
  le : R → R → Bool
  lt : R → R → Bool
  zero : R
  minusOne : R
  abs : R → R
  canonical : R → Canonical

instance : MetaOosFloat ℚ where
  isFinite _ := true
  le a b := a ≤ b
  lt a b := a < b
  zero := 0
  minusOne := -1
  abs value := |value|
  canonical := .decimal

def metaOosError (reasonCode : String) : Failure := ⟨.metaOosError, reasonCode, []⟩

inductive MetaOosPolicyArm
  | staticChampion
  | fixedRecalibration
  | memorylessCommander
  | adaptiveMetaController
deriving DecidableEq

def MetaOosPolicyArm.value : MetaOosPolicyArm → String
  | .staticChampion => "STATIC_CHAMPION"
  | .fixedRecalibration => "FIXED_RECALIBRATION"
  | .memorylessCommander => "MEMORYLESS_COMMANDER"
  | .adaptiveMetaController => "ADAPTIVE_META_CONTROLLER"

def metaOosPolicyArms : List MetaOosPolicyArm :=
  [.staticChampion, .fixedRecalibration, .memorylessCommander, .adaptiveMetaController]

theorem mem_metaOosPolicyArms (arm : MetaOosPolicyArm) : arm ∈ metaOosPolicyArms := by
  cases arm <;> decide

inductive MetaOosAuditMode
  | recordedPitReplay
  | syntheticFixture
deriving DecidableEq

def MetaOosAuditMode.value : MetaOosAuditMode → String
  | .recordedPitReplay => "RECORDED_PIT_REPLAY"
  | .syntheticFixture => "SYNTHETIC_FIXTURE"

inductive MetaOosDecisionKind
  | noChange
  | runAction
deriving DecidableEq

structure MetaOosCommanderBinding where
  modelFamily : String
  modelVersion : String
  reasoningProfile : String
  promptTemplateHash : String
  requestSchemaHash : String
  outputSchemaHash : String
  bindingHash : String
deriving DecidableEq

def MetaOosCommanderBinding.entries (b : MetaOosCommanderBinding) : List (String × Canonical) :=
  [("schema_version", .str "meta_oos_commander_binding_v1"), ("model_family", .str b.modelFamily),
    ("model_version", .str b.modelVersion), ("reasoning_profile", .str b.reasoningProfile),
    ("prompt_template_hash", .str b.promptTemplateHash),
    ("request_schema_hash", .str b.requestSchemaHash),
    ("output_schema_hash", .str b.outputSchemaHash)]

def MetaOosCommanderBinding.fieldErrors (b : MetaOosCommanderBinding) : List FieldError :=
  identifierCheck "model_family" b.modelFamily ++ identifierCheck "model_version" b.modelVersion ++
    identifierCheck "reasoning_profile" b.reasoningProfile ++
    hashCheck "prompt_template_hash" b.promptTemplateHash ++
    hashCheck "request_schema_hash" b.requestSchemaHash ++
    hashCheck "output_schema_hash" b.outputSchemaHash ++ hashCheck "binding_hash" b.bindingHash

def validateCommanderBinding (hash : Hashing) (b : MetaOosCommanderBinding) :
    Except Failure Unit := do
  raiseIf (b.fieldErrors ≠ []) (.validation "MetaOosCommanderBindingV1" b.fieldErrors)
  raiseIf (hash.canonicalHash (.dict b.entries) ≠ b.bindingHash)
    (.record "MetaOosCommanderBindingV1" "meta-OOS Commander binding hash mismatch")

structure MetaOosCommanderInvocation where
  commanderBindingHash : String
  modelFamily : String
  modelVersion : String
  reasoningProfile : String
  promptHash : String
  requestHash : String
  requestSchemaHash : String
  outputSchemaHash : String
  outputHash : String
  invokedAt : Instant
  invocationHash : String
deriving DecidableEq

structure MetaOosEpoch where
  epochId : String
  decisionAt : Instant
  discoveryWindowStart : Instant
  discoveryWindowEnd : Instant
  maximumCandidateHorizonSessions : ℕ
  purgeSessions : ℕ
  embargoSessions : ℕ
  forwardWindowStart : Instant
  forwardWindowEnd : Instant
  outcomeAvailableAt : Instant
  marketDataManifestHash : String
  contextKey : String
  candidateGenerationBudget : ℕ
  oosBudget : ℕ
deriving DecidableEq

def MetaOosEpoch.data (e : MetaOosEpoch) : Canonical :=
  .dict [("schema_version", .str "meta_oos_epoch_v1"), ("epoch_id", .str e.epochId),
    ("decision_at", .instant e.decisionAt),
    ("discovery_window_start", .instant e.discoveryWindowStart),
    ("discovery_window_end", .instant e.discoveryWindowEnd),
    ("maximum_candidate_horizon_sessions", .int e.maximumCandidateHorizonSessions),
    ("purge_sessions", .int e.purgeSessions), ("embargo_sessions", .int e.embargoSessions),
    ("forward_window_start", .instant e.forwardWindowStart),
    ("forward_window_end", .instant e.forwardWindowEnd),
    ("outcome_available_at", .instant e.outcomeAvailableAt),
    ("market_data_manifest_hash", .str e.marketDataManifestHash),
    ("context_key", .str e.contextKey),
    ("candidate_generation_budget", .int e.candidateGenerationBudget),
    ("oos_budget", .int e.oosBudget)]

def MetaOosEpoch.fieldErrors (e : MetaOosEpoch) : List FieldError :=
  identifierCheck "epoch_id" e.epochId ++
    geCheck "maximum_candidate_horizon_sessions" 1 e.maximumCandidateHorizonSessions ++
    geCheck "purge_sessions" 1 e.purgeSessions ++ geCheck "embargo_sessions" 1 e.embargoSessions ++
    hashCheck "market_data_manifest_hash" e.marketDataManifestHash ++
    identifierCheck "context_key" e.contextKey

def epochFailure (message : String) : Failure := .record "MetaOosEpochV1" message

def validateEpoch (e : MetaOosEpoch) : Except Failure Unit := do
  raiseIf (e.fieldErrors ≠ []) (.validation "MetaOosEpochV1" e.fieldErrors)
  raiseIf (¬(e.discoveryWindowStart < e.discoveryWindowEnd ∧ e.discoveryWindowEnd < e.decisionAt ∧
      e.decisionAt < e.forwardWindowStart ∧ e.forwardWindowStart ≤ e.forwardWindowEnd ∧
      e.forwardWindowEnd ≤ e.outcomeAvailableAt))
        (epochFailure "meta-OOS epoch chronology is invalid")
  raiseIf (e.purgeSessions < e.maximumCandidateHorizonSessions)
    (epochFailure "meta-OOS purge is shorter than Candidate horizon")

/-- `MetaOosEvaluationContractV1`. -/
structure MetaOosEvaluationContract (R : Type) where
  minimumEpochs : ℕ
  maximumEpochs : ℕ
  maximumCandidateGenerationBudgetPerEpoch : ℕ
  maximumOosBudgetPerEpoch : ℕ
  maximumOuterAuditUsesPerDataset : ℕ
  maximumAbsoluteDailyReturn : R
  thresholds : List (String × Canonical)
  contractHash : String

/-- `ChronologicalMetaOosPlanV1`. -/
structure ChronologicalMetaOosPlan where
  planId : String
  epochs : List MetaOosEpoch
  policyArms : List MetaOosPolicyArm
  policyAdapterVersions : Dict MetaOosPolicyArm String
  auditMode : MetaOosAuditMode
  commanderBinding : MetaOosCommanderBinding
  evaluationContractHash : String
  outerAuditDatasetId : String
  outerAuditBudgetOrdinal : ℕ
  createdAt : Instant
  others : List (String × Canonical)
  planHash : String

def ChronologicalMetaOosPlan.data (p : ChronologicalMetaOosPlan) : Canonical :=
  .dict ([("schema_version", .str "chronological_meta_oos_plan_v1"), ("plan_id", .str p.planId),
    ("epochs", .list (p.epochs.map (·.data))),
    ("policy_arms", strings (p.policyArms.map (·.value))),
    ("policy_adapter_versions", .dict (sortedBy (·.1)
      (p.policyAdapterVersions.entries.map fun entry => (entry.1.value, .str entry.2)))),
    ("audit_mode", .str p.auditMode.value),
    ("commander_binding", .dict (p.commanderBinding.entries ++
      [("binding_hash", .str p.commanderBinding.bindingHash)])),
    ("evaluation_contract_hash", .str p.evaluationContractHash),
    ("outer_audit_dataset_id", .str p.outerAuditDatasetId),
    ("outer_audit_budget_ordinal", .int p.outerAuditBudgetOrdinal),
    ("created_at", .instant p.createdAt)] ++ p.others)

def ChronologicalMetaOosPlan.fieldErrors (p : ChronologicalMetaOosPlan) : List FieldError :=
  identifierCheck "plan_id" p.planId ++
    fieldCheck "epochs" (2 ≤ p.epochs.length) "Tuple should have at least 2 items" ++
    hashCheck "evaluation_contract_hash" p.evaluationContractHash ++
    identifierCheck "outer_audit_dataset_id" p.outerAuditDatasetId ++
    geCheck "outer_audit_budget_ordinal" 1 p.outerAuditBudgetOrdinal ++
    hashCheck "plan_hash" p.planHash

def planFailure (message : String) : Failure := .record "ChronologicalMetaOosPlanV1" message

def checkSuccessive (previous current : MetaOosEpoch) : Except Failure Unit := do
  raiseIf (previous.forwardWindowEnd ≥ current.discoveryWindowStart)
    (planFailure "meta-OOS epoch windows overlap")
  raiseIf (previous.outcomeAvailableAt > current.decisionAt)
    (planFailure "prior meta-OOS outcome is not mature by next decision")

def validatePlan (hash : Hashing) (p : ChronologicalMetaOosPlan) : Except Failure Unit := do
  p.epochs.forM validateEpoch
  validateCommanderBinding hash p.commanderBinding
  raiseIf (p.fieldErrors ≠ []) (.validation "ChronologicalMetaOosPlanV1" p.fieldErrors)
  raiseIf (p.policyArms ≠ metaOosPolicyArms)
    (planFailure "meta-OOS plan must contain the four ordered arms")
  raiseIf (¬∀ arm ∈ metaOosPolicyArms, arm ∈ p.policyAdapterVersions.keys)
    (planFailure "meta-OOS adapter versions are incomplete")
  raiseIf (∃ version ∈ p.policyAdapterVersions.values, version.toList.all isSpace = true)
    (planFailure "meta-OOS adapter version is empty")
  raiseIf (¬(p.epochs.map (·.epochId)).Nodup) (planFailure "meta-OOS epoch IDs must be unique")
  raiseIf (sortedBy (·.decisionAt) p.epochs ≠ p.epochs)
    (planFailure "meta-OOS epochs must be ordered")
  (p.epochs.zip p.epochs.tail).forM fun pair => checkSuccessive pair.1 pair.2
  raiseIf (∃ first ∈ p.epochs.head?, p.createdAt > first.decisionAt)
    (planFailure "meta-OOS plan must precede its first decision")
  raiseIf (hash.canonicalHash p.data ≠ p.planHash)
    (planFailure "chronological meta-OOS plan hash mismatch")

end AdaptiveQuant.ResearchPlane
