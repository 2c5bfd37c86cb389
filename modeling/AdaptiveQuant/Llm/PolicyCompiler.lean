import AdaptiveQuant.Domain.Basic
import Mathlib.Data.Finmap
import Mathlib.Data.Finset.Sort
import Mathlib.Data.String.Basic

/-! The policy compiler of `llm/policy_compiler.py`: a patch is compiled into the next policy of its
arm, and the active patches are composed. -/

namespace AdaptiveQuant.Control

open Guard

/-- The numbers of a policy.  The source has floats here; no law of addition is assumed, so the
results hold for rounded sums too. -/
class PolicyNumber (R : Type) extends LinearOrder R, Zero R, One R, Add R, Neg R,
  OfScientific R where
  canonical : R → Canonical

attribute [instance (low)] PolicyNumber.toZero PolicyNumber.toOne

instance : PolicyNumber ℚ where
  canonical := .decimal

inductive PolicyAction
  | blockNewEntries
  | reduceRiskBudget
  | applyStrategyTilt
  | restoreDefault
deriving DecidableEq

def PolicyAction.value : PolicyAction → String
  | .blockNewEntries => "BLOCK_NEW_ENTRIES"
  | .reduceRiskBudget => "REDUCE_RISK_BUDGET"
  | .applyStrategyTilt => "APPLY_STRATEGY_TILT"
  | .restoreDefault => "RESTORE_DEFAULT"

inductive PolicyTargetKind
  | strategy
  | factor
  | portfolio
  | symbol
deriving DecidableEq

def PolicyTargetKind.value : PolicyTargetKind → String
  | .strategy => "STRATEGY"
  | .factor => "FACTOR"
  | .portfolio => "PORTFOLIO"
  | .symbol => "SYMBOL"

inductive ConditionType
  | timeReached
  | sourceRetraction
  | officialConfirmation
  | marketFeatureThreshold
  | eventStatusChanged
  | patchAttributedPnl
  | dataStaleness
deriving DecidableEq

def ConditionType.value : ConditionType → String
  | .timeReached => "TIME_REACHED"
  | .sourceRetraction => "SOURCE_RETRACTION"
  | .officialConfirmation => "OFFICIAL_CONFIRMATION"
  | .marketFeatureThreshold => "MARKET_FEATURE_THRESHOLD"
  | .eventStatusChanged => "EVENT_STATUS_CHANGED"
  | .patchAttributedPnl => "PATCH_ATTRIBUTED_PNL"
  | .dataStaleness => "DATA_STALENESS"

inductive ComparisonOperator
  | lt
  | lte
  | eq
  | gte
  | gt
deriving DecidableEq

def ComparisonOperator.value : ComparisonOperator → String
  | .lt => "LT"
  | .lte => "LTE"
  | .eq => "EQ"
  | .gte => "GTE"
  | .gt => "GT"

/-- The value of a condition: `str | int | float | bool | None`. -/
inductive ConditionValue (R : Type)
  | text (value : String)
  | int (value : ℤ)
  | float (value : R)
  | bool (value : Bool)
  | none
deriving DecidableEq

structure TypedCondition (R : Type) where
  conditionId : String
  conditionType : ConditionType
  field : String
  operator : ComparisonOperator
  value : ConditionValue R
  evaluationWindow : Option String
  sourceIds : List String
deriving DecidableEq

structure PolicyOperation (R : Type) where
  action : PolicyAction
  targetKind : PolicyTargetKind
  targetId : String
  riskBudgetDelta : Option R
  riskMultiplier : Option R
  blocked : Option Bool
deriving DecidableEq

/-- `PolicyPatch`: its window is not empty, and it has operations and evidence. -/
structure PolicyPatch (R : Type) where
  patchId : String
  armScope : String
  basePolicyVersion : ℕ
  effectiveFrom : Instant
  expiresAt : Instant
  operations : List (PolicyOperation R)
  evidenceNewsEventIds : List String
  rawConfidence : R
  rollbackConditions : List (TypedCondition R)
  modelRunId : String
  promptHash : String
  contextManifestHash : String
  createdAt : Instant
  window : effectiveFrom < expiresAt
  operations_ne : operations ≠ []
  evidence_ne : evidenceNewsEventIds ≠ []
deriving DecidableEq

variable {R : Type}

variable (operation : PolicyOperation R)

def PolicyOperation.bucket : String :=
  operation.targetKind.value ++ ":" ++ operation.targetId

def policyCompileError (message : String) : Failure := ⟨.policyCompileError, message, []⟩

def allowedSymbols : List String :=
  ["SPY", "QQQ", "IWM", "SOXX", "SMH", "XLK", "TLT", "HYG", "GLD"]

def allowedFactors : List String :=
  ["US_EQUITY_BETA", "US_TECH_BETA", "SEMICONDUCTOR_BETA", "DURATION", "CREDIT", "GOLD_DEFENSIVE"]

def conditionFields : ConditionType → List String
  | .timeReached => ["current_time"]
  | .sourceRetraction => ["source_id"]
  | .officialConfirmation => ["event_status"]
  | .marketFeatureThreshold => ["QQQ_RETURN_BPS", "SOXX_RETURN_BPS", "VIX_LEVEL"]
  | .eventStatusChanged => ["event_status"]
  | .patchAttributedPnl => ["attributed_pnl_usd"]
  | .dataStaleness => ["data_age_seconds"]

def validateCondition (condition : TypedCondition R) : Except Failure Unit :=
  raiseIf (condition.field ∉ conditionFields condition.conditionType)
    (policyCompileError
      s!"Condition field '{condition.field}' is not allowed for {condition.conditionType.value}")

def PolicyOperation.targetsTotal : Prop :=
  operation.targetKind = .portfolio ∧ operation.targetId = "TOTAL"

instance (operation : PolicyOperation R) : Decidable operation.targetsTotal :=
  inferInstanceAs (Decidable (_ ∧ _))

/-- The targets that the forward core blocks for `B3-RISK`. -/
def PolicyOperation.supportedTarget : Prop :=
  (operation.targetKind = .symbol ∧ operation.targetId = "QQQ") ∨
    (operation.targetKind = .factor ∧ operation.targetId ∈ ["US_EQUITY_BETA", "US_TECH_BETA"])

instance (operation : PolicyOperation R) : Decidable operation.supportedTarget :=
  inferInstanceAs (Decidable (_ ∨ _))

def validateForwardB3Operation : Except Failure Unit :=
  match operation.action with
  | .reduceRiskBudget => do
    raiseIf (¬operation.targetsTotal)
      (policyCompileError "B3-RISK risk reduction must target PORTFOLIO:TOTAL")
    raiseIf (operation.riskMultiplier.isNone)
      (policyCompileError "B3-RISK risk reduction requires risk_multiplier")
    raiseIf (operation.riskBudgetDelta.isSome)
      (policyCompileError "B3-RISK forward core does not consume risk_budget_delta")
  | .blockNewEntries => do
    raiseIf (¬operation.supportedTarget)
      (policyCompileError "B3-RISK entry block must target QQQ or a consumed equity factor")
    raiseIf (operation.blocked = some false)
      (policyCompileError "BLOCK_NEW_ENTRIES cannot set blocked=false")
  | .restoreDefault =>
    raiseIf (¬operation.targetsTotal)
      (policyCompileError "B3-RISK restore must target PORTFOLIO:TOTAL")
  | .applyStrategyTilt => return ()

section Numbers

variable [PolicyNumber R]

def magnitude (value : R) : R := max value (-value)

def maxPaperRiskDelta : R := 0.15

def validateTarget (operation : PolicyOperation R) : Except Failure Unit := do
  raiseIf (operation.targetKind = .symbol ∧ operation.targetId ∉ allowedSymbols)
    (policyCompileError "Symbol is not in the execution universe")
  raiseIf (operation.targetKind = .symbol ∧ operation.action ≠ .blockNewEntries)
    (policyCompileError "Symbol targets may only block new entries")
  raiseIf (operation.targetKind = .factor ∧ operation.targetId ∉ allowedFactors)
    (policyCompileError "Factor is not in the fixed registry")

def validateAmounts (armId : String) (operation : PolicyOperation R) : Except Failure Unit := do
  raiseIf (∃ delta ∈ operation.riskBudgetDelta, maxPaperRiskDelta < magnitude delta)
    (policyCompileError "Risk budget delta exceeds paper limit")
  raiseIf (∃ delta ∈ operation.riskBudgetDelta, armId = "B3-RISK" ∧ 0 < delta)
    (policyCompileError "B3-RISK cannot increase risk")
  raiseIf (∃ multiplier ∈ operation.riskMultiplier, ¬(0.25 ≤ multiplier ∧ multiplier ≤ 1))
    (policyCompileError "Paper risk multiplier must be within [0.25, 1.00]")
  raiseIf (operation.action = .reduceRiskBudget ∧ operation.riskBudgetDelta.isNone ∧
      operation.riskMultiplier.isNone)
    (policyCompileError "Risk reduction needs a delta or multiplier")

def validateOperation (armId : String) (shadowMode : Bool) (operation : PolicyOperation R) :
    Except Failure Unit := do
  raiseIf (armId = "B3-RISK" ∧ operation.action = .applyStrategyTilt)
    (policyCompileError "B3-RISK cannot apply strategy tilts")
  if armId = "B3-RISK" then validateForwardB3Operation operation
  raiseIf (armId = "B3-FULL" ∧ operation.action = .applyStrategyTilt ∧ shadowMode = false)
    (policyCompileError "B3-FULL strategy tilt is shadow-only")
  validateTarget operation
  validateAmounts armId operation

/-- What a policy does: the local variables of `compile` and `compose`. -/
@[ext]
structure PolicyEffects (R : Type) where
  portfolioRiskMultiplier : R
  strategyRiskDeltas : Finmap fun _ : String => R
  blockedTargets : Finset String
  activeBuckets : Finset String

@[ext]
structure PolicyState (R : Type) extends PolicyEffects R where
  armId : String
  version : ℕ
  sourcePatchId : Option String

-- A derived instance would transport along equalities of finite maps and not evaluate.
instance : DecidableEq (PolicyEffects R) := fun _ _ => decidable_of_iff _ PolicyEffects.ext_iff.symm

instance : DecidableEq (PolicyState R) := fun _ _ => decidable_of_iff _ PolicyState.ext_iff.symm

def PolicyEffects.default : PolicyEffects R := ⟨1, ∅, ∅, ∅⟩

def PolicyState.default (armId : String) : PolicyState R :=
  ⟨PolicyEffects.default, armId, 0, none⟩

def PolicyState.asPayload (state : PolicyState R) : Canonical :=
  .dict [("arm_id", .str state.armId), ("version", .int state.version),
    ("portfolio_risk_multiplier", PolicyNumber.canonical state.portfolioRiskMultiplier),
    ("strategy_risk_deltas", .dict ((state.strategyRiskDeltas.keys.sort).map fun key =>
      (key, ((state.strategyRiskDeltas.lookup key).map PolicyNumber.canonical).getD .null))),
    ("blocked_targets", .list (state.blockedTargets.sort.map .str)),
    ("active_buckets", .list (state.activeBuckets.sort.map .str)),
    ("source_patch_id", .optStr state.sourcePatchId)]

def PolicyOperation.adjustsRisk (operation : PolicyOperation R) : Prop :=
  operation.action = .reduceRiskBudget ∨ operation.action = .applyStrategyTilt

instance (operation : PolicyOperation R) : Decidable operation.adjustsRisk :=
  inferInstanceAs (Decidable (_ ∨ _))

def PolicyEffects.put (effects : PolicyEffects R) (operation : PolicyOperation R) :
    PolicyEffects R where
  portfolioRiskMultiplier :=
    if operation.adjustsRisk then
      operation.riskMultiplier.elim effects.portfolioRiskMultiplier
        (min effects.portfolioRiskMultiplier)
    else effects.portfolioRiskMultiplier
  strategyRiskDeltas :=
    if operation.adjustsRisk then
      operation.riskBudgetDelta.elim effects.strategyRiskDeltas fun delta =>
        effects.strategyRiskDeltas.insert operation.targetId
          ((effects.strategyRiskDeltas.lookup operation.targetId).getD 0 + delta)
    else effects.strategyRiskDeltas
  blockedTargets :=
    if operation.action = .blockNewEntries then insert operation.bucket effects.blockedTargets
    else effects.blockedTargets
  activeBuckets := insert operation.bucket effects.activeBuckets

/-- The loop body that `compile` and `compose` share: they differ in what they say of a bucket that
is taken. -/
def PolicyEffects.apply (taken : String → Failure) (armId : String) (shadowMode : Bool)
    (effects : PolicyEffects R) (operation : PolicyOperation R) :
    Except Failure (PolicyEffects R) := do
  validateOperation armId shadowMode operation
  if operation.action = .restoreDefault then
    return .default
  else
    raiseIf (operation.bucket ∈ effects.activeBuckets) (taken operation.bucket)
    return effects.put operation

def alreadyControlled (bucket : String) : Failure :=
  policyCompileError s!"An active patch already controls bucket {bucket}"

def controlledTwice (bucket : String) : Failure :=
  policyCompileError s!"More than one active patch controls bucket {bucket}"

def compile (patch : PolicyPatch R) (current : PolicyState R) (now : Instant)
    (shadowMode : Bool) : Except Failure (PolicyState R) := do
  raiseIf (patch.armScope ≠ current.armId)
    (policyCompileError "Patch arm_scope does not match policy state")
  raiseIf (patch.basePolicyVersion ≠ current.version)
    (policyCompileError "Patch base policy version mismatch")
  raiseIf (¬(patch.effectiveFrom ≤ now ∧ now < patch.expiresAt))
    (policyCompileError "Patch is not active at compile time")
  raiseIf (patch.armScope ∉ ["B3-RISK", "B3-FULL"])
    (policyCompileError "Only B3 arms accept LLM policy patches")
  patch.rollbackConditions.forM validateCondition
  let effects ← patch.operations.foldlM (PolicyEffects.apply alreadyControlled patch.armScope
    shadowMode) current.toPolicyEffects
  return PolicyState.mk effects current.armId (current.version + 1) (some patch.patchId)

def composePatch (armId : String) (now : Instant) (shadowMode : Bool)
    (composed : PolicyEffects R × Option String) (patch : PolicyPatch R) :
    Except Failure (PolicyEffects R × Option String) := do
  raiseIf (patch.armScope ≠ armId)
    (policyCompileError "Patch arm_scope does not match composition")
  raiseIf (¬(patch.effectiveFrom ≤ now ∧ now < patch.expiresAt))
    (policyCompileError "Policy composition received an inactive patch")
  patch.rollbackConditions.forM validateCondition
  let effects ← patch.operations.foldlM (PolicyEffects.apply controlledTwice armId shadowMode)
    composed.1
  return (effects, some patch.patchId)

def compose (armId : String) (patches : List (PolicyPatch R)) (version : ℕ) (now : Instant)
    (shadowMode : Bool) : Except Failure (PolicyState R) := do
  let composed ← patches.foldlM (composePatch armId now shadowMode) (.default, none)
  return PolicyState.mk composed.1 armId version composed.2

end Numbers

end AdaptiveQuant.Control
