import AdaptiveQuant.Lib.Guard
import Mathlib.Data.Rat.Floor
import Mathlib.Data.Int.Log
import Mathlib.Algebra.Order.Floor.Semiring
import Mathlib.Tactic.NormNum
import Mathlib.Tactic.Linarith
import Mathlib.Tactic.Ring

/-! What every part of the trading system shares. A `Decimal` of the source is an exact rational
here. The source computes with 28 significant digits, more than its quantities and dollar amounts
have; where it rounds on purpose (`quantize`) the model rounds in the same place. -/

namespace AdaptiveQuant

/-- An aware UTC instant, in microseconds: `require_aware_utc` admits no other. -/
abbrev Instant := ℤ

-- Stated so that sorting by instants stays computable whatever else is imported.
instance : LinearOrder Instant := Int.instLinearOrder

abbrev Decimal := ℚ

inductive OrderSide
  | buy
  | sell
deriving DecidableEq

def OrderSide.value : OrderSide → String
  | .buy => "BUY"
  | .sell => "SELL"

inductive Q1ArmId
  | hold
  | liveMirror
  | b0Cash
  | b0Qqq
  | b0Vol
  | q1Det
  | q1Llm
deriving DecidableEq

def Q1ArmId.value : Q1ArmId → String
  | .hold => "HOLD"
  | .liveMirror => "LIVE-MIRROR"
  | .b0Cash => "B0-CASH"
  | .b0Qqq => "B0-QQQ"
  | .b0Vol => "B0-VOL"
  | .q1Det => "Q1-DET"
  | .q1Llm => "Q1-LLM"

theorem Q1ArmId.value_injective : Function.Injective Q1ArmId.value := by
  intro a b h
  cases a <;> cases b <;> simp_all [Q1ArmId.value]

inductive ExceptionClass
  | validationError
  | valueError
  | integrityError
  | orderStateError
  | q1PersistenceConflict
  | q1CycleFenceError
  | q1RiskError
  | keyError
  | indexError
  | stopIteration
  | forwardRiskError
  | forwardPortfolioError
  | forwardPaperConflict
  | paperBootstrapNotReady
  | paperRuntimeError
  | alpacaPaperPersistenceConflict
  | paperCycleFenceError
  | q1StaleWorkerError
  | researchSchedulerPersistenceError
  | researchScheduleFenceError
  | controlPlaneError
  | requestNotFound
  | decisionConflict
  | policyCompileError
  | divisionByZero
  | invalidOperation
  | researchShadowPersistenceError
  | prospectiveShadowOperationError
  | prospectivePersistenceError
  | researchPersistenceError
  | researchHostError
  | researchLifecycleError
  | researchFileRuntimeError
  | experimentOutcomePersistenceError
  | metaOosError
  | settlementError
  | q1ExecutionCycleError
  | q1CycleError
  | q1CycleNotReady
  | q1PlanningError
  | q1MathError
  | q1ConfigError
  | q1RuntimePersistenceError
  | q1PriceGuardViolation
  | canonicalizationError
  | portfolioSharpePersistenceError
  | q1LlmReviewError
  | reviewUnavailable
  | portfolioDeltaSharpeError
deriving DecidableEq

/-- One entry of a `ValidationError`: the field it is about, empty for a whole-record check, and
its text. -/
structure FieldError where
  field : String
  message : String
deriving DecidableEq

structure Failure where
  exception : ExceptionClass
  message : String
  fields : List FieldError := []
deriving DecidableEq

def valueError (message : String) : Failure := ⟨.valueError, message, []⟩

/-- The `ValidationError` of the record type `model`. -/
def Failure.validation (model : String) (fields : List FieldError) : Failure :=
  ⟨.validationError, model, fields⟩

/-- The failure of an `after` validator of the record type `model`. -/
def Failure.record (model message : String) : Failure :=
  .validation model [⟨"", "Value error, " ++ message⟩]

def fieldCheck (field : String) (ok : Prop) [Decidable ok] (message : String) : List FieldError :=
  if ok then [] else [⟨field, message⟩]

@[simp] theorem fieldCheck_eq_nil {field message : String} {ok : Prop} [Decidable ok] :
    fieldCheck field ok message = [] ↔ ok := by
  unfold fieldCheck
  split <;> simp_all

def geCheck (field : String) (bound : ℕ) (value : Decimal) : List FieldError :=
  fieldCheck field (bound ≤ value) s!"Input should be greater than or equal to {bound}"

def gtZeroCheck (field : String) (value : Decimal) : List FieldError :=
  fieldCheck field (0 < value) "Input should be greater than 0"

def leCheck (field : String) (bound : ℕ) (value : Decimal) : List FieldError :=
  fieldCheck field (value ≤ bound) s!"Input should be less than or equal to {bound}"

def optionalCheck {α : Type} (check : α → List FieldError) (value : Option α) : List FieldError :=
  value.elim [] check

def lengthCheck (field : String) (most : ℕ) (value : String) : List FieldError :=
  fieldCheck field (1 ≤ value.length) "String should have at least 1 character" ++
    fieldCheck field (value.length ≤ most) s!"String should have at most {most} characters"

@[simp] theorem geCheck_eq_nil {field : String} {bound : ℕ} {value : Decimal} :
    geCheck field bound value = [] ↔ (bound : Decimal) ≤ value := by
  simp [geCheck]

@[simp] theorem lengthCheck_eq_nil {field value : String} {most : ℕ} :
    lengthCheck field most value = [] ↔ 1 ≤ value.length ∧ value.length ≤ most := by
  simp [lengthCheck]

def reprList (items : List String) : String :=
  "[" ++ ", ".intercalate (items.map fun item => "'" ++ item ++ "'") ++ "]"

/-- A decimal that gives a rounding step: `quantize` reads only its exponent. -/
structure Quantum where
  coefficient : ℕ
  exponent : ℤ
deriving DecidableEq

def Quantum.value (q : Quantum) : Decimal := q.coefficient * 10 ^ q.exponent

/-- `value.quantize(quantum, rounding=ROUND_DOWN)`: towards zero, to the exponent of the quantum. -/
def quantizeDown (value : Decimal) (q : Quantum) : Decimal :=
  let steps := value / 10 ^ q.exponent
  (if 0 ≤ steps then ⌊steps⌋ else ⌈steps⌉ : ℤ) * 10 ^ q.exponent

theorem Quantum.step_pos (q : Quantum) : (0 : Decimal) < 10 ^ q.exponent := zpow_pos (by norm_num) _

variable {q : Quantum}

theorem quantizeDown_le {value : Decimal} (h : 0 ≤ value) :
    quantizeDown value q ≤ value := by
  have hsteps : 0 ≤ value / 10 ^ q.exponent := div_nonneg h q.step_pos.le
  simp only [quantizeDown, if_pos hsteps]
  rw [← le_div_iff₀ q.step_pos]
  exact Int.floor_le _

theorem quantizeDown_nonneg {value : Decimal} (h : 0 ≤ value) :
    0 ≤ quantizeDown value q := by
  have hsteps : 0 ≤ value / 10 ^ q.exponent := div_nonneg h q.step_pos.le
  simp only [quantizeDown, if_pos hsteps]
  exact mul_nonneg (Int.cast_nonneg (Int.floor_nonneg.mpr hsteps)) q.step_pos.le

theorem quantizeDown_mono {a b : Decimal} (nonneg : 0 ≤ a) (h : a ≤ b) :
    quantizeDown a q ≤ quantizeDown b q := by
  have hdiv : a / 10 ^ q.exponent ≤ b / 10 ^ q.exponent :=
    div_le_div_of_nonneg_right h q.step_pos.le
  have hsteps : 0 ≤ a / 10 ^ q.exponent := div_nonneg nonneg q.step_pos.le
  simp only [quantizeDown, if_pos hsteps, if_pos (hsteps.trans hdiv)]
  exact mul_le_mul_of_nonneg_right (Int.cast_le.mpr (Int.floor_le_floor hdiv)) q.step_pos.le

theorem quantizeDown_nonpos {value : Decimal} (h : value < 0) :
    quantizeDown value q ≤ 0 := by
  have hsteps : value / 10 ^ q.exponent < 0 := div_neg_of_neg_of_pos h q.step_pos
  simp only [quantizeDown, if_neg (not_le.mpr hsteps)]
  exact mul_nonpos_of_nonpos_of_nonneg (Int.cast_nonpos.mpr (Int.ceil_nonpos.mpr hsteps.le))
    q.step_pos.le

/-- `value.quantize(quantum, rounding=ROUND_HALF_EVEN)`. -/
def quantizeHalfEven (value : Decimal) (q : Quantum) : Decimal :=
  let steps := value / 10 ^ q.exponent
  let below := ⌊steps⌋
  let up := steps - below > 1 / 2 ∨ (steps - below = 1 / 2 ∧ below % 2 = 1)
  (if up then below + 1 else below : ℤ) * 10 ^ q.exponent

theorem quantizeHalfEven_le (value : Decimal) (q : Quantum) :
    quantizeHalfEven value q ≤ value + 10 ^ q.exponent / 2 := by
  have hstep := q.step_pos
  have hfloor := Int.floor_le (value / 10 ^ q.exponent)
  have hvalue : value / 10 ^ q.exponent * 10 ^ q.exponent = value := div_mul_cancel₀ _ hstep.ne'
  have hhalf : (value / 10 ^ q.exponent + 1 / 2) * 10 ^ q.exponent =
      value + 10 ^ q.exponent / 2 := by
    rw [add_mul, hvalue]
    ring
  rw [quantizeHalfEven, ← hhalf]
  refine mul_le_mul_of_nonneg_right ?_ hstep.le
  split
  · rename_i hup
    push_cast
    rcases hup with hup | ⟨hup, -⟩ <;> linarith
  · linarith

theorem quantizeHalfEven_nonneg {value : Decimal} (h : 0 ≤ value) :
    0 ≤ quantizeHalfEven value q := by
  have hfloor : 0 ≤ ⌊value / 10 ^ q.exponent⌋ := Int.floor_nonneg.mpr (div_nonneg h q.step_pos.le)
  refine mul_nonneg (Int.cast_nonneg ?_) q.step_pos.le
  split <;> omega

/-- `value.sqrt()` in the default context: 28 significant digits, half to even. -/
def decimalSqrt (value : Decimal) : Decimal :=
  if value ≤ 0 then 0
  else
    let exponent : ℤ := Int.log 100 value - 27
    let scaled := value / 100 ^ exponent
    let root := Nat.sqrt ⌊scaled⌋₊
    let middle : Decimal := root * root + root + 1 / 4
    let digits := if middle < scaled ∨ (middle = scaled ∧ root % 2 = 1) then root + 1 else root
    digits * 10 ^ exponent

def q1AlgorithmVersion : String := "q1_math_core_v1"

/-- `VersionedQ1Record`: the provenance that every Q1 record carries. -/
structure VersionedQ1Record where
  algorithmVersion : String := q1AlgorithmVersion
  configManifestHash : String
  codeVersion : String
  modelVersion : String
  sourceManifestHash : String
deriving DecidableEq

def VersionedQ1Record.fieldErrors (r : VersionedQ1Record) : List FieldError :=
  fieldCheck "algorithm_version" (r.algorithmVersion = q1AlgorithmVersion)
      "String should match pattern '^q1_math_core_v1$'" ++
    lengthCheck "config_manifest_hash" 64 r.configManifestHash ++
    lengthCheck "code_version" 80 r.codeVersion ++
    lengthCheck "model_version" 120 r.modelVersion ++
    lengthCheck "source_manifest_hash" 64 r.sourceManifestHash

inductive Canonical
  | null
  | bool (value : Bool)
  | int (value : ℤ)
  | str (value : String)
  | decimal (value : Decimal)
  | instant (value : Instant)
  | nil
  | item (value rest : Canonical)
  | entry (key : String) (value rest : Canonical)
deriving DecidableEq

def Canonical.list : List Canonical → Canonical
  | [] => .nil
  | value :: rest => .item value (.list rest)

def Canonical.dict : List (String × Canonical) → Canonical
  | [] => .nil
  | (key, value) :: rest => .entry key value (.dict rest)

def Canonical.optStr : Option String → Canonical
  | none => .null
  | some value => .str value

def Canonical.optInstant : Option Instant → Canonical
  | none => .null
  | some value => .instant value

def Canonical.get? : Canonical → String → Option Canonical
  | .entry key value rest, wanted => if key = wanted then some value else rest.get? wanted
  | _, _ => none

def Canonical.items : Canonical → List Canonical
  | .item value rest => value :: rest.items
  | _ => []

/-- The digests of `hashing.py`.  SHA-256 is outside this model: results that need distinct names
for distinct records assume `NoCollision`. -/
structure Hashing where
  canonicalHash : Canonical → String
  stableId : String → List Canonical → String

/-- No two values that `stable_id` names under one prefix share a name. -/
def Hashing.NoCollision (hash : Hashing) : Prop :=
  ∀ tag parts parts', hash.stableId tag parts = hash.stableId tag parts' → parts = parts'

end AdaptiveQuant
