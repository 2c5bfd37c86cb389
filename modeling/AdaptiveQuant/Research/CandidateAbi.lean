import AdaptiveQuant.Research.ShadowContracts

/-! The interface of an isolated candidate, `research/candidate_abi.py`. -/

namespace AdaptiveQuant.Shadow

open Guard

/-- The numbers of a candidate. The source has floats here, so no law of arithmetic is assumed. -/
class CandidateNumber (F : Type) extends LinearOrder F, Zero F, One F, Add F, Sub F where
  decimal : F → Decimal
  canonical : F → Canonical
  decimal_pos : ∀ {value : F}, 0 < value → 0 < decimal value

attribute [instance (low)] CandidateNumber.toZero CandidateNumber.toOne

instance : CandidateNumber ℚ where
  decimal := id
  canonical := .decimal
  decimal_pos := id

/-- `CandidateDecisionConstraintsV1`, with the bounds of its fields and `validate_cash_boundary`. -/
structure CandidateConstraints (F : Type) [CandidateNumber F] where
  maximumGrossWeight : F
  minimumCashWeight : F
  maximumWeightBySymbol : Dict String F
  numericTolerance : F
  gross_pos : 0 < maximumGrossWeight
  gross_le : maximumGrossWeight ≤ 1
  cash_nonneg : 0 ≤ minimumCashWeight
  cash_lt : minimumCashWeight < 1
  caps : ∀ cap ∈ maximumWeightBySymbol.values, 0 ≤ cap ∧ cap ≤ 1
  tolerance_pos : 0 < numericTolerance
  cash_boundary : maximumGrossWeight ≤ 1 - minimumCashWeight + numericTolerance

/-- The fields of `CandidateDecisionRequestV1` that the host reads back. -/
structure CandidateRequest (F : Type) [CandidateNumber F] where
  requestId : String
  challengerId : String
  candidateArtifactHash : String
  strategyId : String
  strategyVersion : String
  decisionTime : Instant
  signalDataCutoff : Instant
  instruments : List String
  constraints : CandidateConstraints F
  requestHash : String
  cutoff_le : signalDataCutoff ≤ decisionTime
  nonempty : instruments ≠ []
  sorted : SortedUnique instruments
  caps_universe : constraints.maximumWeightBySymbol.keys = instruments

structure CandidateTarget (F : Type) where
  symbol : String
  score : F
  targetWeight : F
deriving DecidableEq

structure CandidateResponseFields (F : Type) where
  requestId : String
  requestHash : String
  challengerId : String
  candidateArtifactHash : String
  targets : List (CandidateTarget F)
  diagnostics : Canonical
  outputHash : String
deriving DecidableEq

section Numbers

variable {F : Type} [CandidateNumber F]

def CandidateTarget.payload (t : CandidateTarget F) : Canonical :=
  .dict [("symbol", .str t.symbol), ("score", CandidateNumber.canonical t.score),
    ("target_weight", CandidateNumber.canonical t.targetWeight)]

def CandidateResponseFields.payload (r : CandidateResponseFields F) : Canonical :=
  .dict
    [("schema_version", .str "candidate_decision_response_v1"), ("request_id", .str r.requestId),
    ("request_hash", .str r.requestHash), ("challenger_id", .str r.challengerId),
    ("candidate_artifact_hash", .str r.candidateArtifactHash),
    ("targets", .list (r.targets.map CandidateTarget.payload)), ("diagnostics", r.diagnostics)]

def CandidateResponseFields.check (hash : Hashing) (r : CandidateResponseFields F) :
    Except Failure Unit := do
  raiseIf (r.targets = []) (.validation "CandidateDecisionResponseV1"
    [⟨"targets", "Tuple should have at least 1 item after validation, not 0"⟩])
  raiseIf (∃ target ∈ r.targets, target.targetWeight < 0)
    (.validation "CandidateDecisionResponseV1"
      [⟨"targets.target_weight", "Input should be greater than or equal to 0"⟩])
  raiseIf (∃ target ∈ r.targets, 1 < target.targetWeight)
    (.validation "CandidateDecisionResponseV1"
      [⟨"targets.target_weight", "Input should be less than or equal to 1"⟩])
  raiseIf (¬SortedUnique (r.targets.map (·.symbol)))
    (.validation "CandidateDecisionResponseV1"
      [⟨"targets", "Value error, candidate targets must be unique and sorted"⟩])
  raiseIf (hash.canonicalHash r.payload ≠ r.outputHash)
    (.record "CandidateDecisionResponseV1" "candidate response hash mismatch")

/-- `CandidateDecisionResponseV1`. -/
abbrev CandidateResponse (hash : Hashing) (F : Type) [CandidateNumber F] :=
  Validated (CandidateResponseFields.check (F := F) hash)

/-- One target of the loop in `assert_bound_to`. -/
def addGross (constraints : CandidateConstraints F) (gross : F) (target : CandidateTarget F) :
    Except Failure F :=
  match constraints.maximumWeightBySymbol.get? target.symbol with
  | none => .error ⟨.keyError, target.symbol, []⟩
  | some cap => do
    raiseIf (cap + constraints.numericTolerance < target.targetWeight)
      ⟨.valueError, "candidate target exceeds a host-owned symbol cap", []⟩
    return gross + target.targetWeight

def CandidateResponseFields.assertBoundTo (r : CandidateResponseFields F)
    (request : CandidateRequest F) : Except Failure Unit := do
  let raise (message : String) : Failure := ⟨.valueError, message, []⟩
  let constraints := request.constraints
  raiseIf (r.requestId ≠ request.requestId ∨ r.requestHash ≠ request.requestHash ∨
      r.challengerId ≠ request.challengerId ∨
      r.candidateArtifactHash ≠ request.candidateArtifactHash)
    (raise "candidate response binding mismatch")
  raiseIf (r.targets.map (·.symbol) ≠ request.instruments)
    (raise "candidate response introduced or omitted a symbol")
  let gross ← r.targets.foldlM (addGross constraints) 0
  raiseIf (constraints.maximumGrossWeight + constraints.numericTolerance < gross)
    (raise "candidate response exceeds maximum gross exposure")
  raiseIf (1 - gross < constraints.minimumCashWeight - constraints.numericTolerance)
    (raise "candidate response violates minimum cash")

theorem CandidateResponse.sorted {hash : Hashing} (r : CandidateResponse hash F) :
    SortedUnique (r.val.targets.map (·.symbol)) := by
  have hvalid := r.valid
  simp only [CandidateResponseFields.check, ok_iff, not_not] at hvalid
  exact hvalid.2.2.2.1

end Numbers

end AdaptiveQuant.Shadow
