import AdaptiveQuant.Domain.RiskEpisode
import AdaptiveQuant.Lib.Dict

/-! `Q1StrategyDecision` of `domain/q1.py` and its checks. -/

namespace AdaptiveQuant

open Guard

/-- `PointInTimeSourceReference`. -/
structure SourceReference where
  recordId : String
  availableAt : Instant
deriving DecidableEq

structure RecordVersions where
  configManifestHash : String
  codeVersion : String
  modelVersion : String
  sourceManifestHash : String
deriving DecidableEq

/-- `Q1DecisionInputManifest`. -/
structure DecisionInputManifest where
  versions : RecordVersions
  calendarSessionId : String
  sourceBars : List SourceReference
  quotes : List SourceReference
  manifestHash : String
deriving DecidableEq

/-- The fields of `Q1StrategyDecision` that its checks and the shadow bridge read. -/
structure StrategyDecisionFields where
  versions : RecordVersions
  algorithmVersion : String
  portfolioDecisionId : String
  runId : String
  armId : Q1ArmId
  decisionKind : String
  scheduledAt : Instant
  signalDataCutoff : Instant
  portfolioStateAsOf : Instant
  quoteAsOf : Instant
  decisionCreatedAt : Instant
  validUntil : Instant
  inputManifest : DecisionInputManifest
  targetWeights : Dict String Decimal
  decisionHash : String
deriving DecidableEq

def targetSumTolerance : Decimal := 1 / 10000000000

/-- `validate_point_in_time_contract`. -/
def StrategyDecisionFields.check (d : StrategyDecisionFields) : Except Failure Unit := do
  let raise (message : String) : Failure := .record "Q1StrategyDecision" message
  raiseIf (d.signalDataCutoff > d.scheduledAt)
    (raise "signal_data_cutoff cannot exceed scheduled_at")
  raiseIf (d.portfolioStateAsOf > d.decisionCreatedAt)
    (raise "portfolio_state_as_of cannot exceed decision_created_at")
  raiseIf (d.quoteAsOf > d.decisionCreatedAt)
    (raise "quote_as_of cannot exceed decision_created_at")
  raiseIf (d.validUntil ≤ d.decisionCreatedAt)
    (raise "valid_until must be after decision_created_at")
  raiseIf (d.inputManifest.calendarSessionId = "")
    (raise "Decision input manifest requires a calendar session")
  raiseIf (d.versions ≠ d.inputManifest.versions)
    (raise "Decision and input-manifest versions must match")
  raiseIf (∃ bar ∈ d.inputManifest.sourceBars, bar.availableAt > d.signalDataCutoff)
    (raise "Decision contains a bar unavailable at signal cutoff")
  raiseIf (∃ quote ∈ d.inputManifest.quotes, quote.availableAt > d.quoteAsOf)
    (raise "Decision contains a quote unavailable at quote_as_of")
  raiseIf (∃ weight ∈ d.targetWeights.values, weight < 0)
    (raise "Q1 target weights must be long-only")
  raiseIf (|d.targetWeights.values.sum - 1| > targetSumTolerance)
    (raise "Q1 target weights must sum to one including USD_CASH")

/-- `Q1StrategyDecision`. -/
abbrev StrategyDecision := Validated StrategyDecisionFields.check

theorem StrategyDecisionFields.check_eq_ok {d : StrategyDecisionFields} : d.check = .ok () ↔
    d.signalDataCutoff ≤ d.scheduledAt ∧ d.portfolioStateAsOf ≤ d.decisionCreatedAt ∧
      d.quoteAsOf ≤ d.decisionCreatedAt ∧ d.decisionCreatedAt < d.validUntil ∧
      d.inputManifest.calendarSessionId ≠ "" ∧ d.versions = d.inputManifest.versions ∧
      (∀ bar ∈ d.inputManifest.sourceBars, bar.availableAt ≤ d.signalDataCutoff) ∧
      (∀ quote ∈ d.inputManifest.quotes, quote.availableAt ≤ d.quoteAsOf) ∧
      (∀ weight ∈ d.targetWeights.values, 0 ≤ weight) ∧
      |d.targetWeights.values.sum - 1| ≤ targetSumTolerance := by
  simp only [StrategyDecisionFields.check, ok_iff, not_lt, not_le, gt_iff_lt, not_exists, not_and,
    not_not, ne_eq]

theorem StrategyDecision.weights_nonneg (d : StrategyDecision) :
    ∀ weight ∈ d.val.targetWeights.values, 0 ≤ weight :=
  (StrategyDecisionFields.check_eq_ok.mp d.valid).2.2.2.2.2.2.2.2.1

end AdaptiveQuant
