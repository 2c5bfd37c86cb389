import AdaptiveQuant.Domain.Basic

/-! The risk records of `domain/q1.py`: severities, reduction targets, episodes and their events. -/

namespace AdaptiveQuant

open Guard

inductive RiskSeverity
  | normal
  | softStop
  | hardReduce
  | criticalExit
deriving DecidableEq

def RiskSeverity.value : RiskSeverity → String
  | .normal => "NORMAL"
  | .softStop => "SOFT_STOP"
  | .hardReduce => "HARD_REDUCE"
  | .criticalExit => "CRITICAL_EXIT"

def RiskSeverity.rank : RiskSeverity → ℕ
  | .normal => 0
  | .softStop => 1
  | .hardReduce => 2
  | .criticalExit => 3

def RiskSeverity.worst (a b : RiskSeverity) : RiskSeverity := if a.rank < b.rank then b else a

inductive RiskEpisodeEventType
  | activate
  | escalate
  | targetProgress
  | targetReached
  | release
deriving DecidableEq

def RiskEpisodeEventType.value : RiskEpisodeEventType → String
  | .activate => "ACTIVATE"
  | .escalate => "ESCALATE"
  | .targetProgress => "TARGET_PROGRESS"
  | .targetReached => "TARGET_REACHED"
  | .release => "RELEASE"

/-- The pattern `^[A-Z][A-Z0-9._-]{0,29}$`. -/
def isRiskSymbol (symbol : String) : Bool :=
  match symbol.toList with
  | [] => false
  | first :: rest => first.isUpper && rest.length ≤ 29 &&
    rest.all fun c => c.isUpper || c.isDigit || c = '.' || c = '_' || c = '-'

structure RiskTargetFields where
  symbol : String
  targetQuantity : Decimal
  triggerQuoteId : String
  targetGeneration : ℕ := 1
  targetId : Option String := none
  triggerQuantity : Option Decimal := none
  triggerPrice : Option Decimal := none
  targetWeight : Option Decimal := none
deriving DecidableEq

def RiskTargetFields.fieldErrors (t : RiskTargetFields) : List FieldError :=
  fieldCheck "symbol" (isRiskSymbol t.symbol)
      "String should match pattern '^[A-Z][A-Z0-9._-]\x7b0,29\x7d$'" ++
    geCheck "target_quantity" 0 t.targetQuantity ++
    geCheck "target_generation" 1 t.targetGeneration ++
    optionalCheck (geCheck "trigger_quantity" 0) t.triggerQuantity ++
    optionalCheck (gtZeroCheck "trigger_price") t.triggerPrice ++
    optionalCheck (fun w => geCheck "target_weight" 0 w ++ leCheck "target_weight" 1 w)
      t.targetWeight

structure RiskTarget extends RiskTargetFields where
  valid : toRiskTargetFields.fieldErrors = []

instance : DecidableEq RiskTarget := fun a b =>
  decidable_of_iff (a.toRiskTargetFields = b.toRiskTargetFields)
    ⟨fun h => by cases a; cases b; cases h; rfl, fun h => by rw [h]⟩

def RiskTarget.construct (fields : RiskTargetFields) : Except Failure RiskTarget :=
  if h : fields.fieldErrors = [] then .ok ⟨fields, h⟩
  else .error (.validation "RiskTarget" fields.fieldErrors)

theorem RiskTarget.construct_eq_ok {fields} {target : RiskTarget} :
    RiskTarget.construct fields = .ok target ↔ target.toRiskTargetFields = fields := by
  unfold RiskTarget.construct
  constructor
  · intro h
    split at h
    · cases h
      rfl
    · cases h
  · rintro rfl
    rw [dif_pos target.valid]

def Canonical.optDecimal : Option Decimal → Canonical
  | none => .null
  | some value => .decimal value

def RiskTarget.canonical (t : RiskTarget) : Canonical := .dict [
  ("symbol", .str t.symbol),
  ("target_quantity", .decimal t.targetQuantity),
  ("trigger_quote_id", .str t.triggerQuoteId),
  ("target_generation", .int t.targetGeneration),
  ("target_id", .optStr t.targetId),
  ("trigger_quantity", .optDecimal t.triggerQuantity),
  ("trigger_price", .optDecimal t.triggerPrice),
  ("target_weight", .optDecimal t.targetWeight)]

def canonicalTargets (targets : List RiskTarget) : Canonical :=
  .list (targets.map (·.canonical))

structure RiskEpisodeFields extends VersionedQ1Record where
  riskEpisodeId : String
  runId : String
  armId : Q1ArmId
  severity : RiskSeverity
  calendarSessionId : String
  triggeredAt : Instant
  triggerNavUsd : Decimal
  sessionOpenNavUsd : Decimal
  runningPeakNavUsd : Decimal
  dailyLoss : Decimal
  runDrawdown : Decimal
  portfolioAnnualizedVol : Option Decimal := none
  softDailyThreshold : Decimal
  hardDailyThreshold : Decimal
  reconciliationStatus : String
  targets : List RiskTarget
  targetManifestHash : String
  episodeHash : String
  createdAt : Instant
deriving DecidableEq

def RiskEpisodeFields.fieldErrors (e : RiskEpisodeFields) : List FieldError :=
  e.toVersionedQ1Record.fieldErrors ++
    gtZeroCheck "trigger_nav_usd" e.triggerNavUsd ++
    gtZeroCheck "session_open_nav_usd" e.sessionOpenNavUsd ++
    gtZeroCheck "running_peak_nav_usd" e.runningPeakNavUsd ++
    geCheck "daily_loss" 0 e.dailyLoss ++
    geCheck "run_drawdown" 0 e.runDrawdown ++
    optionalCheck (geCheck "portfolio_annualized_vol" 0) e.portfolioAnnualizedVol ++
    geCheck "soft_daily_threshold" 0 e.softDailyThreshold ++
    geCheck "hard_daily_threshold" 0 e.hardDailyThreshold ++
    fieldCheck "targets"
      (e.targets ≠ []) "Tuple should have at least 1 item after validation, not 0"

def RiskEpisodeFields.validate (e : RiskEpisodeFields) : Except Failure Unit := do
  raiseIf (e.fieldErrors ≠ []) (.validation "RiskEpisode" e.fieldErrors)
  raiseIf (e.severity ∉ [RiskSeverity.hardReduce, .criticalExit])
    (.record "RiskEpisode" "Typed risk episodes require HARD_REDUCE or CRITICAL_EXIT")
  raiseIf (¬(e.targets.map (·.symbol)).Nodup)
    (.record "RiskEpisode" "Risk episode targets must have unique symbols")
  raiseIf (∃ target ∈ e.targets, target.targetGeneration ≠ 1)
    (.record "RiskEpisode" "Risk episode activation targets must use generation 1")
  raiseIf (e.createdAt < e.triggeredAt)
    (.record "RiskEpisode" "Risk episode cannot be created before it is triggered")

structure RiskEpisode extends RiskEpisodeFields where
  valid : toRiskEpisodeFields.validate = .ok ()

instance : DecidableEq RiskEpisode := fun a b =>
  decidable_of_iff (a.toRiskEpisodeFields = b.toRiskEpisodeFields)
    ⟨fun h => by cases a; cases b; cases h; rfl, fun h => by rw [h]⟩

def RiskEpisode.construct (fields : RiskEpisodeFields) : Except Failure RiskEpisode :=
  match h : fields.validate with
  | .ok () => .ok ⟨fields, h⟩
  | .error e => .error e

theorem RiskEpisode.construct_eq_ok {fields episode} :
    RiskEpisode.construct fields = .ok episode ↔ episode.toRiskEpisodeFields = fields := by
  unfold RiskEpisode.construct
  constructor
  · intro h
    split at h
    · cases h
      rfl
    · cases h
  · rintro rfl
    split
    · rfl
    · rename_i h
      rw [episode.valid] at h
      cases h

structure RiskEpisodeEventFields extends VersionedQ1Record where
  riskEpisodeEventId : String
  riskEpisodeId : String
  eventType : RiskEpisodeEventType
  eventSequence : ℕ
  severity : RiskSeverity
  targetGeneration : ℕ := 1
  occurredAt : Instant
  availableAt : Instant
  targets : List RiskTarget := []
  targetSymbol : Option String := none
  observedQuantity : Option Decimal := none
  residualQuantity : Option Decimal := none
  consecutiveValidChecks : ℕ := 0
  sourceCycleId : Option String := none
  workerFenceToken : String
  cycleAttemptCount : ℕ
  idempotencyKey : String
  eventHash : String
deriving DecidableEq

def RiskEpisodeEventFields.fieldErrors (e : RiskEpisodeEventFields) : List FieldError :=
  e.toVersionedQ1Record.fieldErrors ++
    geCheck "event_sequence" 1 e.eventSequence ++
    geCheck "target_generation" 1 e.targetGeneration ++
    optionalCheck (geCheck "observed_quantity" 0) e.observedQuantity ++
    optionalCheck (geCheck "residual_quantity" 0) e.residualQuantity ++
    geCheck "consecutive_valid_checks" 0 e.consecutiveValidChecks ++
    geCheck "cycle_attempt_count" 1 e.cycleAttemptCount

def RiskEpisodeEventFields.validate (e : RiskEpisodeEventFields) : Except Failure Unit := do
  raiseIf (e.fieldErrors ≠ []) (.validation "RiskEpisodeEvent" e.fieldErrors)
  raiseIf (e.availableAt < e.occurredAt)
    (.record "RiskEpisodeEvent" "Risk event available_at cannot precede occurred_at")
  raiseIf (e.eventType ∈ [RiskEpisodeEventType.activate, .escalate] ∧ e.targets = [])
    (.record "RiskEpisodeEvent" "ACTIVATE and ESCALATE events require non-empty typed targets")
  raiseIf (e.eventType ∈ [RiskEpisodeEventType.targetProgress, .targetReached] ∧
      e.targetSymbol = none)
    (.record "RiskEpisodeEvent" "Target progress events require target_symbol")

structure RiskEpisodeEvent extends RiskEpisodeEventFields where
  valid : toRiskEpisodeEventFields.validate = .ok ()

instance : DecidableEq RiskEpisodeEvent := fun a b =>
  decidable_of_iff (a.toRiskEpisodeEventFields = b.toRiskEpisodeEventFields)
    ⟨fun h => by cases a; cases b; cases h; rfl, fun h => by rw [h]⟩

def RiskEpisodeEvent.construct (fields : RiskEpisodeEventFields) :
    Except Failure RiskEpisodeEvent :=
  match h : fields.validate with
  | .ok () => .ok ⟨fields, h⟩
  | .error e => .error e

theorem RiskEpisodeEvent.construct_eq_ok {fields event} :
    RiskEpisodeEvent.construct fields = .ok event ↔ event.toRiskEpisodeEventFields = fields := by
  unfold RiskEpisodeEvent.construct
  constructor
  · intro h
    split at h
    · cases h
      rfl
    · cases h
  · rintro rfl
    split
    · rfl
    · rename_i h
      rw [event.valid] at h
      cases h

end AdaptiveQuant
