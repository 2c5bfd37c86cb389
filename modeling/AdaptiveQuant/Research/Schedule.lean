import AdaptiveQuant.Domain.Basic
import AdaptiveQuant.Lib.CivilDate
import AdaptiveQuant.Lib.Selection
import Mathlib.Data.String.Basic

/-! The plans of the research work that is due at an instant. The time zone is a parameter. -/

namespace AdaptiveQuant

open Guard

inductive ResearchScheduleWorkKind
  | dailyAggregation
  | outcomeMaturation
  | researchMemoryMaterialization
  | operatorDeepResearch
  | weeklyDeepResearch
  | evidenceTriggeredResearch
deriving DecidableEq

def ResearchScheduleWorkKind.value : ResearchScheduleWorkKind → String
  | .dailyAggregation => "DAILY_AGGREGATION"
  | .outcomeMaturation => "OUTCOME_MATURATION"
  | .researchMemoryMaterialization => "RESEARCH_MEMORY_MATERIALIZATION"
  | .operatorDeepResearch => "OPERATOR_DEEP_RESEARCH"
  | .weeklyDeepResearch => "WEEKLY_DEEP_RESEARCH"
  | .evidenceTriggeredResearch => "EVIDENCE_TRIGGERED_RESEARCH"

theorem ResearchScheduleWorkKind.value_injective {a b : ResearchScheduleWorkKind}
    (h : a.value = b.value) : a = b := by
  revert h
  cases a <;> cases b <;> decide

def workKindOrder : ResearchScheduleWorkKind → ℕ
  | .dailyAggregation => 0
  | .outcomeMaturation => 1
  | .researchMemoryMaterialization => 2
  | .operatorDeepResearch => 3
  | .weeklyDeepResearch => 4
  | .evidenceTriggeredResearch => 5

inductive ResearchDispatchTarget
  | dailyAggregationV1
  | outcomeMaturationV1
  | researchMemoryMaterializationV1
  | deepResearchCycleV1
deriving DecidableEq

def ResearchDispatchTarget.value : ResearchDispatchTarget → String
  | .dailyAggregationV1 => "RESEARCH_DAILY_AGGREGATION_V1"
  | .outcomeMaturationV1 => "RESEARCH_OUTCOME_MATURATION_V1"
  | .researchMemoryMaterializationV1 => "RESEARCH_MEMORY_MATERIALIZATION_V1"
  | .deepResearchCycleV1 => "RESEARCH_DEEP_CYCLE_V1"

def dispatchTargetFor : ResearchScheduleWorkKind → ResearchDispatchTarget
  | .dailyAggregation => .dailyAggregationV1
  | .outcomeMaturation => .outcomeMaturationV1
  | .researchMemoryMaterialization => .researchMemoryMaterializationV1
  | _ => .deepResearchCycleV1

structure VersionedResearchMarketSession where
  calendarSessionId : String
  calendarVersion : String
  sessionDate : CivilDate
  openAt : Instant
  closeAt : Instant
  availableAt : Instant
  sessionHash : String
  closes : openAt < closeAt

structure ResearchEvidenceMarker where
  sourceId : String
  contentHash : String
  firstAvailableAt : Instant
  capturedAt : Instant
  captured : firstAvailableAt ≤ capturedAt
deriving DecidableEq

structure ClockTime where
  hour : ℕ
  minute : ℕ
deriving DecidableEq

structure TimeZone where
  toUtc : CivilDate → ClockTime → Instant
  localDate : Instant → CivilDate

inductive Weekday
  | monday
  | tuesday
  | wednesday
  | thursday
  | friday
  | saturday
  | sunday
deriving DecidableEq

def weekdayNumber : Weekday → ℕ
  | .monday => 0
  | .tuesday => 1
  | .wednesday => 2
  | .thursday => 3
  | .friday => 4
  | .saturday => 5
  | .sunday => 6

/-- The part of `ResearchScheduleConfig` that planning reads. -/
structure ResearchScheduleConfig where
  scheduleVersion : String
  timezone : TimeZone
  marketCalendarVersion : String
  dailyAggregationTime : ClockTime
  dailyPostCloseDelayMinutes : ℕ
  weeklyResearchDay : Weekday
  weeklyResearchTime : ClockTime
  evidenceTriggerMinimumNewSources : ℕ
  planningLookbackDays : ℕ
  version_length : 1 ≤ scheduleVersion.length
  trigger_pos : 0 < evidenceTriggerMinimumNewSources
  lookback_pos : 0 < planningLookbackDays

/-- What the scheduler service plans with: the schedule, the digest of the whole configuration and
whether recursive improvement is enabled. -/
structure ResearchPlanner where
  schedule : ResearchScheduleConfig
  configManifestHash : String
  includeOutcomeMaintenance : Bool
  manifest_length : 1 ≤ configManifestHash.length

structure ResearchSchedulePlan where
  workItemId : String
  workKind : ResearchScheduleWorkKind
  idempotencyKey : String
  scheduleVersion : String
  scheduledFor : Instant
  dataAvailableCutoff : Instant
  calendarSessionId : Option String
  calendarSessionHash : Option String
  calendarVersion : Option String
  triggerSourceIds : List String
  triggerContentHashes : List String
  triggerManifestHash : String
  operatorTriggerId : Option String
  operatorReasonCode : Option String
  configManifestHash : String
  planHash : String
deriving DecidableEq

def triggerManifest (sourceIds contentHashes : List String) : Canonical :=
  .dict [("source_ids", .list (sourceIds.map .str)),
    ("content_hashes", .list (contentHashes.map .str))]

variable (schedule : ResearchScheduleConfig) (plan : ResearchSchedulePlan)

def ResearchSchedulePlan.operatorEntries :
    List (String × Canonical) :=
  plan.operatorTriggerId.elim [] (fun id => [("operator_trigger_id", .str id)]) ++
    plan.operatorReasonCode.elim [] (fun code => [("operator_reason_code", .str code)])

def ResearchSchedulePlan.entries : List (String × Canonical) :=
  [("schema_version", .str "research_schedule_plan_v1"),
    ("work_item_id", .str plan.workItemId),
    ("work_kind", .str plan.workKind.value),
    ("idempotency_key", .str plan.idempotencyKey),
    ("schedule_version", .str plan.scheduleVersion),
    ("scheduled_for", .instant plan.scheduledFor),
    ("data_available_cutoff", .instant plan.dataAvailableCutoff),
    ("calendar_session_id", .optStr plan.calendarSessionId),
    ("calendar_session_hash", .optStr plan.calendarSessionHash),
    ("calendar_version", .optStr plan.calendarVersion),
    ("trigger_source_ids", .list (plan.triggerSourceIds.map .str)),
    ("trigger_content_hashes", .list (plan.triggerContentHashes.map .str)),
    ("trigger_manifest_hash", .str plan.triggerManifestHash),
    ("config_manifest_hash", .str plan.configManifestHash),
    ("real_order_routing", .bool false)] ++ plan.operatorEntries

def schedulePlanPayloadHash (hash : Hashing) (plan : ResearchSchedulePlan) : String :=
  hash.canonicalHash (.dict (plan.entries ++ [("plan_hash", .str plan.planHash)]))

/-- `^[A-Za-z0-9][A-Za-z0-9._:-]{0,159}$`. -/
def isOperatorTriggerId (text : String) : Bool :=
  match text.toList with
  | [] => false
  | first :: rest => first.isAlphanum && rest.length ≤ 159 &&
      rest.all fun c => c.isAlphanum || "._:-".toList.contains c

/-- `^[A-Z][A-Z0-9_]{1,79}$`. -/
def isOperatorReasonCode (text : String) : Bool :=
  match text.toList with
  | [] => false
  | first :: rest => first.isUpper && 1 ≤ rest.length && rest.length ≤ 79 &&
      rest.all fun c => c.isUpper || c.isDigit || c = '_'

def ResearchSchedulePlan.fieldErrors : List FieldError :=
  fieldCheck "schedule_version" (1 ≤ plan.scheduleVersion.length)
      "String should have at least 1 character" ++
    optionalCheck (fun id => fieldCheck "operator_trigger_id" (isOperatorTriggerId id)
      "String should match pattern '^[A-Za-z0-9][A-Za-z0-9._:-]\x7b0,159\x7d$'")
      plan.operatorTriggerId ++
    optionalCheck (fun code => fieldCheck "operator_reason_code" (isOperatorReasonCode code)
      "String should match pattern '^[A-Z][A-Z0-9_]\x7b1,79\x7d$'") plan.operatorReasonCode ++
    fieldCheck "config_manifest_hash" (1 ≤ plan.configManifestHash.length)
      "String should have at least 1 character"

def ResearchSchedulePlan.hasSession : Prop :=
  plan.calendarSessionId ≠ none ∧ plan.calendarSessionHash ≠ none ∧ plan.calendarVersion ≠ none

instance (plan : ResearchSchedulePlan) : Decidable plan.hasSession :=
  inferInstanceAs (Decidable (_ ∧ _))

def planFailure (message : String) : Failure := .record "ResearchSchedulePlanV1" message

def ResearchSchedulePlan.checkTriggers : Except Failure Unit :=
  if plan.workKind = .evidenceTriggeredResearch then
    raiseIf (plan.triggerSourceIds = [] ∨ plan.triggerContentHashes = [])
      (planFailure "evidence-triggered work requires bounded evidence")
  else
    raiseIf (plan.triggerSourceIds ≠ [] ∨ plan.triggerContentHashes ≠ [])
      (planFailure "calendar cadence work cannot carry evidence triggers")

def ResearchSchedulePlan.checkOperator : Except Failure Unit :=
  if plan.workKind = .operatorDeepResearch then
    raiseIf (plan.operatorTriggerId = none ∨ plan.operatorReasonCode = none)
      (planFailure "operator deep research requires trigger ID and reason code")
  else
    raiseIf (plan.operatorTriggerId ≠ none ∨ plan.operatorReasonCode ≠ none)
      (planFailure "only operator deep research may carry operator trigger fields")

def ResearchSchedulePlan.validateContract (hash : Hashing) (plan : ResearchSchedulePlan) :
    Except Failure Unit := do
  raiseIf (plan.scheduledFor < plan.dataAvailableCutoff)
    (planFailure "schedule data cutoff cannot follow scheduled_for")
  raiseIf (plan.workKind ≠ .evidenceTriggeredResearch ∧ ¬plan.hasSession)
    (planFailure "calendar-backed work requires a versioned session")
  plan.checkTriggers
  plan.checkOperator
  raiseIf (Sequence.sortedBy id plan.triggerSourceIds ≠ plan.triggerSourceIds)
    (planFailure "trigger source IDs must be sorted")
  raiseIf (Sequence.sortedBy id plan.triggerContentHashes ≠ plan.triggerContentHashes)
    (planFailure "trigger content hashes must be sorted")
  raiseIf (plan.triggerManifestHash ≠
      hash.canonicalHash (triggerManifest plan.triggerSourceIds plan.triggerContentHashes))
    (planFailure "trigger manifest hash mismatch")
  raiseIf (plan.planHash ≠ hash.canonicalHash (.dict plan.entries))
    (planFailure "research schedule plan hash mismatch")

/-- `ResearchSchedulePlanV1.model_validate`. -/
def ResearchSchedulePlan.validate (hash : Hashing) (plan : ResearchSchedulePlan) :
    Except Failure ResearchSchedulePlan := do
  raiseIf (plan.fieldErrors ≠ []) (.validation "ResearchSchedulePlanV1" plan.fieldErrors)
  plan.validateContract hash
  pure plan

/-- The arguments of `_make_plan` that say what the work is. -/
structure PlanContent where
  workKind : ResearchScheduleWorkKind
  identity : String
  scheduledFor : Instant
  dataAvailableCutoff : Instant
  calendarSessionId : Option String
  calendarSessionHash : Option String
  calendarVersion : Option String
  triggerSourceIds : List String
  triggerContentHashes : List String
  triggerManifestHash : String
  operatorTriggerId : Option String := none
  operatorReasonCode : Option String := none
deriving DecidableEq

def workIdentity (kind : ResearchScheduleWorkKind)
    (identity : String) : List Canonical :=
  [.str schedule.scheduleVersion, .str kind.value, .str identity]

def workItemIdFor (hash : Hashing) (schedule : ResearchScheduleConfig)
    (kind : ResearchScheduleWorkKind) (identity : String) : String :=
  hash.stableId "research-work" (workIdentity schedule kind identity)

namespace ResearchPlanner

variable (planner : ResearchPlanner) (hash : Hashing)

/-- The payload of `_make_plan`, without its digest. -/
def unsignedPlan (content : PlanContent) : ResearchSchedulePlan where
  workItemId := workItemIdFor hash planner.schedule content.workKind content.identity
  workKind := content.workKind
  idempotencyKey := hash.stableId "research-work-idempotency"
    (workIdentity planner.schedule content.workKind content.identity)
  scheduleVersion := planner.schedule.scheduleVersion
  scheduledFor := content.scheduledFor
  dataAvailableCutoff := content.dataAvailableCutoff
  calendarSessionId := content.calendarSessionId
  calendarSessionHash := content.calendarSessionHash
  calendarVersion := content.calendarVersion
  triggerSourceIds := content.triggerSourceIds
  triggerContentHashes := content.triggerContentHashes
  triggerManifestHash := content.triggerManifestHash
  operatorTriggerId := content.operatorTriggerId
  operatorReasonCode := content.operatorReasonCode
  configManifestHash := planner.configManifestHash
  planHash := ""

def planOf (content : PlanContent) : ResearchSchedulePlan :=
  let plan := planner.unsignedPlan hash content
  { plan with planHash := hash.canonicalHash (.dict plan.entries) }

def makePlan (content : PlanContent) : Except Failure ResearchSchedulePlan :=
  (planner.planOf hash content).validate hash

def calendarContent (kind : ResearchScheduleWorkKind) (identity : String) (scheduledFor : Instant)
    (session : VersionedResearchMarketSession) : PlanContent where
  workKind := kind
  identity := identity
  scheduledFor := scheduledFor
  dataAvailableCutoff := scheduledFor
  calendarSessionId := some session.calendarSessionId
  calendarSessionHash := some session.sessionHash
  calendarVersion := some session.calendarVersion
  triggerSourceIds := []
  triggerContentHashes := []
  triggerManifestHash := hash.canonicalHash (triggerManifest [] [])

def calendarPlan (kind : ResearchScheduleWorkKind) (identity : String) (scheduledFor : Instant)
    (session : VersionedResearchMarketSession) : Except Failure ResearchSchedulePlan :=
  planner.makePlan hash (calendarContent hash kind identity scheduledFor session)

def buildOperatorDeepResearchPlan (operatorTriggerId operatorReasonCode : String)
    (scheduledFor dataAvailableCutoff : Instant) (session : VersionedResearchMarketSession) :
    Except Failure ResearchSchedulePlan := do
  raiseIf (session.calendarVersion ≠ planner.schedule.marketCalendarVersion)
    ⟨.valueError, "operator deep research session calendar version mismatch", []⟩
  raiseIf (dataAvailableCutoff < session.availableAt)
    ⟨.valueError, "operator deep research session was unavailable at its cutoff", []⟩
  raiseIf (dataAvailableCutoff < session.closeAt)
    ⟨.valueError, "operator deep research requires a completed market session", []⟩
  planner.makePlan hash
    { calendarContent hash .operatorDeepResearch operatorTriggerId scheduledFor session with
      dataAvailableCutoff := dataAvailableCutoff
      operatorTriggerId := some operatorTriggerId
      operatorReasonCode := some operatorReasonCode }

end ResearchPlanner

def revisionKey (session : VersionedResearchMarketSession) : Instant ×ₗ String :=
  toLex (session.availableAt, session.calendarSessionId)

/-- One pass of the loop of `_latest_sessions_as_of`. -/
def takeRevision (calendarVersion : String) (asOf : Instant)
    (latest : Dict CivilDate VersionedResearchMarketSession)
    (session : VersionedResearchMarketSession) : Dict CivilDate VersionedResearchMarketSession :=
  if session.calendarVersion ≠ calendarVersion ∨ asOf < session.availableAt then latest
  else if (latest.get? session.sessionDate).all (revisionKey · < revisionKey session) then
    latest.set session.sessionDate session
  else latest

def latestSessionsAsOf (sessions : List VersionedResearchMarketSession) (calendarVersion : String)
    (asOf : Instant) : List VersionedResearchMarketSession :=
  (sessions.foldl (takeRevision calendarVersion asOf) .empty).sorted.values

def days (n : ℤ) : ℤ := n * 24 * 60 * 60 * 1000000

def ResearchScheduleConfig.dailyScheduledFor
    (session : VersionedResearchMarketSession) : Instant :=
  max (schedule.timezone.toUtc session.sessionDate schedule.dailyAggregationTime)
    (session.closeAt + schedule.dailyPostCloseDelayMinutes * 60 * 1000000)

def ResearchScheduleConfig.weeklyScheduledFor
    (date : CivilDate) : Instant :=
  schedule.timezone.toUtc date schedule.weeklyResearchTime

/-- The session that weekly work due at `scheduledFor` is about. -/
def weeklyAnchor (sessions : List VersionedResearchMarketSession) (scheduledFor : Instant) :
    Option VersionedResearchMarketSession :=
  Selection.maximumBy (fun session => toLex (session.sessionDate, revisionKey session))
    (sessions.filter (·.closeAt ≤ scheduledFor))

namespace ResearchScheduleConfig

variable (schedule : ResearchScheduleConfig) (asOf : Instant)

def earliest : Instant := asOf - days schedule.planningLookbackDays

/-- Whether work that is due at `scheduledFor` is planned at `asOf`. -/
def plans (scheduledFor : Instant) : Prop :=
  schedule.earliest asOf ≤ scheduledFor ∧ scheduledFor ≤ asOf

instance (scheduledFor : Instant) : Decidable (schedule.plans asOf scheduledFor) :=
  inferInstanceAs (Decidable (_ ∧ _))

/-- The dates whose weekly work is planned at `asOf`. -/
def dueWeeks : List CivilDate :=
  (CivilDate.daysBetween (schedule.timezone.localDate (schedule.earliest asOf))
      (schedule.timezone.localDate asOf)).filter fun date =>
    date.weekday = weekdayNumber schedule.weeklyResearchDay ∧
      schedule.plans asOf (schedule.weeklyScheduledFor date)

end ResearchScheduleConfig

def evidenceKey (marker : ResearchEvidenceMarker) : Instant ×ₗ Instant ×ₗ String ×ₗ String :=
  toLex (marker.capturedAt, toLex (marker.firstAvailableAt,
    toLex (marker.contentHash, marker.sourceId)))

def ResearchEvidenceMarker.isNew (marker : ResearchEvidenceMarker) (asOf : Instant)
    (consumed : List String) : Prop :=
  marker.capturedAt ≤ asOf ∧ marker.firstAvailableAt ≤ asOf ∧ marker.contentHash ∉ consumed

instance (marker : ResearchEvidenceMarker) (asOf : Instant) (consumed : List String) :
    Decidable (marker.isNew asOf consumed) := inferInstanceAs (Decidable (_ ∧ _))

def setdefault (unique : Dict String ResearchEvidenceMarker) (marker : ResearchEvidenceMarker) :
    Dict String ResearchEvidenceMarker :=
  if (unique.get? marker.contentHash).isSome then unique
  else unique.set marker.contentHash marker

def orderedEvidence (evidence : List ResearchEvidenceMarker) (asOf : Instant)
    (consumed : List String) : List ResearchEvidenceMarker :=
  (((Sequence.sortedBy evidenceKey evidence).filter (·.isNew asOf consumed)).foldl
    setdefault .empty).values

def evidenceContent (hash : Hashing) (batch : List ResearchEvidenceMarker) : PlanContent :=
  let sourceIds := Sequence.sortedBy id (batch.map (·.sourceId))
  let contentHashes := Sequence.sortedBy id (batch.map (·.contentHash))
  let scheduledFor := (batch.map (·.capturedAt)).max?.getD 0
  { workKind := .evidenceTriggeredResearch
    identity := hash.canonicalHash (.list (contentHashes.map .str))
    scheduledFor := scheduledFor
    dataAvailableCutoff := scheduledFor
    calendarSessionId := none
    calendarSessionHash := none
    calendarVersion := none
    triggerSourceIds := sourceIds
    triggerContentHashes := contentHashes
    triggerManifestHash := hash.canonicalHash (triggerManifest sourceIds contentHashes) }

namespace ResearchPlanner

variable (planner : ResearchPlanner) (hash : Hashing) (asOf : Instant)

def dailyKinds : List ResearchScheduleWorkKind :=
  .dailyAggregation ::
    if planner.includeOutcomeMaintenance then
      [.outcomeMaturation, .researchMemoryMaterialization] else []

variable (sessions : List VersionedResearchMarketSession)

def dailyPlans :
    Except Failure (List ResearchSchedulePlan) := do
  let due := sessions.filter fun session =>
    planner.schedule.plans asOf (planner.schedule.dailyScheduledFor session)
  let plans ← due.mapM fun session => planner.dailyKinds.mapM fun kind =>
    planner.calendarPlan hash kind session.sessionDate.isoformat
      (planner.schedule.dailyScheduledFor session) session
  pure plans.flatten

def dueWeekly :
    List (CivilDate × VersionedResearchMarketSession) :=
  (planner.schedule.dueWeeks asOf).filterMap fun date =>
    (weeklyAnchor sessions (planner.schedule.weeklyScheduledFor date)).map (date, ·)

def weeklyPlans :
    Except Failure (List ResearchSchedulePlan) :=
  (planner.dueWeekly asOf sessions).mapM fun week =>
    planner.calendarPlan hash .weeklyDeepResearch week.1.isoformat
      (planner.schedule.weeklyScheduledFor week.1) week.2

/-- `_evidence_plans`: the loop over the offsets ends at the first batch that is too short. -/
def evidencePlans (evidence : List ResearchEvidenceMarker) (consumed : List String) :
    Except Failure (List ResearchSchedulePlan) :=
  (Selection.batches planner.schedule.evidenceTriggerMinimumNewSources
    (orderedEvidence evidence asOf consumed)).mapM fun batch =>
      planner.makePlan hash (evidenceContent hash batch)

def planKey (plan : ResearchSchedulePlan) : Instant ×ₗ ℕ ×ₗ String :=
  toLex (plan.scheduledFor, toLex (workKindOrder plan.workKind, plan.workItemId))

def buildDueSchedulePlans (marketSessions : List VersionedResearchMarketSession)
    (evidence : List ResearchEvidenceMarker) (consumed : List String) :
    Except Failure (List ResearchSchedulePlan) := do
  let sessions := latestSessionsAsOf marketSessions planner.schedule.marketCalendarVersion asOf
  let daily ← planner.dailyPlans hash asOf sessions
  let weekly ← planner.weeklyPlans hash asOf sessions
  let triggered ← planner.evidencePlans hash asOf evidence consumed
  pure (Sequence.sortedBy planKey (daily ++ weekly ++ triggered))

end ResearchPlanner

end AdaptiveQuant
