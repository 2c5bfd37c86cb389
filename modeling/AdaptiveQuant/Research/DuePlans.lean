import AdaptiveQuant.Research.Schedule

/-! Which plans are due. -/

namespace AdaptiveQuant

open Guard Sequence List

namespace ResearchPlanner

variable {planner : ResearchPlanner} {hash : Hashing} {asOf : Instant}

def calendarPlanOf (planner : ResearchPlanner) (hash : Hashing) (kind : ResearchScheduleWorkKind)
    (date : CivilDate) (scheduledFor : Instant) (session : VersionedResearchMarketSession) :
    ResearchSchedulePlan :=
  planner.planOf hash (calendarContent hash kind date.isoformat scheduledFor session)

def evidencePlanOf (planner : ResearchPlanner) (hash : Hashing)
    (batch : List ResearchEvidenceMarker) : ResearchSchedulePlan :=
  planner.planOf hash (evidenceContent hash batch)

def isCadence (kind : ResearchScheduleWorkKind) : Prop :=
  kind ≠ .operatorDeepResearch ∧ kind ≠ .evidenceTriggeredResearch

theorem fieldErrors_planOf (planner : ResearchPlanner) (hash : Hashing) (content : PlanContent)
    (operator : content.operatorTriggerId = none) (reason : content.operatorReasonCode = none) :
    (planner.planOf hash content).fieldErrors = [] := by
  have hversion := planner.schedule.version_length
  have hmanifest := planner.manifest_length
  simp only [ResearchSchedulePlan.fieldErrors, planOf, unsignedPlan, operator, reason,
    optionalCheck, Option.elim_none, append_nil, append_eq_nil_iff, fieldCheck_eq_nil]
  exact ⟨hversion, hmanifest⟩

theorem sortedBy_id_sortedBy (items : List String) :
    sortedBy id (sortedBy id items) = sortedBy id items :=
  sortedBy_eq_self id (sortedBy_pairwise id items)

theorem makePlan_calendar {kind} (cadence : isCadence kind) (identity : String)
    (scheduledFor : Instant) (session : VersionedResearchMarketSession) :
    planner.makePlan hash (calendarContent hash kind identity scheduledFor session) =
      .ok (planner.planOf hash (calendarContent hash kind identity scheduledFor session)) := by
  obtain ⟨hoperator, hevidence⟩ := cadence
  have hfields := fieldErrors_planOf planner hash
    (calendarContent hash kind identity scheduledFor session) rfl rfl
  unfold makePlan ResearchSchedulePlan.validate
  rw [raiseIf_neg _ (not_not.mpr hfields), ok_bind]
  simp [ResearchSchedulePlan.validateContract, ResearchSchedulePlan.checkTriggers,
    ResearchSchedulePlan.checkOperator, ResearchSchedulePlan.hasSession, planOf, unsignedPlan,
    calendarContent, hoperator, hevidence, raiseIf, ResearchSchedulePlan.entries,
    ResearchSchedulePlan.operatorEntries]

theorem makePlan_evidence {batch} (nonempty : batch ≠ []) :
    planner.makePlan hash (evidenceContent hash batch) =
      .ok (planner.evidencePlanOf hash batch) := by
  have hfields := fieldErrors_planOf planner hash
    (evidenceContent hash batch) rfl rfl
  unfold makePlan ResearchSchedulePlan.validate
  rw [raiseIf_neg _ (not_not.mpr hfields), ok_bind]
  simp [ResearchSchedulePlan.validateContract, ResearchSchedulePlan.checkTriggers,
    ResearchSchedulePlan.checkOperator, evidencePlanOf, planOf, unsignedPlan, evidenceContent,
    nonempty, raiseIf, ResearchSchedulePlan.entries, ResearchSchedulePlan.operatorEntries,
    sortedBy_id_sortedBy]

section Due

variable (planner : ResearchPlanner) (hash : Hashing) (asOf : Instant)
  (sessions : List VersionedResearchMarketSession) (evidence : List ResearchEvidenceMarker)
  (consumed : List String)

/-- The sessions that planning at `asOf` reads. -/
def latestSessions : List VersionedResearchMarketSession :=
  latestSessionsAsOf sessions planner.schedule.marketCalendarVersion asOf

/-- The plans that are due at `asOf`: the work that follows each session, the weekly work, and the
work that a batch of new evidence triggers. -/
inductive DuePlan : ResearchSchedulePlan → Prop
  | daily {kind : ResearchScheduleWorkKind} {session : VersionedResearchMarketSession}
      (follows : kind ∈ planner.dailyKinds)
      (known : session ∈ planner.latestSessions asOf sessions)
      (due : planner.schedule.plans asOf (planner.schedule.dailyScheduledFor session)) :
      DuePlan (planner.calendarPlanOf hash kind session.sessionDate
        (planner.schedule.dailyScheduledFor session) session)
  | weekly {date : CivilDate} {session : VersionedResearchMarketSession}
      (due : date ∈ planner.schedule.dueWeeks asOf)
      (anchor : weeklyAnchor (planner.latestSessions asOf sessions)
        (planner.schedule.weeklyScheduledFor date) = some session) :
      DuePlan (planner.calendarPlanOf hash .weeklyDeepResearch date
        (planner.schedule.weeklyScheduledFor date) session)
  | triggered {batch : List ResearchEvidenceMarker}
      (new : batch ∈ Selection.batches planner.schedule.evidenceTriggerMinimumNewSources
        (orderedEvidence evidence asOf consumed)) :
      DuePlan (planner.evidencePlanOf hash batch)

end Due

section Building

variable {sessions : List VersionedResearchMarketSession} {evidence : List ResearchEvidenceMarker}
  {consumed : List String}

theorem isCadence_of_mem_dailyKinds {kind} (h : kind ∈ planner.dailyKinds) : isCadence kind := by
  have hkinds : kind = .dailyAggregation ∨ kind = .outcomeMaturation ∨
      kind = .researchMemoryMaterialization := by
    unfold dailyKinds at h
    split at h
    · simpa using h
    · exact .inl (by simpa using h)
  rcases hkinds with rfl | rfl | rfl <;> exact ⟨by decide, by decide⟩

theorem dailyPlans_ok (planner : ResearchPlanner) (hash : Hashing) (asOf : Instant)
    (sessions : List VersionedResearchMarketSession) :
    ∃ plans, planner.dailyPlans hash asOf sessions = .ok plans ∧ ∀ plan, plan ∈ plans ↔
      ∃ kind ∈ planner.dailyKinds, ∃ session ∈ sessions,
        planner.schedule.plans asOf (planner.schedule.dailyScheduledFor session) ∧
        plan = planner.calendarPlanOf hash kind session.sessionDate
          (planner.schedule.dailyScheduledFor session) session := by
  have hsession : ∀ session, planner.dailyKinds.mapM (fun kind => planner.calendarPlan hash kind
      session.sessionDate.isoformat (planner.schedule.dailyScheduledFor session) session) =
        .ok (planner.dailyKinds.map fun kind => planner.calendarPlanOf hash kind
          session.sessionDate (planner.schedule.dailyScheduledFor session) session) := by
    intro session
    exact mapM_eq_ok fun kind hkind =>
      makePlan_calendar (isCadence_of_mem_dailyKinds hkind) _ _ session
  simp only [dailyPlans]
  rw [mapM_eq_ok fun session _ => hsession session]
  refine ⟨_, rfl, fun plan => ?_⟩
  simp only [mem_flatten, mem_map, mem_filter, decide_eq_true_eq]
  constructor
  · rintro ⟨plans, ⟨session, ⟨hsession, hdue⟩, rfl⟩, hplan⟩
    obtain ⟨kind, hkind, rfl⟩ := mem_map.mp hplan
    exact ⟨kind, hkind, session, hsession, hdue, rfl⟩
  · rintro ⟨kind, hkind, session, hsession, hdue, rfl⟩
    exact ⟨_, ⟨session, ⟨hsession, hdue⟩, rfl⟩, mem_map_of_mem hkind⟩

theorem weeklyPlans_ok (planner : ResearchPlanner) (hash : Hashing) (asOf : Instant)
    (sessions : List VersionedResearchMarketSession) :
    ∃ plans, planner.weeklyPlans hash asOf sessions = .ok plans ∧ ∀ plan, plan ∈ plans ↔
      ∃ date ∈ planner.schedule.dueWeeks asOf, ∃ session,
        weeklyAnchor sessions (planner.schedule.weeklyScheduledFor date) = some session ∧
        plan = planner.calendarPlanOf hash .weeklyDeepResearch date
          (planner.schedule.weeklyScheduledFor date) session := by
  unfold weeklyPlans
  rw [mapM_eq_ok fun week _ => makePlan_calendar ⟨by decide, by decide⟩ _ _ week.2]
  refine ⟨_, rfl, fun plan => ?_⟩
  simp only [mem_map, dueWeekly, mem_filterMap]
  constructor
  · rintro ⟨week, ⟨date, hdate, hanchor⟩, rfl⟩
    obtain ⟨session, hsession, rfl⟩ := Option.map_eq_some_iff.mp hanchor
    exact ⟨date, hdate, session, hsession, rfl⟩
  · rintro ⟨date, hdate, session, hsession, rfl⟩
    exact ⟨(date, session), ⟨date, hdate, by rw [hsession, Option.map_some]⟩, rfl⟩

theorem evidencePlans_eq :
    planner.evidencePlans hash asOf evidence consumed =
      .ok ((Selection.batches planner.schedule.evidenceTriggerMinimumNewSources
        (orderedEvidence evidence asOf consumed)).map (planner.evidencePlanOf hash)) := by
  refine mapM_eq_ok fun batch hbatch => makePlan_evidence ?_
  rintro rfl
  have hlength := Selection.length_of_mem_batches _ hbatch
  have hpositive := planner.schedule.trigger_pos
  rw [length_nil] at hlength
  omega

theorem buildDueSchedulePlans_ok (planner : ResearchPlanner) (hash : Hashing) (asOf : Instant)
    (sessions : List VersionedResearchMarketSession) (evidence : List ResearchEvidenceMarker)
    (consumed : List String) :
    ∃ plans, planner.buildDueSchedulePlans hash asOf sessions evidence consumed = .ok plans ∧
      ∀ plan, plan ∈ plans ↔ DuePlan planner hash asOf sessions evidence consumed plan := by
  obtain ⟨daily, hdaily, hmemDaily⟩ := dailyPlans_ok planner hash asOf
    (planner.latestSessions asOf sessions)
  obtain ⟨weekly, hweekly, hmemWeekly⟩ := weeklyPlans_ok planner hash asOf
    (planner.latestSessions asOf sessions)
  unfold latestSessions at hdaily hweekly
  unfold buildDueSchedulePlans
  simp only [hdaily, hweekly, evidencePlans_eq, ok_bind]
  refine ⟨_, rfl, fun plan => ?_⟩
  simp only [mem_sortedBy, mem_append, mem_map]
  constructor
  · rintro ((hplan | hplan) | ⟨batch, hbatch, rfl⟩)
    · obtain ⟨kind, hkind, session, hsession, hdue, rfl⟩ := (hmemDaily plan).mp hplan
      exact .daily hkind hsession hdue
    · obtain ⟨date, hdate, session, hsession, rfl⟩ := (hmemWeekly plan).mp hplan
      exact .weekly hdate hsession
    · exact .triggered hbatch
  · intro hplan
    cases hplan with
    | @daily kind session hkind hsession hdue =>
      exact .inl (.inl ((hmemDaily _).mpr ⟨kind, hkind, session, hsession, hdue, rfl⟩))
    | @weekly date session hdate hsession =>
      exact .inl (.inr ((hmemWeekly _).mpr ⟨date, hdate, session, hsession, rfl⟩))
    | @triggered batch hbatch => exact .inr ⟨batch, hbatch, rfl⟩

end Building

variable {kind kind' : ResearchScheduleWorkKind}

theorem workItemIdFor_inj (distinct : hash.NoCollision) {schedule} {identity identity' : String}
    (h : workItemIdFor hash schedule kind identity = workItemIdFor hash schedule kind' identity') :
    kind = kind' ∧ identity = identity' := by
  have hparts := distinct _ _ _ h
  simp only [workIdentity, List.cons.injEq, Canonical.str.injEq, true_and, and_true] at hparts
  exact ⟨ResearchScheduleWorkKind.value_injective hparts.1, hparts.2⟩

theorem calendarPlanOf_inj (distinct : hash.NoCollision)
    {date date' : CivilDate} {due due' : Instant}
    {session session' : VersionedResearchMarketSession}
    (h : (planner.calendarPlanOf hash kind date due session).workItemId =
      (planner.calendarPlanOf hash kind' date' due' session').workItemId) :
    kind = kind' ∧ date = date' := by
  obtain ⟨hkind, hidentity⟩ := workItemIdFor_inj distinct h
  exact ⟨hkind, CivilDate.isoformat_injective hidentity⟩

end ResearchPlanner

end AdaptiveQuant
