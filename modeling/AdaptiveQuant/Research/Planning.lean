import AdaptiveQuant.Persistence.ResearchScheduler
import AdaptiveQuant.Research.PointInTime

/-! Planning over time: the scheduler service reads the calendar and the evidence as they grow, and
stores the plans that are due. -/

namespace AdaptiveQuant

open Guard Sequence List

structure PlannerState where
  calendar : MarketCalendar
  evidence : List ResearchEvidenceMarker
  tables : SchedulerTables

def SchedulerTables.consumed (tables : SchedulerTables) : List String :=
  (tables.items.filter (·.plan.workKind = .evidenceTriggeredResearch)).flatMap
    (·.plan.triggerContentHashes)

namespace PlannerState

variable (state : PlannerState) (asOf : Instant)

def planningSessions (calendarVersion : String) : List VersionedResearchMarketSession :=
  sortedBy (fun session => toLex (session.sessionDate, revisionKey session))
    (state.calendar.rows.filter fun session =>
      session.calendarVersion = calendarVersion ∧ session.availableAt ≤ asOf)

def planningEvidence : List ResearchEvidenceMarker :=
  sortedBy evidenceKey (state.evidence.filter fun marker =>
    marker.firstAvailableAt ≤ asOf ∧ marker.capturedAt ≤ asOf)

def duePlans (planner : ResearchPlanner) (hash : Hashing) :
    Except Failure (List ResearchSchedulePlan) :=
  planner.buildDueSchedulePlans hash asOf
    (state.planningSessions asOf planner.schedule.marketCalendarVersion)
    (state.planningEvidence asOf) state.tables.consumed

def plan (planner : ResearchPlanner) (hash : Hashing) : Option Failure × PlannerState :=
  match state.duePlans asOf planner hash with
  | .error failure => (some failure, state)
  | .ok plans =>
    let stored := storePlans hash asOf plans state.tables
    (stored.1, { state with tables := stored.2 })

end PlannerState

/-- The unique columns of `market_calendar_sessions` besides its key. -/
def VersionedResearchMarketSession.sameContent (session other : VersionedResearchMarketSession) :
    Prop :=
  session.calendarVersion = other.calendarVersion ∧ session.sessionDate = other.sessionDate ∧
    session.sessionHash = other.sessionHash

instance (session other : VersionedResearchMarketSession) : Decidable (session.sameContent other) :=
  inferInstanceAs (Decidable (_ ∧ _))

def MarketCalendar.publish (calendar : MarketCalendar) (session : VersionedResearchMarketSession) :
    MarketCalendar :=
  if new : session.calendarSessionId ∈ calendar.rows.map (·.calendarSessionId) then calendar
  else if ∃ other ∈ calendar.rows, session.sameContent other then calendar
  else
    { rows := calendar.rows ++ [session]
      key := by
        rw [map_append, map_singleton, ← concat_eq_append]
        exact List.Nodup.concat new calendar.key }

inductive PlannerAction
  | publish (session : VersionedResearchMarketSession)
  | capture (marker : ResearchEvidenceMarker)
  | plan (asOf : Instant)

def plannerStep (planner : ResearchPlanner) (hash : Hashing) (state : PlannerState) :
    PlannerAction → Option Failure × PlannerState
  | .publish session => (none, { state with calendar := state.calendar.publish session })
  | .capture marker => (none, { state with evidence := state.evidence ++ [marker] })
  | .plan asOf => state.plan asOf planner hash

/-- The runs of the planner: a tick that fails is followed by the next action too. -/
abbrev PlannerRun (planner : ResearchPlanner) (hash : Hashing) :=
  Run fun state action => (Except.ok (plannerStep planner hash state action).2 :
    Except Failure PlannerState)

section Ticks

variable {planner : ResearchPlanner} {hash : Hashing} {state : PlannerState} {asOf : Instant}
  {session : VersionedResearchMarketSession}

abbrev PlannerState.Due (planner : ResearchPlanner) (hash : Hashing) (state : PlannerState)
    (asOf : Instant) (plan : ResearchSchedulePlan) : Prop :=
  ResearchPlanner.DuePlan planner hash asOf
    (state.planningSessions asOf planner.schedule.marketCalendarVersion)
    (state.planningEvidence asOf) state.tables.consumed plan

theorem PlannerState.nodup_planningSessions (state : PlannerState) (asOf : Instant)
    (version : String) :
    ((state.planningSessions asOf version).map (·.calendarSessionId)).Nodup :=
  ((sortedBy_perm _ _).map _).nodup_iff.mpr
    (state.calendar.key.sublist (filter_sublist.map _))

variable {version : String}

theorem known_planningSessions :
    Known (state.planningSessions asOf version) version asOf session ↔
      Known state.calendar.rows version asOf session := by
  simp only [Known, PlannerState.planningSessions, mem_sortedBy, mem_filter,
    decide_eq_true_eq]
  tauto

theorem inForce_planningSessions :
    InForce (state.planningSessions asOf version) version asOf session ↔
      InForce state.calendar.rows version asOf session := by
  simp only [InForce, known_planningSessions]

theorem anchors_planningSessions {due : Instant} :
    Anchors (state.planningSessions asOf version) version asOf due session ↔
      Anchors state.calendar.rows version asOf due session := by
  simp only [Anchors, inForce_planningSessions]

theorem PlannerState.duePlans_ok (planner : ResearchPlanner) (hash : Hashing) (state : PlannerState)
    (asOf : Instant) :
    ∃ plans, state.duePlans asOf planner hash = .ok plans ∧
      ∀ plan, plan ∈ plans ↔ state.Due planner hash asOf plan :=
  ResearchPlanner.buildDueSchedulePlans_ok planner hash asOf _ _ _

def DueDay (planner : ResearchPlanner) (state : PlannerState) (asOf : Instant)
    (session : VersionedResearchMarketSession) : Prop :=
  InForce state.calendar.rows planner.schedule.marketCalendarVersion asOf session ∧
    planner.schedule.plans asOf (planner.schedule.dailyScheduledFor session)

def DueWeek (planner : ResearchPlanner) (state : PlannerState) (asOf : Instant) (date : CivilDate)
    (session : VersionedResearchMarketSession) : Prop :=
  date ∈ planner.schedule.dueWeeks asOf ∧
    Anchors state.calendar.rows planner.schedule.marketCalendarVersion asOf
      (planner.schedule.weeklyScheduledFor date) session

theorem due_iff {plan} :
    state.Due planner hash asOf plan ↔
      (∃ kind ∈ planner.dailyKinds, ∃ session, DueDay planner state asOf session ∧
        plan = planner.calendarPlanOf hash kind session.sessionDate
          (planner.schedule.dailyScheduledFor session) session) ∨
      (∃ date session, DueWeek planner state asOf date session ∧
        plan = planner.calendarPlanOf hash .weeklyDeepResearch date
          (planner.schedule.weeklyScheduledFor date) session) ∨
      (∃ batch ∈ Selection.batches planner.schedule.evidenceTriggerMinimumNewSources
          (orderedEvidence (state.planningEvidence asOf) asOf state.tables.consumed),
        plan = planner.evidencePlanOf hash batch) := by
  have hkey := state.nodup_planningSessions asOf planner.schedule.marketCalendarVersion
  constructor
  · intro h
    cases h with
    | @daily kind session follows known due =>
      have hforce := (mem_latestSessionsAsOf hkey).mp known
      exact .inl ⟨kind, follows, session, ⟨inForce_planningSessions.mp hforce, due⟩, rfl⟩
    | @weekly date session due anchor =>
      have hanchor := (weeklyAnchor_eq_some hkey).mp anchor
      exact .inr (.inl ⟨date, session, ⟨due, anchors_planningSessions.mp hanchor⟩, rfl⟩)
    | @triggered batch new => exact .inr (.inr ⟨batch, new, rfl⟩)
  · rintro (⟨kind, hkind, session, ⟨hforce, hdue⟩, rfl⟩ | ⟨date, session, ⟨hdue, hanchor⟩, rfl⟩ |
      ⟨batch, hbatch, rfl⟩)
    · exact .daily hkind ((mem_latestSessionsAsOf hkey).mpr (inForce_planningSessions.mpr hforce))
        hdue
    · exact .weekly hdue ((weeklyAnchor_eq_some hkey).mpr (anchors_planningSessions.mpr hanchor))
    · exact .triggered hbatch

end Ticks

/-- What planning alone leaves in the tables: every plan under its own name, with its first
event. -/
structure SchedulerTables.Planned (planner : ResearchPlanner) (hash : Hashing)
    (tables : SchedulerTables) : Prop where
  made : ∀ item ∈ tables.items, ∃ content, item.plan = planner.planOf hash content
  key : (tables.items.map (·.plan.workItemId)).Nodup
  events : tables.events = tables.items.map fun item =>
    (SchedulerTables.plannedDraft item.plan item.createdAt).row hash item.plan

section Storing

variable {planner : ResearchPlanner} {hash : Hashing} {tables : SchedulerTables}

def contentConflict : Failure :=
  persistenceError "schedule work identity has different immutable content"

section

variable (planned : tables.Planned planner hash)

include planned

theorem SchedulerTables.Planned.fresh (distinct : hash.NoCollision)
    (injective : Function.Injective hash.canonicalHash) (content : PlanContent) {item}
    (hitem : item ∈ tables.items)
    (new : item.plan.workItemId ≠ (planner.planOf hash content).workItemId) :
    (planner.planOf hash content).idempotencyKey ≠ item.plan.idempotencyKey ∧
      (planner.planOf hash content).planHash ≠ item.plan.planHash := by
  obtain ⟨stored, hstored⟩ := planned.made item hitem
  rw [hstored] at new ⊢
  constructor
  · intro hkey
    have hparts := distinct _ _ _ hkey
    exact new (congrArg (hash.stableId "research-work") hparts.symm)
  · intro hhash
    have hentries := injective hhash
    simp only [ResearchSchedulePlan.entries, cons_append, Canonical.dict,
      Canonical.entry.injEq, Canonical.str.injEq, true_and] at hentries
    exact new hentries.1.symm

theorem SchedulerTables.Planned.event_fresh (distinct : hash.NoCollision)
    (injective : Function.Injective hash.canonicalHash) {plan}
    (new : ∀ item ∈ tables.items, item.plan.workItemId ≠ plan.workItemId) {event}
    (hevent : event ∈ tables.events) (createdAt : Instant) :
    ¬((SchedulerTables.plannedDraft plan createdAt).row hash plan).clashes event := by
  rw [planned.events, mem_map] at hevent
  obtain ⟨item, hitem, rfl⟩ := hevent
  have hids : (SchedulerTables.plannedDraft plan createdAt).eventId hash plan ≠
      (SchedulerTables.plannedDraft item.plan item.createdAt).eventId hash item.plan := by
    intro hid
    have hparts := distinct _ _ _ hid
    simp only [List.cons.injEq, Canonical.str.injEq] at hparts
    exact new item hitem hparts.1.symm
  rintro (hid | hhash | ⟨hsame, -⟩)
  · exact hids hid
  · have hpayload := injective hhash
    simp only [EventDraft.payload, cons_append, Canonical.dict, Canonical.entry.injEq,
      Canonical.str.injEq, true_and] at hpayload
    exact hids hpayload.1
  · exact new item hitem hsame.symm

theorem storePlan_cases (distinct : hash.NoCollision)
    (injective : Function.Injective hash.canonicalHash) (content : PlanContent)
    (createdAt : Instant) :
    (∃ item ∈ tables.items, item.plan.workItemId = (planner.planOf hash content).workItemId ∧
      tables.storePlan hash (planner.planOf hash content) createdAt =
        if item.plan = planner.planOf hash content then .ok tables else .error contentConflict) ∨
    ((∀ item ∈ tables.items, item.plan.workItemId ≠ (planner.planOf hash content).workItemId) ∧
      ∃ stored, tables.storePlan hash (planner.planOf hash content) createdAt = .ok stored ∧
        stored.items = tables.items ++ [⟨planner.planOf hash content, createdAt⟩] ∧
        stored.Planned planner hash) := by
  generalize hplan : planner.planOf hash content = plan
  unfold SchedulerTables.storePlan
  cases hfound : tables.lockedWork plan.workItemId with
  | some item =>
    have hmem := mem_of_find?_eq_some hfound
    have hid : item.plan.workItemId = plan.workItemId := by simpa using List.find?_some hfound
    refine .inl ⟨item, hmem, hid, ?_⟩
    simp only
    by_cases hsame : item.plan = plan
    · rw [raiseIf_neg _ (not_not.mpr hsame), ok_bind, if_pos hsame]
      rfl
    · rw [raiseIf_pos _ hsame, error_bind, if_neg hsame]
      rfl
  | none =>
    have hnew : ∀ item ∈ tables.items, item.plan.workItemId ≠ plan.workItemId := by
      intro item hitem
      simpa using List.find?_eq_none.mp hfound item hitem
    refine .inr ⟨hnew, ?_⟩
    have hclash : ¬∃ other ∈ tables.items, plan.idempotencyKey = other.plan.idempotencyKey ∨
        plan.planHash = other.plan.planHash := by
      rintro ⟨other, hother, hkey⟩
      have hfresh := planned.fresh distinct injective content hother
        (hplan ▸ hnew other hother)
      rw [hplan] at hfresh
      exact hkey.elim hfresh.1 hfresh.2
    have hevent : ¬∃ other ∈ tables.events,
        ((SchedulerTables.plannedDraft plan createdAt).row hash plan).clashes other := by
      rintro ⟨other, hother, hclashes⟩
      exact planned.event_fresh distinct injective hnew hother createdAt hclashes
    simp only [SchedulerTables.appendEvent]
    rw [raiseIf_neg _ hclash, ok_bind, raiseIf_neg _ hevent, ok_bind]
    refine ⟨_, rfl, rfl, ?_, ?_, ?_⟩
    · intro item hitem
      rcases mem_append.mp hitem with hitem | hitem
      · exact planned.made item hitem
      · rw [mem_singleton.mp hitem]
        exact ⟨content, hplan.symm⟩
    · rw [map_append, map_singleton, ← concat_eq_append]
      refine List.Nodup.concat (fun hmem => ?_) planned.key
      obtain ⟨item, hitem, hid⟩ := mem_map.mp hmem
      exact hnew item hitem hid
    · rw [map_append, planned.events]
      rfl

end

theorem storePlans_spec (distinct : hash.NoCollision)
    (injective : Function.Injective hash.canonicalHash) {plans}
    (made : ∀ plan ∈ plans, ∃ content, plan = planner.planOf hash content)
    (planned : tables.Planned planner hash) (createdAt : Instant) :
    (storePlans hash createdAt plans tables).2.Planned planner hash ∧
      (∃ added, (storePlans hash createdAt plans tables).2.items = tables.items ++ added ∧
        ∀ item ∈ added, item.plan ∈ plans) ∧
      ((storePlans hash createdAt plans tables).1 = none → ∀ plan ∈ plans,
        ∃ item ∈ (storePlans hash createdAt plans tables).2.items, item.plan = plan) := by
  induction plans generalizing tables with
  | nil =>
    refine ⟨planned, ⟨[], (append_nil _).symm, fun _ h => ?_⟩, fun _ _ h => ?_⟩
    · cases h
    · cases h
  | cons plan plans ih =>
    rw [forall_mem_cons] at made
    obtain ⟨⟨content, rfl⟩, hmade⟩ := made
    unfold storePlans
    rcases storePlan_cases planned distinct injective content createdAt with
      ⟨item, hitem, hid, hstore⟩ | ⟨hnew, stored, hstore, hitems, hplanned⟩
    · by_cases hsame : item.plan = planner.planOf hash content
      · rw [hstore, if_pos hsame]
        obtain ⟨hplanned, ⟨added, hadded, hfrom⟩, hall⟩ := ih hmade planned
        refine ⟨hplanned, ⟨added, hadded, fun i hi => mem_cons_of_mem _ (hfrom i hi)⟩, ?_⟩
        intro hnone p hp
        rcases mem_cons.mp hp with rfl | hp
        · refine ⟨item, ?_, hsame⟩
          rw [hadded]
          exact mem_append_left _ hitem
        · exact hall hnone p hp
      · rw [hstore, if_neg hsame]
        refine ⟨planned, ⟨[], (append_nil _).symm, fun _ h => ?_⟩, fun h => ?_⟩
        · cases h
        · cases h
    · rw [hstore]
      obtain ⟨hplanned', ⟨added, hadded, hfrom⟩, hall⟩ := ih hmade hplanned
      refine ⟨hplanned', ⟨⟨planner.planOf hash content, createdAt⟩ :: added, ?_, ?_⟩, ?_⟩
      · rw [hadded, hitems, append_assoc]
        rfl
      · intro i hi
        rcases mem_cons.mp hi with rfl | hi
        · exact mem_cons_self
        · exact mem_cons_of_mem _ (hfrom i hi)
      · intro hnone p hp
        rcases mem_cons.mp hp with rfl | hp
        · refine ⟨⟨planner.planOf hash content, createdAt⟩, ?_, rfl⟩
          rw [hadded, hitems]
          simp
        · exact hall hnone p hp

theorem storePlans_none (distinct : hash.NoCollision)
    (injective : Function.Injective hash.canonicalHash) {plans}
    (made : ∀ plan ∈ plans, ∃ content, plan = planner.planOf hash content)
    (planned : tables.Planned planner hash) (createdAt : Instant)
    (stored : ∀ item ∈ tables.items, ∀ plan ∈ plans, item.plan.workItemId = plan.workItemId →
      item.plan = plan)
    (agree : ∀ plan ∈ plans, ∀ other ∈ plans, plan.workItemId = other.workItemId → plan = other) :
    (storePlans hash createdAt plans tables).1 = none := by
  induction plans generalizing tables with
  | nil => rfl
  | cons plan plans ih =>
    rw [forall_mem_cons] at made
    obtain ⟨⟨content, rfl⟩, hmade⟩ := made
    have hagree : ∀ plan ∈ plans, ∀ other ∈ plans, plan.workItemId = other.workItemId →
        plan = other := fun p hp q hq =>
      agree p (mem_cons_of_mem _ hp) q (mem_cons_of_mem _ hq)
    unfold storePlans
    rcases storePlan_cases planned distinct injective content createdAt with
      ⟨item, hitem, hid, hstore⟩ | ⟨-, next, hstore, hitems, hplanned⟩
    · rw [hstore, if_pos (stored item hitem _ mem_cons_self hid)]
      exact ih hmade planned (fun i hi p hp => stored i hi p (mem_cons_of_mem _ hp)) hagree
    · rw [hstore]
      refine ih hmade hplanned (fun i hi p hp hsame => ?_) hagree
      rw [hitems] at hi
      rcases mem_append.mp hi with hi | hi
      · exact stored i hi p (mem_cons_of_mem _ hp) hsame
      · rw [mem_singleton.mp hi] at hsame ⊢
        exact agree _ mem_cons_self p (mem_cons_of_mem _ hp) hsame

end Storing

end AdaptiveQuant
