import AdaptiveQuant.Research.Planning

/-! Planning under calendar revisions. -/

namespace AdaptiveQuant

open Guard Sequence List

/-- Two ticks agree on the session of every day and every week that both plan. -/
structure SameSessions (planner : ResearchPlanner) (earlier : PlannerState) (asOf : Instant)
    (later : PlannerState) (asOf' : Instant) : Prop where
  days : ∀ session session', DueDay planner earlier asOf session →
    DueDay planner later asOf' session' → session.sessionDate = session'.sessionDate →
    session = session'
  weeks : ∀ date session session', DueWeek planner earlier asOf date session →
    DueWeek planner later asOf' date session' → session = session'

section Names

variable {planner : ResearchPlanner} {hash : Hashing} {earlier later : PlannerState}
  {asOf asOf' : Instant} {plan plan' : ResearchSchedulePlan}

theorem due_made (h : earlier.Due planner hash asOf plan) :
    ∃ content, plan = planner.planOf hash content := by
  cases h <;> exact ⟨_, rfl⟩

variable {batch batch' : List ResearchEvidenceMarker}

theorem evidencePlanOf_inj (distinct : hash.NoCollision)
    (injective : Function.Injective hash.canonicalHash)
    (h : (planner.evidencePlanOf hash batch).workItemId =
      (planner.evidencePlanOf hash batch').workItemId) : contents batch = contents batch' := by
  obtain ⟨-, hidentity⟩ := ResearchPlanner.workItemIdFor_inj distinct h
  have hlists := Canonical.list_injective (injective hidentity)
  exact map_injective_iff.mpr (fun _ _ heq => Canonical.str.inj heq) hlists

abbrev PlannerState.dueBatches (planner : ResearchPlanner) (state : PlannerState) (asOf : Instant) :
    List (List ResearchEvidenceMarker) :=
  Selection.batches planner.schedule.evidenceTriggerMinimumNewSources
    (orderedEvidence (state.planningEvidence asOf) asOf state.tables.consumed)

theorem dailyKinds_ne_weekly {kind} (h : kind ∈ planner.dailyKinds) :
    kind ≠ .weeklyDeepResearch := by
  rintro rfl
  unfold ResearchPlanner.dailyKinds at h
  split at h <;> simp at h

theorem due_eq_of_name (distinct : hash.NoCollision)
    (injective : Function.Injective hash.canonicalHash)
    (steady : SameSessions planner earlier asOf later asOf')
    (batches : ∀ batch ∈ earlier.dueBatches planner asOf, ∀ batch' ∈ later.dueBatches planner asOf',
      plan = planner.evidencePlanOf hash batch → contents batch = contents batch' → batch = batch')
    (h : earlier.Due planner hash asOf plan) (h' : later.Due planner hash asOf' plan')
    (name : plan.workItemId = plan'.workItemId) : plan = plan' := by
  rw [due_iff] at h h'
  rcases h with ⟨kind, hkind, session, hday, rfl⟩ | ⟨date, session, hweek, rfl⟩ |
    ⟨batch, hbatch, rfl⟩ <;>
  rcases h' with ⟨kind', hkind', session', hday', rfl⟩ | ⟨date', session', hweek', rfl⟩ |
    ⟨batch', hbatch', rfl⟩
  · obtain ⟨rfl, hdate⟩ := ResearchPlanner.calendarPlanOf_inj distinct name
    rw [steady.days session session' hday hday' hdate]
  · obtain ⟨rfl, -⟩ := ResearchPlanner.calendarPlanOf_inj distinct name
    exact (dailyKinds_ne_weekly hkind rfl).elim
  · obtain ⟨hkinds, -⟩ := ResearchPlanner.workItemIdFor_inj distinct name
    exact ((ResearchPlanner.isCadence_of_mem_dailyKinds hkind).2 hkinds).elim
  · obtain ⟨rfl, -⟩ := ResearchPlanner.calendarPlanOf_inj distinct name
    exact (dailyKinds_ne_weekly hkind' rfl).elim
  · obtain ⟨-, rfl⟩ := ResearchPlanner.calendarPlanOf_inj distinct name
    rw [steady.weeks date session session' hweek hweek']
  · cases (ResearchPlanner.workItemIdFor_inj distinct name).1
  · obtain ⟨hkinds, -⟩ := ResearchPlanner.workItemIdFor_inj distinct name
    exact ((ResearchPlanner.isCadence_of_mem_dailyKinds hkind').2 hkinds.symm).elim
  · cases (ResearchPlanner.workItemIdFor_inj distinct name).1
  · rw [batches batch hbatch batch' hbatch' rfl (evidencePlanOf_inj distinct injective name)]

theorem steady_self (planner : ResearchPlanner) (state : PlannerState) (asOf : Instant) :
    SameSessions planner state asOf state asOf where
  days _ _ h h' hdate := h.1.unique state.calendar.key h'.1 hdate
  weeks _ _ _ h h' := h.2.unique state.calendar.key h'.2

theorem contents_ne_nil {batch : List ResearchEvidenceMarker} {state : PlannerState}
    (h : batch ∈ state.dueBatches planner asOf) : ∃ content, content ∈ contents batch := by
  have hlength := (contents_batch h).1
  have hpositive := planner.schedule.trigger_pos
  exact exists_mem_of_length_pos (by omega)

theorem batch_eq_self {state : PlannerState}
    (h : batch ∈ state.dueBatches planner asOf) (h' : batch' ∈ state.dueBatches planner asOf)
    (same : contents batch = contents batch') : batch = batch' := by
  obtain ⟨content, hcontent⟩ := contents_ne_nil h
  exact batch_eq_of_content h h' hcontent (same ▸ hcontent)

end Names

section Runs

variable {planner : ResearchPlanner} {hash : Hashing} {init state : PlannerState}
  {taken : List (PlannerState × PlannerAction)}

theorem PlannerState.plan_eq {asOf : Instant} {plans}
    (h : state.duePlans asOf planner hash = .ok plans) :
    state.plan asOf planner hash = ((storePlans hash asOf plans state.tables).1,
      { state with tables := (storePlans hash asOf plans state.tables).2 }) := by
  unfold PlannerState.plan
  rw [h]

theorem MarketCalendar.publish_subset (calendar : MarketCalendar)
    (session : VersionedResearchMarketSession) :
    calendar.rows ⊆ (calendar.publish session).rows := by
  unfold MarketCalendar.publish
  split
  · exact List.Subset.refl _
  · split
    · exact List.Subset.refl _
    · exact subset_append_left _ _

theorem plannerStep_spec (distinct : hash.NoCollision)
    (injective : Function.Injective hash.canonicalHash)
    (planned : state.tables.Planned planner hash) (action : PlannerAction) :
    (plannerStep planner hash state action).2.tables.Planned planner hash ∧
      state.tables.items ⊆ (plannerStep planner hash state action).2.tables.items ∧
      state.calendar.rows ⊆ (plannerStep planner hash state action).2.calendar.rows ∧
      ∀ item ∈ (plannerStep planner hash state action).2.tables.items,
        item ∈ state.tables.items ∨ ∃ asOf, action = .plan asOf ∧
          state.Due planner hash asOf item.plan := by
  cases action with
  | publish session =>
    exact ⟨planned, List.Subset.refl _, state.calendar.publish_subset session,
      fun _ h => .inl h⟩
  | capture marker => exact ⟨planned, List.Subset.refl _, List.Subset.refl _, fun _ h => .inl h⟩
  | plan asOf =>
    obtain ⟨plans, hplans, hmem⟩ := PlannerState.duePlans_ok planner hash state asOf
    have hmade : ∀ plan ∈ plans, ∃ content, plan = planner.planOf hash content :=
      fun plan hplan => due_made ((hmem plan).mp hplan)
    obtain ⟨hplanned, ⟨added, hadded, hfrom⟩, -⟩ :=
      storePlans_spec distinct injective hmade planned asOf
    show ((state.plan asOf planner hash).2.tables.Planned planner hash) ∧ _ ∧ _ ∧ _
    simp only [plannerStep, PlannerState.plan_eq hplans]
    refine ⟨hplanned, ?_, List.Subset.refl _, fun item hitem => ?_⟩
    · rw [hadded]
      exact subset_append_left _ _
    · rw [hadded] at hitem
      rcases mem_append.mp hitem with hitem | hitem
      · exact .inl hitem
      · exact .inr ⟨asOf, rfl, (hmem _).mp (hfrom item hitem)⟩

theorem grows_of_run (distinct : hash.NoCollision)
    (injective : Function.Injective hash.canonicalHash)
    (run : PlannerRun planner hash init taken state) (planned : init.tables.Planned planner hash) :
    state.tables.Planned planner hash ∧ init.tables.items ⊆ state.tables.items ∧
      init.calendar.rows ⊆ state.calendar.rows := by
  refine run.inv (I := fun state => state.tables.Planned planner hash ∧
    init.tables.items ⊆ state.tables.items ∧ init.calendar.rows ⊆ state.calendar.rows)
    ⟨planned, List.Subset.refl _, List.Subset.refl _⟩ ?_
  rintro s action s' ⟨hplanned, hitems, hrows⟩ ok
  cases ok
  obtain ⟨hplanned', hitems', hrows', -⟩ := plannerStep_spec distinct injective hplanned action
  exact ⟨hplanned', List.Subset.trans hitems hitems', List.Subset.trans hrows hrows'⟩

theorem SchedulerTables.planned_empty (planner : ResearchPlanner) (hash : Hashing) :
    SchedulerTables.Planned planner hash ⟨[], [], []⟩ where
  made _ h := absurd h not_mem_nil
  key := nodup_nil
  events := rfl

theorem origin_of_run (distinct : hash.NoCollision)
    (injective : Function.Injective hash.canonicalHash)
    (run : PlannerRun planner hash init taken state) (start : init.tables = ⟨[], [], []⟩) :
    ∀ item ∈ state.tables.items, ∃ x ∈ taken, ∃ asOf,
      x.2 = .plan asOf ∧ x.1.Due planner hash asOf item.plan := by
  have hplanned : init.tables.Planned planner hash := by
    rw [start]
    exact SchedulerTables.planned_empty planner hash
  induction run with
  | start =>
    intro item hitem
    rw [start] at hitem
    exact absurd hitem not_mem_nil
  | @next taken s s' action run ok ih =>
    cases ok
    obtain ⟨hs, -, -⟩ := grows_of_run distinct injective run hplanned
    intro item hitem
    rcases (plannerStep_spec distinct injective hs action).2.2.2 item hitem with
      hold | ⟨asOf, hasOf, hdue⟩
    · obtain ⟨x, hx, hrest⟩ := ih item hold
      exact ⟨x, mem_append_left _ hx, hrest⟩
    · exact ⟨(s, action), by simp, asOf, hasOf, hdue⟩

theorem tick_ok (distinct : hash.NoCollision) (injective : Function.Injective hash.canonicalHash)
    (run : PlannerRun planner hash init taken state) (start : init.tables = ⟨[], [], []⟩)
    (asOf : Instant)
    (steady : ∀ x ∈ taken, ∀ before, x.2 = .plan before →
      SameSessions planner x.1 before state asOf) :
    (state.plan asOf planner hash).1 = none := by
  have hinit : init.tables.Planned planner hash := by
    rw [start]
    exact SchedulerTables.planned_empty planner hash
  obtain ⟨hplanned, -, -⟩ := grows_of_run distinct injective run hinit
  obtain ⟨plans, hplans, hmem⟩ := PlannerState.duePlans_ok planner hash state asOf
  rw [PlannerState.plan_eq hplans]
  refine storePlans_none distinct injective (fun plan hplan => due_made ((hmem plan).mp hplan))
    hplanned asOf ?_ ?_
  · intro item hitem plan hplan hname
    obtain ⟨x, hx, before, hbefore, hdue⟩ := origin_of_run distinct injective run start item hitem
    have hdue' := (hmem plan).mp hplan
    refine due_eq_of_name distinct injective (steady x hx before hbefore) ?_ hdue hdue' hname
    -- A batch of this tick has no content that a stored plan has.
    intro batch _ batch' hbatch' hplanOf hcontents
    obtain ⟨content, hcontent⟩ := contents_ne_nil hbatch'
    refine (not_consumed_of_batch hbatch' hcontent ?_).elim
    rw [← hcontents] at hcontent
    refine mem_flatMap.mpr ⟨item, mem_filter.mpr ⟨hitem, ?_⟩, ?_⟩
    · rw [hplanOf]
      rfl
    · rw [hplanOf]
      exact hcontent
  · intro plan hplan other hother hname
    exact due_eq_of_name distinct injective (steady_self planner state asOf)
      (fun _ h _ h' _ => batch_eq_self h h') ((hmem plan).mp hplan) ((hmem other).mp hother) hname

/-- Planning raises nothing, and stores every plan that is due. -/
def TickStores (planner : ResearchPlanner) (hash : Hashing) (state : PlannerState)
    (action : PlannerAction) : Prop :=
  ∀ asOf, action = .plan asOf → (plannerStep planner hash state action).1 = none ∧
    ∀ plan, state.Due planner hash asOf plan →
      ∃ item ∈ (plannerStep planner hash state action).2.tables.items, item.plan = plan

theorem tickStores_of_none (distinct : hash.NoCollision)
    (injective : Function.Injective hash.canonicalHash)
    (planned : state.tables.Planned planner hash) {asOf : Instant}
    (h : (state.plan asOf planner hash).1 = none) :
    TickStores planner hash state (.plan asOf) := by
  intro at' hat
  obtain rfl := PlannerAction.plan.inj hat
  obtain ⟨plans, hplans, hmem⟩ := PlannerState.duePlans_ok planner hash state asOf
  have hstored := (storePlans_spec distinct injective
    (fun plan hplan => due_made ((hmem plan).mp hplan)) planned asOf).2.2
  refine ⟨h, fun plan hdue => ?_⟩
  simp only [plannerStep, PlannerState.plan_eq hplans] at h ⊢
  exact hstored h plan ((hmem plan).mpr hdue)

theorem kept_of_run (distinct : hash.NoCollision)
    (injective : Function.Injective hash.canonicalHash)
    (run : PlannerRun planner hash init taken state) (planned : init.tables.Planned planner hash)
    {x} (hx : x ∈ taken) :
    x.1.calendar.rows ⊆ state.calendar.rows ∧
      (plannerStep planner hash x.1 x.2).2.tables.items ⊆ state.tables.items := by
  obtain ⟨pre, post, hsplit⟩ := append_of_mem hx
  obtain ⟨m, hpre, hpost⟩ := run.split hsplit
  obtain ⟨rfl, next, ok, hrest⟩ := hpost.first rfl
  cases ok
  obtain ⟨hplanned, -, -⟩ := grows_of_run distinct injective hpre planned
  obtain ⟨hnext, -, hrows, -⟩ := plannerStep_spec distinct injective hplanned x.2
  obtain ⟨-, hitems, hrows'⟩ := grows_of_run distinct injective hrest hnext
  exact ⟨List.Subset.trans hrows hrows', hitems⟩

theorem steady_of_stores {later} {asOf asOf' : Instant}
    (rows : state.calendar.rows ⊆ later.calendar.rows)
    (items : (plannerStep planner hash state (.plan asOf)).2.tables.items ⊆
    (plannerStep planner hash later (.plan asOf')).2.tables.items)
    (planned : (plannerStep planner hash later (.plan asOf')).2.tables.Planned planner hash)
    (first : TickStores planner hash state (.plan asOf))
    (second : TickStores planner hash later (.plan asOf')) :
    SameSessions planner state asOf later asOf' := by
  -- Both plans are stored under one name, so they are one plan and name one session.
  have hsame : ∀ {kind date due due' session session'},
      state.Due planner hash asOf (planner.calendarPlanOf hash kind date due session) →
      later.Due planner hash asOf' (planner.calendarPlanOf hash kind date due' session') →
      session.calendarSessionId = session'.calendarSessionId := by
    intro kind date due due' session session' hdue hdue'
    obtain ⟨item, hitem, hplan⟩ := (first asOf rfl).2 _ hdue
    obtain ⟨item', hitem', hplan'⟩ := (second asOf' rfl).2 _ hdue'
    have hname : item.plan.workItemId = item'.plan.workItemId := by
      rw [hplan, hplan']
      rfl
    rw [inj_on_of_nodup_map planned.key (items hitem) hitem' hname, hplan'] at hplan
    exact (Option.some.inj (congrArg (·.calendarSessionId) hplan)).symm
  refine ⟨fun session session' hday hday' hdate => ?_, fun date session session' hweek hweek' => ?_⟩
  · have hdue : state.Due planner hash asOf (planner.calendarPlanOf hash .dailyAggregation
        session.sessionDate (planner.schedule.dailyScheduledFor session) session) :=
      due_iff.mpr (.inl ⟨_, mem_cons_self, session, hday, rfl⟩)
    have hdue' : later.Due planner hash asOf' (planner.calendarPlanOf hash .dailyAggregation
        session'.sessionDate (planner.schedule.dailyScheduledFor session') session') :=
      due_iff.mpr (.inl ⟨_, mem_cons_self, session', hday', rfl⟩)
    rw [← hdate] at hdue'
    exact session_eq_of_id later.calendar.key (rows hday.1.1.1) hday'.1.1.1 (hsame hdue hdue')
  · have hdue : state.Due planner hash asOf (planner.calendarPlanOf hash .weeklyDeepResearch date
        (planner.schedule.weeklyScheduledFor date) session) :=
      due_iff.mpr (.inr (.inl ⟨date, session, hweek, rfl⟩))
    have hdue' : later.Due planner hash asOf' (planner.calendarPlanOf hash .weeklyDeepResearch date
        (planner.schedule.weeklyScheduledFor date) session') :=
      due_iff.mpr (.inr (.inl ⟨date, session', hweek', rfl⟩))
    exact session_eq_of_id later.calendar.key (rows hweek.2.1.1.1) hweek'.2.1.1.1
      (hsame hdue hdue')

/-- All ticks of a run store their plans exactly when any two of them agree on the session of every
day and every week that both plan. -/
theorem planning_stable_iff (distinct : hash.NoCollision)
    (injective : Function.Injective hash.canonicalHash)
    (run : PlannerRun planner hash init taken state) (start : init.tables = ⟨[], [], []⟩) :
    (∀ x ∈ taken, TickStores planner hash x.1 x.2) ↔
      taken.Pairwise fun x y => ∀ asOf asOf', x.2 = .plan asOf → y.2 = .plan asOf' →
        SameSessions planner x.1 asOf y.1 asOf' := by
  have hinit : init.tables.Planned planner hash := by
    rw [start]
    exact SchedulerTables.planned_empty planner hash
  constructor
  · intro hstores
    induction run with
    | start => exact List.Pairwise.nil
    | @next taken s s' action run ok ih =>
      cases ok
      refine pairwise_append.mpr ⟨ih fun x hx => hstores x (mem_append_left _ hx),
        pairwise_singleton _ _, ?_⟩
      rintro x hx y hy asOf asOf' hplan hplan'
      rw [mem_singleton.mp hy] at hplan' ⊢
      have hfirst := hstores x (mem_append_left _ hx)
      have hsecond := hstores (s, action) (by simp)
      obtain ⟨hrows, hitems⟩ := kept_of_run distinct injective run hinit hx
      obtain ⟨hplanned, -, -⟩ := grows_of_run distinct injective run hinit
      have hplan'' : action = .plan asOf' := hplan'
      subst hplan''
      rw [hplan] at hfirst hitems
      obtain ⟨hplanned', hkept, -⟩ := plannerStep_spec distinct injective hplanned (.plan asOf')
      exact steady_of_stores hrows (List.Subset.trans hitems hkept) hplanned' hfirst hsecond
  · intro hsteady x hx
    obtain ⟨pre, post, hsplit⟩ := append_of_mem hx
    obtain ⟨m, hpre, hpost⟩ := run.split hsplit
    obtain ⟨rfl, -⟩ := hpost.first rfl
    rw [hsplit, pairwise_append] at hsteady
    obtain ⟨hplanned, -, -⟩ := grows_of_run distinct injective hpre hinit
    intro asOf hasOf
    have hnone : (x.1.plan asOf planner hash).1 = none := by
      refine tick_ok distinct injective hpre start asOf fun y hy before hbefore => ?_
      exact hsteady.2.2 y hy x mem_cons_self before asOf hbefore hasOf
    rw [hasOf]
    exact tickStores_of_none distinct injective hplanned hnone asOf rfl

end Runs

def beforePlanning : PlannerState := ⟨oneSession firstRevision, [], ⟨[], [], []⟩⟩

def afterRevision (hash : Hashing) : PlannerState :=
  (plannerStep samplePlanner hash
    (plannerStep samplePlanner hash beforePlanning (.plan 1784937600000000)).2
    (.publish lateRevision)).2

/-- The tick on Sunday fails at the daily work of Friday, and the weekly work of Saturday, which is
due too, is not stored. -/
theorem revised_session_blocks :
    (plannerStep samplePlanner Hashing.readable (afterRevision Hashing.readable)
        (.plan 1785027600000000)).1 = some contentConflict ∧
      (plannerStep samplePlanner Hashing.readable (afterRevision Hashing.readable)
        (.plan 1785027600000000)).2.tables.items.map (·.plan.workKind) = [.dailyAggregation] ∧
      samplePlanner.schedule.dueWeeks 1785027600000000 ≠ [] := by
  decide +kernel

theorem plannerStep_plan_calendar (planner : ResearchPlanner) (hash : Hashing)
    (state : PlannerState) (asOf : Instant) :
    (plannerStep planner hash state (.plan asOf)).2.calendar = state.calendar := by
  unfold plannerStep PlannerState.plan
  simp only
  split <;> rfl

theorem two_ticks (planner : ResearchPlanner) (hash : Hashing)
    (session : VersionedResearchMarketSession) (asOf asOf' : Instant) :
    ∃ taken state, PlannerRun planner hash ⟨oneSession session, [], ⟨[], [], []⟩⟩ taken state ∧
      taken.map (·.2) = [.plan asOf, .plan asOf'] ∧
      taken.Pairwise fun x y => ∀ asOf asOf', x.2 = .plan asOf → y.2 = .plan asOf' →
        SameSessions planner x.1 asOf y.1 asOf' := by
  refine ⟨_, _, .next (.next .start rfl) rfl, rfl, ?_⟩
  refine pairwise_append.mpr ⟨pairwise_singleton _ _, pairwise_singleton _ _, ?_⟩
  intro x hx y hy first second _ _
  rw [nil_append, mem_singleton] at hx
  rw [mem_singleton] at hy
  have hcalendar : y.1.calendar = oneSession session := by
    rw [hy]
    exact plannerStep_plan_calendar planner hash _ asOf
  have hcalendar' : x.1.calendar = oneSession session := by rw [hx]
  refine ⟨fun s s' hday hday' _ => ?_, fun date s s' hweek hweek' => ?_⟩
  · have hforce := hday.1
    have hforce' := hday'.1
    rw [hcalendar'] at hforce
    rw [hcalendar] at hforce'
    rw [(inForce_oneSession.mp hforce).1, (inForce_oneSession.mp hforce').1]
  · have hforce := hweek.2.1
    have hforce' := hweek'.2.1
    rw [hcalendar'] at hforce
    rw [hcalendar] at hforce'
    rw [(inForce_oneSession.mp hforce).1, (inForce_oneSession.mp hforce').1]

/-- Without the revision, the ticks of Friday evening and of Sunday store all their plans. -/
theorem unrevised_session_stored :
    ∃ taken : List (PlannerState × PlannerAction),
      taken.map (·.2) = [.plan 1784937600000000, .plan 1785027600000000] ∧
      ∀ x ∈ taken, TickStores samplePlanner Hashing.plain x.1 x.2 := by
  obtain ⟨taken, state, run, hactions, hsteady⟩ := two_ticks samplePlanner Hashing.plain
    firstRevision 1784937600000000 1785027600000000
  exact ⟨taken, hactions, (planning_stable_iff Hashing.plain_noCollision Hashing.plain_injective run
    rfl).mpr hsteady⟩

end AdaptiveQuant
