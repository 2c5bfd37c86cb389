import AdaptiveQuant.Research.PlanStability

/-! Evidence over whole runs. -/

namespace AdaptiveQuant

open Guard Sequence List

def PlannerState.planUpTo (state : PlannerState) (asOf : Instant) (planner : ResearchPlanner)
    (hash : Hashing) (reached : ℕ) : PlannerState :=
  match state.duePlans asOf planner hash with
  | .error _ => state
  | .ok plans => { state with tables := (storePlans hash asOf (plans.take reached) state.tables).2 }

inductive EvidenceAction
  | whole (action : PlannerAction)
  | stopped (asOf : Instant) (reached : ℕ)

def evidenceStep (planner : ResearchPlanner) (hash : Hashing) (state : PlannerState) :
    EvidenceAction → PlannerState
  | .whole action => (plannerStep planner hash state action).2
  | .stopped asOf reached => state.planUpTo asOf planner hash reached

abbrev EvidenceRun (planner : ResearchPlanner) (hash : Hashing) :=
  Run fun state action => (Except.ok (evidenceStep planner hash state action) :
    Except Failure PlannerState)

structure ResearchSchedulePlan.Exact (planner : ResearchPlanner) (plan : ResearchSchedulePlan) :
    Prop where
  triggered : plan.workKind = .evidenceTriggeredResearch →
    plan.triggerContentHashes.length = planner.schedule.evidenceTriggerMinimumNewSources ∧
      plan.triggerContentHashes.Nodup
  scheduled : plan.workKind ≠ .evidenceTriggeredResearch → plan.triggerContentHashes = []

/-- Every plan takes a whole batch, and no evidence is in two plans. -/
structure SchedulerTables.ConsumedOnce (planner : ResearchPlanner) (tables : SchedulerTables) :
    Prop where
  exact : ∀ item ∈ tables.items, item.plan.Exact planner
  once : ∀ item ∈ tables.items, ∀ other ∈ tables.items, ∀ content ∈ item.plan.triggerContentHashes,
    content ∈ other.plan.triggerContentHashes → item = other

section Ticks

variable {planner : ResearchPlanner} {hash : Hashing} {state : PlannerState} {asOf : Instant}
  {plan other : ResearchSchedulePlan} {content : String}

section

variable (h : state.Due planner hash asOf plan)

include h

theorem due_exact : plan.Exact planner := by
  rw [due_iff] at h
  rcases h with ⟨kind, hkind, session, -, rfl⟩ | ⟨date, session, -, rfl⟩ | ⟨batch, hbatch, rfl⟩
  · exact ⟨fun h => absurd h (ResearchPlanner.isCadence_of_mem_dailyKinds hkind).2, fun _ => rfl⟩
  · refine ⟨fun h => ?_, fun _ => rfl⟩
    have hkind : ResearchScheduleWorkKind.weeklyDeepResearch = .evidenceTriggeredResearch := h
    cases hkind
  · exact ⟨fun _ => contents_batch hbatch, fun h => absurd rfl h⟩

theorem due_batch (hcontent : content ∈ plan.triggerContentHashes) :
    ∃ batch ∈ state.dueBatches planner asOf, plan = planner.evidencePlanOf hash batch ∧
      content ∈ contents batch := by
  rw [due_iff] at h
  rcases h with ⟨kind, -, session, -, rfl⟩ | ⟨date, session, -, rfl⟩ | ⟨batch, hbatch, rfl⟩
  · exact absurd hcontent not_mem_nil
  · exact absurd hcontent not_mem_nil
  · exact ⟨batch, hbatch, rfl, hcontent⟩

theorem due_fresh
    (hcontent : content ∈ plan.triggerContentHashes) : content ∉ state.tables.consumed := by
  obtain ⟨batch, hbatch, -, hin⟩ := due_batch h hcontent
  exact not_consumed_of_batch hbatch hin

theorem due_eq_of_content
    (h' : state.Due planner hash asOf other) (hcontent : content ∈ plan.triggerContentHashes)
    (hcontent' : content ∈ other.triggerContentHashes) : plan = other := by
  obtain ⟨batch, hbatch, rfl, hin⟩ := due_batch h hcontent
  obtain ⟨batch', hbatch', rfl, hin'⟩ := due_batch h' hcontent'
  rw [batch_eq_of_content hbatch hbatch' hin hin']

end

theorem SchedulerTables.ConsumedOnce.mem_consumed {tables : SchedulerTables}
    (once : tables.ConsumedOnce planner) {item : ResearchWorkItem} (hitem : item ∈ tables.items)
    (hcontent : content ∈ item.plan.triggerContentHashes) : content ∈ tables.consumed := by
  refine mem_flatMap.mpr ⟨item, mem_filter.mpr ⟨hitem, ?_⟩, hcontent⟩
  rw [decide_eq_true_eq]
  by_contra hkind
  rw [(once.exact item hitem).scheduled hkind] at hcontent
  exact not_mem_nil hcontent

theorem SchedulerTables.ConsumedOnce.store (distinct : hash.NoCollision)
    (injective : Function.Injective hash.canonicalHash)
    (planned : state.tables.Planned planner hash) (once : state.tables.ConsumedOnce planner)
    {plans : List ResearchSchedulePlan} (due : ∀ plan ∈ plans, state.Due planner hash asOf plan)
    (createdAt : Instant) :
    (storePlans hash createdAt plans state.tables).2.ConsumedOnce planner := by
  obtain ⟨hplanned, ⟨added, hadded, hfrom⟩, -⟩ := storePlans_spec distinct injective
    (fun plan hplan => due_made (due plan hplan)) planned createdAt
  have hsource : ∀ item ∈ (storePlans hash createdAt plans state.tables).2.items,
      item ∈ state.tables.items ∨ state.Due planner hash asOf item.plan := by
    intro item hitem
    rw [hadded, mem_append] at hitem
    exact hitem.imp_right fun hnew => due _ (hfrom item hnew)
  refine ⟨fun item hitem => ?_, fun item hitem other hother content hin hin' => ?_⟩
  · rcases hsource item hitem with hold | hdue
    · exact once.exact item hold
    · exact due_exact hdue
  · rcases hsource item hitem with hold | hdue <;> rcases hsource other hother with hold' | hdue'
    · exact once.once item hold other hold' content hin hin'
    · exact (due_fresh hdue' hin' (once.mem_consumed hold hin)).elim
    · exact (due_fresh hdue hin (once.mem_consumed hold' hin')).elim
    · have hplan := due_eq_of_content hdue hdue' hin hin'
      exact inj_on_of_nodup_map hplanned.key hitem hother (by rw [hplan])

def SchedulerTables.Arisen (planner : ResearchPlanner) (hash : Hashing) (tables : SchedulerTables) :
    Prop :=
  ∀ item ∈ tables.items, ∃ (earlier : PlannerState) (asOf : Instant),
    earlier.Due planner hash asOf item.plan

theorem SchedulerTables.Arisen.store (distinct : hash.NoCollision)
    (injective : Function.Injective hash.canonicalHash)
    (planned : state.tables.Planned planner hash) (arisen : state.tables.Arisen planner hash)
    {plans} (due : ∀ plan ∈ plans, state.Due planner hash asOf plan) (createdAt : Instant) :
    (storePlans hash createdAt plans state.tables).2.Arisen planner hash := by
  obtain ⟨-, ⟨added, hadded, hfrom⟩, -⟩ := storePlans_spec distinct injective
    (fun plan hplan => due_made (due plan hplan)) planned createdAt
  intro item hitem
  rw [hadded, mem_append] at hitem
  rcases hitem with hold | hnew
  · exact arisen item hold
  · exact ⟨state, asOf, due _ (hfrom item hnew)⟩

theorem evidenceStep_spec (distinct : hash.NoCollision)
    (injective : Function.Injective hash.canonicalHash)
    (planned : state.tables.Planned planner hash) (once : state.tables.ConsumedOnce planner)
    (arisen : state.tables.Arisen planner hash) (action : EvidenceAction) :
    (evidenceStep planner hash state action).tables.Planned planner hash ∧
      (evidenceStep planner hash state action).tables.ConsumedOnce planner ∧
      (evidenceStep planner hash state action).tables.Arisen planner hash := by
  cases action with
  | whole action =>
    refine ⟨(plannerStep_spec distinct injective planned action).1, ?_⟩
    cases action with
    | publish session => exact ⟨once, arisen⟩
    | capture marker => exact ⟨once, arisen⟩
    | plan asOf =>
      obtain ⟨plans, hplans, hmem⟩ := PlannerState.duePlans_ok planner hash state asOf
      have hdue := fun plan hplan => (hmem plan).mp hplan
      simp only [evidenceStep, plannerStep, PlannerState.plan_eq hplans]
      exact ⟨once.store distinct injective planned hdue asOf,
        arisen.store distinct injective planned hdue asOf⟩
  | stopped asOf reached =>
    obtain ⟨plans, hplans, hmem⟩ := PlannerState.duePlans_ok planner hash state asOf
    have hdue : ∀ plan ∈ plans.take reached, state.Due planner hash asOf plan :=
      fun plan hplan => (hmem plan).mp (mem_of_mem_take hplan)
    simp only [evidenceStep, PlannerState.planUpTo, hplans]
    exact ⟨(storePlans_spec distinct injective (fun plan hplan => due_made (hdue plan hplan))
      planned asOf).1, once.store distinct injective planned hdue asOf,
      arisen.store distinct injective planned hdue asOf⟩

theorem mem_unconsumed_iff {evidence consumed} :
    content ∈ unconsumed evidence asOf consumed ↔
      ∃ marker ∈ evidence, marker.isNew asOf consumed ∧ marker.contentHash = content := by
  simp only [unconsumed, mem_toFinset, mem_map, mem_filter, decide_eq_true_eq,
    and_assoc]

theorem unconsumed_planningEvidence (consumed : List String) :
    unconsumed (state.planningEvidence asOf) asOf consumed =
      unconsumed state.evidence asOf consumed := by
  ext content
  simp only [mem_unconsumed_iff, PlannerState.planningEvidence, mem_sortedBy, mem_filter,
    decide_eq_true_eq]
  constructor
  · rintro ⟨marker, ⟨hmem, -⟩, hrest⟩
    exact ⟨marker, hmem, hrest⟩
  · rintro ⟨marker, hmem, hnew, hhash⟩
    exact ⟨marker, ⟨hmem, hnew.2.1, hnew.1⟩, hnew, hhash⟩

theorem unconsumed_append {evidence consumed more} (h : consumed ⊆ more) :
    unconsumed evidence asOf (consumed ++ more) = unconsumed evidence asOf more := by
  ext content
  have hmem : ∀ c, c ∉ consumed ++ more ↔ c ∉ more := by
    intro c
    rw [mem_append, not_or]
    exact ⟨And.right, fun hc => ⟨fun hin => hc (h hin), hc⟩⟩
  simp only [mem_unconsumed_iff, ResearchEvidenceMarker.isNew, hmem]

theorem card_left_lt {more}
    (covers : ∀ batch ∈ state.dueBatches planner asOf, contents batch ⊆ more) :
    (unconsumed state.evidence asOf (state.tables.consumed ++ more)).card <
      planner.schedule.evidenceTriggerMinimumNewSources := by
  rw [← unconsumed_planningEvidence]
  exact card_unconsumed_lt planner.schedule.trigger_pos covers

theorem card_left_lt_plans {plans : List ResearchSchedulePlan}
    (due : ∀ plan, plan ∈ plans ↔ state.Due planner hash asOf plan) :
    (unconsumed state.evidence asOf
      (state.tables.consumed ++ plans.flatMap (·.triggerContentHashes))).card <
        planner.schedule.evidenceTriggerMinimumNewSources := by
  refine card_left_lt fun batch hbatch content hcontent => ?_
  have hplan := (due (planner.evidencePlanOf hash batch)).mpr (.triggered hbatch)
  exact mem_flatMap.mpr ⟨_, hplan, hcontent⟩

theorem card_left_lt_stored (distinct : hash.NoCollision)
    (injective : Function.Injective hash.canonicalHash)
    (planned : state.tables.Planned planner hash) (h : (state.plan asOf planner hash).1 = none) :
    (unconsumed state.evidence asOf (state.plan asOf planner hash).2.tables.consumed).card <
      planner.schedule.evidenceTriggerMinimumNewSources := by
  obtain ⟨-, hitems, -, -⟩ := plannerStep_spec distinct injective planned (.plan asOf)
  have hstored := (tickStores_of_none distinct injective planned h asOf rfl).2
  simp only [plannerStep] at hitems hstored
  have hsub : state.tables.consumed ⊆ (state.plan asOf planner hash).2.tables.consumed := by
    intro content hcontent
    obtain ⟨item, hitem, hin⟩ := mem_flatMap.mp hcontent
    obtain ⟨hmem, hkind⟩ := mem_filter.mp hitem
    exact mem_flatMap.mpr ⟨item, mem_filter.mpr ⟨hitems hmem, hkind⟩, hin⟩
  rw [← unconsumed_append hsub]
  refine card_left_lt fun batch hbatch content hcontent => ?_
  obtain ⟨item, hitem, hplan⟩ := hstored _ (.triggered hbatch)
  refine mem_flatMap.mpr ⟨item, mem_filter.mpr ⟨hitem, ?_⟩, ?_⟩
  · rw [hplan]
    rfl
  · rw [hplan]
    exact hcontent

theorem ResearchPlanner.buildDueSchedulePlans_perm (planner : ResearchPlanner) (hash : Hashing)
    (asOf : Instant) (sessions : List VersionedResearchMarketSession) (consumed : List String)
    {evidence evidence'} (h : evidence.Perm evidence') :
    planner.buildDueSchedulePlans hash asOf sessions evidence consumed =
      planner.buildDueSchedulePlans hash asOf sessions evidence' consumed := by
  unfold buildDueSchedulePlans
  simp only [evidencePlans_eq, orderedEvidence_perm h]

/-- No calendar work that is due is stored with other content. -/
def PlannerState.Undisputed (planner : ResearchPlanner) (hash : Hashing) (state : PlannerState)
    (asOf : Instant) : Prop :=
  ∀ item ∈ state.tables.items, ∀ plan, state.Due planner hash asOf plan →
    plan.workKind ≠ .evidenceTriggeredResearch → item.plan.workItemId = plan.workItemId →
    item.plan = plan

theorem batch_name_new (distinct : hash.NoCollision)
    (injective : Function.Injective hash.canonicalHash) (arisen : state.tables.Arisen planner hash)
    {batch} (hbatch : batch ∈ state.dueBatches planner asOf) {item}
    (hitem : item ∈ state.tables.items) :
    item.plan.workItemId ≠ (planner.evidencePlanOf hash batch).workItemId := by
  intro hname
  obtain ⟨earlier, before, hdue⟩ := arisen item hitem
  rw [due_iff] at hdue
  rcases hdue with ⟨kind, hkind, session, -, hplan⟩ | ⟨date, session, -, hplan⟩ |
    ⟨stored, -, hplan⟩
  · rw [hplan] at hname
    obtain ⟨hkinds, -⟩ := ResearchPlanner.workItemIdFor_inj distinct hname
    exact (ResearchPlanner.isCadence_of_mem_dailyKinds hkind).2 hkinds
  · rw [hplan] at hname
    cases (ResearchPlanner.workItemIdFor_inj distinct hname).1
  · rw [hplan] at hname
    have hcontents := evidencePlanOf_inj distinct injective hname
    obtain ⟨content, hcontent⟩ := contents_ne_nil hbatch
    refine not_consumed_of_batch hbatch hcontent ?_
    refine mem_flatMap.mpr ⟨item, mem_filter.mpr ⟨hitem, ?_⟩, ?_⟩
    · rw [hplan]
      rfl
    · rw [hplan]
      show content ∈ contents stored
      rwa [hcontents]

theorem plan_none_of_undisputed (distinct : hash.NoCollision)
    (injective : Function.Injective hash.canonicalHash)
    (planned : state.tables.Planned planner hash) (arisen : state.tables.Arisen planner hash)
    (undisputed : state.Undisputed planner hash asOf) :
    (state.plan asOf planner hash).1 = none := by
  obtain ⟨plans, hplans, hmem⟩ := PlannerState.duePlans_ok planner hash state asOf
  rw [PlannerState.plan_eq hplans]
  refine storePlans_none distinct injective (fun plan hplan => due_made ((hmem plan).mp hplan))
    planned asOf ?_ ?_
  · intro item hitem plan hplan hname
    have hdue := (hmem plan).mp hplan
    by_cases hkind : plan.workKind = .evidenceTriggeredResearch
    · have hexact := (due_exact hdue).triggered hkind
      have hpositive := planner.schedule.trigger_pos
      obtain ⟨content, hcontent⟩ : ∃ content, content ∈ plan.triggerContentHashes :=
        exists_mem_of_length_pos (by omega)
      obtain ⟨batch, hbatch, rfl, -⟩ := due_batch hdue hcontent
      exact (batch_name_new distinct injective arisen hbatch hitem hname).elim
    · exact undisputed item hitem plan hdue hkind hname
  · intro plan hplan other hother hname
    exact due_eq_of_name distinct injective (steady_self planner state asOf)
      (fun _ h _ h' _ => batch_eq_self h h') ((hmem plan).mp hplan) ((hmem other).mp hother) hname

end Ticks

/-- What holds at a tick: its plans have new contents, a batch each, and share none. -/
structure TickConsumes (planner : ResearchPlanner) (hash : Hashing) (state : PlannerState)
    (asOf : Instant) (plans : List ResearchSchedulePlan) : Prop where
  planned : state.duePlans asOf planner hash = .ok plans
  exact : ∀ plan ∈ plans, plan.Exact planner
  fresh : ∀ plan ∈ plans, ∀ content ∈ plan.triggerContentHashes, content ∉ state.tables.consumed
  once : ∀ plan ∈ plans, ∀ other ∈ plans, ∀ content ∈ plan.triggerContentHashes,
    content ∈ other.triggerContentHashes → plan = other
  left : (unconsumed state.evidence asOf
    (state.tables.consumed ++ plans.flatMap (·.triggerContentHashes))).card <
      planner.schedule.evidenceTriggerMinimumNewSources
  stored : (state.plan asOf planner hash).1 = none →
    (unconsumed state.evidence asOf (state.plan asOf planner hash).2.tables.consumed).card <
      planner.schedule.evidenceTriggerMinimumNewSources
  succeeds : state.Undisputed planner hash asOf → (state.plan asOf planner hash).1 = none
  unordered : ∀ listed, (state.planningEvidence asOf).Perm listed →
    planner.buildDueSchedulePlans hash asOf
      (state.planningSessions asOf planner.schedule.marketCalendarVersion) listed
      state.tables.consumed = .ok plans

section Runs

variable {planner : ResearchPlanner} {hash : Hashing} {init state : PlannerState}
  {taken : List (PlannerState × EvidenceAction)}

theorem evidence_invariant (distinct : hash.NoCollision)
    (injective : Function.Injective hash.canonicalHash)
    (run : EvidenceRun planner hash init taken state) (start : init.tables = ⟨[], [], []⟩) :
    state.tables.Planned planner hash ∧ state.tables.ConsumedOnce planner ∧
      state.tables.Arisen planner hash := by
  refine run.inv (I := fun state => state.tables.Planned planner hash ∧
    state.tables.ConsumedOnce planner ∧ state.tables.Arisen planner hash) ?_ ?_
  · rw [start]
    refine ⟨SchedulerTables.planned_empty planner hash, ⟨?_, ?_⟩, ?_⟩
    · exact fun item h => absurd h not_mem_nil
    · exact fun item h => absurd h not_mem_nil
    · exact fun item h => absurd h not_mem_nil
  · rintro s action s' ⟨hplanned, honce, harisen⟩ ok
    cases ok
    exact evidenceStep_spec distinct injective hplanned honce harisen action

end Runs

def sourceMarkers (sources : List ℕ) : List ResearchEvidenceMarker :=
  sources.map fun n => ⟨"source-" ++ toString n, "content-" ++ toString n, n, n, le_refl _⟩

theorem stopped_then_whole (planner : ResearchPlanner) (hash : Hashing) (init : PlannerState)
    (asOf : Instant) :
    ∃ taken state, EvidenceRun planner hash init taken state ∧
      taken.map (·.2) = [.stopped asOf 0, .whole (.plan asOf)] :=
  ⟨_, _, .next (.next .start rfl) rfl, rfl⟩

end AdaptiveQuant
