import AdaptiveQuant.Domain.CanonicalText
import AdaptiveQuant.Research.Calendar
import AdaptiveQuant.Research.Evidence

/-! Point-in-time planning. -/

namespace AdaptiveQuant

open Guard Sequence List

structure EvidenceTable where
  rows : List ResearchEvidenceMarker
  key : (rows.map (·.sourceId)).Nodup

def MarketCalendar.knownBy (calendar : MarketCalendar) (cutoff : Instant) :
    List VersionedResearchMarketSession := calendar.rows.filter (·.availableAt ≤ cutoff)

def EvidenceTable.knownBy (evidence : EvidenceTable) (cutoff : Instant) :
    List ResearchEvidenceMarker := evidence.rows.filter (·.capturedAt ≤ cutoff)

section Planning

variable (planner : ResearchPlanner) (hash : Hashing) (calendar : MarketCalendar)
  (evidence : EvidenceTable) (consumed : List String) (asOf : Instant)

/-- Every plan uses only what was known at its own cutoff, and is made from that alone. -/
def PointInTime : Prop :=
  ∀ plans, planner.buildDueSchedulePlans hash asOf calendar.rows evidence.rows consumed =
    .ok plans →
    ∀ plan ∈ plans,
      (∀ session ∈ calendar.rows, plan.calendarSessionId = some session.calendarSessionId →
        session.availableAt ≤ plan.dataAvailableCutoff) ∧
      (∀ marker ∈ evidence.rows, marker.sourceId ∈ plan.triggerSourceIds →
        marker.capturedAt ≤ plan.dataAvailableCutoff) ∧
      ∃ known, planner.buildDueSchedulePlans hash asOf (calendar.knownBy plan.dataAvailableCutoff)
          (evidence.knownBy plan.dataAvailableCutoff) consumed = .ok known ∧ plan ∈ known

/-- The revision that a due day has now was available when its work became due, and a due week has
now the anchor that it had when its work became due. -/
structure Timely : Prop where
  days : ∀ session, InForce calendar.rows planner.schedule.marketCalendarVersion asOf session →
    planner.schedule.plans asOf (planner.schedule.dailyScheduledFor session) →
    session.availableAt ≤ planner.schedule.dailyScheduledFor session
  weeks : ∀ date ∈ planner.schedule.dueWeeks asOf, ∀ session,
    Anchors calendar.rows planner.schedule.marketCalendarVersion asOf
      (planner.schedule.weeklyScheduledFor date) session →
    Anchors calendar.rows planner.schedule.marketCalendarVersion
      (planner.schedule.weeklyScheduledFor date) (planner.schedule.weeklyScheduledFor date) session

end Planning

section Restriction

variable {calendar : MarketCalendar} {version : String} {asOf cutoff : Instant}
  {session : VersionedResearchMarketSession}

theorem MarketCalendar.nodup_knownBy (calendar : MarketCalendar) (cutoff : Instant) :
    ((calendar.knownBy cutoff).map (·.calendarSessionId)).Nodup :=
  calendar.key.sublist (filter_sublist.map _)

theorem known_knownBy (le : cutoff ≤ asOf) :
    Known (calendar.knownBy cutoff) version asOf session ↔
      Known calendar.rows version cutoff session := by
  simp only [Known, MarketCalendar.knownBy, mem_filter, decide_eq_true_eq]
  constructor
  · rintro ⟨⟨hmem, hknown⟩, hversion, -⟩
    exact ⟨hmem, hversion, hknown⟩
  · rintro ⟨hmem, hversion, hknown⟩
    exact ⟨⟨hmem, hknown⟩, hversion, hknown.trans le⟩

theorem inForce_knownBy (le : cutoff ≤ asOf) :
    InForce (calendar.knownBy cutoff) version asOf session ↔
      InForce calendar.rows version cutoff session := by
  simp only [InForce, known_knownBy le]

theorem anchors_knownBy (le : cutoff ≤ asOf) {due : Instant} :
    Anchors (calendar.knownBy cutoff) version asOf due session ↔
      Anchors calendar.rows version cutoff due session := by
  simp only [Anchors, inForce_knownBy le]

theorem ResearchScheduleConfig.le_of_mem_dueWeeks {schedule : ResearchScheduleConfig}
    {date : CivilDate} (h : date ∈ schedule.dueWeeks asOf) :
    schedule.weeklyScheduledFor date ≤ asOf := by
  have hdue := of_decide_eq_true (mem_filter.mp h).2
  exact hdue.2.2

theorem captured_le_cutoff (hash : Hashing) {batch marker} (h : marker ∈ batch) :
    marker.capturedAt ≤ (evidenceContent hash batch).dataAvailableCutoff := by
  have hmem : marker.capturedAt ∈ batch.map (·.capturedAt) := mem_map_of_mem h
  show marker.capturedAt ≤ (batch.map (·.capturedAt)).max?.getD 0
  cases hmax : (batch.map (·.capturedAt)).max? with
  | none =>
    rw [List.max?_eq_none_iff.mp hmax] at hmem
    cases hmem
  | some top => exact (List.max?_eq_some_iff.mp hmax).2 _ hmem

end Restriction

section Theorems

variable {planner : ResearchPlanner} {hash : Hashing} {calendar : MarketCalendar}
  {evidence : EvidenceTable} {consumed : List String} {asOf : Instant}

theorem triggered_pointInTime (planner : ResearchPlanner) (hash : Hashing)
    {batch : List ResearchEvidenceMarker}
    (new : batch ∈ Selection.batches planner.schedule.evidenceTriggerMinimumNewSources
      (orderedEvidence evidence.rows asOf consumed)) :
    (∀ marker ∈ evidence.rows,
      marker.sourceId ∈ (planner.evidencePlanOf hash batch).triggerSourceIds →
      marker.capturedAt ≤ (planner.evidencePlanOf hash batch).dataAvailableCutoff) ∧
    batch ∈ Selection.batches planner.schedule.evidenceTriggerMinimumNewSources
      (orderedEvidence (evidence.knownBy (planner.evidencePlanOf hash batch).dataAvailableCutoff)
        asOf consumed) := by
  constructor
  · intro marker hmarker hsource
    have hsorted : marker.sourceId ∈ sortedBy id (batch.map (·.sourceId)) := hsource
    rw [mem_sortedBy, mem_map] at hsorted
    obtain ⟨used, hused, hsame⟩ := hsorted
    have hrow := (mem_of_mem_orderedEvidence (Selection.subset_of_mem_batches _ new hused)).1
    rw [← inj_on_of_nodup_map evidence.key hrow hmarker hsame]
    exact captured_le_cutoff hash hused
  · exact batch_of_filter planner.schedule.trigger_pos new fun marker hmarker =>
      captured_le_cutoff hash hmarker

theorem DuePlan.weekly_anchor {sessions : List VersionedResearchMarketSession}
    {markers : List ResearchEvidenceMarker} {date : CivilDate} {due : Instant}
    {session : VersionedResearchMarketSession} (distinct : hash.NoCollision)
    (h : ResearchPlanner.DuePlan planner hash asOf sessions markers consumed
      (planner.calendarPlanOf hash .weeklyDeepResearch date due session)) :
    ∃ anchor, weeklyAnchor (planner.latestSessions asOf sessions)
        (planner.schedule.weeklyScheduledFor date) = some anchor ∧
      anchor.calendarSessionId = session.calendarSessionId := by
  generalize hplan : planner.calendarPlanOf hash .weeklyDeepResearch date due session = plan at h
  cases h with
  | daily follows known hdue =>
    obtain ⟨rfl, -⟩ := ResearchPlanner.calendarPlanOf_inj distinct
      (congrArg (·.workItemId) hplan)
    have hkind := congrArg (·.workKind) hplan
    unfold ResearchPlanner.dailyKinds at follows
    split at follows <;> simp at follows
  | weekly hdue anchor =>
    obtain ⟨-, rfl⟩ := ResearchPlanner.calendarPlanOf_inj distinct
      (congrArg (·.workItemId) hplan)
    exact ⟨_, anchor, (Option.some.inj (congrArg (·.calendarSessionId) hplan)).symm⟩
  | triggered new => cases congrArg (·.workKind) hplan

/-- Planning is point-in-time exactly when the calendar is timely. -/
theorem point_in_time_iff (distinct : hash.NoCollision) :
    PointInTime planner hash calendar evidence consumed asOf ↔ Timely planner calendar asOf := by
  obtain ⟨plans, hplans, hmem⟩ := ResearchPlanner.buildDueSchedulePlans_ok planner hash asOf
    calendar.rows evidence.rows consumed
  constructor
  · intro h
    refine ⟨fun session hforce hdue => ?_, fun date hdate session hanchor => ?_⟩
    · have hdaily : .dailyAggregation ∈ planner.dailyKinds := mem_cons_self
      have hplan := (hmem _).mpr (.daily hdaily ((mem_latestSessionsAsOf calendar.key).mpr hforce)
        hdue)
      exact (h plans hplans _ hplan).1 session hforce.1.1 rfl
    · have hplan := (hmem _).mpr (.weekly hdate ((weeklyAnchor_eq_some calendar.key).mpr hanchor))
      obtain ⟨-, -, known, hknown, hin⟩ := h plans hplans _ hplan
      obtain ⟨restricted, hrestricted, hmem'⟩ := ResearchPlanner.buildDueSchedulePlans_ok
        planner hash asOf (calendar.knownBy (planner.schedule.weeklyScheduledFor date))
        (evidence.knownBy (planner.schedule.weeklyScheduledFor date)) consumed
      obtain rfl := Except.ok.inj (hknown.symm.trans hrestricted)
      obtain ⟨anchor, hfound, hid⟩ := DuePlan.weekly_anchor distinct ((hmem' _).mp hin)
      have hle := ResearchScheduleConfig.le_of_mem_dueWeeks hdate
      have hthen := (weeklyAnchor_eq_some (calendar.nodup_knownBy _)).mp hfound
      rw [anchors_knownBy hle] at hthen
      rwa [session_eq_of_id calendar.key hthen.1.1.1 hanchor.1.1.1 hid] at hthen
  · intro h other hother plan hplan
    obtain rfl := Except.ok.inj (hplans.symm.trans hother)
    have hdue := (hmem plan).mp hplan
    obtain ⟨restricted, hrestricted, hmem'⟩ := ResearchPlanner.buildDueSchedulePlans_ok
      planner hash asOf (calendar.knownBy plan.dataAvailableCutoff)
      (evidence.knownBy plan.dataAvailableCutoff) consumed
    cases hdue with
    | @daily kind session follows known due =>
      have hforce := (mem_latestSessionsAsOf calendar.key).mp known
      have hknown := h.days session hforce due
      refine ⟨fun other hrow hid => ?_, nofun, restricted, hrestricted, (hmem' _).mpr ?_⟩
      · rwa [← session_eq_of_id calendar.key hforce.1.1 hrow (Option.some.inj hid)]
      · refine .daily follows ((mem_latestSessionsAsOf (calendar.nodup_knownBy _)).mpr ?_) due
        exact (inForce_knownBy due.2).mpr (hforce.earlier due.2 hknown)
    | @weekly date session due anchor =>
      have hanchor := (weeklyAnchor_eq_some calendar.key).mp anchor
      have hthen := h.weeks date due session hanchor
      have hle := ResearchScheduleConfig.le_of_mem_dueWeeks due
      refine ⟨fun other hrow hid => ?_, nofun, restricted, hrestricted, (hmem' _).mpr ?_⟩
      · rw [← session_eq_of_id calendar.key hanchor.1.1.1 hrow (Option.some.inj hid)]
        exact hthen.1.1.2.2
      · refine .weekly due ((weeklyAnchor_eq_some (calendar.nodup_knownBy _)).mpr ?_)
        exact (anchors_knownBy hle).mpr hthen
    | @triggered batch new =>
      obtain ⟨hused, hin⟩ := triggered_pointInTime planner hash new
      exact ⟨nofun, hused, restricted, hrestricted, (hmem' _).mpr (.triggered hin)⟩

end Theorems

def newYorkSummer : TimeZone where
  toUtc date clock :=
    (((date.ordinal : ℤ) - 719163) * 86400 + (clock.hour + 4) * 3600 + clock.minute * 60) * 1000000
  localDate instant :=
    let day := ((instant / 1000000 - 4 * 3600) / 86400 + 719163 - 739617).toNat
    (List.range day).foldl (fun date _ => date.next.getD date)
      ⟨2026, 1, 1, CivilDate.year_2026, CivilDate.january, by decide⟩

def samplePlanner : ResearchPlanner where
  schedule :=
    { scheduleVersion := "research_schedule_v1"
      timezone := newYorkSummer
      marketCalendarVersion := "calendar_v1"
      dailyAggregationTime := ⟨18, 0⟩
      dailyPostCloseDelayMinutes := 15
      weeklyResearchDay := .saturday
      weeklyResearchTime := ⟨10, 0⟩
      evidenceTriggerMinimumNewSources := 8
      planningLookbackDays := 35
      version_length := by decide
      trigger_pos := by decide
      lookback_pos := by decide }
  configManifestHash := "manifest"
  includeOutcomeMaintenance := false
  manifest_length := by decide

def fridaySession (revision : String) (availableAt : Instant) : VersionedResearchMarketSession where
  calendarSessionId := revision
  calendarVersion := "calendar_v1"
  sessionDate := ⟨2026, 7, 24, CivilDate.year_2026, by decide, by decide⟩
  openAt := 1784899800000000
  closeAt := 1784923200000000
  availableAt := availableAt
  sessionHash := "hash of " ++ revision
  closes := by decide

def firstRevision : VersionedResearchMarketSession := fridaySession "revision-1" 1784851200000000

/-- Available on Sunday 26 July at midnight UTC, two days after the daily work is due. -/
def lateRevision : VersionedResearchMarketSession := fridaySession "revision-2" 1785024000000000

def oneSession (session : VersionedResearchMarketSession) : MarketCalendar := ⟨[session], by simp⟩

theorem inForce_oneSession {session other} {version : String} {asOf : Instant} :
    InForce (oneSession session).rows version asOf other ↔
      other = session ∧ session.calendarVersion = version ∧ session.availableAt ≤ asOf := by
  simp only [InForce, Known, oneSession, mem_singleton]
  constructor
  · rintro ⟨⟨rfl, hversion, hknown⟩, -⟩
    exact ⟨rfl, hversion, hknown⟩
  · rintro ⟨rfl, hversion, hknown⟩
    refine ⟨⟨rfl, hversion, hknown⟩, ?_⟩
    rintro _ ⟨rfl, -⟩ -
    exact le_refl _

/-- On Sunday the daily work of Friday is planned on the revision of Sunday, though its cutoff is
Friday at 22:00 UTC. -/
theorem late_revision_used :
    ¬PointInTime samplePlanner Hashing.plain (oneSession lateRevision) ⟨[], by simp⟩ []
      1785027600000000 := by
  intro h
  obtain ⟨plans, hplans, hmem⟩ := ResearchPlanner.buildDueSchedulePlans_ok samplePlanner
    Hashing.plain 1785027600000000 (oneSession lateRevision).rows [] []
  have hforce : InForce (oneSession lateRevision).rows "calendar_v1" 1785027600000000
      lateRevision := inForce_oneSession.mpr ⟨rfl, rfl, by decide⟩
  have hplan := (hmem _).mpr (.daily mem_cons_self
    ((mem_latestSessionsAsOf (oneSession lateRevision).key).mpr hforce) (by decide))
  have hused := (h plans hplans _ hplan).1 lateRevision (mem_singleton.mpr rfl) rfl
  exact absurd hused (by decide)

/-- With the first revision alone, planning on Friday evening is point-in-time. -/
theorem first_revision_pointInTime :
    Timely samplePlanner (oneSession firstRevision) 1784937600000000 ∧
      PointInTime samplePlanner Hashing.plain (oneSession firstRevision) ⟨[], by simp⟩ []
        1784937600000000 := by
  have htimely : Timely samplePlanner (oneSession firstRevision) 1784937600000000 := by
    refine ⟨fun session hforce hdue => ?_, fun date hdate session hanchor => ?_⟩
    · rw [(inForce_oneSession.mp hforce).1]
      decide
    · obtain ⟨rfl, hversion, -⟩ := inForce_oneSession.mp hanchor.1
      have hknown : firstRevision.availableAt ≤ samplePlanner.schedule.weeklyScheduledFor date :=
        le_trans (by decide) hanchor.2.1
      refine ⟨inForce_oneSession.mpr ⟨rfl, hversion, hknown⟩, hanchor.2.1, ?_⟩
      intro other hother _
      rw [(inForce_oneSession.mp hother).1]
  exact ⟨htimely, (point_in_time_iff Hashing.plain_noCollision).mpr htimely⟩

end AdaptiveQuant
