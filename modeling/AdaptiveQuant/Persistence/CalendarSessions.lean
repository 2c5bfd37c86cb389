import AdaptiveQuant.Settlement.Service
import Mathlib.Data.List.Dedup

/-! The stored market calendar of `persistence/q1.py`, and the business calendars built from it. -/

namespace AdaptiveQuant.Settlement

open Guard Sequence List

/-- The fields of `MarketCalendarSession`, before validation. -/
structure MarketCalendarSessionFields extends VersionedQ1Record where
  calendarSessionId : String
  calendarVersion : String
  sessionDate : CivilDate
  openAt : Instant
  closeAt : Instant
  source : String
  availableAt : Instant
  sessionHash : String
  createdAt : Instant
deriving DecidableEq

def MarketCalendarSessionFields.validate (s : MarketCalendarSessionFields) :
    Except Failure Unit := do
  raiseIf (s.toVersionedQ1Record.fieldErrors ≠ [])
    (.validation "MarketCalendarSession" s.toVersionedQ1Record.fieldErrors)
  raiseIf (s.closeAt ≤ s.openAt)
    (.record "MarketCalendarSession" "Market calendar close_at must be after open_at")
  raiseIf (s.createdAt < s.availableAt)
    (.record "MarketCalendarSession" "Market calendar row cannot be created before available_at")

/-- `MarketCalendarSession`: fields that passed their validators. -/
abbrev MarketCalendarSession := Validated MarketCalendarSessionFields.validate

structure MarketCalendarSessionRow extends MarketCalendarSessionFields where
  payload : MarketCalendarSessionFields
deriving DecidableEq

def MarketCalendarSession.row (item : MarketCalendarSession) : MarketCalendarSessionRow where
  toMarketCalendarSessionFields := item.val
  payload := item.val

def calendarConflict (message : String) : Failure := ⟨.q1PersistenceConflict, message, []⟩

def MarketCalendarSessionRow.HoursDiffer (row : MarketCalendarSessionRow)
    (item : MarketCalendarSession) : Prop :=
  row.algorithmVersion ≠ item.val.algorithmVersion ∨
    row.calendarVersion ≠ item.val.calendarVersion ∨ row.sessionDate ≠ item.val.sessionDate ∨
    row.openAt ≠ item.val.openAt ∨ row.closeAt ≠ item.val.closeAt ∨ row.source ≠ item.val.source

instance (row : MarketCalendarSessionRow) (item : MarketCalendarSession) :
    Decidable (row.HoursDiffer item) := inferInstanceAs (Decidable (_ ∨ _))

variable (rows : List MarketCalendarSessionRow) (calendarVersion : String)

def appendSession (item : MarketCalendarSession) :
    Except Failure (List MarketCalendarSessionRow) :=
  match rows.find? (·.calendarSessionId = item.val.calendarSessionId) with
  | some existing => do
    raiseIf (existing.HoursDiffer item)
      (calendarConflict "Calendar session ID has different immutable market hours")
    return rows
  | none =>
    match rows.find? fun row : MarketCalendarSessionRow =>
        row.calendarVersion = item.val.calendarVersion ∧ row.sessionDate = item.val.sessionDate ∧
          row.sessionHash = item.val.sessionHash with
    | some existing => do
      raiseIf (existing.calendarSessionId ≠ item.val.calendarSessionId ∨
          existing.payload ≠ item.val)
        (calendarConflict "Calendar revision identity has different immutable content")
      return rows
    | none => .ok (rows ++ [item.row])

def availableSessions
    (asOf : Instant) : List MarketCalendarSessionRow :=
  rows.filter fun row => row.calendarVersion = calendarVersion ∧ row.availableAt ≤ asOf

def forDateAsOf
    (sessionDate : CivilDate) (cutoff : Instant) : Option MarketCalendarSessionRow :=
  (sortedBy (fun row : MarketCalendarSessionRow => toLex (row.availableAt, row.calendarSessionId))
    ((availableSessions rows calendarVersion cutoff).filter
      (·.sessionDate = sessionDate))).getLast?

structure Q1CalendarRuntime where
  calendarVersion : String
  named : calendarVersion ≠ ""
  localDate : Instant → CivilDate

def calendarForCycle (runtime : Q1CalendarRuntime) (rows : List MarketCalendarSessionRow)
    (scheduledAt : Instant) : Except Failure MarketCalendarSessionRow :=
  match forDateAsOf rows runtime.calendarVersion (runtime.localDate scheduledAt) scheduledAt with
  | some session => .ok session
  | none => .error ⟨.q1CycleNotReady, "Versioned market calendar is unavailable", []⟩

def calendarDates
    (asOf : Instant) : List CivilDate :=
  sortedBy id ((availableSessions rows calendarVersion asOf).map (·.sessionDate))

def settlementCalendar (runtime : Q1CalendarRuntime) (rows : List MarketCalendarSessionRow)
    (scheduledAt now : Instant) : Except Failure BusinessCalendar := do
  let session ← calendarForCycle runtime rows scheduledAt
  let dates := calendarDates rows session.calendarVersion now
  validate BusinessCalendarFields.check ⟨session.calendarVersion, dates⟩

/-- The calendar of the execution cycle: `_read_inputs` reads the dates, and
`_prepare_fill_mutations` builds the calendar. -/
def executionCalendar (runtime : Q1CalendarRuntime) (rows : List MarketCalendarSessionRow)
    (scheduledAt now : Instant) : Except Failure BusinessCalendar := do
  let calendar ← calendarForCycle runtime rows scheduledAt
  let dates := calendarDates rows calendar.calendarVersion now
  validate BusinessCalendarFields.check ⟨calendar.calendarVersion, dates⟩

theorem appendSession_cases {rows rows' item} (h : appendSession rows item = .ok rows') :
    rows' = rows ∨
      (item.val.calendarSessionId ∉ rows.map (·.calendarSessionId) ∧ rows' = rows ++ [item.row]) := by
  unfold appendSession at h
  split at h
  · simp only [ok_iff] at h
    obtain ⟨-, -, rfl⟩ := h
    exact .inl rfl
  · rename_i hnew
    split at h
    · simp only [ok_iff] at h
      obtain ⟨-, -, rfl⟩ := h
      exact .inl rfl
    · cases h
      refine .inr ⟨fun hmem => ?_, rfl⟩
      obtain ⟨row, hrow, hid⟩ := mem_map.mp hmem
      have hother := List.find?_eq_none.mp hnew row hrow
      simp [hid] at hother

theorem sessions_nodup {items : List MarketCalendarSession}
    {rows : List MarketCalendarSessionRow} (h : items.foldlM appendSession [] = .ok rows) :
    (rows.map (·.calendarSessionId)).Nodup := by
  refine foldlM_induction h (fun _ rows => (rows.map (·.calendarSessionId)).Nodup)
    nodup_nil ?_
  intro read item rows rows' hnodup happend
  rcases appendSession_cases happend with rfl | ⟨hnew, rfl⟩
  · exact hnodup
  · rw [map_append]
    exact nodup_snoc hnodup hnew

/-- Some date has two stored revisions that are both available. -/
def HasRevisedDate
    (asOf : Instant) : Prop :=
  ∃ first ∈ availableSessions rows calendarVersion asOf,
    ∃ second ∈ availableSessions rows calendarVersion asOf,
      first.calendarSessionId ≠ second.calendarSessionId ∧ first.sessionDate = second.sessionDate

/-- The calendar has every available date, and lookups find the same rows. -/
def BuildsCalendar (built : Except Failure BusinessCalendar)
    (rows : List MarketCalendarSessionRow) (calendarVersion : String) (asOf : Instant) : Prop :=
  (∃ calendar, built = .ok calendar ∧
    calendar.val.sessions = calendarDates rows calendarVersion asOf) ∧
  ∀ row ∈ availableSessions rows calendarVersion asOf,
    forDateAsOf rows calendarVersion row.sessionDate asOf = some row

section Calendars

variable {rows : List MarketCalendarSessionRow} {calendarVersion : String} {asOf : Instant}

theorem nodup_dates_iff (h : (rows.map (·.calendarSessionId)).Nodup) :
    ((availableSessions rows calendarVersion asOf).map (·.sessionDate)).Nodup ↔
      ¬HasRevisedDate rows calendarVersion asOf := by
  have hids : ((availableSessions rows calendarVersion asOf).map (·.calendarSessionId)).Nodup :=
    h.sublist (filter_sublist.map _)
  have hsame := inj_on_of_nodup_map hids
  constructor
  · rintro hdates ⟨first, hfirst, second, hsecond, hid, hdate⟩
    have heq := inj_on_of_nodup_map hdates hfirst hsecond hdate
    exact hid (by rw [heq])
  · intro hrevised
    refine List.Nodup.map_on (fun first hfirst second hsecond hdate => ?_)
      (List.Nodup.of_map _ hids)
    by_contra hne
    exact hrevised ⟨first, hfirst, second, hsecond,
      fun hid => hne (hsame hfirst hsecond hid), hdate⟩

theorem businessCalendar_check_iff (version : String) (dates : List CivilDate) :
    BusinessCalendarFields.check ⟨version, sortedBy id dates⟩ = .ok () ↔
      version ≠ "" ∧ dates ≠ [] ∧ dates.Nodup := by
  simp only [BusinessCalendarFields.check, ok_iff, not_not, sortedBy_eq_nil]
  refine and_congr_right fun _ => and_congr_right fun _ => ?_
  constructor
  · intro hsorted
    have hnodup : (sortedBy id dates).Nodup := by
      rw [← hsorted]
      exact ((sortedBy_perm id _).nodup_iff).mpr (nodup_dedup _)
    exact ((sortedBy_perm id dates).nodup_iff).mp hnodup
  · intro hnodup
    rw [dedup_eq_self.mpr (((sortedBy_perm id dates).nodup_iff).mpr hnodup)]
    exact sortedBy_eq_self id (sortedBy_pairwise id dates)

theorem forDateAsOf_of_unrevised (h : (rows.map (·.calendarSessionId)).Nodup)
    (hunrevised : ¬HasRevisedDate rows calendarVersion asOf) {row : MarketCalendarSessionRow}
    (hrow : row ∈ availableSessions rows calendarVersion asOf) :
    forDateAsOf rows calendarVersion row.sessionDate asOf = some row := by
  have hdates := inj_on_of_nodup_map ((nodup_dates_iff h).mpr hunrevised)
  have hmem : row ∈ (availableSessions rows calendarVersion asOf).filter
      (·.sessionDate = row.sessionDate) := mem_filter.mpr ⟨hrow, by simp⟩
  unfold forDateAsOf
  cases hlast : (sortedBy (fun row : MarketCalendarSessionRow =>
      toLex (row.availableAt, row.calendarSessionId))
      ((availableSessions rows calendarVersion asOf).filter
        (·.sessionDate = row.sessionDate))).getLast? with
  | none =>
    rw [List.getLast?_eq_none_iff, sortedBy_eq_nil] at hlast
    rw [hlast] at hmem
    cases hmem
  | some latest =>
    have hlatest := mem_of_getLast? hlast
    rw [mem_sortedBy, mem_filter, decide_eq_true_eq] at hlatest
    rw [hdates hlatest.1 hrow hlatest.2]

end Calendars

/-- After every sequence of accepted appends, and in every cycle that has its market session: the
settlement and the execution cycle build their calendar, from the latest revision of each date,
exactly when no date has two revisions available by then. -/
theorem calendars_build_iff (runtime : Q1CalendarRuntime) {items : List MarketCalendarSession}
    {rows : List MarketCalendarSessionRow} {scheduledAt now : Instant}
    {session : MarketCalendarSessionRow} (appended : items.foldlM appendSession [] = .ok rows)
    (found : calendarForCycle runtime rows scheduledAt = .ok session) (due : scheduledAt ≤ now) :
    BuildsCalendar (settlementCalendar runtime rows scheduledAt now) rows
        runtime.calendarVersion now ∧
      BuildsCalendar (executionCalendar runtime rows scheduledAt now) rows
        runtime.calendarVersion now ↔
    ¬HasRevisedDate rows runtime.calendarVersion now := by
  have hnodup := sessions_nodup appended
  have hsession : session.calendarVersion = runtime.calendarVersion ∧
      session ∈ availableSessions rows runtime.calendarVersion now := by
    unfold calendarForCycle at found
    split at found
    · rename_i latest hlatest
      cases found
      have hmem := mem_of_getLast? hlatest
      rw [mem_sortedBy, mem_filter, availableSessions, mem_filter,
        decide_eq_true_eq] at hmem
      obtain ⟨⟨hrow, hversion, havailable⟩, -⟩ := hmem
      exact ⟨hversion, mem_filter.mpr
        ⟨hrow, decide_eq_true ⟨hversion, havailable.trans due⟩⟩⟩
    · cases found
  have hbuilt : settlementCalendar runtime rows scheduledAt now =
      validate BusinessCalendarFields.check
        ⟨runtime.calendarVersion, calendarDates rows runtime.calendarVersion now⟩ := by
    rw [settlementCalendar, found, ok_bind, hsession.1]
  have hsame : executionCalendar runtime rows scheduledAt now =
      settlementCalendar runtime rows scheduledAt now := rfl
  have hsome : (availableSessions rows runtime.calendarVersion now).map (·.sessionDate) ≠ [] := by
    intro hnil
    rw [map_eq_nil_iff] at hnil
    rw [hnil] at hsession
    cases hsession.2
  have hcheck := businessCalendar_check_iff runtime.calendarVersion
    ((availableSessions rows runtime.calendarVersion now).map (·.sessionDate))
  rw [hsame, and_self, hbuilt, ← nodup_dates_iff hnodup]
  constructor
  · rintro ⟨⟨calendar, hok, -⟩, -⟩
    rw [validate_eq_ok] at hok
    have hvalid := calendar.valid
    rw [hok] at hvalid
    exact (hcheck.mp hvalid).2.2
  · intro hdates
    have hok := validate_of_ok (hcheck.mpr ⟨runtime.named, hsome, hdates⟩)
    exact ⟨⟨_, hok, rfl⟩, fun row hrow =>
      forDateAsOf_of_unrevised hnodup ((nodup_dates_iff hnodup).mp hdates) hrow⟩

def sampleSessionFields (calendarSessionId sessionHash : String) (sessionDate : CivilDate)
    (closeAt availableAt : Instant) : MarketCalendarSessionFields where
  configManifestHash := "config"
  codeVersion := "code"
  modelVersion := "model"
  sourceManifestHash := "source"
  calendarSessionId := calendarSessionId
  calendarVersion := "calendar"
  sessionDate := sessionDate
  openAt := 300
  closeAt := closeAt
  source := "ALPACA"
  availableAt := availableAt
  sessionHash := sessionHash
  createdAt := availableAt

def firstDate : CivilDate := ⟨2026, 1, 2, CivilDate.year_2026, CivilDate.january, by decide⟩

def secondDate : CivilDate := .monday

theorem firstSession_valid :
    (sampleSessionFields "s1" "h1" firstDate 1000 0).validate = .ok () := by decide +kernel

theorem revisedSession_valid :
    (sampleSessionFields "s2" "h2" firstDate 900 100).validate = .ok () := by decide +kernel

theorem secondSession_valid :
    (sampleSessionFields "s3" "h3" secondDate 1000 0).validate = .ok () := by decide +kernel

def firstSession : MarketCalendarSession := ⟨_, firstSession_valid⟩

def revisedSession : MarketCalendarSession := ⟨_, revisedSession_valid⟩

def secondSession : MarketCalendarSession := ⟨_, secondSession_valid⟩

def sampleRuntime : Q1CalendarRuntime := ⟨"calendar", by decide, fun _ => firstDate⟩

theorem two_sessions_build :
    ∃ rows session, [firstSession, secondSession].foldlM appendSession [] = .ok rows ∧
      calendarForCycle sampleRuntime rows 200 = .ok session ∧
      (BuildsCalendar (settlementCalendar sampleRuntime rows 200 200) rows "calendar" 200 ∧
          BuildsCalendar (executionCalendar sampleRuntime rows 200 200) rows "calendar" 200 ↔
        ¬HasRevisedDate rows "calendar" 200) := by
  have hrows : [firstSession, secondSession].foldlM appendSession [] =
      .ok [firstSession.row, secondSession.row] := by rfl
  have hsession : calendarForCycle sampleRuntime [firstSession.row, secondSession.row] 200 =
      .ok firstSession.row := by rfl
  exact ⟨_, _, hrows, hsession, calendars_build_iff sampleRuntime hrows hsession le_rfl⟩

/-- The revision is accepted, and the next settlement cannot build its calendar. -/
theorem revised_date_blocks :
    ∃ rows session, [firstSession, revisedSession].foldlM appendSession [] = .ok rows ∧
      calendarForCycle sampleRuntime rows 200 = .ok session ∧
      settlementCalendar sampleRuntime rows 200 200 = .error (settlementError
        "Business calendar sessions must be unique and strictly increasing") ∧
      ¬BuildsCalendar (settlementCalendar sampleRuntime rows 200 200) rows "calendar" 200 := by
  have hrows : [firstSession, revisedSession].foldlM appendSession [] =
      .ok [firstSession.row, revisedSession.row] := by rfl
  have hsession : calendarForCycle sampleRuntime [firstSession.row, revisedSession.row] 200 =
      .ok revisedSession.row := by rfl
  have hfailed : settlementCalendar sampleRuntime [firstSession.row, revisedSession.row] 200 200 =
      .error (settlementError
        "Business calendar sessions must be unique and strictly increasing") := by
    rw [settlementCalendar, hsession, ok_bind]
    exact validate_of_error (by rfl)
  refine ⟨_, _, hrows, hsession, hfailed, fun hbuilt => ?_⟩
  obtain ⟨⟨calendar, hok, -⟩, -⟩ := hbuilt
  rw [hfailed] at hok
  cases hok

end AdaptiveQuant.Settlement
