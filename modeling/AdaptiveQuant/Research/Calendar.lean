import AdaptiveQuant.Research.DuePlans

/-! What a market calendar says at an instant. -/

namespace AdaptiveQuant

open Sequence List

structure MarketCalendar where
  rows : List VersionedResearchMarketSession
  key : (rows.map (·.calendarSessionId)).Nodup

section Knowledge

variable (sessions : List VersionedResearchMarketSession) (version : String) (asOf : Instant)

def Known (session : VersionedResearchMarketSession) : Prop :=
  session ∈ sessions ∧ session.calendarVersion = version ∧ session.availableAt ≤ asOf

/-- The newest revision of its day that is known at an instant. -/
def InForce (session : VersionedResearchMarketSession) : Prop :=
  Known sessions version asOf session ∧ ∀ other, Known sessions version asOf other →
    other.sessionDate = session.sessionDate → revisionKey other ≤ revisionKey session

/-- The last day that is over at `due`, as it is known at an instant. -/
def Anchors (due : Instant) (session : VersionedResearchMarketSession) : Prop :=
  InForce sessions version asOf session ∧ session.closeAt ≤ due ∧
    ∀ other, InForce sessions version asOf other → other.closeAt ≤ due →
      other.sessionDate ≤ session.sessionDate

end Knowledge

section Reading

variable {sessions : List VersionedResearchMarketSession} {version : String} {asOf : Instant}
  {session other : VersionedResearchMarketSession}

section

variable (key : (sessions.map (·.calendarSessionId)).Nodup)

include key

theorem session_eq_of_id (h : session ∈ sessions) (h' : other ∈ sessions)
    (same : session.calendarSessionId = other.calendarSessionId) : session = other :=
  inj_on_of_nodup_map key h h' same

theorem InForce.unique
    (h : InForce sessions version asOf session) (h' : InForce sessions version asOf other)
    (same : session.sessionDate = other.sessionDate) : session = other := by
  have hkey : revisionKey session = revisionKey other :=
    le_antisymm (h'.2 session h.1 same) (h.2 other h'.1 same.symm)
  have hid : session.calendarSessionId = other.calendarSessionId := congrArg (·.2) hkey
  exact session_eq_of_id key h.1.1 h'.1.1 hid

theorem Anchors.unique {due : Instant}
    (h : Anchors sessions version asOf due session) (h' : Anchors sessions version asOf due other) :
    session = other :=
  h.1.unique key h'.1 (le_antisymm (h'.2.2 session h.1 h.2.1) (h.2.2 other h'.1 h'.2.1))

end

theorem InForce.earlier {before : Instant} (h : InForce sessions version asOf session)
    (le : before ≤ asOf) (known : session.availableAt ≤ before) :
    InForce sessions version before session :=
  ⟨⟨h.1.1, h.1.2.1, known⟩, fun other hother =>
    h.2 other ⟨hother.1, hother.2.1, hother.2.2.trans le⟩⟩

theorem foldl_takeRevision (latest : Dict CivilDate VersionedResearchMarketSession) :
    sessions.foldl (takeRevision version asOf) latest =
      (sessions.filter fun session => session.calendarVersion = version ∧
        session.availableAt ≤ asOf).foldl
          (Selection.keepNewest (·.sessionDate) revisionKey) latest := by
  induction sessions generalizing latest with
  | nil => rfl
  | cons session rest ih =>
    rw [foldl_cons, ih]
    by_cases hknown : session.calendarVersion = version ∧ session.availableAt ≤ asOf
    · rw [filter_cons_of_pos (by simpa using hknown), foldl_cons]
      have hpass : ¬(session.calendarVersion ≠ version ∨ asOf < session.availableAt) := by
        rw [not_or, not_not, not_lt]
        exact hknown
      rw [takeRevision, if_neg hpass]
      rfl
    · rw [filter_cons_of_neg (by simpa using hknown)]
      have hskip : session.calendarVersion ≠ version ∨ asOf < session.availableAt := by
        rwa [not_and_or, not_le] at hknown
      rw [takeRevision, if_pos hskip]

theorem mem_latestSessionsAsOf (key : (sessions.map (·.calendarSessionId)).Nodup) :
    session ∈ latestSessionsAsOf sessions version asOf ↔ InForce sessions version asOf session := by
  rw [latestSessionsAsOf, Dict.mem_values_sorted, foldl_takeRevision,
    Selection.mem_values_foldl_keepNewest]
  · simp only [Selection.Newest, InForce, Known, mem_filter, decide_eq_true_eq]
  · intro a ha b hb _ hkey
    have hid : a.calendarSessionId = b.calendarSessionId := congrArg (·.2) hkey
    exact session_eq_of_id key (mem_filter.mp ha).1 (mem_filter.mp hb).1 hid

theorem weeklyAnchor_eq_some {due : Instant} (key : (sessions.map (·.calendarSessionId)).Nodup) :
    weeklyAnchor (latestSessionsAsOf sessions version asOf) due = some session ↔
      Anchors sessions version asOf due session := by
  have hmem : ∀ other, other ∈ (latestSessionsAsOf sessions version asOf).filter
      (·.closeAt ≤ due) ↔ InForce sessions version asOf other ∧ other.closeAt ≤ due := by
    intro other
    rw [mem_filter, mem_latestSessionsAsOf key, decide_eq_true_eq]
  have hfound : ∀ chosen, weeklyAnchor (latestSessionsAsOf sessions version asOf) due =
      some chosen → Anchors sessions version asOf due chosen := by
    intro chosen hchosen
    obtain ⟨hforce, hclose⟩ := (hmem chosen).mp (argmax_mem hchosen)
    refine ⟨hforce, hclose, fun other hother hover => ?_⟩
    have hle := le_of_mem_argmax ((hmem other).mpr ⟨hother, hover⟩) hchosen
    rcases Prod.Lex.le_iff.mp hle with hlt | ⟨heq, -⟩
    · exact hlt.le
    · exact heq.le
  constructor
  · exact hfound session
  · intro h
    cases hchosen : weeklyAnchor (latestSessionsAsOf sessions version asOf) due with
    | none =>
      have hempty := argmax_eq_none.mp hchosen
      have := (hmem session).mpr ⟨h.1, h.2.1⟩
      rw [hempty] at this
      cases this
    | some chosen => rw [(hfound chosen hchosen).unique key h]

end Reading

end AdaptiveQuant
