import AdaptiveQuant.Risk.EpisodeRun

/-! The sessions of a release. -/

namespace AdaptiveQuant

open Guard Sequence List

variable {hash : Hashing} {config : RiskEngineConfig}

/-- No release is in a session that activates or escalates. -/
def EpisodeLog.ReleasesApart (log : EpisodeLog) : Prop :=
  ∀ entry ∈ log.entries, entry.event.eventType = .release → ∀ other ∈ log.entries,
    other.event.eventType = .activate ∨ other.event.eventType = .escalate →
    other.session ≠ entry.session

/-- A check that passes the release rule of the active episode neither escalates it nor is in the
session of an earlier escalation of it. -/
def NoSameSessionEscalation (hash : Hashing) (config : RiskEngineConfig) (logs : List EpisodeLog) :
    EpisodeInput → Prop
  | .check step => ∀ log, RiskEpisodeRepository.active logs = some log →
      canRelease config step log.episode = true →
      ¬Escalates hash config step log.episode log.events ∧
        ∀ entry ∈ log.entries, entry.event.eventType = .escalate →
          entry.session ≠ step.check.calendarSessionId
  | .progress .. => True

/-- An episode's activation is in the session that the episode names. -/
structure SessionLogs (hash : Hashing) (logs : List EpisodeLog) : Prop
    extends SoundLogs hash logs where
  activation : ∀ log ∈ logs, ∀ entry ∈ log.entries, entry.event.eventType = .activate →
    entry.session = log.episode.calendarSessionId

variable {acc : StreamState} {log : EpisodeLog}

theorem SessionLogs.extended {front} {session : String} {events}
    (h : SessionLogs hash (front ++ [log]))
    (stream : EpisodeStream hash log.episode (log.events ++ events) acc)
    (kinds : ∀ event ∈ events, event.eventType ≠ .activate) :
    SessionLogs hash (front ++ [log.extend session events]) := by
  refine ⟨h.replaced (EpisodeLog.extend_events ▸ stream), fun other hother entry hentry hkind => ?_⟩
  rcases mem_append.mp hother with hother | hother
  · exact h.activation other (mem_append_left _ hother) entry hentry hkind
  · rw [mem_singleton.mp hother] at hentry ⊢
    rcases mem_append.mp hentry with hentry | hentry
    · exact h.activation log (by simp) entry hentry hkind
    · obtain ⟨event, hevent, rfl⟩ := mem_map.mp hentry
      exact absurd hkind (kinds event hevent)

theorem planned_not_activate {escalation release : List RiskEpisodeEvent} {p q r s t : Prop}
    (hesc : (escalation = [] ∧ p) ∨ ∃ event, escalation = [event] ∧
      event.eventType = RiskEpisodeEventType.escalate ∧ q)
    (hrel : (release = [] ∧ r) ∨ ∃ event, release = [event] ∧
      event.eventType = RiskEpisodeEventType.release ∧ s ∧ t) :
    ∀ event ∈ escalation ++ release, event.eventType ≠ .activate := by
  intro event hevent
  rcases mem_append.mp hevent with hevent | hevent
  · rcases hesc with ⟨rfl, -⟩ | ⟨e, rfl, kind, -⟩
    · cases hevent
    · rw [mem_singleton.mp hevent, kind]
      decide
  · rcases hrel with ⟨rfl, -⟩ | ⟨e, rfl, kind, -⟩
    · cases hevent
    · rw [mem_singleton.mp hevent, kind]
      decide

variable {logs logs' : List EpisodeLog}

theorem SessionLogs.step {input} (h : SessionLogs hash logs)
    (hstep : stepEpisodes hash config logs input = .ok logs') :
    SessionLogs hash logs' := by
  have hsound := h.toSoundLogs.step hstep
  cases stepEpisodes_cases h.toSoundLogs hstep with
  | idle => exact h
  | opened _ session _ =>
    refine ⟨hsound, fun log hlog entry hentry hkind => ?_⟩
    rcases mem_append.mp hlog with hlog | hlog
    · exact h.activation log hlog entry hentry hkind
    · rw [mem_singleton.mp hlog] at hentry ⊢
      rw [mem_singleton.mp hentry]
      exact session.symm
  | planned shape _ _ stream escalated released =>
    subst shape
    exact h.extended stream (planned_not_activate escalated released)
  | progressed shape _ stream _ kinds =>
    subst shape
    refine h.extended stream fun event hevent hkind => ?_
    rcases kinds event hevent with kind | kind <;> simp [kind] at hkind

theorem forall_concat_iff {P : EpisodeLog → Prop} {front} :
    (∀ other ∈ front ++ [log], P other) ↔ (∀ other ∈ front, P other) ∧ P log := by
  simp [or_imp, forall_and]

theorem releasesApart_of_live (log : EpisodeLog)
    (stream : EpisodeStream hash log.episode log.events acc) (live : acc.released = false) :
    log.ReleasesApart := by
  intro entry hentry hkind
  exact absurd hkind (stream.not_release live entry.event (mem_map_of_mem hentry))

theorem releasesApart_released_iff {step : RiskStep}
    {escalation : List RiskEpisodeEvent} {event : RiskEpisodeEvent}
    (stream : EpisodeStream hash log.episode log.events acc) (live : acc.released = false)
    (activation : ∀ entry ∈ log.entries, entry.event.eventType = .activate →
      entry.session = log.episode.calendarSessionId)
    (hrelease : canRelease config step log.episode = true) (kind : event.eventType = .release)
    (escalated : (escalation = [] ∧ ¬Escalates hash config step log.episode log.events) ∨
      ∃ event, escalation = [event] ∧ event.eventType = .escalate ∧
        Escalates hash config step log.episode log.events) :
    (log.extend step.check.calendarSessionId (escalation ++ [event])).ReleasesApart ↔
      ¬Escalates hash config step log.episode log.events ∧
        ∀ entry ∈ log.entries, entry.event.eventType = .escalate →
          entry.session ≠ step.check.calendarSessionId := by
  have hsession : step.check.calendarSessionId ≠ log.episode.calendarSessionId := by
    simp only [canRelease, decide_eq_true_eq] at hrelease
    exact hrelease.1
  set session := step.check.calendarSessionId with hsess
  have hnew : (⟨session, event⟩ : LoggedEvent) ∈
      (log.extend session (escalation ++ [event])).entries := by
    simp [EpisodeLog.extend]
  constructor
  · intro hapart
    refine ⟨fun hesc => ?_, fun entry hentry hkind => ?_⟩
    · rcases escalated with ⟨-, hno⟩ | ⟨e, rfl, hkind, -⟩
      · exact hno hesc
      · exact hapart _ hnew kind ⟨session, e⟩ (by simp [EpisodeLog.extend]) (.inr hkind) rfl
    · exact hapart _ hnew kind entry (by simp [EpisodeLog.extend, hentry]) (.inr hkind)
  · rintro ⟨hno, hsessions⟩ entry hentry hkind other hother hother_kind
    obtain rfl : escalation = [] := by
      rcases escalated with ⟨rfl, -⟩ | ⟨-, -, -, hesc⟩
      · rfl
      · exact absurd hesc hno
    have hentries : (log.extend session ([] ++ [event])).entries =
        log.entries ++ [⟨session, event⟩] := by simp [EpisodeLog.extend]
    rw [hentries] at hentry hother
    -- the only RELEASE is the new event
    have hentry_session : entry.session = session := by
      rcases mem_append.mp hentry with hentry | hentry
      · exact absurd hkind (stream.not_release live entry.event (mem_map_of_mem hentry))
      · rw [mem_singleton.mp hentry]
    rw [hentry_session]
    rcases mem_append.mp hother with hother | hother
    · rcases hother_kind with hact | hesc
      · rw [activation other hother hact]
        exact hsession.symm
      · exact hsessions other hother hesc
    · rw [mem_singleton.mp hother] at hother_kind
      simp [kind] at hother_kind

theorem releasesApart_step {input} (h : SessionLogs hash logs)
    (hstep : stepEpisodes hash config logs input = .ok logs') :
    (∀ log ∈ logs', log.ReleasesApart) ↔
      (∀ log ∈ logs, log.ReleasesApart) ∧ NoSameSessionEscalation hash config logs input := by
  cases stepEpisodes_cases h.toSoundLogs hstep with
  | idle _ inactive _ =>
    cases input <;> simp [NoSameSessionEscalation, inactive]
  | @opened step episode event inactive _ stream =>
    have hnew : EpisodeLog.ReleasesApart ⟨episode, [⟨step.check.calendarSessionId, event⟩]⟩ :=
      releasesApart_of_live ⟨episode, [⟨step.check.calendarSessionId, event⟩]⟩ stream rfl
    rw [forall_concat_iff]
    simp [NoSameSessionEscalation, inactive, hnew]
  | @planned step front log acc' escalation release shape active _ stream escalated released =>
    subst shape
    obtain ⟨front', log', acc, hshape, hactive, hstream, live⟩ :
        ∃ front' log' acc, front ++ [log] = front' ++ [log'] ∧
          RiskEpisodeRepository.active (front ++ [log]) = some log' ∧
          EpisodeStream hash log'.episode log'.events acc ∧ acc.released = false := by
      rcases h.active_cases with ⟨hnone, -⟩ | hcase
      · rw [hnone] at active
        cases active
      · exact hcase
    obtain rfl : log = log' := Option.some.inj (active.symm.trans hactive)
    have hold := releasesApart_of_live log hstream live
    rw [forall_concat_iff, forall_concat_iff]
    have hcond : NoSameSessionEscalation hash config (front ++ [log]) (.check step) ↔
        (canRelease config step log.episode = true →
          ¬Escalates hash config step log.episode log.events ∧
            ∀ entry ∈ log.entries, entry.event.eventType = .escalate →
              entry.session ≠ step.check.calendarSessionId) := by
      simp [NoSameSessionEscalation, active]
    rw [hcond]
    rcases released with ⟨rfl, hno, live'⟩ | ⟨event, rfl, kind, hyes, -⟩
    · have hnew := releasesApart_of_live
        (log.extend step.check.calendarSessionId (escalation ++ []))
        (EpisodeLog.extend_events ▸ stream) live'
      simp only [hno, hold, hnew, Bool.false_eq_true, false_imp_iff, and_true]
    · have hiff := releasesApart_released_iff hstream live (h.activation log (by simp)) hyes kind
        escalated
      simp only [hiff, hyes, true_imp_iff, hold, and_true]
  | @progressed positions check _ _ front log acc events shape _ stream live _ =>
    subst shape
    rw [forall_concat_iff, forall_concat_iff]
    have hnew := releasesApart_of_live (log.extend check.calendarSessionId events)
      (EpisodeLog.extend_events ▸ stream) live
    have hold : log.ReleasesApart := by
      intro entry hentry hkind
      exact absurd hkind (stream.not_release live entry.event
        (mem_append_left _ (mem_map_of_mem hentry)))
    simp [NoSameSessionEscalation, hnew, hold]

/-- No episode of a run is released in the session of an activation or escalation of it, exactly
when no check of the run that passes the release rule escalates the episode or shares its session
with an earlier escalation. -/
theorem releases_apart_iff (hash : Hashing) (config : RiskEngineConfig)
    (taken : List (List EpisodeLog × EpisodeInput)) (logs : List EpisodeLog)
    (run : Run (stepEpisodes hash config) [] taken logs) :
    (∀ log ∈ logs, log.ReleasesApart) ↔
      ∀ x ∈ taken, NoSameSessionEscalation hash config x.1 x.2 :=
  run.holds_iff (I := SessionLogs hash) ⟨soundLogs_nil, by simp⟩
    (fun _ _ _ h hstep => h.step hstep) (by simp) fun _ _ _ h hstep => releasesApart_step h hstep

section Sample

def sampleReleaseInputs : List EpisodeInput :=
  [.check sampleHardStep, .check sampleCriticalStep, .check sampleReleaseStep]

instance (log : EpisodeLog) : Decidable log.ReleasesApart := by
  unfold EpisodeLog.ReleasesApart
  infer_instance

theorem sampleRelease_iff : ∃ taken logs, Run (stepEpisodes .json sampleRiskConfig) [] taken logs ∧
    taken.map (·.2) = sampleReleaseInputs ∧
    ((∀ log ∈ logs, log.ReleasesApart) ↔
      ∀ x ∈ taken, NoSameSessionEscalation .json sampleRiskConfig x.1 x.2) := by
  have hrun : (sampleReleaseInputs.foldlM (stepEpisodes .json sampleRiskConfig)
      []).toOption.any (fun _ => true) = true := by decide +kernel
  obtain ⟨logs, hok, -⟩ := exists_of_any hrun
  obtain ⟨taken, hmap, run⟩ := Run.of_foldlM hok
  exact ⟨taken, logs, run, hmap, releases_apart_iff .json sampleRiskConfig taken logs run⟩

/-- Activated in the first session, escalated and released in the second. -/
theorem sampleRelease_same_session :
    evaluateRiskCheck sampleHardStep.check sampleRiskConfig = .ok sampleHardStep.metrics ∧
    evaluateRiskCheck sampleCriticalStep.check sampleRiskConfig = .ok sampleCriticalStep.metrics ∧
    evaluateRiskCheck sampleReleaseStep.check sampleRiskConfig = .ok sampleReleaseStep.metrics ∧
    ∃ taken logs, taken.map (·.2) = sampleReleaseInputs ∧
      Run (stepEpisodes .json sampleRiskConfig) [] taken logs ∧
      ¬∀ log ∈ logs, log.ReleasesApart := by
  have hrun : (sampleReleaseInputs.foldlM (stepEpisodes .json sampleRiskConfig)
      []).toOption.any (fun logs => decide (¬∀ log ∈ logs, log.ReleasesApart)) = true := by
    decide +kernel
  obtain ⟨logs, hok, happart⟩ := exists_of_any hrun
  obtain ⟨taken, hmap, run⟩ := Run.of_foldlM hok
  exact ⟨by decide +kernel, by decide +kernel, by decide +kernel, taken, logs, hmap, run,
    by simpa using happart⟩

end Sample

end AdaptiveQuant
