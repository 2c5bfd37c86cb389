import AdaptiveQuant.Risk.EpisodePlanner
import AdaptiveQuant.Domain.CanonicalText
import AdaptiveQuant.Lib.Run

/-! Runs of risk checks and progress reports on one arm. -/

namespace AdaptiveQuant

open Guard Sequence List

/-- A recorded event, with the calendar session of the check it was built from. -/
structure LoggedEvent where
  session : String
  event : RiskEpisodeEvent

/-- An episode with its events, in order. -/
structure EpisodeLog where
  episode : RiskEpisode
  entries : List LoggedEvent

def EpisodeLog.events (log : EpisodeLog) : List RiskEpisodeEvent := log.entries.map (·.event)

def EpisodeLog.extend (log : EpisodeLog) (session : String) (events : List RiskEpisodeEvent) :
    EpisodeLog :=
  { log with entries := log.entries ++ events.map (LoggedEvent.mk session) }

variable {log : EpisodeLog} {session : String}

@[simp] theorem EpisodeLog.extend_events {events : List RiskEpisodeEvent} :
    (log.extend session events).events = log.events ++ events := by
  simp [EpisodeLog.extend, EpisodeLog.events, Function.comp_def]

def EpisodeLog.openEvent (log : EpisodeLog) : Option RiskEpisodeEvent :=
  (RiskEpisodeRepository.latestEvent log.events).filter (·.eventType ≠ .release)

/-- `RiskEpisodeRepository.active`: of the episodes whose latest event is no RELEASE, the one of the
highest severity, then the latest event instant, then the highest event identifier. -/
def RiskEpisodeRepository.active (logs : List EpisodeLog) : Option EpisodeLog :=
  let candidates := logs.filterMap fun log => log.openEvent.map fun latest => (log, latest)
  ((sortedBy (fun (item : EpisodeLog × RiskEpisodeEvent) => toLex (item.2.severity.rank,
    toLex (item.2.occurredAt, item.2.riskEpisodeEventId))) candidates).getLast?).map (·.1)

/-- A risk check, or a look at what the positions became. -/
inductive EpisodeInput
  | check (step : RiskStep)
  | progress (positions : Dict String Decimal) (check : RiskCheckInput)
      (provenance : RiskEpisodeProvenance) (sourceCycleId : Option String)

def recordEvents (logs : List EpisodeLog) (session : String) (events : List RiskEpisodeEvent) :
    List EpisodeLog :=
  match logs.getLast? with
  | none => logs
  | some log => logs.dropLast ++ [log.extend session events]

section Driver

variable (hash : Hashing) (config : RiskEngineConfig)

def planOn (logs : List EpisodeLog) (step : RiskStep) : Except Failure RiskTransition :=
  planRiskTransition hash config step
    ((RiskEpisodeRepository.active logs).map fun log => (log.episode, log.events))

/-- What one check or look adds to the episodes. -/
def stepEpisodes (logs : List EpisodeLog) : EpisodeInput → Except Failure (List EpisodeLog)
  | .check step => do
    let transition ← planOn hash config logs step
    let session := step.check.calendarSessionId
    match transition.newEpisode with
    | some episode =>
      return logs ++ [⟨episode, transition.newEvents.map (LoggedEvent.mk session)⟩]
    | none => return recordEvents logs session transition.newEvents
  | .progress positions check provenance sourceCycleId =>
    match RiskEpisodeRepository.active logs with
    | none => return logs
    | some log => do
      let events ← targetProgressEvents hash log.episode log.events positions check provenance
        sourceCycleId
      return recordEvents logs check.calendarSessionId events

end Driver

variable {hash : Hashing} {config : RiskEngineConfig}

structure SoundLogs (hash : Hashing) (logs : List EpisodeLog) : Prop where
  streams : ∀ log ∈ logs, ∃ acc, EpisodeStream hash log.episode log.events acc
  released : ∀ log ∈ logs.dropLast, log.openEvent = none

variable {acc : StreamState}

theorem openEvent_eq (stream : EpisodeStream hash log.episode log.events acc) :
    (log.openEvent = none ↔ acc.released = true) := by
  obtain ⟨latest, hlast, -, -, hrel⟩ := stream.last
  unfold EpisodeLog.openEvent
  rw [stream.latestEvent_eq, hlast, hrel]
  simp [Option.filter]

variable {front : List EpisodeLog}

theorem active_concat (log : EpisodeLog) (hfront : ∀ old ∈ front, old.openEvent = none) :
    RiskEpisodeRepository.active (front ++ [log]) = log.openEvent.map fun _ => log := by
  have hnone : (front.filterMap fun old => old.openEvent.map fun latest => (old, latest)) = [] :=
    filterMap_eq_nil_iff.mpr fun old hold => by simp [hfront old hold]
  unfold RiskEpisodeRepository.active
  simp only [filterMap_append, hnone, nil_append]
  cases hopen : log.openEvent with
  | none => simp [hopen]
  | some latest => simp [hopen, sortedBy]

variable {logs : List EpisodeLog}

theorem SoundLogs.active_cases (h : SoundLogs hash logs) :
    (RiskEpisodeRepository.active logs = none ∧ ∀ log ∈ logs, log.openEvent = none) ∨
      ∃ front log acc, logs = front ++ [log] ∧ RiskEpisodeRepository.active logs = some log ∧
        EpisodeStream hash log.episode log.events acc ∧ acc.released = false := by
  rcases eq_nil_or_concat' logs with rfl | ⟨front, log, rfl⟩
  · exact .inl ⟨rfl, by simp⟩
  have hfront : ∀ old ∈ front, old.openEvent = none := by
    simpa [dropLast_concat] using h.released
  obtain ⟨acc, stream⟩ := h.streams log (by simp)
  have hactive := active_concat log hfront
  cases hreleased : acc.released with
  | true =>
    have hopen := (openEvent_eq stream).mpr hreleased
    refine .inl ⟨by rw [hactive, hopen]; rfl, fun old hold => ?_⟩
    rcases mem_append.mp hold with hold | hold
    · exact hfront old hold
    · rw [mem_singleton.mp hold]
      exact hopen
  | false =>
    obtain ⟨latest, hopen⟩ : ∃ latest, log.openEvent = some latest := by
      refine Option.ne_none_iff_exists'.mp fun hnone => ?_
      simp [(openEvent_eq stream).mp hnone] at hreleased
    exact .inr ⟨front, log, acc, rfl, by rw [hactive, hopen]; rfl, stream, hreleased⟩

theorem recordEvents_concat {events} :
    recordEvents (front ++ [log]) session events =
      front ++ [log.extend session events] := by
  simp [recordEvents]

@[simp] theorem recordEvents_nil : recordEvents logs session [] = logs := by
  rcases eq_nil_or_concat' logs with rfl | ⟨front, log, rfl⟩
  · rfl
  · rw [recordEvents_concat]
    simp [EpisodeLog.extend]

/-- What a recorded step does to the log of an episode. -/
inductive EpisodeRecorded (hash : Hashing) (config : RiskEngineConfig) (logs : List EpisodeLog) :
    EpisodeInput → List EpisodeLog → Prop
  | idle (input : EpisodeInput) (inactive : RiskEpisodeRepository.active logs = none)
      (untargeted : ∀ step, input = .check step → ∀ targets,
        step.metrics.indicatedSeverity.rank ≥ 2 →
        buildTargets hash step.check step.metrics step.metrics.indicatedSeverity config 1 =
          .ok targets → targets = []) : EpisodeRecorded hash config logs input logs
  | opened {step : RiskStep} {episode : RiskEpisode} {event : RiskEpisodeEvent}
      (inactive : RiskEpisodeRepository.active logs = none)
      (session : episode.calendarSessionId = step.check.calendarSessionId)
      (stream : EpisodeStream hash episode [event] (.start episode)) :
      EpisodeRecorded hash config logs (.check step)
        (logs ++ [⟨episode, [⟨step.check.calendarSessionId, event⟩]⟩])
  | planned {step : RiskStep} {front : List EpisodeLog} {log : EpisodeLog} {acc' : StreamState}
      {escalation release : List RiskEpisodeEvent} (shape : logs = front ++ [log])
      (active : RiskEpisodeRepository.active logs = some log)
      (planned : ∃ t, planOn hash config logs step = .ok t ∧ t.newEvents = escalation ++ release)
      (stream : EpisodeStream hash log.episode (log.events ++ (escalation ++ release)) acc')
      (escalated : (escalation = [] ∧ ¬Escalates hash config step log.episode log.events) ∨
        ∃ event, escalation = [event] ∧ event.eventType = .escalate ∧
          Escalates hash config step log.episode log.events)
      (released : (release = [] ∧ canRelease config step log.episode = false ∧
          acc'.released = false) ∨
        ∃ event, release = [event] ∧ event.eventType = .release ∧
          canRelease config step log.episode = true ∧ acc'.released = true) :
      EpisodeRecorded hash config logs (.check step)
        (front ++ [log.extend step.check.calendarSessionId (escalation ++ release)])
  | progressed {positions : Dict String Decimal} {check : RiskCheckInput}
      {provenance : RiskEpisodeProvenance} {sourceCycleId : Option String}
      {front : List EpisodeLog} {log : EpisodeLog} {acc : StreamState}
      {events : List RiskEpisodeEvent} (shape : logs = front ++ [log])
      (active : RiskEpisodeRepository.active logs = some log)
      (stream : EpisodeStream hash log.episode (log.events ++ events) acc)
      (live : acc.released = false)
      (kinds : ∀ event ∈ events, event.eventType = .targetProgress ∨
        event.eventType = .targetReached) :
      EpisodeRecorded hash config logs (.progress positions check provenance sourceCycleId)
        (front ++ [log.extend check.calendarSessionId events])

variable {logs' : List EpisodeLog}

theorem stepEpisodes_cases {input} (h : SoundLogs hash logs)
    (hstep : stepEpisodes hash config logs input = .ok logs') :
    EpisodeRecorded hash config logs input logs' := by
  cases input with
  | check step =>
    simp only [stepEpisodes, bind_eq_ok] at hstep
    obtain ⟨t, ht, hstep⟩ := hstep
    have hplan := ht
    unfold planOn at hplan
    rcases h.active_cases with ⟨hnone, -⟩ | ⟨front, log, acc, rfl, hactive, stream, live⟩
    · rw [hnone] at hplan
      obtain ⟨-, ⟨hnew, hevents, huntargeted⟩ | ⟨episode, event, hnew, hevents, hsession,
        hstream⟩⟩ := planRiskTransition_none hplan
      · simp only [hnew, hevents, recordEvents_nil, pure_eq_ok] at hstep
        subst hstep
        exact .idle _ hnone fun _ heq => by cases heq; exact huntargeted
      · simp only [hnew, hevents, pure_eq_ok] at hstep
        subst hstep
        exact .opened hnone hsession hstream
    · rw [hactive] at hplan
      obtain ⟨hnew, -, escalation, release, acc', hevents, hstream, hesc, hrel⟩ :=
        planRiskTransition_some stream live hplan
      simp only [hnew, hevents, recordEvents_concat, pure_eq_ok] at hstep
      subst hstep
      exact .planned rfl hactive ⟨t, ht, hevents⟩ (hevents ▸ hstream) hesc hrel
  | progress positions check provenance sourceCycleId =>
    simp only [stepEpisodes] at hstep
    rcases h.active_cases with ⟨hnone, -⟩ | ⟨front, log, acc, rfl, hactive, stream, live⟩
    · simp only [hnone, pure_eq_ok] at hstep
      subst hstep
      exact .idle _ hnone fun _ heq => by cases heq
    · simp only [hactive, ok_iff, recordEvents_concat] at hstep
      obtain ⟨events, hevents, rfl⟩ := hstep
      obtain ⟨hstream, hkinds⟩ := targetProgressEvents_ok stream live hevents
      exact .progressed rfl hactive hstream live hkinds

theorem SoundLogs.replaced {log' : EpisodeLog} (h : SoundLogs hash (front ++ [log]))
    (stream : EpisodeStream hash log'.episode log'.events acc) :
    SoundLogs hash (front ++ [log']) := by
  refine ⟨fun other hother => ?_, by simpa [dropLast_concat] using h.released⟩
  rcases mem_append.mp hother with hother | hother
  · exact h.streams other (mem_append_left _ hother)
  · rw [mem_singleton.mp hother]
    exact ⟨acc, stream⟩

theorem SoundLogs.step {input} (h : SoundLogs hash logs)
    (hstep : stepEpisodes hash config logs input = .ok logs') :
    SoundLogs hash logs' := by
  cases stepEpisodes_cases h hstep with
  | idle => exact h
  | opened inactive _ stream =>
    have hall : ∀ log ∈ logs, log.openEvent = none := by
      rcases h.active_cases with ⟨-, hall⟩ | ⟨_, _, _, rfl, hactive, -, -⟩
      · exact hall
      · rw [hactive] at inactive
        cases inactive
    refine ⟨fun other hother => ?_, by simpa [dropLast_concat] using hall⟩
    rcases mem_append.mp hother with hother | hother
    · exact h.streams other hother
    · rw [mem_singleton.mp hother]
      exact ⟨_, stream⟩
  | planned shape _ _ stream _ _ =>
    subst shape
    exact h.replaced (EpisodeLog.extend_events ▸ stream)
  | progressed shape _ stream _ _ =>
    subst shape
    exact h.replaced (EpisodeLog.extend_events ▸ stream)

theorem active_isSome (hfront : ∀ old ∈ front, old.openEvent = none)
    (stream : EpisodeStream hash log.episode log.events acc) (live : acc.released = false) :
    (RiskEpisodeRepository.active (front ++ [log])).isSome := by
  rw [active_concat log hfront, Option.isSome_map, Option.isSome_iff_ne_none]
  intro hnone
  simp [(openEvent_eq stream).mp hnone] at live

def ReleasesOn (hash : Hashing) (config : RiskEngineConfig) (logs : List EpisodeLog) :
    EpisodeInput → Prop
  | .check step => ∃ t, planOn hash config logs step = .ok t ∧
      ∃ event ∈ t.newEvents, event.eventType = .release
  | .progress .. => False

theorem active_step {input} (h : SoundLogs hash logs)
    (hactive : (RiskEpisodeRepository.active logs).isSome)
    (hkeep : ¬ReleasesOn hash config logs input)
    (hstep : stepEpisodes hash config logs input = .ok logs') :
    (RiskEpisodeRepository.active logs').isSome := by
  cases stepEpisodes_cases h hstep with
  | idle => exact hactive
  | opened inactive _ _ => simp [inactive] at hactive
  | planned shape _ planned stream _ released =>
    subst shape
    have hfront := h.released
    rw [dropLast_concat] at hfront
    rcases released with ⟨-, -, live⟩ | ⟨event, rfl, kind, -, -⟩
    · exact active_isSome hfront (EpisodeLog.extend_events ▸ stream) live
    · obtain ⟨t, ht, hevents⟩ := planned
      exact absurd ⟨t, ht, event, by simp [hevents], kind⟩ hkeep
  | progressed shape _ stream live _ =>
    subst shape
    have hfront := h.released
    rw [dropLast_concat] at hfront
    exact active_isSome hfront (EpisodeLog.extend_events ▸ stream) live

theorem active_of_targets {step : RiskStep}
    (h : SoundLogs hash logs) (hrank : step.metrics.indicatedSeverity.rank ≥ 2)
    (htargets : ∃ targets, buildTargets hash step.check step.metrics
      step.metrics.indicatedSeverity config 1 = .ok targets ∧ targets ≠ [])
    (hinactive : RiskEpisodeRepository.active logs = none)
    (hstep : stepEpisodes hash config logs (.check step) = .ok logs') :
    (RiskEpisodeRepository.active logs').isSome := by
  cases stepEpisodes_cases h hstep with
  | idle _ _ untargeted =>
    obtain ⟨targets, hbuilt, hne⟩ := htargets
    exact absurd (untargeted step rfl targets hrank hbuilt) hne
  | opened _ _ stream =>
    have hall : ∀ log ∈ logs, log.openEvent = none := by
      rcases h.active_cases with ⟨-, hall⟩ | ⟨_, _, _, -, hactive, -, -⟩
      · exact hall
      · rw [hactive] at hinactive
        cases hinactive
    exact active_isSome hall stream rfl
  | planned _ active _ _ _ _ =>
    rw [active] at hinactive
    cases hinactive

theorem soundLogs_nil : SoundLogs hash [] := ⟨by simp, by simp⟩

theorem SoundLogs.keep : ∀ logs input logs', SoundLogs hash logs →
    stepEpisodes hash config logs input = .ok logs' → SoundLogs hash logs' :=
  fun _ _ _ h hstep => h.step hstep

theorem effective_ge_indicated {step : RiskStep} {t} (h : SoundLogs hash logs)
    (ht : planOn hash config logs step = .ok t) (hactive : t.activeEpisode ≠ none) :
    step.metrics.indicatedSeverity.rank ≤ t.effectiveSeverity.rank := by
  unfold planOn at ht
  rcases h.active_cases with ⟨hnone, -⟩ | ⟨front, log, acc, rfl, hlog, stream, live⟩
  · rw [hnone] at ht
    exact (planRiskTransition_none ht).1
  · rw [hlog] at ht
    exact (planRiskTransition_some stream live ht).2.1 hactive

/-- Every run of checks and progress reports records lawful episodes. -/
theorem risk_run_lawful (hash : Hashing) (config : RiskEngineConfig) (hash_ok : hash.NoCollision)
    (taken : List (List EpisodeLog × EpisodeInput)) (logs : List EpisodeLog)
    (run : Run (stepEpisodes hash config) [] taken logs) :
    (∀ log ∈ logs, EpisodeStream.Lawful log.episode log.events) ∧
    (∀ before step t, (before, EpisodeInput.check step) ∈ taken →
      planOn hash config before step = .ok t → t.activeEpisode ≠ none →
      step.metrics.indicatedSeverity.rank ≤ t.effectiveSeverity.rank) ∧
    ∀ pre before step post, taken = pre ++ (before, EpisodeInput.check step) :: post →
      step.metrics.indicatedSeverity = .hardReduce ∨
        step.metrics.indicatedSeverity = .criticalExit →
      ((RiskEpisodeRepository.active before).isSome ∨ ∃ targets, buildTargets hash step.check
        step.metrics step.metrics.indicatedSeverity config 1 = .ok targets ∧ targets ≠ []) →
      (∀ x ∈ (before, EpisodeInput.check step) :: post, ¬ReleasesOn hash config x.1 x.2) →
      (RiskEpisodeRepository.active logs).isSome := by
  refine ⟨fun log hlog => ?_, fun before step t hmem ht hactive => ?_, ?_⟩
  · obtain ⟨acc, stream⟩ := (run.inv soundLogs_nil SoundLogs.keep).streams log hlog
    exact stream.lawful hash_ok
  · exact effective_ge_indicated (run.inv_taken soundLogs_nil SoundLogs.keep _ hmem).1 ht hactive
  · intro pre before step post hsplit hindicated htargeted hkeep
    have hrank : step.metrics.indicatedSeverity.rank ≥ 2 := by
      rcases hindicated with hind | hind <;> simp [hind, RiskSeverity.rank]
    refine run.after (P := fun logs => (RiskEpisodeRepository.active logs).isSome)
      (K := fun logs input => ¬ReleasesOn hash config logs input) soundLogs_nil SoundLogs.keep
      (fun _ _ _ h hactive hkeep hstep => active_step h hactive hkeep hstep) hsplit
      (fun logs' h hstep => ?_) fun x hx => hkeep x (mem_cons_of_mem _ hx)
    rcases htargeted with hactive | htargets
    · exact active_step h hactive (hkeep _ mem_cons_self) hstep
    · cases hactive : RiskEpisodeRepository.active before with
      | none => exact active_of_targets h hrank htargets hactive hstep
      | some log => exact active_step h (by simp [hactive]) (hkeep _ mem_cons_self) hstep

section Sample

def sampleRiskConfig : RiskEngineConfig where
  version := "q1_math_core_v1"
  annualizationSessions := 252
  softSigmaMultiple := 2
  hardSigmaMultiple := 3
  softDailyFloor := 15 / 1000
  softDailyCeiling := 30 / 1000
  hardDailyFloor := 25 / 1000
  hardDailyCeiling := 50 / 1000
  softDrawdownThreshold := 8 / 100
  hardDrawdownThreshold := 12 / 100
  criticalDrawdownThreshold := 18 / 100
  q1HardGrossCap := 50 / 100
  q1HardSoxxWeightCap := 20 / 100
  liveMirrorSemiconductorWeightCap := 30 / 100
  releaseDailyLossSoftFraction := 75 / 100
  releaseDrawdownThreshold := 6 / 100
  releaseConsecutiveValidChecks := 2
  quantityPrecision := ⟨1, -6⟩
  leveragedSymbols := ["SOXL"]
  semiconductorSymbols := ["NVDA", "TSM", "KLAC", "LRCX", "MU", "SOXL", "SOXX"]
  valid := by decide +kernel

def sampleRiskProvenance : RiskEpisodeProvenance where
  runId := "run"
  configManifestHash := "config"
  codeVersion := "code"
  modelVersion := "model"
  sourceManifestHash := "source"
  workerFenceToken := "worker"
  cycleAttemptCount := 1
  valid := by decide

def sampleCheckFields (session : String) (scheduledAt : Instant) (held : Bool)
    (sessionOpen : Decimal) (critical : Bool) : RiskCheckFields where
  armId := .q1Det
  calendarSessionId := session
  scheduledAt := scheduledAt
  decisionCreatedAt := scheduledAt
  positions := if held then ⟨[("QQQ", 1)], by decide⟩ else .empty
  settledCashUsd := if held then 0 else 96
  unsettledReceivablesUsd := 0
  quotes := if held then ⟨[("QQQ", ⟨"QQQ", "quote", 96, by decide, by decide⟩)], by decide⟩
    else .empty
  sessionOpenNavUsd := sessionOpen
  runningPeakNavUsd := 100
  portfolioAnnualizedVol := none
  reconciliationOk := !critical
  criticalReconciliationCondition := critical
  reconciliationStatus := if critical then "POSITION_OR_CASH_MISMATCH" else "OK"

def sampleMetrics (dailyLoss : Decimal) (severity : RiskSeverity) : RiskMetrics where
  currentNavUsd := 96
  dailyLoss := dailyLoss
  runDrawdown := 4 / 100
  dailySigma := none
  softDailyThreshold := 15 / 1000
  hardDailyThreshold := 25 / 1000
  indicatedSeverity := severity

def sampleHardStep : RiskStep where
  check := ⟨sampleCheckFields "first" 1 true 100 false, by decide +kernel⟩
  metrics := sampleMetrics (4 / 100) .hardReduce
  provenance := sampleRiskProvenance

def sampleCashStep : RiskStep where
  check := ⟨sampleCheckFields "first" 1 false 100 false, by decide +kernel⟩
  metrics := sampleMetrics (4 / 100) .hardReduce
  provenance := sampleRiskProvenance

def sampleCriticalStep : RiskStep where
  check := ⟨sampleCheckFields "second" 2 true 96 true, by decide +kernel⟩
  metrics := sampleMetrics 0 .criticalExit
  provenance := sampleRiskProvenance

def sampleReleaseStep : RiskStep where
  check := ⟨sampleCheckFields "second" 3 true 96 false, by decide +kernel⟩
  metrics := sampleMetrics 0 .normal
  provenance := sampleRiskProvenance
  isNextSessionStrategicCycle := true
  consecutiveValidReleaseChecks := 2

def LawfulRun (inputs : List EpisodeInput) (kinds : List RiskEpisodeEventType) : Prop :=
  ∃ taken logs, taken.map (·.2) = inputs ∧ Run (stepEpisodes .nested sampleRiskConfig)
    [] taken logs ∧
    logs.map (fun log => log.events.map (·.eventType)) = [kinds] ∧
    ∀ log ∈ logs, EpisodeStream.Lawful log.episode log.events

/-- One episode is escalated and one is released, each in the second session. -/
theorem sampleEpisodes_lawful :
    LawfulRun [.check sampleHardStep, .check sampleCriticalStep] [.activate, .escalate] ∧
      LawfulRun [.check sampleHardStep, .check sampleReleaseStep] [.activate, .release] := by
  have hruns : ∀ inputs kinds, (inputs.foldlM (stepEpisodes .nested sampleRiskConfig)
      []).toOption.any (fun logs => decide (logs.map (fun log => log.events.map (·.eventType)) =
        [kinds])) = true → LawfulRun inputs kinds := by
    intro inputs kinds hrun
    obtain ⟨logs, hok, hkinds⟩ := exists_of_any hrun
    obtain ⟨taken, hmap, run⟩ := Run.of_foldlM hok
    exact ⟨taken, logs, hmap, run, of_decide_eq_true hkinds,
      (risk_run_lawful .nested sampleRiskConfig Hashing.nested_noCollision taken logs run).1⟩
  exact ⟨hruns _ _ (by decide +kernel), hruns _ _ (by decide +kernel)⟩

/-- A HARD_REDUCE check of an arm that holds only cash leaves no active episode. -/
theorem sampleCashStep_inactive :
    evaluateRiskCheck sampleCashStep.check sampleRiskConfig = .ok sampleCashStep.metrics ∧
    sampleCashStep.metrics.indicatedSeverity = .hardReduce ∧
    ∃ logs, Run (stepEpisodes .json sampleRiskConfig) [] [([], .check sampleCashStep)] logs ∧
      ¬ReleasesOn .json sampleRiskConfig [] (.check sampleCashStep) ∧
      RiskEpisodeRepository.active logs = none := by
  have hplan : (planOn .json sampleRiskConfig [] sampleCashStep).toOption.any
      (fun t => decide (t.newEpisode = none ∧ t.newEvents = [])) = true := by decide +kernel
  obtain ⟨t, ht, hempty⟩ := exists_of_any hplan
  rw [decide_eq_true_eq] at hempty
  have hstep : stepEpisodes .json sampleRiskConfig [] (.check sampleCashStep) = .ok [] := by
    simp [stepEpisodes, ht, hempty.1, hempty.2, pure, Except.pure]
  refine ⟨by decide +kernel, rfl, [], .next .start hstep, ?_, rfl⟩
  rintro ⟨t', ht', event, hevent, -⟩
  rw [ht, Except.ok.injEq] at ht'
  simp [← ht', hempty.2] at hevent

end Sample

end AdaptiveQuant
