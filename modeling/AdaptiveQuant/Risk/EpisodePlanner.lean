import AdaptiveQuant.Risk.EpisodeStream

/-! What the planner and the progress reports add to an episode. -/

namespace AdaptiveQuant

open Guard Sequence List

variable {hash : Hashing} {config : RiskEngineConfig}

theorem buildTargets_generation {check metrics severity} {generation : ℕ} {targets}
    (h : buildTargets hash check metrics severity config generation = .ok targets) :
    ∀ target ∈ targets, target.targetGeneration = generation := by
  simp only [buildTargets] at h
  split at h
  · cases h
    simp
  · rw [bind_eq_ok] at h
    obtain ⟨quantities, -, hmap⟩ := h
    intro target htarget
    obtain ⟨entry, -, hbuilt⟩ := mem_of_mapM_eq_ok hmap target htarget
    simp only [buildTarget] at hbuilt
    split at hbuilt
    · cases hbuilt
    · rw [RiskTarget.construct_eq_ok] at hbuilt
      rw [hbuilt]

variable {existing : List RiskEpisodeEvent}

variable {provenance : RiskEpisodeProvenance} {sourceCycleId : Option String}

theorem episodeEvent_ok {episode request check event}
    (h : episodeEvent hash episode existing request check provenance sourceCycleId = .ok event) :
    NamedFor hash episode event ∧ event.eventSequence = existing.length + 1 ∧
      event.eventType = request.eventType ∧ event.severity = request.severity ∧
      event.targetGeneration = eventGeneration request existing := by
  simp only [episodeEvent, bind_eq_ok, RiskEpisodeEvent.construct_eq_ok] at h
  obtain ⟨-, -, -, -, hfields⟩ := h
  refine ⟨⟨by rw [hfields], ⟨request, _, _, _, by rw [hfields]⟩, by rw [hfields]⟩, ?_, ?_, ?_, ?_⟩
  all_goals rw [hfields]

def Escalates (hash : Hashing) (config : RiskEngineConfig) (step : RiskStep)
    (episode : RiskEpisode) (events : List RiskEpisodeEvent) : Prop :=
  episodeSeverity episode events = .hardReduce ∧ step.metrics.indicatedSeverity = .criticalExit ∧
    ∃ targets, buildTargets hash step.check step.metrics .criticalExit config
      (episodeTargetGeneration events + 1) = .ok targets ∧ targets ≠ []

variable {episode newEpisode : Option RiskEpisode} {effective : RiskSeverity}

theorem planActivation_none {step : RiskStep} {events}
    (h : planActivation hash config step none = .ok (effective, episode, newEpisode, events)) :
    effective = step.metrics.indicatedSeverity ∧
    ((episode = none ∧ newEpisode = none ∧ events = [] ∧
        ∀ targets, step.metrics.indicatedSeverity.rank ≥ 2 →
          buildTargets hash step.check step.metrics step.metrics.indicatedSeverity config 1 =
            .ok targets → targets = []) ∨
      ∃ created event, episode = some created ∧ newEpisode = some created ∧ events = [event] ∧
        created.calendarSessionId = step.check.calendarSessionId ∧
        EpisodeStream hash created [event] (.start created)) := by
  have hworst : RiskSeverity.normal.worst step.metrics.indicatedSeverity =
      step.metrics.indicatedSeverity := by
    cases step.metrics.indicatedSeverity <;> rfl
  simp only [planActivation] at h
  split at h
  · simp only [bind_eq_ok] at h
    obtain ⟨targets, htargets, h⟩ := h
    split at h
    · rename_i hempty
      simp only [pure_eq_ok, Prod.mk.injEq] at h
      obtain ⟨rfl, rfl, rfl, rfl⟩ := h
      refine ⟨rfl, .inl ⟨rfl, rfl, rfl, fun targets' _ htargets' => ?_⟩⟩
      rw [htargets] at htargets'
      exact (Except.ok.inj htargets').symm.trans hempty
    · rename_i hne
      simp only [ok_iff, Prod.mk.injEq] at h
      obtain ⟨created, hcreated, event, hevent, rfl, rfl, rfl, rfl⟩ := h
      simp only [createEpisode, bind_eq_ok, RiskEpisode.construct_eq_ok] at hcreated
      obtain ⟨-, -, hfields⟩ := hcreated
      obtain ⟨hnamed, hseq, hkind, hsev, hgen⟩ := episodeEvent_ok hevent
      refine ⟨hworst, .inr ⟨created, event, rfl, rfl, rfl, by rw [hfields],
        .activated hnamed hkind hseq ?_ ?_⟩⟩
      · obtain ⟨target, rest, rfl⟩ := exists_cons_of_ne_nil hne
        rw [hgen]
        exact buildTargets_generation htargets target mem_cons_self
      · rw [hsev, hfields]
  · rename_i hmild
    simp only [pure_eq_ok, Prod.mk.injEq] at h
    obtain ⟨rfl, rfl, rfl, rfl⟩ := h
    refine ⟨hworst, .inl ⟨rfl, rfl, rfl, fun targets hrank _ => ?_⟩⟩
    cases hind : step.metrics.indicatedSeverity <;> simp [hind, RiskSeverity.rank] at hrank hmild

variable {acc : StreamState}

theorem planActivation_some {step : RiskStep} {created : RiskEpisode}
    {events : List RiskEpisodeEvent}
    (stream : EpisodeStream hash created existing acc) (live : acc.released = false)
    (h : planActivation hash config step (some (created, existing)) =
      .ok (effective, episode, newEpisode, events)) :
    episode = some created ∧ newEpisode = none ∧
      step.metrics.indicatedSeverity.rank ≤ effective.rank ∧
      ∃ acc', acc'.released = false ∧ EpisodeStream hash created (existing ++ events) acc' ∧
        ((events = [] ∧ ¬Escalates hash config step created existing) ∨
          ∃ event, events = [event] ∧ event.eventType = .escalate ∧
            Escalates hash config step created existing) := by
  have hsev : episodeSeverity created existing = acc.severity := by
    rw [stream.episodeSeverity_eq, live]
    rfl
  simp only [planActivation, bind_eq_ok] at h
  obtain ⟨-, -, h⟩ := h
  split at h
  · rename_i hcritical
    simp only [bind_eq_ok] at h
    obtain ⟨targets, htargets, h⟩ := h
    split at h
    · rename_i hempty
      simp only [pure_eq_ok, Prod.mk.injEq] at h
      obtain ⟨rfl, rfl, rfl, rfl⟩ := h
      refine ⟨rfl, rfl, by simp [hcritical.2], acc, live, by simpa using stream, .inl ⟨rfl, ?_⟩⟩
      rintro ⟨-, -, targets', htargets', hne⟩
      rw [htargets] at htargets'
      exact hne ((Except.ok.inj htargets').symm.trans hempty)
    · rename_i hne
      simp only [ok_iff, Prod.mk.injEq] at h
      obtain ⟨event, hevent, rfl, rfl, rfl, rfl⟩ := h
      obtain ⟨hnamed, hseq, hkind, hevsev, hgen⟩ := episodeEvent_ok hevent
      have hadvance : acc.Advances event ⟨false, .criticalExit, acc.generation + 1⟩ := by
        refine .escalate live hkind (hsev ▸ hcritical.1) hevsev ?_
        obtain ⟨target, rest, rfl⟩ := exists_cons_of_ne_nil hne
        rw [hgen, ← stream.episodeTargetGeneration_eq]
        exact buildTargets_generation htargets target mem_cons_self
      exact ⟨rfl, rfl, by simp [hcritical.2], _, rfl, .next stream hnamed hseq hadvance,
        .inr ⟨event, rfl, hkind, hcritical.1, hcritical.2, targets, htargets, hne⟩⟩
  · rename_i hnot
    simp only [pure_eq_ok, Prod.mk.injEq] at h
    obtain ⟨rfl, rfl, rfl, rfl⟩ := h
    refine ⟨rfl, rfl, ?_, acc, live, by simpa using stream, .inl ⟨rfl, ?_⟩⟩
    · unfold RiskSeverity.worst
      split
      · exact le_rfl
      · omega
    · rintro ⟨hhard, hcrit, -⟩
      exact hnot ⟨hhard, hcrit⟩

theorem planRiskTransition_none {step : RiskStep} {t}
    (h : planRiskTransition hash config step none = .ok t) :
    step.metrics.indicatedSeverity.rank ≤ t.effectiveSeverity.rank ∧
    ((t.newEpisode = none ∧ t.newEvents = [] ∧
        ∀ targets, step.metrics.indicatedSeverity.rank ≥ 2 →
          buildTargets hash step.check step.metrics step.metrics.indicatedSeverity config 1 =
            .ok targets → targets = []) ∨
      ∃ created event, t.newEpisode = some created ∧ t.newEvents = [event] ∧
        created.calendarSessionId = step.check.calendarSessionId ∧
        EpisodeStream hash created [event] (.start created)) := by
  simp only [planRiskTransition, bind_eq_ok] at h
  obtain ⟨⟨effective, episode, newEpisode, events⟩, hplan, h⟩ := h
  obtain ⟨rfl, ⟨rfl, rfl, rfl, hnone⟩ | ⟨created, event, rfl, rfl, rfl, hsession, hstream⟩⟩ :=
    planActivation_none hplan
  · simp only [pure_eq_ok] at h
    subst h
    exact ⟨le_rfl, .inl ⟨rfl, rfl, hnone⟩⟩
  · have hrelease : canRelease config step created = false := by
      simp [canRelease, hsession]
    simp only [hrelease, Bool.false_eq_true, if_false, ok_iff] at h
    obtain ⟨targets, -, rfl⟩ := h
    exact ⟨le_rfl, .inr ⟨created, event, rfl, rfl, hsession, hstream⟩⟩

theorem planRiskTransition_some {step : RiskStep} {t created}
    (stream : EpisodeStream hash created existing acc) (live : acc.released = false)
    (h : planRiskTransition hash config step (some (created, existing)) = .ok t) :
    t.newEpisode = none ∧
      (t.activeEpisode ≠ none →
        step.metrics.indicatedSeverity.rank ≤ t.effectiveSeverity.rank) ∧
      ∃ escalation release acc', t.newEvents = escalation ++ release ∧
        EpisodeStream hash created (existing ++ t.newEvents) acc' ∧
        ((escalation = [] ∧ ¬Escalates hash config step created existing) ∨
          ∃ event, escalation = [event] ∧ event.eventType = .escalate ∧
            Escalates hash config step created existing) ∧
        ((release = [] ∧ canRelease config step created = false ∧ acc'.released = false) ∨
          ∃ event, release = [event] ∧ event.eventType = .release ∧
            canRelease config step created = true ∧ acc'.released = true) := by
  simp only [planRiskTransition, bind_eq_ok] at h
  obtain ⟨⟨effective, episode, newEpisode, events⟩, hplan, h⟩ := h
  obtain ⟨rfl, rfl, hrank, acc', hlive', hstream, hesc⟩ := planActivation_some stream live hplan
  simp only [Option.map_some, Option.getD_some, bind_eq_ok] at h
  obtain ⟨targets, -, h⟩ := h
  by_cases hrelease : canRelease config step created = true
  · simp only [hrelease, if_true, ok_iff] at h
    obtain ⟨event, hevent, rfl⟩ := h
    obtain ⟨hnamed, hseq, hkind, hsev, hgen⟩ := episodeEvent_ok hevent
    have hadvance : acc'.Advances event { acc' with released := true } := by
      refine .release hlive' hkind ?_ ?_
      · rw [hsev, hstream.episodeSeverity_eq, hlive']
        rfl
      · rw [hgen, ← hstream.episodeTargetGeneration_eq]
        rfl
    refine ⟨rfl, fun hne => absurd rfl hne, events, [event], { acc' with released := true },
      rfl, ?_, hesc, .inr ⟨event, rfl, hkind, hrelease, rfl⟩⟩
    rw [← append_assoc]
    exact .next hstream hnamed hseq hadvance
  · simp only [hrelease, if_false, pure_eq_ok, Bool.false_eq_true] at h
    subst h
    exact ⟨rfl, fun _ => hrank, events, [], acc', (append_nil _).symm, hstream, hesc,
      .inl ⟨rfl, by simpa using hrelease, hlive'⟩⟩

theorem targetProgressEvents_ok {episode : RiskEpisode}
    {positions : Dict String Decimal} {check : RiskCheckInput}
    {events : List RiskEpisodeEvent} (stream : EpisodeStream hash episode existing acc)
    (live : acc.released = false)
    (h : targetProgressEvents hash episode existing positions check provenance sourceCycleId =
      .ok events) :
    EpisodeStream hash episode (existing ++ events) acc ∧
      ∀ event ∈ events, event.eventType = .targetProgress ∨ event.eventType = .targetReached := by
  simp only [targetProgressEvents, bind_eq_ok] at h
  obtain ⟨-, -, targets, -, hfold⟩ := h
  refine foldlM_induction hfold
    (fun _ result => EpisodeStream hash episode (existing ++ result) acc ∧
    ∀ event ∈ result, event.eventType = .targetProgress ∨ event.eventType = .targetReached)
    ⟨by simpa using stream, by simp⟩ ?_
  rintro - target result result' ⟨hstream, hkinds⟩ hstep
  simp only [targetProgressEvent] at hstep
  split at hstep
  · rw [pure_eq_ok] at hstep
    exact hstep ▸ ⟨hstream, hkinds⟩
  · simp only [ok_iff] at hstep
    obtain ⟨event, hevent, rfl⟩ := hstep
    obtain ⟨hnamed, hseq, hkind, hsev, hgen⟩ := episodeEvent_ok hevent
    have hkind' : event.eventType = .targetProgress ∨ event.eventType = .targetReached := by
      rw [hkind]
      dsimp only
      split
      · exact .inr rfl
      · exact .inl rfl
    refine ⟨?_, fun other hother => ?_⟩
    · rw [← append_assoc]
      refine .next hstream hnamed hseq (.progress live hkind' ?_ ?_)
      · rw [hsev, stream.episodeSeverity_eq, live]
        rfl
      · rw [hgen, ← hstream.episodeTargetGeneration_eq]
        rfl
    · rcases mem_append.mp hother with hother | hother
      · exact hkinds other hother
      · rw [mem_singleton.mp hother]
        exact hkind'

end AdaptiveQuant
