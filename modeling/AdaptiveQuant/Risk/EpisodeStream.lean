import AdaptiveQuant.Risk.StateMachine
import AdaptiveQuant.Persistence.CycleFence
import Mathlib.Data.Prod.Lex

/-! What `RiskEpisodeRepository` of `persistence/q1.py` reads back and checks, and what an episode's
event stream is. -/

namespace AdaptiveQuant

open Guard Sequence List

namespace RiskEpisodeRepository

/-- `latest_event`: highest sequence first, then highest identifier. -/
def latestEvent (events : List RiskEpisodeEvent) : Option RiskEpisodeEvent :=
  (sortedBy (fun event => toLex (event.eventSequence, event.riskEpisodeEventId)) events).getLast?

def validateTransition (event : RiskEpisodeEvent) (latest : Option RiskEpisodeEvent) :
    Except Failure Unit :=
  match latest with
  | none =>
    raiseIf (event.eventSequence ≠ 1 ∨ event.eventType ≠ .activate ∨ event.targetGeneration ≠ 1)
      (q1PersistenceConflict "First risk episode event must activate generation 1")
  | some latest => do
    raiseIf (latest.eventType = .release)
      (q1PersistenceConflict "Released risk episode cannot accept events")
    raiseIf (event.eventSequence ≠ latest.eventSequence + 1)
      (q1PersistenceConflict "Risk episode event sequence is not contiguous")
    raiseIf (event.eventType = .escalate ∧ ¬(latest.severity = .hardReduce ∧
        event.severity = .criticalExit ∧ event.targetGeneration = latest.targetGeneration + 1))
      (q1PersistenceConflict "Only HARD_REDUCE to CRITICAL_EXIT escalation is permitted")
    raiseIf (event.eventType ≠ .escalate ∧ event.targetGeneration ≠ latest.targetGeneration)
      (q1PersistenceConflict "Only an escalation may change the target generation")
    raiseIf (event.eventType ≠ .release ∧ event.severity.rank < latest.severity.rank)
      (q1PersistenceConflict "Risk episode cannot silently downgrade")

end RiskEpisodeRepository

inductive StreamState.Advances (acc : StreamState) (event : RiskEpisodeEvent) : StreamState → Prop
  | escalate (live : acc.released = false) (kind : event.eventType = .escalate)
      (hard : acc.severity = .hardReduce) (critical : event.severity = .criticalExit)
      (generation : event.targetGeneration = acc.generation + 1) :
      Advances acc event ⟨false, .criticalExit, acc.generation + 1⟩
  | progress (live : acc.released = false)
      (kind : event.eventType = .targetProgress ∨ event.eventType = .targetReached)
      (severity : event.severity = acc.severity)
      (generation : event.targetGeneration = acc.generation) : Advances acc event acc
  | release (live : acc.released = false) (kind : event.eventType = .release)
      (severity : event.severity = acc.severity)
      (generation : event.targetGeneration = acc.generation) :
      Advances acc event { acc with released := true }

structure NamedFor (hash : Hashing) (episode : RiskEpisode) (event : RiskEpisodeEvent) :
    Prop where
  owned : event.riskEpisodeId = episode.riskEpisodeId
  id : ∃ request generation occurredAt sourceCycleId, event.riskEpisodeEventId =
    hash.stableId "q1-risk-episode-event" [.dict (episodeEventIdentity episode request
      event.eventSequence generation occurredAt sourceCycleId)]
  key : event.idempotencyKey =
    hash.stableId "q1-risk-event-idem" [.str event.riskEpisodeEventId]

/-- The event streams that the planner can give an episode, each with the state it leaves. -/
inductive EpisodeStream (hash : Hashing) (episode : RiskEpisode) :
    List RiskEpisodeEvent → StreamState → Prop
  | activated {event : RiskEpisodeEvent} (named : NamedFor hash episode event)
      (kind : event.eventType = .activate) (first : event.eventSequence = 1)
      (generation : event.targetGeneration = 1) (severity : event.severity = episode.severity) :
      EpisodeStream hash episode [event] (.start episode)
  | next {events : List RiskEpisodeEvent} {event : RiskEpisodeEvent} {acc acc' : StreamState}
      (stream : EpisodeStream hash episode events acc) (named : NamedFor hash episode event)
      (number : event.eventSequence = events.length + 1) (advances : acc.Advances event acc') :
      EpisodeStream hash episode (events ++ [event]) acc'

namespace StreamState.Advances

variable {acc acc' : StreamState} {event : RiskEpisodeEvent}

section

variable (h : acc.Advances event acc')

include h

theorem live : acc.released = false := by
  cases h <;> assumption

theorem severity_eq : event.severity = acc'.severity := by
  cases h with
  | escalate _ _ _ critical _ => exact critical
  | progress _ _ severity _ => exact severity
  | release _ _ severity _ => exact severity

theorem generation_eq : event.targetGeneration = acc'.generation := by
  cases h with
  | escalate _ _ _ _ generation => exact generation
  | progress _ _ _ generation => exact generation
  | release _ _ _ generation => exact generation

theorem released_iff :
    acc'.released = true ↔ event.eventType = .release := by
  cases h with
  | escalate _ kind _ _ _ => simp [kind]
  | progress live kind _ _ => rcases kind with kind | kind <;> simp [kind, live]
  | release _ kind _ _ => simp [kind]

theorem rank_le : acc.severity.rank ≤ acc'.severity.rank := by
  cases h with
  | escalate _ _ hard _ _ => simp [hard, RiskSeverity.rank]
  | progress => exact le_rfl
  | release => exact le_rfl

theorem generation_step :
    acc'.generation = if event.eventType =
      .escalate then acc.generation + 1 else acc.generation := by
  cases h with
  | escalate _ kind _ _ _ => simp [kind]
  | progress _ kind _ _ => rcases kind with kind | kind <;> simp [kind]
  | release _ kind _ _ => simp [kind]

theorem validateEpisodeEvent_eq :
    validateEpisodeEvent acc event = .ok acc' := by
  have hrank := h.rank_le
  rw [← h.severity_eq] at hrank
  unfold validateEpisodeEvent
  rw [raiseIf_neg _ (by simp [h.live]), ok_bind, raiseIf_neg _ (not_lt.mpr hrank), ok_bind]
  cases h with
  | escalate live kind hard critical generation =>
    simp [kind, hard, critical, generation, live, raiseIf, pure, Except.pure]
  | progress live kind severity generation =>
    rcases kind with kind | kind <;> simp [kind, generation, raiseIf, pure, Except.pure]
  | release live kind severity generation =>
    simp [kind, generation, raiseIf, pure, Except.pure]

end

end StreamState.Advances

namespace EpisodeStream

variable {hash : Hashing} {episode : RiskEpisode} {events : List RiskEpisodeEvent}
  {acc : StreamState}

section

variable (h : EpisodeStream hash episode events acc)

include h

theorem numbered :
    Numbered (·.eventSequence) events := by
  induction h with
  | activated _ _ first _ _ => simp [Numbered, first]
  | next _ _ number _ ih => exact numbered_concat.mpr ⟨ih, number⟩

theorem named :
    ∀ event ∈ events, NamedFor hash episode event := by
  induction h with
  | activated named => simpa using named
  | next _ named _ _ ih =>
    intro event hevent
    rcases mem_append.mp hevent with hevent | hevent
    · exact ih event hevent
    · rw [mem_singleton.mp hevent]
      exact named

theorem nonempty : events ≠ [] := by
  cases h <;> simp

theorem last :
    ∃ latest, events.getLast? = some latest ∧ latest.severity = acc.severity ∧
      latest.targetGeneration = acc.generation ∧
      (acc.released = true ↔ latest.eventType = .release) := by
  cases h with
  | activated _ kind _ generation severity =>
    exact ⟨_, rfl, severity, generation, by simp [StreamState.start, kind]⟩
  | next _ _ _ advances =>
    exact ⟨_, List.getLast?_concat, advances.severity_eq, advances.generation_eq,
      advances.released_iff⟩

theorem folded :
    events.foldlM validateEpisodeEvent (.start episode) = .ok acc := by
  induction h with
  | @activated event _ kind first generation severity =>
    simp only [foldlM_cons, foldlM_nil, bind_pure]
    simp [validateEpisodeEvent, raiseIf, kind, first, generation, severity, StreamState.start, pure,
      Except.pure]
  | next _ _ _ advances ih =>
    exact foldlM_concat_eq_ok.mpr ⟨_, ih, advances.validateEpisodeEvent_eq⟩

end

theorem identity_sequence_inj {request request' : EpisodeEventRequest}
    {sequence sequence' generation generation' : ℕ} {at_ at_' : Instant}
    {cycle cycle' : Option String}
    (h : Canonical.dict (episodeEventIdentity episode request sequence generation at_ cycle) =
      Canonical.dict (episodeEventIdentity episode request' sequence' generation' at_' cycle')) :
    sequence = sequence' := by
  simp only [episodeEventIdentity, Canonical.dict, Canonical.entry.injEq, true_and,
    Canonical.int.injEq, Nat.cast_inj] at h
  exact h.2.1

theorem eventIds_nodup (hash_ok : hash.NoCollision) (h : EpisodeStream hash episode events acc) :
    (events.map (·.riskEpisodeEventId)).Nodup := by
  refine (pairwise_map).mpr (h.numbered.pairwise.imp_of_mem fun {a b} ha hb hlt heq => ?_)
  obtain ⟨ra, ga, oa, ca, hida⟩ := (h.named a ha).id
  obtain ⟨rb, gb, ob, cb, hidb⟩ := (h.named b hb).id
  rw [hida, hidb] at heq
  have hparts := hash_ok _ _ _ heq
  rw [List.cons.injEq] at hparts
  exact absurd (identity_sequence_inj hparts.1) (ne_of_lt hlt)

theorem keys_nodup (hash_ok : hash.NoCollision) (h : EpisodeStream hash episode events acc) :
    (events.map (·.idempotencyKey)).Nodup := by
  have hids := pairwise_map.mp (h.eventIds_nodup hash_ok)
  refine pairwise_map.mpr (hids.imp_of_mem fun {a b} ha hb hne heq => hne ?_)
  rw [(h.named a ha).key, (h.named b hb).key] at heq
  simpa using hash_ok _ _ _ heq

theorem sorted (h : EpisodeStream hash episode events acc) :
    sortedBy (·.eventSequence) events = events := h.numbered.sortedBy_eq

theorem validated (hash_ok : hash.NoCollision) (h : EpisodeStream hash episode events acc) :
    validateEpisodeEventStream episode events = .ok () := by
  simp only [validateEpisodeEventStream, bind_eq_ok, raiseIf_eq_ok, h.sorted, pure_eq_ok]
  refine ⟨(), ?_, (), ?_, (), not_not.mpr h.numbered, acc, h.folded, trivial⟩
  · simpa using fun e he => (h.named e he).owned
  · simp [h.eventIds_nodup hash_ok, h.keys_nodup hash_ok]

section

variable (h : EpisodeStream hash episode events acc)

include h

theorem episodeSeverity_eq :
    episodeSeverity episode events = if acc.released then .normal else acc.severity := by
  have hfold : events.foldl readSeverity (episode.severity, false) =
      (acc.severity, acc.released) := by
    induction h with
    | activated _ kind _ _ _ => simp [readSeverity, kind, StreamState.start]
    | next _ _ _ advances ih =>
      rw [foldl_concat, ih]
      cases advances with
      | escalate live kind hard critical _ =>
        simp [readSeverity, kind, hard, critical, live, RiskSeverity.worst, RiskSeverity.rank]
      | progress _ kind _ _ => rcases kind with kind | kind <;> simp [readSeverity, kind]
      | release _ kind _ _ => simp [readSeverity, kind]
  unfold episodeSeverity
  rw [h.sorted, hfold]

theorem episodeTargetGeneration_eq :
    episodeTargetGeneration events = acc.generation := by
  obtain ⟨latest, hlast, -, hgen, -⟩ := h.last
  obtain ⟨front, rfl⟩ := List.getLast?_eq_some_iff.mp hlast
  unfold episodeTargetGeneration
  rw [h.sorted, foldl_concat, hgen]

theorem latestEvent_eq :
    RiskEpisodeRepository.latestEvent events = events.getLast? := by
  have hsorted : events.Pairwise fun a b => toLex (a.eventSequence, a.riskEpisodeEventId) ≤
      toLex (b.eventSequence, b.riskEpisodeEventId) :=
    h.numbered.pairwise.imp fun hlt => Prod.Lex.toLex_le_toLex.mpr (.inl hlt)
  unfold RiskEpisodeRepository.latestEvent
  rw [sortedBy_eq_self _ hsorted]

theorem validateTransition_next {event : RiskEpisodeEvent} {acc' : StreamState}
    (number : event.eventSequence = events.length + 1) (advances : acc.Advances event acc') :
    RiskEpisodeRepository.validateTransition event (RiskEpisodeRepository.latestEvent events) =
      .ok () := by
  obtain ⟨latest, hlast, hsev, hgen, hrel⟩ := h.last
  have hnum : latest.eventSequence = events.length := by
    obtain ⟨front, rfl⟩ := List.getLast?_eq_some_iff.mp hlast
    have := (numbered_concat.mp h.numbered).2
    simpa using this
  have hlive : latest.eventType ≠ .release := by
    intro hkind
    have := hrel.mpr hkind
    simp [advances.live] at this
  have hrank := advances.rank_le
  rw [← advances.severity_eq, ← hsev] at hrank
  have hgenstep := advances.generation_step
  rw [← advances.generation_eq, ← hgen] at hgenstep
  rw [h.latestEvent_eq, hlast]
  simp only [RiskEpisodeRepository.validateTransition, bind_eq_ok, raiseIf_eq_ok]
  refine ⟨(), hlive, (), by rw [number, hnum]; simp, (), ?_, (), ?_, ?_⟩
  · rintro ⟨hkind, hbad⟩
    rw [if_pos hkind] at hgenstep
    cases advances with
    | escalate _ _ hard critical _ => exact hbad ⟨hsev.trans hard, critical, hgenstep⟩
    | progress _ kind _ _ => rcases kind with kind | kind <;> simp [kind] at hkind
    | release _ kind _ _ => simp [kind] at hkind
  · rintro ⟨hkind, hbad⟩
    rw [if_neg hkind] at hgenstep
    exact hbad hgenstep
  · rintro ⟨-, hdown⟩
    exact absurd hrank (not_le.mpr hdown)

theorem not_release (live : acc.released = false) :
    ∀ event ∈ events, event.eventType ≠ .release := by
  induction h with
  | activated _ kind _ _ _ => simp [kind]
  | next _ _ _ advances ih =>
    intro event hevent
    rcases mem_append.mp hevent with hevent | hevent
    · exact ih advances.live event hevent
    · rw [mem_singleton.mp hevent]
      intro hkind
      simp [advances.released_iff.mpr hkind] at live

end

/-- What the episode events must satisfy, each time one is added. -/
structure Lawful (episode : RiskEpisode) (events : List RiskEpisodeEvent) : Prop where
  accepted : ∀ pre post, events = pre ++ post → validateEpisodeEventStream episode pre = .ok ()
  stored : ∀ pre event post, events = pre ++ event :: post →
    RiskEpisodeRepository.validateTransition event (RiskEpisodeRepository.latestEvent pre) = .ok ()
  severity : events.Pairwise fun a b => a.severity.rank ≤ b.severity.rank
  releaseLast : ∀ event ∈ events.dropLast, event.eventType ≠ .release
  generation : events.IsChain fun a b => b.targetGeneration =
    if b.eventType = .escalate then a.targetGeneration + 1 else a.targetGeneration

theorem rank_le_last (h : EpisodeStream hash episode events acc) :
    ∀ event ∈ events, event.severity.rank ≤ acc.severity.rank := by
  induction h with
  | activated _ _ _ _ severity => simp [severity, StreamState.start]
  | next _ _ _ advances ih =>
    intro event hevent
    rcases mem_append.mp hevent with hevent | hevent
    · exact (ih event hevent).trans advances.rank_le
    · rw [mem_singleton.mp hevent, advances.severity_eq]

theorem lawful (hash_ok : hash.NoCollision) (h : EpisodeStream hash episode events acc) :
    Lawful episode events := by
  induction h with
  | @activated event named kind first generation severity =>
    have hstream : EpisodeStream hash episode [event] (.start episode) :=
      .activated named kind first generation severity
    refine ⟨fun pre post hsplit => ?_, fun pre other post hsplit => ?_, by simp, by simp, by simp⟩
    · rcases pre with _ | ⟨other, pre⟩
      · rfl
      · simp only [cons_append, List.cons.injEq, nil_eq, append_eq_nil_iff] at hsplit
        obtain ⟨rfl, rfl, -⟩ := hsplit
        exact hstream.validated hash_ok
    · rcases pre with _ | ⟨head, pre⟩
      · simp only [nil_append, List.cons.injEq] at hsplit
        obtain ⟨rfl, -⟩ := hsplit
        exact raiseIf_neg _ (by simp [kind, first, generation])
      · simp at hsplit
  | @next events event acc acc' stream named number advances ih =>
    have hstream : EpisodeStream hash episode (events ++ [event]) acc' :=
      .next stream named number advances
    obtain ⟨latest, hlast, hsev, hgen, hrel⟩ := stream.last
    refine ⟨fun pre post hsplit => ?_, fun pre other post hsplit => ?_, ?_, ?_, ?_⟩
    · rcases eq_nil_or_concat' post with rfl | ⟨post, last, rfl⟩
      · rw [append_nil] at hsplit
        exact hsplit ▸ hstream.validated hash_ok
      · rw [← append_assoc] at hsplit
        exact ih.accepted pre post (append_inj' hsplit rfl).1
    · rcases eq_nil_or_concat' post with rfl | ⟨post, last, rfl⟩
      · obtain ⟨rfl, hevent⟩ := append_inj' hsplit rfl
        obtain rfl : event = other := by simpa using hevent
        exact stream.validateTransition_next number advances
      · rw [← cons_append, ← append_assoc] at hsplit
        exact ih.stored pre other post (append_inj' hsplit rfl).1
    · refine pairwise_append.mpr ⟨ih.severity, by simp, fun a ha b hb => ?_⟩
      rw [mem_singleton.mp hb, advances.severity_eq]
      exact (stream.rank_le_last a ha).trans advances.rank_le
    · rw [dropLast_concat]
      intro other hother
      obtain ⟨front, hfront⟩ := List.getLast?_eq_some_iff.mp hlast
      rw [hfront] at hother
      rcases mem_append.mp hother with hother | hother
      · exact ih.releaseLast other (by rw [hfront, dropLast_concat]; exact hother)
      · rw [mem_singleton.mp hother]
        intro hkind
        have := hrel.mpr hkind
        simp [advances.live] at this
    · rw [isChain_append]
      refine ⟨ih.generation, by simp, fun a ha b hb => ?_⟩
      obtain rfl : latest = a := by simpa [hlast] using ha
      obtain rfl : event = b := by simpa using hb
      rw [hgen, advances.generation_eq]
      exact advances.generation_step

end EpisodeStream

end AdaptiveQuant
