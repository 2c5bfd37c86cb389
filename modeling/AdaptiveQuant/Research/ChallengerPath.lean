import AdaptiveQuant.Lib.Sequence
import AdaptiveQuant.Lib.Trail
import AdaptiveQuant.Research.Challenger

/-! The moves between the statuses of a Challenger, and what they say of its log of events. -/

namespace AdaptiveQuant

open Sequence Trail List

namespace ChallengerStatus

def allowedTransitions : ChallengerStatus → List ChallengerStatus
  | .proposed =>
    [.buildFailed, .testFailed, .replayFailed, .oosRejected, .shadowPending, .rejected]
  | .shadowPending => [.shadowRunning, .rejected, .retired]
  | .shadowRunning => [.promotionEligible, .rejected, .retired]
  | .promotionEligible => [.promoted, .rejected, .retired]
  | .promoted => [.retired]
  | .buildFailed | .testFailed | .replayFailed | .oosRejected | .rejected | .retired => []

def Moves (s t : ChallengerStatus) : Prop := t ∈ s.allowedTransitions

instance (s t : ChallengerStatus) : Decidable (s.Moves t) :=
  inferInstanceAs (Decidable (t ∈ s.allowedTransitions))

def lifecycleGated : List ChallengerStatus :=
  [.testFailed, .replayFailed, .oosRejected, .shadowPending, .shadowRunning, .promotionEligible,
    .promoted]

/-- No transition leaves the status. -/
def Terminal (s : ChallengerStatus) : Prop := s.allowedTransitions = []

instance (s : ChallengerStatus) : Decidable s.Terminal :=
  inferInstanceAs (Decidable (s.allowedTransitions = []))

def rank : ChallengerStatus → ℕ
  | .proposed => 0
  | .shadowPending => 1
  | .shadowRunning => 2
  | .promotionEligible => 3
  | .promoted => 4
  | .buildFailed | .testFailed | .replayFailed | .oosRejected | .rejected | .retired => 5

theorem rank_lt (s t : ChallengerStatus) (h : s.Moves t) : s.rank < t.rank := by
  cases s <;> simp only [Moves, allowedTransitions, mem_cons, not_mem_nil, or_false] at h
  all_goals rcases h with rfl | h <;> first | decide | skip
  all_goals rcases h with rfl | h <;> first | decide | skip
  all_goals rcases h with rfl | h <;> first | decide | skip
  all_goals rcases h with rfl | rfl | rfl <;> decide

def gated : List ChallengerStatus := [.shadowPending, .shadowRunning, .promotionEligible, .promoted]

end ChallengerStatus

open ChallengerStatus

/-- The events are a path from the status. -/
abbrev EventsFollow (s : ChallengerStatus) (events : List ChallengerEvent) : Prop :=
  Follows ChallengerEvent.fromStatus ChallengerEvent.toStatus Moves s events

variable {events : List ChallengerEvent}

theorem exists_shadowPending (h : EventsFollow .proposed events)
    (hgated : final ChallengerEvent.toStatus .proposed events ∈ gated) :
    ∃ event ∈ events, event.toStatus = .shadowPending := by
  cases events with
  | nil => exact absurd hgated (by decide)
  | cons event rest =>
    obtain ⟨-, hmove, hrest⟩ := h
    by_cases hpending : event.toStatus = .shadowPending
    · exact ⟨event, mem_cons_self, hpending⟩
    · -- every other move from the start ends the log
      have hterminal : ∀ t, ¬event.toStatus.Moves t := by
        simp only [Moves, allowedTransitions, mem_cons, not_mem_nil, or_false] at hmove
        rcases hmove with h | h | h | h | h | h <;> simp [h, Moves, allowedTransitions]
        exact absurd h hpending
      have hnil := hrest.eq_nil hterminal
      subst hnil
      simp only [final] at hgated
      simp only [Moves, allowedTransitions, mem_cons, not_mem_nil, or_false] at hmove
      rcases hmove with h | h | h | h | h | h <;> simp [h, gated] at hgated
      exact absurd h hpending

theorem exists_of_final {s t : ChallengerStatus} (hne : s ≠ t)
    (h : final ChallengerEvent.toStatus s events = t) :
    ∃ event ∈ events, event.toStatus = t := by
  induction events using List.reverseRecOn with
  | nil => exact absurd h hne
  | append_singleton rest event =>
    rw [final_concat] at h
    exact ⟨event, mem_append_right _ mem_cons_self, h⟩

end AdaptiveQuant
