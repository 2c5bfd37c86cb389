import AdaptiveQuant.Research.MetaController

/-! Events that match their snapshot give a training view, and its observations depend on the events
that may be learned from and not on their order. -/

namespace AdaptiveQuant.MetaController

open Guard Sequence List
open ResearchPlane (ExperimentOutcomeEvent ResearchMemorySnapshot)

variable {K : Type}

/-- The events are the ones whose hashes the snapshot includes. -/
structure MatchesSnapshot (snapshot : ResearchMemorySnapshot K)
    (events : List (ExperimentOutcomeEvent K)) : Prop where
  hashes_nodup : (events.map (·.eventHash)).Nodup
  included_nodup : snapshot.statistics.includedEventHashes.Nodup
  same : ∀ hash, hash ∈ events.map (·.eventHash) ↔ hash ∈ snapshot.statistics.includedEventHashes
  available : ∀ event ∈ events, event.outcome.availableAt ≤ snapshot.dataAvailableCutoff

/-- An event that is not left out for its role or its kind. -/
def Learnable (event : ExperimentOutcomeEvent K) : Bool :=
  event.origin.informationRole = .learningForward ∧ event.origin.primaryActionKind ≠ .unknownLegacy

variable {contexts : Dict String ResearchContext} {events : List (ExperimentOutcomeEvent K)}
  {snapshot : ResearchMemorySnapshot K}

section Events

theorem includedEvent_eq_ok {hash : String} {event}
    (h : includedEvent snapshot events hash = .ok event) :
    event ∈ events ∧ event.eventHash = hash := by
  simp only [includedEvent, ok_iff] at h
  obtain ⟨_, hfound, -, rfl⟩ := h
  unfold eventByHash at hfound
  split at hfound
  · rename_i found hfind
    cases hfound
    exact ⟨mem_of_find?_eq_some hfind, by simpa using List.find?_some hfind⟩
  · cases hfound

theorem MatchesSnapshot.includedEvent_ok (h : MatchesSnapshot snapshot events) :
    ∀ hash ∈ snapshot.statistics.includedEventHashes,
      ∃ event, includedEvent snapshot events hash = .ok event := by
  intro hash hincluded
  obtain ⟨event, hevent, heq⟩ := mem_map.mp ((h.same hash).mpr hincluded)
  cases hfound : events.find? (·.eventHash = hash) with
  | none =>
    have hnone := List.find?_eq_none.mp hfound event hevent
    simp only [heq, decide_true, not_true] at hnone
  | some found =>
    have havailable := h.available found (mem_of_find?_eq_some hfound)
    refine ⟨found, ?_⟩
    simp only [includedEvent, eventByHash, hfound, ok_bind, raiseIf_neg _ (not_lt.mpr havailable)]
    rfl

theorem MatchesSnapshot.ordered (h : MatchesSnapshot snapshot events) :
    ∃ ordered, snapshot.statistics.includedEventHashes.mapM (includedEvent snapshot events) =
      .ok ordered ∧ ordered.Perm events := by
  obtain ⟨ordered, hordered, -⟩ := mapM_of_forall h.includedEvent_ok
  have hhashes : ordered.map (·.eventHash) = snapshot.statistics.includedEventHashes := by
    rw [map_of_mapM_eq_ok (k := id) (fun hash event hpass => (includedEvent_eq_ok hpass).2)
      hordered, map_id]
  refine ⟨ordered, hordered, ?_⟩
  refine (perm_ext_iff_of_nodup ((hhashes ▸ h.included_nodup).of_map _)
    (h.hashes_nodup.of_map _)).mpr fun event => ⟨fun hevent => ?_, fun hevent => ?_⟩
  · obtain ⟨hash, -, hpass⟩ := mem_of_mapM_eq_ok hordered event hevent
    exact (includedEvent_eq_ok hpass).1
  · have hincluded := (h.same event.eventHash).mp (mem_map_of_mem hevent)
    rw [← hhashes] at hincluded
    obtain ⟨other, hother, heq⟩ := mem_map.mp hincluded
    obtain ⟨hash, -, hpass⟩ := mem_of_mapM_eq_ok hordered other hother
    exact inj_on_of_nodup_map h.hashes_nodup (includedEvent_eq_ok hpass).1 hevent heq ▸ hother

end Events

theorem observationOf_eq_some {event : ExperimentOutcomeEvent K}
    {observation : MetaControllerObservation K}
    (h : observationOf contexts event = some observation) :
    Learnable event ∧ observation.eventHash = event.eventHash ∧
      observation.availableAt = event.outcome.availableAt := by
  unfold observationOf at h
  split at h
  · cases h
  · rename_i hlearnable
    rw [not_or, not_not] at hlearnable
    split at h
    · cases h
    · cases h
      exact ⟨decide_eq_true hlearnable, rfl, rfl⟩

theorem filterMap_learnable (events : List (ExperimentOutcomeEvent K)) :
    (events.filter Learnable).filterMap (observationOf contexts) =
      events.filterMap (observationOf contexts) := by
  induction events with
  | nil => rfl
  | cons event events ih =>
    by_cases hlearnable : Learnable event
    · rw [filter_cons_of_pos hlearnable, filterMap_cons, filterMap_cons, ih]
    · have hnone : observationOf contexts event = none := by
        cases hobservation : observationOf contexts event with
        | none => rfl
        | some observation => exact absurd (observationOf_eq_some hobservation).1 hlearnable
      rw [filter_cons_of_neg hlearnable, filterMap_cons_none hnone, ih]

theorem hashes_filterMap_sublist (events : List (ExperimentOutcomeEvent K)) :
    ((events.filterMap (observationOf contexts)).map (·.eventHash)).Sublist
      (events.map (·.eventHash)) := by
  induction events with
  | nil => exact List.Sublist.refl _
  | cons event events ih =>
    cases hobservation : observationOf contexts event with
    | none =>
      rw [filterMap_cons_none hobservation]
      exact ih.cons _
    | some observation =>
      rw [filterMap_cons_some hobservation, map_cons, map_cons,
        (observationOf_eq_some hobservation).2.1]
      exact ih.cons_cons _

theorem sortedObservations_eq {other : List (ExperimentOutcomeEvent K)}
    (nodup : (events.map (·.eventHash)).Nodup)
    (learnable : (events.filter Learnable).Perm (other.filter Learnable)) :
    sortedBy observationKey (events.filterMap (observationOf contexts)) =
      sortedBy observationKey (other.filterMap (observationOf contexts)) := by
  have hperm := learnable.filterMap (observationOf contexts)
  rw [filterMap_learnable, filterMap_learnable] at hperm
  refine sortedBy_eq_of_perm observationKey hperm (List.Nodup.of_map (fun key => (ofLex key).2) ?_)
  rw [map_map]
  exact nodup.sublist (hashes_filterMap_sublist events)

structure ViewOf (snapshot : ResearchMemorySnapshot K) (events : List (ExperimentOutcomeEvent K))
    (contexts : Dict String ResearchContext) (view : MetaControllerTrainingView K) : Prop where
  snapshot_hash : view.researchMemorySnapshotHash = snapshot.snapshotHash
  observations : view.observations =
    sortedBy observationKey (events.filterMap (observationOf contexts))
  included : ∀ observation ∈ view.observations,
    observation.eventHash ∈ snapshot.statistics.includedEventHashes

theorem MatchesSnapshot.view_ok [LinearOrder K] (h : MatchesSnapshot snapshot events)
    (digests : PlanDigests K) (contexts : Dict String ResearchContext) :
    ∃ view, buildMetaControllerTrainingView digests snapshot events contexts = .ok view ∧
      ViewOf snapshot events contexts view := by
  obtain ⟨ordered, hordered, hperm⟩ := h.ordered
  have hobservations := @sortedObservations_eq _ contexts _ _ h.hashes_nodup
    (hperm.symm.filter Learnable)
  have hmem {observation : MetaControllerObservation K} (hobservation : observation ∈
      sortedBy observationKey (ordered.filterMap (observationOf contexts))) :
      ∃ event ∈ events, observation.eventHash = event.eventHash ∧
        observation.availableAt = event.outcome.availableAt := by
    obtain ⟨event, hevent, hread⟩ := mem_filterMap.mp ((mem_sortedBy _).mp hobservation)
    exact ⟨event, hperm.mem_iff.mp hevent, (observationOf_eq_some hread).2⟩
  have hsame : events.map (·.eventHash) ⊆ snapshot.statistics.includedEventHashes ∧
      snapshot.statistics.includedEventHashes ⊆ events.map (·.eventHash) :=
    ⟨fun hash => (h.same hash).mp, fun hash => (h.same hash).mpr⟩
  have hnodup : ((sortedBy observationKey (ordered.filterMap (observationOf contexts))).map
      (·.eventHash)).Nodup := by
    refine ((sortedBy_perm _ _).map _).nodup_iff.mpr ?_
    exact ((hperm.map _).nodup_iff.mpr h.hashes_nodup).sublist (hashes_filterMap_sublist ordered)
  have hcutoff : ¬∃ observation ∈ sortedBy observationKey
      (ordered.filterMap (observationOf contexts)),
      snapshot.dataAvailableCutoff < observation.availableAt := by
    rintro ⟨observation, hobservation, hlate⟩
    obtain ⟨event, hevent, -, hat⟩ := hmem hobservation
    exact absurd (h.available event hevent) (not_le.mpr (hat ▸ hlate))
  have hsorted := sortedBy_eq_self observationKey (sortedBy_pairwise observationKey
    (ordered.filterMap (observationOf contexts)))
  have hbuilt : buildMetaControllerTrainingView digests snapshot events contexts = .ok
      ⟨snapshot.snapshotHash, snapshot.dataAvailableCutoff,
        sortedBy observationKey (ordered.filterMap (observationOf contexts)),
        digests.view snapshot.snapshotHash snapshot.dataAvailableCutoff
          (sortedBy observationKey (ordered.filterMap (observationOf contexts)))⟩ := by
    simp only [buildMetaControllerTrainingView, raiseIf_neg _ (not_not.mpr h.hashes_nodup),
      raiseIf_neg _ (not_not.mpr hsame), hordered, ok_bind, MetaControllerTrainingView.check,
      raiseIf_neg _ hcutoff, raiseIf_neg _ (not_not.mpr hsorted),
        raiseIf_neg _ (not_not.mpr hnodup)]
    rw [raiseIf_neg _ (fun hne => hne rfl)]
    rfl
  refine ⟨_, hbuilt, rfl, hobservations.symm, fun observation hobservation => ?_⟩
  obtain ⟨event, hevent, heq, -⟩ := hmem hobservation
  exact heq ▸ (h.same _).mp (mem_map_of_mem hevent)

end AdaptiveQuant.MetaController
