import AdaptiveQuant.Research.DuePlans
import Mathlib.Data.Finset.Card

/-! Batches of evidence: new contents, each once, in the order of their capture. -/

namespace AdaptiveQuant

open Sequence List

def unconsumed (evidence : List ResearchEvidenceMarker) (asOf : Instant) (consumed : List String) :
    Finset String :=
  ((evidence.filter (·.isNew asOf consumed)).map (·.contentHash)).toFinset

theorem evidenceKey_injective : Function.Injective evidenceKey := by
  rintro ⟨source, content, available, captured, _⟩ ⟨source', content', available', captured', _⟩ h
  simp only [evidenceKey, EmbeddingLike.apply_eq_iff_eq, Prod.mk.injEq] at h
  obtain ⟨rfl, rfl, rfl, rfl⟩ := h
  rfl

section Ordered

variable {evidence : List ResearchEvidenceMarker} {asOf : Instant} {consumed : List String}

def newEvidence (evidence : List ResearchEvidenceMarker) (asOf : Instant) (consumed : List String) :
    List ResearchEvidenceMarker :=
  (sortedBy evidenceKey evidence).filter (·.isNew asOf consumed)

theorem orderedEvidence_eq :
    orderedEvidence evidence asOf consumed =
      Selection.firsts (·.contentHash) (newEvidence evidence asOf consumed) :=
  Selection.values_foldl_setdefault (fun marker : ResearchEvidenceMarker => marker.contentHash) _

theorem orderedEvidence_perm {evidence'} (h : evidence.Perm evidence') :
    orderedEvidence evidence asOf consumed = orderedEvidence evidence' asOf consumed := by
  rw [orderedEvidence, orderedEvidence,
    sortedBy_eq_of_perm_of_injective evidenceKey h evidenceKey_injective]

theorem nodup_orderedEvidence :
    ((orderedEvidence evidence asOf consumed).map (·.contentHash)).Nodup := by
  rw [orderedEvidence_eq]
  exact Selection.nodup_firsts _ _

theorem mem_of_mem_orderedEvidence {marker} (h : marker ∈ orderedEvidence evidence asOf consumed) :
    marker ∈ evidence ∧ marker.isNew asOf consumed := by
  rw [orderedEvidence_eq] at h
  have hmem := Selection.firsts_subset _ _ h
  rw [newEvidence, mem_filter, mem_sortedBy, decide_eq_true_eq] at hmem
  exact hmem

theorem mem_unconsumed {content : String} :
    content ∈ unconsumed evidence asOf consumed ↔
      content ∈ (orderedEvidence evidence asOf consumed).map (·.contentHash) := by
  rw [orderedEvidence_eq, Selection.mem_keys_firsts, unconsumed, mem_toFinset, newEvidence]
  simp only [mem_map, mem_filter, mem_sortedBy]

variable {size : ℕ} {batch other : List ResearchEvidenceMarker}

def contents (batch : List ResearchEvidenceMarker) : List String :=
  sortedBy id (batch.map (·.contentHash))

theorem mem_contents {content : String} :
    content ∈ contents batch ↔ ∃ marker ∈ batch, marker.contentHash = content := by
  rw [contents, mem_sortedBy, mem_map]

section

variable (h : batch ∈ Selection.batches size (orderedEvidence evidence asOf consumed))

include h

theorem contents_batch :
    (contents batch).length = size ∧ (contents batch).Nodup := by
  constructor
  · rw [contents, length_sortedBy, length_map, Selection.length_of_mem_batches size h]
  · rw [contents, (sortedBy_perm id _).nodup_iff]
    obtain ⟨k, -, rfl⟩ := (Selection.mem_batches size).mp h
    exact nodup_orderedEvidence.sublist
      (((take_sublist _ _).trans (drop_sublist _ _)).map _)

theorem not_consumed_of_batch {content : String}
    (hcontent : content ∈ contents batch) : content ∉ consumed := by
  obtain ⟨marker, hmarker, rfl⟩ := mem_contents.mp hcontent
  exact (mem_of_mem_orderedEvidence (Selection.subset_of_mem_batches size h hmarker)).2.2.2

theorem batch_eq_of_content
    (h' : other ∈ Selection.batches size (orderedEvidence evidence asOf consumed))
    {content : String}
    (hcontent : content ∈ contents batch) (hcontent' : content ∈ contents other) :
    batch = other := by
  obtain ⟨marker, hmarker, hhash⟩ := mem_contents.mp hcontent
  obtain ⟨marker', hmarker', hhash'⟩ := mem_contents.mp hcontent'
  exact Selection.batches_disjoint size nodup_orderedEvidence h h' hmarker hmarker'
    (hhash.trans hhash'.symm)

end

theorem card_unconsumed_lt (positive : 0 < size) {more : List String}
    (covers : ∀ batch ∈ Selection.batches size (orderedEvidence evidence asOf consumed),
      contents batch ⊆ more) :
    (unconsumed evidence asOf (consumed ++ more)).card < size := by
  have hleft := Selection.length_drop_batches_lt size (orderedEvidence evidence asOf consumed)
    positive
  have hsub : unconsumed evidence asOf (consumed ++ more) ⊆
      (((orderedEvidence evidence asOf consumed).drop
        ((orderedEvidence evidence asOf consumed).length / size * size)).map
          (·.contentHash)).toFinset := by
    intro content hcontent
    rw [unconsumed, mem_toFinset, mem_map] at hcontent
    obtain ⟨marker, hmarker, rfl⟩ := hcontent
    obtain ⟨hmem, hnew⟩ := mem_filter.mp hmarker
    obtain ⟨hcaptured, havailable, hfresh⟩ := of_decide_eq_true hnew
    rw [mem_append, not_or] at hfresh
    have hordered : marker.contentHash ∈
        (orderedEvidence evidence asOf consumed).map (·.contentHash) := by
      rw [← mem_unconsumed, unconsumed, mem_toFinset]
      refine mem_map_of_mem (mem_filter.mpr ⟨hmem, ?_⟩)
      exact decide_eq_true ⟨hcaptured, havailable, hfresh.1⟩
    obtain ⟨first, hfirst, hhash⟩ := mem_map.mp hordered
    rw [← take_append_drop
      ((orderedEvidence evidence asOf consumed).length / size * size)
      (orderedEvidence evidence asOf consumed), ← Selection.flatten_batches,
      mem_append] at hfirst
    rcases hfirst with hfirst | hfirst
    · obtain ⟨batch, hbatch, hin⟩ := mem_flatten.mp hfirst
      have := covers batch hbatch (mem_contents.mpr ⟨first, hin, hhash⟩)
      exact (hfresh.2 this).elim
    · rw [mem_toFinset, ← hhash]
      exact mem_map_of_mem hfirst
  calc (unconsumed evidence asOf (consumed ++ more)).card
      ≤ _ := Finset.card_le_card hsub
    _ ≤ _ := toFinset_card_le _
    _ < size := by rwa [length_map]

theorem batch_of_filter (positive : 0 < size) {cutoff : Instant}
    (h : batch ∈ Selection.batches size (orderedEvidence evidence asOf consumed))
    (within : ∀ marker ∈ batch, marker.capturedAt ≤ cutoff) :
    batch ∈ Selection.batches size
      (orderedEvidence (evidence.filter (·.capturedAt ≤ cutoff)) asOf consumed) := by
  have hrestricted : newEvidence (evidence.filter (·.capturedAt ≤ cutoff)) asOf consumed =
      (newEvidence evidence asOf consumed).filter (·.capturedAt ≤ cutoff) := by
    rw [newEvidence, newEvidence, sortedBy_filter evidenceKey evidenceKey_injective,
      filter_comm]
  have hsorted : (newEvidence evidence asOf consumed).Pairwise
      fun a b => a.capturedAt ≤ b.capturedAt := by
    refine ((sortedBy_pairwise evidenceKey evidence).sublist filter_sublist).imp ?_
    intro a b hle
    rcases Prod.Lex.le_iff.mp hle with hlt | ⟨heq, -⟩
    · exact hlt.le
    · exact heq.le
  have hsplit := filter_le_append_filter_lt ResearchEvidenceMarker.capturedAt hsorted cutoff
  obtain ⟨added, hadded, hlate⟩ := Selection.firsts_append ResearchEvidenceMarker.contentHash
    ((newEvidence evidence asOf consumed).filter (·.capturedAt ≤ cutoff))
    ((newEvidence evidence asOf consumed).filter (cutoff < ·.capturedAt))
  rw [hsplit, ← orderedEvidence_eq] at hadded
  rw [hadded] at h
  rw [orderedEvidence_eq, hrestricted]
  refine Selection.mem_batches_of_append size positive h fun marker hmarker hin => ?_
  have hafter := of_decide_eq_true (mem_filter.mp (hlate hin)).2
  exact absurd (within marker hmarker) (not_le.mpr hafter)

end Ordered

end AdaptiveQuant
