import AdaptiveQuant.Persistence.OutcomeLedger

/-! What the research memory is built from. -/

namespace AdaptiveQuant.ResearchPlane

open Guard Sequence List

variable {R : Type}

variable {events' : List (ExperimentOutcomeEvent R)}

theorem recordedBy_perm {events} (h : events'.Perm events) (asOf : Instant) :
    (recordedBy asOf events').Perm (recordedBy asOf events) := h.filter _

theorem recordedBy_recordedBy (asOf : Instant) (events : List (ExperimentOutcomeEvent R)) :
    recordedBy asOf (recordedBy asOf events) = recordedBy asOf events := by
  simp [recordedBy, filter_filter]

theorem supersededIds_recordedBy (asOf cutoff : Instant)
    (events : List (ExperimentOutcomeEvent R)) :
    supersededIds asOf cutoff (recordedBy asOf events) = supersededIds asOf cutoff events := by
  rw [supersededIds, supersededIds, recordedBy_recordedBy]

theorem includedEvents_recordedBy (asOf cutoff : Instant)
    (events : List (ExperimentOutcomeEvent R)) :
    includedEvents asOf cutoff (recordedBy asOf events) = includedEvents asOf cutoff events := by
  rw [includedEvents, includedEvents, supersededIds_recordedBy, recordedBy_recordedBy]

variable {asOf cutoff : Instant}

theorem mem_supersededIds {events : List (ExperimentOutcomeEvent R)}
    {id : String} : id ∈ supersededIds asOf cutoff events ↔ ∃ e ∈ events,
      e.outcome.createdAt ≤ asOf ∧ e.outcome.availableAt ≤ cutoff ∧
        e.outcome.supersedesEventId = some id := by
  simp only [supersededIds, recordedBy, mem_filterMap, mem_filter, decide_eq_true_eq]
  grind

variable {e : ExperimentOutcomeEvent R}

theorem memoryClass_congr {superseded superseded'}
    (h : e.eventId ∈ superseded' ↔ e.eventId ∈ superseded) :
    memoryClass cutoff superseded' e = memoryClass cutoff superseded e := by
  simp only [memoryClass, h]

theorem memoryClass_perm {events : List (ExperimentOutcomeEvent R)}
    (h : events'.Perm events) (asOf cutoff : Instant) :
    memoryClass cutoff (supersededIds asOf cutoff events') =
      memoryClass (R := R) cutoff (supersededIds asOf cutoff events) := by
  funext e
  refine memoryClass_congr ?_
  simp only [mem_supersededIds, h.mem_iff]

theorem memoryClass_included {superseded}
    : memoryClass cutoff superseded e = .included ↔
      e.outcome.availableAt ≤ cutoff ∧ e.origin.informationRole ≠ .promotionOos ∧
        e.origin.informationRole ≠ .metaAudit ∧
        e.outcome.maturityStatus = .matured ∧ e.eventId ∉ superseded := by
  unfold memoryClass
  cases hstatus : e.outcome.maturityStatus <;> split_ifs <;> simp_all

theorem mem_includedEvents {events}
    : e ∈ includedEvents asOf cutoff events ↔
      e ∈ events ∧ e.outcome.createdAt ≤ asOf ∧
        memoryClass cutoff (supersededIds asOf cutoff events) e = .included := by
  rw [includedEvents, mem_sortedBy, mem_filter, recordedBy, mem_filter,
    decide_eq_true_eq, decide_eq_true_eq, and_assoc]

theorem includedEvents_perm {events} (h : events'.Perm events)
    (nodup : (events.map (·.eventId)).Nodup) (asOf cutoff : Instant) :
    includedEvents asOf cutoff events' = includedEvents asOf cutoff events := by
  rw [includedEvents, includedEvents, memoryClass_perm h]
  have hperm : ((recordedBy asOf events').filter fun e =>
      memoryClass cutoff (supersededIds asOf cutoff events) e = .included).Perm
      ((recordedBy asOf events).filter fun e =>
        memoryClass cutoff (supersededIds asOf cutoff events) e = .included) :=
    (recordedBy_perm h asOf).filter _
  refine sortedBy_eq_of_perm memoryKey hperm ?_
  have hids : (((recordedBy asOf events').filter fun e =>
      memoryClass cutoff (supersededIds asOf cutoff events) e = .included).map
        (·.eventId)).Nodup :=
    ((h.map _).nodup_iff.mpr nodup).sublist
      ((filter_sublist.trans filter_sublist).map _)
  refine pairwise_map.mpr ((pairwise_map.mp hids).imp fun {a b} hne heq => hne ?_)
  simp only [memoryKey, EmbeddingLike.apply_eq_iff_eq, Prod.mk.injEq] at heq
  exact heq.2.2.2

variable [OutcomeNumber R] {hash : Hashing}

theorem memorySnapshot_perm {events} (h : events'.Perm events)
    (nodup : (events.map (·.eventId)).Nodup) (asOf cutoff createdAt : Instant) :
    memorySnapshot hash events' asOf cutoff createdAt =
      memorySnapshot hash events asOf cutoff createdAt := by
  have hcount : ∀ branch, memoryCount asOf cutoff events' branch =
      memoryCount asOf cutoff events branch := fun branch => by
    rw [memoryCount, memoryCount, memoryClass_perm h]
    exact (recordedBy_perm h asOf).countP_eq _
  simp only [memorySnapshot, includedEvents_perm h nodup, hcount]

theorem memorySnapshot_recordedBy (events : List (ExperimentOutcomeEvent R))
    (asOf cutoff createdAt : Instant) :
    memorySnapshot hash (recordedBy asOf events) asOf cutoff createdAt =
      memorySnapshot hash events asOf cutoff createdAt := by
  simp only [memorySnapshot, memoryCount, includedEvents_recordedBy, supersededIds_recordedBy,
    recordedBy_recordedBy]

def memoryChecks (statistics : MemoryStatistics R) (asOf cutoff createdAt : Instant) :
    Except Failure Unit := do
  raiseIf (cutoff > asOf) (valueError "memory data cutoff cannot exceed as_of")
  statistics.recentFailureClusters.forM checkFailureCluster
  raiseIf (cutoff > asOf)
    (.record "ResearchMemorySnapshotV1" "memory data cutoff cannot exceed as_of")
  raiseIf (createdAt < asOf)
    (.record "ResearchMemorySnapshotV1" "memory snapshot cannot be created before as_of")
  requireHashSequence "ResearchMemorySnapshotV1" statistics.includedEventHashes

theorem buildResearchMemorySnapshot_eq (events : List (ExperimentOutcomeEvent R))
    (asOf cutoff createdAt : Instant) :
    buildResearchMemorySnapshot hash events asOf cutoff createdAt =
      memoryChecks (memoryStatistics (includedEvents asOf cutoff events)) asOf cutoff createdAt >>=
        fun _ => .ok (memorySnapshot hash events asOf cutoff createdAt) := by
  have hdigest : hash.canonicalHash (memorySnapshot hash events asOf cutoff createdAt).data =
      (memorySnapshot hash events asOf cutoff createdAt).snapshotHash := rfl
  simp only [buildResearchMemorySnapshot, memoryChecks, validateSnapshot, hdigest, ne_eq,
    not_true_eq_false, raiseIf_neg _ not_false, bind_assoc]
  rfl

theorem build_statistics_congr {events}
    (h : includedEvents asOf cutoff events' = includedEvents asOf cutoff events)
    (createdAt : Instant) :
    (buildResearchMemorySnapshot hash events' asOf cutoff createdAt).map (·.statistics) =
      (buildResearchMemorySnapshot hash events asOf cutoff createdAt).map (·.statistics) := by
  have hstatistics : (memorySnapshot hash events' asOf cutoff createdAt).statistics =
      (memorySnapshot hash events asOf cutoff createdAt).statistics := by
    show memoryStatistics _ = memoryStatistics _
    rw [h]
  rw [buildResearchMemorySnapshot_eq, buildResearchMemorySnapshot_eq, h]
  cases memoryChecks (memoryStatistics (includedEvents asOf cutoff events)) asOf cutoff
    createdAt with
  | error e => rfl
  | ok u => exact congrArg Except.ok hstatistics

def OutcomeStore.stored (s : OutcomeStore R) : List (ExperimentOutcomeEvent R) :=
  s.events.map (·.payload)

def OutcomeStore.visible (s : OutcomeStore R) (x : String) (asOf cutoff : Instant) :
    List (ExperimentOutcomeEvent R) :=
  (s.chain x).filter fun e => e.outcome.createdAt ≤ asOf ∧ e.outcome.availableAt ≤ cutoff

section Ledger

variable {s : OutcomeStore R} (inv : LedgerInv hash s)
include inv

theorem LedgerInv.row_eq {row} (h : row ∈ s.events) :
    row.eventId = row.payload.eventId ∧ row.eventHash = row.payload.eventHash ∧
      row.experimentId = row.payload.experimentId := by
  obtain ⟨action, -, hof⟩ := inv.events row h
  refine ⟨?_, ?_, ?_⟩ <;> (conv_lhs => rw [hof.built]) <;> rfl

theorem LedgerInv.stored_ids : (s.stored.map (·.eventId)).Nodup := by
  have hmap : s.stored.map (·.eventId) = s.events.map (·.eventId) := by
    rw [OutcomeStore.stored, map_map]
    exact map_congr_left fun row hrow => (inv.row_eq hrow).1.symm
  rw [hmap]
  exact inv.ids

theorem LedgerInv.stored_hashes : (s.stored.map (·.eventHash)).Nodup := by
  have hmap : s.stored.map (·.eventHash) = s.events.map (·.eventHash) := by
    rw [OutcomeStore.stored, map_map]
    exact map_congr_left fun row hrow => (inv.row_eq hrow).2.1.symm
  rw [hmap]
  exact inv.hashes

variable {e : ExperimentOutcomeEvent R} {x : String}

theorem LedgerInv.mem_chain : e ∈ s.chain x ↔ e ∈ s.stored ∧ e.experimentId = x := by
  simp only [OutcomeStore.chain, chainOf, OutcomeStore.stored, mem_map, mem_filter,
    decide_eq_true_eq]
  constructor
  · rintro ⟨row, ⟨hrow, hx⟩, rfl⟩
    exact ⟨⟨row, hrow, rfl⟩, (inv.row_eq hrow).2.2.symm.trans hx⟩
  · rintro ⟨⟨row, hrow, rfl⟩, hx⟩
    exact ⟨row, ⟨hrow, (inv.row_eq hrow).2.2.trans hx⟩, rfl⟩

theorem LedgerInv.role {e'} (he : e ∈ s.stored) (he' : e' ∈ s.stored)
    (hx : e'.experimentId = e.experimentId) :
    e'.origin.informationRole = e.origin.informationRole := by
  obtain ⟨row, hrow, rfl⟩ := mem_map.mp he
  obtain ⟨row', hrow', rfl⟩ := mem_map.mp he'
  rw [← (inv.row_eq hrow).2.2, ← (inv.row_eq hrow').2.2] at hx
  obtain ⟨action, haction, hof⟩ := inv.events row hrow
  have hof' := inv.eventOf haction hrow' hx
  rw [hof.origin, hof'.origin]

theorem LedgerInv.replaced {target} (he : e ∈ s.stored) (htarget : target ∈ s.stored)
    (h : e.outcome.supersedesEventId = some target.eventId) :
    e.experimentId = target.experimentId := by
  have hchain := inv.chains e.experimentId
  obtain ⟨target', htarget', hid, -⟩ := hchain.supersedes (inv.mem_chain.mpr ⟨he, rfl⟩) h
  obtain ⟨hstored, hx⟩ := inv.mem_chain.mp htarget'
  rw [← inj_on_of_nodup_map inv.stored_ids hstored htarget hid, hx]

theorem LedgerInv.eligible (he : e ∈ s.stored) (h : e.eligibleForMetaTraining = true) :
    e.origin.informationRole = .learningForward ∧ e.outcome.maturityStatus = .matured ∧
      isTerminalOutcome e = true := by
  obtain ⟨row, hrow, rfl⟩ := mem_map.mp he
  obtain ⟨action, -, hof⟩ := inv.events row hrow
  have heligible : metaTrainingEligible row.payload.origin row.payload.outcome = true := by
    have hvalid := hof.valid
    simp only [validateEvent, ok_iff, not_not] at hvalid
    obtain ⟨-, -, -, -, -, -, -, -, -, -, -, -, -, -, -, -, -, -, heligible, -⟩ := hvalid
    rw [← heligible]
    exact h
  simp only [metaTrainingEligible, Bool.and_eq_true, decide_eq_true_eq] at heligible
  obtain ⟨⟨⟨⟨⟨hrole, -⟩, hstatus⟩, -⟩, -⟩, hvalues⟩ := heligible
  exact ⟨hrole, hstatus, by simp [isTerminalOutcome, hvalues]⟩

theorem LedgerInv.visible_chain (x : String) (asOf cutoff : Instant) :
    OutcomeChain (s.visible x asOf cutoff) := by
  have hchain := inv.chains x
  refine hchain.of_initial (prefix_of_monotone (hchain.times.imp fun {a b} hab hb => ?_))
  rw [decide_eq_true_eq] at hb ⊢
  exact ⟨hab.1.trans hb.1, hab.2.trans hb.2⟩

variable {asOf cutoff : Instant}

omit inv [OutcomeNumber R] in
theorem mem_visible : e ∈ s.visible x asOf cutoff ↔ e ∈ s.chain x ∧ e.outcome.createdAt ≤ asOf ∧
      e.outcome.availableAt ≤ cutoff := by
  rw [OutcomeStore.visible, mem_filter, decide_eq_true_eq]

theorem LedgerInv.superseded_iff
    (he : e ∈ s.stored) : e.eventId ∈ supersededIds asOf cutoff s.stored ↔
      ∃ v ∈ s.visible e.experimentId asOf cutoff, v.outcome.supersedesEventId = some e.eventId := by
  rw [mem_supersededIds]
  constructor
  · rintro ⟨v, hv, hcreated, havailable, hid⟩
    have hx := inv.replaced hv he hid
    exact ⟨v, mem_visible.mpr ⟨inv.mem_chain.mpr ⟨hv, hx⟩, hcreated, havailable⟩, hid⟩
  · rintro ⟨v, hv, hid⟩
    obtain ⟨hchain, hcreated, havailable⟩ := mem_visible.mp hv
    exact ⟨v, (inv.mem_chain.mp hchain).1, hcreated, havailable, hid⟩

omit inv [OutcomeNumber R] in
theorem OutcomeChain.last_effective {chain} (h : OutcomeChain chain)
    (hlast : chain.getLast? = some e) {v} (hv : v ∈ chain) :
    v.outcome.supersedesEventId ≠ some e.eventId := by
  intro hid
  obtain ⟨pre, post, rfl⟩ := append_of_mem hv
  have hbefore := (h pre v post rfl).supersedes e.eventId (by rw [hid]; rfl)
  have hafter : e ∈ v :: post := by
    rw [List.getLast?_append] at hlast
    cases hpost : (v :: post).getLast? with
    | none => simp at hpost
    | some last =>
      rw [hpost, Option.some_or] at hlast
      rw [← Option.some.inj hlast]
      exact mem_of_getLast? hpost
  have hnodup := h.nodup
  rw [map_append, nodup_append] at hnodup
  exact hnodup.2.2 e.eventId hbefore e.eventId (mem_map_of_mem hafter) rfl

theorem LedgerInv.included_iff (he : e ∈ s.chain x)
    (heligible : e.eligibleForMetaTraining = true) (asOf cutoff : Instant) :
    e ∈ includedEvents asOf cutoff s.stored ↔ (s.visible x asOf cutoff).getLast? = some e := by
  obtain ⟨hstored, rfl⟩ := inv.mem_chain.mp he
  obtain ⟨hrole, hstatus, hterminal⟩ := inv.eligible hstored heligible
  have hchain := inv.visible_chain e.experimentId asOf cutoff
  rw [mem_includedEvents, memoryClass_included, inv.superseded_iff hstored]
  constructor
  · rintro ⟨-, hcreated, havailable, -, -, -, hlive⟩
    refine hchain.effective_terminal (mem_filter.mpr ⟨?_, ?_⟩) hterminal
    · exact mem_visible.mpr ⟨he, hcreated, havailable⟩
    · rw [decide_eq_true_eq, mem_filterMap]
      exact hlive
  · intro hlast
    obtain ⟨-, hcreated, havailable⟩ := mem_visible.mp (mem_of_getLast? hlast)
    refine ⟨hstored, hcreated, havailable, ?_, ?_, hstatus, ?_⟩
    · rw [hrole]
      decide
    · rw [hrole]
      decide
    · rintro ⟨v, hv, hid⟩
      exact hchain.last_effective hlast hv hid

theorem LedgerInv.includedEvents_filter {events : List (ExperimentOutcomeEvent R)}
    (hperm : events.Perm s.stored) {keep : ExperimentOutcomeEvent R → Bool}
    (hkeep : ∀ e ∈ events, keep e = false → cutoff < e.outcome.availableAt ∨
      e.origin.informationRole = .promotionOos ∨ e.origin.informationRole = .metaAudit) :
    includedEvents asOf cutoff (events.filter keep) = includedEvents asOf cutoff events := by
  rw [includedEvents, includedEvents]
  congr 1
  rw [recordedBy, recordedBy, filter_filter, filter_filter, filter_filter]
  refine filter_congr fun e he => ?_
  have hiff : (keep e = true ∧ memoryClass cutoff
      (supersededIds asOf cutoff (events.filter keep)) e = .included) ↔
      memoryClass cutoff (supersededIds asOf cutoff events) e = .included := by
    simp only [memoryClass_included]
    constructor
    · rintro ⟨-, havailable, hoos, haudit, hstatus, hlive⟩
      refine ⟨havailable, hoos, haudit, hstatus, fun hdead => hlive ?_⟩
      obtain ⟨v, hv, hcreated, hvavailable, hid⟩ := mem_supersededIds.mp hdead
      refine mem_supersededIds.mpr ⟨v, mem_filter.mpr ⟨hv, ?_⟩, hcreated, hvavailable, hid⟩
      by_contra hdropped
      -- what replaces the event is kept, since it has the role of the event
      have hstored := hperm.mem_iff.mp hv
      have hrole := inv.role (hperm.mem_iff.mp he) hstored
        (inv.replaced hstored (hperm.mem_iff.mp he) hid)
      rcases hkeep v hv (by simpa using hdropped) with hlate | hvoos | hvaudit
      · exact absurd hvavailable (not_le.mpr hlate)
      · exact hoos (hrole.symm.trans hvoos)
      · exact haudit (hrole.symm.trans hvaudit)
    · rintro ⟨havailable, hoos, haudit, hstatus, hlive⟩
      refine ⟨?_, havailable, hoos, haudit, hstatus, fun hdead => hlive ?_⟩
      · by_contra hdropped
        rcases hkeep e he (by simpa using hdropped) with hlate | heoos | heaudit
        · exact absurd havailable (not_le.mpr hlate)
        · exact hoos heoos
        · exact haudit heaudit
      · obtain ⟨v, hv, hrest⟩ := mem_supersededIds.mp hdead
        exact mem_supersededIds.mpr ⟨v, (mem_filter.mp hv).1, hrest⟩
  cases hkept : keep e <;> simp_all

theorem LedgerInv.materializeMemory (asOf cutoff createdAt : Instant) :
    materializeMemory hash s asOf cutoff createdAt =
      buildResearchMemorySnapshot hash s.stored asOf cutoff createdAt := by
  obtain ⟨actions, hactions, hverified⟩ := inv.verifiedRows asOf
  rw [ResearchPlane.materializeMemory, hactions, ok_bind, hverified, ok_bind]
  have hperm : ((s.rowsUntil asOf).map (·.payload)).Perm (recordedBy asOf s.stored) := by
    rw [OutcomeStore.rowsUntil, recordedBy, OutcomeStore.stored, filter_map]
    refine ((sortedBy_perm rowKey _).map _).trans (List.Perm.of_eq (congrArg (List.map _) ?_))
    refine filter_congr fun row hrow => ?_
    obtain ⟨action, -, hof⟩ := inv.events row hrow
    have hcreated : row.createdAt = row.payload.outcome.createdAt := by
      conv_lhs => rw [hof.built]
      rfl
    rw [hcreated]
    rfl
  have hids : ((recordedBy asOf s.stored).map (·.eventId)).Nodup :=
    inv.stored_ids.sublist (filter_sublist.map _)
  rw [buildResearchMemorySnapshot_eq, buildResearchMemorySnapshot_eq,
    memorySnapshot_perm hperm hids,
    includedEvents_perm hperm hids, memorySnapshot_recordedBy, includedEvents_recordedBy]

end Ledger

/-- After any accepted calls, every chain is verified for every cutoff, and the memory learns of
each experiment from the last visible event alone. -/
theorem outcome_ledger_sound {taken : List (OutcomeStore R × LedgerCall R hash)}
    {s : OutcomeStore R} (run : Run (ledgerStep hash) {} taken s) :
    (∀ x action, s.findAction x = some action → ∀ createdAtCutoff,
      verifiedChain hash s x createdAtCutoff =
        .ok ((s.chain x).filter (keptBy createdAtCutoff))) ∧
    (∀ asOf, ∃ actions, actionsByExperiment hash s.actions = .ok actions ∧
      verifiedEventRows hash actions (s.rowsUntil asOf) =
        .ok ((s.rowsUntil asOf).map (·.payload))) ∧
    ∀ asOf cutoff createdAt,
      materializeMemory hash s asOf cutoff createdAt =
        buildResearchMemorySnapshot hash s.stored asOf cutoff createdAt ∧
      (∀ m, buildResearchMemorySnapshot hash s.stored asOf cutoff createdAt = .ok m → ∀ x,
        (∀ e ∈ s.chain x, e.eligibleForMetaTraining = true →
          (e.eventHash ∈ m.statistics.includedEventHashes ↔
            (s.visible x asOf cutoff).getLast? = some e)) ∧
        (∀ last, (s.visible x asOf cutoff).getLast? = some last →
          last.outcome.maturityStatus ≠ .matured → ∀ e ∈ s.chain x,
            e.eligibleForMetaTraining = true →
            e.eventHash ∉ m.statistics.includedEventHashes) ∧
        ∀ e ∈ s.visible x asOf cutoff, e.eligibleForMetaTraining = true →
          (s.visible x asOf cutoff).getLast? ≠ some e →
          ∃ v ∈ s.visible x asOf cutoff, v.outcome.supersedesEventId = some e.eventId) ∧
      ∀ events, events.Perm s.stored →
        buildResearchMemorySnapshot hash events asOf cutoff createdAt =
          buildResearchMemorySnapshot hash s.stored asOf cutoff createdAt ∧
        buildResearchMemorySnapshot hash (recordedBy asOf events) asOf cutoff createdAt =
          buildResearchMemorySnapshot hash events asOf cutoff createdAt ∧
        ∀ keep, (∀ e ∈ events, keep e = false → cutoff < e.outcome.availableAt ∨
            e.origin.informationRole = .promotionOos ∨ e.origin.informationRole = .metaAudit) →
          (buildResearchMemorySnapshot hash (events.filter keep) asOf cutoff createdAt).map
              (·.statistics) =
            (buildResearchMemorySnapshot hash events asOf cutoff createdAt).map
              (·.statistics) := by
  have inv : LedgerInv hash s := run.inv (by
    refine ⟨by simp, by simp, by simp, by simp, by simp, fun x => ?_⟩
    exact OutcomeChain.nil) fun _ _ _ => ledgerStep_inv
  refine ⟨fun x action h => inv.verifiedChain h, inv.verifiedRows, fun asOf cutoff createdAt =>
    ⟨inv.materializeMemory asOf cutoff createdAt, fun m hbuild x => ?_, fun events hperm => ?_⟩⟩
  · have hm : m.statistics.includedEventHashes =
        (includedEvents asOf cutoff s.stored).map (·.eventHash) := by
      rw [buildResearchMemorySnapshot_eq, bind_eq_ok] at hbuild
      obtain ⟨-, -, hbuild⟩ := hbuild
      rw [← Except.ok.inj hbuild]
      rfl
    have hincluded : ∀ e ∈ s.chain x, e.eligibleForMetaTraining = true →
        (e.eventHash ∈ m.statistics.includedEventHashes ↔
          (s.visible x asOf cutoff).getLast? = some e) := by
      intro e he heligible
      rw [hm, mem_map, ← inv.included_iff he heligible]
      constructor
      · rintro ⟨e', he', heq⟩
        rwa [← inj_on_of_nodup_map inv.stored_hashes (mem_includedEvents.mp he').1
          (inv.mem_chain.mp he).1 heq]
      · exact fun h => ⟨e, h, rfl⟩
    refine ⟨hincluded, fun last hlast hstatus e he heligible hmem => ?_,
      fun e he heligible hnot => ?_⟩
    · have hsame := (hincluded e he heligible).mp hmem
      rw [hlast] at hsame
      obtain rfl := Option.some.inj hsame
      exact hstatus (inv.eligible (inv.mem_chain.mp he).1 heligible).2.1
    · by_contra hlive
      refine hnot ((inv.visible_chain x asOf cutoff).effective_terminal (mem_filter.mpr
        ⟨he, ?_⟩) (inv.eligible (inv.mem_chain.mp (mem_visible.mp he).1).1 heligible).2.2)
      rw [decide_eq_true_eq, mem_filterMap]
      exact hlive
  · refine ⟨?_, ?_, fun keep hkeep =>
      build_statistics_congr (inv.includedEvents_filter hperm hkeep) createdAt⟩
    · rw [buildResearchMemorySnapshot_eq, buildResearchMemorySnapshot_eq,
        memorySnapshot_perm hperm inv.stored_ids, includedEvents_perm hperm inv.stored_ids]
    · rw [buildResearchMemorySnapshot_eq, buildResearchMemorySnapshot_eq,
        memorySnapshot_recordedBy, includedEvents_recordedBy]

def sampleUnsigned : ResearchExperimentAction ℚ where
  actionId := "action"
  experimentId := "experiment"
  origin :=
    { researchCycleId := "cycle"
      proposalId := "proposal"
      challengerId := "challenger"
      parentStrategyId := "core"
      parentStrategyVersion := "v1"
      candidateStrategyVersion := "v2"
      primaryActionKind := .addFeature
      secondaryActionKinds := []
      mechanismTags := ["momentum"]
      informationRole := .learningForward
      decisionAt := 10
      maturityDueAt := 100
      predictedDeltaSharpeLower := none
      predictedDeltaSharpeMedian := none
      predictedDeltaSharpeUpper := none
      complexityDelta := 0
      candidateArtifactHash := some ("".pushn 'a' 64) }
  predictedFailureCodes := []
  evaluationContractHash := "".pushn 'b' 64
  sourceArtifactHashes := []
  sourceDataAvailableAt := []
  legacyProposal := false
  metaTrainingPermitted := true
  idempotencyKey := "key"
  createdAt := 20
  actionHash := ""

def sampleAction : ResearchExperimentAction ℚ :=
  { sampleUnsigned with actionHash := Hashing.long.canonicalHash sampleUnsigned.data }

def sampleMaturation : OutcomeMaturationInput ℚ where
  experimentId := "experiment"
  outcome :=
    { eventKind := .economicOutcomeMatured
      experimentStage := .forward
      evaluationWindowStart := some 20
      evaluationWindowEnd := some 90
      availableAt := 100
      maturityStatus := .matured
      technicalSuccess := none
      technicalFailureCodes := []
      portfolioDeltaSharpePoint := some 1
      portfolioDeltaSharpeLcb := none
      portfolioDeltaSharpeUcb := none
      worstCostDeltaSharpeLcb := none
      drawdownDelta := none
      tailLossDelta := none
      turnoverDelta := none
      costDeltaBps := none
      evaluationContractHash := "".pushn 'b' 64
      sourceArtifactHashes := []
      sourceDataAvailableAt := []
      supersedesEventId := none
      idempotencyKey := "outcome"
      createdAt := 100 }

theorem sampleAction_valid : validateAction Hashing.long sampleAction = .ok () := by
  decide +kernel

theorem sampleMaturation_valid : validateMaturation sampleMaturation = .ok () := by
  decide +kernel

/-- A correction of the outcome of `sampleMaturation`. -/
def sampleCorrection : OutcomeMaturationInput ℚ :=
  { sampleMaturation with outcome := { sampleMaturation.outcome with
      eventKind := .outcomeCorrected
      portfolioDeltaSharpePoint := some 2
      supersedesEventId := some "experiment-outcome-event_86bdc12d"
      idempotencyKey := "correction"
      availableAt := 110
      createdAt := 110 } }

theorem sampleCorrection_valid : validateMaturation sampleCorrection = .ok () := by
  decide +kernel

/-- The correction that invalidates the corrected outcome. -/
def sampleInvalidation : OutcomeMaturationInput ℚ :=
  { sampleCorrection with outcome := { sampleCorrection.outcome with
      maturityStatus := .invalidated
      portfolioDeltaSharpePoint := none
      supersedesEventId := some "experiment-outcome-event_68ee54ed"
      idempotencyKey := "invalidation"
      availableAt := 120
      createdAt := 120 } }

theorem sampleInvalidation_valid : validateMaturation sampleInvalidation = .ok () := by
  decide +kernel

/-- An outcome is corrected and then invalidated: the memory learns from the first event, then from
its correction, and then from neither. -/
theorem sampleLedger_sound : ∃ (taken : List (OutcomeStore ℚ × LedgerCall ℚ Hashing.long))
    (s : OutcomeStore ℚ) (first second third : ExperimentOutcomeEvent ℚ)
    (before during after : ResearchMemorySnapshot ℚ),
    Run (ledgerStep Hashing.long) {} taken s ∧
    verifiedChain Hashing.long s "experiment" none = .ok [first, second, third] ∧
    third.outcome.maturityStatus = .invalidated ∧
    buildResearchMemorySnapshot Hashing.long s.stored 105 105 105 = .ok before ∧
    first.eventHash ∈ before.statistics.includedEventHashes ∧
    buildResearchMemorySnapshot Hashing.long s.stored 110 110 110 = .ok during ∧
    first.eventHash ∉ during.statistics.includedEventHashes ∧
    second.eventHash ∈ during.statistics.includedEventHashes ∧
    buildResearchMemorySnapshot Hashing.long s.stored 120 120 120 = .ok after ∧
    first.eventHash ∉ after.statistics.includedEventHashes ∧
    second.eventHash ∉ after.statistics.includedEventHashes := by
  have heval : ([LedgerCall.register ⟨sampleAction, sampleAction_valid⟩,
      .append ⟨sampleMaturation, sampleMaturation_valid⟩,
      .append ⟨sampleCorrection, sampleCorrection_valid⟩,
      .append ⟨sampleInvalidation, sampleInvalidation_valid⟩].foldlM (ledgerStep Hashing.long)
        {}).toOption.any (fun s => (s.findAction "experiment").isSome ∧
      (s.chain "experiment").map (fun e => (e.outcome.createdAt, e.outcome.availableAt,
        e.outcome.maturityStatus, e.eligibleForMetaTraining)) =
          [(100, 100, .matured, true), (110, 110, .matured, true),
            (120, 120, .invalidated, false)] ∧
      ∀ asOf ∈ [105, 110, 120],
        (buildResearchMemorySnapshot Hashing.long s.stored asOf asOf asOf).toOption.any
          (fun _ => true)) = true := by
    decide +kernel
  obtain ⟨s, hs, htest⟩ := exists_of_any heval
  obtain ⟨hfound, hchain, hbuilt⟩ := of_decide_eq_true htest
  simp only [forall_mem_cons] at hbuilt
  obtain ⟨hbefore, hduring, hafter, -⟩ := hbuilt
  obtain ⟨action, hfind⟩ := Option.isSome_iff_exists.mp hfound
  obtain ⟨taken, -, run⟩ := Run.of_foldlM hs
  obtain ⟨hverified, -, hmemory⟩ := outcome_ledger_sound run
  obtain ⟨before, hbefore, -⟩ := exists_of_any hbefore
  obtain ⟨during, hduring, -⟩ := exists_of_any hduring
  obtain ⟨after, hafter, -⟩ := exists_of_any hafter
  obtain ⟨first, second, third, hevents⟩ := length_eq_three.mp (by simpa using congrArg length hchain)
  rw [hevents] at hchain
  simp only [map_cons, map_nil, List.cons.injEq, Prod.mk.injEq, and_true] at hchain
  obtain ⟨⟨hcreated, havailable, -, heligible⟩, ⟨hcreated', havailable', -, heligible'⟩,
    hcreated'', havailable'', hstatus, -⟩ := hchain
  have hfirst : first ∈ s.chain "experiment" := by simp [hevents]
  have hsecond : second ∈ s.chain "experiment" := by simp [hevents]
  have hne : second ≠ first := fun heq => by simp [heq, hcreated] at hcreated'
  have hlast (asOf : Instant) : s.visible "experiment" asOf asOf =
      [first, second, third].filter fun e =>
        e.outcome.createdAt ≤ asOf ∧ e.outcome.availableAt ≤ asOf := by
    rw [OutcomeStore.visible, hevents]
  have hmemory' := fun asOf m hbuild => (hmemory asOf asOf asOf).2.1 m hbuild "experiment"
  simp only [hlast] at hmemory'
  refine ⟨taken, s, first, second, third, before, during, after, run, ?_, hstatus, hbefore,
    ((hmemory' _ _ hbefore).1 first hfirst heligible).mpr ?_, hduring,
    mt ((hmemory' _ _ hduring).1 first hfirst heligible).mp ?_,
    ((hmemory' _ _ hduring).1 second hsecond heligible').mpr ?_, hafter,
    (hmemory' _ _ hafter).2.1 third ?_ (by simp [hstatus]) first hfirst heligible,
    (hmemory' _ _ hafter).2.1 third ?_ (by simp [hstatus]) second hsecond heligible'⟩
  · rw [hverified _ action hfind none, hevents]
    rfl
  all_goals simp [hcreated, hcreated', hcreated'', havailable, havailable', havailable'', hne]
end AdaptiveQuant.ResearchPlane
