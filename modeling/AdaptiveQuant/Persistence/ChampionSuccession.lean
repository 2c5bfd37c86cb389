import AdaptiveQuant.Persistence.ChallengerGate

/-! The succession of Champions. -/

namespace AdaptiveQuant.ResearchPlane

open Guard Sequence Trail ChallengerStatus List

variable {hash : Hashing} {s s' : LifecycleStore}

def EvaluatedAgainst (s : LifecycleStore) (designation previous : ChampionDesignation) : Prop :=
  ∃ arm ∈ s.armsOf designation.sourceChallengerId, arm.armRole = .champion ∧
    arm.identity.strategyId = previous.strategyId ∧
    arm.identity.strategyVersion = previous.strategyVersion

/-- The designations are one chain, each against the one before. -/
structure Succession (s : LifecycleStore) : Prop where
  numbered : Numbered (·.sequence) s.designations
  linked : ∀ pre designation post, s.designations = pre ++ designation :: post →
    designation.previousDesignationId = pre.getLast?.map (·.designationId)
  once : (s.designations.map (·.sourceChallengerId)).Nodup
  evaluated : ∀ pre designation post, s.designations = pre ++ designation :: post →
    ∀ previous ∈ pre.getLast?, EvaluatedAgainst s designation previous

/-- A new designation comes from a proposal over the latest champion. -/
def NamesPredecessor (s : LifecycleStore) (call : LifecycleCall hash) : Prop :=
  ∀ c ∈ call.designateCall, s.findDesignation c.idempotencyKey = none →
    ∀ latest ∈ s.latestChampionDesignation, ∀ row ∈ s.findManifest c.challengerId,
    ∀ proposal ∈ findProposal s.cycles.proposals row.proposalId,
      proposal.proposal.parentStrategyId = latest.strategyId ∧
        proposal.proposal.parentStrategyVersion = latest.strategyVersion

def IsParent (s : LifecycleStore) (arm : ShadowArmRow) : Prop :=
  ∃ row proposal, s.findManifest arm.challengerId = some row ∧
    findProposal s.cycles.proposals row.proposalId = some proposal ∧
    arm.identity.strategyId = proposal.proposal.parentStrategyId ∧
    arm.identity.strategyVersion = proposal.proposal.parentStrategyVersion

theorem IsParent.mono {arm} (h : IsParent s arm) (grows : LifecycleGrows s s') :
    IsParent s' arm := by
  obtain ⟨row, proposal, hrow, hproposal, hparent⟩ := h
  exact ⟨row, proposal, grows.findManifest hrow, grows.cycles.proposals.find?_eq_some hproposal,
    hparent⟩

structure ChampionInv (s : LifecycleStore) : Prop extends GateInv s where
  ordered : Numbered (·.sequence) s.designations
  linked : ∀ pre designation post, s.designations = pre ++ designation :: post →
    designation.previousDesignationId = pre.getLast?.map (·.designationId)
  once : (s.designations.map (·.sourceChallengerId)).Nodup
  promoted : ∀ designation ∈ s.designations, ∃ event ∈ s.events,
    event.challengerId = designation.sourceChallengerId ∧ event.toStatus = .promoted
  paired : ∀ designation ∈ s.designations,
    MatchedPaperPair (s.armsOf designation.sourceChallengerId)
  parents : ∀ arm ∈ s.arms, arm.armRole = .champion → IsParent s arm

theorem championInv_start : ChampionInv {} where
  toGateInv := gateInv_start
  ordered := .nil
  linked := by simp
  once := nodup_nil
  promoted := fun _ hdesignation => absurd hdesignation not_mem_nil
  paired := fun _ hdesignation => absurd hdesignation not_mem_nil
  parents := fun _ harm => absurd harm not_mem_nil

namespace ChampionInv

variable (inv : ChampionInv s)

include inv

theorem latest_eq : s.latestChampionDesignation = s.designations.getLast? := by
  unfold LifecycleStore.latestChampionDesignation
  rw [inv.ordered.sortedBy_eq]

theorem fresh {row : ManifestRow} (hrow : row ∈ s.manifests)
    (hstatus : s.currentStatus row = .promotionEligible) :
    row.challengerId ∉ s.designations.map (·.sourceChallengerId) := by
  intro hmem
  obtain ⟨designation, hdesignation, hsource⟩ := mem_map.mp hmem
  obtain ⟨event, hevent, hid, hto⟩ := inv.promoted designation hdesignation
  have hlog := mem_eventsOf.mpr ⟨hevent, hid.trans hsource⟩
  have hle := (inv.follows row.challengerId).rank_le_of_mem rank_lt hlog
  rw [← inv.currentStatus_eq hrow, hstatus, hto] at hle
  exact absurd hle (by decide)

theorem keep_parents {call} (effect : LifecycleEffect call s s') :
    ∀ arm ∈ s'.arms, arm.armRole = .champion → IsParent s' arm := by
  intro arm harm hrole
  rcases effect.arms with hsame | ⟨row, proposal, champion, challenger, hrow, hproposal, -, harms,
    hid, -, -, hrole', hparent⟩
  · exact (inv.parents arm (hsame ▸ harm) hrole).mono effect.grows
  · rw [harms] at harm
    rcases mem_append.mp harm with harm | harm
    · exact (inv.parents arm harm hrole).mono effect.grows
    · rcases mem_cons.mp harm with rfl | harm
      · have hfound : IsParent s arm := ⟨row, proposal, hid.symm ▸ hrow, hproposal, hparent⟩
        exact hfound.mono effect.grows
      · obtain rfl := mem_singleton.mp harm
        rw [hrole'] at hrole
        cases hrole

theorem effect {call} (effect : LifecycleEffect call s s') :
    ChampionInv s' := by
  have hgate := inv.toGateInv.effect effect
  have hparents := inv.keep_parents effect
  have hpromoted : ∀ designation ∈ s.designations, ∃ event ∈ s'.events,
      event.challengerId = designation.sourceChallengerId ∧ event.toStatus = .promoted := by
    intro designation hdesignation
    obtain ⟨event, hevent, hof⟩ := inv.promoted designation hdesignation
    exact ⟨event, effect.grows.events.subset hevent, hof⟩
  have hpaired : ∀ designation ∈ s.designations,
      MatchedPaperPair (s'.armsOf designation.sourceChallengerId) := by
    intro designation hdesignation
    have hpair := inv.paired designation hdesignation
    rw [effect.armsOf_eq hpair]
    exact hpair
  rcases effect.designations with ⟨hsame, -⟩ | ⟨c, -, row, hdesignates, hevent⟩
  · refine ⟨hgate, ?_, ?_, ?_, ?_, ?_, hparents⟩ <;> rw [hsame]
    · exact inv.ordered
    · exact inv.linked
    · exact inv.once
    · exact hpromoted
    · exact hpaired
  · obtain ⟨-, -, hrow, hstatus, designation, hdesignations, hsource, -, -, hsequence, hprevious⟩ :=
      hdesignates
    have hmem := mem_of_findManifest hrow
    rw [inv.latest_eq] at hsequence hprevious
    rw [inv.ordered.elim_getLast?] at hsequence
    refine ⟨hgate, ?_, ?_, ?_, ?_, ?_, hparents⟩ <;> rw [hdesignations]
    · exact numbered_concat.mpr ⟨inv.ordered, hsequence⟩
    · exact forall_split_concat.mpr ⟨inv.linked, hprevious⟩
    · have hfresh := inv.fresh hmem hstatus
      rw [← hsource] at hfresh
      rw [map_append]
      exact nodup_snoc inv.once hfresh
    · intro d hd
      rcases mem_append.mp hd with hd | hd
      · exact hpromoted d hd
      · obtain rfl := mem_singleton.mp hd
        rw [hsource]
        exact hevent
    · intro d hd
      rcases mem_append.mp hd with hd | hd
      · exact hpaired d hd
      · obtain rfl := mem_singleton.mp hd
        have hgated : s.currentStatus row ∈ gated := by simp [hstatus, gated]
        obtain ⟨-, -, -, hpair⟩ := inv.passedGate hmem hgated
        rw [hsource, effect.armsOf_eq hpair]
        exact hpair

theorem champion_arm {row proposal} (hrow : s.findManifest row.challengerId = some row)
    (hproposal : findProposal s.cycles.proposals row.proposalId = some proposal) {arm}
    (harm : arm ∈ s.armsOf row.challengerId) (hrole : arm.armRole = .champion) :
    arm.identity.strategyId = proposal.proposal.parentStrategyId ∧
      arm.identity.strategyVersion = proposal.proposal.parentStrategyVersion := by
  obtain ⟨hmem, hid⟩ := mem_filter.mp harm
  obtain ⟨row', proposal', hrow', hproposal', hparent⟩ := inv.parents arm hmem hrole
  rw [of_decide_eq_true hid, hrow] at hrow'
  obtain rfl := Option.some.inj hrow'
  rw [hproposal] at hproposal'
  obtain rfl := Option.some.inj hproposal'
  exact hparent

end ChampionInv

theorem ChampionInv.keep (s : LifecycleStore) (call : LifecycleCall hash) (s' : LifecycleStore)
    (inv : ChampionInv s) (h : lifecycleStep hash s call = .ok s') : ChampionInv s' :=
  inv.effect (lifecycleStep_effect h)

theorem mem_armsOf {challengerId : String} {arm} :
    arm ∈ s.armsOf challengerId ↔ arm ∈ s.arms ∧ arm.challengerId = challengerId := by
  simp [LifecycleStore.armsOf]

variable {designation previous : ChampionDesignation}

theorem evaluatedAgainst_congr
    (h : s'.armsOf designation.sourceChallengerId = s.armsOf designation.sourceChallengerId) :
    EvaluatedAgainst s' designation previous ↔ EvaluatedAgainst s designation previous := by
  unfold EvaluatedAgainst
  rw [h]

theorem ChampionInv.evaluated_iff (inv : ChampionInv s) {row}
    (hrow : s.findManifest row.challengerId = some row)
    (hstatus : s.currentStatus row = .promotionEligible)
    (hsource : designation.sourceChallengerId = row.challengerId) :
    EvaluatedAgainst s designation previous ↔
      ∀ proposal ∈ findProposal s.cycles.proposals row.proposalId,
        proposal.proposal.parentStrategyId = previous.strategyId ∧
          proposal.proposal.parentStrategyVersion = previous.strategyVersion := by
  have hgated : s.currentStatus row ∈ gated := by simp [hstatus, gated]
  obtain ⟨-, -, -, hpair⟩ := inv.passedGate (mem_of_findManifest hrow) hgated
  obtain ⟨arm, harm, hrole⟩ := hpair.2.1
  constructor
  · rintro ⟨arm', harm', hrole', hid, hversion⟩ proposal hproposal
    rw [hsource] at harm'
    obtain ⟨hid', hversion'⟩ := inv.champion_arm hrow hproposal harm' hrole'
    exact ⟨hid'.symm.trans hid, hversion'.symm.trans hversion⟩
  · intro hparent
    obtain ⟨hmem, hof⟩ := mem_armsOf.mp harm
    obtain ⟨row', proposal, hrow', hproposal, hid, hversion⟩ := inv.parents arm hmem hrole
    rw [hof, hrow] at hrow'
    obtain rfl := Option.some.inj hrow'
    obtain ⟨hid', hversion'⟩ := hparent proposal hproposal
    exact ⟨arm, hsource ▸ harm, hrole, hid.trans hid', hversion.trans hversion'⟩

theorem evaluated_step {call} (inv : ChampionInv s) (h : lifecycleStep hash s call = .ok s') :
    (∀ pre designation post, s'.designations = pre ++ designation :: post →
      ∀ previous ∈ pre.getLast?, EvaluatedAgainst s' designation previous) ↔
    (∀ pre designation post, s.designations = pre ++ designation :: post →
      ∀ previous ∈ pre.getLast?, EvaluatedAgainst s designation previous) ∧
    NamesPredecessor s call := by
  have heffect := lifecycleStep_effect h
  have hkept : ∀ designation ∈ s.designations, ∀ previous,
      EvaluatedAgainst s' designation previous ↔ EvaluatedAgainst s designation previous :=
    fun designation hmem _ =>
      evaluatedAgainst_congr (heffect.armsOf_eq (inv.paired designation hmem))
  have hold : (∀ pre designation post, s.designations = pre ++ designation :: post →
        ∀ previous ∈ pre.getLast?, EvaluatedAgainst s' designation previous) ↔
      ∀ pre designation post, s.designations = pre ++ designation :: post →
        ∀ previous ∈ pre.getLast?, EvaluatedAgainst s designation previous := by
    refine forall_congr' fun pre => forall_congr' fun designation => forall_congr' fun post =>
      forall_congr' fun hsplit => forall_congr' fun previous => forall_congr' fun _ => ?_
    exact hkept designation (by simp [hsplit]) previous
  rcases heffect.designations with ⟨hsame, hknown⟩ | ⟨c, hc, row, hdesignates, -⟩
  · have hnames : NamesPredecessor s call := fun c hc hnew => absurd hnew (hknown c hc)
    rw [hsame, hold, and_iff_left hnames]
  · obtain ⟨hid, hnew, hrow, hstatus, designation, hdesignations, hsource, -⟩ := hdesignates
    have hpair : MatchedPaperPair (s.armsOf designation.sourceChallengerId) := by
      have hgated : s.currentStatus row ∈ gated := by simp [hstatus, gated]
      obtain ⟨-, -, -, hpair⟩ := inv.passedGate (mem_of_findManifest hrow) hgated
      exact hsource ▸ hpair
    have hnames : NamesPredecessor s call ↔ ∀ previous ∈ s.designations.getLast?,
        EvaluatedAgainst s' designation previous := by
      unfold NamesPredecessor
      rw [inv.latest_eq]
      constructor
      · intro hcall previous hprevious
        rw [evaluatedAgainst_congr (heffect.armsOf_eq hpair),
          inv.evaluated_iff hrow hstatus hsource]
        exact hcall c hc hnew previous hprevious row (hid ▸ hrow)
      · intro hmeasured c' hc' _ latest hlatest row' hrow'
        obtain rfl : c = c' := Option.some.inj (hc.symm.trans hc')
        have hsame : row' = row := Option.some.inj (hrow'.symm.trans (hid ▸ hrow))
        have hlast := hmeasured latest hlatest
        rw [evaluatedAgainst_congr (heffect.armsOf_eq hpair),
          inv.evaluated_iff hrow hstatus hsource] at hlast
        exact hsame ▸ hlast
    rw [hdesignations, forall_split_concat, hold, hnames]

/-- After any run of calls the designations are a chain without repetition, and they were all
measured against their predecessors exactly when each call named the predecessor of its Champion. -/
theorem succession_iff {taken : List (LifecycleStore × LifecycleCall hash)}
    (run : Run (lifecycleStep hash) {} taken s) :
    Succession s ↔ ∀ x ∈ taken, NamesPredecessor x.1 x.2 := by
  have inv : ChampionInv s := run.inv championInv_start ChampionInv.keep
  have hmeasured := run.holds_iff (P := fun t => ∀ pre designation post,
      t.designations = pre ++ designation :: post → ∀ previous ∈ pre.getLast?,
      EvaluatedAgainst t designation previous) championInv_start ChampionInv.keep (by simp)
    fun _ _ _ hinv hstep => evaluated_step hinv hstep
  rw [← hmeasured]
  exact ⟨fun h => h.evaluated, fun h => ⟨inv.ordered, inv.linked, inv.once, h⟩⟩

/-- The second Champion was proposed as a successor of another strategy of the same version. -/
theorem succession_clash : ∃ taken s, Run (lifecycleStep sampleHashing) {} taken s ∧
    ¬Succession s := by
  obtain ⟨taken, s, run, -, first, second, hdesignations, harms⟩ := clashing_run
  refine ⟨taken, s, run, fun h => ?_⟩
  obtain ⟨arm, harm, -, hid, -⟩ := h.evaluated [first] second [] hdesignations first rfl
  exact harms arm harm hid

instance (s : LifecycleStore) (call : LifecycleCall hash) :
    Decidable (NamesPredecessor s call) := by
  unfold NamesPredecessor
  infer_instance

/-- A run of two Champions in which each call names the predecessor, and one in which the second
does not. -/
theorem lines_named : (∃ taken s, Run (lifecycleStep sampleHashing) {} taken s ∧
      s.designations.length = 2 ∧ Succession s) ∧
    ∃ taken s, Run (lifecycleStep sampleHashing) {} taken s ∧
      ¬∀ x ∈ taken, NamesPredecessor x.1 x.2 := by
  constructor
  · have heval : ((lineCalls "alpha").foldlM (fun s call => if NamesPredecessor s call then
        lifecycleStep sampleHashing s call else .error (valueError "")) {}).toOption.any (fun s =>
          s.designations.length = 2) = true := by
      decide +kernel
    obtain ⟨s, hok, htwo⟩ := exists_of_any heval
    obtain ⟨taken, -, run, hnames⟩ := Run.of_guarded hok
    exact ⟨taken, s, run, of_decide_eq_true htwo, (succession_iff run).mpr hnames⟩
  · obtain ⟨taken, s, run, -, first, second, hdesignations, harms⟩ := clashing_run
    refine ⟨taken, s, run, fun hnames => ?_⟩
    obtain ⟨arm, harm, -, hid, -⟩ :=
      ((succession_iff run).mpr hnames).evaluated [first] second [] hdesignations first rfl
    exact harms arm harm hid

end AdaptiveQuant.ResearchPlane
