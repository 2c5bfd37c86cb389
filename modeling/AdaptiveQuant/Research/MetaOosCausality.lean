import AdaptiveQuant.Research.MetaOosRecords
import AdaptiveQuant.Research.MetaOosRun

/-! Causality of the chronological audit. -/

namespace AdaptiveQuant.ResearchPlane

open Guard Sequence List

section Plan

variable {hash : Hashing} {p : ChronologicalMetaOosPlan}

theorem validatePlan_epochs (h : validatePlan hash p = .ok ()) :
    (∀ e ∈ p.epochs, validateEpoch e = .ok ()) ∧ sortedBy (·.decisionAt) p.epochs = p.epochs ∧
      ∀ pair ∈ p.epochs.zip p.epochs.tail, checkSuccessive pair.1 pair.2 = .ok () := by
  simp only [validatePlan, ok_iff, forM_eq_ok, not_not] at h
  obtain ⟨hepochs, -, -, -, -, -, -, -, hsorted, hsuccessive, -⟩ := h
  exact ⟨hepochs, hsorted, hsuccessive⟩

variable {e : MetaOosEpoch}

theorem decisionAt_lt_outcomeAvailableAt (h : validateEpoch e = .ok ()) :
    e.decisionAt < e.outcomeAvailableAt := by
  simp only [validateEpoch, ok_iff, not_not] at h
  obtain ⟨-, ⟨-, -, hforward, hwindow, houtcome⟩, -⟩ := h
  exact hforward.trans_le (hwindow.trans houtcome)

theorem outcomeAvailableAt_le_of_checkSuccessive {e'} (h : checkSuccessive e e' = .ok ()) :
    e.outcomeAvailableAt ≤ e'.decisionAt := by
  simp only [checkSuccessive, ok_iff] at h
  exact not_lt.mp h.2

variable {pre post : List MetaOosEpoch} {epoch : MetaOosEpoch}

theorem earlier_outcome_available (h : validatePlan hash p = .ok ())
    (split : p.epochs = pre ++ epoch :: post) (earlier : e ∈ pre) :
    e.outcomeAvailableAt ≤ epoch.decisionAt := by
  obtain ⟨valid, -, successive⟩ := validatePlan_epochs h
  let follows (a b : MetaOosEpoch) := a.outcomeAvailableAt ≤ b.decisionAt ∧
    b.decisionAt ≤ b.outcomeAvailableAt
  have trans : Trans follows follows follows :=
    ⟨fun hab hbc => ⟨hab.1.trans (hab.2.trans hbc.1), hbc.2⟩⟩
  have chain : p.epochs.IsChain follows := isChain_of_forall_mem_zip_tail fun pair hpair => by
    have hmem : pair.2 ∈ p.epochs := mem_of_mem_tail (of_mem_zip hpair).2
    exact ⟨outcomeAvailableAt_le_of_checkSuccessive (successive pair hpair),
      (decisionAt_lt_outcomeAvailableAt (valid _ hmem)).le⟩
  have pairwise : p.epochs.Pairwise follows := isChain_iff_pairwise.mp chain
  rw [split, pairwise_append] at pairwise
  exact (pairwise.2.2 e earlier epoch mem_cons_self).1

theorem later_outcome_unavailable (h : validatePlan hash p = .ok ())
    (split : p.epochs = pre ++ epoch :: post) (later : e ∈ epoch :: post) :
    epoch.decisionAt < e.outcomeAvailableAt := by
  obtain ⟨valid, sorted, -⟩ := validatePlan_epochs h
  have hmem : e ∈ p.epochs := by
    rw [split]
    exact mem_append_right pre later
  have hsorted := sortedBy_pairwise (fun e : MetaOosEpoch => e.decisionAt) p.epochs
  rw [sorted, split, pairwise_append] at hsorted
  have hdecision : epoch.decisionAt ≤ e.decisionAt := by
    rcases mem_cons.mp later with rfl | hpost
    · exact le_rfl
    · exact rel_of_pairwise_cons hsorted.2.1 hpost
  exact hdecision.trans_lt (decisionAt_lt_outcomeAvailableAt (valid e hmem))

end Plan

section Decisions

variable {R : Type} [MetaOosFloat R] {hash : Hashing} {audit : MetaOosAudit R hash}
  {outcomes : List (MetaOosLearningOutcome R)} {epoch : MetaOosEpoch}

variable {memory : Option (MetaOosMemorySnapshot R)}

theorem armMemory_adaptive
    (h : armMemory hash outcomes epoch .adaptiveMetaController = .ok memory) :
    ∃ snapshot, memory = some snapshot ∧
      snapshot.outcomes = eligibleOutcomes outcomes epoch.decisionAt := by
  rw [armMemory, if_pos rfl, map_eq_ok] at h
  obtain ⟨snapshot, hbuild, rfl⟩ := h
  simp only [buildMetaOosMemorySnapshot, ok_iff] at hbuild
  obtain ⟨-, -, rfl⟩ := hbuild
  exact ⟨_, rfl, rfl⟩

theorem decideArm_of_ne {arm} (other : arm ≠ .adaptiveMetaController)
    (outcomes' : List (MetaOosLearningOutcome R)) :
    decideArm hash audit outcomes epoch arm = decideArm hash audit outcomes' epoch arm := by
  simp only [decideArm, armMemory, if_neg other]

theorem decideArm_memory {arm decision}
    (h : decideArm hash audit outcomes epoch arm = .ok (memory, decision)) :
    armMemory hash outcomes epoch arm = .ok memory := by
  simp only [decideArm, ok_iff, Prod.mk.injEq] at h
  obtain ⟨m, hmemory, d, -, -, -, -, -, -, -, -, -, rfl, -⟩ := h
  exact hmemory

end Decisions

section Loop

variable {R : Type} [MetaOosFloat R] {hash : Hashing} {audit : MetaOosAudit R hash}
  {environment : MetaOosEnvironment R}

def learned (hash : Hashing) (evaluated : List (EpochEvaluation R)) (arm : MetaOosPolicyArm) :
    List (MetaOosLearningOutcome R) :=
  evaluated.flatMap fun e => (e.arms.filter (·.arm = arm)).map (learningRecord hash e.epoch)

structure Decided (hash : Hashing) (audit : MetaOosAudit R hash)
    (outcomes : MetaOosPolicyArm → List (MetaOosLearningOutcome R)) (e : EpochEvaluation R) :
    Prop where
  arms : e.arms.map (·.arm) = metaOosPolicyArms
  decided : ∀ a ∈ e.arms,
    decideArm hash audit (outcomes a.arm) e.epoch a.arm = .ok (a.memory, a.decision)

variable {outcomes : MetaOosPolicyArm → List (MetaOosLearningOutcome R)} {epoch : MetaOosEpoch}

theorem evaluateArm_eq_ok {arm acc acc'}
    (h : evaluateArm hash audit environment outcomes epoch acc arm = .ok acc') :
    ∃ e : ArmEvaluation R, e.arm = arm ∧
      decideArm hash audit (outcomes arm) epoch arm = .ok (e.memory, e.decision) ∧
      acc' = (acc.1 ++ [⟨epoch, arm, e.decision⟩], acc.2 ++ [e]) := by
  simp only [evaluateArm, ok_iff] at h
  obtain ⟨⟨memory, decision⟩, hdecide, priv, -, -, -, -, -, rfl⟩ := h
  exact ⟨⟨arm, decision, memory, priv⟩, rfl, hdecide, rfl⟩

theorem evaluateArms_eq_ok {calls : List (EnvironmentCall R)}
    {result : List (EnvironmentCall R) × List (ArmEvaluation R)}
    (h : metaOosPolicyArms.foldlM (evaluateArm hash audit environment outcomes epoch) (calls, []) =
      .ok result) :
    Decided hash audit outcomes ⟨epoch, result.2⟩ ∧
      ∀ c ∈ result.1, c ∈ calls ∨ c.epoch = epoch := by
  have inv := foldlM_induction h (fun arms acc =>
    (acc.2.map (·.arm) = arms ∧ ∀ a ∈ acc.2,
      decideArm hash audit (outcomes a.arm) epoch a.arm = .ok (a.memory, a.decision)) ∧
    ∀ c ∈ acc.1, c ∈ calls ∨ c.epoch = epoch) ⟨⟨rfl, by simp⟩, fun c hc => .inl hc⟩ ?_
  · exact ⟨⟨inv.1.1, inv.1.2⟩, inv.2⟩
  · rintro arms arm acc acc' ⟨⟨harms, hdecided⟩, hcalls⟩ ok
    obtain ⟨e, rfl, hdecide, rfl⟩ := evaluateArm_eq_ok ok
    refine ⟨⟨by rw [map_append, harms, map_singleton], ?_⟩, ?_⟩
    · intro a ha
      rcases mem_append.mp ha with ha | ha
      · exact hdecided a ha
      · obtain rfl := mem_singleton.mp ha
        exact hdecide
    · intro c hc
      rcases mem_append.mp hc with hc | hc
      · exact hcalls c hc
      · exact .inr (by rw [mem_singleton.mp hc])

variable {s s' : MetaOosState R}

theorem recordArm_eq_ok {keys e} (h : recordArm hash audit.plan.val epoch keys s e = .ok s') :
    s'.outcomes = appended s.outcomes e.arm [learningRecord hash epoch e] := by
  simp only [recordArm, buildLearningOutcome, bind_eq_ok, pure_eq_ok] at h
  obtain ⟨-, -, learning, ⟨-, -, rfl⟩, record, -, rfl⟩ := h
  rfl

theorem recordArms_eq_ok {keys : List String} {evaluations : List (ArmEvaluation R)}
    (h : evaluations.foldlM (recordArm hash audit.plan.val epoch keys) s = .ok s')
    (arm : MetaOosPolicyArm) :
    s'.outcomes arm = s.outcomes arm ++
      (evaluations.filter (·.arm = arm)).map (learningRecord hash epoch) := by
  refine foldlM_induction h (fun done acc => acc.outcomes arm = s.outcomes arm ++
    (done.filter (·.arm = arm)).map (learningRecord hash epoch)) (by simp) ?_
  intro done e acc acc' hacc ok
  rw [recordArm_eq_ok ok, appended, filter_append, map_append, ← append_assoc, ← hacc]
  by_cases harm : e.arm = arm
  · subst harm
    simp
  · simp [harm, Function.update_of_ne (Ne.symm harm)]

theorem evaluateEpoch_eq_ok (h : evaluateEpoch hash audit environment s epoch = .ok s') :
    ∃ e : EpochEvaluation R, e.epoch = epoch ∧ Decided hash audit s.outcomes e ∧
      s'.evaluated = s.evaluated ++ [e] ∧
      (∀ arm, s'.outcomes arm = s.outcomes arm ++ learned hash [e] arm) ∧
      ∀ c ∈ s'.calls, c ∈ s.calls ∨ c.epoch = epoch := by
  simp only [evaluateEpoch, ok_iff] at h
  obtain ⟨⟨calls, evaluations⟩, harms, recorded, hrecord, rfl⟩ := h
  obtain ⟨hdecided, hcalls⟩ := evaluateArms_eq_ok harms
  refine ⟨⟨epoch, evaluations⟩, rfl, hdecided, rfl, ?_, hcalls⟩
  intro arm
  simpa [learned] using recordArms_eq_ok hrecord arm

structure AuditInv (hash : Hashing) (audit : MetaOosAudit R hash) (done : List MetaOosEpoch)
    (s : MetaOosState R) : Prop where
  epochs : s.evaluated.map (·.epoch) = done
  outcomes : ∀ arm, s.outcomes arm = learned hash s.evaluated arm
  decided : ∀ before e after, s.evaluated = before ++ e :: after →
    Decided hash audit (learned hash before) e
  calls : ∀ c ∈ s.calls, c.epoch ∈ done

theorem AuditInv.start : AuditInv hash audit [] ({} : MetaOosState R) where
  epochs := rfl
  outcomes _ := rfl
  decided _ _ _ h := by simp at h
  calls _ h := by simp at h

theorem learned_append (before after : List (EpochEvaluation R)) (arm : MetaOosPolicyArm) :
    learned hash (before ++ after) arm = learned hash before arm ++ learned hash after arm :=
  flatMap_append

theorem AuditInv.step {done} (inv : AuditInv hash audit done s)
    (h : evaluateEpoch hash audit environment s epoch = .ok s') :
    AuditInv hash audit (done ++ [epoch]) s' := by
  obtain ⟨e, rfl, hdecided, hevaluated, houtcomes, hcalls⟩ := evaluateEpoch_eq_ok h
  have hlearned : s.outcomes = learned hash s.evaluated := funext inv.outcomes
  refine ⟨by simp [hevaluated, inv.epochs], fun arm => ?_, ?_, fun c hc => ?_⟩
  · rw [houtcomes, hlearned, hevaluated, learned_append]
  · rw [hevaluated, forall_split_concat]
    exact ⟨inv.decided, hlearned ▸ hdecided⟩
  · rcases hcalls c hc with hold | hnew
    · exact mem_append_left _ (inv.calls c hold)
    · simp [hnew]

variable {epochs : List MetaOosEpoch}

theorem evaluateEpochs_inv (h : epochs.foldlM (evaluateEpoch hash audit environment) {} = .ok s) :
    AuditInv hash audit epochs s :=
  foldlM_induction h (AuditInv hash audit) .start fun _ _ _ _ inv ok => inv.step ok

theorem evaluateEpochs_prefix
    (h : epochs.foldlM (evaluateEpoch hash audit environment) s = .ok s') :
    s.evaluated <+: s'.evaluated := by
  refine foldlM_induction h (fun _ acc => s.evaluated <+: acc.evaluated) prefix_rfl ?_
  intro _ epoch acc acc' hacc ok
  obtain ⟨e, -, -, hevaluated, -⟩ := evaluateEpoch_eq_ok ok
  exact hacc.trans (hevaluated ▸ prefix_append _ _)

theorem run_loop {run} (h : runChronologicalMetaOos hash audit environment = .ok run) :
    audit.plan.val.epochs.foldlM (evaluateEpoch hash audit environment) {} = .ok run := by
  simp only [runChronologicalMetaOos, ok_iff] at h
  obtain ⟨-, -, s, hloop, -, rfl⟩ := h
  exact hloop

theorem evaluateEpochs_split {pre post run}
    (h : (pre ++ epoch :: post).foldlM (evaluateEpoch hash audit environment) {} = .ok run) :
    ∃ s e, pre.foldlM (evaluateEpoch hash audit environment) {} = .ok s ∧ e.epoch = epoch ∧
      Decided hash audit s.outcomes e ∧ s.evaluated = run.evaluated.take pre.length ∧
      run.evaluated[pre.length]? = some e := by
  rw [foldlM_append, bind_eq_ok] at h
  obtain ⟨s, hpre, h⟩ := h
  rw [foldlM_cons, bind_eq_ok] at h
  obtain ⟨s', hstep, hpost⟩ := h
  obtain ⟨e, hepoch, hdecided, hevaluated, -⟩ := evaluateEpoch_eq_ok hstep
  obtain ⟨rest, hrest⟩ := evaluateEpochs_prefix hpost
  have hlength : s.evaluated.length = pre.length := by
    rw [← (evaluateEpochs_inv hpre).epochs, length_map]
  rw [hevaluated, append_assoc] at hrest
  refine ⟨s, e, hpre, hepoch, hdecided, ?_, ?_⟩
  · rw [← hrest, ← hlength, take_left]
  · rw [← hrest, ← hlength, List.getElem?_append_right le_rfl]
    simp

/-- Two environments answer alike on the epochs in a set, if these were the only ones so far. -/
def AgreeOn (plan : ChronologicalMetaOosPlan) (known : MetaOosEpoch → Prop)
    (environment environment' : MetaOosEnvironment R) : Prop :=
  ∀ calls call, (∀ c ∈ calls, known c.epoch) → known call.epoch →
    environment.executeEpoch plan calls call = environment'.executeEpoch plan calls call

variable {environment' : MetaOosEnvironment R} {known : MetaOosEpoch → Prop}

section

variable (agree : AgreeOn audit.plan.val known environment environment')

include agree

theorem evaluateArm_congr (hepoch : known epoch) {acc} (hcalls : ∀ c ∈ acc.1, known c.epoch)
    (arm : MetaOosPolicyArm) :
    evaluateArm hash audit environment outcomes epoch acc arm =
      evaluateArm hash audit environment' outcomes epoch acc arm := by
  simp only [evaluateArm]
  cases decideArm hash audit (outcomes arm) epoch arm with
  | error e => rfl
  | ok decided => simp only [bind, Except.bind, agree acc.1 ⟨epoch, arm, decided.2⟩ hcalls hepoch]

theorem evaluateEpoch_congr (hepoch : known epoch) (hcalls : ∀ c ∈ s.calls, known c.epoch) :
    evaluateEpoch hash audit environment s epoch =
      evaluateEpoch hash audit environment' s epoch := by
  have harms : metaOosPolicyArms.foldlM (evaluateArm hash audit environment s.outcomes epoch)
      (s.calls, []) =
      metaOosPolicyArms.foldlM (evaluateArm hash audit environment' s.outcomes epoch)
        (s.calls, []) := by
    refine foldlM_congr_of_inv (fun _ acc => ∀ c ∈ acc.1, known c.epoch) hcalls ?_ ?_
    · intro _ arm acc acc' hacc ok
      obtain ⟨e, -, -, rfl⟩ := evaluateArm_eq_ok ok
      intro c hc
      rcases mem_append.mp hc with hc | hc
      · exact hacc c hc
      · rw [mem_singleton.mp hc]
        exact hepoch
    · exact fun _ arm _ acc _ hacc => evaluateArm_congr agree hepoch hacc arm
  rw [evaluateEpoch, harms, ← evaluateEpoch]

theorem evaluateEpochs_congr (hknown : ∀ e ∈ epochs, known e) :
    epochs.foldlM (evaluateEpoch hash audit environment) {} =
      epochs.foldlM (evaluateEpoch hash audit environment') {} := by
  refine foldlM_congr_of_inv (AuditInv hash audit) .start (fun _ _ _ _ inv ok => inv.step ok) ?_
  intro pre epoch post s hsplit inv
  have hpre : ∀ c ∈ s.calls, known c.epoch := by
    intro c hc
    apply hknown
    rw [hsplit]
    exact mem_append_left _ (inv.calls c hc)
  exact evaluateEpoch_congr agree (hknown epoch (by simp [hsplit])) hpre

end

def MetaOosState.evaluation? (s : MetaOosState R) (k : ℕ) (arm : MetaOosPolicyArm) :
    Option (ArmEvaluation R) :=
  s.evaluated[k]?.bind fun e => e.arms.find? (·.arm = arm)

def MetaOosState.decision? (s : MetaOosState R) (k : ℕ) (arm : MetaOosPolicyArm) :
    Option (MetaOosPolicyDecision R) :=
  (s.evaluation? k arm).map (·.decision)

def MetaOosState.memory? (s : MetaOosState R) (k : ℕ) (arm : MetaOosPolicyArm) :
    Option (MetaOosMemorySnapshot R) :=
  (s.evaluation? k arm).bind (·.memory)

theorem Decided.find {e} (h : Decided hash audit outcomes e) (arm : MetaOosPolicyArm) :
    ∃ a, e.arms.find? (·.arm = arm) = some a ∧
      decideArm hash audit (outcomes arm) e.epoch arm = .ok (a.memory, a.decision) := by
  have hmem : arm ∈ e.arms.map (·.arm) := h.arms ▸ mem_metaOosPolicyArms arm
  obtain ⟨b, hb, hbarm⟩ := mem_map.mp hmem
  obtain ⟨a, ha⟩ := Option.isSome_iff_exists.mp
    (List.find?_isSome (p := fun a : ArmEvaluation R => decide (a.arm = arm)).mpr
      ⟨b, hb, by simpa using hbarm⟩)
  obtain rfl : a.arm = arm := by simpa using List.find?_some ha
  exact ⟨a, ha, h.decided a (mem_of_find?_eq_some ha)⟩

theorem split_at {k : ℕ} (h : epochs[k]? = some epoch) :
    ∃ pre post, epochs = pre ++ epoch :: post ∧ pre.length = k := by
  obtain ⟨hk, rfl⟩ := List.getElem?_eq_some_iff.mp h
  refine ⟨epochs.take k, epochs.drop (k + 1), ?_, length_take_of_le hk.le⟩
  rw [getElem_cons_drop, take_append_drop]

theorem available_outcomes {run pre post} (inv : AuditInv hash audit audit.plan.val.epochs run)
    (split : audit.plan.val.epochs = pre ++ epoch :: post) :
    (learned hash (run.evaluated.take pre.length) .adaptiveMetaController).filter
        (·.isEligible epoch.decisionAt) =
      (learned hash run.evaluated .adaptiveMetaController).filter fun o =>
        o.informationRole = .learningForward ∧ o.availableAt ≤ epoch.decisionAt := by
  have hlater : ∀ o ∈ learned hash (run.evaluated.drop pre.length) .adaptiveMetaController,
      epoch.decisionAt < o.availableAt := by
    intro o ho
    obtain ⟨e, he, ho⟩ := mem_flatMap.mp ho
    obtain ⟨a, -, rfl⟩ := mem_map.mp ho
    apply later_outcome_unavailable audit.plan.valid split
    have hdrop : (run.evaluated.drop pre.length).map (·.epoch) = epoch :: post := by
      rw [map_drop, inv.epochs, split, drop_left]
    rw [← hdrop]
    exact mem_map_of_mem he
  have howned : ∀ o ∈ learned hash (run.evaluated.take pre.length) .adaptiveMetaController,
      o.arm = .adaptiveMetaController ∧ o.matured = true := by
    intro o ho
    obtain ⟨e, -, ho⟩ := mem_flatMap.mp ho
    obtain ⟨a, ha, rfl⟩ := mem_map.mp ho
    have harm : a.arm = .adaptiveMetaController := by simpa using (mem_filter.mp ha).2
    exact ⟨harm, rfl⟩
  conv_rhs => rw [← take_append_drop pre.length run.evaluated, learned_append,
    filter_append]
  have hnone : (learned hash (run.evaluated.drop pre.length) .adaptiveMetaController).filter
      (fun o => o.informationRole = .learningForward ∧ o.availableAt ≤ epoch.decisionAt) = [] := by
    refine filter_eq_nil_iff.mpr fun o ho => ?_
    simpa using fun _ => hlater o ho
  rw [hnone, append_nil]
  refine filter_congr fun o ho => ?_
  obtain ⟨harm, hmatured⟩ := howned o ho
  simp [MetaOosLearningOutcome.isEligible, harm, hmatured, and_comm]

/-- In any two completed audits of a plan, an arm decides alike wherever the environments agree on
the epochs that are mature at the decision. -/
theorem meta_oos_causal (audit : MetaOosAudit R hash)
    (environment environment' : MetaOosEnvironment R) (run run' : MetaOosState R)
    (done : runChronologicalMetaOos hash audit environment = .ok run)
    (done' : runChronologicalMetaOos hash audit environment' = .ok run') :
    ∀ (k : ℕ) (epoch : MetaOosEpoch), audit.plan.val.epochs[k]? = some epoch →
      (∀ arm, (run.decision? k arm).isSome) ∧
      (AgreeOn audit.plan.val (fun e => e.outcomeAvailableAt ≤ epoch.decisionAt)
          environment environment' →
        ∀ arm, run.decision? k arm = run'.decision? k arm) ∧
      (∀ arm, arm ≠ .adaptiveMetaController → run.decision? k arm = run'.decision? k arm) ∧
      ∃ memory, run.memory? k .adaptiveMetaController = some memory ∧
        memory.outcomes.Perm ((learned hash run.evaluated .adaptiveMetaController).filter fun o =>
          o.informationRole = .learningForward ∧ o.availableAt ≤ epoch.decisionAt) := by
  intro k epoch hk
  obtain ⟨pre, post, split, rfl⟩ := split_at hk
  have hloop := run_loop done
  have hloop' := run_loop done'
  have inv := evaluateEpochs_inv hloop
  rw [split] at hloop hloop'
  obtain ⟨s, e, hpre, rfl, hdecided, htake, he⟩ := evaluateEpochs_split hloop
  obtain ⟨s', e', hpre', hepoch, hdecided', -, he'⟩ := evaluateEpochs_split hloop'
  have hdecision : ∀ arm, ∃ a a', run.evaluation? pre.length arm = some a ∧
      run'.evaluation? pre.length arm = some a' ∧
      decideArm hash audit (s.outcomes arm) e.epoch arm = .ok (a.memory, a.decision) ∧
      decideArm hash audit (s'.outcomes arm) e.epoch arm = .ok (a'.memory, a'.decision) := by
    intro arm
    obtain ⟨a, hfind, hdecide⟩ := hdecided.find arm
    obtain ⟨a', hfind', hdecide'⟩ := hdecided'.find arm
    rw [hepoch] at hdecide'
    refine ⟨a, a', ?_, ?_, hdecide, hdecide'⟩
    · rw [MetaOosState.evaluation?, he, Option.bind_some, hfind]
    · rw [MetaOosState.evaluation?, he', Option.bind_some, hfind']
  -- An arm that decides from the same inputs decides alike.
  have halike : ∀ arm, decideArm hash audit (s.outcomes arm) e.epoch arm =
      decideArm hash audit (s'.outcomes arm) e.epoch arm →
      run.decision? pre.length arm = run'.decision? pre.length arm := by
    intro arm heq
    obtain ⟨a, a', ha, ha', hdecide, hdecide'⟩ := hdecision arm
    rw [heq, hdecide'] at hdecide
    have hsame : a'.decision = a.decision := by
      simpa using (Prod.mk.inj (Except.ok.inj hdecide)).2
    simp [MetaOosState.decision?, ha, ha', hsame]
  refine ⟨fun arm => ?_, fun agree arm => halike arm ?_, fun arm other => halike arm ?_, ?_⟩
  · obtain ⟨a, -, ha, -⟩ := hdecision arm
    simp [MetaOosState.decision?, ha]
  · have hsame : pre.foldlM (evaluateEpoch hash audit environment) {} =
        pre.foldlM (evaluateEpoch hash audit environment') {} :=
      evaluateEpochs_congr agree fun y hy => earlier_outcome_available audit.plan.valid split hy
    rw [hpre, hpre', Except.ok.injEq] at hsame
    rw [hsame]
  · exact decideArm_of_ne other _
  · obtain ⟨a, -, ha, -, hdecide, -⟩ := hdecision .adaptiveMetaController
    obtain ⟨memory, hmemory, houtcomes⟩ := armMemory_adaptive (decideArm_memory hdecide)
    refine ⟨memory, by rw [MetaOosState.memory?, ha, Option.bind_some, hmemory], ?_⟩
    rw [houtcomes, eligibleOutcomes, (evaluateEpochs_inv hpre).outcomes, htake,
      available_outcomes inv split]
    exact sortedBy_perm _ _

end Loop

/-- Digests of one bit, at their full length, for a run that is checked by evaluation. -/
def bitHash : Hashing where
  canonicalHash value := if value.checksum % 2 = 0
    then "aaaaaaaaaaaaaaaaaaaaaaaaaaaaaaaaaaaaaaaaaaaaaaaaaaaaaaaaaaaaaaaa"
    else "bbbbbbbbbbbbbbbbbbbbbbbbbbbbbbbbbbbbbbbbbbbbbbbbbbbbbbbbbbbbbbbb"
  stableId tag parts := tag ++ if (Canonical.list parts).checksum % 2 = 0 then "_a" else "_b"

def sampleDigest : String := "aaaaaaaaaaaaaaaaaaaaaaaaaaaaaaaaaaaaaaaaaaaaaaaaaaaaaaaaaaaaaaaa"

def sampleBinding : MetaOosCommanderBinding :=
  { modelFamily := "model"
    modelVersion := "v1"
    reasoningProfile := "max"
    promptTemplateHash := sampleDigest
    requestSchemaHash := sampleDigest
    outputSchemaHash := sampleDigest
    bindingHash :=
      "bbbbbbbbbbbbbbbbbbbbbbbbbbbbbbbbbbbbbbbbbbbbbbbbbbbbbbbbbbbbbbbb" }

def sampleEpoch (epochId : String) (start : Instant) : MetaOosEpoch :=
  { epochId := epochId
    decisionAt := start + 3
    discoveryWindowStart := start
    discoveryWindowEnd := start + 2
    maximumCandidateHorizonSessions := 1
    purgeSessions := 1
    embargoSessions := 1
    forwardWindowStart := start + 4
    forwardWindowEnd := start + 9
    outcomeAvailableAt := start + 10
    marketDataManifestHash := sampleDigest
    contextKey := "calm"
    candidateGenerationBudget := 1
    oosBudget := 1 }

def samplePlan : ChronologicalMetaOosPlan :=
  { planId := "plan"
    epochs := [sampleEpoch "first" 0, sampleEpoch "second" 10]
    policyArms := metaOosPolicyArms
    policyAdapterVersions := ⟨[(.staticChampion, "sample-v1"),
      (.fixedRecalibration, "sample-v1"),
      (.memorylessCommander, "sample-v1"), (.adaptiveMetaController, "sample-v1")], by decide⟩
    auditMode := .syntheticFixture
    commanderBinding := sampleBinding
    evaluationContractHash := sampleDigest
    outerAuditDatasetId := "outer"
    outerAuditBudgetOrdinal := 1
    createdAt := 0
    others := []
    planHash :=
      "bbbbbbbbbbbbbbbbbbbbbbbbbbbbbbbbbbbbbbbbbbbbbbbbbbbbbbbbbbbbbbbb" }

theorem samplePlan_valid : validatePlan bitHash samplePlan = .ok () := by
  decide +kernel

def samplePolicy (identity : ℕ) : ResearchPolicyAdapter ℚ where
  identity := identity
  adapterVersion := "sample-v1"
  planResearch context memory _ := .ok (policyDecision bitHash context
    { researchMemorySnapshotHash := memory.map (·.snapshotHash)
      predictedReward := memory.map fun snapshot => (snapshot.outcomes.map (·.reward)).sum })

def sampleAudit : MetaOosAudit ℚ bitHash where
  plan := ⟨samplePlan, samplePlan_valid⟩
  evaluationContract :=
    { minimumEpochs := 2
      maximumEpochs := 5
      maximumCandidateGenerationBudgetPerEpoch := 1
      maximumOosBudgetPerEpoch := 1
      maximumOuterAuditUsesPerDataset := 1
      maximumAbsoluteDailyReturn := 1
      thresholds := []
      contractHash := sampleDigest }
  adapters := ⟨[(.staticChampion, samplePolicy 0), (.fixedRecalibration, samplePolicy 1),
    (.memorylessCommander, samplePolicy 2), (.adaptiveMetaController, samplePolicy 3)], by decide⟩
  candidateCatalog := .empty
  evaluatedAt := 40

theorem sampleAudit_second : sampleAudit.plan.val.epochs[1]? = some (sampleEpoch "second" 10) := by
  simp [sampleAudit, samplePlan]

def sampleEnvironment (late : ℚ) : MetaOosEnvironment ℚ where
  executeEpoch _ _ call := .ok
    { epochId := call.epoch.epochId
      observations :=
        [⟨"monday", call.epoch.forwardWindowStart, call.epoch.forwardWindowEnd, 0, 0, ""⟩,
        ⟨"tuesday", call.epoch.forwardWindowEnd, call.epoch.forwardWindowEnd, 0, 0, ""⟩]
      candidateCount := 0
      oosUseCount := 0
      promotionEligibleCount := 0
      technicalFailure := false
      informationRole := .learningForward
      learningReward := if call.epoch.outcomeAvailableAt ≤ 13 then 1 else late
      candidateArtifactHash := none }

theorem sampleEnvironment_agree (late late' : ℚ) :
    AgreeOn samplePlan (fun e => e.outcomeAvailableAt ≤ 13) (sampleEnvironment late)
      (sampleEnvironment late') := by
  intro calls call _ hcall
  simp only [sampleEnvironment, if_pos hcall]

/-- The second decisions are the same, from a memory with one outcome, although the environments
part at the second epoch. -/
theorem sampleAudit_causal : ∃ run run' : MetaOosState ℚ,
    runChronologicalMetaOos bitHash sampleAudit (sampleEnvironment 0) = .ok run ∧
      runChronologicalMetaOos bitHash sampleAudit (sampleEnvironment 2) = .ok run' ∧
      (run.memory? 1 .adaptiveMetaController).map (·.outcomes.length) = some 1 ∧
      ∀ arm, run.decision? 1 arm = run'.decision? 1 arm := by
  obtain ⟨run, hrun, hmemory⟩ := exists_of_any (x := runChronologicalMetaOos bitHash sampleAudit
    (sampleEnvironment 0)) (p := fun run => (run.memory? 1 .adaptiveMetaController).map
      (·.outcomes.length) = some 1) (by decide +kernel)
  obtain ⟨run', hrun', -⟩ := exists_of_any (x := runChronologicalMetaOos bitHash sampleAudit
    (sampleEnvironment 2)) (p := fun _ => true) (by decide +kernel)
  have causal := meta_oos_causal sampleAudit _ _ run run' hrun hrun' 1 _ sampleAudit_second
  exact ⟨run, run', hrun, hrun', by simpa using hmemory,
    causal.2.1 (sampleEnvironment_agree 0 2)⟩

end AdaptiveQuant.ResearchPlane
