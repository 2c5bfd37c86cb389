import AdaptiveQuant.Control.PolicyHistory
import AdaptiveQuant.Domain.CanonicalText

/-! Patches that restore the default policy. -/

namespace AdaptiveQuant.Control

open Guard Sequence Expiry List

variable {R : Type} [PolicyNumber R] {armId scopeId : String} {patch : PolicyPatch R}
  {patches pre : List (PolicyPatch R)} {instant : Instant}

def inEffect (patches : List (PolicyPatch R)) (instant : Instant) : List (PolicyPatch R) :=
  sinceReset PolicyPatch.restores (activeIn patches instant)

/-- The patches that a restore clears are not in effect again once it expires. -/
def StaysCleared (patches : List (PolicyPatch R)) : Prop :=
  ∀ pre restore post, patches = pre ++ restore :: post → restore.restores →
    ∀ patch ∈ inEffect pre restore.createdAt, patch.counts →
    ∀ instant, restore.expiresAt ≤ instant → patch ∉ inEffect patches instant

/-- Every restore lasts at least as long as the patches that it clears. -/
def RestoresOutlive (patches : List (PolicyPatch R)) : Prop :=
  ∀ pre restore post, patches = pre ++ restore :: post → restore.restores →
    ∀ patch ∈ inEffect pre restore.createdAt, patch.counts → patch.expiresAt ≤ restore.expiresAt

omit [PolicyNumber R] in
theorem inEffect_eq_liveAt (received : Received patches)
    (started : ∀ patch ∈ patches, patch.effectiveFrom ≤ patch.createdAt) (instant : Instant) :
    inEffect patches instant =
      liveAt PolicyPatch.createdAt PolicyPatch.expiresAt PolicyPatch.restores patches instant := by
  rw [inEffect, activeIn_eq_activeAt received started]
  rfl

omit [PolicyNumber R] in
theorem restoresOutlive_iff (received : Received patches)
    (started : ∀ patch ∈ patches, patch.effectiveFrom ≤ patch.createdAt) :
    RestoresOutlive patches ↔ Outlives PolicyPatch.createdAt PolicyPatch.expiresAt
      PolicyPatch.restores PolicyPatch.counts patches := by
  refine forall_congr' fun pre => forall_congr' fun restore => forall_congr' fun post =>
    forall_congr' fun hsplit => ?_
  subst hsplit
  have hreceived : Received pre := (pairwise_append.mp received).1
  have hstarted : ∀ patch ∈ pre, patch.effectiveFrom ≤ patch.createdAt := fun patch hpatch =>
    started patch (mem_append_left _ hpatch)
  rw [inEffect_eq_liveAt hreceived hstarted]
  rfl

variable {acc : PolicyEffects R × Option String}

theorem composePatch_later (compiled : CompiledAfter armId pre patch)
    (received : Received (pre ++ [patch]))
    (started : ∀ other ∈ pre, other.effectiveFrom ≤ other.createdAt)
    (outlives : Outlives PolicyPatch.createdAt PolicyPatch.expiresAt PolicyPatch.restores
      PolicyPatch.counts pre) (created : patch.createdAt ≤ instant)
        (expires : instant < patch.expiresAt)
    (before : (activeAt PolicyPatch.createdAt PolicyPatch.expiresAt pre instant).foldlM
      (composePatch armId instant true) (.default, none) = .ok acc) :
    ∃ acc', composePatch armId instant true acc patch = .ok acc' := by
  obtain ⟨hpre, -, hcame⟩ := pairwise_append.mp received
  have hfits := compiled.fits
  obtain ⟨version, current, result, hcompose, hcompile⟩ := compiled
  obtain ⟨hfold, rfl, -⟩ := compose_eq_ok.mp hcompose
  rw [activeIn_eq_activeAt hpre started] at hfold
  have hsub : acc.1.activeBuckets ⊆ current.activeBuckets := by
    intro bucket hbucket
    obtain ⟨other, hother, operation, hoperation, rfl⟩ := (mem_composed_buckets before).mp hbucket
    refine (mem_composed_buckets hfold).mpr ⟨other, ?_, operation, hoperation, rfl⟩
    have hcounts : other.counts := ne_nil_of_mem hoperation
    exact mem_liveAt_of_later hpre outlives
      (fun b hb => (hcame b hb patch mem_cons_self).le) created hcounts hother
  obtain ⟨effects, heffects⟩ := foldlM_apply_mono hsub (compile_eq_ok.mp hcompile).2.2.2.1
  refine ⟨(effects, some patch.patchId), composePatch_eq_ok.mpr ⟨⟨hfits.arm, ?_, hfits.conditions⟩,
    (foldlM_apply_iff _ _).mp heffects, rfl⟩⟩
  exact ⟨hfits.active.1.trans created, expires⟩

theorem composes_of_outlives (received : Received patches)
    (compiled : ∀ pre patch post, patches = pre ++ patch :: post → CompiledAfter armId pre patch)
    (outlives : Outlives PolicyPatch.createdAt PolicyPatch.expiresAt PolicyPatch.restores
      PolicyPatch.counts patches) (instant : Instant) :
    ∃ acc, (activeAt PolicyPatch.createdAt PolicyPatch.expiresAt patches instant).foldlM
      (composePatch armId instant true) (.default, none) = .ok acc := by
  induction patches using List.reverseRecOn with
  | nil => exact ⟨_, rfl⟩
  | append_singleton pre patch ih =>
    have hpre : Received pre := (pairwise_append.mp received).1
    obtain ⟨hcompiled, hlast⟩ := forall_split_concat.mp compiled
    obtain ⟨acc, hacc⟩ := ih hpre hcompiled (outlives_concat.mp outlives).1
    by_cases hactive : ActiveAt PolicyPatch.createdAt PolicyPatch.expiresAt instant patch
    · have hstarted : ∀ other ∈ pre, other.effectiveFrom ≤ other.createdAt := by
        intro other hother
        obtain ⟨front, back, hsplit⟩ := append_of_mem hother
        exact (hcompiled front other back hsplit).fits.active.1
      obtain ⟨acc', hacc'⟩ := composePatch_later hlast received hstarted
        (outlives_concat.mp outlives).1 hactive.1 hactive.2 hacc
      rw [activeAt_concat hactive]
      exact ⟨acc', foldlM_concat_eq_ok.mpr ⟨acc, hacc, hacc'⟩⟩
    · have hsame : activeAt PolicyPatch.createdAt PolicyPatch.expiresAt (pre ++ [patch]) instant =
          activeAt PolicyPatch.createdAt PolicyPatch.expiresAt pre instant := by
        simp [activeAt, filter_append, hactive]
      rw [hsame]
      exact ⟨acc, hacc⟩

variable {env : ControlEnvironment} {hash : Hashing} {tables next : ControlTables R}
  {taken : List (ControlTables R × ControlAction R)}

theorem resolve_succeeds (ordered : (tables.policyLog armId scopeId).Ordered)
    (h : (tables.activePatches armId scopeId instant).foldlM (composePatch armId instant true)
      (.default, none) = .ok acc) :
    Succeeds (tables.resolvePolicyState armId scopeId instant) := by
  set stored := tables.loadLatestPolicyState armId scopeId (some instant) with hstored
  have hcompose : compose armId (tables.activePatches armId scopeId instant) stored.version instant
      true = .ok ⟨acc.1, armId, stored.version, acc.2⟩ := compose_eq_ok.mpr ⟨h, rfl, rfl⟩
  by_cases hsame : samePolicyEffects stored ⟨acc.1, armId, stored.version, acc.2⟩
  · refine ⟨(stored, tables), ?_⟩
    simp only [ControlTables.resolvePolicyState, ← hstored, hcompose, ok_bind, if_pos hsame]
    rfl
  by_cases hlater : stored.version < (tables.loadLatestPolicyState armId scopeId none).version
  · refine ⟨(⟨acc.1, armId, stored.version, acc.2⟩, tables), ?_⟩
    simp only [ControlTables.resolvePolicyState, ← hstored, hcompose, ok_bind, if_neg hsame,
      if_pos hlater]
    rfl
  -- the next version is free: the last one is stored
  obtain ⟨appended, happend⟩ : Succeeds (tables.appendVersion
      ⟨scopeId, ⟨acc.1, armId, stored.version + 1, acc.2⟩, instant⟩) := by
    refine ⟨_, appendVersion_eq_ok.mpr ⟨fun other hother hversion => ?_, rfl⟩⟩
    have hle := ordered.numbered.le_length hother
    rw [loadLatest_none ordered, PolicyLog.latest_version ordered] at hlater
    simp only at hversion
    omega
  refine ⟨(⟨acc.1, armId, stored.version + 1, acc.2⟩, appended), ?_⟩
  simp only [ControlTables.resolvePolicyState, ← hstored, hcompose, ok_bind, if_neg hsame,
    if_neg hlater, happend]
  rfl

theorem PolicyLog.Sound.started {log : PolicyLog R} (sound : log.Sound armId) :
    ∀ patch ∈ log.patches, patch.effectiveFrom ≤ patch.createdAt := fun _ hpatch =>
  (sound.fits hpatch).active.1

theorem resolves_of_outlive (run : ControlRun env hash .empty taken tables)
    (received : Received (tables.patchesOf armId scopeId))
    (outlive : RestoresOutlive (tables.patchesOf armId scopeId)) :
    (∀ instant, Succeeds (tables.resolvePolicyState armId scopeId instant)) ∧
      StaysCleared (tables.patchesOf armId scopeId) := by
  have sound := policyLog_sound run armId scopeId
  have outlives := (restoresOutlive_iff received sound.started).mp outlive
  constructor
  · intro instant
    obtain ⟨acc, hacc⟩ := composes_of_outlives received sound.compiled outlives instant
    have hactive := activeIn_eq_activeAt received sound.started instant
    rw [← hactive] at hacc
    exact resolve_succeeds (policyLog_ordered run armId scopeId) hacc
  · intro pre restore post hsplit hrestores patch hpatch hcounts instant hexpired hback
    have hlong := outlive pre restore post hsplit hrestores patch hpatch hcounts
    rw [inEffect_eq_liveAt received sound.started] at hback
    have hactive := ((mem_liveAt received).mp hback).1.2
    exact absurd hactive.2 (not_lt.mpr (hlong.trans hexpired))

theorem outlives_of_staysCleared (run : ControlRun env hash .empty taken tables)
    {restore : PolicyPatch R} (hlast : tables.patchesOf armId scopeId = pre ++ [restore])
    (received : Received (tables.patchesOf armId scopeId))
    (cleared : StaysCleared (tables.patchesOf armId scopeId)) (hrestores : restore.restores) :
    ∀ patch ∈ inEffect pre restore.createdAt, patch.counts → patch.expiresAt ≤
      restore.expiresAt := by
  intro patch hpatch hcounts
  by_contra hlong
  have sound := policyLog_sound run armId scopeId
  have hstarted := sound.started
  have hmem : restore ∈ tables.patchesOf armId scopeId := by
    rw [hlast]
    exact mem_append_right _ mem_cons_self
  have hlasts := (sound.fits hmem).active.2
  refine cleared pre restore [] hlast hrestores patch hpatch hcounts restore.expiresAt
    (le_refl _) ?_
  rw [inEffect_eq_liveAt received hstarted]
  simp only [ControlTables.policyLog] at hstarted
  rw [hlast] at received hstarted ⊢
  rw [inEffect_eq_liveAt (pairwise_append.mp received).1 fun other hother =>
    hstarted other (mem_append_left _ hother)] at hpatch
  exact live_again received hlasts hpatch (not_le.mp hlong)

theorem controlStep_patchesOf (ordered : ∀ armId scopeId, (tables.policyLog armId scopeId).Ordered)
    {action} (h : controlStep env hash tables action = .ok next) (armId scopeId : String) :
    next.patchesOf armId scopeId = tables.patchesOf armId scopeId ∨
      ∃ patch, next.patchesOf armId scopeId = tables.patchesOf armId scopeId ++ [patch] := by
  rcases controlStep_patches ordered h with hsame | ⟨row, hrow⟩
  · rw [ControlTables.patchesOf, hsame]
    exact .inl rfl
  · have happend := patchesOf_append tables row armId scopeId
    rw [ControlTables.patchesOf, hrow]
    split at happend
    · exact .inr ⟨row.patch, happend⟩
    · exact .inl (happend.trans (append_nil _))

/-- Every resolution succeeds, and no cleared bucket comes back. -/
def ResolutionTotal (tables : ControlTables R) : Prop :=
  ∀ armId scopeId, (∀ instant, Succeeds (tables.resolvePolicyState armId scopeId instant)) ∧
    StaysCleared (tables.patchesOf armId scopeId)

/-- Over every run in which the patches of an arm are accepted at increasing instants: in all its
states every policy resolves and nothing cleared comes back, exactly when every accepted restore
expires no earlier than the patches that it clears. -/
theorem resolution_total_iff (run : ControlRun env hash .empty taken tables)
    (received : ∀ armId scopeId, Received (tables.patchesOf armId scopeId)) :
    (∀ state ∈ taken.map (·.1) ++ [tables], ResolutionTotal state) ↔
      ∀ armId scopeId, RestoresOutlive (tables.patchesOf armId scopeId) := by
  induction run with
  | start =>
    have hnil : ∀ armId scopeId, RestoresOutlive
        ((ControlTables.empty : ControlTables R).patchesOf armId scopeId) := by
      intro armId scopeId pre restore post hsplit
      exact absurd (show [] = _ from hsplit).symm (by simp)
    refine ⟨fun _ => hnil, fun _ state hstate armId scopeId => ?_⟩
    obtain rfl : state = .empty := by simpa using hstate
    have hstart : ControlRun env hash .empty [] (.empty : ControlTables R) := .start
    exact resolves_of_outlive hstart (received armId scopeId) (hnil armId scopeId)
  | @next taken s s' action run ok ih =>
    have hsteps := controlStep_patchesOf (policyLog_ordered run) ok
    have hbefore : ∀ armId scopeId, Received (s.patchesOf armId scopeId) := by
      intro armId scopeId
      rcases hsteps armId scopeId with hsame | ⟨patch, hpatch⟩
      · exact hsame ▸ received armId scopeId
      · exact (pairwise_append.mp (hpatch ▸ received armId scopeId)).1
    have hstates : (∀ state ∈ (taken ++ [(s, action)]).map (·.1) ++ [s'], ResolutionTotal state) ↔
        (∀ state ∈ taken.map (·.1) ++ [s], ResolutionTotal state) ∧ ResolutionTotal s' := by
      rw [map_append, map_singleton, forall_mem_append, forall_mem_singleton]
    rw [hstates, ih hbefore]
    constructor
    · rintro ⟨houtlive, htotal⟩ armId scopeId
      rcases hsteps armId scopeId with hsame | ⟨patch, hpatch⟩
      · exact hsame ▸ houtlive armId scopeId
      · rw [hpatch]
        refine forall_split_concat.mpr ⟨houtlive armId scopeId, fun hrestores => ?_⟩
        exact outlives_of_staysCleared (.next run ok) hpatch (received armId scopeId)
          (htotal armId scopeId).2 hrestores
    · intro houtlive
      refine ⟨fun armId scopeId => ?_, fun armId scopeId =>
        resolves_of_outlive (.next run ok) (received armId scopeId) (houtlive armId scopeId)⟩
      rcases hsteps armId scopeId with hsame | ⟨patch, hpatch⟩
      · exact hsame ▸ houtlive armId scopeId
      · exact (forall_split_concat.mp (hpatch ▸ houtlive armId scopeId)).1

/-- In every run, no policy that is stored or resolved raises the risk of its arm. -/
theorem policies_restrict (run : ControlRun env hash .empty taken tables) (armId scopeId : String) :
    (∀ row ∈ tables.versionsOf armId scopeId, row.state.Restricts armId) ∧
      ∀ instant policy next, tables.resolvePolicyState armId scopeId instant = .ok (policy, next) →
        policy.Restricts armId := by
  refine ⟨?_, fun instant policy next h =>
    compose_restricts (resolvePolicyState_cases (policyLog_ordered run _ _) h).1⟩
  refine policyLog_inv run (I := fun log => ∀ row ∈ log.versions, row.state.Restricts armId)
    (fun _ hrow => absurd hrow not_mem_nil) fun log _ _ move hold row hrow => ?_
  cases move with
  | recompose _ composes =>
    rcases mem_append.mp hrow with hrow | hrow
    · exact hold row hrow
    · exact mem_singleton.mp hrow ▸ compose_restricts composes
  | accept _ composes compiles =>
    rcases mem_append.mp hrow with hrow | hrow
    · exact hold row hrow
    · obtain ⟨harm, -⟩ := (compose_eq_ok.mp composes).2
      exact mem_singleton.mp hrow ▸ foldlM_apply_restricts (compose_restricts composes)
        (harm ▸ (compile_eq_ok.mp compiles).2.2.2.1)

section Sample

def sampleEnvironment : ControlEnvironment where
  fromisoformat text :=
    if text = "1970-01-01T01:00:00+00:00" then .aware 3600000000
    else if text = "1970-01-01T06:00:00+00:00" then .aware 21600000000
    else .invalid
  jsonBytes _ := 100

def sampleDraft (instant : Instant) : RequestDraft where
  armScope := .b3Risk
  scopeId := "run"
  context := .dict [("news_analyses", .list [.dict [("news_event_id", .str "event")]])]
  asOf := instant
  dataAvailableCutoff := instant
  createdAt := instant

def sampleSubmission (request : CommanderRequest) (operation : PolicyOperation ℚ)
    (receivedAt expiresAt : Instant) (expiry : String) : Submission ℚ where
  requestId := request.requestId
  provider := .codexSolMax
  output := ⟨request.requestId, request.contextManifestHash, .applyPatch, .b3Risk,
    request.basePolicyVersion, some receivedAt, some expiresAt, [operation], ["event"], 1 / 2,
    [⟨"expiry", .timeReached, "current_time", .gte, .text expiry, none, []⟩], "evidence"⟩
  receivedAt := receivedAt
  cycleId := none
  cycleLeaseOwner := none
  cycleAttemptCount := none
  databaseClock := none

def sampleDecision (index : ℕ) (operation : PolicyOperation ℚ) (receivedAt expiresAt : Instant)
    (expiry : String) (tables : ControlTables ℚ) : ControlAction ℚ :=
  match tables.requests[index]? with
  | none => .leaseCycles []
  | some row => .submit (sampleSubmission row.request operation receivedAt expiresAt expiry)

def reduceTotal (multiplier : ℚ) : PolicyOperation ℚ :=
  ⟨.reduceRiskBudget, .portfolio, "TOTAL", none, some multiplier, none⟩

def restoreTotal : PolicyOperation ℚ := ⟨.restoreDefault, .portfolio, "TOTAL", none, none, none⟩

def runScript (script : List (ControlTables ℚ → ControlAction ℚ)) :
    Except Failure (ControlTables ℚ) :=
  script.foldlM
    (fun tables choose => controlStep sampleEnvironment .hex tables (choose tables)) .empty

def restoredTooShortly : List (ControlTables ℚ → ControlAction ℚ) :=
  [fun _ => .select .codexSolMax none 0, fun _ => .request (sampleDraft 1),
    sampleDecision 0 (reduceTotal (1 / 2)) 10 21600000000 "1970-01-01T06:00:00Z",
    fun _ => .request (sampleDraft 11),
    sampleDecision 1 restoreTotal 20 3600000000 "1970-01-01T01:00:00Z",
    fun _ => .request (sampleDraft 21),
    sampleDecision 2 (reduceTotal (3 / 4)) 30 21600000000 "1970-01-01T06:00:00Z"]

def restoredLongEnough : List (ControlTables ℚ → ControlAction ℚ) :=
  [fun _ => .select .codexSolMax none 0, fun _ => .request (sampleDraft 1),
    sampleDecision 0 (reduceTotal (1 / 2)) 10 3600000000 "1970-01-01T01:00:00Z",
    fun _ => .request (sampleDraft 11),
    sampleDecision 1 restoreTotal 20 21600000000 "1970-01-01T06:00:00Z"]

omit [PolicyNumber R] in
theorem received_of_pairwise
    (h : tables.patches.Pairwise fun a b => a.patch.createdAt < b.patch.createdAt)
    (armId scopeId : String) : Received (tables.patchesOf armId scopeId) :=
  pairwise_map.mpr (h.sublist filter_sublist)

omit [PolicyNumber R] in
theorem restoresOutlive_of_pairwise
    (h : tables.patches.Pairwise fun a b => a.patch.expiresAt ≤ b.patch.expiresAt)
    (armId scopeId : String) : RestoresOutlive (tables.patchesOf armId scopeId) := by
  intro pre restore post hsplit _ patch hpatch _
  have hpairs : (tables.patchesOf armId scopeId).Pairwise fun a b => a.expiresAt ≤ b.expiresAt :=
    pairwise_map.mpr (h.sublist filter_sublist)
  obtain ⟨front, back, hactive, -⟩ := (mem_sinceReset PolicyPatch.restores).mp hpatch
  have hmem : patch ∈ activeIn pre restore.createdAt := by
    rw [hactive]
    exact mem_append_right _ mem_cons_self
  rw [hsplit, pairwise_append] at hpairs
  exact hpairs.2.2 patch (mem_filter.mp ((mem_sortedBy _).mp hmem)).1 restore mem_cons_self

theorem restoredLongEnough_resolves :
    ∃ taken tables, ControlRun sampleEnvironment .hex (.empty : ControlTables ℚ) taken tables ∧
      tables.results.map (·.receipt.status) = [.accepted, .accepted] ∧
      ∀ state ∈ taken.map (·.1) ++ [tables], ResolutionTotal state := by
  obtain ⟨tables, hrun, htest⟩ := exists_of_any (x := runScript restoredLongEnough)
    (p := fun tables => tables.patches.map (·.patch.createdAt) = [10, 20] ∧
      tables.patches.map (·.patch.expiresAt) = [3600000000, 21600000000] ∧
      tables.results.map (·.receipt.status) = [.accepted, .accepted]) (by decide +kernel)
  obtain ⟨hcreated, hexpires, hstatus⟩ := of_decide_eq_true htest
  obtain ⟨taken, run⟩ := Run.of_script hrun
  have hincreasing : (tables.patches.map (·.patch.createdAt)).Pairwise (· < ·) := by
    rw [hcreated]
    decide
  have hlonger : (tables.patches.map (·.patch.expiresAt)).Pairwise (· ≤ ·) := by
    rw [hexpires]
    decide
  refine ⟨taken, tables, run, hstatus, ?_⟩
  rw [resolution_total_iff run (received_of_pairwise (pairwise_map.mp hincreasing))]
  exact restoresOutlive_of_pairwise (pairwise_map.mp hlonger)

/-- After the restore has expired, two patches control one bucket. -/
theorem restoredTooShortly_fails :
    ∃ taken tables, ControlRun sampleEnvironment .hex (.empty : ControlTables ℚ) taken tables ∧
      (∀ armId scopeId, Received (tables.patchesOf armId scopeId)) ∧
      (tables.results.map (·.receipt.status) = [.accepted, .accepted, .accepted]) ∧
      tables.resolvePolicyState "B3-RISK" "run" 3600000000 =
        .error (controlledTwice "PORTFOLIO:TOTAL") := by
  obtain ⟨tables, hrun, htest⟩ := exists_of_any (x := runScript restoredTooShortly)
    (p := fun tables => tables.patches.map (·.patch.createdAt) = [10, 20, 30] ∧
      tables.results.map (·.receipt.status) = [.accepted, .accepted, .accepted] ∧
      failure? (tables.resolvePolicyState "B3-RISK" "run" 3600000000) =
        some (controlledTwice "PORTFOLIO:TOTAL")) (by decide +kernel)
  obtain ⟨hcreated, hstatus, hfailure⟩ := of_decide_eq_true htest
  obtain ⟨taken, run⟩ := Run.of_script hrun
  refine ⟨taken, tables, run, received_of_pairwise ?_, hstatus, failure?_eq_some.mp hfailure⟩
  have hpairs : (tables.patches.map (·.patch.createdAt)).Pairwise (· < ·) := by
    rw [hcreated]
    decide
  exact pairwise_map.mp hpairs

theorem restored_restricts : ∃ taken tables,
    ControlRun sampleEnvironment .hex (.empty : ControlTables ℚ) taken tables ∧
    (tables.versionsOf "B3-RISK" "run").length = 2 ∧
    ∀ row ∈ tables.versionsOf "B3-RISK" "run", row.state.Restricts "B3-RISK" := by
  obtain ⟨tables, hrun, htest⟩ := exists_of_any (x := runScript restoredLongEnough)
    (p := fun tables => (tables.versionsOf "B3-RISK" "run").length = 2) (by decide +kernel)
  obtain ⟨taken, run⟩ := Run.of_script hrun
  exact ⟨taken, tables, run, of_decide_eq_true htest, (policies_restrict run _ _).1⟩

end Sample

end AdaptiveQuant.Control
