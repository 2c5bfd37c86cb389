import AdaptiveQuant.Control.PolicyRestore

/-! Which policy is resolved. -/

namespace AdaptiveQuant.Control

open Guard Sequence Expiry List

variable {R : Type} [PolicyNumber R] {log log' : PolicyLog R} {instant since : Instant}
  {armId scopeId : String} {patch : PolicyPatch R} {patches : List (PolicyPatch R)}
  {compiled : PolicyState R}

theorem composePatch_at {later : Instant} {acc acc'}
    (hnow : patch.effectiveFrom ≤ instant ∧ instant < patch.expiresAt)
    (hlater : patch.effectiveFrom ≤ later ∧ later < patch.expiresAt) :
    composePatch armId instant true acc patch = .ok acc' ↔
      composePatch armId later true acc patch = .ok acc' := by
  rw [composePatch_eq_ok, composePatch_eq_ok]
  constructor
  · rintro ⟨hfits, hrest⟩
    exact ⟨⟨hfits.arm, hlater, hfits.conditions⟩, hrest⟩
  · rintro ⟨hfits, hrest⟩
    exact ⟨⟨hfits.arm, hnow, hfits.conditions⟩, hrest⟩

theorem compose_at {later : Instant} {version : ℕ} {policy}
    (hnow : ∀ patch ∈ patches, patch.effectiveFrom ≤ instant ∧ instant < patch.expiresAt)
    (hlater : ∀ patch ∈ patches, patch.effectiveFrom ≤ later ∧ later < patch.expiresAt) :
    compose armId patches version instant true = .ok policy ↔
      compose armId patches version later true = .ok policy := by
  rw [compose_eq_ok, compose_eq_ok]
  refine and_congr ?_ Iff.rfl
  generalize (policy.toPolicyEffects, policy.sourcePatchId) = result
  induction patches using List.reverseRecOn generalizing result with
  | nil => rfl
  | append_singleton patches patch ih =>
    have hfront := ih (fun p hp => hnow p (mem_append_left _ hp))
      fun p hp => hlater p (mem_append_left _ hp)
    have hlast : patch ∈ patches ++ [patch] := mem_append_right _ mem_cons_self
    simp only [foldlM_concat_eq_ok, hfront, composePatch_at (hnow patch hlast) (hlater patch hlast)]

omit [PolicyNumber R] in
theorem mem_activeIn : patch ∈ activeIn patches instant ↔
    patch ∈ patches ∧ (patch.effectiveFrom ≤ instant ∧ instant < patch.expiresAt) ∧
      patch.createdAt ≤ instant := by
  rw [activeIn, mem_sortedBy, mem_filter, decide_eq_true_eq]

omit [PolicyNumber R] in
theorem activeIn_window (started : ∀ patch ∈ patches, patch.effectiveFrom ≤ patch.createdAt)
    (le : since ≤ instant) (unexpired : ∀ patch ∈ activeIn patches since, instant < patch.expiresAt)
    (last : ∀ patch ∈ patches, patch.createdAt ≤ instant → patch.createdAt ≤ since) :
    activeIn patches instant = activeIn patches since := by
  have hfilter : (patches.filter fun patch =>
      (patch.effectiveFrom ≤ instant ∧ instant < patch.expiresAt) ∧ patch.createdAt ≤ instant) =
      patches.filter fun patch =>
        (patch.effectiveFrom ≤ since ∧ since < patch.expiresAt) ∧ patch.createdAt ≤ since := by
    refine filter_congr fun patch hpatch => ?_
    rw [decide_eq_decide]
    constructor
    · rintro ⟨⟨-, hexpires⟩, hcreated⟩
      have hsince := last patch hpatch hcreated
      exact ⟨⟨(started patch hpatch).trans hsince, lt_of_le_of_lt le hexpires⟩, hsince⟩
    · rintro ⟨⟨hfrom, hexpires⟩, hcreated⟩
      have hlong := unexpired patch (mem_activeIn.mpr ⟨hpatch, ⟨hfrom, hexpires⟩, hcreated⟩)
      exact ⟨⟨hfrom.trans le, hlong⟩, hcreated.trans le⟩
  rw [activeIn, activeIn, hfilter]

/-- From its acceptance on, a compiled policy is the stored one and the composed one, at the
instants before its patches expire and before another is accepted. -/
structure Serves (armId : String) (since : Instant) (lasts : Instant → Prop)
    (compiled : PolicyState R) (log : PolicyLog R) : Prop where
  accepted : ∃ patch ∈ log.patches, patch.createdAt = since
  stored : ∀ instant, since ≤ instant → lasts instant →
    (∀ patch ∈ log.patches, patch.createdAt ≤ instant → patch.createdAt ≤ since) →
    (log.upTo instant).latest armId = compiled
  composed : ∀ instant, since ≤ instant → lasts instant →
    (∀ patch ∈ log.patches, patch.createdAt ≤ instant → patch.createdAt ≤ since) →
    compose armId (activeIn log.patches instant) compiled.version instant true = .ok compiled

omit [PolicyNumber R] in
theorem upTo_append (log : PolicyLog R) (patches : List (PolicyPatch R)) (row : PolicyVersionRow R)
    (later : instant < row.createdAt) :
    ((⟨patches, log.versions ++ [row]⟩ : PolicyLog R).upTo instant).versions =
      (log.upTo instant).versions := by
  simp [PolicyLog.upTo, filter_append, not_le.mpr later]

omit [PolicyNumber R] in
theorem activeIn_append (later : instant < patch.createdAt) :
    activeIn (patches ++ [patch]) instant = activeIn patches instant := by
  have hfilter : [patch].filter (fun patch =>
      (patch.effectiveFrom ≤ instant ∧ instant < patch.expiresAt) ∧ patch.createdAt ≤ instant) =
        [] := by
    simp [not_le.mpr later]
  rw [activeIn, filter_append, hfilter, append_nil, activeIn]

theorem Serves.move {lasts : Instant → Prop} (serves : Serves armId since lasts compiled log)
    (down : ∀ a b, a ≤ b → lasts b → lasts a) (sound : log.Sound armId)
    (move : PolicyMove armId log log') (received : Received log'.patches) :
    Serves armId since lasts compiled log' := by
  obtain ⟨accepted, haccepted, hsince⟩ := serves.accepted
  obtain ⟨first, hfirst, hdate⟩ := sound.dated accepted haccepted
  cases move with
  | @recompose scopeId other composed reached composes differs =>
    have hafter : since ≤ other := hsince ▸ hdate ▸ reached first hfirst
    -- at the instant of the recomposition the policy was in force
    have hbefore : ∀ instant, lasts instant →
        (∀ patch ∈ log.patches, patch.createdAt ≤ instant → patch.createdAt ≤ since) →
        instant < other := by
      intro instant hlasts hlast
      by_contra hle
      have hle := not_lt.mp hle
      have hearlier : ∀ patch ∈ log.patches, patch.createdAt ≤ other → patch.createdAt ≤ since :=
        fun patch hpatch hcreated => hlast patch hpatch (hcreated.trans hle)
      have hstored := serves.stored other hafter (down _ _ hle hlasts) hearlier
      have hcomposed := serves.composed other hafter (down _ _ hle hlasts) hearlier
      rw [PolicyLog.upTo_of_reached reached] at hstored
      obtain ⟨hfold, harm, -⟩ := compose_eq_ok.mp hcomposed
      obtain ⟨hfold', harm', -⟩ := compose_eq_ok.mp composes
      obtain ⟨heffects, hsource⟩ := Prod.mk.inj (Except.ok.inj (hfold.symm.trans hfold'))
      refine differs ?_
      rw [hstored]
      exact ⟨harm.trans harm'.symm, congrArg (·.portfolioRiskMultiplier) heffects,
        congrArg (·.strategyRiskDeltas) heffects, congrArg (·.blockedTargets) heffects,
        congrArg (·.activeBuckets) heffects, hsource⟩
    refine ⟨⟨accepted, haccepted, hsince⟩, fun instant hle hlasts hlast => ?_, serves.composed⟩
    have hupTo := upTo_append log log.patches ⟨scopeId, composed, other⟩
      (hbefore instant hlasts hlast)
    rw [PolicyLog.latest, hupTo]
    exact serves.stored instant hle hlasts hlast
  | @accept scopeId patch result reached composes compiles =>
    have hafter : since < patch.createdAt :=
      hsince ▸ (pairwise_append.mp received).2.2 accepted haccepted patch mem_cons_self
    have hbefore : ∀ instant, (∀ other ∈ log.patches ++ [patch], other.createdAt ≤ instant →
        other.createdAt ≤ since) → instant < patch.createdAt := by
      intro instant hlast
      by_contra hle
      exact absurd (hlast patch (by simp) (not_lt.mp hle)) (not_le.mpr hafter)
    refine ⟨⟨accepted, mem_append_left _ haccepted, hsince⟩, fun instant hle hlasts hlast => ?_,
      fun instant hle hlasts hlast => ?_⟩
    · have hupTo := upTo_append log (log.patches ++ [patch]) ⟨scopeId, result, patch.createdAt⟩
        (hbefore instant hlast)
      rw [PolicyLog.latest, hupTo]
      exact serves.stored instant hle hlasts fun other hother =>
        hlast other (mem_append_left _ hother)
    · rw [activeIn_append (hbefore instant hlast)]
      exact serves.composed instant hle hlasts fun other hother =>
        hlast other (mem_append_left _ hother)

theorem serves_of_compiled {pre versions row} (hpatches : log.patches = pre ++ [patch])
    (hversions : log.versions = versions ++ [row]) (created : row.createdAt = patch.createdAt)
    (ordered : log.Ordered) (sound : log.Sound armId) (received : Received log.patches) :
    Serves armId patch.createdAt
      (fun instant => ∀ other ∈ activeIn log.patches patch.createdAt, instant < other.expiresAt)
      row.state log := by
  have hlast : log.versions.getLast? = some row := by rw [hversions, List.getLast?_concat]
  have hfaithful := sound.faithful received row hlast
  rw [created] at hfaithful
  refine ⟨⟨patch, by rw [hpatches]; simp, rfl⟩, fun instant hle _ _ => ?_,
    fun instant hle hlasts hlater => ?_⟩
  · have hreached : ∀ other ∈ log.versions, other.createdAt ≤ instant := by
      have hsorted := ordered.created
      rw [hversions] at hsorted ⊢
      intro other hother
      refine le_trans ?_ (created.le.trans hle)
      rcases mem_append.mp hother with hother | hother
      · exact (pairwise_append.mp hsorted).2.2 other hother row mem_cons_self
      · rw [mem_singleton.mp hother]
    rw [PolicyLog.upTo_of_reached hreached, PolicyLog.latest, hlast]
    rfl
  · have hwindow := activeIn_window (fun other hother => (sound.fits hother).active.1) hle hlasts
      hlater
    rw [hwindow]
    refine (compose_at (fun other hother => (mem_activeIn.mp hother).2.1) fun other hother => ?_).mp
      hfaithful
    exact ⟨(mem_activeIn.mp hother).2.1.1.trans hle, hlasts other hother⟩

variable {env : ControlEnvironment} {hash : Hashing} {tables next : ControlTables R}
  {taken : List (ControlTables R × ControlAction R)} {lasts : Instant → Prop}

theorem Serves.resolves
    (serves : Serves armId since lasts compiled (tables.policyLog armId scopeId))
    (ordered : (tables.policyLog armId scopeId).Ordered) (le : since ≤ instant)
    (hlasts : lasts instant)
    (last : ∀ patch ∈ tables.patchesOf armId scopeId, patch.createdAt ≤ instant →
      patch.createdAt ≤ since) :
    tables.resolvePolicyState armId scopeId instant = .ok (compiled, tables) := by
  have hstored := serves.stored instant le hlasts last
  have hcomposed :
    compose armId (tables.activePatches armId scopeId instant) compiled.version instant
      true = .ok compiled := serves.composed instant le hlasts last
  have hsame : samePolicyEffects compiled compiled := ⟨rfl, rfl, rfl, rfl, rfl, rfl⟩
  simp only [ControlTables.resolvePolicyState, loadLatest_some ordered, hstored, hcomposed, ok_bind,
    if_pos hsame]
  rfl

theorem PolicyMove.received (move : PolicyMove armId log log') (received : Received log'.patches) :
    Received log.patches := by
  cases move with
  | recompose reached composes differs => exact received
  | accept reached composes compiles => exact (pairwise_append.mp received).1

theorem PolicyMoves.received (moves : PolicyMoves armId log log')
    (received : Received log'.patches) : Received log.patches := by
  induction moves with
  | refl => exact received
  | tail _ move ih => exact ih (move.received received)

theorem Serves.moves (serves : Serves armId since lasts compiled log)
    (down : ∀ a b, a ≤ b → lasts b → lasts a) (sound : log.Sound armId)
    (moves : PolicyMoves armId log log') (received : Received log'.patches) :
    Serves armId since lasts compiled log' := by
  have hboth : log'.Sound armId ∧ Serves armId since lasts compiled log' := by
    induction moves with
    | refl => exact ⟨sound, serves⟩
    | tail _ move ih =>
      obtain ⟨hsound, hserves⟩ := ih (move.received received)
      exact ⟨move.sound hsound, hserves.move down hsound move received⟩
  exact hboth.2

theorem run_moves {start} (ordered : ∀ armId scopeId, (start.policyLog armId scopeId).Ordered)
    (run : ControlRun env hash start taken tables) :
    (∀ armId scopeId, (tables.policyLog armId scopeId).Ordered) ∧ ∀ armId scopeId,
      PolicyMoves armId (start.policyLog armId scopeId) (tables.policyLog armId scopeId) := by
  induction run with
  | start => exact ⟨ordered, fun _ _ => .refl⟩
  | next run ok ih =>
    have hmoves := controlStep_moves ih.1 ok
    refine ⟨fun armId scopeId => ?_, fun armId scopeId =>
      (ih.2 armId scopeId).trans (hmoves armId scopeId)⟩
    exact ((hmoves armId scopeId).inv (I := fun _ => True) (ih.1 armId scopeId) trivial
      fun _ _ _ _ _ => trivial).1

theorem serves_of_accepted (run : ControlRun env hash .empty taken tables) {submission receipt}
    (ok : tables.submitDecision env hash submission = .ok (receipt, next))
    (haccepted : receipt.status = .accepted) (hnew : receipt.idempotentReplay = false) :
    ∃ row compiled, tables.requests.find? (·.request.requestId = submission.requestId) = some row ∧
      receipt.appliedPolicyVersion = some compiled.version ∧
      receipt.compiledPolicyHash = some (hash.canonicalHash compiled.asPayload) ∧
      (Received (next.patchesOf row.request.armScope.value row.request.scopeId) →
        Serves row.request.armScope.value submission.receivedAt
          (fun instant => ∀ other ∈ next.activePatches row.request.armScope.value
            row.request.scopeId submission.receivedAt, instant < other.expiresAt)
          compiled (next.policyLog row.request.armScope.value row.request.scopeId)) := by
  have hordered := policyLog_ordered run
  rcases submitDecision_cases ok with ⟨_, _, hreplays⟩ | ⟨row, verdict, judged, hdecides⟩
  · rw [hreplays.receipt_eq] at hnew
    exact absurd hnew (by simp)
  have hverdict : verdict.status = .accepted := by
    rw [hdecides.receipt_eq] at haccepted
    exact haccepted
  rcases hdecides.judges with ⟨-, hother⟩ | ⟨current, resolved, hresolve, ⟨-, hother⟩ |
    ⟨patch, compiled, haccepts⟩⟩
  · exact absurd hverdict hother
  · rw [hverdict] at hother
    exact absurd hother (by simp)
  have hstep : ControlRun env hash .empty (taken ++ [(tables, .submit submission)]) next :=
    .next run (by simp only [controlStep, map_eq_ok]; exact ⟨_, ok, rfl⟩)
  refine ⟨row, compiled, hdecides.request, ?_, ?_, fun received => ?_⟩
  · rw [hdecides.receipt_eq, Submission.receipt, haccepts.verdict_eq]
    rfl
  · rw [hdecides.receipt_eq, Submission.receipt, haccepts.verdict_eq]
    rfl
  obtain ⟨harm, hscope, -, -⟩ := haccepts.move (by exact hordered _ _) hresolve
  have hlog := policyLog_storePatch harm haccepts.stored row.request.armScope.value
    row.request.scopeId
  rw [if_pos ⟨rfl, hscope⟩] at hlog
  have hnext : next.policyLog row.request.armScope.value row.request.scopeId =
      judged.policyLog row.request.armScope.value row.request.scopeId := by
    rw [hdecides.next_eq]
    rfl
  have hserves := serves_of_compiled (congrArg PolicyLog.patches (hnext.trans hlog))
    (congrArg PolicyLog.versions (hnext.trans hlog)) rfl (policyLog_ordered hstep _ _)
    (policyLog_sound hstep _ _) received
  rw [haccepts.created] at hserves
  exact hserves

/-- Compiling a patch into a composed policy agrees with composing it after the others, over every
run in which the patches of an arm are accepted at increasing instants. -/
theorem compiled_policy_resolved (run : ControlRun env hash .empty taken tables)
    (received : ∀ armId scopeId, Received (tables.patchesOf armId scopeId)) :
    (∀ armId (patches : List (PolicyPatch R)) version instant shadowMode current patch compiled,
      compose armId patches version instant shadowMode = .ok current →
      (compile patch current instant shadowMode = .ok compiled ↔
        patch.basePolicyVersion = current.version ∧ armId ∈ ["B3-RISK", "B3-FULL"] ∧
        compose armId (patches ++ [patch]) (version + 1) instant shadowMode = .ok compiled)) ∧
    (∀ pre state submission post receipt next,
      taken = pre ++ (state, ControlAction.submit submission) :: post →
      state.submitDecision env hash submission = .ok (receipt, next) →
      receipt.status = .accepted → receipt.idempotentReplay = false →
      ∃ row compiled, state.requests.find? (·.request.requestId = submission.requestId) = some row ∧
        receipt.appliedPolicyVersion = some compiled.version ∧
        receipt.compiledPolicyHash = some (hash.canonicalHash compiled.asPayload) ∧
        ∀ instant, submission.receivedAt ≤ instant →
          (∀ patch ∈ next.activePatches row.request.armScope.value row.request.scopeId
            submission.receivedAt, instant < patch.expiresAt) →
          (∀ patch ∈ tables.patchesOf row.request.armScope.value row.request.scopeId,
            patch.createdAt ≤ instant → patch.createdAt ≤ submission.receivedAt) →
          tables.resolvePolicyState row.request.armScope.value row.request.scopeId instant =
            .ok (compiled, tables)) ∧
    ∀ armId scopeId instant policy next,
      tables.resolvePolicyState armId scopeId instant = .ok (policy, next) →
      compose armId (tables.activePatches armId scopeId instant) policy.version instant true =
        .ok policy := by
  refine ⟨?_, ?_, ?_⟩
  · intro armId patches version instant shadowMode current patch compiled hcompose
    obtain ⟨-, -, rfl⟩ := compose_eq_ok.mp hcompose
    exact compile_composed hcompose
  · intro pre state submission post receipt next hsplit hok haccepted hnew
    obtain ⟨reached, hpre, hpost⟩ := run.split hsplit
    obtain ⟨rfl, next', hstep, hafter⟩ := hpost.first rfl
    obtain rfl : next = next' := by
      simp only [controlStep, hok] at hstep
      exact Except.ok.inj hstep
    obtain ⟨row, compiled, hrow, hversion, hhash, hserves⟩ :=
      serves_of_accepted hpre hok haccepted hnew
    have hrun : ControlRun env hash .empty (pre ++ [(state, .submit submission)]) next :=
      .next hpre hstep
    obtain ⟨hordered, hmoves⟩ := run_moves (policyLog_ordered hrun) hafter
    refine ⟨row, compiled, hrow, hversion, hhash, fun instant hle hlasts hlast => ?_⟩
    have hmove := hmoves row.request.armScope.value row.request.scopeId
    have hbefore : Received (next.patchesOf row.request.armScope.value row.request.scopeId) :=
      hmove.received (received _ _)
    refine ((hserves hbefore).moves ?_ (policyLog_sound hrun _ _) hmove (received _ _)).resolves
      (hordered _ _) hle hlasts hlast
    intro a b hab hb other hother
    exact lt_of_le_of_lt hab (hb other hother)
  · intro armId scopeId instant policy next hresolve
    exact (resolvePolicyState_cases (policyLog_ordered run armId scopeId) hresolve).1

section Sample

def reduceUntilSix (row : CommanderRequestRow) : Submission ℚ :=
  sampleSubmission row.request (reduceTotal (1 / 2)) 10 21600000000 "1970-01-01T06:00:00Z"

def acceptsReduction (tables : ControlTables ℚ) : Bool :=
  match tables.requests with
  | [row] => row.request.armScope = .b3Risk && row.request.scopeId = "run" &&
    (tables.submitDecision sampleEnvironment .hex (reduceUntilSix row)).toOption.any
      fun (receipt, next) => receipt.status = .accepted && receipt.idempotentReplay = false &&
        receipt.appliedPolicyVersion = some 1 &&
        next.patches.map (fun row => (row.patch.createdAt, row.patch.expiresAt)) =
          [(10, 21600000000)]
  | _ => false

/-- The reduction until six is the policy until then. -/
theorem reduction_resolved :
    ∃ taken tables compiled, ControlRun sampleEnvironment .hex (.empty : ControlTables ℚ)
      taken tables ∧
      compiled.version = 1 ∧
      tables.resolvePolicyState "B3-RISK" "run" 21599999999 = .ok (compiled, tables) := by
  obtain ⟨tables, hrun, htest⟩ := exists_of_any (p := acceptsReduction)
    (x := runScript [fun _ => .select .codexSolMax none 0, fun _ => .request (sampleDraft 1)])
    (by decide +kernel)
  obtain ⟨taken, run⟩ := Run.of_script hrun
  unfold acceptsReduction at htest
  split at htest
  · rename_i row hrequests
    rw [Bool.and_eq_true, Bool.and_eq_true] at htest
    obtain ⟨⟨harm, hscope⟩, hsubmit⟩ := htest
    obtain ⟨⟨receipt, next⟩, hok, hresult⟩ := exists_of_any hsubmit
    simp only [Bool.and_eq_true, decide_eq_true_eq] at harm hscope hresult
    obtain ⟨⟨⟨haccepted, hnew⟩, hversion⟩, hpatches⟩ := hresult
    have hstep : ControlRun sampleEnvironment .hex .empty
        (taken ++ [(tables, .submit (reduceUntilSix row))]) next :=
      .next run (by simp only [controlStep, map_eq_ok]; exact ⟨_, hok, rfl⟩)
    obtain ⟨patchRow, hpatch, hdates⟩ := map_eq_singleton_iff.mp hpatches
    obtain ⟨hcreated, hexpires⟩ := Prod.mk.inj hdates
    have hmem : ∀ patch ∈ next.patchesOf "B3-RISK" "run", patch = patchRow.patch := by
      intro patch hmem
      obtain ⟨other, hother, rfl⟩ := mem_map.mp hmem
      have hin := (mem_filter.mp hother).1
      rw [hpatch, mem_singleton] at hin
      rw [hin]
    have hreceived : ∀ armId scopeId, Received (next.patchesOf armId scopeId) :=
      received_of_pairwise (by rw [hpatch]; exact pairwise_singleton _ _)
    obtain ⟨row', compiled, hrow, happlied, -, hresolves⟩ :=
      (compiled_policy_resolved hstep hreceived).2.1 taken tables _ [] receipt next rfl hok
        haccepted
        hnew
    obtain rfl : row = row' := by
      rw [hrequests] at hrow
      exact (mem_singleton.mp (mem_of_find?_eq_some hrow)).symm
    rw [harm, hscope] at hresolves
    have hreceivedAt : (reduceUntilSix row).receivedAt = 10 := rfl
    rw [hreceivedAt] at hresolves
    refine ⟨_, next, compiled, hstep, ?_, hresolves 21599999999 (by decide) ?_ ?_⟩
    · rw [happlied] at hversion
      exact Option.some.inj hversion
    · intro patch hactive
      rw [hmem patch (mem_filter.mp ((mem_sortedBy _).mp hactive)).1, hexpires]
      decide
    · intro patch hin _
      rw [hmem patch hin, hcreated]
  · cases htest

theorem staleWindow : (0 : Instant) < 10 := by decide

def stalePatch : PolicyPatch ℚ where
  patchId := "patch"
  armScope := "B3-RISK"
  basePolicyVersion := 0
  effectiveFrom := 0
  expiresAt := 10
  operations := [reduceTotal (1 / 2)]
  evidenceNewsEventIds := ["event"]
  rawConfidence := 1 / 2
  rollbackConditions := []
  modelRunId := "model-run"
  promptHash := "prompt"
  contextManifestHash := "context"
  createdAt := 5
  window := staleWindow
  operations_ne := by decide
  evidence_ne := by decide

/-- A patch that composes and does not compile. -/
theorem stalePatch_composes_only :
    ∃ current : PolicyState ℚ, compose "B3-RISK" [] 1 5 true = .ok current ∧
      (stalePatch.effectiveFrom ≤ 5 ∧ 5 < stalePatch.expiresAt) ∧
      compile stalePatch current 5 true =
        .error (policyCompileError "Patch base policy version mismatch") ∧
      Succeeds (compose "B3-RISK" ([] ++ [stalePatch]) 2 5 true) := by
  refine ⟨⟨.default, "B3-RISK", 1, none⟩, rfl, by decide, rfl, ?_⟩
  obtain ⟨composed, hcomposed, -⟩ := exists_of_any (p := fun _ => true)
    (x := compose "B3-RISK" ([] ++ [stalePatch]) 2 5 true) (by decide +kernel)
  exact ⟨composed, hcomposed⟩

end Sample

end AdaptiveQuant.Control
