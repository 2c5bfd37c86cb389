import AdaptiveQuant.Control.Service
import AdaptiveQuant.Llm.PolicyComposition
import Mathlib.Logic.Relation

/-! The policies of one arm of a scope. -/

namespace AdaptiveQuant.Control

open Guard Sequence List

/-- The patches and the versions of one arm, in the order they came. -/
structure PolicyLog (R : Type) where
  patches : List (PolicyPatch R)
  versions : List (PolicyVersionRow R)

variable {R : Type} {log log' : PolicyLog R} {instant : Instant} {armId scopeId : String}
  {tables next : ControlTables R} {policy : PolicyState R} {patch : PolicyPatch R}

def activeIn (patches : List (PolicyPatch R)) (instant : Instant) : List (PolicyPatch R) :=
  sortedBy (fun patch => toLex (patch.createdAt, patch.patchId))
    (patches.filter fun patch =>
      (patch.effectiveFrom ≤ instant ∧ instant < patch.expiresAt) ∧ patch.createdAt ≤ instant)

def ControlTables.policyLog (tables : ControlTables R) (armId scopeId : String) : PolicyLog R :=
  ⟨tables.patchesOf armId scopeId, tables.versionsOf armId scopeId⟩

namespace PolicyLog

def upTo (log : PolicyLog R) (instant : Instant) : PolicyLog R :=
  { log with versions := log.versions.filter (·.createdAt ≤ instant) }

structure Ordered (log : PolicyLog R) : Prop where
  numbered : Numbered (·.state.version) log.versions
  created : log.versions.Pairwise fun a b => a.createdAt ≤ b.createdAt

theorem Ordered.upTo (ordered : log.Ordered) (instant : Instant) : (log.upTo instant).Ordered := by
  have hsplit := filter_le_append_filter_lt PolicyVersionRow.createdAt ordered.created instant
  have htake : (log.upTo instant).versions =
      log.versions.take (log.upTo instant).versions.length := by
    conv_rhs => rw [← hsplit]
    exact take_left.symm
  refine ⟨?_, ordered.created.sublist filter_sublist⟩
  rw [htake]
  exact ordered.numbered.take _

variable [PolicyNumber R]

def latest (log : PolicyLog R) (armId : String) : PolicyState R :=
  (log.versions.getLast?.map (·.state)).getD (.default armId)

theorem latest_version (ordered : log.Ordered) (armId : String) :
    (log.latest armId).version = log.versions.length := by
  rcases eq_nil_or_concat' log.versions with hnil | ⟨front, row, hconcat⟩
  · rw [latest, hnil]
    rfl
  · have hnumbered := ordered.numbered
    rw [hconcat, numbered_concat] at hnumbered
    rw [latest, hconcat, List.getLast?_concat, length_append]
    exact hnumbered.2

theorem reached_of_version_le (ordered : log.Ordered)
    (h : ¬((log.upTo instant).latest armId).version < (log.latest armId).version) :
    ∀ row ∈ log.versions, row.createdAt ≤ instant := by
  rw [latest_version (ordered.upTo instant), latest_version ordered] at h
  have hlength : (log.versions.filter (·.createdAt ≤ instant)).length = log.versions.length :=
    le_antisymm (length_filter_le _ _) (not_lt.mp h)
  intro row hrow
  exact of_decide_eq_true (length_filter_eq_length_iff.mp hlength row hrow)

omit [PolicyNumber R] in
theorem upTo_of_reached (reached : ∀ row ∈ log.versions, row.createdAt ≤ instant) :
    log.upTo instant = log := by
  have hself : log.versions.filter (·.createdAt ≤ instant) = log.versions :=
    filter_eq_self.mpr fun row hrow => decide_eq_true (reached row hrow)
  rw [upTo, hself]

end PolicyLog

variable [PolicyNumber R]

theorem loadLatest_none (ordered : (tables.policyLog armId scopeId).Ordered) :
    tables.loadLatestPolicyState armId scopeId none =
      (tables.policyLog armId scopeId).latest armId := by
  have hall : (tables.versionsOf armId scopeId).filter (fun _ => true) =
      (tables.policyLog armId scopeId).versions := filter_eq_self.mpr fun _ _ => rfl
  show ((sortedBy _ ((tables.versionsOf armId scopeId).filter fun _ => true)).getLast?.map _).getD _
    = _
  rw [hall, ordered.numbered.sortedBy_eq]
  rfl

theorem loadLatest_some (ordered : (tables.policyLog armId scopeId).Ordered) (instant : Instant) :
    tables.loadLatestPolicyState armId scopeId (some instant) =
      ((tables.policyLog armId scopeId).upTo instant).latest armId := by
  show ((sortedBy _ ((tables.policyLog armId scopeId).upTo instant).versions).getLast?.map _).getD _
    = _
  rw [(ordered.upTo instant).numbered.sortedBy_eq]
  rfl

omit [PolicyNumber R] in
theorem policyLog_append_version (tables : ControlTables R) (row : PolicyVersionRow R)
    (armId scopeId : String) :
    ({ tables with versions := tables.versions ++ [row] } : ControlTables R).policyLog armId
      scopeId =
      ⟨tables.patchesOf armId scopeId, tables.versionsOf armId scopeId ++
        if row.scopeId = scopeId ∧ row.state.armId = armId then [row] else []⟩ := by
  simp only [ControlTables.policyLog, ControlTables.versionsOf, filter_append,
    PolicyLog.mk.injEq]
  refine ⟨rfl, ?_⟩
  by_cases h : row.scopeId = scopeId ∧ row.state.armId = armId <;> simp [h]

omit [PolicyNumber R] in
theorem patchesOf_append (tables : ControlTables R) (row : PolicyPatchRow R)
    (armId scopeId : String) :
    ({ tables with patches := tables.patches ++ [row] } : ControlTables R).patchesOf armId scopeId =
      tables.patchesOf armId scopeId ++
        if row.scopeId = scopeId ∧ row.patch.armScope = armId then [row.patch] else [] := by
  simp only [ControlTables.patchesOf, filter_append, map_append]
  by_cases h : row.scopeId = scopeId ∧ row.patch.armScope = armId <;> simp [h]

omit [PolicyNumber R] in
theorem appendVersion_eq_ok {row} :
    tables.appendVersion row = .ok next ↔
      (∀ other ∈ tables.versionsOf row.state.armId row.scopeId,
        other.state.version ≠ row.state.version) ∧
      next = { tables with versions := tables.versions ++ [row] } := by
  simp only [ControlTables.appendVersion, ok_iff]
  constructor
  · rintro ⟨hfresh, rfl⟩
    refine ⟨fun other hother hversion => hfresh ?_, rfl⟩
    obtain ⟨hmem, hkey⟩ := mem_filter.mp hother
    obtain ⟨hscope, harm⟩ := of_decide_eq_true hkey
    exact ⟨other, hmem, hscope, harm, hversion⟩
  · rintro ⟨hfresh, rfl⟩
    refine ⟨?_, rfl⟩
    rintro ⟨other, hmem, hscope, harm, hversion⟩
    exact hfresh other (mem_filter.mpr ⟨hmem, decide_eq_true ⟨hscope, harm⟩⟩) hversion

/-- One step of an arm's log: a recomposition or an accepted patch. -/
inductive PolicyMove (armId : String) (log : PolicyLog R) : PolicyLog R → Prop
  | recompose {scopeId : String} {instant : Instant} {composed : PolicyState R}
      (reached : ∀ row ∈ log.versions, row.createdAt ≤ instant)
      (composes : compose armId (activeIn log.patches instant) ((log.latest armId).version + 1)
        instant true = .ok composed)
      (differs : ¬samePolicyEffects (log.latest armId) composed) :
      PolicyMove armId log ⟨log.patches, log.versions ++ [⟨scopeId, composed, instant⟩]⟩
  | accept {scopeId : String} {patch : PolicyPatch R} {compiled : PolicyState R}
      (reached : ∀ row ∈ log.versions, row.createdAt ≤ patch.createdAt)
      (composes : compose armId (activeIn log.patches patch.createdAt) (log.latest armId).version
        patch.createdAt true = .ok (log.latest armId))
      (compiles : compile patch (log.latest armId) patch.createdAt true = .ok compiled) :
      PolicyMove armId log
        ⟨log.patches ++ [patch], log.versions ++ [⟨scopeId, compiled, patch.createdAt⟩]⟩

abbrev PolicyMoves (armId : String) (log log' : PolicyLog R) : Prop :=
  Relation.ReflTransGen (PolicyMove armId) log log'

theorem PolicyLog.Ordered.append (ordered : log.Ordered) {row : PolicyVersionRow R}
    (reached : ∀ other ∈ log.versions, other.createdAt ≤ row.createdAt)
    (version : row.state.version = (log.latest armId).version + 1)
    (patches : List (PolicyPatch R)) :
    PolicyLog.Ordered ⟨patches, log.versions ++ [row]⟩ := by
  rw [PolicyLog.latest_version ordered] at version
  refine ⟨numbered_concat.mpr ⟨ordered.numbered, version⟩, ?_⟩
  refine pairwise_append.mpr ⟨ordered.created, pairwise_singleton _ _, ?_⟩
  intro other hother last hlast
  rw [mem_singleton.mp hlast]
  exact reached other hother

theorem PolicyMove.ordered (move : PolicyMove armId log log') (ordered : log.Ordered) :
    log'.Ordered := by
  cases move with
  | recompose reached composes differs =>
    exact ordered.append reached (compose_eq_ok.mp composes).2.2 _
  | accept reached composes compiles =>
    exact ordered.append reached (compile_eq_ok.mp compiles).2.2.2.2.2.1 _

theorem resolvePolicyState_cases (ordered : (tables.policyLog armId scopeId).Ordered)
    (h : tables.resolvePolicyState armId scopeId instant = .ok (policy, next)) :
    compose armId (tables.activePatches armId scopeId instant) policy.version instant true =
        .ok policy ∧
      (next = tables ∧ policy.version =
          (((tables.policyLog armId scopeId).upTo instant).latest armId).version ∧
          (policy = ((tables.policyLog armId scopeId).upTo instant).latest armId ∨
            policy.version < ((tables.policyLog armId scopeId).latest armId).version) ∨
        (∀ row ∈ tables.versionsOf armId scopeId, row.createdAt ≤ instant) ∧
        ¬samePolicyEffects ((tables.policyLog armId scopeId).latest armId) policy ∧
        policy.version = ((tables.policyLog armId scopeId).latest armId).version + 1 ∧
        next = { tables with versions := tables.versions ++ [⟨scopeId, policy, instant⟩] }) := by
  simp only [ControlTables.resolvePolicyState, bind_eq_ok] at h
  obtain ⟨composed, hcompose, h⟩ := h
  rw [loadLatest_some ordered] at hcompose h
  rw [loadLatest_none ordered] at h
  obtain ⟨hfold, harm, hversion⟩ := compose_eq_ok.mp hcompose
  split at h
  · rename_i hsame
    obtain ⟨rfl, rfl⟩ := Prod.mk.inj (pure_eq_ok.mp h)
    refine ⟨?_, .inl ⟨rfl, rfl, .inl rfl⟩⟩
    obtain ⟨h1, h2, h3, h4, h5, h6⟩ := hsame
    have heq : ((tables.policyLog armId scopeId).upTo instant).latest armId = composed := by
      ext1 <;> first | assumption | exact hversion.symm
    rw [heq] at hcompose ⊢
    exact hcompose
  · rename_i hdiffers
    split at h
    · rename_i hlater
      obtain ⟨rfl, rfl⟩ := Prod.mk.inj (pure_eq_ok.mp h)
      refine ⟨by rw [hversion]; exact hcompose, .inl ⟨rfl, hversion, .inr ?_⟩⟩
      rw [hversion]
      exact hlater
    · rename_i hlast
      have hreached := PolicyLog.reached_of_version_le ordered hlast
      rw [PolicyLog.upTo_of_reached hreached] at hdiffers h
      simp only [ok_iff] at h
      obtain ⟨appended, happend, heq⟩ := h
      obtain ⟨rfl, rfl⟩ := Prod.mk.inj heq
      refine ⟨compose_eq_ok.mpr ⟨hfold, harm, rfl⟩, .inr ⟨hreached, hdiffers, rfl, ?_⟩⟩
      exact (appendVersion_eq_ok.mp happend).2

theorem latest_of_fresh (ordered : (tables.policyLog armId scopeId).Ordered)
    (h : tables.resolvePolicyState armId scopeId instant = .ok (policy, next))
    (fresh : ∀ other ∈ next.versionsOf armId scopeId, other.state.version ≠ policy.version + 1) :
    (next.policyLog armId scopeId).latest armId = policy ∧
      ∀ row ∈ next.versionsOf armId scopeId, row.createdAt ≤ instant := by
  obtain ⟨hcompose, hcases⟩ := resolvePolicyState_cases ordered h
  rcases hcases with ⟨rfl, hversion, hpolicy⟩ | ⟨hreached, -, -, rfl⟩
  · have hlast : ¬policy.version < ((next.policyLog armId scopeId).latest armId).version := by
      intro hlt
      rw [PolicyLog.latest_version ordered] at hlt
      obtain ⟨row, hrow, hnumber⟩ := ordered.numbered.exists_of_lt hlt
      exact fresh row hrow hnumber
    have hreached := PolicyLog.reached_of_version_le ordered (hversion ▸ hlast)
    rw [PolicyLog.upTo_of_reached hreached] at hpolicy
    exact ⟨(hpolicy.resolve_right hlast).symm, hreached⟩
  · have harm : policy.armId = armId := (compose_eq_ok.mp hcompose).2.1
    have hlog := policyLog_append_version tables ⟨scopeId, policy, instant⟩ armId scopeId
    rw [if_pos ⟨rfl, harm⟩] at hlog
    refine ⟨by rw [hlog, PolicyLog.latest, List.getLast?_concat]; rfl, fun row hrow => ?_⟩
    have hversions := congrArg PolicyLog.versions hlog
    have hmem : row ∈ tables.versionsOf armId scopeId ++ [⟨scopeId, policy, instant⟩] := by
      rw [← show _ = _ ++ _ from hversions]
      exact hrow
    rcases mem_append.mp hmem with hmem | hmem
    · exact hreached row hmem
    · rw [mem_singleton.mp hmem]

theorem resolve_moves (ordered : ∀ armId scopeId, (tables.policyLog armId scopeId).Ordered)
    (h : tables.resolvePolicyState armId scopeId instant = .ok (policy, next))
    (armId' scopeId' : String) :
    PolicyMoves armId' (tables.policyLog armId' scopeId') (next.policyLog armId' scopeId') := by
  obtain ⟨hcompose, hcases⟩ := resolvePolicyState_cases (ordered armId scopeId) h
  rcases hcases with ⟨rfl, -⟩ | ⟨hreached, hdiffers, hversion, rfl⟩
  · exact .refl
  · have harm : policy.armId = armId := (compose_eq_ok.mp hcompose).2.1
    rw [policyLog_append_version]
    split
    · rename_i hkey
      obtain ⟨rfl, rfl⟩ : scopeId = scopeId' ∧ armId = armId' := ⟨hkey.1, harm.symm.trans hkey.2⟩
      refine .single (.recompose hreached ?_ hdiffers)
      rw [hversion] at hcompose
      exact hcompose
    · rw [append_nil]
      exact .refl

variable {compiled : PolicyState R}

omit [PolicyNumber R] in
theorem storePatch_eq_ok :
    tables.storePatch scopeId patch compiled = .ok next ↔
      (∀ other ∈ tables.patches, other.patch.patchId ≠ patch.patchId) ∧
      (∀ other ∈ tables.versionsOf compiled.armId scopeId,
        other.state.version ≠ compiled.version) ∧
      next = { tables with
        patches := tables.patches ++ [⟨scopeId, patch⟩]
        versions := tables.versions ++ [⟨scopeId, compiled, patch.createdAt⟩] } := by
  simp only [ControlTables.storePatch, ok_iff, appendVersion_eq_ok]
  constructor
  · rintro ⟨hpatch, hversion, rfl⟩
    exact ⟨fun other hother heq => hpatch ⟨other, hother, heq⟩, hversion, rfl⟩
  · rintro ⟨hpatch, hversion, rfl⟩
    refine ⟨?_, hversion, rfl⟩
    rintro ⟨other, hother, heq⟩
    exact hpatch other hother heq

variable {effectiveFrom expiresAt : Instant}

theorem Submission.patch_createdAt {submission : Submission R} {hash : Hashing}
    {request : CommanderRequest}
    (h : submission.patch hash request effectiveFrom expiresAt = .ok patch) :
    patch.createdAt = submission.receivedAt := by
  unfold Submission.patch at h
  split at h
  · cases h
  · split at h
    · cases h
    · split at h
      · cases h
        rfl
      · cases h

structure Accepts (hash : Hashing) (tables : ControlTables R) (request : CommanderRequest)
    (receivedAt : Instant) (verdict : Verdict) (next : ControlTables R) (patch : PolicyPatch R)
    (compiled current : PolicyState R) : Prop where
  base : current.version = request.basePolicyVersion
  created : patch.createdAt = receivedAt
  compiles : compile patch current receivedAt true = .ok compiled
  stored : tables.storePatch request.scopeId patch compiled = .ok next
  verdict_eq : verdict = .acceptance compiled.version (hash.canonicalHash compiled.asPayload)

def Judges (hash : Hashing) (tables : ControlTables R) (request : CommanderRequest)
    (receivedAt : Instant) (verdict : Verdict) (next : ControlTables R) : Prop :=
  (next = tables ∧ verdict.status ≠ .accepted) ∨
    ∃ current resolved, tables.resolvePolicyState request.armScope.value request.scopeId
      receivedAt =
        .ok (current, resolved) ∧
      ((next = resolved ∧ verdict.status = .rejected) ∨
        ∃ patch compiled,
          Accepts hash resolved request receivedAt verdict next patch compiled current)

variable {env : ControlEnvironment} {hash : Hashing} {request : CommanderRequest}
  {submission : Submission R} {verdict : Verdict}

theorem adopt_judges
    (h : tables.adopt hash request submission effectiveFrom expiresAt = .ok (verdict, next)) :
    Judges hash tables request submission.receivedAt verdict next := by
  simp only [ControlTables.adopt, bind_eq_ok] at h
  obtain ⟨⟨current, resolved⟩, hresolve, h⟩ := h
  refine .inr ⟨current, resolved, hresolve, ?_⟩
  split at h
  · obtain ⟨rfl, rfl⟩ := Prod.mk.inj (pure_eq_ok.mp h)
    exact .inl ⟨rfl, rfl⟩
  · rename_i hbase
    rw [bind_eq_ok] at h
    obtain ⟨patch, hpatch, h⟩ := h
    split at h
    · obtain ⟨rfl, rfl⟩ := Prod.mk.inj (pure_eq_ok.mp h)
      exact .inl ⟨rfl, rfl⟩
    · rename_i compiled hcompile
      simp only [ok_iff] at h
      obtain ⟨stored, hstore, heq⟩ := h
      obtain ⟨rfl, rfl⟩ := Prod.mk.inj heq
      exact .inr ⟨patch, compiled, not_not.mp hbase, Submission.patch_createdAt hpatch, hcompile,
        hstore, rfl⟩

theorem judge_judges {row} (h : tables.judge env hash row submission = .ok (verdict, next)) :
    Judges hash tables row.request submission.receivedAt verdict next := by
  unfold ControlTables.judge at h
  split at h
  · obtain ⟨rfl, rfl⟩ := Prod.mk.inj (pure_eq_ok.mp h)
    exact .inl ⟨rfl, by simp [Verdict.rejection]⟩
  · split at h
    · obtain ⟨rfl, rfl⟩ := Prod.mk.inj (pure_eq_ok.mp h)
      exact .inl ⟨rfl, by simp⟩
    · unfold ControlTables.judgePatch at h
      split at h
      · split at h
        · obtain ⟨rfl, rfl⟩ := Prod.mk.inj (pure_eq_ok.mp h)
          exact .inl ⟨rfl, by simp [Verdict.rejection]⟩
        · rw [bind_eq_ok] at h
          obtain ⟨supported, -, h⟩ := h
          split at h
          · obtain ⟨rfl, rfl⟩ := Prod.mk.inj (pure_eq_ok.mp h)
            exact .inl ⟨rfl, by simp [Verdict.rejection]⟩
          · exact adopt_judges h
      · cases h

def Submission.row (submission : Submission R) (hash : Hashing) : CommanderDecisionRow :=
  ⟨submission.decisionId hash, submission.requestId, submission.provider, submission.receivedAt,
    submission.payloadHash hash⟩

structure Decides (hash : Hashing) (submission : Submission R) (tables : ControlTables R)
    (receipt : DecisionReceipt) (next : ControlTables R) (row : CommanderRequestRow)
    (verdict : Verdict) (judged : ControlTables R) : Prop where
  request : tables.requests.find? (·.request.requestId = submission.requestId) = some row
  first : tables.decisions.find? (·.requestId = submission.requestId) = none
  fresh : ∀ other ∈ tables.decisions, other.decisionId ≠ submission.decisionId hash
  judges : Judges hash { tables with decisions := tables.decisions ++ [submission.row hash] }
    row.request submission.receivedAt verdict judged
  receipt_eq : receipt = submission.receipt (submission.decisionId hash) row.request verdict
  next_eq : next = { judged with results := judged.results ++ [⟨receipt.decisionId, receipt⟩] }

structure Replays (hash : Hashing) (submission : Submission R) (tables : ControlTables R)
    (receipt : DecisionReceipt) (next : ControlTables R) (previous : CommanderDecisionRow)
    (result : CommanderDecisionResultRow) : Prop where
  decision : tables.decisions.find? (·.requestId = submission.requestId) = some previous
  output : previous.payloadHash = submission.payloadHash hash
  result_eq : tables.results.find? (·.decisionId = previous.decisionId) = some result
  receipt_eq : receipt = { result.receipt with idempotentReplay := true }
  next_eq : next = tables

theorem submitDecision_cases {receipt}
    (h : tables.submitDecision env hash submission = .ok (receipt, next)) :
    (∃ previous result, Replays hash submission tables receipt next previous result) ∨
      ∃ row verdict judged, Decides hash submission tables receipt next row verdict judged := by
  simp only [ControlTables.submitDecision, bind_eq_ok] at h
  obtain ⟨_, -, _, -, h⟩ := h
  split at h
  · cases h
  · rename_i row hrow
    split at h
    · rename_i previous hprevious
      simp only [ControlTables.replay, ok_iff, not_not] at h
      obtain ⟨houtput, h⟩ := h
      split at h
      · cases h
      · rename_i result hresult
        simp only [ok_iff] at h
        obtain ⟨-, heq⟩ := h
        obtain ⟨rfl, rfl⟩ := Prod.mk.inj heq
        exact .inl ⟨previous, result, hprevious, houtput, hresult, rfl, rfl⟩
    · rename_i hfirst
      simp only [ControlTables.decide, ControlTables.storeResult, ok_iff] at h
      obtain ⟨hfresh, ⟨verdict, judged⟩, hjudge, -, heq⟩ := h
      obtain ⟨rfl, rfl⟩ := Prod.mk.inj heq
      refine .inr ⟨row, verdict, judged, hrow, hfirst, ?_, judge_judges hjudge, rfl, rfl⟩
      exact fun other hother hid => hfresh ⟨other, hother, hid⟩

omit [PolicyNumber R] in
theorem policyLog_storePatch (harm : compiled.armId = patch.armScope)
    (h : tables.storePatch scopeId patch compiled = .ok next) (armId' scopeId' : String) :
    next.policyLog armId' scopeId' =
      if scopeId = scopeId' ∧ patch.armScope = armId' then
        ⟨tables.patchesOf armId' scopeId' ++ [patch],
          tables.versionsOf armId' scopeId' ++ [⟨scopeId, compiled, patch.createdAt⟩]⟩
      else tables.policyLog armId' scopeId' := by
  obtain ⟨-, -, rfl⟩ := storePatch_eq_ok.mp h
  have hpatches := patchesOf_append tables ⟨scopeId, patch⟩ armId' scopeId'
  have hversions := congrArg PolicyLog.versions (policyLog_append_version tables
    ⟨scopeId, compiled, patch.createdAt⟩ armId' scopeId')
  rw [ControlTables.policyLog]
  refine (PolicyLog.mk.injEq ..).mpr ⟨hpatches, hversions⟩ |>.trans ?_
  rw [harm]
  split
  · rfl
  · rw [append_nil, append_nil]
    rfl

theorem resolve_patches (ordered : (tables.policyLog armId scopeId).Ordered)
    (h : tables.resolvePolicyState armId scopeId instant = .ok (policy, next)) :
    next.patches = tables.patches := by
  rcases (resolvePolicyState_cases ordered h).2 with ⟨rfl, -⟩ | ⟨-, -, -, rfl⟩
  · rfl
  · rfl

variable {receivedAt : Instant}

theorem Accepts.move {compiled current resolved}
    (ordered : (tables.policyLog request.armScope.value request.scopeId).Ordered)
    (hresolve : tables.resolvePolicyState request.armScope.value request.scopeId receivedAt =
      .ok (current, resolved))
    (h : Accepts hash resolved request receivedAt verdict next patch compiled current) :
    compiled.armId = patch.armScope ∧ patch.armScope = request.armScope.value ∧
      (∀ row ∈ resolved.versionsOf request.armScope.value request.scopeId,
        row.createdAt ≤ patch.createdAt) ∧
      PolicyMove request.armScope.value (resolved.policyLog request.armScope.value request.scopeId)
        ⟨resolved.patchesOf request.armScope.value request.scopeId ++ [patch],
          resolved.versionsOf request.armScope.value request.scopeId ++
            [⟨request.scopeId, compiled, patch.createdAt⟩]⟩ := by
  have hcompiles := h.compiles
  obtain ⟨hfits, -, -, -, harm, hnumber, -⟩ := compile_eq_ok.mp hcompiles
  obtain ⟨hcompose, -⟩ := resolvePolicyState_cases ordered hresolve
  have hcurrent : current.armId = request.armScope.value := (compose_eq_ok.mp hcompose).2.1
  have hversion := (storePatch_eq_ok.mp h.stored).2.1
  rw [harm, hcurrent, hnumber] at hversion
  obtain ⟨hlatest, hreached⟩ := latest_of_fresh ordered hresolve hversion
  have hpatches := resolve_patches ordered hresolve
  rw [← h.created] at hreached hcompose hcompiles
  refine ⟨harm.trans hfits.arm.symm, hfits.arm.trans hcurrent, hreached,
    .accept hreached ?_ (hlatest.symm ▸ hcompiles)⟩
  rw [hlatest, ControlTables.policyLog, ControlTables.patchesOf, hpatches]
  exact hcompose

theorem judges_moves (ordered : ∀ armId scopeId, (tables.policyLog armId scopeId).Ordered)
    (h : Judges hash tables request receivedAt verdict next) (armId scopeId : String) :
    PolicyMoves armId (tables.policyLog armId scopeId) (next.policyLog armId scopeId) := by
  rcases h with ⟨rfl, -⟩ | ⟨current, resolved, hresolve, ⟨rfl, -⟩ | ⟨patch, compiled, haccepts⟩⟩
  · exact .refl
  · exact resolve_moves ordered hresolve armId scopeId
  · refine (resolve_moves ordered hresolve armId scopeId).trans ?_
    obtain ⟨harm, hscope, -, hmove⟩ := haccepts.move (ordered _ _) hresolve
    rw [policyLog_storePatch harm haccepts.stored, hscope]
    split
    · rename_i hkey
      obtain ⟨rfl, rfl⟩ := hkey
      exact .single hmove
    · exact .refl

theorem submitDecision_moves (ordered : ∀ armId scopeId, (tables.policyLog armId scopeId).Ordered)
    {receipt} (h : tables.submitDecision env hash submission = .ok (receipt, next))
    (armId scopeId : String) :
    PolicyMoves armId (tables.policyLog armId scopeId) (next.policyLog armId scopeId) := by
  rcases submitDecision_cases h with ⟨_, _, hreplays⟩ | ⟨_, _, judged, hdecides⟩
  · rw [hreplays.next_eq]
  · rw [hdecides.next_eq]
    -- the decision's own row is not in the log of any arm
    exact judges_moves (by exact ordered) hdecides.judges armId scopeId

omit [PolicyNumber R] in
theorem policyLog_congr (patches : next.patches = tables.patches)
    (versions : next.versions = tables.versions) (armId scopeId : String) :
    next.policyLog armId scopeId = tables.policyLog armId scopeId := by
  rw [ControlTables.policyLog, ControlTables.patchesOf, ControlTables.versionsOf, patches, versions]
  rfl

theorem controlStep_cases {action} (h : controlStep env hash tables action = .ok next) :
    (∃ submission receipt, action = .submit submission ∧
      tables.submitDecision env hash submission = .ok (receipt, next)) ∨
    ((next.patches = tables.patches ∧ next.versions = tables.versions) ∨
      ∃ armId scopeId instant policy resolved,
        tables.resolvePolicyState armId scopeId instant = .ok (policy, resolved) ∧
        next.patches = resolved.patches ∧ next.versions = resolved.versions) := by
  cases action with
  | leaseCycles cycles =>
    cases h
    exact .inr (.inl ⟨rfl, rfl⟩)
  | select provider expectedVersion selectedAt =>
    simp only [controlStep, ControlTables.selectProvider, bind_eq_ok] at h
    obtain ⟨_, -, h⟩ := h
    split at h
    · cases h
      exact .inr (.inl ⟨rfl, rfl⟩)
    · simp only [ok_iff] at h
      obtain ⟨_, -, rfl⟩ := h
      exact .inr (.inl ⟨rfl, rfl⟩)
  | request draft =>
    simp only [controlStep, ControlTables.createRequest, bind_eq_ok] at h
    obtain ⟨_, -, _, -, _, -, h⟩ := h
    split at h
    · cases h
    · rw [bind_eq_ok] at h
      obtain ⟨⟨policy, resolved⟩, hresolve, h⟩ := h
      refine .inr (.inr ⟨_, _, _, policy, resolved, hresolve, ?_⟩)
      simp only [ControlTables.storeRequest] at h
      split at h
      · simp only [ok_iff] at h
        obtain ⟨_, -, rfl⟩ := h
        exact ⟨rfl, rfl⟩
      · cases h
        exact ⟨rfl, rfl⟩
  | submit submission =>
    obtain ⟨⟨receipt, next'⟩, hsubmit, rfl⟩ := map_eq_ok.mp h
    exact .inl ⟨submission, receipt, rfl, hsubmit⟩
  | resolve armId scopeId activeAt =>
    obtain ⟨⟨policy, next'⟩, hresolve, rfl⟩ := map_eq_ok.mp h
    exact .inr (.inr ⟨armId, scopeId, activeAt, policy, next', hresolve, rfl, rfl⟩)

section

variable (ordered : ∀ armId scopeId, (tables.policyLog armId scopeId).Ordered)

include ordered

theorem controlStep_moves {action} (h : controlStep env hash tables action = .ok next)
    (armId scopeId : String) :
    PolicyMoves armId (tables.policyLog armId scopeId) (next.policyLog armId scopeId) := by
  rcases controlStep_cases h with ⟨submission, receipt, -, hsubmit⟩ | ⟨hpatches, hversions⟩ |
    ⟨arm, scope, instant, policy, resolved, hresolve, hpatches, hversions⟩
  · exact submitDecision_moves ordered hsubmit armId scopeId
  · rw [policyLog_congr hpatches hversions]
  · rw [policyLog_congr hpatches hversions]
    exact resolve_moves ordered hresolve armId scopeId

theorem judges_patches (h : Judges hash tables request receivedAt verdict next) :
    next.patches = tables.patches ∨ ∃ row, next.patches = tables.patches ++ [row] := by
  rcases h with ⟨rfl, -⟩ | ⟨current, resolved, hresolve, ⟨rfl, -⟩ | ⟨patch, compiled, haccepts⟩⟩
  · exact .inl rfl
  · exact .inl (resolve_patches (ordered _ _) hresolve)
  · obtain ⟨-, -, rfl⟩ := storePatch_eq_ok.mp haccepts.stored
    exact .inr ⟨_, by rw [← resolve_patches (ordered _ _) hresolve]⟩

theorem controlStep_patches {action} (h : controlStep env hash tables action = .ok next) :
    next.patches = tables.patches ∨ ∃ row, next.patches = tables.patches ++ [row] := by
  rcases controlStep_cases h with ⟨submission, receipt, -, hsubmit⟩ | ⟨hpatches, -⟩ |
    ⟨arm, scope, instant, policy, resolved, hresolve, hpatches, -⟩
  · rcases submitDecision_cases hsubmit with ⟨_, _, hreplays⟩ | ⟨_, _, judged, hdecides⟩
    · rw [hreplays.next_eq]
      exact .inl rfl
    · rw [hdecides.next_eq]
      have hpatches := judges_patches (by exact ordered) hdecides.judges
      exact hpatches
  · exact .inl hpatches
  · exact .inl (hpatches.trans (resolve_patches (ordered arm scope) hresolve))

end

variable {I : PolicyLog R → Prop}

theorem PolicyMoves.inv (moves : PolicyMoves armId log log') (ordered : log.Ordered) (start : I log)
    (keep : ∀ log log', log.Ordered → PolicyMove armId log log' → I log → I log') :
    log'.Ordered ∧ I log' := by
  induction moves with
  | refl => exact ⟨ordered, start⟩
  | tail _ move ih => exact ⟨move.ordered ih.1, keep _ _ ih.1 move ih.2⟩

variable {taken : List (ControlTables R × ControlAction R)}

theorem policyLog_ordered (run : ControlRun env hash .empty taken tables) :
    ∀ armId scopeId, (tables.policyLog armId scopeId).Ordered := by
  refine run.inv
    (I := fun tables => ∀ armId scopeId, (tables.policyLog armId scopeId).Ordered) ?_ ?_
  · intro armId scopeId
    exact ⟨.nil, .nil⟩
  · intro s action s' ordered hstep armId scopeId
    have hmoves := controlStep_moves ordered hstep armId scopeId
    exact (hmoves.inv (I := fun _ => True) (ordered armId scopeId) trivial fun _ _ _ _ _ =>
      trivial).1

theorem policyLog_inv (run : ControlRun env hash .empty taken tables) (start : I ⟨[], []⟩)
    (keep : ∀ log log', log.Ordered → PolicyMove armId log log' → I log → I log') :
    I (tables.policyLog armId scopeId) := by
  induction run with
  | start => exact start
  | next run ok ih =>
    have ordered := policyLog_ordered run
    exact ((controlStep_moves ordered ok armId scopeId).inv (ordered armId scopeId) ih keep).2

end AdaptiveQuant.Control
