import AdaptiveQuant.Control.PolicyResolution

/-! The decision protocol over whole runs. -/

namespace AdaptiveQuant.Control

open Guard Sequence List

variable {R : Type} [PolicyNumber R] {env : ControlEnvironment} {hash : Hashing}
  {tables next : ControlTables R} {armId scopeId : String} {instant : Instant}
  {taken : List (ControlTables R × ControlAction R)}

structure SameRows (tables next : ControlTables R) : Prop where
  requests : next.requests = tables.requests
  decisions : next.decisions = tables.decisions
  results : next.results = tables.results

theorem resolve_rows {policy} (ordered : (tables.policyLog armId scopeId).Ordered)
    (h : tables.resolvePolicyState armId scopeId instant = .ok (policy, next)) :
    SameRows tables next ∧ tables.versions <+: next.versions := by
  rcases (resolvePolicyState_cases ordered h).2 with ⟨rfl, -⟩ | ⟨-, -, -, rfl⟩
  · exact ⟨⟨rfl, rfl, rfl⟩, prefix_rfl⟩
  · exact ⟨⟨rfl, rfl, rfl⟩, prefix_append _ _⟩

variable {verdict : Verdict}

theorem judges_rows (ordered : ∀ armId scopeId, (tables.policyLog armId scopeId).Ordered) {request}
    {receivedAt : Instant} (h : Judges hash tables request receivedAt verdict next) :
    SameRows tables next ∧ tables.versions <+: next.versions := by
  rcases h with ⟨rfl, -⟩ | ⟨current, resolved, hresolve, ⟨rfl, -⟩ | ⟨patch, compiled, haccepts⟩⟩
  · exact ⟨⟨rfl, rfl, rfl⟩, prefix_rfl⟩
  · exact resolve_rows (ordered _ _) hresolve
  · obtain ⟨hsame, hversions⟩ := resolve_rows (ordered _ _) hresolve
    obtain ⟨-, -, rfl⟩ := storePatch_eq_ok.mp haccepts.stored
    exact ⟨⟨hsame.requests, hsame.decisions, hsame.results⟩,
      hversions.trans (prefix_append _ _)⟩

theorem controlStep_rows (ordered : ∀ armId scopeId, (tables.policyLog armId scopeId).Ordered)
    {action} (h : controlStep env hash tables action = .ok next) :
    tables.versions <+: next.versions ∧
    (SameRows tables next ∨
      (∃ row, (∀ other ∈ tables.requests, other.request.requestId ≠ row.request.requestId) ∧
        SameRows { tables with requests := tables.requests ++ [row] } next) ∨
      ∃ submission receipt row verdict judged, action = .submit submission ∧
        Decides hash submission tables receipt next row verdict judged) := by
  cases action with
  | leaseCycles cycles =>
    cases h
    exact ⟨prefix_rfl, .inl ⟨rfl, rfl, rfl⟩⟩
  | select provider expectedVersion selectedAt =>
    simp only [controlStep, ControlTables.selectProvider, bind_eq_ok] at h
    obtain ⟨_, -, h⟩ := h
    split at h
    · cases h
      exact ⟨prefix_rfl, .inl ⟨rfl, rfl, rfl⟩⟩
    · simp only [ok_iff] at h
      obtain ⟨_, -, rfl⟩ := h
      exact ⟨prefix_rfl, .inl ⟨rfl, rfl, rfl⟩⟩
  | request draft =>
    simp only [controlStep, ControlTables.createRequest, bind_eq_ok] at h
    obtain ⟨_, -, _, -, _, -, h⟩ := h
    split at h
    · cases h
    · rw [bind_eq_ok] at h
      obtain ⟨⟨policy, resolved⟩, hresolve, h⟩ := h
      obtain ⟨hsame, hversions⟩ := resolve_rows (ordered _ _) hresolve
      simp only [ControlTables.storeRequest] at h
      split at h
      · simp only [ok_iff] at h
        obtain ⟨_, -, rfl⟩ := h
        exact ⟨hversions, .inl hsame⟩
      · rename_i hnone
        cases h
        refine ⟨hversions, .inr (.inl ⟨_, fun other hother hid => ?_, by rw [hsame.requests],
          hsame.decisions, hsame.results⟩)⟩
        rw [hsame.requests] at hnone
        exact List.find?_eq_none.mp hnone other hother (decide_eq_true hid)
  | submit submission =>
    obtain ⟨⟨receipt, next'⟩, hsubmit, rfl⟩ := map_eq_ok.mp h
    rcases submitDecision_cases hsubmit with ⟨_, _, hreplays⟩ | ⟨row, verdict, judged, hdecides⟩
    · rw [hreplays.next_eq]
      exact ⟨prefix_rfl, .inl ⟨rfl, rfl, rfl⟩⟩
    · have hversions := (judges_rows (by exact ordered) hdecides.judges).2
      refine ⟨?_, .inr (.inr ⟨submission, receipt, row, verdict, judged, rfl, hdecides⟩)⟩
      rw [hdecides.next_eq]
      exact hversions
  | resolve arm scope activeAt =>
    obtain ⟨⟨policy, next'⟩, hresolve, rfl⟩ := map_eq_ok.mp h
    obtain ⟨hsame, hversions⟩ := resolve_rows (ordered arm scope) hresolve
    exact ⟨hversions, .inl hsame⟩

/-- Two requests against the same base policy. -/
def SameBase (a b : CommanderRequestRow) : Prop :=
  a.request.scopeId = b.request.scopeId ∧ a.request.armScope = b.request.armScope ∧
    a.request.basePolicyVersion = b.request.basePolicyVersion

structure DecidedOnce (tables : ControlTables R) : Prop where
  paired :
    List.Forall₂ (fun (decision : CommanderDecisionRow) (result : CommanderDecisionResultRow) =>
    result.decisionId = decision.decisionId ∧ result.receipt.requestId = decision.requestId ∧
      result.receipt.provider = decision.provider) tables.decisions tables.results
  once : (tables.decisions.map (·.requestId)).Nodup
  named : (tables.decisions.map (·.decisionId)).Nodup
  known : ∀ decision ∈ tables.decisions, ∃ row ∈ tables.requests,
    row.request.requestId = decision.requestId
  distinct : (tables.requests.map (·.request.requestId)).Nodup
  applied : ∀ result ∈ tables.results, result.receipt.status = .accepted → ∀ row ∈ tables.requests,
    row.request.requestId = result.receipt.requestId →
    ∃ version ∈ tables.versions, version.scopeId = row.request.scopeId ∧
      version.state.armId = row.request.armScope.value ∧
      version.state.version = row.request.basePolicyVersion + 1
  unique : ∀ result ∈ tables.results, ∀ result' ∈ tables.results,
    result.receipt.status = .accepted → result'.receipt.status = .accepted →
    ∀ row ∈ tables.requests, ∀ row' ∈ tables.requests,
    row.request.requestId = result.receipt.requestId →
    row'.request.requestId = result'.receipt.requestId → SameBase row row' → result = result'

omit [PolicyNumber R] in
theorem decidedOnce_empty : DecidedOnce (ControlTables.empty : ControlTables R) where
  paired := .nil
  once := nodup_nil
  named := nodup_nil
  known _ hdecision := absurd hdecision not_mem_nil
  distinct := nodup_nil
  applied _ hresult := absurd hresult not_mem_nil
  unique _ hresult := absurd hresult not_mem_nil

omit [PolicyNumber R] in
theorem DecidedOnce.same (decided : DecidedOnce tables) (same : SameRows tables next)
    (versions : tables.versions <+: next.versions) : DecidedOnce next := by
  obtain ⟨hrequests, hdecisions, hresults⟩ := same
  refine ⟨?_, ?_, ?_, ?_, ?_, ?_, ?_⟩
  · rw [hdecisions, hresults]
    exact decided.paired
  · rw [hdecisions]
    exact decided.once
  · rw [hdecisions]
    exact decided.named
  · rw [hdecisions, hrequests]
    exact decided.known
  · rw [hrequests]
    exact decided.distinct
  · rw [hresults, hrequests]
    intro result hresult haccepted row hrow hid
    obtain ⟨version, hversion, hkey⟩ := decided.applied result hresult haccepted row hrow hid
    exact ⟨version, versions.subset hversion, hkey⟩
  · rw [hresults, hrequests]
    exact decided.unique

variable {result : CommanderDecisionResultRow}

omit [PolicyNumber R] in
theorem DecidedOnce.of_result (decided : DecidedOnce tables) {row other}
    (fresh : ∀ other ∈ tables.requests, other.request.requestId ≠ row.request.requestId)
    (hresult : result ∈ tables.results) (hother : other ∈ tables.requests ++ [row])
    (hid : other.request.requestId = result.receipt.requestId) : other ∈ tables.requests := by
  rcases mem_append.mp hother with hother | hother
  · exact hother
  · obtain ⟨decision, hdecision, -, hrequest, -⟩ :=
      (exists_of_forall₂ decided.paired).2 result hresult
    obtain ⟨known, hknown, hname⟩ := decided.known decision hdecision
    rw [mem_singleton.mp hother] at hid
    exact absurd (hname.trans (hrequest.symm.trans hid.symm)) (fresh known hknown)

omit [PolicyNumber R] in
theorem DecidedOnce.request (decided : DecidedOnce tables) {row}
    (fresh : ∀ other ∈ tables.requests, other.request.requestId ≠ row.request.requestId) :
    DecidedOnce { tables with requests := tables.requests ++ [row] } where
  paired := decided.paired
  once := decided.once
  named := decided.named
  known decision hdecision := by
    obtain ⟨known, hknown, hid⟩ := decided.known decision hdecision
    exact ⟨known, mem_append_left _ hknown, hid⟩
  distinct := by
    rw [map_append, map_singleton]
    refine nodup_append.mpr ⟨decided.distinct, nodup_singleton _, ?_⟩
    intro id hid last hlast
    obtain ⟨other, hother, rfl⟩ := mem_map.mp hid
    rw [mem_singleton.mp hlast]
    exact fresh other hother
  applied result hresult haccepted other hother hid :=
    decided.applied result hresult haccepted other (decided.of_result fresh hresult hother hid) hid
  unique result hresult result' hresult' haccepted haccepted' other hother other' hother'
    hid hid' :=
    decided.unique result hresult result' hresult' haccepted haccepted' other
      (decided.of_result fresh hresult hother hid) other'
      (decided.of_result fresh hresult' hother' hid') hid hid'

theorem judges_accepted (ordered : ∀ armId scopeId, (tables.policyLog armId scopeId).Ordered)
    {request} {receivedAt : Instant} (h : Judges hash tables request receivedAt verdict next)
    (haccepted : verdict.status = .accepted) :
    (∃ version ∈ next.versions, version.scopeId = request.scopeId ∧
      version.state.armId = request.armScope.value ∧
      version.state.version = request.basePolicyVersion + 1) ∧
    ∀ version ∈ tables.versions, version.scopeId = request.scopeId →
      version.state.armId = request.armScope.value →
      version.state.version ≠ request.basePolicyVersion + 1 := by
  rcases h with ⟨-, hother⟩ |
    ⟨current, resolved, hresolve, ⟨-, hother⟩ | ⟨patch, compiled, haccepts⟩⟩
  · exact absurd haccepted hother
  · rw [haccepted] at hother
    exact absurd hother (by simp)
  · obtain ⟨harm, hscope, -, -⟩ := haccepts.move (ordered _ _) hresolve
    obtain ⟨-, -, -, -, -, hnumber, -⟩ := compile_eq_ok.mp haccepts.compiles
    obtain ⟨-, hfresh, rfl⟩ := storePatch_eq_ok.mp haccepts.stored
    rw [harm, hscope, hnumber, haccepts.base] at hfresh
    constructor
    · refine ⟨_, mem_append_right _ mem_cons_self, rfl, harm.trans hscope, ?_⟩
      rw [hnumber, haccepts.base]
    · intro version hversion hkey harm' hsame
      have hin := (resolve_rows (ordered _ _) hresolve).2.subset hversion
      exact hfresh version (mem_filter.mpr ⟨hin, decide_eq_true ⟨hkey, harm'⟩⟩) hsame

variable {submission : Submission R}

theorem DecidedOnce.decides (decided : DecidedOnce tables)
    (ordered : ∀ armId scopeId, (tables.policyLog armId scopeId).Ordered) {receipt row judged}
    (h : Decides hash submission tables receipt next row verdict judged) : DecidedOnce next := by
  obtain ⟨⟨hrequests, hdecisions, hresults⟩, hversions⟩ := judges_rows (by exact ordered) h.judges
  have haccepted := fun haccepted => judges_accepted (by exact ordered) h.judges haccepted
  have hrow : row ∈ tables.requests := mem_of_find?_eq_some h.request
  have hid : row.request.requestId = submission.requestId :=
    of_decide_eq_true (List.find?_some h.request :)
  have hreceipt := h.receipt_eq
  have hsame : ∀ other ∈ tables.requests, other.request.requestId = receipt.requestId →
      other = row := by
    intro other hother hname
    rw [hreceipt] at hname
    exact inj_on_of_nodup_map decided.distinct hother hrow hname
  have hstatus : receipt.status = .accepted → verdict.status = .accepted := by
    rw [hreceipt]
    exact id
  rw [h.next_eq]
  refine ⟨?_, ?_, ?_, ?_, ?_, ?_, ?_⟩ <;> simp only [hrequests, hdecisions, hresults]
  · refine rel_append decided.paired (.cons ⟨?_, ?_, ?_⟩ .nil)
    · rw [hreceipt]
      rfl
    · rw [hreceipt]
      exact hid
    · rw [hreceipt]
      rfl
  · rw [map_append, map_singleton]
    refine nodup_append.mpr ⟨decided.once, nodup_singleton _, ?_⟩
    intro id hin last hlast heq
    obtain ⟨other, hother, rfl⟩ := mem_map.mp hin
    rw [mem_singleton.mp hlast] at heq
    exact List.find?_eq_none.mp h.first other hother (decide_eq_true heq)
  · rw [map_append, map_singleton]
    refine nodup_append.mpr ⟨decided.named, nodup_singleton _, ?_⟩
    intro id hin last hlast heq
    obtain ⟨other, hother, rfl⟩ := mem_map.mp hin
    rw [mem_singleton.mp hlast] at heq
    exact h.fresh other hother heq
  · intro decision hdecision
    rcases mem_append.mp hdecision with hdecision | hdecision
    · exact decided.known decision hdecision
    · rw [mem_singleton.mp hdecision]
      exact ⟨row, hrow, hid⟩
  · exact decided.distinct
  · intro result hresult hacc other hother hname
    rcases mem_append.mp hresult with hresult | hresult
    · obtain ⟨version, hversion, hkey⟩ := decided.applied result hresult hacc other hother hname
      exact ⟨version, hversions.subset hversion, hkey⟩
    · rw [mem_singleton.mp hresult] at hacc hname
      rw [hsame other hother hname]
      exact (haccepted (hstatus hacc)).1
  · intro result hresult result' hresult' hacc hacc' other hother other' hother' hname hname' hbase
    -- an older acceptance has a version where the new one found none
    have hclash : ∀ old ∈ tables.results, old.receipt.status = .accepted →
        receipt.status = .accepted → ∀ q ∈ tables.requests,
        q.request.requestId = old.receipt.requestId → ¬SameBase q row := by
      intro old hold holdacc hnew q hq hqid hbase
      obtain ⟨version, hversion, hscope, harm, hnumber⟩ :=
        decided.applied old hold holdacc q hq hqid
      refine (haccepted (hstatus hnew)).2 version hversion (hscope.trans hbase.1) ?_ ?_
      · rw [harm, hbase.2.1]
      · rw [hnumber, hbase.2.2]
    rcases mem_append.mp hresult with hresult | hresult <;>
      rcases mem_append.mp hresult' with hresult' | hresult'
    · exact decided.unique result hresult result' hresult' hacc hacc' other hother other' hother'
        hname hname' hbase
    · rw [mem_singleton.mp hresult'] at hacc' hname'
      rw [hsame other' hother' hname'] at hbase
      exact absurd hbase (hclash result hresult hacc hacc' other hother hname)
    · rw [mem_singleton.mp hresult] at hacc hname
      rw [hsame other hother hname] at hbase
      have hflip : SameBase other' row := ⟨hbase.1.symm, hbase.2.1.symm, hbase.2.2.symm⟩
      exact absurd hflip (hclash result' hresult' hacc' hacc other' hother' hname')
    · rw [mem_singleton.mp hresult, mem_singleton.mp hresult']

theorem decidedOnce_of_run (run : ControlRun env hash .empty taken tables) :
    DecidedOnce tables := by
  induction run with
  | start => exact decidedOnce_empty
  | next run ok ih =>
    have ordered := policyLog_ordered run
    obtain ⟨hversions, hsame | ⟨row, hfresh, hsame⟩ | ⟨_, _, _, _, _, -, hdecides⟩⟩ :=
      controlStep_rows ordered ok
    · exact ih.same hsame hversions
    · exact (ih.request hfresh).same hsame hversions
    · exact ih.decides ordered hdecides

structure Answered (hash : Hashing) (submission : Submission R) (receipt : DecisionReceipt)
    (tables : ControlTables R) (row : CommanderRequestRow) (previous : CommanderDecisionRow)
    (result : CommanderDecisionResultRow) : Prop where
  request : tables.requests.find? (·.request.requestId = submission.requestId) = some row
  decision : tables.decisions.find? (·.requestId = submission.requestId) = some previous
  output : previous.payloadHash = submission.payloadHash hash
  stored : tables.results.find? (·.decisionId = previous.decisionId) = some result
  receipt_eq : { receipt with idempotentReplay := true } =
    { result.receipt with idempotentReplay := true }

theorem answered_of_submit (decided : DecidedOnce tables)
    (ordered : ∀ armId scopeId, (tables.policyLog armId scopeId).Ordered) {receipt}
    (ok : tables.submitDecision env hash submission = .ok (receipt, next)) :
    ∃ row previous result, Answered hash submission receipt next row previous result := by
  rcases submitDecision_cases ok with ⟨previous, result, hreplays⟩ | ⟨row, verdict, judged, h⟩
  · obtain ⟨known, hknown, hid⟩ := decided.known previous
      (mem_of_find?_eq_some hreplays.decision)
    have hname : previous.requestId = submission.requestId :=
      of_decide_eq_true (List.find?_some hreplays.decision :)
    obtain ⟨row, hrow⟩ : ∃ row,
        tables.requests.find? (·.request.requestId = submission.requestId) = some row := by
      refine Option.ne_none_iff_exists'.mp fun hnone => ?_
      exact List.find?_eq_none.mp hnone known hknown (decide_eq_true (hid.trans hname))
    refine ⟨row, previous, result, ?_⟩
    rw [hreplays.next_eq]
    exact ⟨hrow, hreplays.decision, hreplays.output, hreplays.result_eq,
      by rw [hreplays.receipt_eq]⟩
  · obtain ⟨⟨hrequests, hdecisions, hresults⟩, -⟩ := judges_rows (by exact ordered) h.judges
    have hnone : tables.results.find? (·.decisionId = (submission.row hash).decisionId) = none := by
      refine List.find?_eq_none.mpr fun result hresult hid => ?_
      obtain ⟨decision, hdecision, hname, -⟩ := (exists_of_forall₂ decided.paired).2 result hresult
      exact h.fresh decision hdecision (hname.symm.trans (of_decide_eq_true hid))
    refine ⟨row, submission.row hash, ⟨receipt.decisionId, receipt⟩, ?_⟩
    rw [h.next_eq]
    refine ⟨?_, ?_, rfl, ?_, rfl⟩ <;> simp only [hrequests, hdecisions, hresults]
    · exact h.request
    · have hname : (submission.row hash).requestId = submission.requestId := rfl
      rw [List.find?_append, h.first, Option.none_or, List.find?_singleton, hname]
      simp
    · have hname : receipt.decisionId = (submission.row hash).decisionId := by
        rw [h.receipt_eq]
        rfl
      rw [List.find?_append, hnone, Option.none_or, List.find?_singleton, hname]
      simp

theorem run_rows {start} (ordered : ∀ armId scopeId, (start.policyLog armId scopeId).Ordered)
    (run : ControlRun env hash start taken tables) :
    start.requests <+: tables.requests ∧ start.decisions <+: tables.decisions ∧
      start.results <+: tables.results := by
  induction run with
  | start => exact ⟨prefix_rfl, prefix_rfl, prefix_rfl⟩
  | next run ok ih =>
    obtain ⟨hrequests, hdecisions, hresults⟩ := ih
    obtain ⟨-, hsame | ⟨row, -, hsame⟩ | ⟨_, _, _, _, judged, -, h⟩⟩ :=
      controlStep_rows (run_moves ordered run).1 ok
    · rw [hsame.requests, hsame.decisions, hsame.results]
      exact ⟨hrequests, hdecisions, hresults⟩
    · rw [hsame.requests, hsame.decisions, hsame.results]
      exact ⟨hrequests.trans (prefix_append _ _), hdecisions, hresults⟩
    · obtain ⟨hrows, -⟩ := judges_rows (by exact (run_moves ordered run).1) h.judges
      rw [h.next_eq]
      simp only [hrows.requests, hrows.decisions, hrows.results]
      exact ⟨hrequests, hdecisions.trans (prefix_append _ _),
        hresults.trans (prefix_append _ _)⟩

variable {previous : CommanderDecisionRow}

theorem Answered.later {receipt : DecisionReceipt} {row : CommanderRequestRow}
    (h : Answered hash submission receipt tables row previous result)
    (grows : tables.requests <+: next.requests ∧ tables.decisions <+: next.decisions ∧
      tables.results <+: next.results) :
    Answered hash submission receipt next row previous result :=
  ⟨grows.1.find?_eq_some h.request, grows.2.1.find?_eq_some h.decision, h.output,
    grows.2.2.find?_eq_some h.stored, h.receipt_eq⟩

theorem Answered.replays {again receipt row}
    (h : Answered hash submission receipt tables row previous result) (decided : DecidedOnce tables)
    (hid : again.requestId = submission.requestId) (houtput : again.output = submission.output)
    (valid : submission.output.validate = .ok ()) (fence : tables.checkFence again = .ok ()) :
    tables.submitDecision env hash again =
      .ok ({ receipt with idempotentReplay := true }, tables) := by
  have hprevious := mem_of_find?_eq_some h.decision
  obtain ⟨decision, hdecision, hname, -, hprovider⟩ :=
    (exists_of_forall₂ decided.paired).2 result (mem_of_find?_eq_some h.stored)
  have hstored : result.decisionId = previous.decisionId :=
    of_decide_eq_true (List.find?_some h.stored :)
  obtain rfl : decision = previous :=
    inj_on_of_nodup_map decided.named hdecision hprevious (hname.symm.trans hstored)
  have hhash : decision.payloadHash = again.payloadHash hash := by
    rw [h.output, Submission.payloadHash, Submission.payloadHash, houtput]
  simp only [ControlTables.submitDecision, ControlTables.replay, houtput, valid, fence, hid,
    h.request, h.decision, h.stored, ok_bind, raiseIf_neg _ (not_not.mpr hhash),
    raiseIf_neg _ (not_not.mpr hprovider), h.receipt_eq]
  rfl

theorem expired_of_recomposed {log : PolicyLog R} {version : ℕ} {policy : PolicyState R}
    (ordered : log.Ordered) (sound : log.Sound armId) (received : Received log.patches)
    (reached : ∀ row ∈ log.versions, row.createdAt ≤ instant)
    (composes : compose armId (activeIn log.patches instant) version instant true = .ok policy)
    (differs : ¬samePolicyEffects (log.latest armId) policy) :
    ∃ row ∈ log.versions.getLast?, ∃ patch ∈ activeIn log.patches row.createdAt,
      patch.expiresAt ≤ instant := by
  obtain ⟨hfold, harm, -⟩ := compose_eq_ok.mp composes
  -- the last version has the effects of the same patches
  have hsame : ∀ stored : PolicyState R, stored = log.latest armId → stored.armId = armId →
      (activeIn log.patches instant).foldlM (composePatch armId instant true) (.default, none) =
        .ok (stored.toPolicyEffects, stored.sourcePatchId) → False := by
    intro stored hstored hstoredArm hstoredFold
    obtain ⟨heffects, hsource⟩ := Prod.mk.inj (Except.ok.inj (hstoredFold.symm.trans hfold))
    refine differs (hstored ▸ ⟨hstoredArm.trans harm.symm, ?_, ?_, ?_, ?_, hsource⟩)
    · rw [heffects]
    · rw [heffects]
    · rw [heffects]
    · rw [heffects]
  rcases eq_nil_or_concat' log.versions with hnil | ⟨front, row, hconcat⟩
  · have hpatches : log.patches = [] := by
      refine eq_nil_iff_forall_not_mem.mpr fun patch hpatch => ?_
      obtain ⟨row, hrow, -⟩ := sound.dated patch hpatch
      rw [hnil] at hrow
      exact absurd hrow not_mem_nil
    refine (hsame (.default armId) ?_ rfl ?_).elim
    · rw [PolicyLog.latest, hnil]
      rfl
    · rw [hpatches]
      rfl
  · have hlast : log.versions.getLast? = some row := by rw [hconcat, List.getLast?_concat]
    refine ⟨row, hlast, ?_⟩
    by_contra hnone
    push Not at hnone
    have hle : row.createdAt ≤ instant := reached row (by rw [hconcat]; simp)
    have hcreated : ∀ patch ∈ log.patches, patch.createdAt ≤ row.createdAt := by
      intro patch hpatch
      obtain ⟨other, hother, hdate⟩ := sound.dated patch hpatch
      have hsorted := ordered.created
      rw [hconcat] at hother hsorted
      rw [← hdate]
      rcases mem_append.mp hother with hother | hother
      · exact (pairwise_append.mp hsorted).2.2 other hother row mem_cons_self
      · rw [mem_singleton.mp hother]
    have hwindow := activeIn_window (fun patch hpatch => (sound.fits hpatch).active.1) hle hnone
      fun patch hpatch _ => hcreated patch hpatch
    have hfaithful := sound.faithful received row hlast
    rw [compose_at (fun patch hpatch => (mem_activeIn.mp hpatch).2.1) fun patch hpatch =>
      ⟨(mem_activeIn.mp hpatch).2.1.1.trans hle, hnone patch hpatch⟩, ← hwindow] at hfaithful
    obtain ⟨hstored, hstoredArm, -⟩ := compose_eq_ok.mp hfaithful
    refine hsame row.state ?_ hstoredArm hstored
    rw [PolicyLog.latest, hlast]
    rfl

/-- What a rejection leaves: the patches, and the versions with the recomposition of the active ones
if one that was active at the last version has expired, or if two were received at once. -/
def RecordsExpiry (submission : Submission R) (tables next : ControlTables R) : Prop :=
  next.patches = tables.patches ∧
    (next.versions = tables.versions ∨ ∃ armId scopeId policy,
      next.versions = tables.versions ++ [⟨scopeId, policy, submission.receivedAt⟩] ∧
      compose armId (tables.activePatches armId scopeId submission.receivedAt) policy.version
        submission.receivedAt true = .ok policy ∧
      (¬Received (tables.patchesOf armId scopeId) ∨
        ∃ row ∈ (tables.versionsOf armId scopeId).getLast?,
        ∃ patch ∈ tables.patchesOf armId scopeId, patch.createdAt ≤ row.createdAt ∧
          row.createdAt < patch.expiresAt ∧ patch.expiresAt ≤ submission.receivedAt))

theorem rejection_records (run : ControlRun env hash .empty taken tables)
    {receipt : DecisionReceipt}
    (ok : tables.submitDecision env hash submission = .ok (receipt, next))
    (hrejected : receipt.status = .rejected) : RecordsExpiry submission tables next := by
  have ordered := policyLog_ordered run
  rcases submitDecision_cases ok with ⟨_, _, hreplays⟩ | ⟨row, verdict, judged, h⟩
  · rw [hreplays.next_eq]
    exact ⟨rfl, .inl rfl⟩
  have hverdict : verdict.status = .rejected := by
    rw [h.receipt_eq] at hrejected
    exact hrejected
  rw [h.next_eq]
  rcases h.judges with ⟨rfl, -⟩ |
    ⟨current, resolved, hresolve, ⟨rfl, -⟩ | ⟨patch, compiled, haccepts⟩⟩
  · exact ⟨rfl, .inl rfl⟩
  · obtain ⟨hcompose, hcases⟩ := resolvePolicyState_cases (by exact ordered _ _) hresolve
    rcases hcases with ⟨rfl, -⟩ | ⟨hreached, hdiffers, -, rfl⟩
    · exact ⟨rfl, .inl rfl⟩
    · refine ⟨rfl, .inr ⟨_, _, current, rfl, hcompose, ?_⟩⟩
      by_cases hreceived :
        Received (tables.patchesOf row.request.armScope.value row.request.scopeId)
      · obtain ⟨last, hlast, patch, hpatch, hexpired⟩ := expired_of_recomposed
          (ordered row.request.armScope.value row.request.scopeId) (policyLog_sound run _ _)
          hreceived hreached hcompose hdiffers
        have hactive := mem_activeIn.mp hpatch
        exact .inr ⟨last, hlast, patch, hactive.1, hactive.2.2, hactive.2.1.2, hexpired⟩
      · exact .inl hreceived
  · rw [haccepts.verdict_eq] at hverdict
    exact absurd hverdict (by simp [Verdict.acceptance])

/-- What holds of requests, decisions, acceptances and versions over every run. -/
theorem decision_protocol (run : ControlRun env hash .empty taken tables) :
    (tables.results.map (·.receipt.requestId)).Nodup ∧
    (∀ pre state submission post receipt next,
      taken = pre ++ (state, ControlAction.submit submission) :: post →
      state.submitDecision env hash submission = .ok (receipt, next) →
      ∀ again : Submission R, again.requestId = submission.requestId →
        again.output = submission.output → tables.checkFence again = .ok () →
        tables.submitDecision env hash again =
          .ok ({ receipt with idempotentReplay := true }, tables)) ∧
    (∀ result ∈ tables.results, ∀ result' ∈ tables.results,
      result.receipt.status = .accepted → result'.receipt.status = .accepted →
      ∀ row ∈ tables.requests, ∀ row' ∈ tables.requests,
      row.request.requestId = result.receipt.requestId →
      row'.request.requestId = result'.receipt.requestId → SameBase row row' → result = result') ∧
    (∀ armId scopeId, Numbered (·.state.version) (tables.versionsOf armId scopeId)) ∧
    ∀ pre state submission post receipt next,
      taken = pre ++ (state, ControlAction.submit submission) :: post →
      state.submitDecision env hash submission = .ok (receipt, next) →
      receipt.status = .rejected → RecordsExpiry submission state next := by
  have decided := decidedOnce_of_run run
  refine ⟨?_, ?_, decided.unique, fun armId scopeId =>
    (policyLog_ordered run armId scopeId).numbered,
    ?_⟩
  · have hnames : List.Forall₂ Eq (tables.decisions.map (·.requestId))
        (tables.results.map (·.receipt.requestId)) := by
      rw [forall₂_map_left_iff, forall₂_map_right_iff]
      exact decided.paired.imp fun _ _ hpair => hpair.2.1.symm
    rw [forall₂_eq_eq_eq] at hnames
    rw [← hnames]
    exact decided.once
  · intro pre state submission post receipt next hsplit hok again hid houtput hfence
    obtain ⟨reached, hpre, hpost⟩ := run.split hsplit
    obtain ⟨rfl, next', hstep, hafter⟩ := hpost.first rfl
    obtain rfl : next = next' := by
      simp only [controlStep, hok] at hstep
      exact Except.ok.inj hstep
    have hvalid : submission.output.validate = .ok () := by
      simp only [ControlTables.submitDecision, bind_eq_ok] at hok
      exact hok.choose_spec.1
    obtain ⟨row, previous, result, hanswered⟩ :=
      answered_of_submit (decidedOnce_of_run hpre) (policyLog_ordered hpre) hok
    have hgrows := run_rows (policyLog_ordered (.next hpre hstep)) hafter
    exact (hanswered.later hgrows).replays decided hid houtput hvalid hfence
  · intro pre state submission post receipt next hsplit hok hrejected
    obtain ⟨reached, hpre, hpost⟩ := run.split hsplit
    obtain ⟨rfl, -⟩ := hpost.first rfl
    exact rejection_records hpre hok hrejected

section Sample

def blockQqq : PolicyOperation ℚ := ⟨.blockNewEntries, .symbol, "QQQ", none, none, some true⟩

/-- Two patches that are accepted at one instant, the second with the smaller name. -/
def receivedAtOnce : List (ControlTables ℚ → ControlAction ℚ) :=
  [fun _ => .select .codexSolMax none 0, fun _ => .request (sampleDraft 3),
    fun _ => .request (sampleDraft 4),
    sampleDecision 0 (reduceTotal (1 / 2)) 10 21600000000 "1970-01-01T06:00:00Z",
    fun _ => .request (sampleDraft 10),
    sampleDecision 2 blockQqq 10 21600000000 "1970-01-01T06:00:00Z"]

def rejectedAtOnce (tables : ControlTables ℚ) : Bool :=
  match tables.requests with
  | [_, row, _] =>
    (tables.submitDecision sampleEnvironment .hex (sampleSubmission row.request blockQqq 10
      21600000000 "1970-01-01T06:00:00Z")).toOption.any fun (receipt, next) =>
        receipt.status = .rejected && next.versions.length = tables.versions.length + 1 &&
        tables.decisions.map (·.receivedAt) = [10, 10] &&
        tables.patches.all fun row => 10 < row.patch.expiresAt
  | _ => false

/-- The request that is left is decided at the same instant. -/
theorem receivedAtOnce_rejects : ∃ taken tables request receipt next,
    ControlRun sampleEnvironment .hex (.empty : ControlTables ℚ) taken tables ∧
    tables.submitDecision sampleEnvironment .hex (sampleSubmission request blockQqq 10 21600000000
      "1970-01-01T06:00:00Z") = .ok (receipt, next) ∧ receipt.status = .rejected ∧
    tables.decisions.map (·.receivedAt) = [10, 10] ∧ next.versions ≠ tables.versions ∧
    ∀ row ∈ tables.patches, 10 < row.patch.expiresAt := by
  obtain ⟨tables, hrun, htest⟩ := exists_of_any (p := rejectedAtOnce)
    (x := runScript receivedAtOnce)
    (by decide +kernel)
  obtain ⟨taken, run⟩ := Run.of_script hrun
  unfold rejectedAtOnce at htest
  split at htest
  · obtain ⟨⟨receipt, next⟩, hok, hresult⟩ := exists_of_any htest
    simp only [Bool.and_eq_true, decide_eq_true_eq, all_eq_true] at hresult
    obtain ⟨⟨⟨hrejected, hlength⟩, htimes⟩, hactive⟩ := hresult
    refine ⟨taken, tables, _, receipt, next, run, hok, hrejected, htimes, fun hsame => ?_, hactive⟩
    rw [hsame] at hlength
    omega
  · cases htest

/-- Two acceptances and a rejection, which is then replayed. -/
theorem rejection_protocol : ∃ taken tables submission, ∃ receipt : DecisionReceipt, ∃ next,
    ControlRun sampleEnvironment .hex (.empty : ControlTables ℚ)
      (taken ++ [(tables, .submit submission)]) next ∧
    tables.decisions.length = 2 ∧ receipt.status = .rejected ∧
    RecordsExpiry submission tables next ∧
    next.submitDecision sampleEnvironment .hex submission =
      .ok ({ receipt with idempotentReplay := true }, next) ∧
    (next.results.map (·.receipt.requestId)).Nodup ∧
    Numbered (·.state.version) (next.versionsOf "B3-RISK" "run") := by
  obtain ⟨taken, tables, request, receipt, next, run, hok, hrejected, htimes, -⟩ :=
    receivedAtOnce_rejects
  have hsubmit : controlStep sampleEnvironment .hex tables (.submit (sampleSubmission request
      blockQqq 10 21600000000 "1970-01-01T06:00:00Z")) = .ok next := by
    simp only [controlStep, hok]
    rfl
  have hstep := run.next hsubmit
  have hprotocol := decision_protocol hstep
  exact ⟨taken, tables, _, receipt, next, hstep, by simpa using congrArg length htimes, hrejected,
    hprotocol.2.2.2.2 taken tables _ [] receipt next rfl hok hrejected,
    hprotocol.2.1 taken tables _ [] receipt next rfl hok _ rfl rfl rfl, hprotocol.1,
    hprotocol.2.2.2.1 _ _⟩

/-- The rejection records a version although no patch has expired. -/
theorem rejection_recomposes : ∃ taken tables submission receipt next,
      ControlRun sampleEnvironment .hex (.empty : ControlTables ℚ) taken tables ∧
      (tables.decisions.map (·.receivedAt) = [10, 10] ∧ submission.receivedAt = 10) ∧
      tables.submitDecision sampleEnvironment .hex submission = .ok (receipt, next) ∧
      receipt.status = .rejected ∧ next.versions ≠ tables.versions ∧
      ∀ row ∈ tables.patches, submission.receivedAt < row.patch.expiresAt := by
  obtain ⟨taken, tables, request, receipt, next, run, hok, hrejected, htimes, hversions, hactive⟩ :=
    receivedAtOnce_rejects
  exact ⟨taken, tables, _, receipt, next, run, ⟨htimes, rfl⟩, hok, hrejected, hversions, hactive⟩

end Sample

end AdaptiveQuant.Control
