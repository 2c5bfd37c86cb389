import AdaptiveQuant.Control.PolicyVersions

/-! What the log of an arm remembers. -/

namespace AdaptiveQuant.Control

open Guard Sequence Expiry List

variable {R : Type} [PolicyNumber R] {log log' : PolicyLog R} {instant : Instant}
  {armId scopeId : String} {patch : PolicyPatch R} {patches pre post : List (PolicyPatch R)}

/-- Each patch was created after the one before it. -/
def Received (patches : List (PolicyPatch R)) : Prop :=
  patches.Pairwise fun a b => a.createdAt < b.createdAt

def CompiledAfter (armId : String) (pre : List (PolicyPatch R)) (patch : PolicyPatch R) : Prop :=
  ∃ version current compiled,
    compose armId (activeIn pre patch.createdAt) version patch.createdAt true = .ok current ∧
    compile patch current patch.createdAt true = .ok compiled

theorem CompiledAfter.fits (h : CompiledAfter armId pre patch) :
    patch.Fits armId patch.createdAt := by
  obtain ⟨version, current, compiled, hcompose, hcompile⟩ := h
  obtain ⟨-, rfl, -⟩ := compose_eq_ok.mp hcompose
  exact (compile_eq_ok.mp hcompile).1

/-- The invariant of an arm's log. -/
structure PolicyLog.Sound (armId : String) (log : PolicyLog R) : Prop where
  dated : ∀ patch ∈ log.patches, ∃ row ∈ log.versions, row.createdAt = patch.createdAt
  sorted : log.patches.Pairwise fun a b => a.createdAt ≤ b.createdAt
  compiled : ∀ pre patch post, log.patches = pre ++ patch :: post → CompiledAfter armId pre patch
  faithful : Received log.patches → ∀ row ∈ log.versions.getLast?,
    compose armId (activeIn log.patches row.createdAt) row.state.version row.createdAt true =
      .ok row.state

theorem PolicyLog.Sound.fits (sound : log.Sound armId) (hpatch : patch ∈ log.patches) :
    patch.Fits armId patch.createdAt := by
  obtain ⟨pre, post, hsplit⟩ := append_of_mem hpatch
  exact (sound.compiled pre patch post hsplit).fits

omit [PolicyNumber R] in
theorem activeIn_eq_activeAt (received : Received patches)
    (started : ∀ patch ∈ patches, patch.effectiveFrom ≤ patch.createdAt) (instant : Instant) :
    activeIn patches instant =
      activeAt PolicyPatch.createdAt PolicyPatch.expiresAt patches instant := by
  have hfilter : (patches.filter fun patch =>
      (patch.effectiveFrom ≤ instant ∧ instant < patch.expiresAt) ∧ patch.createdAt ≤ instant) =
      activeAt PolicyPatch.createdAt PolicyPatch.expiresAt patches instant := by
    refine filter_congr fun patch hpatch => ?_
    have hstart := started patch hpatch
    rw [decide_eq_decide]
    constructor
    · rintro ⟨⟨-, hexpires⟩, hcreated⟩
      exact ⟨hcreated, hexpires⟩
    · rintro ⟨hcreated, hexpires⟩
      exact ⟨⟨hstart.trans hcreated, hexpires⟩, hcreated⟩
  rw [activeIn, hfilter]
  refine sortedBy_eq_self _ ((received.sublist filter_sublist).imp fun hlt => ?_)
  exact (Prod.Lex.toLex_lt_toLex.mpr (.inl hlt)).le

omit [PolicyNumber R] in
theorem activeAt_concat
    (hactive : ActiveAt PolicyPatch.createdAt PolicyPatch.expiresAt instant patch) :
    activeAt PolicyPatch.createdAt PolicyPatch.expiresAt (patches ++ [patch]) instant =
      activeAt PolicyPatch.createdAt PolicyPatch.expiresAt patches instant ++ [patch] := by
  simp [activeAt, filter_append, hactive]

theorem PolicyMove.sound (move : PolicyMove armId log log') (sound : log.Sound armId) :
    log'.Sound armId := by
  cases move with
  | @recompose scopeId instant composed reached composes differs =>
    refine ⟨fun patch hpatch => ?_, sound.sorted, sound.compiled, fun _ row hrow => ?_⟩
    · obtain ⟨row, hrow, hcreated⟩ := sound.dated patch hpatch
      exact ⟨row, mem_append_left _ hrow, hcreated⟩
    · obtain rfl : ⟨scopeId, composed, instant⟩ = row := by simpa using hrow
      have hversion := (compose_eq_ok.mp composes).2.2
      rw [hversion]
      exact composes
  | @accept scopeId patch compiled reached composes compiles =>
    have hnew : CompiledAfter armId log.patches patch := ⟨_, _, _, composes, compiles⟩
    refine ⟨fun other hother => ?_, ?_, forall_split_concat.mpr ⟨sound.compiled, hnew⟩,
      fun received row hrow => ?_⟩
    · rcases mem_append.mp hother with hother | hother
      · obtain ⟨row, hrow, hcreated⟩ := sound.dated other hother
        exact ⟨row, mem_append_left _ hrow, hcreated⟩
      · rw [mem_singleton.mp hother]
        exact ⟨_, mem_append_right _ mem_cons_self, rfl⟩
    · refine pairwise_append.mpr ⟨sound.sorted, pairwise_singleton _ _, ?_⟩
      intro other hother last hlast
      rw [mem_singleton.mp hlast]
      obtain ⟨row, hrow, hcreated⟩ := sound.dated other hother
      exact hcreated ▸ reached row hrow
    · obtain rfl : ⟨scopeId, compiled, patch.createdAt⟩ = row := by simpa using hrow
      have hbefore : Received log.patches := (pairwise_append.mp received).1
      have hstarted : ∀ other ∈ log.patches ++ [patch], other.effectiveFrom ≤ other.createdAt := by
        intro other hother
        rcases mem_append.mp hother with hother | hother
        · exact (sound.fits hother).active.1
        · rw [mem_singleton.mp hother]
          exact hnew.fits.active.1
      have hactive : ActiveAt PolicyPatch.createdAt PolicyPatch.expiresAt patch.createdAt patch :=
        ⟨le_refl _, hnew.fits.active.2⟩
      have hversion : compiled.version = (log.latest armId).version + 1 :=
        (compile_eq_ok.mp compiles).2.2.2.2.2.1
      rw [activeIn_eq_activeAt hbefore fun other hother => (sound.fits hother).active.1] at composes
      show compose armId (activeIn (log.patches ++ [patch]) patch.createdAt)
        compiled.version _ _ = _
      rw [activeIn_eq_activeAt received hstarted, activeAt_concat hactive, hversion]
      exact ((compile_composed composes).mp compiles).2.2

variable {env : ControlEnvironment} {hash : Hashing} {tables : ControlTables R}
  {taken : List (ControlTables R × ControlAction R)}

theorem policyLog_sound (run : ControlRun env hash .empty taken tables) (armId scopeId : String) :
    (tables.policyLog armId scopeId).Sound armId := by
  refine policyLog_inv run ⟨?_, .nil, ?_, ?_⟩ fun log log' _ move sound => move.sound sound
  · intro patch hpatch
    exact absurd hpatch not_mem_nil
  · intro pre patch post hsplit
    exact absurd hsplit.symm (by simp)
  · intro _ row hrow
    exact absurd hrow (by simp)

end AdaptiveQuant.Control
