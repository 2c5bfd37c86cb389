import AdaptiveQuant.Research.ShadowRun

/-! The trail of a run: the states that an arm went through and the results of the cycles. -/

namespace AdaptiveQuant.Shadow

open Guard Ledger ArmCycle Sequence List

variable {hash : Hashing} {spec : PairRuntimeSpec hash}

def trail (spec : PairRuntimeSpec hash) (s : PairState hash) (role : ArmRole) :
    List (ArmState hash) :=
  initialState spec role :: s.results.map fun result => (result.val.arm role).nextState

def MatchedCycleResultFields.input (result : MatchedCycleResultFields hash) : CycleInput hash :=
  ⟨result.champion.target, result.challenger.target, result.quoteBundle⟩

theorem MatchedCycle.checkBinding_of_valid {m : MatchedCycle hash}
    (h : m.validateCommonInputs = .ok ()) (role : ArmRole) :
    (m.arm role).checkBinding role = .ok () := by
  simp only [MatchedCycle.validateCommonInputs, bind_eq_ok] at h
  obtain ⟨-, -, -, -, -, -, -, -, -, -, -, -, -, -, u, hchampion, hchallenger⟩ := h
  cases role with
  | champion => exact hchampion
  | challenger => exact hchallenger

theorem ArmCycle.bound_of_checkBinding {c : ArmCycle hash} {role : ArmRole}
    (h : c.checkBinding role = .ok ()) : StateBound c.spec.val role c.state.val ∧
      c.state.val.asOf < c.bundle.val.asOf := by
  simp only [checkBinding, ok_iff, not_not, not_or, not_lt, not_le] at h
  exact ⟨h.1, h.2.1.2⟩

theorem ArmCycle.execute_target {c : ArmCycle hash} {r : ArmCycleResult hash}
    (h : c.execute = .ok r) : r.target = c.target := by
  obtain ⟨-, -, book, -, closed⟩ := execute_eq_ok h
  exact closed.target

theorem ArmCycle.execute_next {c : ArmCycle hash} {r : ArmCycleResult hash}
    (h : c.execute = .ok r) :
    r.nextState.val.sequence = c.state.val.sequence + 1 ∧
      r.nextState.val.asOf = c.bundle.val.asOf ∧ r.nextState.val.runId = c.state.val.runId ∧
      r.nextState.val.armId = c.state.val.armId ∧
      c.state.val.lastNavUsd * (1 + r.dailySummary.val.netReturn) = r.nextState.val.lastNavUsd := by
  obtain ⟨-, -, book, -, closed⟩ := execute_eq_ok h
  obtain ⟨stateHash, hnext⟩ := closed.next
  rw [hnext, closed.daily]
  refine ⟨rfl, rfl, rfl, rfl, ?_⟩
  show c.state.val.lastNavUsd * (1 + (r.nav.navUsd / c.state.val.lastNavUsd - 1)) = r.nav.navUsd
  have hnav := (lastNav_pos c.state).ne'
  field_simp
  ring

structure Trail (spec : PairRuntimeSpec hash) (s : PairState hash) : Prop where
  last : ∀ role, (trail spec s role).getLast? = some (s.arm role)
  bound : ∀ role, ∀ state ∈ trail spec s role,
    state.val.runId = spec.val.runId ∧ state.val.armId = (spec.val.bindingFor role).armId
  sequences : ∀ role, (trail spec s role).Pairwise fun a b => a.val.sequence < b.val.sequence
  times : s.results.Pairwise fun a b => a.val.quoteBundle.val.asOf < b.val.quoteBundle.val.asOf
  latest : ∀ result ∈ s.results, ∀ role, result.val.quoteBundle.val.asOf ≤ (s.arm role).val.asOf
  owned : ∀ result ∈ s.results, result.val.runId = spec.val.runId ∧
    result.val.shadowPairId = spec.val.shadowPairId ∧
    result.val.runtimeContractHash = spec.val.runtimeContractHash
  growth : ∀ role, spec.val.executionContract.startingCapitalUsd *
    ((s.daily role).map fun day => 1 + day.netReturn).prod = (s.arm role).val.lastNavUsd

theorem pairStart_trail (spec : PairRuntimeSpec hash) : Trail spec (pairStart spec) where
  last role := by cases role <;> rfl
  bound role state hmem := by
    rw [trail, pairStart, map_nil, mem_singleton] at hmem
    rw [hmem]
    exact ⟨rfl, rfl⟩
  sequences role := pairwise_singleton _ _
  times := List.Pairwise.nil
  latest result hmem := absurd hmem not_mem_nil
  owned result hmem := absurd hmem not_mem_nil
  growth role := by cases role <;> exact mul_one _

theorem trail_concat {s s' result} (h : s'.results = s.results ++ [result]) (role : ArmRole) :
    trail spec s' role = trail spec s role ++ [(result.val.arm role).nextState] := by
  rw [trail, h, map_append, map_singleton]
  rfl

theorem pairStep_trail {s s' : PairState hash} {input : CycleInput hash} (before : Trail spec s)
    (h : pairStep spec s input = .ok s') : Trail spec s' := by
  obtain ⟨result, hresult, harm, hresults⟩ := pairStep_cases h
  obtain ⟨hvalid, hexecute, hbundle, howned⟩ := MatchedCycle.execute_eq_ok hresult
  have hlater : ∀ role, (s.arm role).val.asOf < result.val.quoteBundle.val.asOf := by
    intro role
    have hbinding := MatchedCycle.checkBinding_of_valid hvalid role
    have htime := (bound_of_checkBinding hbinding).2
    rw [input.cycle_state spec s role] at htime
    rw [hbundle]
    cases role <;> exact htime
  have hmember : ∀ role, s.arm role ∈ trail spec s role := fun role =>
    mem_of_getLast? (before.last role)
  have hnext : ∀ role, (result.val.arm role).nextState.val.sequence =
        (s.arm role).val.sequence + 1 ∧
      (result.val.arm role).nextState.val.asOf = result.val.quoteBundle.val.asOf ∧
      (result.val.arm role).nextState.val.runId = (s.arm role).val.runId ∧
      (result.val.arm role).nextState.val.armId = (s.arm role).val.armId ∧
      (s.arm role).val.lastNavUsd * (1 + (result.val.arm role).dailySummary.val.netReturn) =
        (result.val.arm role).nextState.val.lastNavUsd := by
    intro role
    have hstep := execute_next (hexecute role)
    rw [input.cycle_state spec s role] at hstep
    rw [hbundle]
    cases role <;> exact hstep
  -- the states before have at most the sequence of the present one
  have hle : ∀ role, ∀ state ∈ trail spec s role,
      state.val.sequence ≤ (s.arm role).val.sequence := by
    intro role state hmem
    obtain ⟨front, hfront⟩ := List.getLast?_eq_some_iff.mp (before.last role)
    have hsorted := before.sequences role
    rw [hfront] at hmem hsorted
    rw [pairwise_append] at hsorted
    rcases mem_append.mp hmem with hmem | hmem
    · exact (hsorted.2.2 state hmem _ (mem_singleton.mpr rfl)).le
    · rw [mem_singleton.mp hmem]
  refine ⟨fun role => ?_, fun role state hmem => ?_, fun role => ?_, ?_, ?_, ?_, fun role => ?_⟩
  · rw [trail_concat hresults, List.getLast?_concat, harm role]
  · rw [trail_concat hresults, mem_append, mem_singleton] at hmem
    rcases hmem with hmem | rfl
    · exact before.bound role state hmem
    · obtain ⟨hrun, harmId⟩ := before.bound role _ (hmember role)
      exact ⟨(hnext role).2.2.1.trans hrun, (hnext role).2.2.2.1.trans harmId⟩
  · rw [trail_concat hresults, pairwise_append]
    refine ⟨before.sequences role, pairwise_singleton _ _, fun a ha b hb => ?_⟩
    rw [mem_singleton.mp hb, (hnext role).1]
    exact Nat.lt_succ_of_le (hle role a ha)
  · rw [hresults, pairwise_append]
    refine ⟨before.times, pairwise_singleton _ _, fun a ha b hb => ?_⟩
    rw [mem_singleton.mp hb]
    exact (before.latest a ha .champion).trans_lt (hlater .champion)
  · intro other hother role
    rw [harm role, (hnext role).2.1]
    rw [hresults, mem_append, mem_singleton] at hother
    rcases hother with hother | rfl
    · exact (before.latest other hother role).trans (hlater role).le
    · exact le_rfl
  · intro other hother
    rw [hresults, mem_append, mem_singleton] at hother
    rcases hother with hother | rfl
    · exact before.owned other hother
    · exact howned
  · rw [PairState.daily, hresults, map_append, map_singleton, map_append,
      map_singleton, prod_append, prod_singleton, ← mul_assoc, harm role,
      ← (hnext role).2.2.2.2, ← before.growth role]
    rfl

theorem run_trail {taken s} (run : Run (pairStep spec) (pairStart spec) taken s) : Trail spec s :=
  run.inv (pairStart_trail spec) fun _ _ _ => pairStep_trail

end AdaptiveQuant.Shadow
