import AdaptiveQuant.Persistence.ResearchShadow
import AdaptiveQuant.Research.ShadowTrail

/-! The replay and the summary of a run. -/

namespace AdaptiveQuant.Shadow

open Guard Ledger ArmCycle Sequence

variable {hash : Hashing} {spec : PairRuntimeSpec hash}
  {taken : List (PairState hash × CycleInput hash)} {s : PairState hash}

theorem MatchedCycle.execute_input {input : CycleInput hash} {result : MatchedCycleResult hash}
    (h : (input.cycle spec s).execute = .ok result) : result.val.input = input := by
  obtain ⟨-, hexecute, hbundle, -⟩ := MatchedCycle.execute_eq_ok h
  have hchampion : result.val.champion.target = input.championTarget :=
    execute_target (hexecute .champion)
  have hchallenger : result.val.challenger.target = input.challengerTarget :=
    execute_target (hexecute .challenger)
  rw [MatchedCycleResultFields.input, hchampion, hchallenger, hbundle]
  rfl

theorem replay_run (run : Run (pairStep spec) (pairStart spec) taken s) :
    s.results.foldlM (replayCycle spec) (pairStart spec) = .ok s := by
  induction run with
  | start => rfl
  | @next taken s s' input run ok ih =>
    simp only [pairStep, ok_iff] at ok
    obtain ⟨result, hresult, rfl⟩ := ok
    refine foldlM_concat_eq_ok.mpr ⟨s, ih, ?_⟩
    have hreplay : (result.val.input.cycle spec s).execute = .ok result := by
      rw [MatchedCycle.execute_input hresult]
      exact hresult
    show ((result.val.input.cycle spec s).execute >>= _) = _
    rw [hreplay, ok_bind, raiseIf_neg _ (not_not.mpr rfl), ok_bind]
    rfl

def PerformanceSummaryFields.arm (summary : PerformanceSummaryFields) : ArmRole → ArmPerformance
  | .champion => summary.champion
  | .challenger => summary.challenger

/-- The performance is that of the final state. -/
structure Agrees (performance : ArmPerformance) (state : ArmStateFields) (capital : Decimal) :
    Prop where
  growth : performance.cumulativeReturn = state.lastNavUsd / capital - 1
  turnover : performance.turnoverUsd = state.cumulativeTurnoverUsd
  commission : performance.commissionUsd = state.cumulativeCommissionUsd
  executionCost : performance.executionCostUsd = state.cumulativeExecutionCostUsd
  sensitivity5bp : performance.sensitivity5bpCostUsd = state.cumulativeSensitivity5bpUsd
  sensitivity10bp : performance.sensitivity10bpCostUsd = state.cumulativeSensitivity10bpUsd

def dailyRecords (s : PairState hash) (role : ArmRole) : List DailyArmSummary :=
  s.results.map fun result => (result.val.arm role).dailySummary

theorem armPerformance_agrees (run : Run (pairStep spec) (pairStart spec) taken s)
    (role : ArmRole) : Agrees (armPerformance (dailyRecords s role)) (s.arm role).val
      spec.val.executionContract.startingCapitalUsd := by
  have hcapital := spec.val.executionContract.capital_pos
  have hsums := (run.inv (pairStart_inv spec) (fun _ _ _ => pairStep_inv) role).2
  have hgrowth := (run_trail run).growth role
  have hdaily : ∀ f : DailyArmSummaryFields → Decimal,
      (dailyRecords s role).map (fun day => f day.val) = (s.daily role).map f := by
    intro f
    rw [dailyRecords, PairState.daily, List.map_map, List.map_map]
    rfl
  refine ⟨?_, ?_, ?_, ?_, ?_, ?_⟩
  · show ((dailyRecords s role).map fun day => 1 + day.val.netReturn).prod - 1 = _
    rw [hdaily fun day => 1 + day.netReturn, ← hgrowth, mul_div_cancel_left₀ _ hcapital.ne']
  · rw [hsums.turnover, ← hdaily]
    rfl
  · rw [hsums.commission, ← hdaily]
    rfl
  · rw [hsums.executionCost, ← hdaily]
    rfl
  · rw [hsums.sensitivity5bp, ← hdaily]
    rfl
  · rw [hsums.sensitivity10bp, ← hdaily]
    rfl

theorem Agrees.checks {performance : ArmPerformance} {state : ArmState hash} {capital : Decimal}
    (agrees : Agrees performance state.val capital) (role : String) :
    performance.checks role = [[], [], [], [], []] := by
  obtain ⟨-, -, h1, h2, h3, h4, h5⟩ :=
    ArmStateFields.fieldErrors_eq_nil.mp (ArmStateFields.check_eq_ok.mp state.valid).1
  rw [← agrees.turnover] at h1
  rw [← agrees.commission] at h2
  rw [← agrees.executionCost] at h3
  rw [← agrees.sensitivity5bp] at h4
  rw [← agrees.sensitivity10bp] at h5
  simp only [ArmPerformance.checks, List.cons.injEq, geCheck_eq_nil, and_true]
  exact ⟨by exact_mod_cast h1, by exact_mod_cast h2, by exact_mod_cast h3, by exact_mod_cast h4,
    by exact_mod_cast h5⟩

theorem check_of_agrees {summary : PerformanceSummaryFields} {champion challenger : ArmState hash}
    {capital : Decimal} (sessions : 0 < summary.commonSessions)
    (hchampion : Agrees summary.champion champion.val capital)
    (hchallenger : Agrees summary.challenger challenger.val capital)
    (sealed : hash.canonicalHash summary.payload = summary.summaryHash) :
    summary.check hash = .ok () := by
  have herrors : summary.fieldErrors = [] := by
    rw [PerformanceSummaryFields.fieldErrors, hchampion.checks, hchallenger.checks]
    simp [fieldCheck, sessions]
  rw [PerformanceSummaryFields.check, raiseIf_neg _ (not_not.mpr herrors), ok_bind,
    raiseIf_neg _ (not_not.mpr sealed)]

variable {listed : List (MatchedCycleResult hash)}

theorem sortedBy_results (run : Run (pairStep spec) (pairStart spec) taken s)
    (perm : listed.Perm s.results) :
    sortedBy (fun item => item.val.quoteBundle.val.asOf) listed = s.results := by
  have htimes := (run_trail run).times
  have hnodup : (s.results.map fun item => item.val.quoteBundle.val.asOf).Nodup :=
    List.pairwise_map.mpr (htimes.imp fun hlt => ne_of_lt hlt)
  rw [← sortedBy_eq_of_perm _ perm.symm hnodup]
  exact sortedBy_eq_self _ (htimes.imp fun hlt => le_of_lt hlt)

theorem summarize_run (run : Run (pairStep spec) (pairStart spec) taken s) (some : s.results ≠ [])
    (perm : listed.Perm s.results) (replayHash : String) :
    ∃ summary, summarizeMatchedShadowResults spec listed replayHash = .ok summary ∧
      summarizeMatchedShadowResults spec s.results replayHash = .ok summary ∧
      summary.val.commonSessions = s.results.length ∧
      ∀ role, Agrees (summary.val.arm role) (s.arm role).val
        spec.val.executionContract.startingCapitalUsd := by
  have hagrees := armPerformance_agrees run
  have howned : ¬∃ item ∈ s.results, item.val.runId ≠ spec.val.runId ∨
      item.val.shadowPairId ≠ spec.val.shadowPairId ∨
      item.val.runtimeContractHash ≠ spec.val.runtimeContractHash := by
    rintro ⟨item, hitem, hbad⟩
    obtain ⟨h1, h2, h3⟩ := (run_trail run).owned item hitem
    rcases hbad with h | h | h
    · exact h h1
    · exact h h2
    · exact h h3
  have hresult : ∀ listed : List (MatchedCycleResult hash), listed.Perm s.results →
      summarizeMatchedShadowResults spec listed replayHash =
        summarizeMatchedShadowResults spec s.results replayHash := by
    intro listed perm
    have hne : listed ≠ [] := fun hnil => some (List.nil_perm.mp (hnil ▸ perm))
    simp only [summarizeMatchedShadowResults, sortedBy_results run perm,
      sortedBy_results run (List.Perm.refl _), raiseIf_neg _ hne, raiseIf_neg _ some]
  have hlength : 0 < s.results.length := List.length_pos_iff.mpr some
  rw [hresult listed perm]
  simp only [summarizeMatchedShadowResults, sortedBy_results run (List.Perm.refl _),
    raiseIf_neg _ some, raiseIf_neg _ howned, ok_bind]
  refine ⟨_, validate_of_ok ?_, validate_of_ok ?_, rfl, fun role => ?_⟩
  · refine check_of_agrees hlength (hagrees .champion) (hagrees .challenger) rfl
  · refine check_of_agrees hlength (hagrees .champion) (hagrees .challenger) rfl
  · cases role with
    | champion => exact hagrees .champion
    | challenger => exact hagrees .challenger

end AdaptiveQuant.Shadow
