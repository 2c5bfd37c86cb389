import AdaptiveQuant.Lib.Run
import AdaptiveQuant.Research.ShadowOverspend
import AdaptiveQuant.Research.ShadowValue

/-! Runs of matched shadow cycles from the initial states of a pair. -/

namespace AdaptiveQuant.Shadow

open Guard Ledger ArmCycle List

variable {hash : Hashing}

theorem MatchedCycle.execute_eq_ok {m : MatchedCycle hash} {result : MatchedCycleResult hash}
    (h : m.execute = .ok result) : m.validateCommonInputs = .ok () ∧
      (∀ role, (m.arm role).execute = .ok (result.val.arm role)) ∧
      result.val.quoteBundle = m.bundle ∧ result.val.runId = m.spec.val.runId ∧
      result.val.shadowPairId = m.spec.val.shadowPairId ∧
      result.val.runtimeContractHash = m.spec.val.runtimeContractHash := by
  simp only [MatchedCycle.execute, bind_eq_ok, validate_eq_ok] at h
  obtain ⟨u, hvalid, champion, hchampion, challenger, hchallenger, hresult⟩ := h
  have harms : ∀ role, (m.arm role).execute = .ok (result.val.arm role) := by
    intro role
    rw [hresult]
    cases role with
    | champion => exact hchampion
    | challenger => exact hchallenger
  refine ⟨hvalid, harms, ?_⟩
  rw [hresult]
  exact ⟨rfl, rfl, rfl, rfl⟩

theorem pairStep_cases {spec : PairRuntimeSpec hash} {s s' : PairState hash}
    {input : CycleInput hash} (h : pairStep spec s input = .ok s') :
    ∃ result, (input.cycle spec s).execute = .ok result ∧
      (∀ role, s'.arm role = (result.val.arm role).nextState) ∧
      s'.results = s.results ++ [result] := by
  simp only [pairStep, ok_iff] at h
  obtain ⟨result, hresult, rfl⟩ := h
  refine ⟨result, hresult, fun role => ?_, rfl⟩
  cases role <;> rfl

theorem CycleInput.cycle_state (input : CycleInput hash) (spec : PairRuntimeSpec hash)
    (s : PairState hash) (role : ArmRole) : ((input.cycle spec s).arm role).state = s.arm role := by
  cases role <;> rfl

theorem CycleInput.cycle_parameters (input : CycleInput hash) (spec : PairRuntimeSpec hash)
    (s : PairState hash) (role : ArmRole) :
    ((input.cycle spec s).arm role).parameters = spec.val.paperParameters := by
  cases role <;> rfl

/-- The running totals of a state are the sums of the daily records. -/
structure Accumulated (state : ArmStateFields) (daily : List DailyArmSummaryFields) : Prop where
  sequence : state.sequence = daily.length
  turnover : state.cumulativeTurnoverUsd = (daily.map (·.turnoverUsd)).sum
  commission : state.cumulativeCommissionUsd = (daily.map (·.commissionUsd)).sum
  executionCost : state.cumulativeExecutionCostUsd = (daily.map (·.executionCostUsd)).sum
  sensitivity5bp : state.cumulativeSensitivity5bpUsd = (daily.map (·.sensitivity5bpCostUsd)).sum
  sensitivity10bp : state.cumulativeSensitivity10bpUsd = (daily.map (·.sensitivity10bpCostUsd)).sum

theorem Accumulated.next {c : ArmCycle hash} {r : ArmCycleResult hash}
    {daily : List DailyArmSummaryFields} (before : Accumulated c.state.val daily)
    (h : c.execute = .ok r) :
    Accumulated r.nextState.val (daily ++ [r.dailySummary.val]) := by
  obtain ⟨-, -, book, -, closed⟩ := execute_eq_ok h
  obtain ⟨stateHash, hnext⟩ := closed.next
  rw [hnext, closed.daily]
  refine ⟨?_, ?_, ?_, ?_, ?_, ?_⟩
  · simp only [nextStateFields, length_append, length_singleton, before.sequence]
  all_goals simp only [nextStateFields, dailySummary, map_append, sum_append,
    map_singleton, sum_singleton]
  · rw [before.turnover]
  · rw [before.commission]
  · rw [before.executionCost]
  · rw [before.sensitivity5bp]
  · rw [before.sensitivity10bp]

def PairInv (spec : PairRuntimeSpec hash) (s : PairState hash) : Prop :=
  ∀ role, OnQuantum spec.val.paperParameters.quantityQuantum (s.arm role) ∧
    Accumulated (s.arm role).val (s.daily role)

theorem pairStart_inv (spec : PairRuntimeSpec hash) : PairInv spec (pairStart spec) := by
  intro role
  cases role with
  | champion => exact ⟨fun p hp => absurd hp not_mem_nil, ⟨rfl, rfl, rfl, rfl, rfl, rfl⟩⟩
  | challenger => exact ⟨fun p hp => absurd hp not_mem_nil, ⟨rfl, rfl, rfl, rfl, rfl, rfl⟩⟩

theorem pairStep_inv {spec : PairRuntimeSpec hash} {s s' : PairState hash} {input : CycleInput hash}
    (inv : PairInv spec s) (h : pairStep spec s input = .ok s') : PairInv spec s' := by
  obtain ⟨result, hresult, harm, hresults⟩ := pairStep_cases h
  intro role
  have hexecute := (MatchedCycle.execute_eq_ok hresult).2.1 role
  have hquantum := (inv role).1
  have haccumulated := (inv role).2
  rw [← input.cycle_state spec s role] at hquantum haccumulated
  rw [← input.cycle_parameters spec s role] at hquantum ⊢
  refine ⟨?_, ?_⟩
  · rw [harm role]
    exact execute_onQuantum hquantum hexecute
  · rw [harm role, PairState.daily, hresults, map_append, map_singleton]
    exact haccumulated.next hexecute

/-- A cycle of a run costs an arm at most what it records, and exactly that without improved
prices. -/
def CostsRecorded (c : ArmCycle hash) (r : ArmCycleResult hash) : Prop :=
  stateValue c.state c.midpoint - stateValue r.nextState c.midpoint ≤ recordedCost r ∧
    ((∀ fill ∈ r.fills, ¬Improved c fill) →
      stateValue c.state c.midpoint - stateValue r.nextState c.midpoint = recordedCost r)

theorem costsRecorded {c : ArmCycle hash} {r : ArmCycleResult hash}
    (start : OnQuantum c.parameters.quantityQuantum c.state) (h : c.execute = .ok r) :
    CostsRecorded c r := ⟨execute_value_le start h, execute_value_eq start h⟩

theorem taken_length {spec : PairRuntimeSpec hash} {taken : List (PairState hash × CycleInput hash)}
    {s : PairState hash} (run : Run (pairStep spec) (pairStart spec) taken s) :
    s.results.length = taken.length := by
  induction run with
  | start => rfl
  | next run ok ih =>
    obtain ⟨result, -, -, hresults⟩ := pairStep_cases ok
    rw [hresults, length_append, length_append, ih]
    rfl

/-- Every run of a pair keeps the value of its books. -/
theorem shadow_run_conserves {spec : PairRuntimeSpec hash}
    {taken : List (PairState hash × CycleInput hash)} {s : PairState hash}
    (run : Run (pairStep spec) (pairStart spec) taken s) :
    (∀ role, 0 ≤ (s.arm role).val.cashUsd ∧
      (∀ p ∈ (s.arm role).val.positions, 0 < p.quantity ∧
        p.quantity ∈ AddSubgroup.zmultiples spec.val.paperParameters.quantityQuantum) ∧
      SortedUnique ((s.arm role).val.positions.map (·.instrumentId)) ∧
      (s.arm role).val.sequence = taken.length ∧
      Accumulated (s.arm role).val (s.daily role)) ∧
    (∀ input role, ((CycleInput.cycle input spec s).arm role).execute ≠ .error shortSell ∧
      ((CycleInput.cycle input spec s).arm role).execute ≠ .error shortFill) ∧
    ∀ x ∈ taken, ∃ result, (x.2.cycle spec x.1).execute = .ok result ∧
      ∀ role, CostsRecorded ((x.2.cycle spec x.1).arm role) (result.val.arm role) := by
  have keep : ∀ s i s', PairInv spec s → pairStep spec s i = .ok s' → PairInv spec s' :=
    fun _ _ _ => pairStep_inv
  have inv := run.inv (pairStart_inv spec) keep
  refine ⟨fun role => ?_, fun input role => ?_, fun x hx => ?_⟩
  · refine ⟨cash_nonneg _, fun p hp => ⟨p.pos, (inv role).1 p hp⟩, positions_sorted _, ?_,
      (inv role).2⟩
    rw [(inv role).2.sequence, PairState.daily, length_map, taken_length run]
  · exact ⟨execute_never_short (.inl rfl), execute_never_short (.inr rfl)⟩
  · obtain ⟨hbefore, s', hstep⟩ := run.inv_taken (pairStart_inv spec) keep x hx
    obtain ⟨result, hresult, -, -⟩ := pairStep_cases hstep
    refine ⟨result, hresult, fun role => ?_⟩
    refine costsRecorded ?_ ((MatchedCycle.execute_eq_ok hresult).2.1 role)
    rw [x.2.cycle_parameters, x.2.cycle_state]
    exact (hbefore role).1

/-- Two cycles of the shipped parameters: all cash into `SPY`, then half of it out again. -/
def sampleInputs : List (CycleInput Hashing.short) :=
  let spec := sampleSpec Hashing.short 100000 (by norm_num)
  [spyInput spec 0 1 whole_share
      (sampleQuote 1 (49998 / 100) (50002 / 100) (by norm_num) (by norm_num)),
    spyInput spec 2 (1 / 2) ⟨by norm_num, by norm_num⟩
      (sampleQuote 3 (51000 / 100) (51004 / 100) (by norm_num) (by norm_num))]

theorem sampleInputs_run : ∃ taken s, taken.map (·.2) = sampleInputs ∧
    Run (pairStep (sampleSpec Hashing.short 100000 (by norm_num)))
      (pairStart (sampleSpec Hashing.short 100000 (by norm_num))) taken s ∧
    s.results.map (fun result => result.val.champion.fills.map (·.val.side)) =
      [[.buy], [.sell]] := by
  have heval : (sampleInputs.foldlM (pairStep (sampleSpec Hashing.short 100000 (by norm_num)))
      (pairStart (sampleSpec Hashing.short 100000 (by norm_num)))).toOption.any (fun s =>
        s.results.map (fun result => result.val.champion.fills.map (·.val.side)) =
          [[.buy], [.sell]]) = true := by decide +kernel
  obtain ⟨s, hs, hfills⟩ := exists_of_any heval
  obtain ⟨taken, htaken, run⟩ := Run.of_foldlM hs
  exact ⟨taken, s, htaken, run, by simpa using hfills⟩

theorem sampleInputs_conserve : ∃ taken s, taken.map (·.2) = sampleInputs ∧
    Run (pairStep (sampleSpec Hashing.short 100000 (by norm_num)))
      (pairStart (sampleSpec Hashing.short 100000 (by norm_num))) taken s ∧
    ∀ role, (s.arm role).val.sequence = 2 ∧ Accumulated (s.arm role).val (s.daily role) := by
  obtain ⟨taken, s, htaken, run, -⟩ := sampleInputs_run
  have hlength : taken.length = 2 := by rw [← length_map (·.2), htaken]; rfl
  refine ⟨taken, s, htaken, run, fun role => ?_⟩
  obtain ⟨-, -, -, hsequence, haccumulated⟩ := (shadow_run_conserves run).1 role
  exact ⟨hsequence.trans hlength, haccumulated⟩

end AdaptiveQuant.Shadow
