import AdaptiveQuant.Research.ShadowRuntime

/-! Matched cycles: the checks of the two arms, the cycle itself, and the summary of its results. -/

namespace AdaptiveQuant.Shadow

open Guard Ledger Sequence

variable {hash : Hashing}

def buildShadowPairRuntimeSpec (hash : Hashing) (shadowPairId challengerId : String)
    (champion challenger : StrategyBinding) (contract : ExecutionContract)
    (parameters : PaperParameters) (codeVersion : String) (createdAt : Instant) :
    Except Failure (PairRuntimeSpec hash) :=
  let runtimeContractHash := hash.canonicalHash (runtimeContract contract parameters)
  let spec : PairRuntimeSpecFields :=
    { runId := hash.stableId "research-shadow-run" [.str shadowPairId, .str champion.artifactHash,
        .str challenger.artifactHash, .str runtimeContractHash]
      shadowPairId := shadowPairId
      challengerId := challengerId
      champion := champion
      challenger := challenger
      executionContract := contract
      executionContractHash := hash.canonicalHash contract.payload
      paperParameters := parameters
      runtimeContractHash := runtimeContractHash
      codeVersion := codeVersion
      createdAt := createdAt
      specHash := "" }
  validate _ { spec with specHash := hash.canonicalHash spec.payload }

variable (spec : PairRuntimeSpec hash) (summaries : List DailyArmSummary)

def initialStateFields (role : ArmRole) : ArmStateFields :=
  let binding := spec.val.bindingFor role
  { runId := spec.val.runId
    role := role
    armId := binding.armId
    strategyId := binding.strategyId
    strategyVersion := binding.strategyVersion
    artifactHash := binding.artifactHash
    sequence := 0
    cashUsd := spec.val.executionContract.startingCapitalUsd
    positions := []
    lastNavUsd := spec.val.executionContract.startingCapitalUsd
    cumulativeTurnoverUsd := 0
    cumulativeCommissionUsd := 0
    cumulativeExecutionCostUsd := 0
    cumulativeSensitivity5bpUsd := 0
    cumulativeSensitivity10bpUsd := 0
    asOf := spec.val.createdAt
    sourceCycleHash := hash.canonicalHash
      (.dict [("event", .str "INITIAL_CAPITAL"), ("spec_hash", .str spec.val.specHash)])
    stateHash := "" }

def buildInitialShadowState (role : ArmRole) :
    Except Failure (ArmState hash) := ArmCycle.sealState (initialStateFields spec role)

def cashState (role : ArmRole) (cash : Decimal) (asOf : Instant)
    (pos : 0 < cash) : ArmState hash where
  val :=
    let state : ArmStateFields :=
      { initialStateFields spec role with cashUsd := cash, lastNavUsd := cash, asOf := asOf }
    { state with stateHash := hash.canonicalHash state.payload }
  valid := by
    refine ArmStateFields.check_eq_ok.mpr ⟨ArmStateFields.fieldErrors_eq_nil.mpr ?_, ?_, rfl⟩
    · exact ⟨pos.le, pos, le_rfl, le_rfl, le_rfl, le_rfl, le_rfl⟩
    · exact List.Pairwise.nil

theorem startingCapital_pos : 0 < spec.val.executionContract.startingCapitalUsd :=
  spec.val.executionContract.capital_pos

def initialState (role : ArmRole) : ArmState hash :=
  cashState spec role spec.val.executionContract.startingCapitalUsd spec.val.createdAt
    (startingCapital_pos spec)

theorem buildInitialShadowState_eq (role : ArmRole) :
    buildInitialShadowState spec role = .ok (initialState spec role) := validate_eq_ok.mpr rfl

/-- `ShadowTargetWeightV1(...)`. -/
def buildTargetWeight (symbol : String) (weight : Decimal) : Except Failure TargetWeight :=
  if h : 0 ≤ weight ∧ weight ≤ 1 then .ok ⟨symbol, weight, h.1, h.2⟩
  else .error (.validation "ShadowTargetWeightV1"
    (geCheck "weight" 0 weight ++ leCheck "weight" 1 weight))

def targetFields (targetId : String) (spec : PairRuntimeSpec hash) (role : ArmRole)
    (decisionTime signalDataCutoff validUntil : Instant) (quoteManifestHash : String)
    (weights : List TargetWeight) : TargetDecisionFields :=
  let binding := spec.val.bindingFor role
  { targetId := targetId
    runId := spec.val.runId
    role := role
    armId := binding.armId
    strategyId := binding.strategyId
    strategyVersion := binding.strategyVersion
    artifactHash := binding.artifactHash
    decisionTime := decisionTime
    signalDataCutoff := signalDataCutoff
    validUntil := validUntil
    marketInputManifestHash := spec.val.executionContract.marketInputManifestHash
    quoteManifestHash := quoteManifestHash
    runtimeContractHash := spec.val.runtimeContractHash
    targetWeights := weights
    targetHash := "" }

def buildShadowTargetDecision (targetId : String) (spec : PairRuntimeSpec hash) (role : ArmRole)
    (decisionTime signalDataCutoff validUntil : Instant) (quoteManifestHash : String)
    (targetWeights : Dict String Decimal) : Except Failure (TargetDecision hash) := do
  let weights ← targetWeights.sortedItems.mapM fun item => buildTargetWeight item.1 item.2
  let target := targetFields targetId spec role decisionTime signalDataCutoff validUntil
    quoteManifestHash weights
  validate _ { target with targetHash := hash.canonicalHash target.payload }

def buildMatchedQuoteBundle (hash : Hashing) (marketInputManifestHash : String) (asOf : Instant)
    (quotes : List Quote) : Except Failure (QuoteBundle hash) :=
  let ordered := sortedBy (·.val.instrumentId) quotes
  let bundle : QuoteBundleFields :=
    ⟨marketInputManifestHash, hash.canonicalHash (quoteManifest ordered), asOf, ordered, ""⟩
  validate _ { bundle with bundleHash := hash.canonicalHash bundle.payload }

/-- The arguments of `execute_matched_shadow_cycle`. -/
structure MatchedCycle (hash : Hashing) where
  spec : PairRuntimeSpec hash
  championState : ArmState hash
  challengerState : ArmState hash
  championTarget : TargetDecision hash
  challengerTarget : TargetDecision hash
  bundle : QuoteBundle hash

namespace MatchedCycle

variable (m : MatchedCycle hash)

def arm : ArmRole → ArmCycle hash
  | .champion => ⟨m.spec, m.championState, m.championTarget, m.bundle⟩
  | .challenger => ⟨m.spec, m.challengerState, m.challengerTarget, m.bundle⟩

end MatchedCycle

def StateBound (spec : PairRuntimeSpecFields) (role : ArmRole) (state : ArmStateFields) : Prop :=
  let binding := spec.bindingFor role
  state.runId = spec.runId ∧ state.role = role ∧ state.armId = binding.armId ∧
    state.strategyId = binding.strategyId ∧ state.strategyVersion = binding.strategyVersion ∧
    state.artifactHash = binding.artifactHash

instance (spec : PairRuntimeSpecFields) (role : ArmRole) (state : ArmStateFields) :
    Decidable (StateBound spec role state) := by unfold StateBound; infer_instance

def TargetBound (spec : PairRuntimeSpecFields) (role : ArmRole) (target : TargetDecisionFields)
    (bundle : QuoteBundleFields) : Prop :=
  let binding := spec.bindingFor role
  target.runId = spec.runId ∧ target.role = role ∧ target.armId = binding.armId ∧
    target.strategyId = binding.strategyId ∧ target.strategyVersion = binding.strategyVersion ∧
    target.artifactHash = binding.artifactHash ∧
    target.runtimeContractHash = spec.runtimeContractHash ∧
    target.marketInputManifestHash = bundle.marketInputManifestHash ∧
    target.quoteManifestHash = bundle.quoteManifestHash

instance (spec : PairRuntimeSpecFields) (role : ArmRole) (target : TargetDecisionFields)
    (bundle : QuoteBundleFields) : Decidable (TargetBound spec role target bundle) := by
  unfold TargetBound; infer_instance

namespace ArmCycle

def checkBinding (c : ArmCycle hash) (role : ArmRole) : Except Failure Unit := do
  raiseIf (¬StateBound c.spec.val role c.state.val)
    ⟨.valueError, "shadow state is not bound to its exact strategy artifact", []⟩
  raiseIf (c.target.val.decisionTime < c.state.val.asOf ∨ c.bundle.val.asOf ≤ c.state.val.asOf)
    ⟨.valueError, "shadow cycle cannot predate its persisted arm state", []⟩
  raiseIf (¬TargetBound c.spec.val role c.target.val c.bundle.val)
    ⟨.valueError, "shadow target is not host-bound to its strategy and inputs", []⟩

end ArmCycle

namespace MatchedCycle

variable (m : MatchedCycle hash)

def validateCommonInputs : Except Failure Unit := do
  let raise (message : String) : Failure := ⟨.valueError, message, []⟩
  let champion := m.championTarget.val
  let challenger := m.challengerTarget.val
  raiseIf ((m.championState.val.role, m.challengerState.val.role) ≠ (.champion, .challenger))
    (raise "matched shadow states must be Champion then Challenger")
  raiseIf ((champion.role, challenger.role) ≠ (.champion, .challenger))
    (raise "matched shadow targets must be Champion then Challenger")
  raiseIf (champion.decisionTime ≠ challenger.decisionTime)
    (raise "matched shadow decisions require a common timestamp")
  raiseIf (champion.signalDataCutoff ≠ challenger.signalDataCutoff)
    (raise "matched shadow decisions require a common signal cutoff")
  raiseIf (champion.validUntil ≠ challenger.validUntil)
    (raise "matched shadow decisions require common validity")
  raiseIf (m.bundle.val.asOf ≥ champion.validUntil)
    (raise "matched shadow quote is outside decision validity")
  raiseIf (m.bundle.val.marketInputManifestHash ≠
      m.spec.val.executionContract.marketInputManifestHash)
    (raise "market input manifest differs from registered contract")
  (m.arm .champion).checkBinding .champion
  (m.arm .challenger).checkBinding .challenger

def resultFields (champion challenger : ArmCycleResult hash) : MatchedCycleResultFields hash where
  runId := m.spec.val.runId
  shadowPairId := m.spec.val.shadowPairId
  runtimeContractHash := m.spec.val.runtimeContractHash
  quoteBundle := m.bundle
  champion := champion
  challenger := challenger
  matchedDailyReturnDifference :=
    challenger.dailySummary.val.netReturn - champion.dailySummary.val.netReturn
  resultHash := ""

def execute : Except Failure (MatchedCycleResult hash) := do
  m.validateCommonInputs
  let champion ← (m.arm .champion).execute
  let challenger ← (m.arm .challenger).execute
  let result := m.resultFields champion challenger
  validate _ { result with resultHash := hash.canonicalHash result.payload }

end MatchedCycle

def MatchedCycleResultFields.arm (r : MatchedCycleResultFields hash) : ArmRole → ArmCycleResult hash
  | .champion => r.champion
  | .challenger => r.challenger

/-- The two arms and the results so far. -/
structure PairState (hash : Hashing) where
  champion : ArmState hash
  challenger : ArmState hash
  results : List (MatchedCycleResult hash)

def PairState.arm (s : PairState hash) : ArmRole → ArmState hash
  | .champion => s.champion
  | .challenger => s.challenger

def PairState.daily (s : PairState hash) (role : ArmRole) : List DailyArmSummaryFields :=
  s.results.map fun result => (result.val.arm role).dailySummary.val

/-- What both arms of a pair are given for one cycle. -/
structure CycleInput (hash : Hashing) where
  championTarget : TargetDecision hash
  challengerTarget : TargetDecision hash
  bundle : QuoteBundle hash

def CycleInput.cycle (input : CycleInput hash) (spec : PairRuntimeSpec hash) (s : PairState hash) :
    MatchedCycle hash :=
  ⟨spec, s.champion, s.challenger, input.championTarget, input.challengerTarget, input.bundle⟩

def pairStart : PairState hash :=
  ⟨initialState spec .champion, initialState spec .challenger, []⟩

def pairStep (s : PairState hash) (input : CycleInput hash) :
    Except Failure (PairState hash) := do
  let result ← (input.cycle spec s).execute
  return ⟨result.val.champion.nextState, result.val.challenger.nextState, s.results ++ [result]⟩

def cumulativeReturn : Decimal :=
  (summaries.map fun item => 1 + item.val.netReturn).prod - 1

def exposureTotals : Dict String Decimal :=
  let add (totals : Dict String Decimal) (symbol : String) (weight : Decimal) :=
    totals.set symbol (totals.getD symbol 0 + weight)
  summaries.foldl (fun totals summary => summary.val.exposures.entries.foldl
    (fun totals item => add totals item.1 item.2) (add totals usdCash summary.val.cashWeight))
    Dict.empty

def averageExposures : Dict String Decimal :=
  (exposureTotals summaries).sorted.mapVal fun _ total => total / summaries.length

def armPerformance : ArmPerformance where
  cumulativeReturn := cumulativeReturn summaries
  turnoverUsd := (summaries.map (·.val.turnoverUsd)).sum
  commissionUsd := (summaries.map (·.val.commissionUsd)).sum
  executionCostUsd := (summaries.map (·.val.executionCostUsd)).sum
  sensitivity5bpCostUsd := (summaries.map (·.val.sensitivity5bpCostUsd)).sum
  sensitivity10bpCostUsd := (summaries.map (·.val.sensitivity10bpCostUsd)).sum
  averageExposures := averageExposures summaries

def summarizeMatchedShadowResults
    (results : List (MatchedCycleResult hash)) (replayHash : String) :
    Except Failure (PerformanceSummary hash) := do
  raiseIf (results = [])
    ⟨.valueError, "matched shadow summary requires at least one session", []⟩
  let ordered := sortedBy (fun item => item.val.quoteBundle.val.asOf) results
  raiseIf (∃ item ∈ ordered, item.val.runId ≠ spec.val.runId ∨
      item.val.shadowPairId ≠ spec.val.shadowPairId ∨
      item.val.runtimeContractHash ≠ spec.val.runtimeContractHash)
    ⟨.valueError, "matched shadow result binding mismatch", []⟩
  let summary : PerformanceSummaryFields :=
    { runId := spec.val.runId
      shadowPairId := spec.val.shadowPairId
      commonSessions := ordered.length
      champion := armPerformance (ordered.map (·.val.champion.dailySummary))
      challenger := armPerformance (ordered.map (·.val.challenger.dailySummary))
      meanMatchedDailyReturnDifference :=
        (ordered.map (·.val.matchedDailyReturnDifference)).sum / ordered.length
      replayHash := replayHash
      summaryHash := "" }
  validate _ { summary with summaryHash := hash.canonicalHash summary.payload }

end AdaptiveQuant.Shadow
