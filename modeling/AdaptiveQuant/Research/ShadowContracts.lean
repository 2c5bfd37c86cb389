import AdaptiveQuant.Ledger.Journal

/-! The records of the matched shadow runtime, `research/shadow_runtime.py`. -/

namespace AdaptiveQuant.Shadow

open Guard Ledger

def usdCash : String := "USD_CASH"

/-- `ShadowArmRole`. -/
inductive ArmRole
  | champion
  | challenger
deriving DecidableEq

def ArmRole.value : ArmRole → String
  | .champion => "CHAMPION"
  | .challenger => "CHALLENGER"

/-- Ascending, without a repetition. -/
def SortedUnique (items : List String) : Prop := items.Pairwise (· < ·)

instance (items : List String) : Decidable (SortedUnique items) :=
  inferInstanceAs (Decidable (items.Pairwise (· < ·)))

theorem SortedUnique.nodup {items} (h : SortedUnique items) : items.Nodup :=
  h.imp fun hlt => ne_of_lt hlt

/-- `ShadowPaperParametersV1`. -/
structure PaperParameters where
  contractVersion : String
  commissionRate : Decimal
  commissionWaiverThresholdUsd : Decimal
  delayPenaltyBps : Decimal
  displayedParticipationRate : Decimal
  advParticipationRate : Decimal
  minimumOrderNotionalUsd : Decimal
  quantityQuantum : Decimal
  priceQuantum : Quantum
  sensitivity5Bps : Decimal
  sensitivity10Bps : Decimal
  basisPointsPerUnitReturn : Decimal
  maximumQuoteAgeSeconds : ℕ
  maximumMultiSymbolQuoteSkewSeconds : ℕ
  displayedSizeUnitShares : ℕ
  advLookbackCompletedSessions : ℕ
  weightTolerance : Decimal
  commissionRate_nonneg : 0 ≤ commissionRate
  commissionRate_le : commissionRate ≤ 1
  waiver_nonneg : 0 ≤ commissionWaiverThresholdUsd
  delay_nonneg : 0 ≤ delayPenaltyBps
  displayed_pos : 0 < displayedParticipationRate
  displayed_le : displayedParticipationRate ≤ 1
  adv_pos : 0 < advParticipationRate
  adv_le : advParticipationRate ≤ 1
  minimumOrder_pos : 0 < minimumOrderNotionalUsd
  quantityQuantum_pos : 0 < quantityQuantum
  priceQuantum_pos : 0 < priceQuantum.coefficient
  sensitivity5_pos : 0 < sensitivity5Bps
  basisPoints_pos : 0 < basisPointsPerUnitReturn
  quoteAge_pos : 0 < maximumQuoteAgeSeconds
  quoteSkew_pos : 0 < maximumMultiSymbolQuoteSkewSeconds
  sizeUnit_pos : 0 < displayedSizeUnitShares
  lookback_gt : 1 < advLookbackCompletedSessions
  tolerance_pos : 0 < weightTolerance
  sensitivity_lt : sensitivity5Bps < sensitivity10Bps
  delay_lt : delayPenaltyBps < basisPointsPerUnitReturn
  sensitivity10_lt : sensitivity10Bps < basisPointsPerUnitReturn
deriving DecidableEq

def PaperParameters.payload (p : PaperParameters) : Canonical :=
  .dict [("schema_version", .str "shadow_paper_parameters_v1"),
    ("contract_version", .str p.contractVersion), ("commission_rate", .decimal p.commissionRate),
    ("commission_waiver_threshold_usd", .decimal p.commissionWaiverThresholdUsd),
    ("delay_penalty_bps", .decimal p.delayPenaltyBps),
    ("displayed_participation_rate", .decimal p.displayedParticipationRate),
    ("adv_participation_rate", .decimal p.advParticipationRate),
    ("minimum_order_notional_usd", .decimal p.minimumOrderNotionalUsd),
    ("quantity_quantum", .decimal p.quantityQuantum),
    ("price_quantum", .decimal p.priceQuantum.value),
    ("sensitivity_5_bps", .decimal p.sensitivity5Bps),
    ("sensitivity_10_bps", .decimal p.sensitivity10Bps),
    ("basis_points_per_unit_return", .decimal p.basisPointsPerUnitReturn),
    ("maximum_quote_age_seconds", .int p.maximumQuoteAgeSeconds),
    ("maximum_multi_symbol_quote_skew_seconds", .int p.maximumMultiSymbolQuoteSkewSeconds),
    ("displayed_size_unit_shares", .int p.displayedSizeUnitShares),
    ("adv_lookback_completed_sessions", .int p.advLookbackCompletedSessions),
    ("weight_tolerance", .decimal p.weightTolerance), ("real_order_routing", .bool false)]

/-- `ShadowStrategyBindingV1`. -/
structure StrategyBinding where
  role : ArmRole
  armId : String
  strategyId : String
  strategyVersion : String
  artifactHash : String
deriving DecidableEq

def StrategyBinding.payload (b : StrategyBinding) : Canonical :=
  .dict [("role", .str b.role.value), ("arm_id", .str b.armId), ("strategy_id", .str b.strategyId),
    ("strategy_version", .str b.strategyVersion), ("artifact_hash", .str b.artifactHash)]

/-- `MatchedShadowExecutionContractV1`. -/
structure ExecutionContract where
  marketInputManifestHash : String
  decisionScheduleVersion : String
  executionScenarioVersion : String
  costModelVersion : String
  startingCapitalUsd : Decimal
  liquidityPolicyVersion : String
  capital_pos : 0 < startingCapitalUsd
deriving DecidableEq

def ExecutionContract.payload (c : ExecutionContract) : Canonical :=
  .dict [("market_input_manifest_hash", .str c.marketInputManifestHash),
    ("decision_schedule_version", .str c.decisionScheduleVersion),
    ("execution_scenario_version", .str c.executionScenarioVersion),
    ("cost_model_version", .str c.costModelVersion),
    ("starting_capital_usd", .decimal c.startingCapitalUsd),
    ("liquidity_policy_version", .str c.liquidityPolicyVersion)]

/-- What `runtime_contract_hash` is a digest of. -/
def runtimeContract (contract : ExecutionContract) (parameters : PaperParameters) : Canonical :=
  .dict [("execution_contract", contract.payload), ("paper_parameters", parameters.payload)]

structure PairRuntimeSpecFields where
  runId : String
  shadowPairId : String
  challengerId : String
  champion : StrategyBinding
  challenger : StrategyBinding
  executionContract : ExecutionContract
  executionContractHash : String
  paperParameters : PaperParameters
  runtimeContractHash : String
  codeVersion : String
  createdAt : Instant
  specHash : String
deriving DecidableEq

def PairRuntimeSpecFields.payload (s : PairRuntimeSpecFields) : Canonical :=
  .dict [("schema_version", .str "shadow_pair_runtime_spec_v1"), ("run_id", .str s.runId),
    ("shadow_pair_id", .str s.shadowPairId), ("challenger_id", .str s.challengerId),
    ("champion", s.champion.payload), ("challenger", s.challenger.payload),
    ("execution_contract", s.executionContract.payload),
    ("execution_contract_hash", .str s.executionContractHash),
    ("paper_parameters", s.paperParameters.payload),
    ("runtime_contract_hash", .str s.runtimeContractHash), ("code_version", .str s.codeVersion),
    ("created_at", .instant s.createdAt), ("real_order_routing", .bool false)]

variable (hash : Hashing)

def PairRuntimeSpecFields.check (s : PairRuntimeSpecFields) :
    Except Failure Unit := do
  let raise (message : String) : Failure := .record "ShadowPairRuntimeSpecV1" message
  raiseIf (s.champion.role ≠ .champion) (raise "Champion binding has wrong role")
  raiseIf (s.challenger.role ≠ .challenger) (raise "Challenger binding has wrong role")
  raiseIf (s.champion.armId = s.challenger.armId) (raise "matched shadow arms must be independent")
  raiseIf (s.champion.strategyVersion = s.challenger.strategyVersion)
    (raise "Challenger must use a distinct strategy version")
  raiseIf (s.champion.artifactHash = s.challenger.artifactHash)
    (raise "Challenger must use a distinct strategy artifact")
  raiseIf (hash.canonicalHash s.executionContract.payload ≠ s.executionContractHash)
    (raise "shadow execution contract hash mismatch")
  raiseIf (hash.canonicalHash (runtimeContract s.executionContract s.paperParameters) ≠
      s.runtimeContractHash) (raise "shadow runtime contract hash mismatch")
  raiseIf (hash.canonicalHash s.payload ≠ s.specHash) (raise "shadow runtime spec hash mismatch")

/-- `ShadowPairRuntimeSpecV1`. -/
abbrev PairRuntimeSpec := Validated (PairRuntimeSpecFields.check hash)

theorem PairRuntimeSpecFields.check_eq_ok {hash : Hashing} {s : PairRuntimeSpecFields} :
    s.check hash = .ok () ↔ s.champion.role = .champion ∧ s.challenger.role = .challenger ∧
      s.champion.armId ≠ s.challenger.armId ∧
      s.champion.strategyVersion ≠ s.challenger.strategyVersion ∧
      s.champion.artifactHash ≠ s.challenger.artifactHash ∧
      hash.canonicalHash s.executionContract.payload = s.executionContractHash ∧
      hash.canonicalHash (runtimeContract s.executionContract s.paperParameters) =
        s.runtimeContractHash ∧ hash.canonicalHash s.payload = s.specHash := by
  simp only [PairRuntimeSpecFields.check, ok_iff, not_not, ne_eq]

def PairRuntimeSpecFields.bindingFor (s : PairRuntimeSpecFields) : ArmRole → StrategyBinding
  | .champion => s.champion
  | .challenger => s.challenger

/-- `ShadowPositionV1`. -/
structure Position where
  instrumentId : String
  quantity : Decimal
  pos : 0 < quantity
deriving DecidableEq

structure ArmStateFields where
  runId : String
  role : ArmRole
  armId : String
  strategyId : String
  strategyVersion : String
  artifactHash : String
  sequence : ℕ
  cashUsd : Decimal
  positions : List Position
  lastNavUsd : Decimal
  cumulativeTurnoverUsd : Decimal
  cumulativeCommissionUsd : Decimal
  cumulativeExecutionCostUsd : Decimal
  cumulativeSensitivity5bpUsd : Decimal
  cumulativeSensitivity10bpUsd : Decimal
  asOf : Instant
  sourceCycleHash : String
  stateHash : String
deriving DecidableEq

def Position.payload (p : Position) : Canonical :=
  .dict [("instrument_id", .str p.instrumentId), ("quantity", .decimal p.quantity)]

def ArmStateFields.payload (s : ArmStateFields) : Canonical :=
  .dict [("schema_version", .str "shadow_arm_state_v1"), ("run_id", .str s.runId),
    ("role", .str s.role.value), ("arm_id", .str s.armId), ("strategy_id", .str s.strategyId),
    ("strategy_version", .str s.strategyVersion), ("artifact_hash", .str s.artifactHash),
    ("sequence", .int s.sequence), ("cash_usd", .decimal s.cashUsd),
    ("positions", .list (s.positions.map Position.payload)),
    ("last_nav_usd", .decimal s.lastNavUsd),
    ("cumulative_turnover_usd", .decimal s.cumulativeTurnoverUsd),
    ("cumulative_commission_usd", .decimal s.cumulativeCommissionUsd),
    ("cumulative_execution_cost_usd", .decimal s.cumulativeExecutionCostUsd),
    ("cumulative_sensitivity_5bp_usd", .decimal s.cumulativeSensitivity5bpUsd),
    ("cumulative_sensitivity_10bp_usd", .decimal s.cumulativeSensitivity10bpUsd),
    ("as_of", .instant s.asOf), ("source_cycle_hash", .str s.sourceCycleHash)]

def ArmStateFields.fieldErrors (s : ArmStateFields) : List FieldError :=
  geCheck "cash_usd" 0 s.cashUsd ++ gtZeroCheck "last_nav_usd" s.lastNavUsd ++
    geCheck "cumulative_turnover_usd" 0 s.cumulativeTurnoverUsd ++
    geCheck "cumulative_commission_usd" 0 s.cumulativeCommissionUsd ++
    geCheck "cumulative_execution_cost_usd" 0 s.cumulativeExecutionCostUsd ++
    geCheck "cumulative_sensitivity_5bp_usd" 0 s.cumulativeSensitivity5bpUsd ++
    geCheck "cumulative_sensitivity_10bp_usd" 0 s.cumulativeSensitivity10bpUsd

def ArmStateFields.check (s : ArmStateFields) : Except Failure Unit := do
  raiseIf (s.fieldErrors ≠ []) (.validation "ShadowArmStateV1" s.fieldErrors)
  raiseIf (¬SortedUnique (s.positions.map (·.instrumentId)))
    (.record "ShadowArmStateV1" "shadow positions must be unique and sorted")
  raiseIf (hash.canonicalHash s.payload ≠ s.stateHash)
    (.record "ShadowArmStateV1" "shadow state hash mismatch")

/-- `ShadowArmStateV1`. -/
abbrev ArmState := Validated (ArmStateFields.check hash)

theorem ArmStateFields.check_eq_ok {hash : Hashing} {s : ArmStateFields} :
    s.check hash = .ok () ↔ s.fieldErrors = [] ∧ SortedUnique (s.positions.map (·.instrumentId)) ∧
      hash.canonicalHash s.payload = s.stateHash := by
  simp [ArmStateFields.check]

theorem ArmStateFields.fieldErrors_eq_nil {s : ArmStateFields} :
    s.fieldErrors = [] ↔ 0 ≤ s.cashUsd ∧ 0 < s.lastNavUsd ∧ 0 ≤ s.cumulativeTurnoverUsd ∧
      0 ≤ s.cumulativeCommissionUsd ∧ 0 ≤ s.cumulativeExecutionCostUsd ∧
      0 ≤ s.cumulativeSensitivity5bpUsd ∧ 0 ≤ s.cumulativeSensitivity10bpUsd := by
  simp [ArmStateFields.fieldErrors, gtZeroCheck]

section State

variable {hash : Hashing} (state : ArmState hash)

theorem cash_nonneg : 0 ≤ state.val.cashUsd :=
  (ArmStateFields.fieldErrors_eq_nil.mp (ArmStateFields.check_eq_ok.mp state.valid).1).1

theorem lastNav_pos : 0 < state.val.lastNavUsd :=
  (ArmStateFields.fieldErrors_eq_nil.mp (ArmStateFields.check_eq_ok.mp state.valid).1).2.1

theorem positions_sorted : SortedUnique (state.val.positions.map (·.instrumentId)) :=
  (ArmStateFields.check_eq_ok.mp state.valid).2.1

def positionMap : Dict String Decimal where
  entries := state.val.positions.map fun p => (p.instrumentId, p.quantity)
  nodup := by
    rw [List.map_map]
    exact (positions_sorted state).nodup

end State

/-- `ShadowTargetWeightV1`. -/
structure TargetWeight where
  instrumentId : String
  weight : Decimal
  nonneg : 0 ≤ weight
  le_one : weight ≤ 1
deriving DecidableEq

structure TargetDecisionFields where
  targetId : String
  runId : String
  role : ArmRole
  armId : String
  strategyId : String
  strategyVersion : String
  artifactHash : String
  decisionTime : Instant
  signalDataCutoff : Instant
  validUntil : Instant
  marketInputManifestHash : String
  quoteManifestHash : String
  runtimeContractHash : String
  targetWeights : List TargetWeight
  targetHash : String
deriving DecidableEq

def TargetWeight.payload (w : TargetWeight) : Canonical :=
  .dict [("instrument_id", .str w.instrumentId), ("weight", .decimal w.weight)]

def TargetDecisionFields.payload (t : TargetDecisionFields) : Canonical :=
  .dict [("schema_version", .str "shadow_target_decision_v1"), ("target_id", .str t.targetId),
    ("run_id", .str t.runId), ("role", .str t.role.value), ("arm_id", .str t.armId),
    ("strategy_id", .str t.strategyId), ("strategy_version", .str t.strategyVersion),
    ("artifact_hash", .str t.artifactHash), ("decision_time", .instant t.decisionTime),
    ("signal_data_cutoff", .instant t.signalDataCutoff), ("valid_until", .instant t.validUntil),
    ("market_input_manifest_hash", .str t.marketInputManifestHash),
    ("quote_manifest_hash", .str t.quoteManifestHash),
    ("runtime_contract_hash", .str t.runtimeContractHash),
    ("target_weights", .list (t.targetWeights.map TargetWeight.payload))]

def TargetDecisionFields.check (t : TargetDecisionFields) :
    Except Failure Unit := do
  let instruments := t.targetWeights.map (·.instrumentId)
  let raise (message : String) : Failure := .record "ShadowTargetDecisionV1" message
  raiseIf (t.targetWeights = []) (.validation "ShadowTargetDecisionV1"
    [⟨"target_weights", "Tuple should have at least 1 item after validation, not 0"⟩])
  raiseIf (t.signalDataCutoff > t.decisionTime) (raise "shadow target uses future signal data")
  raiseIf (t.validUntil ≤ t.decisionTime)
    (raise "shadow target validity must follow decision time")
  raiseIf (¬SortedUnique instruments)
    (raise "shadow target instruments must be unique and sorted")
  raiseIf (usdCash ∉ instruments) (raise "shadow target must include USD_CASH")
  raiseIf ((t.targetWeights.map (·.weight)).sum ≠ 1)
    (raise "shadow target weights must sum to one")
  raiseIf (hash.canonicalHash t.payload ≠ t.targetHash) (raise "shadow target hash mismatch")

/-- `ShadowTargetDecisionV1`. -/
abbrev TargetDecision := Validated (TargetDecisionFields.check hash)

/-- What `validate_target` asks of the fields besides their digest. -/
structure TargetDecisionFields.Sound (t : TargetDecisionFields) : Prop where
  weighted : t.targetWeights ≠ []
  cutoff : t.signalDataCutoff ≤ t.decisionTime
  validity : t.decisionTime < t.validUntil
  sorted : SortedUnique (t.targetWeights.map (·.instrumentId))
  cash : usdCash ∈ t.targetWeights.map (·.instrumentId)
  total : (t.targetWeights.map (·.weight)).sum = 1

theorem TargetDecisionFields.check_eq_ok {hash : Hashing} {t : TargetDecisionFields} :
    t.check hash = .ok () ↔ t.Sound ∧ hash.canonicalHash t.payload = t.targetHash := by
  simp only [TargetDecisionFields.check, ok_iff, not_lt, not_le, not_not, gt_iff_lt, ne_eq]
  constructor
  · rintro ⟨h1, h2, h3, h4, h5, h6, h7⟩
    exact ⟨⟨h1, h2, h3, h4, h5, h6⟩, h7⟩
  · rintro ⟨⟨h1, h2, h3, h4, h5, h6⟩, h7⟩
    exact ⟨h1, h2, h3, h4, h5, h6, h7⟩

def sealTarget (t : TargetDecisionFields) (sound : t.Sound) :
    TargetDecision hash where
  val := { t with targetHash := hash.canonicalHash t.payload }
  valid := TargetDecisionFields.check_eq_ok.mpr ⟨⟨sound.weighted, sound.cutoff, sound.validity,
    sound.sorted, sound.cash, sound.total⟩, rfl⟩

def weightMap {hash : Hashing} (target : TargetDecision hash) : Dict String Decimal where
  entries := target.val.targetWeights.map fun w => (w.instrumentId, w.weight)
  nodup := by
    rw [List.map_map]
    exact (TargetDecisionFields.check_eq_ok.mp target.valid).1.sorted.nodup

structure QuoteFields where
  quoteId : String
  instrumentId : String
  eventTime : Instant
  availableAt : Instant
  bidPrice : Decimal
  askPrice : Decimal
  bidSizeShares : Decimal
  askSizeShares : Decimal
  advShares : Decimal
  sourceHash : String
deriving DecidableEq

def QuoteFields.fieldErrors (q : QuoteFields) : List FieldError :=
  gtZeroCheck "bid_price" q.bidPrice ++ gtZeroCheck "ask_price" q.askPrice ++
    gtZeroCheck "bid_size_shares" q.bidSizeShares ++
      gtZeroCheck "ask_size_shares" q.askSizeShares ++
    gtZeroCheck "adv_shares" q.advShares

def QuoteFields.check (q : QuoteFields) : Except Failure Unit := do
  raiseIf (q.fieldErrors ≠ []) (.validation "ShadowQuoteV1" q.fieldErrors)
  raiseIf (q.askPrice < q.bidPrice) (.record "ShadowQuoteV1" "crossed quote is not executable")
  raiseIf (q.availableAt < q.eventTime)
    (.record "ShadowQuoteV1" "quote cannot be available before its event")

/-- `ShadowQuoteV1`. -/
abbrev Quote := Validated QuoteFields.check

theorem QuoteFields.check_eq_ok {q : QuoteFields} :
    q.check = .ok () ↔ (0 < q.bidPrice ∧ 0 < q.askPrice ∧ 0 < q.bidSizeShares ∧
      0 < q.askSizeShares ∧ 0 < q.advShares) ∧ q.bidPrice ≤ q.askPrice ∧
      q.eventTime ≤ q.availableAt := by
  simp [QuoteFields.check, QuoteFields.fieldErrors, gtZeroCheck, and_assoc]

def QuoteFields.midpoint (q : QuoteFields) : Decimal := (q.bidPrice + q.askPrice) / 2

theorem midpoint_pos (quote : Quote) : 0 < quote.val.midpoint := by
  obtain ⟨⟨hbid, hask, -⟩, -⟩ := QuoteFields.check_eq_ok.mp quote.valid
  exact half_pos (add_pos hbid hask)

def QuoteFields.payload (q : QuoteFields) : Canonical :=
  .dict [("quote_id", .str q.quoteId), ("instrument_id", .str q.instrumentId),
    ("event_time", .instant q.eventTime), ("available_at", .instant q.availableAt),
    ("bid_price", .decimal q.bidPrice), ("ask_price", .decimal q.askPrice),
    ("bid_size_shares", .decimal q.bidSizeShares), ("ask_size_shares", .decimal q.askSizeShares),
    ("adv_shares", .decimal q.advShares), ("source_hash", .str q.sourceHash)]

structure QuoteBundleFields where
  marketInputManifestHash : String
  quoteManifestHash : String
  asOf : Instant
  quotes : List Quote
  bundleHash : String
deriving DecidableEq

def quoteManifest (quotes : List Quote) : Canonical :=
  .list (quotes.map fun quote => quote.val.payload)

def QuoteBundleFields.payload (b : QuoteBundleFields) : Canonical :=
  .dict [("schema_version", .str "matched_shadow_quote_bundle_v1"),
    ("market_input_manifest_hash", .str b.marketInputManifestHash),
    ("quote_manifest_hash", .str b.quoteManifestHash), ("as_of", .instant b.asOf),
    ("quotes", quoteManifest b.quotes)]

def QuoteBundleFields.check (b : QuoteBundleFields) : Except Failure Unit := do
  let raise (message : String) : Failure := .record "MatchedQuoteBundleV1" message
  raiseIf (b.quotes = []) (.validation "MatchedQuoteBundleV1"
    [⟨"quotes", "Tuple should have at least 1 item after validation, not 0"⟩])
  raiseIf (¬SortedUnique (b.quotes.map (·.val.instrumentId)))
    (raise "matched quotes must be unique and sorted")
  raiseIf (hash.canonicalHash (quoteManifest b.quotes) ≠ b.quoteManifestHash)
    (raise "quote manifest hash mismatch")
  raiseIf (hash.canonicalHash b.payload ≠ b.bundleHash) (raise "quote bundle hash mismatch")

/-- `MatchedQuoteBundleV1`. -/
abbrev QuoteBundle := Validated (QuoteBundleFields.check hash)

theorem QuoteBundleFields.check_eq_ok {hash : Hashing} {b : QuoteBundleFields} :
    b.check hash = .ok () ↔ b.quotes ≠ [] ∧ SortedUnique (b.quotes.map (·.val.instrumentId)) ∧
      hash.canonicalHash (quoteManifest b.quotes) = b.quoteManifestHash ∧
      hash.canonicalHash b.payload = b.bundleHash := by
  simp [QuoteBundleFields.check]

def sealBundle (market : String) (asOf : Instant) (quotes : List Quote)
    (some : quotes ≠ []) (sorted : SortedUnique (quotes.map (·.val.instrumentId))) :
    QuoteBundle hash where
  val :=
    let bundle : QuoteBundleFields :=
      ⟨market, hash.canonicalHash (quoteManifest quotes), asOf, quotes, ""⟩
    { bundle with bundleHash := hash.canonicalHash bundle.payload }
  valid := QuoteBundleFields.check_eq_ok.mpr ⟨some, sorted, rfl, rfl⟩

def quoteMap {hash : Hashing} (bundle : QuoteBundle hash) : Dict String Quote where
  entries := bundle.val.quotes.map fun quote => (quote.val.instrumentId, quote)
  nodup := by
    rw [List.map_map]
    exact (QuoteBundleFields.check_eq_ok.mp bundle.valid).2.1.nodup

end AdaptiveQuant.Shadow
