import AdaptiveQuant.Research.ShadowContracts

/-! What a matched shadow cycle records. -/

namespace AdaptiveQuant.Shadow

open Guard Ledger

/-- `ShadowFillCostV1`. -/
structure FillCost where
  fillId : String
  baseExecutionCostUsd : Decimal
  sensitivity5bpCostUsd : Decimal
  sensitivity10bpCostUsd : Decimal
  base_nonneg : baseExecutionCostUsd ≥ 0
  sensitivity5bp_nonneg : sensitivity5bpCostUsd ≥ 0
  sensitivity10bp_nonneg : sensitivity10bpCostUsd ≥ 0
deriving DecidableEq

def FillCost.payload (c : FillCost) : Canonical :=
  .dict [("fill_id", .str c.fillId), ("base_execution_cost_usd", .decimal c.baseExecutionCostUsd),
    ("sensitivity_5bp_cost_usd", .decimal c.sensitivity5bpCostUsd),
    ("sensitivity_10bp_cost_usd", .decimal c.sensitivity10bpCostUsd)]

structure DailyArmSummaryFields where
  role : ArmRole
  armId : String
  asOf : Instant
  startNavUsd : Decimal
  endNavUsd : Decimal
  netReturn : Decimal
  turnoverUsd : Decimal
  turnoverRatio : Decimal
  commissionUsd : Decimal
  executionCostUsd : Decimal
  sensitivity5bpCostUsd : Decimal
  sensitivity10bpCostUsd : Decimal
  cashWeight : Decimal
  exposures : Dict String Decimal
deriving DecidableEq

def exposuresPayload (exposures : Dict String Decimal) : Canonical :=
  .dict (exposures.sorted.entries.map fun item => (item.1, .decimal item.2))

def DailyArmSummaryFields.payload (d : DailyArmSummaryFields) : Canonical :=
  .dict [("role", .str d.role.value), ("arm_id", .str d.armId), ("as_of", .instant d.asOf),
    ("start_nav_usd", .decimal d.startNavUsd), ("end_nav_usd", .decimal d.endNavUsd),
    ("net_return", .decimal d.netReturn), ("turnover_usd", .decimal d.turnoverUsd),
    ("turnover_ratio", .decimal d.turnoverRatio), ("commission_usd", .decimal d.commissionUsd),
    ("execution_cost_usd", .decimal d.executionCostUsd),
    ("sensitivity_5bp_cost_usd", .decimal d.sensitivity5bpCostUsd),
    ("sensitivity_10bp_cost_usd", .decimal d.sensitivity10bpCostUsd),
    ("cash_weight", .decimal d.cashWeight), ("exposures", exposuresPayload d.exposures)]

def DailyArmSummaryFields.fieldErrors (d : DailyArmSummaryFields) : List FieldError :=
  gtZeroCheck "start_nav_usd" d.startNavUsd ++ gtZeroCheck "end_nav_usd" d.endNavUsd ++
    geCheck "turnover_usd" 0 d.turnoverUsd ++ geCheck "turnover_ratio" 0 d.turnoverRatio ++
    geCheck "commission_usd" 0 d.commissionUsd ++
    geCheck "execution_cost_usd" 0 d.executionCostUsd ++
    geCheck "sensitivity_5bp_cost_usd" 0 d.sensitivity5bpCostUsd ++
    geCheck "sensitivity_10bp_cost_usd" 0 d.sensitivity10bpCostUsd ++
    geCheck "cash_weight" 0 d.cashWeight ++ leCheck "cash_weight" 1 d.cashWeight

def DailyArmSummaryFields.check (d : DailyArmSummaryFields) : Except Failure Unit := do
  raiseIf (d.fieldErrors ≠ []) (.validation "ShadowDailyArmSummaryV1" d.fieldErrors)
  raiseIf (∃ value ∈ d.exposures.values, value < 0)
    (.record "ShadowDailyArmSummaryV1" "shadow exposures must be long-only")
  raiseIf (|d.cashWeight + d.exposures.values.sum - 1| > 1 / 1000000)
    (.record "ShadowDailyArmSummaryV1" "shadow cash and risky exposures must sum to one")

/-- `ShadowDailyArmSummaryV1`. -/
abbrev DailyArmSummary := Validated DailyArmSummaryFields.check

/-- `ShadowArmCycleResultV1`. -/
structure ArmCycleResult (hash : Hashing) where
  role : ArmRole
  target : TargetDecision hash
  orders : List OrderIntent
  fills : List Fill
  fillCosts : List FillCost
  ledgerEntries : List LedgerEntry
  nav : NavSnapshot
  nextState : ArmState hash
  dailySummary : DailyArmSummary
deriving DecidableEq

def orderPayload (o : OrderIntentFields) : Canonical :=
  .dict [("order_intent_id", .str o.orderIntentId), ("arm_id", .str o.armId),
    ("portfolio_decision_id", .str o.portfolioDecisionId),
    ("risk_decision_id", .str o.riskDecisionId), ("symbol", .str o.symbol),
    ("side", .str o.side.value), ("order_type", .str o.orderType),
    ("quantity", .decimal o.quantity),
    ("limit_price", o.limitPrice.elim .null .decimal), ("time_in_force", .str o.timeInForce),
    ("session", .str o.session), ("client_order_id", .str o.clientOrderId),
    ("idempotency_key", .str o.idempotencyKey), ("created_at", .instant o.createdAt)]

section Payload

variable {hash : Hashing}

/-- A record with its digest, as `model_dump` gives it. -/
def targetDump (target : TargetDecision hash) : Canonical :=
  .entry "target_hash" (.str target.val.targetHash) target.val.payload

def stateDump (state : ArmState hash) : Canonical :=
  .entry "state_hash" (.str state.val.stateHash) state.val.payload

def bundleDump (bundle : QuoteBundle hash) : Canonical :=
  .entry "bundle_hash" (.str bundle.val.bundleHash) bundle.val.payload

def ArmCycleResult.payload (r : ArmCycleResult hash) : Canonical :=
  .dict [("role", .str r.role.value), ("target", targetDump r.target),
    ("orders", .list (r.orders.map fun order => orderPayload order.val)),
    ("fills", .list (r.fills.map fun fill => fill.val.payload)),
    ("fill_costs", .list (r.fillCosts.map FillCost.payload)),
    ("ledger_entries", .list (r.ledgerEntries.map LedgerEntry.payload)),
    ("nav", r.nav.payload), ("next_state", stateDump r.nextState),
    ("daily_summary", r.dailySummary.val.payload)]

end Payload

structure MatchedCycleResultFields (hash : Hashing) where
  runId : String
  shadowPairId : String
  runtimeContractHash : String
  quoteBundle : QuoteBundle hash
  champion : ArmCycleResult hash
  challenger : ArmCycleResult hash
  matchedDailyReturnDifference : Decimal
  resultHash : String
deriving DecidableEq

def MatchedCycleResultFields.payload {hash : Hashing} (r : MatchedCycleResultFields hash) :
    Canonical :=
  .dict [("schema_version", .str "matched_shadow_cycle_result_v1"), ("run_id", .str r.runId),
    ("shadow_pair_id", .str r.shadowPairId),
    ("runtime_contract_hash", .str r.runtimeContractHash),
    ("quote_bundle", bundleDump r.quoteBundle), ("champion", r.champion.payload),
    ("challenger", r.challenger.payload),
    ("matched_daily_return_difference", .decimal r.matchedDailyReturnDifference),
    ("real_order_routing", .bool false)]

def MatchedCycleResultFields.check (hash : Hashing) (r : MatchedCycleResultFields hash) :
    Except Failure Unit := do
  let raise (message : String) : Failure := .record "MatchedShadowCycleResultV1" message
  raiseIf (r.champion.role ≠ .champion) (raise "matched result Champion role mismatch")
  raiseIf (r.challenger.role ≠ .challenger) (raise "matched result Challenger role mismatch")
  raiseIf (r.matchedDailyReturnDifference ≠
      r.challenger.dailySummary.val.netReturn - r.champion.dailySummary.val.netReturn)
    (raise "matched daily return difference mismatch")
  raiseIf (hash.canonicalHash r.payload ≠ r.resultHash) (raise "matched shadow cycle hash mismatch")

/-- `MatchedShadowCycleResultV1`. -/
abbrev MatchedCycleResult (hash : Hashing) := Validated (MatchedCycleResultFields.check hash)

/-- The totals of one arm in `MatchedShadowPerformanceSummaryV1`. -/
structure ArmPerformance where
  cumulativeReturn : Decimal
  turnoverUsd : Decimal
  commissionUsd : Decimal
  executionCostUsd : Decimal
  sensitivity5bpCostUsd : Decimal
  sensitivity10bpCostUsd : Decimal
  averageExposures : Dict String Decimal
deriving DecidableEq

structure PerformanceSummaryFields where
  runId : String
  shadowPairId : String
  commonSessions : ℕ
  champion : ArmPerformance
  challenger : ArmPerformance
  meanMatchedDailyReturnDifference : Decimal
  replayHash : String
  summaryHash : String
deriving DecidableEq

def ArmPerformance.items (arm : ArmPerformance) : List (String × Canonical) :=
  [("_cumulative_return", .decimal arm.cumulativeReturn),
    ("_turnover_usd", .decimal arm.turnoverUsd), ("_commission_usd", .decimal arm.commissionUsd),
    ("_execution_cost_usd", .decimal arm.executionCostUsd),
    ("_sensitivity_5bp_cost_usd", .decimal arm.sensitivity5bpCostUsd),
    ("_sensitivity_10bp_cost_usd", .decimal arm.sensitivity10bpCostUsd),
    ("_average_exposures", exposuresPayload arm.averageExposures)]

def PerformanceSummaryFields.payload (s : PerformanceSummaryFields) : Canonical :=
  .dict
    ([("schema_version", .str "matched_shadow_performance_summary_v1"), ("run_id", .str s.runId),
      ("shadow_pair_id", .str s.shadowPairId), ("common_sessions", .int s.commonSessions),
      ("mean_matched_daily_return_difference", .decimal s.meanMatchedDailyReturnDifference)] ++
    s.champion.items.map (fun item => ("champion" ++ item.1, item.2)) ++
    s.challenger.items.map (fun item => ("challenger" ++ item.1, item.2)) ++
    [("replay_hash", .str s.replayHash), ("profitability_claimed", .bool false)])

def ArmPerformance.checks (role : String) (arm : ArmPerformance) : List (List FieldError) :=
  [geCheck (role ++ "_turnover_usd") 0 arm.turnoverUsd,
    geCheck (role ++ "_commission_usd") 0 arm.commissionUsd,
    geCheck (role ++ "_execution_cost_usd") 0 arm.executionCostUsd,
    geCheck (role ++ "_sensitivity_5bp_cost_usd") 0 arm.sensitivity5bpCostUsd,
    geCheck (role ++ "_sensitivity_10bp_cost_usd") 0 arm.sensitivity10bpCostUsd]

def PerformanceSummaryFields.fieldErrors (s : PerformanceSummaryFields) : List FieldError :=
  fieldCheck "common_sessions" (0 < s.commonSessions) "Input should be greater than 0" ++
    (List.zipWith (· ++ ·) (s.champion.checks "champion")
      (s.challenger.checks "challenger")).flatten

def PerformanceSummaryFields.check (hash : Hashing) (s : PerformanceSummaryFields) :
    Except Failure Unit := do
  raiseIf (s.fieldErrors ≠ []) (.validation "MatchedShadowPerformanceSummaryV1" s.fieldErrors)
  raiseIf (hash.canonicalHash s.payload ≠ s.summaryHash)
    (.record "MatchedShadowPerformanceSummaryV1" "matched shadow summary hash mismatch")

/-- `MatchedShadowPerformanceSummaryV1`. -/
abbrev PerformanceSummary (hash : Hashing) := Validated (PerformanceSummaryFields.check hash)

end AdaptiveQuant.Shadow
