import AdaptiveQuant.Forward.OrderPlan

/-! `ForwardPaperTradingService.decide` of `runtime/forward_paper.py` with the targets of
`portfolio/forward.py`. What it reads of other tables, the volatility forecast and the New York
calendar are inputs; what it writes, its effect row, is the state. -/

namespace AdaptiveQuant

open Guard Sequence

/-- What `decide` reads of a `PolicyState`. -/
structure PolicyState where
  version : ℕ
  portfolioRiskMultiplier : Decimal
  blockedTargets : SymbolSet

def PolicyState.default : PolicyState := ⟨0, 1, ⟨[], List.nodup_nil⟩⟩

def forwardPortfolioError (message : String) : Failure := ⟨.forwardPortfolioError, message, []⟩

def coreWeights (weight : Decimal) : Dict String Decimal where
  entries := [(coreSymbol, weight), (cashSymbol, 1 - weight)]
  nodup := by simp [coreSymbol, cashSymbol]

/-- The weight of the core symbol and the reason, for the arms that may send orders. -/
def armCoreWeight (armId : String) (core : ForwardCoreForecast) (policy : PolicyState) :
    Except Failure (Decimal × String) :=
  if armId = "B0-CASH" then .ok (0, "USD_CASH_CONTROL")
  else if armId = "B0-QQQ" then .ok (1, "QQQ_BUY_AND_HOLD_CONTROL")
  else if armId = "B0-VOL" then .ok (core.qqqWeight, "VOL_TARGETED_QQQ_CASH_CORE")
  else if armId = "B3-RISK" then
    .ok (core.qqqWeight * policy.portfolioRiskMultiplier, "VOL_CORE_WITH_LLM_RISK_REDUCTION")
  else .error (forwardPortfolioError s!"Arm '{armId}' is not forward order-enabled")

def targetForArm (armId : String) (core : ForwardCoreForecast) (policy : PolicyState) :
    Except Failure ForwardTarget := do
  let (weight, reason) ← armCoreWeight armId core policy
  return {
    armId := armId
    targetWeights := coreWeights (min (max weight 0) 1)
    coreForecast := core
    policyVersion := policy.version
    policyRiskMultiplier := policy.portfolioRiskMultiplier
    blockedNewEntries := policy.blockedTargets
    targetReason := reason }

/-- The band is bypassed while other positions remain and while `B3-RISK` reduces risk. -/
def bypassesBand (target : ForwardTarget) (state : ArmState) : Prop :=
  (∃ symbol ∈ state.held.keys, symbol ≠ coreSymbol) ∨
    (target.armId = "B3-RISK" ∧ target.policyRiskMultiplier < 1)

instance (target : ForwardTarget) (state : ArmState) : Decidable (bypassesBand target state) := by
  unfold bypassesBand
  infer_instance

def applyCoreRebalanceBand (target : ForwardTarget) (state : ArmState) (quotes : QuoteBundle)
    (minWeightDelta : Decimal) : Except Failure ForwardTarget :=
  if target.armId ∉ ["B0-VOL", "B3-RISK"] then .ok target
  else do
    raiseIf (¬(0 ≤ minWeightDelta ∧ minWeightDelta ≤ 1))
      (forwardPortfolioError "min_rebalance_weight_delta must be within [0, 1]")
    if bypassesBand target state then return target
    else
      raiseIf (coreSymbol ∉ quotes.keys)
        (forwardPortfolioError "QQQ quote is required for the rebalance band")
      let coreValue := state.quantity coreSymbol * (quoteOf quotes coreSymbol).midpoint
      let nav := state.cashUsd + coreValue
      raiseIf (nav ≤ 0) (forwardPortfolioError "Core NAV must be positive")
      let currentWeight := coreValue / nav
      if |target.targetWeights.getD coreSymbol 0 - currentWeight| ≥ minWeightDelta then
        return target
      else return { target with
        targetWeights := coreWeights currentWeight
        targetReason := target.targetReason ++ "_WITHIN_REBALANCE_BAND" }

structure ForwardService where
  riskConfig : ForwardRiskConfig
  orderEnabledArms : List String
  lossControlArms : SymbolSet
  rebalanceTimeEt : String
  minRebalanceWeightDelta : Decimal
  coreSymbol : String
  maxQuoteAgeSeconds : ℕ
  maxSpreadBps : Dict String Decimal
  defaultMaxSpreadBps : Decimal
  maxQuoteSkewSeconds : ℕ
  /-- The New York wall clock of an instant, as `%H:%M`. -/
  newYorkClock : Instant → String
  regularOpen : Instant → Instant
  regularClose : Instant → Instant

structure ArmStateSnapshotRow where
  armId : String
  sequence : ℕ
  createdAt : Instant
  payload : ArmState

structure NavSnapshotRow where
  armId : String
  asOf : Instant
  navUsd : Decimal

/-- What `_today_turnover` reads of a `FillRow`. -/
structure FillRow where
  armId : String
  effectiveAt : Instant
  side : OrderSide
  quantity : Decimal
  price : Decimal
  commissionUsd : Decimal

structure MarketQuoteRow where
  quoteId : String
  bidPrice : Decimal
  askPrice : Decimal
  bidSizeRoundLots : ℤ
  askSizeRoundLots : ℤ
  eventTime : Instant
  availableAt : Instant

structure ForwardTables where
  /-- `_require_running_run`. -/
  runCheck : Except Failure Unit
  /-- `common_mark_at` of the bootstrap completion. -/
  completion : Option Instant
  armStates : List ArmStateSnapshotRow
  navs : List NavSnapshotRow
  fills : List FillRow
  connected : Bool
  /-- `latest_quote` as of the decision. -/
  latestQuote : String → Option MarketQuoteRow
  coreForecast : Except Failure ForwardCoreForecast
  policy : PolicyState
  /-- The digest of the input manifest. -/
  inputHash : String
  /-- `_lock_cycle`, when the decision is persisted. -/
  lockCycle : Except Failure Unit
  /-- The sequence of the arm state that `_persist_decision` locks. -/
  lockedSequence : String → ℕ
  latestPolicyVersion : ℕ

structure DecisionCall where
  cycleId : String
  scheduledAt : Instant
  dataAvailableCutoff : Instant
  createdAt : Instant
  policyChangeOnly : Bool := false
  lossTriggerOnly : Bool := false
  tables : ForwardTables

def latestStates (rows : List ArmStateSnapshotRow) (armIds : List String) (asOf : Instant) :
    Except Failure (Dict String ArmState) := do
  let visible := rows.filter fun row => row.armId ∈ armIds ∧ row.createdAt ≤ asOf
  let ordered := sortedBy
    (fun row : ArmStateSnapshotRow => (toLex (row.armId, -(row.sequence : ℤ)) : String ×ₗ ℤ))
      visible
  let states := ordered.foldl (fun (states : Dict String ArmState) row =>
    if row.armId ∈ states.keys then states else states.set row.armId row.payload) .empty
  let missing := sortedBy id (armIds.filter (· ∉ states.keys))
  raiseIf (missing ≠ [])
    ⟨.paperBootstrapNotReady, s!"Missing forward arm state: {reprList missing}", []⟩
  return states

variable (service : ForwardService)

def ForwardService.spreadLimit (symbol : String) : Decimal :=
  service.maxSpreadBps.getD symbol service.defaultMaxSpreadBps

def MarketQuoteRow.Executable (row : MarketQuoteRow) : Prop :=
  ¬(row.bidPrice ≤ 0 ∨ row.askPrice ≤ 0 ∨ row.askPrice < row.bidPrice ∨
    row.bidSizeRoundLots ≤ 0 ∨ row.askSizeRoundLots ≤ 0)

instance (row : MarketQuoteRow) : Decidable row.Executable := by
  unfold MarketQuoteRow.Executable
  infer_instance

def bundleQuote (latestQuote : String → Option MarketQuoteRow)
    (asOf : Instant) (symbol : String) : Except Failure DecisionQuote :=
  match latestQuote symbol with
  | none => .error (forwardRiskError s!"Missing decision quote for {symbol}")
  | some row => do
    let age := asOf - row.eventTime
    raiseIf (age < 0 ∨ age > service.maxQuoteAgeSeconds * 1000000)
      (forwardRiskError s!"Stale decision quote for {symbol}")
    raiseIf (¬row.Executable) (forwardRiskError s!"Non-executable decision quote for {symbol}")
    let quote : DecisionQuote := ⟨symbol, row.quoteId, row.bidPrice, row.askPrice,
      row.bidSizeRoundLots, row.askSizeRoundLots, row.eventTime, row.availableAt⟩
    raiseIf (quote.spreadBps > service.spreadLimit symbol)
      (forwardRiskError s!"Decision spread is too wide for {symbol}")
    return quote

def exceedsSkew (quotes : List DecisionQuote) : Prop :=
  ∃ a ∈ quotes, ∃ b ∈ quotes, a.eventTime - b.eventTime > service.maxQuoteSkewSeconds * 1000000

instance (service : ForwardService) (quotes : List DecisionQuote) :
    Decidable (exceedsSkew service quotes) := by
  unfold exceedsSkew
  infer_instance

def quoteBundle (tables : ForwardTables) (symbols : List String)
    (asOf : Instant) : Except Failure QuoteBundle :=
  if symbols = [] then .ok .empty
  else do
    raiseIf (¬tables.connected) (forwardRiskError "IEX stream is not CONNECTED")
    let quotes ← (sortedBy id symbols).foldlM (fun (quotes : QuoteBundle) symbol => do
      return quotes.set symbol (← bundleQuote service tables.latestQuote asOf symbol)) .empty
    raiseIf (exceedsSkew service quotes.values)
      (forwardRiskError "Decision quote bundle exceeds allowed skew")
    return quotes

def sessionOpenNav (navs : List NavSnapshotRow) (armId : String) (sessionOpen : Instant) :
    Except Failure Decimal :=
  match sortedBy NavSnapshotRow.asOf
      (navs.filter fun row => row.armId = armId ∧ row.asOf ≥ sessionOpen) with
  | row :: _ => .ok row.navUsd
  | [] => .error (forwardRiskError s!"Missing session-open NAV reference for {armId}")

def peakNav (navs : List NavSnapshotRow) (armId : String) (since asOf : Instant) :
    Except Failure Decimal :=
  match ((navs.filter fun row => row.armId = armId ∧ row.asOf ≥ since ∧ row.asOf ≤ asOf).map
      NavSnapshotRow.navUsd).max? with
  | some value => .ok value
  | none => .error (forwardRiskError s!"Missing peak NAV reference for {armId}")

structure Turnover where
  buys : Decimal
  sells : Decimal
  unsettledSaleProceeds : Decimal

def todayTurnover (fills : List FillRow) (armId : String) (sessionOpen asOf : Instant) : Turnover :=
  (fills.filter fun row => row.armId = armId ∧ row.effectiveAt ≥ sessionOpen ∧
    row.effectiveAt ≤ asOf).foldl (fun acc row =>
      let notional := row.quantity * row.price
      match row.side with
      | .buy => { acc with buys := acc.buys + notional }
      | .sell => { acc with
          sells := acc.sells + notional
          unsettledSaleProceeds :=
            acc.unsettledSaleProceeds + max 0 (notional - row.commissionUsd) }) ⟨0, 0, 0⟩

structure RiskContext extends ForwardLossGuard where
  lossControlsApplied : Bool
  todayBuyNotionalUsd : Decimal
  todaySellNotionalUsd : Decimal
  unsettledSaleProceedsUsd : Decimal

structure ArmEffect where
  portfolioDecisionId : String
  riskDecisionId : String
  riskApproved : Bool
  ordersCreated : ℕ
  orderIntentIds : List String
  lossGuard : RiskContext
  diagnostics : ForwardPlanDiagnostics

structure DecisionPayload where
  status : String
  decisionKind : Option String := none
  ordersCreated : ℕ := 0
  arms : Option (Dict String ArmEffect) := none
  lossGuards : Option (Dict String RiskContext) := none

/-- A `PaperCycleEffectRow` of kind `FORWARD_TRADE_DECISION`. -/
structure DecisionEffectRow where
  effectId : String
  cycleId : String
  payload : DecisionPayload
  createdAt : Instant

def DecisionEffectRow.latch (row : DecisionEffectRow) (armId : String) :
    Option (Option (Dict String Decimal)) :=
  match row.payload.arms.bind (·.get? armId) with
  | some arm =>
    if ¬arm.lossGuard.state.isHard then some none
    else some (some arm.diagnostics.forcedTargetQuantities)
  | none =>
    match row.payload.lossGuards.bind (·.get? armId) with
    | some guard => if ¬guard.state.isHard then some none else none
    | none => none

/-- The rows as `_latched_forced_targets` reads them: the newest first, at most 100. -/
def latchRows (effects : List DecisionEffectRow) (asOf : Instant) : List DecisionEffectRow :=
  (sortedBy (fun row : DecisionEffectRow =>
    (toLex (row.createdAt, row.effectId) : ℤ ×ₗ String))
    (effects.filter (·.createdAt ≤ asOf))).reverse.take 100

def latchedForcedTargets (effects : List DecisionEffectRow) (armId : String) (asOf : Instant) :
    Option (Dict String Decimal) :=
  ((latchRows effects asOf).findSome? (·.latch armId)).join

namespace DecisionCall

variable (call : DecisionCall) (service : ForwardService)

def IsBaselineRebalance : Prop := service.newYorkClock call.scheduledAt = service.rebalanceTimeEt

instance : Decidable (call.IsBaselineRebalance service) := by
  unfold IsBaselineRebalance
  infer_instance

def decisionArms : List String :=
  if call.IsBaselineRebalance service then service.orderEnabledArms else ["B3-RISK"]

/-- The symbols that `decide` asks quotes for: those held by the decision arms, and the core. -/
def quoteSymbols (states : Dict String ArmState) : List String :=
  (states.values.flatMap (·.held.keys) ++ [service.coreSymbol]).dedup

def assessArm (since : Instant) (quotes : QuoteBundle) (armId : String) (state : ArmState) :
    Except Failure RiskContext := do
  let sessionOpen := service.regularOpen call.scheduledAt
  let openNav ← sessionOpenNav call.tables.navs armId sessionOpen
  let peak ← peakNav call.tables.navs armId since call.createdAt
  let guard ← evaluateForwardLossGuard state quotes openNav peak service.riskConfig
  let turnover := todayTurnover call.tables.fills armId sessionOpen call.createdAt
  return {
    guard with
    lossControlsApplied := armId ∈ service.lossControlArms.1
    todayBuyNotionalUsd := turnover.buys
    todaySellNotionalUsd := turnover.sells
    unsettledSaleProceedsUsd := turnover.unsettledSaleProceeds }

def armTarget (core : ForwardCoreForecast) (quotes : QuoteBundle) (armId : String)
    (state : ArmState) : Except Failure ForwardTarget := do
  let policy := if armId = "B3-RISK" then call.tables.policy else .default
  let target ← targetForArm armId core policy
  if call.IsBaselineRebalance service then
    applyCoreRebalanceBand target state quotes service.minRebalanceWeightDelta
  else return target

/-- The latch that `decide` looks up for an arm. -/
def latchedTargets (effects : List DecisionEffectRow) (armId : String) (context : RiskContext) :
    Option (Dict String Decimal) :=
  if context.lossControlsApplied ∧ context.state.isHard then
    latchedForcedTargets effects armId call.createdAt
  else none

def forcedTargets (effects : List DecisionEffectRow) (quotes : QuoteBundle) (armId : String)
    (state : ArmState) (context : RiskContext) : Except Failure (Option (Dict String Decimal)) :=
  resolveForcedReductionTargets context.toForwardLossGuard
    (call.latchedTargets effects armId context) state quotes service.riskConfig
    context.lossControlsApplied

/-- The arguments that `decide` passes to `build_forward_order_plan`. -/
def planRequest (runId : String) (quotes : QuoteBundle) (state : ArmState) (context : RiskContext)
    (target : ForwardTarget) (forced : Option (Dict String Decimal)) : ForwardPlanRequest where
  runId := runId
  cycleId := call.cycleId
  state := state
  target := target
  quotes := quotes
  decisionTime := call.scheduledAt
  intentCreatedAt := call.createdAt
  validUntil := service.regularClose call.scheduledAt
  inputSnapshotHash := call.tables.inputHash
  sessionOpenNavUsd := context.sessionOpenNavUsd
  todayBuyNotionalUsd := context.todayBuyNotionalUsd
  todaySellNotionalUsd := context.todaySellNotionalUsd
  unsettledSaleProceedsUsd := context.unsettledSaleProceedsUsd
  config := service.riskConfig
  lossState := if context.lossControlsApplied then context.state else .benchmarkControl
  blockNewEntries := (context.lossControlsApplied && context.blockNewEntries) ||
    call.policyChangeOnly || call.lossTriggerOnly
  forcedSellBudgetUsd :=
    if context.lossControlsApplied ∧ forced = none then context.forcedSellBudgetUsd else none
  forcedTargetQuantities := forced
  allowTransitionSells := !call.lossTriggerOnly

/-- One pass of the planning loop of `decide`. -/
def planArm (hash : Hashing) (runId : String) (effects : List DecisionEffectRow)
    (core : ForwardCoreForecast) (quotes : QuoteBundle) (armId : String) (state : ArmState)
    (context : RiskContext) : Except Failure ForwardOrderPlan := do
  let target ← call.armTarget service core quotes armId state
  let forced ← call.forcedTargets service effects quotes armId state context
  buildForwardOrderPlan hash (call.planRequest service runId quotes state context target forced)

def armEffect (context : RiskContext) (plan : ForwardOrderPlan) : ArmEffect where
  portfolioDecisionId := plan.portfolioDecision.val.portfolioDecisionId
  riskDecisionId := plan.riskDecision.val.riskDecisionId
  riskApproved := plan.riskDecision.val.approved
  ordersCreated := plan.intents.length
  orderIntentIds := plan.intents.map (·.val.orderIntentId)
  lossGuard := context
  diagnostics := plan.diagnostics

def checkUnchanged (armId : String) (plan : ForwardOrderPlan) : Except Failure Unit := do
  let current := call.tables.lockedSequence armId
  raiseIf (current ≠ plan.inputStateSequence) ⟨.forwardPaperConflict,
    s!"Arm {armId} changed from sequence {plan.inputStateSequence} to {current}", []⟩
  raiseIf (armId = "B3-RISK" ∧
      call.tables.latestPolicyVersion ≠ plan.portfolioDecision.val.policyVersion)
    ⟨.forwardPaperConflict, "B3-RISK policy changed during forward decision", []⟩

abbrev ArmContexts := List (String × ArmState × RiskContext)

/-- The first loop of `decide`, over the states in the order of their arms. -/
def assessArms (since : Instant) (quotes : QuoteBundle) (states : Dict String ArmState) :
    Except Failure ArmContexts :=
  states.sortedItems.mapM fun arm => do
    return (arm.1, arm.2, ← call.assessArm service since quotes arm.1 arm.2)

def committedPayload (arms : Dict String ArmEffect) : DecisionPayload where
  status :=
    if call.IsBaselineRebalance service then "FORWARD_BASELINE_DECISION_COMMITTED"
    else if call.lossTriggerOnly then "FORWARD_B3_LOSS_GUARD_COMMITTED"
    else "FORWARD_AI_RISK_REDUCTION_COMMITTED"
  decisionKind := some (
    if call.IsBaselineRebalance service then "BASELINE_REBALANCE"
    else if call.lossTriggerOnly then "B3_LOSS_GUARD_REDUCE_ONLY"
    else "AI_POLICY_CHANGE_REDUCE_ONLY")
  ordersCreated := (arms.values.map (·.ordersCreated)).sum
  arms := some arms

/-- The second loop of `decide` and `_persist_decision`. -/
def planArms (hash : Hashing) (runId : String) (effects : List DecisionEffectRow)
    (core : ForwardCoreForecast) (quotes : QuoteBundle) (contexts : ArmContexts) :
    Except Failure DecisionPayload := do
  let plans ← contexts.mapM fun arm => do
    return (arm, ← call.planArm service hash runId effects core quotes arm.1 arm.2.1 arm.2.2)
  call.tables.lockCycle
  plans.forM fun plan => call.checkUnchanged plan.1.1 plan.2
  return call.committedPayload service (plans.foldl (fun (arms : Dict String ArmEffect) plan =>
    arms.set plan.1.1 (armEffect plan.1.2.2 plan.2)) .empty)

def persistEffectOnly (payload : DecisionPayload) : Except Failure DecisionPayload := do
  call.tables.lockCycle
  return payload

def noTriggerPayload (contexts : ArmContexts) : DecisionPayload where
  status := "NO_B3_LOSS_TRIGGER"
  decisionKind := some "B3_LOSS_GUARD_CHECK"
  lossGuards := some (contexts.foldl (fun (guards : Dict String RiskContext) arm =>
    guards.set arm.1 arm.2.2) .empty)

def decideInWindow (hash : Hashing) (runId : String) (effects : List DecisionEffectRow)
    (since : Instant) : Except Failure DecisionPayload := do
  let states ← latestStates call.tables.armStates (call.decisionArms service) call.createdAt
  let core ← call.tables.coreForecast
  let quotes ← quoteBundle service call.tables (quoteSymbols service states) call.createdAt
  let contexts ← call.assessArms service since quotes states
  if call.lossTriggerOnly ∧ ∀ arm ∈ contexts, arm.2.2.blockNewEntries = false then
    call.persistEffectOnly (noTriggerPayload contexts)
  else call.planArms service hash runId effects core quotes contexts

/-- The part of `decide` after the lookup of an earlier effect of the cycle. -/
def decideFresh (hash : Hashing) (runId : String) (effects : List DecisionEffectRow) :
    Except Failure DecisionPayload := do
  raiseIf (call.dataAvailableCutoff > call.scheduledAt) ⟨.forwardPaperConflict,
    "Forward decision cutoff must not exceed its scheduled decision time", []⟩
  call.tables.runCheck
  match call.tables.completion with
  | none => .error ⟨.paperBootstrapNotReady, "Paper T0 is not established", []⟩
  | some since =>
    if ¬call.IsBaselineRebalance service ∧ ¬call.policyChangeOnly ∧ ¬call.lossTriggerOnly then
      call.persistEffectOnly { status := "NO_TRADE_OUTSIDE_BASELINE_REBALANCE" }
    else if call.createdAt ≥ service.regularClose call.scheduledAt then
      call.persistEffectOnly { status := "MISSED_REGULAR_EXECUTION_WINDOW" }
    else call.decideInWindow service hash runId effects since

def effectRow (hash : Hashing) (payload : DecisionPayload) : DecisionEffectRow where
  effectId := hash.stableId "paper-cycle-effect" [.str call.cycleId, .str "FORWARD_TRADE_DECISION"]
  cycleId := call.cycleId
  payload := payload
  createdAt := call.createdAt

end DecisionCall

def ForwardService.decide (hash : Hashing) (runId : String)
    (effects : List DecisionEffectRow) (call : DecisionCall) :
    Except Failure (List DecisionEffectRow) := do
  raiseIf (call.policyChangeOnly ∧ call.lossTriggerOnly)
    ⟨.valueError, "A forward decision cannot have two special modes", []⟩
  if ∃ row ∈ effects, row.cycleId = call.cycleId then return effects
  else
    let payload ← call.decideFresh service hash runId effects
    return effects ++ [call.effectRow hash payload]

end AdaptiveQuant
