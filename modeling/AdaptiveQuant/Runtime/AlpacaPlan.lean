import AdaptiveQuant.Persistence.AlpacaPaper
import AdaptiveQuant.Execution.AlpacaClient

/-! The planning half of `runtime/q1_alpaca_paper.py`. -/

namespace AdaptiveQuant

open Guard

/-- The fields of `AlpacaPaperCanaryConfig` that the canary reads. -/
structure AlpacaPaperCanaryDocument where
  executionLane : String
  provider : String
  restBaseUrl : String
  sourceArm : Q1ArmId
  allowedSymbols : List String
  requireCleanAccountOnFirstBind : Bool
  requireDedicatedAccount : Bool
  rejectForeignOpenOrders : Bool
  rejectForeignPositions : Bool
  orderType : String
  timeInForce : String
  extendedHours : Bool
  minimumOrderNotionalUsd : Decimal
  limitOffsetBps : Decimal
  priceIncrementUsd : Decimal
  maximumOpenOrdersPerSymbol : ℕ
  noRiskIncreaseAfterEt : ℤ
  reconciliationLookupAttempts : ℕ
  maximumQuoteAgeSeconds : ℕ
  maximumMultiSymbolQuoteSkewSeconds : ℕ
  requiredStreamStatus : String
  orderHistoryLimit : ℕ
  fillActivityPageSize : ℕ
  unknownOutcomeState : String
deriving DecidableEq

variable (d : AlpacaPaperCanaryDocument)

/-- The checks of `parse_alpaca_paper_config` on these fields. -/
def AlpacaPaperCanaryDocument.check : Except Failure Unit := do
  raiseIf (d.executionLane ≠ "ALPACA_PAPER_CANARY")
    (valueError "Alpaca Paper execution lane must be ALPACA_PAPER_CANARY")
  raiseIf (d.provider ≠ "ALPACA") (valueError "Alpaca Paper provider must be ALPACA")
  raiseIf (d.restBaseUrl ≠ "https://paper-api.alpaca.markets")
    (valueError "Alpaca Paper rest_base_url must use the exact paper host")
  raiseIf (d.sourceArm ∉ [Q1ArmId.q1Det, .q1Llm])
    (valueError "Alpaca Paper source arm must be Q1-DET or Q1-LLM")
  raiseIf (d.allowedSymbols ≠ ["QQQ", "SOXX"])
    (valueError "Alpaca Paper allowed symbols must be exactly QQQ and SOXX")
  raiseIf (d.requireCleanAccountOnFirstBind = false) (valueError
    "Alpaca Paper safety control require_clean_account_on_first_bind must remain enabled")
  raiseIf (d.requireDedicatedAccount = false)
    (valueError "Alpaca Paper safety control require_dedicated_account must remain enabled")
  raiseIf (d.rejectForeignOpenOrders = false)
    (valueError "Alpaca Paper safety control reject_foreign_open_orders must remain enabled")
  raiseIf (d.rejectForeignPositions = false)
    (valueError "Alpaca Paper safety control reject_foreign_positions must remain enabled")
  raiseIf (d.orderType ≠ "limit") (valueError "Alpaca Paper canary requires limit orders")
  raiseIf (d.timeInForce ≠ "day") (valueError "Alpaca Paper canary requires day time-in-force")
  raiseIf (d.extendedHours = true)
    (valueError "Alpaca Paper canary must remain regular-session only")
  raiseIf (d.maximumOpenOrdersPerSymbol ≠ 1)
    (valueError "Alpaca Paper permits at most one open order per symbol")
  raiseIf (d.requiredStreamStatus ≠ "CONNECTED")
    (valueError "Alpaca Paper canary requires a CONNECTED market stream")
  raiseIf (d.minimumOrderNotionalUsd ≤ 0) (valueError "minimum_order_notional_usd must be positive")
  raiseIf (d.limitOffsetBps < 0) (valueError "limit_offset_bps must be non-negative")
  raiseIf (d.priceIncrementUsd ≤ 0) (valueError "price_increment_usd must be positive")
  raiseIf (d.reconciliationLookupAttempts = 0)
    (valueError "reconciliation_lookup_attempts must be a positive integer")
  raiseIf (d.maximumQuoteAgeSeconds = 0)
    (valueError "maximum_quote_age_seconds must be a positive integer")
  raiseIf (d.maximumMultiSymbolQuoteSkewSeconds = 0)
    (valueError "maximum_multi_symbol_quote_skew_seconds must be a positive integer")
  raiseIf (d.orderHistoryLimit = 0) (valueError "order_history_limit must be a positive integer")
  raiseIf (d.fillActivityPageSize = 0)
    (valueError "fill_activity_page_size must be a positive integer")
  raiseIf (d.unknownOutcomeState = "")
    (valueError "unknown_outcome_state must be a non-empty string")

/-- `AlpacaPaperCanaryConfig`: a document that was parsed. -/
abbrev AlpacaPaperCanaryConfig := Validated AlpacaPaperCanaryDocument.check

def shippedCanaryConfig : AlpacaPaperCanaryConfig where
  val :=
    { executionLane := "ALPACA_PAPER_CANARY"
      provider := "ALPACA"
      restBaseUrl := "https://paper-api.alpaca.markets"
      sourceArm := .q1Llm
      allowedSymbols := ["QQQ", "SOXX"]
      requireCleanAccountOnFirstBind := true
      requireDedicatedAccount := true
      rejectForeignOpenOrders := true
      rejectForeignPositions := true
      orderType := "limit"
      timeInForce := "day"
      extendedHours := false
      minimumOrderNotionalUsd := 25
      limitOffsetBps := 2
      priceIncrementUsd := 1 / 100
      maximumOpenOrdersPerSymbol := 1
      noRiskIncreaseAfterEt := 13 * 3600 * 1000000
      reconciliationLookupAttempts := 3
      maximumQuoteAgeSeconds := 15
      maximumMultiSymbolQuoteSkewSeconds := 2
      requiredStreamStatus := "CONNECTED"
      orderHistoryLimit := 500
      fillActivityPageSize := 100
      unknownOutcomeState := "BLOCKED_BY_BROKER_RECONCILIATION" }
  valid := by decide +kernel

structure CanaryService where
  hash : Hashing
  config : AlpacaPaperCanaryConfig
  paperManifestHash : String
  q1ManifestHash : String
  codeVersion : String
  calendarVersion : String
  newYorkDate : Instant → ℤ
  newYorkTime : Instant → ℤ

/-- The columns of `RunRow` that the canary reads. -/
structure CanaryRunRow where
  experimentVersion : String
  configManifestHash : String
  codeCommit : String
deriving DecidableEq

/-- The columns of `NavSnapshotRow` that the canary reads, with the `risk_state` of its payload. -/
structure CanaryNavRow where
  navSnapshotId : String
  runId : String
  armId : String
  algorithmVersion : String
  configManifestHash : String
  codeVersion : String
  asOf : Instant
  riskState : Option String
deriving DecidableEq

/-- The columns of `MarketCalendarSessionRow` that the canary reads. -/
structure CanarySessionRow where
  calendarSessionId : String
  calendarVersion : String
  algorithmVersion : String
  configManifestHash : String
  codeVersion : String
  sessionDate : ℤ
  availableAt : Instant
  openAt : Instant
  closeAt : Instant
deriving DecidableEq

/-- The columns of `MarketStreamStatusRow` that the canary reads. -/
structure CanaryStreamRow where
  state : String
  lastQuoteAt : Option Instant
deriving DecidableEq

/-- The columns of `MarketQuoteRow` that the canary reads. -/
structure CanaryQuoteRow where
  quoteId : String
  provider : String
  feed : String
  symbol : String
  availableAt : Instant
  eventTime : Instant
  bidPrice : Decimal
  askPrice : Decimal
  bidSizeRoundLots : ℤ
  askSizeRoundLots : ℤ
deriving DecidableEq

/-- The tables that the canary only reads. -/
structure CanarySource where
  run : Option CanaryRunRow
  decisions : List PortfolioDecisionRow
  decisionsKey : (decisions.map (·.portfolioDecisionId)).Nodup
  decisionsNamed : ∀ row ∈ decisions, row.portfolioDecisionId ≠ ""
  navs : List CanaryNavRow
  sessions : List CanarySessionRow
  stream : Option CanaryStreamRow
  quotes : List CanaryQuoteRow

/-- `_OrderPlan`. -/
structure CanaryOrderPlan where
  sourceDecisionId : String
  symbol : String
  side : OrderSide
  quantity : Decimal
  limitPrice : Decimal
  quoteId : String
  quoteAsOf : Instant
  reason : String
deriving DecidableEq

def riskyWeights (targets : Dict String Decimal)
    (risk : RiskSeverity) : String → Decimal :=
  let weights := fun symbol => targets.getD symbol 0
  match risk with
  | .criticalExit => fun _ => 0
  | .hardReduce =>
    let capped := fun symbol =>
      if symbol = "SOXX" then min (weights symbol) (20 / 100) else weights symbol
    let gross := (d.allowedSymbols.map capped).sum
    if 50 / 100 < gross then fun symbol => capped symbol * (50 / 100 / gross) else capped
  | _ => weights

def checkTarget (targets : Dict String Decimal)
    (weights : String → Decimal) : Except CanaryFailure Unit :=
  raiseIf ((∃ symbol ∈ d.allowedSymbols, weights symbol < 0) ∨
      1 < (d.allowedSymbols.map weights).sum ∨
      ∃ symbol ∈ targets.keys, symbol ∉ d.allowedSymbols ++ ["USD_CASH"])
    (.blocked "INVALID_SOURCE_TARGET" "Source target violates the canary long-only universe")

def checkStream (stream : Option CanaryStreamRow) (now : Instant) :
    Except CanaryFailure Unit :=
  raiseIf (¬stream.any fun row => row.state = d.requiredStreamStatus ∧
      row.lastQuoteAt.any fun last => now - last ≤ d.maximumQuoteAgeSeconds * 1000000)
    (.blocked "MARKET_STREAM_NOT_CONNECTED" "A current CONNECTED Alpaca IEX stream is required")

def latestQuoteRow (quotes : List CanaryQuoteRow) (symbol : String) (now : Instant) :
    Option CanaryQuoteRow :=
  (Sequence.sortedBy
    (fun row : CanaryQuoteRow => toLex (row.eventTime, toLex (row.availableAt, row.quoteId)))
    (quotes.filter fun row => row.provider = "alpaca" ∧ row.feed = "iex" ∧ row.symbol = symbol ∧
      row.availableAt ≤ now ∧ row.eventTime ≤ now ∧ 0 < row.bidPrice ∧ 0 < row.askPrice ∧
      row.bidPrice ≤ row.askPrice)).getLast?

def freshQuote (quotes : List CanaryQuoteRow) (now : Instant)
    (symbol : String) : Except CanaryFailure CanaryQuoteRow :=
  let stale : CanaryFailure := .blocked "QUOTE_STALE_OR_MISSING"
    s!"A fresh point-in-time {symbol} quote is required"
  match latestQuoteRow quotes symbol now with
  | none => .error stale
  | some quote =>
    if d.maximumQuoteAgeSeconds * 1000000 < now - quote.eventTime then .error stale else .ok quote

def freshQuotes (source : CanarySource) (symbols : List String)
    (now : Instant) : Except CanaryFailure (List CanaryQuoteRow) :=
  if symbols = [] then .ok []
  else do
    checkStream d source.stream now
    symbols.mapM (freshQuote d source.quotes now)

def checkSkew (quotes : List CanaryQuoteRow) :
    Except CanaryFailure Unit :=
  raiseIf (∃ a ∈ quotes, ∃ b ∈ quotes,
      d.maximumMultiSymbolQuoteSkewSeconds * 1000000 < a.eventTime - b.eventTime)
    (.blocked "QUOTE_SKEW_EXCEEDED" "Canary target quotes exceed the configured bundle skew")

def limitPrice (side : OrderSide) (bid ask : Decimal) : Decimal :=
  let offset := d.limitOffsetBps / 10000
  match side with
  | .buy => ⌈ask * (1 + offset) / d.priceIncrementUsd⌉ * d.priceIncrementUsd
  | .sell => ⌊bid * (1 - offset) / d.priceIncrementUsd⌋ * d.priceIncrementUsd

def currentQuantity (positions : List AlpacaPaperPosition) (symbol : String) : Decimal :=
  ((positions.filter fun position => position.symbol = symbol ∧ 0 < position.quantity).getLast?.map
    (·.quantity)).getD 0

def targetQuantity (equity weight : Decimal) : Option CanaryQuoteRow → Decimal
  | none => 0
  | some quote => ⌊equity * weight / ((quote.bidPrice + quote.askPrice) / 2)⌋

def planReason : RiskSeverity → String
  | .normal => "FOLLOW_VERSIONED_SOURCE_TARGET"
  | risk => "DETERMINISTIC_" ++ risk.value ++ "_TARGET"

def CanaryQuoteRow.reference (quote : CanaryQuoteRow) : OrderSide → Decimal × ℤ
  | .buy => (quote.askPrice, quote.askSizeRoundLots)
  | .sell => (quote.bidPrice, quote.bidSizeRoundLots)

def planQuoted (decisionId symbol : String) (risk : RiskSeverity)
    (side : OrderSide) (quantity : Decimal) :
    Option CanaryQuoteRow → Except CanaryFailure (Option CanaryOrderPlan)
  | none => .error (.blocked "QUOTE_REQUIRED" s!"A fresh {symbol} quote is required")
  | some quote =>
    if (quote.reference side).2 ≤ 0 then
      .error (.blocked "NO_DISPLAYED_EXECUTABLE_SIZE"
        s!"{symbol} has no displayed executable-side size")
    else if quantity * (quote.reference side).1 < d.minimumOrderNotionalUsd then .ok none
    else .ok (some
      { sourceDecisionId := decisionId
        symbol
        side
        quantity
        limitPrice := limitPrice d side quote.bidPrice quote.askPrice
        quoteId := quote.quoteId
        quoteAsOf := quote.eventTime
        reason := planReason risk })

/-- One pass of the loop of `_plan_orders`, with the change in shares that the symbol needs. -/
def planSymbol (decisionId : String) (risk : RiskSeverity)
    (buysAllowed : Bool) (quotes : List CanaryQuoteRow) (delta : String → Decimal)
    (symbol : String) : Except CanaryFailure (Option CanaryOrderPlan) :=
  let side : OrderSide := if 0 < delta symbol then .buy else .sell
  if delta symbol = 0 ∨ (side = .buy ∧ ¬buysAllowed) then .ok none
  else planQuoted d decisionId symbol risk side |delta symbol| (quotes.find? (·.symbol = symbol))

def feasibleBuys (d : AlpacaPaperCanaryDocument) :
    Decimal → List CanaryOrderPlan → List CanaryOrderPlan
  | _, [] => []
  | budget, plan :: rest =>
    let affordable : Decimal := ⌊budget / plan.limitPrice⌋
    let capped := budget < plan.quantity * plan.limitPrice
    let plan' := if capped then
      { plan with quantity := affordable, reason := "FOLLOW_TARGET_SETTLED_CASH_CAPPED" } else plan
    let required := plan'.quantity * plan'.limitPrice
    if (capped ∧ affordable ≤ 0) ∨ required < d.minimumOrderNotionalUsd then
      feasibleBuys d budget rest
    else plan' :: feasibleBuys d (budget - required) rest

def buysAllowed (service : CanaryService) (risk : RiskSeverity) (now : Instant) : Bool :=
  risk = .normal ∧ service.newYorkTime now < service.config.val.noRiskIncreaseAfterEt

def quotedSymbols (allowed : Bool) (weights : String → Decimal)
    (positions : List AlpacaPaperPosition) : List String :=
  d.allowedSymbols.filter fun symbol => (allowed ∧ 0 < weights symbol) ∨
    ∃ position ∈ positions, position.symbol = symbol ∧ 0 < position.quantity

def chooseSide (cash : Decimal) (plans : List CanaryOrderPlan) :
    List CanaryOrderPlan :=
  let sells := plans.filter (·.side = .sell)
  if sells ≠ [] then sells else feasibleBuys d (max 0 cash) plans

def planOrders (service : CanaryService) (source : CanarySource) (account : AlpacaPaperAccount)
    (positions : List AlpacaPaperPosition) (decision : PortfolioDecisionRow) (risk : RiskSeverity)
    (now : Instant) : Except CanaryFailure (List CanaryOrderPlan) := do
  let d := service.config.val
  let weights := riskyWeights d decision.targetWeights risk
  let allowed := buysAllowed service risk now
  checkTarget d decision.targetWeights weights
  let quotes ← freshQuotes d source (quotedSymbols d allowed weights positions) now
  checkSkew d quotes
  let delta := fun symbol =>
    targetQuantity account.equity (weights symbol) (quotes.find? (·.symbol = symbol)) -
      currentQuantity positions symbol
  let plans ← (Sequence.sortedBy id d.allowedSymbols).mapM
    (planSymbol d decision.portfolioDecisionId risk allowed quotes delta)
  return chooseSide d account.cash (plans.filterMap id)

end AdaptiveQuant
