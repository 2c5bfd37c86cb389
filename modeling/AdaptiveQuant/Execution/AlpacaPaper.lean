import AdaptiveQuant.Domain.Basic
import AdaptiveQuant.Lib.Sequence

/-! The records of the Alpaca Paper trading API, as `execution/alpaca_paper.py` reads them, and the
broker behind it.

The broker is not part of the source.  It is an account that moves on its own between two requests,
takes a new order exactly when no order has its client order id, and may handle a request late: one
that did not get through stays in flight, and a later move may deliver it. -/

namespace AdaptiveQuant

open Guard

/-- `ALPACA_PAPER_OPEN_STATUSES` and `ALPACA_PAPER_TERMINAL_STATUSES`, and any other status. -/
inductive AlpacaOrderStatus
  | accepted
  | pendingNew
  | new
  | partiallyFilled
  | pendingCancel
  | pendingReplace
  | acceptedForBidding
  | stopped
  | suspended
  | calculated
  | held
  | filled
  | canceled
  | expired
  | rejected
  | replaced
  | doneForDay
  | other (text : String)
deriving DecidableEq

def AlpacaOrderStatus.value : AlpacaOrderStatus → String
  | .accepted => "accepted"
  | .pendingNew => "pending_new"
  | .new => "new"
  | .partiallyFilled => "partially_filled"
  | .pendingCancel => "pending_cancel"
  | .pendingReplace => "pending_replace"
  | .acceptedForBidding => "accepted_for_bidding"
  | .stopped => "stopped"
  | .suspended => "suspended"
  | .calculated => "calculated"
  | .held => "held"
  | .filled => "filled"
  | .canceled => "canceled"
  | .expired => "expired"
  | .rejected => "rejected"
  | .replaced => "replaced"
  | .doneForDay => "done_for_day"
  | .other text => text

def AlpacaOrderStatus.isOpen : AlpacaOrderStatus → Bool
  | .accepted | .pendingNew | .new | .partiallyFilled | .pendingCancel | .pendingReplace
  | .acceptedForBidding | .stopped | .suspended | .calculated | .held => true
  | _ => false

def AlpacaOrderStatus.isTerminal : AlpacaOrderStatus → Bool
  | .filled | .canceled | .expired | .rejected | .replaced | .doneForDay => true
  | _ => false

def alpacaPaperAllowedSymbols : List String := ["QQQ", "SOXX"]

/-- `AlpacaPaperAccount`, with the status and the currency in upper case. -/
structure AlpacaPaperAccount where
  accountId : String
  status : String
  currency : String
  equity : Decimal
  cash : Decimal
  buyingPower : Decimal
  accountBlocked : Bool
  tradingBlocked : Bool
  tradeSuspendedByUser : Bool
deriving DecidableEq

def AlpacaPaperAccount.accountIdHash (hash : Hashing) (account : AlpacaPaperAccount) : String :=
  hash.canonicalHash (.dict [("alpaca_paper_account_id", .str account.accountId)])

def AlpacaPaperAccount.isTradingReady (account : AlpacaPaperAccount) : Prop :=
  account.status ∈ ["ACTIVE", "PAPER_ONLY"] ∧ ¬account.accountBlocked ∧ ¬account.tradingBlocked ∧
    ¬account.tradeSuspendedByUser ∧ account.currency = "USD" ∧ 0 < account.equity

instance (account : AlpacaPaperAccount) : Decidable account.isTradingReady :=
  inferInstanceAs (Decidable (_ ∧ _))

structure AlpacaPaperPosition where
  symbol : String
  quantity : Decimal
  marketValue : Decimal
  averageEntryPrice : Decimal
  side : String
deriving DecidableEq

/-- The arguments of an `AlpacaPaperOrderRequest`. -/
structure AlpacaPaperOrderTerms where
  symbol : String
  side : OrderSide
  quantity : Decimal
  limitPrice : Decimal
  clientOrderId : String
  orderType : String
  timeInForce : String
  extendedHours : Bool
deriving DecidableEq

/-- `AlpacaPaperOrderRequest.__post_init__`. -/
def AlpacaPaperOrderTerms.check (r : AlpacaPaperOrderTerms) : Except Failure Unit := do
  raiseIf (r.symbol ∉ alpacaPaperAllowedSymbols)
    ⟨.valueError, "Alpaca Paper canary supports only QQQ and SOXX", []⟩
  raiseIf (r.quantity ≤ 0 ∨ r.limitPrice ≤ 0)
    ⟨.valueError, "Alpaca Paper order quantity and limit price must be positive", []⟩
  raiseIf (r.orderType ≠ "limit" ∨ r.timeInForce ≠ "day")
    ⟨.valueError, "Alpaca Paper canary requires limit/day orders", []⟩
  raiseIf (r.extendedHours = true)
    ⟨.valueError, "Alpaca Paper canary does not use extended-hours routing", []⟩
  raiseIf (r.clientOrderId = "" ∨ 128 < r.clientOrderId.length)
    ⟨.valueError, "Alpaca client_order_id must contain at most 128 characters", []⟩

/-- `AlpacaPaperOrderRequest`: terms that passed `__post_init__`. -/
abbrev AlpacaPaperOrderRequest := Validated AlpacaPaperOrderTerms.check

structure AlpacaPaperOrder where
  brokerOrderId : String
  clientOrderId : String
  symbol : String
  side : OrderSide
  quantity : Decimal
  filledQuantity : Decimal
  filledAveragePrice : Option Decimal
  limitPrice : Option Decimal
  status : AlpacaOrderStatus
  submittedAt : Instant
  updatedAt : Instant
deriving DecidableEq

def AlpacaPaperOrder.remainingQuantity (order : AlpacaPaperOrder) : Decimal :=
  max 0 (order.quantity - order.filledQuantity)

def AlpacaPaperOrder.isOpen (order : AlpacaPaperOrder) : Bool := order.status.isOpen

structure AlpacaPaperFillActivity where
  activityId : String
  brokerOrderId : String
  symbol : String
  side : OrderSide
  quantity : Decimal
  price : Decimal
  executedAt : Instant
deriving DecidableEq

/-- `"q1p-"`: what the client order ids of the canary begin with. -/
def canaryPrefix : String := "q1p-"

def deterministicClientOrderId (hash : Hashing) (runId sourceDecisionId symbol : String)
    (side : OrderSide) : String :=
  let digest := hash.canonicalHash (.dict
    [("lane", .str "ALPACA_PAPER_CANARY"), ("run_id", .str runId),
      ("source_decision_id", .str sourceDecisionId), ("symbol", .str symbol),
      ("side", .str side.value)])
  canaryPrefix ++ String.ofList (digest.toList.take 32)

def isCanaryId (clientOrderId : String) : Bool :=
  canaryPrefix.toList.isPrefixOf clientOrderId.toList

@[simp] theorem isCanaryId_deterministic (hash : Hashing) (runId decisionId symbol : String)
    (side : OrderSide) :
    isCanaryId (deterministicClientOrderId hash runId decisionId symbol side) = true := by
  simp only [isCanaryId, deterministicClientOrderId, String.toList_append,
    List.isPrefixOf_iff_prefix, List.prefix_append]

/-- `AlpacaPaperTradingError`; `conflict` marks an `AlpacaPaperOrderConflict`. -/
structure AlpacaPaperTradingError where
  message : String
  statusCode : Option ℕ := none
  retryable : Bool := false
  conflict : Bool := false
deriving DecidableEq

def httpError (statusCode : ℕ) : AlpacaPaperTradingError where
  message := s!"Alpaca Paper request failed ({statusCode})"
  statusCode := some statusCode
  retryable := statusCode ∈ [408, 409, 429] ∨ 500 ≤ statusCode

def parseOrder (order : AlpacaPaperOrder) : Except AlpacaPaperTradingError AlpacaPaperOrder :=
  if order.status.isOpen || order.status.isTerminal then .ok order
  else .error ⟨s!"Unsupported Alpaca Paper order status '{order.status.value}'", none, false, false⟩

def requireSameOrder (order : AlpacaPaperOrder) (request : AlpacaPaperOrderRequest) :
    Except AlpacaPaperTradingError Unit :=
  raiseIf (order.clientOrderId ≠ request.val.clientOrderId ∨ order.symbol ≠ request.val.symbol ∨
      order.side ≠ request.val.side ∨ order.quantity ≠ request.val.quantity ∨
      order.limitPrice ≠ some request.val.limitPrice)
    ⟨"Existing Alpaca Paper client_order_id belongs to another order", none, false, true⟩

structure Acceptance where
  brokerOrderId : String
  status : AlpacaOrderStatus
  acceptedAt : Instant
deriving DecidableEq

inductive BrokerMessage
  | submit (request : AlpacaPaperOrderRequest)
  | cancel (brokerOrderId : String)

structure Broker where
  account : AlpacaPaperAccount
  positions : List AlpacaPaperPosition
  orders : List AlpacaPaperOrder
  activities : List AlpacaPaperFillActivity
  cancelsAccepted : List String
  inFlight : List BrokerMessage

def Acceptance.order (taken : Acceptance) (request : AlpacaPaperOrderRequest) :
    AlpacaPaperOrder where
  brokerOrderId := taken.brokerOrderId
  clientOrderId := request.val.clientOrderId
  symbol := request.val.symbol
  side := request.val.side
  quantity := request.val.quantity
  filledQuantity := 0
  filledAveragePrice := none
  limitPrice := some request.val.limitPrice
  status := taken.status
  submittedAt := taken.acceptedAt
  updatedAt := taken.acceptedAt

namespace Broker

def order? (broker : Broker) (clientOrderId : String) : Option AlpacaPaperOrder :=
  broker.orders.find? (·.clientOrderId = clientOrderId)

def submit (broker : Broker) (request : AlpacaPaperOrderRequest) (taken : Acceptance) :
    Except AlpacaPaperTradingError AlpacaPaperOrder × Broker :=
  match broker.order? request.val.clientOrderId with
  | some _ => (.error (httpError 422), broker)
  | none =>
    (parseOrder (taken.order request),
    { broker with orders := broker.orders ++ [taken.order request] })

def cancel (broker : Broker) (brokerOrderId : String) :
    Except AlpacaPaperTradingError Unit × Broker :=
  match broker.orders.find? (·.brokerOrderId = brokerOrderId) with
  | none => (.error (httpError 404), broker)
  | some order =>
    if order.isOpen then
      (.ok (), { broker with cancelsAccepted := brokerOrderId :: broker.cancelsAccepted })
    else (.error (httpError 422), broker)

def receive (broker : Broker) (taken : Acceptance) : BrokerMessage → Broker
  | .submit request => (broker.submit request taken).2
  | .cancel brokerOrderId => (broker.cancel brokerOrderId).2

def listOrders (broker : Broker) (limit : ℕ) :
    Except AlpacaPaperTradingError (List AlpacaPaperOrder) :=
  (broker.orders.take limit).mapM parseOrder

def listFillActivities (broker : Broker) (after : Instant) (pageSize : ℕ) :
    List AlpacaPaperFillActivity :=
  (Sequence.sortedBy (·.executedAt)
    (broker.activities.filter fun activity => after < activity.executedAt)).take pageSize

end Broker

inductive BrokerMove
  | account (account : AlpacaPaperAccount)
  | positions (positions : List AlpacaPaperPosition)
  | progress (brokerOrderId : String) (status : AlpacaOrderStatus) (filledQuantity : Decimal)
      (filledAveragePrice : Option Decimal) (updatedAt : Instant)
  | fill (activity : AlpacaPaperFillActivity)
  | foreign (order : AlpacaPaperOrder)
  | deliver (index : ℕ) (taken : Acceptance)

def AlpacaPaperOrder.progress (order : AlpacaPaperOrder) (status : AlpacaOrderStatus)
    (filledQuantity : Decimal) (filledAveragePrice : Option Decimal) (updatedAt : Instant) :
    AlpacaPaperOrder :=
  { order with status, filledQuantity, filledAveragePrice, updatedAt }

/-- Nobody else gives an order the canary's prefix; a message arrives at most once. -/
def Broker.move (broker : Broker) : BrokerMove → Broker
  | .account account => { broker with account }
  | .positions positions => { broker with positions }
  | .progress brokerOrderId status filledQuantity filledAveragePrice updatedAt =>
    { broker with orders := broker.orders.map fun order =>
        if order.brokerOrderId = brokerOrderId then
          order.progress status filledQuantity filledAveragePrice updatedAt
        else order }
  | .fill activity => { broker with activities := broker.activities ++ [activity] }
  | .foreign order =>
    if isCanaryId order.clientOrderId then broker
    else { broker with orders := broker.orders ++ [order] }
  | .deliver index taken =>
    match broker.inFlight[index]? with
    | none => broker
    | some message =>
      { broker with inFlight := broker.inFlight.eraseIdx index }.receive taken message

end AdaptiveQuant
