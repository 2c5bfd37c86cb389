import AdaptiveQuant.Execution.AlpacaPaper
import AdaptiveQuant.Lib.Effect

/-! `AlpacaPaperTradingClient`: the requests to the broker, each of which may fail before or after
the broker handled it. -/

namespace AdaptiveQuant

open Guard

/-- How a request fails: an HTTP status, a lost connection, or an answer that is not understood. -/
inductive Fault
  | http (statusCode : ℕ)
  | timeout
  | malformed (message : String)
deriving DecidableEq

def Fault.error : Fault → AlpacaPaperTradingError
  | .http statusCode => httpError statusCode
  | .timeout => ⟨"Alpaca Paper request outcome is unknown", none, true, false⟩
  | .malformed message => ⟨message, none, false, false⟩

inductive Fate
  | answered
  | failed (fault : Fault) (handled : Bool)
deriving DecidableEq

/-- One request as the network and the broker see it. -/
structure Exchange where
  moves : List BrokerMove := []
  fate : Fate := .answered
  taken : Acceptance := ⟨"", .accepted, 0⟩

/-- The store of the process, the broker, the exchanges to come, and, for a process that will die,
how many more acts it lives to do. -/
structure World (τ : Type) where
  store : τ
  broker : Broker
  exchanges : List Exchange
  life : Option ℕ

/-- What stops a call: `Q1AlpacaPaperCanaryBlocked`, `AlpacaPaperTradingError`, another exception,
or the end of the process. -/
inductive CanaryFailure
  | blocked (code detail : String)
  | trading (error : AlpacaPaperTradingError)
  | raised (failure : Failure)
  | died
deriving DecidableEq

abbrev Canary (τ α : Type) := Effect (World τ) CanaryFailure α

variable {τ α : Type}

def act (f : World τ → Except CanaryFailure α × World τ) : Canary τ α := fun w =>
  match w.life with
  | none => f w
  | some 0 => (.error .died, w)
  | some (n + 1) => f { w with life := some n }

def silence : Exchange := { fate := .failed .timeout false }

def World.exchange (w : World τ) : Exchange := w.exchanges.headD silence

def World.next (w : World τ) : World τ :=
  { w with broker := w.exchange.moves.foldl Broker.move w.broker, exchanges := w.exchanges.tail }

def Broker.post (broker : Broker) (message : Option BrokerMessage) : Broker :=
  { broker with inFlight := broker.inFlight ++ message.toList }

def respond (message : Option BrokerMessage)
    (handle : Broker → Acceptance → Except AlpacaPaperTradingError α × Broker) (x : Exchange)
    (w : World τ) : Except CanaryFailure α × World τ :=
  match x.fate with
  | .answered =>
    ((handle w.broker x.taken).1.mapError .trading,
      { w with broker := (handle w.broker x.taken).2 })
  | .failed fault true =>
    (.error (.trading fault.error), { w with broker := (handle w.broker x.taken).2 })
  | .failed fault false =>
    (.error (.trading fault.error), { w with broker := w.broker.post message })

def request (message : Option BrokerMessage)
    (handle : Broker → Acceptance → Except AlpacaPaperTradingError α × Broker) : Canary τ α :=
  act fun w => respond message handle w.exchange w.next

def query (answer : Broker → Except AlpacaPaperTradingError α) : Canary τ α :=
  request none fun broker _ => (answer broker, broker)

def getAccount : Canary τ AlpacaPaperAccount := query fun broker => .ok broker.account

def listPositions : Canary τ (List AlpacaPaperPosition) := query fun broker => .ok broker.positions

def listOrders (limit : ℕ) : Canary τ (List AlpacaPaperOrder) := do
  Effect.ofExcept ((raiseIf (limit < 1 ∨ 500 < limit) ⟨.valueError,
    "Alpaca order history limit must be between 1 and 500", []⟩).mapError .raised)
  query fun broker => broker.listOrders limit

def listFillActivities (after : Instant) (pageSize : ℕ) :
    Canary τ (List AlpacaPaperFillActivity) := do
  Effect.ofExcept ((raiseIf (pageSize < 1 ∨ 100 < pageSize) ⟨.valueError,
    "Alpaca fill activity page size must be between 1 and 100", []⟩).mapError .raised)
  query fun broker => .ok (broker.listFillActivities after pageSize)

def Broker.answerOrder (broker : Broker) (clientOrderId : String) :
    Except AlpacaPaperTradingError AlpacaPaperOrder :=
  match broker.order? clientOrderId with
  | none => .error (httpError 404)
  | some order => parseOrder order

def missingOrder : Except CanaryFailure AlpacaPaperOrder → Canary τ (Option AlpacaPaperOrder)
  | .ok order => pure (some order)
  | .error (.trading error) =>
    if error.statusCode = some 404 then pure none else Effect.fail (.trading error)
  | .error failure => Effect.fail failure

def getOrderByClientId (clientOrderId : String) : Canary τ (Option AlpacaPaperOrder) := do
  missingOrder (← Effect.attempt (query fun broker => broker.answerOrder clientOrderId))

def submitOrder (request : AlpacaPaperOrderRequest) : Canary τ AlpacaPaperOrder :=
  AdaptiveQuant.request (some (.submit request)) fun broker taken => broker.submit request taken

/-- `cancel_order`: the result of an accepted request, an error otherwise. -/
def cancelOrder (brokerOrderId : String) : Canary τ Unit :=
  request (some (.cancel brokerOrderId)) fun broker _ => broker.cancel brokerOrderId

def sameOrder (order : AlpacaPaperOrder) (request : AlpacaPaperOrderRequest) :
    Canary τ AlpacaPaperOrder := do
  Effect.ofExcept ((requireSameOrder order request).mapError .trading)
  pure order

def recoverSubmitted (request : AlpacaPaperOrderRequest) (error : AlpacaPaperTradingError) :
    ℕ → Canary τ AlpacaPaperOrder
  | 0 => Effect.fail (.trading error)
  | attempts + 1 => do
    match ← getOrderByClientId request.val.clientOrderId with
    | some recovered => sameOrder recovered request
    | none => recoverSubmitted request error attempts

/-- What `ensure_submitted` makes of the outcome of a submission. -/
def settleSubmitted (attempts : ℕ) (request : AlpacaPaperOrderRequest) :
    Except CanaryFailure AlpacaPaperOrder → Canary τ AlpacaPaperOrder
  | .ok submitted => sameOrder submitted request
  | .error (.trading error) =>
    if error.retryable = false ∧ error.statusCode ∉ [some 409, some 422] then
      Effect.fail (.trading error)
    else recoverSubmitted request error attempts
  | .error failure => Effect.fail failure

def ensureSubmitted (attempts : ℕ) (request : AlpacaPaperOrderRequest) :
    Canary τ AlpacaPaperOrder := do
  match ← getOrderByClientId request.val.clientOrderId with
  | some existing => sameOrder existing request
  | none => settleSubmitted attempts request (← Effect.attempt (submitOrder request))

end AdaptiveQuant
