import AdaptiveQuant.Domain.RiskEpisode
import AdaptiveQuant.Execution.AlpacaPaper
import AdaptiveQuant.Lib.Dict
import Mathlib.Data.Prod.Lex
import Mathlib.Data.String.Basic

/-! `AlpacaPaperRepository`: the append-only rows that the canary writes, and the source decisions
that its commands refer to. -/

namespace AdaptiveQuant

open Guard

/-- `PortfolioDecisionRow` with what the canary reads of the `Q1StrategyDecision` in it. -/
structure PortfolioDecisionRow where
  portfolioDecisionId : String
  runId : String
  armId : String
  algorithmVersion : String
  decisionCreatedAt : Instant
  validUntil : Instant
  targetWeights : Dict String Decimal
  configManifestHash : String
  codeVersion : String
  decisionHash : String
deriving DecidableEq

structure PaperBrokerBindingRow where
  bindingId : String
  runId : String
  executionLane : String
  sourceArmId : String
  provider : String
  accountIdHash : String
  baseUrl : String
  initialEquityUsd : Decimal
  initialCashUsd : Decimal
  configManifestHash : String
  codeVersion : String
  payload : Canonical
  createdAt : Instant
deriving DecidableEq

inductive BrokerCommandType
  | submit
  | cancel
deriving DecidableEq

structure PaperBrokerCommandRow where
  commandId : String
  bindingId : String
  runId : String
  sourceDecisionId : String
  commandType : BrokerCommandType
  clientOrderId : Option String
  brokerOrderId : Option String
  symbol : String
  side : OrderSide
  quantity : Decimal
  limitPrice : Option Decimal
  reason : String
  idempotencyKey : String
  configManifestHash : String
  codeVersion : String
  payload : Canonical
  createdAt : Instant
deriving DecidableEq

/-- The `ALLOWED_EVENT_TYPES` that the canary writes. -/
inductive BrokerEventType
  | accountSnapshot
  | positionsSnapshot
  | orderSnapshot
  | fillActivity
  | submitReconciled
  | cancelRequestAccepted
  | reconciliationReady
  | reconciliationBlocked
deriving DecidableEq

structure PaperBrokerEventRow where
  eventId : String
  bindingId : String
  runId : String
  commandId : Option String
  eventType : BrokerEventType
  status : String
  brokerOrderId : Option String
  clientOrderId : Option String
  providerEventId : Option String
  symbol : Option String
  side : Option OrderSide
  quantity : Option Decimal
  filledQuantity : Option Decimal
  fillPrice : Option Decimal
  occurredAt : Instant
  availableAt : Instant
  idempotencyKey : String
  configManifestHash : String
  codeVersion : String
  payload : Canonical
  createdAt : Instant
deriving DecidableEq

/-- The tables of the paper broker. -/
structure PaperStore where
  bindings : List PaperBrokerBindingRow
  commands : List PaperBrokerCommandRow
  events : List PaperBrokerEventRow

/-- An `AlpacaPaperPersistenceConflict`. -/
def persistenceConflict (message : String) : Failure :=
  ⟨.alpacaPaperPersistenceConflict, message, []⟩

def requireStrings (values : List (String × String)) : Except Failure Unit :=
  let empty := Sequence.sortedBy id ((values.filter (·.2 = "")).map (·.1))
  raiseIf (empty ≠ [])
    (valueError ("Alpaca Paper persistence requires non-empty " ++ reprList empty))

def PaperBrokerBindingRow.validate (row : PaperBrokerBindingRow) : Except Failure Unit := do
  requireStrings [("binding_id", row.bindingId), ("run_id", row.runId),
    ("account_id_hash", row.accountIdHash), ("config_manifest_hash", row.configManifestHash),
    ("code_version", row.codeVersion)]
  raiseIf (row.executionLane ≠ "ALPACA_PAPER_CANARY")
    (valueError "Only ALPACA_PAPER_CANARY bindings are allowed")
  raiseIf (row.provider ≠ "ALPACA") (valueError "Only the ALPACA paper provider is allowed")
  raiseIf (row.baseUrl ≠ "https://paper-api.alpaca.markets")
    (valueError "Alpaca Paper binding must use the paper host")
  raiseIf (row.sourceArmId ∉ ["Q1-DET", "Q1-LLM"])
    (valueError "Alpaca Paper source arm must be Q1-DET or Q1-LLM")
  raiseIf (row.initialEquityUsd ≤ 0 ∨ row.initialCashUsd < 0)
    (valueError "Alpaca Paper opening balances are invalid")

def PaperBrokerCommandRow.validateType (row : PaperBrokerCommandRow) : Except Failure Unit :=
  match row.commandType with
  | .submit => do
    raiseIf (row.clientOrderId = none ∨ row.brokerOrderId ≠ none ∨ row.limitPrice = none)
      (valueError "SUBMIT requires client ID and limit price only")
    raiseIf (128 < (row.clientOrderId.getD "").length)
      (valueError "Alpaca Paper client order ID is too long")
  | .cancel =>
    raiseIf (row.brokerOrderId = none) (valueError "CANCEL requires a broker order ID")

def PaperBrokerCommandRow.validate (row : PaperBrokerCommandRow) : Except Failure Unit := do
  requireStrings [("command_id", row.commandId), ("binding_id", row.bindingId),
    ("run_id", row.runId), ("source_decision_id", row.sourceDecisionId), ("reason", row.reason),
    ("idempotency_key", row.idempotencyKey), ("config_manifest_hash", row.configManifestHash),
    ("code_version", row.codeVersion)]
  raiseIf (row.symbol ∉ alpacaPaperAllowedSymbols)
    (valueError "Alpaca Paper command is outside its ETF lane")
  raiseIf (row.quantity ≤ 0) (valueError "Alpaca Paper command quantity must be positive")
  raiseIf (row.limitPrice.any (· ≤ 0)) (valueError "Alpaca Paper limit price must be positive")
  row.validateType

/-- The fields without which a `FILL_ACTIVITY` is incomplete. -/
def PaperBrokerEventRow.isComplete (row : PaperBrokerEventRow) : Prop :=
  row.commandId ≠ none ∧ row.providerEventId ≠ none ∧ row.brokerOrderId ≠ none ∧
    row.symbol ≠ none ∧ row.side ≠ none ∧ row.quantity ≠ none ∧ row.filledQuantity ≠ none ∧
    row.fillPrice ≠ none

instance (row : PaperBrokerEventRow) : Decidable row.isComplete :=
  inferInstanceAs (Decidable (_ ∧ _))

def PaperBrokerEventRow.validate (row : PaperBrokerEventRow) : Except Failure Unit := do
  requireStrings [("event_id", row.eventId), ("binding_id", row.bindingId),
    ("run_id", row.runId), ("status", row.status), ("idempotency_key", row.idempotencyKey),
    ("config_manifest_hash", row.configManifestHash), ("code_version", row.codeVersion)]
  raiseIf (row.symbol.any (· ∉ alpacaPaperAllowedSymbols))
    (valueError "Alpaca Paper event symbol is outside its ETF lane")
  raiseIf (row.quantity.any (· ≤ 0)) (valueError "Alpaca Paper event quantity must be positive")
  raiseIf (row.filledQuantity.any (· < 0))
    (valueError "Alpaca Paper filled quantity must be non-negative")
  raiseIf (row.fillPrice.any (· ≤ 0)) (valueError "Alpaca Paper fill price must be positive")
  raiseIf (row.availableAt < row.occurredAt ∨ row.createdAt < row.availableAt)
    (valueError "Alpaca Paper event timestamps are inconsistent")
  raiseIf (128 < (row.clientOrderId.getD "").length)
    (valueError "Alpaca Paper client order ID is too long")
  raiseIf (row.eventType = .fillActivity ∧ ¬row.isComplete)
    (valueError "Alpaca Paper FILL event is incomplete")

namespace PaperStore

variable (hash : Hashing) (store : PaperStore) (row : PaperBrokerEventRow) (bindingId : String)

def bindingForRun (runId : String) : Option PaperBrokerBindingRow :=
  store.bindings.find? (·.runId = runId)

def bindingById : Option PaperBrokerBindingRow :=
  store.bindings.find? (·.bindingId = bindingId)

def requiredBinding :
    Except Failure PaperBrokerBindingRow :=
  match store.bindingById bindingId with
  | none => .error (persistenceConflict s!"Unknown Alpaca Paper binding '{bindingId}'")
  | some binding => .ok binding

def existingBinding (row existing : PaperBrokerBindingRow) :
    Except Failure (PaperBrokerBindingRow × PaperStore) := do
  raiseIf (¬(hash.canonicalHash existing.payload = hash.canonicalHash row.payload ∧
      { existing with payload := row.payload } = row))
    (persistenceConflict "Alpaca Paper run binding has different immutable content")
  pure (existing, store)

def createBinding (row : PaperBrokerBindingRow) (store : PaperStore) :
    Except Failure (PaperBrokerBindingRow × PaperStore) := do
  row.validate
  match (store.bindingById row.bindingId).or (store.bindingForRun row.runId) with
  | some existing => store.existingBinding hash row existing
  | none => pure (row, { store with bindings := store.bindings ++ [row] })

def commandById (commandId : String) : Option PaperBrokerCommandRow :=
  store.commands.find? (·.commandId = commandId)

def requiredCommand (commandId : String) :
    Except Failure PaperBrokerCommandRow :=
  match store.commandById commandId with
  | none => .error (persistenceConflict s!"Unknown Alpaca Paper command '{commandId}'")
  | some command => .ok command

def commandsOf : List PaperBrokerCommandRow :=
  Sequence.sortedBy (fun row => toLex (row.createdAt, row.commandId))
    (store.commands.filter (·.bindingId = bindingId))

def commandsOfType (commandType : BrokerCommandType) :
    List PaperBrokerCommandRow :=
  (store.commandsOf bindingId).filter (·.commandType = commandType)

def checkCommand (decisions : List PortfolioDecisionRow) (store : PaperStore)
    (row : PaperBrokerCommandRow) : Except Failure Unit := do
  let binding ← store.requiredBinding row.bindingId
  raiseIf (binding.runId ≠ row.runId)
    (persistenceConflict "Broker command run does not match its binding")
  raiseIf (binding.configManifestHash ≠ row.configManifestHash ∨
      binding.codeVersion ≠ row.codeVersion)
    (persistenceConflict "Broker command versions do not match its binding")
  match decisions.find? (·.portfolioDecisionId = row.sourceDecisionId) with
  | none =>
    .error (persistenceConflict "Broker command references an unknown portfolio decision")
  | some decision =>
    raiseIf (decision.runId ≠ row.runId ∨ decision.armId ≠ binding.sourceArmId)
      (persistenceConflict "Broker command decision is outside its bound run and arm")

def existingCommand (row existing : PaperBrokerCommandRow) :
    Except Failure (PaperBrokerCommandRow × PaperStore) := do
  raiseIf (¬(hash.canonicalHash existing.payload = hash.canonicalHash row.payload ∧
      { existing with payload := row.payload } = row))
    (persistenceConflict "Alpaca Paper command idempotency conflict")
  pure (existing, store)

def appendCommand (decisions : List PortfolioDecisionRow)
    (row : PaperBrokerCommandRow) (store : PaperStore) :
    Except Failure (PaperBrokerCommandRow × PaperStore) := do
  row.validate
  store.checkCommand decisions row
  match (store.commandById row.commandId).or
      (store.commands.find? (·.idempotencyKey = row.idempotencyKey)) with
  | some existing => store.existingCommand hash row existing
  | none => pure (row, { store with commands := store.commands ++ [row] })

def checkEventCommand (command : PaperBrokerCommandRow) :
    Except Failure Unit := do
  raiseIf (command.bindingId ≠ row.bindingId ∨ command.runId ≠ row.runId)
    (persistenceConflict "Broker event command is outside its binding")
  raiseIf (command.configManifestHash ≠ row.configManifestHash ∨
      command.codeVersion ≠ row.codeVersion)
    (persistenceConflict "Broker event versions do not match its command")
  raiseIf (row.clientOrderId ≠ none ∧ command.clientOrderId ≠ none ∧
      row.clientOrderId ≠ command.clientOrderId)
    (persistenceConflict "Broker event client order ID conflicts with its command")
  raiseIf (row.brokerOrderId ≠ none ∧ command.brokerOrderId ≠ none ∧
      row.brokerOrderId ≠ command.brokerOrderId)
    (persistenceConflict "Broker event order ID conflicts with its command")
  raiseIf (row.symbol.any (· ≠ command.symbol))
    (persistenceConflict "Broker event symbol conflicts with its command")
  raiseIf (row.side.any (· ≠ command.side))
    (persistenceConflict "Broker event side conflicts with its command")

def checkEvent : Except Failure Unit := do
  let binding ← store.requiredBinding row.bindingId
  raiseIf (binding.runId ≠ row.runId)
    (persistenceConflict "Broker event run does not match its binding")
  raiseIf (binding.configManifestHash ≠ row.configManifestHash ∨
      binding.codeVersion ≠ row.codeVersion)
    (persistenceConflict "Broker event versions do not match its binding")
  match row.commandId with
  | none => .ok ()
  | some commandId => do
    let command ← store.requiredCommand commandId
    checkEventCommand row command

def eventLike : Option PaperBrokerEventRow :=
  (store.events.find? (·.eventId = row.eventId)).or
    ((store.events.find? fun event =>
      event.bindingId = row.bindingId ∧ event.idempotencyKey = row.idempotencyKey).or
    (if row.providerEventId = none then none
    else store.events.find? fun event =>
      event.bindingId = row.bindingId ∧ event.providerEventId = row.providerEventId))

def existingEvent (row existing : PaperBrokerEventRow) :
    Except Failure PaperStore := do
  raiseIf (¬(hash.canonicalHash existing.payload = hash.canonicalHash row.payload ∧
      { existing with payload := row.payload } = row))
    (persistenceConflict "Alpaca Paper event idempotency conflict")
  pure store

def appendEvent (store : PaperStore) :
    Except Failure PaperStore := do
  row.validate
  store.checkEvent row
  match store.eventLike row with
  | some existing => store.existingEvent hash row existing
  | none => pure { store with events := store.events ++ [row] }

def eventExists (bindingId idempotencyKey : String) : Prop :=
  ∃ event ∈ store.events, event.bindingId = bindingId ∧ event.idempotencyKey = idempotencyKey

instance (store : PaperStore) (bindingId idempotencyKey : String) :
    Decidable (store.eventExists bindingId idempotencyKey) :=
  inferInstanceAs (Decidable (∃ event ∈ store.events, _))

def latestEventForCommand (commandId : String) : Option PaperBrokerEventRow :=
  (Sequence.sortedBy (fun event => toLex (event.availableAt, event.eventId))
    (store.events.filter (·.commandId = some commandId))).getLast?

def lastFill : Option PaperBrokerEventRow :=
  (Sequence.sortedBy (fun event => toLex (event.occurredAt, event.eventId))
    (store.events.filter fun event =>
      event.bindingId = bindingId ∧ event.eventType = .fillActivity)).getLast?

variable {hash : Hashing} {store store' : PaperStore}

theorem mem_of_find?_or {α : Type} {l : List α} {p q : α → Bool} {a : α}
    (h : (l.find? p).or (l.find? q) = some a) : a ∈ l := by
  rcases Option.or_eq_some_iff.mp h with hfound | ⟨-, hfound⟩
  · exact List.mem_of_find?_eq_some hfound
  · exact List.mem_of_find?_eq_some hfound

theorem createBinding_ok {row binding} (h : createBinding hash row store = .ok (binding, store')) :
    row.validate = .ok () ∧
      ((store' = store ∧ binding ∈ store.bindings ∧ { binding with payload := row.payload } = row) ∨
        (binding = row ∧ store.bindingForRun row.runId = none ∧
          store' = { store with bindings := store.bindings ++ [row] })) := by
  simp only [createBinding, bind_eq_ok] at h
  obtain ⟨⟨⟩, hvalid, h⟩ := h
  refine ⟨hvalid, ?_⟩
  split at h
  · rename_i existing hexisting
    simp only [existingBinding, bind_eq_ok, raiseIf_eq_ok, not_not, pure_eq_ok, Prod.mk.injEq] at h
    obtain ⟨-, ⟨-, hsame⟩, rfl, rfl⟩ := h
    exact .inl ⟨rfl, mem_of_find?_or hexisting, hsame⟩
  · rename_i hnone
    simp only [pure_eq_ok, Prod.mk.injEq] at h
    obtain ⟨rfl, rfl⟩ := h
    exact .inr ⟨rfl, (Option.or_eq_none_iff.mp hnone).2, rfl⟩

variable {decisions : List PortfolioDecisionRow}

theorem appendCommand_ok {row command}
    (h : appendCommand hash decisions row store = .ok (command, store')) :
    row.validate = .ok () ∧ store.checkCommand decisions row = .ok () ∧
      ((store' = store ∧ command ∈ store.commands ∧ { command with payload := row.payload } = row) ∨
        (command = row ∧ store' = { store with commands := store.commands ++ [row] } ∧
          ∀ other ∈ store.commands, other.idempotencyKey ≠ row.idempotencyKey)) := by
  simp only [appendCommand, bind_eq_ok] at h
  obtain ⟨⟨⟩, hvalid, ⟨⟩, hcheck, h⟩ := h
  refine ⟨hvalid, hcheck, ?_⟩
  split at h
  · rename_i existing hexisting
    simp only [existingCommand, bind_eq_ok, raiseIf_eq_ok, not_not, pure_eq_ok, Prod.mk.injEq] at h
    obtain ⟨-, ⟨-, hsame⟩, rfl, rfl⟩ := h
    exact .inl ⟨rfl, mem_of_find?_or hexisting, hsame⟩
  · rename_i hnone
    simp only [pure_eq_ok, Prod.mk.injEq] at h
    obtain ⟨rfl, rfl⟩ := h
    refine .inr ⟨rfl, rfl, fun other hother => ?_⟩
    simpa using List.find?_eq_none.mp (Option.or_eq_none_iff.mp hnone).2 other hother

theorem requiredBinding_ok {bindingId : String} {binding}
    (h : store.requiredBinding bindingId = .ok binding) :
    binding ∈ store.bindings ∧ binding.bindingId = bindingId := by
  unfold requiredBinding at h
  split at h
  · cases h
  · rename_i found hfound
    cases h
    exact ⟨List.mem_of_find?_eq_some hfound, by simpa using List.find?_some hfound⟩

theorem checkCommand_ok {row} (h : store.checkCommand decisions row = .ok ()) :
    ∃ binding ∈ store.bindings, binding.bindingId = row.bindingId := by
  simp only [checkCommand, bind_eq_ok] at h
  obtain ⟨binding, hbinding, -⟩ := h
  exact ⟨binding, requiredBinding_ok hbinding⟩

theorem appendEvent_ok {row} (h : appendEvent hash row store = .ok store') :
    store' = store ∨ ((∃ binding ∈ store.bindings, binding.bindingId = row.bindingId) ∧
      store' = { store with events := store.events ++ [row] }) := by
  simp only [appendEvent, bind_eq_ok] at h
  obtain ⟨⟨⟩, -, ⟨⟩, hcheck, h⟩ := h
  split at h
  · simp only [existingEvent, ok_iff] at h
    obtain ⟨-, -, rfl⟩ := h
    exact .inl rfl
  · rw [pure_eq_ok] at h
    simp only [checkEvent, bind_eq_ok] at hcheck
    obtain ⟨binding, hbinding, -⟩ := hcheck
    exact .inr ⟨⟨binding, requiredBinding_ok hbinding⟩, h.symm⟩

end PaperStore

end AdaptiveQuant
