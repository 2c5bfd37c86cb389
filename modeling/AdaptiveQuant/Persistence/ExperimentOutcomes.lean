import AdaptiveQuant.Lib.Run
import AdaptiveQuant.Research.OutcomeMemory

/-! The experiment outcome ledger of `persistence/experiment_outcomes.py`, and the memory built from
it. -/

namespace AdaptiveQuant.ResearchPlane

open Guard Sequence

def outcomeError (message : String) : Failure :=
  ⟨.experimentOutcomePersistenceError, message, []⟩

structure ExperimentActionRow (R : Type) where
  actionId : String
  experimentId : String
  researchCycleId : String
  proposalId : String
  challengerId : String
  informationRole : String
  primaryActionKind : String
  maturityDueAt : Instant
  metaTrainingPermitted : Bool
  idempotencyKey : String
  actionHash : String
  payload : ResearchExperimentAction R
  createdAt : Instant
deriving DecidableEq

structure OutcomeEventRow (R : Type) where
  eventId : String
  actionId : String
  experimentId : String
  researchCycleId : String
  proposalId : String
  challengerId : String
  informationRole : String
  primaryActionKind : String
  eventKind : String
  experimentStage : String
  eventSequence : ℕ
  availableAt : Instant
  maturityDueAt : Instant
  maturityStatus : String
  eligibleForMetaTraining : Bool
  previousEventHash : Option String
  supersedesEventId : Option String
  idempotencyKey : String
  maturationInputHash : String
  eventHash : String
  payload : ExperimentOutcomeEvent R
  createdAt : Instant
deriving DecidableEq

/-- The two tables of the outcome ledger. -/
structure OutcomeStore (R : Type) where
  actions : List (ExperimentActionRow R) := []
  events : List (OutcomeEventRow R) := []
deriving DecidableEq

section Operations

variable {R : Type} [OutcomeNumber R]

def ResearchExperimentAction.row (a : ResearchExperimentAction R) : ExperimentActionRow R where
  actionId := a.actionId
  experimentId := a.experimentId
  researchCycleId := a.origin.researchCycleId
  proposalId := a.origin.proposalId
  challengerId := a.origin.challengerId
  informationRole := a.origin.informationRole.value
  primaryActionKind := a.origin.primaryActionKind.value
  maturityDueAt := a.origin.maturityDueAt
  metaTrainingPermitted := a.metaTrainingPermitted
  idempotencyKey := a.idempotencyKey
  actionHash := a.actionHash
  payload := a
  createdAt := a.createdAt

def ExperimentOutcomeEvent.row (e : ExperimentOutcomeEvent R) (actionId : String) :
    OutcomeEventRow R where
  eventId := e.eventId
  actionId := actionId
  experimentId := e.experimentId
  researchCycleId := e.origin.researchCycleId
  proposalId := e.origin.proposalId
  challengerId := e.origin.challengerId
  informationRole := e.origin.informationRole.value
  primaryActionKind := e.origin.primaryActionKind.value
  eventKind := e.outcome.eventKind.value
  experimentStage := e.outcome.experimentStage.value
  eventSequence := e.eventSequence
  availableAt := e.outcome.availableAt
  maturityDueAt := e.origin.maturityDueAt
  maturityStatus := e.outcome.maturityStatus.value
  eligibleForMetaTraining := e.eligibleForMetaTraining
  previousEventHash := e.previousEventHash
  supersedesEventId := e.outcome.supersedesEventId
  idempotencyKey := e.outcome.idempotencyKey
  maturationInputHash := e.maturationInputHash
  eventHash := e.eventHash
  payload := e
  createdAt := e.outcome.createdAt

variable (hash : Hashing)

def actionFromRow (row : ExperimentActionRow R) : Except Failure (ResearchExperimentAction R) :=
  match validateAction hash row.payload with
  | .error _ => .error (outcomeError "stored experiment action payload is invalid")
  | .ok () => do
    raiseIf (row ≠ row.payload.row) (outcomeError "stored experiment action binding is invalid")
    return row.payload

def eventFromRow (row : OutcomeEventRow R) : Except Failure (ExperimentOutcomeEvent R) :=
  match validateEvent hash row.payload with
  | .error _ => .error (outcomeError "stored experiment outcome payload is invalid")
  | .ok () => do
    raiseIf (row ≠ row.payload.row row.actionId)
      (outcomeError "stored experiment outcome binding is invalid")
    return row.payload

def validateEventActionBinding (a : ResearchExperimentAction R) (e : ExperimentOutcomeEvent R)
    (actionId : String) : Except Failure Unit :=
  raiseIf (actionId ≠ a.actionId ∨ e.experimentId ≠ a.experimentId ∨ e.origin ≠ a.origin ∨
    e.outcome.evaluationContractHash ≠ a.evaluationContractHash)
    (outcomeError "experiment outcome is not bound to its registered action")

variable (s : OutcomeStore R)

def OutcomeStore.findAction (experimentId : String) :
    Option (ExperimentActionRow R) :=
  s.actions.find? fun row : ExperimentActionRow R => row.experimentId = experimentId

def requireAction (experimentId : String) :
    Except Failure (ResearchExperimentAction R) :=
  match s.findAction experimentId with
  | none => .error (outcomeError ("unknown research experiment: " ++ experimentId))
  | some row => actionFromRow hash row

def checkLink (sequence : ℕ) (previousHash : Option String) (previousCreatedAt : Option Instant)
    (e : ExperimentOutcomeEvent R) : Except Failure Unit := do
  raiseIf (e.eventSequence ≠ sequence + 1) (outcomeError "experiment outcome event sequence gap")
  raiseIf (e.previousEventHash ≠ previousHash)
    (outcomeError "experiment outcome previous hash mismatch")
  raiseIf (previousCreatedAt.any (e.outcome.createdAt < ·) = true)
    (outcomeError "experiment outcome creation time regressed")

def verifyRow (a : ResearchExperimentAction R) (createdAtCutoff : Option Instant)
    (events : List (ExperimentOutcomeEvent R)) (row : OutcomeEventRow R) :
    Except Failure (List (ExperimentOutcomeEvent R)) := do
  let event ← eventFromRow hash row
  validateEventActionBinding a event row.actionId
  if createdAtCutoff.any (event.outcome.createdAt > ·) then return events
  else do
    checkLink events.length (events.getLast?.map (·.eventHash))
      (events.getLast?.map (·.outcome.createdAt)) event
    return events ++ [event]

def verifiedChain (experimentId : String) (createdAtCutoff : Option Instant) :
    Except Failure (List (ExperimentOutcomeEvent R)) := do
  let rows := sortedBy (·.eventSequence)
    (s.events.filter fun row : OutcomeEventRow R => row.experimentId = experimentId)
  let action ← requireAction hash s experimentId
  let events ← rows.foldlM (verifyRow hash action createdAtCutoff) []
  raiseIf (∃ e ∈ events, e.outcome.supersedesEventId.any (· ∉ events.map (·.eventId)) = true)
    (outcomeError "experiment outcome supersedes an unknown event")
  return events

structure RowsState (R : Type) where
  events : List (ExperimentOutcomeEvent R) := []
  chainState : Dict String (ℕ × Option String × Option Instant) := .empty
  eventIds : Dict String (List String) := .empty
  supersessions : List (String × String) := []

def RowsState.advance (state : RowsState R) (event : ExperimentOutcomeEvent R) : RowsState R where
  events := state.events ++ [event]
  chainState := state.chainState.set event.experimentId
    (event.eventSequence, some event.eventHash, some event.outcome.createdAt)
  eventIds := state.eventIds.set event.experimentId
    ((state.eventIds.get? event.experimentId).getD [] ++ [event.eventId])
  supersessions := state.supersessions ++
    (event.outcome.supersedesEventId.map fun id => (event.experimentId, id)).toList

def verifyEventRow (actions : Dict String (ResearchExperimentAction R)) (state : RowsState R)
    (row : OutcomeEventRow R) : Except Failure (RowsState R) := do
  match actions.get? row.experimentId with
  | none => .error (outcomeError "experiment outcome references an unknown action")
  | some action =>
    let event ← eventFromRow hash row
    validateEventActionBinding action event row.actionId
    let (sequence, previousHash, previousCreatedAt) :=
      (state.chainState.get? event.experimentId).getD (0, none, none)
    checkLink sequence previousHash previousCreatedAt event
    return state.advance event

def verifiedEventRows (actions : Dict String (ResearchExperimentAction R))
    (rows : List (OutcomeEventRow R)) : Except Failure (List (ExperimentOutcomeEvent R)) := do
  let state ← rows.foldlM (verifyEventRow hash actions) {}
  raiseIf (∃ x ∈ state.supersessions, x.2 ∉ (state.eventIds.get? x.1).getD [])
    (outcomeError "experiment outcome supersedes an unknown event")
  return state.events

def rowKey (row : OutcomeEventRow R) : String ×ₗ ℕ := toLex (row.experimentId, row.eventSequence)

def OutcomeStore.rowsUntil (asOf : Instant) : List (OutcomeEventRow R) :=
  sortedBy rowKey (s.events.filter (·.createdAt ≤ asOf))

def actionsByExperiment (rows : List (ExperimentActionRow R)) :
    Except Failure (Dict String (ResearchExperimentAction R)) :=
  (sortedBy (·.experimentId) rows).foldlM (fun actions row => do
    let action ← actionFromRow hash row
    return actions.set row.experimentId action) .empty

def materializeMemory (asOf cutoff createdAt : Instant) :
    Except Failure (ResearchMemorySnapshot R) := do
  let actions ← actionsByExperiment hash s.actions
  let events ← verifiedEventRows hash actions (s.rowsUntil asOf)
  buildResearchMemorySnapshot hash events asOf cutoff createdAt

def effectiveEvents (chain : List (ExperimentOutcomeEvent R)) : List (ExperimentOutcomeEvent R) :=
  chain.filter fun e => e.eventId ∉ chain.filterMap (·.outcome.supersedesEventId)

def isTerminalOutcome (e : ExperimentOutcomeEvent R) : Bool :=
  e.outcome.hasEconomicValues ||
    e.outcome.maturityStatus ∈ [ExperimentMaturityStatus.censored, .invalidated, .superseded] ||
    e.outcome.technicalSuccess = some false

def matchingIdempotencyEvent (chain : List (ExperimentOutcomeEvent R))
    (m : OutcomeMaturationInput R) : Except Failure (Option (ExperimentOutcomeEvent R)) :=
  match chain.find? fun e : ExperimentOutcomeEvent R =>
      e.outcome.idempotencyKey = m.outcome.idempotencyKey with
  | none => .ok none
  | some e => do
    raiseIf (e.maturationInputHash ≠ hash.canonicalHash m.data)
      (outcomeError "experiment outcome idempotency conflict")
    return some e

def validateSupersession (chain : List (ExperimentOutcomeEvent R)) (m : OutcomeMaturationInput R) :
    Except Failure Unit :=
  match m.outcome.supersedesEventId with
  | none => .ok ()
  | some id =>
    match chain.filter (·.eventId = id) with
    | [] => .error (outcomeError "superseded outcome event does not exist")
    | target :: _ => do
      raiseIf (∃ e ∈ chain, e.outcome.supersedesEventId = some id)
        (outcomeError "outcome event was already superseded")
      raiseIf (m.outcome.availableAt < target.outcome.availableAt)
        (outcomeError "correction availability cannot predate the superseded outcome")

def validateOutcomeTransition (chain : List (ExperimentOutcomeEvent R))
    (m : OutcomeMaturationInput R) : Except Failure Unit := do
  match (effectiveEvents chain).filter isTerminalOutcome with
  | [] => pure ()
  | terminal :: others =>
    raiseIf (m.outcome.eventKind ≠ .outcomeCorrected ∨ others ≠ [] ∨
      m.outcome.supersedesEventId ≠ some terminal.eventId)
      (outcomeError ("an effective terminal outcome may be replaced only by " ++
        "an explicit correction of that outcome"))
  raiseIf (chain ≠ [] ∧ m.outcome.eventKind = .experimentRegistered)
    (outcomeError "EXPERIMENT_REGISTERED is permitted only as the first event")

def OutcomeStore.insertEvent (row : OutcomeEventRow R) :
    Except Failure (OutcomeStore R) := do
  raiseIf (∃ old ∈ s.events, old.eventId = row.eventId ∨ old.eventHash = row.eventHash ∨
    (old.experimentId = row.experimentId ∧ (old.eventSequence = row.eventSequence ∨
      old.idempotencyKey = row.idempotencyKey)))
    (outcomeError "experiment outcome uniqueness conflict")
  raiseIf (row.actionId ∉ s.actions.map (·.actionId) ∨
    row.supersedesEventId.any (· ∉ s.events.map (·.eventId)) = true)
    (outcomeError "experiment outcome uniqueness conflict")
  return { s with events := s.events ++ [row] }

def appendOutcome (m : Validated (validateMaturation (R := R))) :
    Except Failure ((ExperimentOutcomeEvent R × Bool) × OutcomeStore R) := do
  let action ← requireAction hash s m.val.experimentId
  let chain ← verifiedChain hash s m.val.experimentId none
  match ← matchingIdempotencyEvent hash chain m.val with
  | some existing => return ((existing, false), s)
  | none =>
    validateSupersession chain m.val
    validateOutcomeTransition chain m.val
    let event ← buildOutcomeEvent hash action m.val chain.getLast?
    let s ← s.insertEvent (event.row action.actionId)
    return ((event, true), s)

def registerAction (a : Validated (validateAction (R := R) hash)) :
    Except Failure (Bool × OutcomeStore R) :=
  match s.actions.find? fun row : ExperimentActionRow R => row.actionId = a.val.actionId ∨
      row.experimentId = a.val.experimentId ∨ row.idempotencyKey = a.val.idempotencyKey with
  | some existing => do
    let stored ← actionFromRow hash existing
    raiseIf (stored.actionHash ≠ a.val.actionHash)
      (outcomeError "experiment action idempotency conflict")
    return (false, s)
  | none => do
    raiseIf (a.val.actionHash ∈ s.actions.map (·.actionHash))
      (outcomeError "experiment action uniqueness conflict")
    return (true, { s with actions := s.actions ++ [a.val.row] })

/-- One call on the outcome ledger, with a record that passed its validators. -/
inductive LedgerCall (R : Type) [OutcomeNumber R] (hash : Hashing)
  | register (action : Validated (validateAction (R := R) hash))
  | append (maturation : Validated (validateMaturation (R := R)))

def ledgerStep : LedgerCall R hash → Except Failure (OutcomeStore R)
  | .register action => (·.2) <$> registerAction hash s action
  | .append maturation => (·.2) <$> appendOutcome hash s maturation

end Operations

end AdaptiveQuant.ResearchPlane
