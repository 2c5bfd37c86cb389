import AdaptiveQuant.Lib.Dict
import AdaptiveQuant.Domain.Basic

/-! What a reconciliation of an arm reports (`risk/reconciliation.py`). -/

namespace AdaptiveQuant.Q1Cycle

inductive ReconciliationCondition
  | ok
  | ledgerUnavailable
  | positionOrCashMismatch
  | negativeBalance
  | unknownFill
deriving DecidableEq

def ReconciliationCondition.value : ReconciliationCondition → String
  | .ok => "OK"
  | .ledgerUnavailable => "LEDGER_UNAVAILABLE"
  | .positionOrCashMismatch => "POSITION_OR_CASH_MISMATCH"
  | .negativeBalance => "NEGATIVE_BALANCE"
  | .unknownFill => "UNKNOWN_FILL"

structure Q1ReconciliationResult where
  conditions : List ReconciliationCondition
  expectedPositions : Dict String Decimal := .empty
  expectedSettledCashUsd : Decimal := 0
  expectedUnsettledReceivables : Dict String Decimal := .empty
  checkedFillIds : List String := []
  checkedCashEventIds : List String := []

namespace Q1ReconciliationResult

def ok (r : Q1ReconciliationResult) : Bool := r.conditions = [.ok]

def isCritical (r : Q1ReconciliationResult) (configured : List String) : Bool :=
  r.conditions.any fun condition => condition.value ∈ configured

def status (r : Q1ReconciliationResult) : String :=
  "|".intercalate (r.conditions.map (·.value))

end Q1ReconciliationResult

end AdaptiveQuant.Q1Cycle
