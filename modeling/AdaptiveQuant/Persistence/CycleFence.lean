import AdaptiveQuant.Domain.Basic

/-! The lease of a paper cycle (`_require_cycle_fence`). -/

namespace AdaptiveQuant

open Guard

/-- The columns of `paper_cycles` that the fence reads. -/
structure PaperCycleRow where
  cycleId : String
  status : String
  leaseOwner : Option String
  attemptCount : ℕ
  leaseExpiresAt : Option Instant
deriving DecidableEq

def q1CycleFenceError (message : String) : Failure := ⟨.q1CycleFenceError, message, []⟩

def q1PersistenceConflict (message : String) : Failure := ⟨.q1PersistenceConflict, message, []⟩

def requireCycleFence (cycles : List PaperCycleRow) (cycleId leaseOwner : String)
    (attemptCount : ℕ) (fallbackNow : Instant) (databaseClock : Option Instant) :
    Except Failure PaperCycleRow :=
  match cycles.find? fun row => row.cycleId = cycleId with
  | none => .error (q1CycleFenceError s!"Unknown source cycle '{cycleId}'")
  | some row => do
    let comparisonNow := databaseClock.getD fallbackNow
    raiseIf (row.status ≠ "RUNNING" ∨ row.leaseOwner ≠ some leaseOwner ∨
        row.attemptCount ≠ attemptCount ∨ row.leaseExpiresAt.all (· ≤ comparisonNow))
      (q1CycleFenceError s!"Cycle lease is not owned by {leaseOwner} attempt {attemptCount}")
    return row

end AdaptiveQuant
