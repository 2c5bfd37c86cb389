import AdaptiveQuant.Lib.Binary64
import AdaptiveQuant.Lib.Dict
import AdaptiveQuant.Domain.Basic
import Mathlib.Data.String.Basic

/-! The reduce-only overlay of `llm/q1_overlay.py`.  Its floats are rationals that `Binary64.round`
gives. -/

namespace AdaptiveQuant.Q1Overlay

open Guard

/-- `float(value)`. -/
def floatOf (value : Decimal) : ℚ := Binary64.round value

def decimalOf (value : ℚ) : Decimal := Binary64.shortest value

def riskySymbols : List String := ["QQQ", "SOXX"]

inductive Q1OverlayState
  | noChange
  | active
  | expiredAwaitingNextRebalance
  | superseded
deriving DecidableEq

/-- What the overlay reads of a `Q1LlmOverlayDecision` that its validators have passed. -/
structure Q1LlmOverlayDecision where
  riskMultiplier : ℚ
  blockNewEntries : Bool
  effectiveTime : Instant
  expiryTime : Instant
  allowed : riskMultiplier ∈ [1, 3 / 4, 1 / 2]
  window : effectiveTime < expiryTime

/-- `_normalize_target`.  The sum of two floats is their rounded sum. -/
def normalizeTarget (target : Dict String ℚ) : Except Failure (Dict String ℚ) := do
  let unknown := target.keys.filter (· ∉ riskySymbols ++ ["USD_CASH"])
  raiseIf (unknown ≠ []) ⟨.valueError,
    s!"Q1 overlay target contains unknown symbols: {reprList (Sequence.sortedBy id unknown)}", []⟩
  let qqq := max 0 (target.getD "QQQ" 0)
  let soxx := max 0 (target.getD "SOXX" 0)
  let risky := Binary64.round (qqq + soxx)
  raiseIf (1 + 1 / 10 ^ 12 < decimalOf risky)
    ⟨.valueError, "Q1 deterministic target is leveraged", []⟩
  return ((Dict.empty.set "QQQ" qqq).set "SOXX" soxx).set "USD_CASH" (Binary64.round (1 - risky))

def reducedWeight (base currentWeights : Dict String ℚ) (decision : Q1LlmOverlayDecision)
    (symbol : String) : ℚ :=
  let deterministicWeight := base.getD symbol 0
  let reduced := Binary64.round (deterministicWeight * decision.riskMultiplier)
  let reduced :=
    if decision.blockNewEntries then min reduced (max 0 (currentWeights.getD symbol 0)) else reduced
  min deterministicWeight (max 0 reduced)

def applyReduceOnlyOverlay (deterministicTarget currentWeights : Dict String ℚ)
    (decision : Option Q1LlmOverlayDecision) (asOf : Instant) :
    Except Failure (Dict String ℚ × Q1OverlayState) := do
  let base ← normalizeTarget deterministicTarget
  match decision with
  | none => return (base, .noChange)
  | some decision =>
    if asOf < decision.effectiveTime then return (base, .noChange)
    else if decision.expiryTime ≤ asOf then do
      let current ← normalizeTarget currentWeights
      return (current, .expiredAwaitingNextRebalance)
    else
      let qqq := reducedWeight base currentWeights decision "QQQ"
      let soxx := reducedWeight base currentWeights decision "SOXX"
      return (((Dict.empty.set "QQQ" qqq).set "SOXX" soxx).set "USD_CASH"
        (Binary64.round (1 - Binary64.round (qqq + soxx))), .active)

end AdaptiveQuant.Q1Overlay
