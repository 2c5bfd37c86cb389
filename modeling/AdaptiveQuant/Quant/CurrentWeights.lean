import AdaptiveQuant.Quant.Allocator

/-! The weights that `apply_turnover_control` of `quant/allocator.py` reads. -/

namespace AdaptiveQuant.Quant

open Guard

def positive (value : Decimal) (name : String) : Except Failure Decimal := do
  raiseIf (value ≤ 0) (q1MathError s!"{name} must be a positive finite Decimal")
  return value

def nonNegative (value : Decimal) (name : String) : Except Failure Decimal := do
  raiseIf (value < 0) (q1MathError s!"{name} must be a non-negative finite Decimal")
  return value

structure CurrentPortfolioWeights where
  navUsd : Decimal
  settledCashUsd : Decimal
  unsettledReceivablesUsd : Decimal
  weights : List (String × Decimal)

def positionValue (positions midpointQuotes : Dict String Decimal) (symbol : String) :
    Except Failure (String × Decimal) := do
  let quantity ← nonNegative (positions.getD symbol 0) s!"position[{symbol}]"
  if quantity = 0 then
    return (symbol, 0)
  else
    match midpointQuotes.get? symbol with
    | none => .error (q1MathError s!"missing midpoint quote for held symbol {symbol}")
    | some quote =>
      let midpoint ← positive quote s!"midpoint_quote[{symbol}]"
      return (symbol, quantity * midpoint)

def computeCurrentWeights (positions : Dict String Decimal) (settledCashUsd : Decimal)
    (unsettledReceivables midpointQuotes : Dict String Decimal) (config : Q1MathConfig Decimal) :
    Except Failure CurrentPortfolioWeights := do
  let settled ← nonNegative settledCashUsd "settled_cash_usd"
  let amounts ← unsettledReceivables.entries.mapM fun item =>
    nonNegative item.2 s!"unsettled_receivable[{item.1}]"
  let unsettled := amounts.sum
  let values ← config.val.riskySymbols.mapM (positionValue positions midpointQuotes)
  let unexpected := (positions.filter fun symbol quantity =>
    quantity ≠ 0 ∧ symbol ∉ config.val.riskySymbols).keys
  raiseIf (unexpected ≠ []) (q1MathError
    s!"strategy arm contains symbols outside Q1 universe: {reprList (Sequence.sortedBy id unexpected)}")
  let nav := settled + unsettled + (values.map (·.2)).sum
  raiseIf (nav ≤ 0) (q1MathError "current NAV must be positive")
  return {
    navUsd := nav
    settledCashUsd := settled
    unsettledReceivablesUsd := unsettled
    weights := values.map (fun item => (item.1, item.2 / nav)) ++
      [(config.val.cashSymbol, (settled + unsettled) / nav)] }

/-- `_normalized_weight_mapping`, the check that `apply_turnover_control` makes of a target. -/
def normalizedWeightMapping (values : Dict String Decimal) (symbols : List String)
    (config : Q1MathConfig Decimal) : Except Failure (Dict String Decimal) := do
  let extras := (values.filter fun symbol value => symbol ∉ symbols ∧ value ≠ 0).keys
  raiseIf (extras ≠ []) (q1MathError
    s!"weights contain symbols outside Q1 universe: {reprList (Sequence.sortedBy id extras)}")
  let normalized ← symbols.foldlM (fun (normalized : Dict String Decimal) symbol => do
    let value ← nonNegative (values.getD symbol 0) s!"weight[{symbol}]"
    return normalized.set symbol value) .empty
  validateBasicWeights normalized config.val.allocation
  return normalized

end AdaptiveQuant.Quant
