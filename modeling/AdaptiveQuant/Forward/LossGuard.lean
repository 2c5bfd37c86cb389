import AdaptiveQuant.Domain.Basic
import AdaptiveQuant.Lib.Dict

/-! The loss guard of the forward paper arms. -/

namespace AdaptiveQuant

open Guard

def coreSymbol : String := "QQQ"

def cashSymbol : String := "USD_CASH"

structure ArmState where
  armId : String
  initialCashUsd : Decimal
  cashUsd : Decimal
  positions : Dict String Decimal
  sequence : ℕ
deriving DecidableEq

def ArmState.held (state : ArmState) : Dict String Decimal :=
  state.positions.filter fun _ quantity => quantity ≠ 0

def ArmState.quantity (state : ArmState) (symbol : String) : Decimal :=
  state.positions.getD symbol 0

structure DecisionQuote where
  symbol : String
  quoteId : String
  bidPrice : Decimal
  askPrice : Decimal
  bidSizeRoundLots : ℤ
  askSizeRoundLots : ℤ
  eventTime : Instant
  availableAt : Instant
deriving DecidableEq, Inhabited

def DecisionQuote.midpoint (quote : DecisionQuote) : Decimal :=
  (quote.bidPrice + quote.askPrice) / 2

def DecisionQuote.spreadBps (quote : DecisionQuote) : Decimal :=
  (quote.askPrice - quote.bidPrice) / quote.midpoint * 10000

abbrev QuoteBundle := Dict String DecisionQuote

def quoteOf (quotes : QuoteBundle) (symbol : String) : DecisionQuote := quotes.getD symbol default

/-- The `KeyError` of the first symbol without a quote. -/
def requireQuotes (quotes : QuoteBundle) (symbols : List String) : Except Failure Unit :=
  match symbols.find? fun symbol => symbol ∉ quotes.keys with
  | none => .ok ()
  | some symbol => .error ⟨.keyError, "'" ++ symbol ++ "'", []⟩

/-- A `frozenset[str]`, in its order of iteration. -/
abbrev SymbolSet := {items : List String // items.Nodup}

structure ForwardRiskConfig where
  version : String
  transitionVersion : String
  coreVersion : String
  maxOneWayDailyTurnover : Decimal
  minOrderNotionalUsd : Decimal
  buyCashReserveFraction : Decimal
  spendUnsettledSaleProceeds : Bool
  maxSingleSymbolWeight : Decimal
  maxSemiconductorClusterWeight : Decimal
  maxLeveragedEtfWeight : Decimal
  maxCombinedLeveragedEtfWeight : Decimal
  maxGrossExposure : Decimal
  softDailyLossFraction : Decimal
  hardDailyLossFraction : Decimal
  blockEntriesDrawdownFraction : Decimal
  forceReduceDrawdownFraction : Decimal
  forceReduceCoreFraction : Decimal
  commissionRate : Decimal
  commissionWaiverThresholdUsd : Decimal
  delayPenaltyBps : Decimal
  quantityPrecision : Quantum
  sellOnlySymbols : SymbolSet
  entrySymbols : SymbolSet
  semiconductorSymbols : SymbolSet
  leveragedSymbols : SymbolSet
  coreCapExemptArms : SymbolSet

def shippedRiskConfig : ForwardRiskConfig where
  version := "risk_v2"
  transitionVersion := "inherited_account_transition_v1"
  coreVersion := "b0_forward_core_v1"
  maxOneWayDailyTurnover := 25 / 100
  minOrderNotionalUsd := 1
  buyCashReserveFraction := 1 / 100
  spendUnsettledSaleProceeds := false
  maxSingleSymbolWeight := 35 / 100
  maxSemiconductorClusterWeight := 55 / 100
  maxLeveragedEtfWeight := 15 / 100
  maxCombinedLeveragedEtfWeight := 20 / 100
  maxGrossExposure := 1
  softDailyLossFraction := 15 / 1000
  hardDailyLossFraction := 25 / 1000
  blockEntriesDrawdownFraction := 8 / 100
  forceReduceDrawdownFraction := 12 / 100
  forceReduceCoreFraction := 50 / 100
  commissionRate := 1 / 1000
  commissionWaiverThresholdUsd := 10
  delayPenaltyBps := 1
  quantityPrecision := ⟨1, -6⟩
  sellOnlySymbols := ⟨["NVDA", "TSM", "KLAC", "LRCX", "MU", "SOXL"], by decide⟩
  entrySymbols :=
    ⟨["SPY", "QQQ", "IWM", "SOXX", "SMH", "XLK", "TLT", "HYG", "GLD", "SGOV", "SOXS"], by decide⟩
  semiconductorSymbols :=
    ⟨["SOXX", "SMH", "NVDA", "TSM", "KLAC", "LRCX", "MU", "SOXL", "SOXS"], by decide⟩
  leveragedSymbols := ⟨["SOXL", "SOXS"], by decide⟩
  coreCapExemptArms := ⟨["B0-QQQ", "B0-VOL", "B3-RISK"], by decide⟩

def forwardRiskError (message : String) : Failure := ⟨.forwardRiskError, message, []⟩

def floorQuantity (value : Decimal) (precision : Quantum) : Decimal := quantizeDown value precision

inductive LossState
  | normal
  | softStop
  | hardStop
  | forceReduce
  | benchmarkControl
deriving DecidableEq

def LossState.isHard (state : LossState) : Bool := state ∈ [.hardStop, .forceReduce]

structure ForwardLossGuard where
  state : LossState
  sessionOpenNavUsd : Decimal
  currentNavUsd : Decimal
  peakNavUsd : Decimal
  dailyLossFraction : Decimal
  runDrawdownFraction : Decimal
  blockNewEntries : Bool
  forcedSellBudgetUsd : Option Decimal
deriving DecidableEq

section Targets

variable (config : ForwardRiskConfig) (quotes : QuoteBundle)

variable (state : ArmState) (currentNav : Decimal)

def semiconductorPositions : Dict String Decimal :=
  state.positions.filter fun symbol quantity =>
    0 < quantity ∧ symbol ∈ config.semiconductorSymbols.1 ∧ symbol ∉ config.leveragedSymbols.1

def midpointValue (positions : Dict String Decimal) : Decimal :=
  (positions.entries.map fun entry => entry.2 * (quoteOf quotes entry.1).midpoint).sum

def SemiconductorCapExceeded : Prop :=
  midpointValue quotes (semiconductorPositions config state) >
    currentNav * config.maxSemiconductorClusterWeight

instance (state : ArmState) (currentNav : Decimal) :
    Decidable (SemiconductorCapExceeded config quotes state currentNav) := by
  unfold SemiconductorCapExceeded
  infer_instance

def leveragedTargets : Dict String Decimal :=
  (state.positions.filter fun symbol quantity =>
    0 < quantity ∧ symbol ∈ config.leveragedSymbols.1).mapVal fun _ _ => 0

def addSemiconductorTargets
    (targets : Dict String Decimal) : Dict String Decimal :=
  let held := semiconductorPositions config state
  let cap := currentNav * config.maxSemiconductorClusterWeight
  let retainedFraction := cap / midpointValue quotes held
  if SemiconductorCapExceeded config quotes state currentNav then
    held.entries.foldl (fun targets entry => targets.set entry.1
      (floorQuantity (entry.2 * retainedFraction) config.quantityPrecision)) targets
  else targets

def addCoreTarget (includeCore : Bool) (targets : Dict String Decimal) :
    Dict String Decimal :=
  if includeCore ∧ 0 < state.quantity coreSymbol then
    targets.set coreSymbol (floorQuantity
      (state.quantity coreSymbol * (1 - config.forceReduceCoreFraction)) config.quantityPrecision)
  else targets

/-- `build_forced_reduction_targets`: freeze typed quantity targets for one hard-loss episode. -/
def buildForcedReductionTargets
    (includeCore : Bool := true) : Except Failure (Dict String Decimal) := do
  raiseIf (currentNav ≤ 0) (forwardRiskError "Current NAV must be positive")
  return addCoreTarget config state includeCore
    (addSemiconductorTargets config quotes state currentNav (leveragedTargets config state))

def residualNotional (targets : Dict String Decimal)
    (price : DecisionQuote → Decimal) : Decimal :=
  (targets.entries.map fun entry =>
    max 0 (state.quantity entry.1 - entry.2) * price (quoteOf quotes entry.1)).sum

def forcedReductionBudget (includeCore : Bool) :
    Except Failure Decimal := do
  let targets ← buildForcedReductionTargets config quotes state currentNav includeCore
  return residualNotional quotes state targets DecisionQuote.midpoint

def guardBudget (forces : Bool) :
    Except Failure (Option Decimal) :=
  if forces then some <$> forcedReductionBudget config quotes state currentNav true else .ok none

end Targets

def armNav (state : ArmState) (quotes : QuoteBundle) : Decimal :=
  state.cashUsd + midpointValue quotes state.held

def lossLevel (config : ForwardRiskConfig) (dailyLoss drawdown : Decimal) : LossState × Bool :=
  if drawdown ≥ config.forceReduceDrawdownFraction then (.forceReduce, true)
  else if dailyLoss ≥ config.hardDailyLossFraction then (.hardStop, true)
  else if drawdown ≥ config.blockEntriesDrawdownFraction then (.hardStop, false)
  else if dailyLoss ≥ config.softDailyLossFraction then (.softStop, false)
  else (.normal, false)

def evaluateForwardLossGuard (state : ArmState) (quotes : QuoteBundle)
    (sessionOpenNav peakNav : Decimal) (config : ForwardRiskConfig) :
    Except Failure ForwardLossGuard := do
  raiseIf (sessionOpenNav ≤ 0) (forwardRiskError "Session-open NAV must be positive")
  requireQuotes quotes state.held.keys
  let currentNav := armNav state quotes
  raiseIf (currentNav ≤ 0) (forwardRiskError "Current arm NAV must be positive")
  let effectivePeak := max peakNav currentNav
  raiseIf (effectivePeak ≤ 0) (forwardRiskError "Peak NAV must be positive")
  let dailyLoss := max 0 ((sessionOpenNav - currentNav) / sessionOpenNav)
  let drawdown := max 0 ((effectivePeak - currentNav) / effectivePeak)
  let level := lossLevel config dailyLoss drawdown
  let forcedBudget ← guardBudget config quotes state currentNav level.2
  return {
    state := level.1
    sessionOpenNavUsd := sessionOpenNav
    currentNavUsd := currentNav
    peakNavUsd := effectivePeak
    dailyLossFraction := dailyLoss
    runDrawdownFraction := drawdown
    blockNewEntries := level.1 ≠ .normal
    forcedSellBudgetUsd := forcedBudget }

def resolveForcedReductionTargets (guard : ForwardLossGuard)
    (latchedTargets : Option (Dict String Decimal)) (state : ArmState) (quotes : QuoteBundle)
    (config : ForwardRiskConfig) (lossControlsApplied : Bool) :
    Except Failure (Option (Dict String Decimal)) :=
  if ¬lossControlsApplied ∨ ¬guard.state.isHard then .ok none
  else match latchedTargets with
    | some targets => .ok (some targets)
    | none =>
      if guard.forcedSellBudgetUsd.all (· ≤ 0) then .ok none
      else some <$> buildForcedReductionTargets config quotes state guard.currentNavUsd

end AdaptiveQuant
