import AdaptiveQuant.Domain.Basic
import AdaptiveQuant.Lib.Interpolation
import AdaptiveQuant.Lib.Sequence

/-! The paired bootstrap of `research/portfolio_delta_sharpe.py` over an ordered field, where every
value is finite. The square root and the random generator are parameters. -/

namespace AdaptiveQuant.DeltaSharpe

open Guard Sequence

variable {α σ : Type} [Field α] [LinearOrder α]

def portfolioDeltaSharpeError (code : String) : Failure := ⟨.portfolioDeltaSharpeError, code, []⟩

/-- `StationaryBootstrapContractV1`; the results hold of values that its validators refuse, too. -/
structure StationaryBootstrapContract (α : Type) where
  samples : ℕ
  expectedBlockSessions : ℕ
  lowerQuantile : α
  varianceEpsilon : α

/-- A generator of which only the range of `randrange` is known. -/
structure Random (α σ : Type) where
  randrange : ℕ → σ → ℕ × σ
  random : σ → α × σ
  randrange_lt : ∀ {count : ℕ} (state : σ), 0 < count → (randrange count state).1 < count

structure PortfolioCostStressResult (α : Type) where
  costMultiplier : α
  candidatePortfolioSharpe : α
  championPortfolioSharpe : α
  deltaSharpePoint : α
  deltaSharpeLcb : α
  deltaSharpeUcb : α
deriving DecidableEq

def item {β : Type} (values : List β) (index : ℤ) : Except Failure β :=
  let position := if index < 0 then values.length + index else index
  if position < 0 then .error ⟨.indexError, "list index out of range", []⟩
  else
    match values[position.toNat]? with
    | some value => .ok value
    | none => .error ⟨.indexError, "list index out of range", []⟩

def excessReturns (returns riskFree : List α) : List α := List.zipWith (· - ·) returns riskFree

def mean (values : List α) : α := values.sum / values.length

def sampleVariance (values : List α) : α :=
  (values.map fun value => (value - mean values) ^ 2).sum / (values.length - 1)

def sampleSharpe (sqrt : α → α) (annualizationSessions : ℕ) (varianceEpsilon : α)
    (returns riskFree : List α) : Except Failure α := do
  raiseIf (returns.length ≠ riskFree.length ∨ returns.length < 2)
    (portfolioDeltaSharpeError "INSUFFICIENT_COMMON_SESSIONS")
  let variance := sampleVariance (excessReturns returns riskFree)
  raiseIf (variance ≤ varianceEpsilon) (portfolioDeltaSharpeError "DEGENERATE_VARIANCE")
  raiseIf (variance = 0) ⟨.divisionByZero, "float division by zero", []⟩
  return sqrt annualizationSessions * mean (excessReturns returns riskFree) / sqrt variance

/-- The index after another one: a new block starts, or the block goes on with the next session. -/
def nextIndex (rng : Random α σ) (count : ℕ) (restartProbability : α) (index : ℕ) (state : σ) :
    ℕ × σ :=
  let (draw, afterDraw) := rng.random state
  if draw < restartProbability then rng.randrange count afterDraw
  else ((index + 1) % count, afterDraw)

/-- The loop of `_stationary_indices`. -/
def walk (rng : Random α σ) (count : ℕ) (restartProbability : α) : ℕ → ℕ → σ → List ℕ × σ
  | 0, _, state => ([], state)
  | n + 1, index, state =>
    let (next, afterNext) := nextIndex rng count restartProbability index state
    let (rest, last) := walk rng count restartProbability n next afterNext
    (index :: rest, last)

def stationaryIndices (rng : Random α σ) (count expectedBlockSessions : ℕ) (state : σ) :
    Except Failure (List ℕ × σ) := do
  raiseIf (expectedBlockSessions = 0) ⟨.divisionByZero, "float division by zero", []⟩
  raiseIf (count = 0) ⟨.valueError, "empty range for randrange()", []⟩
  let (index, afterIndex) := rng.randrange count state
  return walk rng count (1 / expectedBlockSessions) count index afterIndex

def resample (values : List α) (indices : List ℕ) : Except Failure (List α) :=
  indices.mapM fun index : ℕ => item values index

def sharpeDifference (sqrt : α → α) (annualizationSessions : ℕ) (varianceEpsilon : α)
    (candidate champion riskFree : List α) : Except Failure α := do
  let candidateSharpe ← sampleSharpe sqrt annualizationSessions varianceEpsilon candidate riskFree
  let championSharpe ← sampleSharpe sqrt annualizationSessions varianceEpsilon champion riskFree
  return candidateSharpe - championSharpe

def caught (difference : Except Failure α) : Except Failure (Option α) :=
  match difference with
  | .ok delta => .ok (some delta)
  | .error e => if e.exception = .portfolioDeltaSharpeError then .ok none else .error e

def resampledDeltas (sqrt : α → α) (rng : Random α σ) (annualizationSessions : ℕ)
    (bootstrap : StationaryBootstrapContract α) (candidate champion riskFree : List α) :
    ℕ → σ → Except Failure (List α)
  | 0, _ => .ok []
  | n + 1, state => do
    let (indices, next) ← stationaryIndices rng candidate.length bootstrap.expectedBlockSessions
      state
    let sampledCandidate ← resample candidate indices
    let sampledChampion ← resample champion indices
    let sampledRiskFree ← resample riskFree indices
    let delta ← caught (sharpeDifference sqrt annualizationSessions bootstrap.varianceEpsilon
      sampledCandidate sampledChampion sampledRiskFree)
    let deltas ← resampledDeltas sqrt rng annualizationSessions bootstrap candidate champion
      riskFree n next
    return delta.toList ++ deltas

variable [FloorRing α]

def percentile (sortedValues : List α) (probability : α) : Except Failure α := do
  raiseIf (sortedValues = []) (portfolioDeltaSharpeError "DEGENERATE_BOOTSTRAP_DISTRIBUTION")
  let position := probability * (sortedValues.length - 1)
  if ⌊position⌋ = ⌈position⌉ then
    item sortedValues ⌊position⌋
  else do
    let low ← item sortedValues ⌊position⌋
    let high ← item sortedValues ⌈position⌉
    return low * (1 - Int.fract position) + high * Int.fract position

def PortfolioCostStressResult.check (result : PortfolioCostStressResult α) :
    Except Failure Unit := do
  raiseIf (result.costMultiplier ≤ 0) (.validation "PortfolioCostStressResultV1"
    [⟨"cost_multiplier", "Input should be greater than 0"⟩])
  raiseIf (¬result.deltaSharpeLcb ≤ result.deltaSharpeUcb)
    (.record "PortfolioCostStressResultV1" "delta-Sharpe interval is inverted")

def bootstrapDeltas (sqrt : α → α) (rng : Random α σ) (annualizationSessions : ℕ)
    (bootstrap : StationaryBootstrapContract α) (seed : σ) (candidate champion riskFree : List α) :
    Except Failure (List α) := do
  let deltas ← resampledDeltas sqrt rng annualizationSessions bootstrap candidate champion riskFree
    bootstrap.samples seed
  raiseIf (deltas.length < bootstrap.samples / 2)
    (portfolioDeltaSharpeError "DEGENERATE_BOOTSTRAP_DISTRIBUTION")
  return deltas

def evaluatePairedSeries (sqrt : α → α) (rng : Random α σ) (costMultiplier : α)
    (annualizationSessions : ℕ) (bootstrap : StationaryBootstrapContract α) (seed : σ)
    (candidate champion riskFree : List α) : Except Failure (PortfolioCostStressResult α) := do
  raiseIf (candidate.length ≠ champion.length ∨ candidate.length ≠ riskFree.length ∨
      candidate.length < 2)
    (portfolioDeltaSharpeError "INSUFFICIENT_COMMON_SESSIONS")
  let candidateSharpe ← sampleSharpe sqrt annualizationSessions bootstrap.varianceEpsilon
    candidate riskFree
  let championSharpe ← sampleSharpe sqrt annualizationSessions bootstrap.varianceEpsilon
    champion riskFree
  let deltas ← bootstrapDeltas sqrt rng annualizationSessions bootstrap seed candidate champion
    riskFree
  let lower ← percentile (sortedBy id deltas) bootstrap.lowerQuantile
  let upper ← percentile (sortedBy id deltas) (1 - bootstrap.lowerQuantile)
  let result : PortfolioCostStressResult α :=
    ⟨costMultiplier, candidateSharpe, championSharpe, candidateSharpe - championSharpe, lower,
      upper⟩
  result.check
  return result

end AdaptiveQuant.DeltaSharpe
