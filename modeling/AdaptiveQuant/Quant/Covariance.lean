import AdaptiveQuant.Lib.Dict
import AdaptiveQuant.Lib.PairVariance
import AdaptiveQuant.Quant.Config
import Mathlib.Data.List.Dedup
import Mathlib.Data.String.Basic

/-! `quant/covariance.py`. `Decimal.ln` and `Decimal.exp` are parameters, and all other arithmetic
is exact. -/

namespace AdaptiveQuant.Quant

open Guard PairVariance

def q1MathError (message : String) : Failure := ⟨.q1MathError, message, []⟩

/-- `CovarianceEstimate`. -/
structure CovarianceEstimate (K : Type) where
  symbols : List String
  matrix : List (List K)
  ewmaUnannualized : List (List K)
  decayLambda : K
  returnObservations : ℕ

section Estimate

variable {K : Type} [Field K]

def CovarianceEstimate.value (covariance : CovarianceEstimate K) (left right : String) :
    Except Failure K :=
  match covariance.symbols.idxOf? left, covariance.symbols.idxOf? right with
  | some i, some j => .ok ((covariance.matrix.getD i []).getD j 0)
  | _, _ => .error (q1MathError "symbol is absent from covariance estimate")

def CovarianceEstimate.variance (covariance : CovarianceEstimate K) (symbol : String) :
    Except Failure K :=
  covariance.value symbol symbol

def portfolioVariance [LinearOrder K] (weights : Dict String K)
    (covariance : CovarianceEstimate K) : Except Failure K := do
  let variance ← covariance.symbols.foldlM (fun total left =>
    covariance.symbols.foldlM (fun total right => do
      let value ← covariance.value left right
      return total + weights.getD left 0 * weights.getD right 0 * value) total) 0
  raiseIf (variance < 0) (q1MathError "portfolio variance is negative")
  return variance

/-- The functions of `Decimal` that round in the context. -/
structure DecimalFunctions (K : Type) where
  ln : K → K
  exp : K → K
  sqrt : K → K

def entryAt (matrix : List (List K)) (i j : ℕ) : K := (matrix.getD i []).getD j 0

def squareMatrix (dimension : ℕ) (entry : ℕ → ℕ → K) : List (List K) :=
  (List.range dimension).map fun i => (List.range dimension).map (entry i)

def ewmaStep (decayLambda : K) (rows : List (List K)) (ewma : List (List K)) (observation : ℕ) :
    List (List K) :=
  squareMatrix rows.length fun i j =>
    decayLambda * entryAt ewma (min i j) (max i j) +
      (1 - decayLambda) * entryAt rows (min i j) observation * entryAt rows (max i j) observation

def validateSymmetricPsd [LinearOrder K] (matrix : List (List K)) (tolerance : K) :
    Except Failure Unit := do
  raiseIf (matrix.length ≠ 2 ∨ ∃ row ∈ matrix, row.length ≠ 2)
    (q1MathError "q1_math_core_v1 covariance must be 2x2")
  raiseIf (tolerance < |entryAt matrix 0 1 - entryAt matrix 1 0|)
    (q1MathError "covariance matrix is not symmetric")
  raiseIf (entryAt matrix 0 0 < -tolerance ∨ entryAt matrix 1 1 < -tolerance)
    (q1MathError "covariance diagonal is negative")
  raiseIf (entryAt matrix 0 0 * entryAt matrix 1 1 - entryAt matrix 0 1 * entryAt matrix 1 0 <
      -tolerance)
    (q1MathError "covariance matrix is not positive semidefinite")

def ewmaCovariance [LinearOrder K] (functions : DecimalFunctions K)
    (alignedReturns : List (String × List K)) (p : CovarianceParameters K) :
    Except Failure (CovarianceEstimate K) := do
  let items := Sequence.sortedBy (·.1) alignedReturns
  let symbols := items.map (·.1)
  let rows := items.map (·.2)
  raiseIf (symbols.length ≠ 2)
    (q1MathError "q1_math_core_v1 requires exactly two aligned return series")
  let lengths := (rows.map List.length).dedup
  raiseIf (lengths.length ≠ 1 ∨ 0 ∈ lengths)
    (q1MathError "covariance returns must be non-empty and aligned")
  raiseIf (p.initialization ≠ "ZERO") (q1MathError "unsupported covariance initialization")
  let observationCount := (rows.headD []).length
  let decayLambda := functions.exp (functions.ln p.lambdaBase / p.halfLifeSessions)
  let ewma := (List.range observationCount).foldl (ewmaStep decayLambda rows)
    (squareMatrix symbols.length fun _ _ => 0)
  let shrunk := squareMatrix symbols.length fun i j =>
    let annualized := entryAt ewma i j * p.annualizationSessions
    let value := p.fullWeight * annualized + if i = j then p.diagonalWeight * annualized else 0
    if i = j then max value p.varianceEpsilon else value
  validateSymmetricPsd shrunk p.psdTolerance
  return {
    symbols
    matrix := shrunk
    ewmaUnannualized := ewma
    decayLambda
    returnObservations := observationCount }

/-- An estimate for QQQ and SOXX: symmetric, with positive variances `a` and `b` and a covariance
`c` that makes it positive semidefinite. -/
structure CovarianceEstimate.IsPositiveSemidefinite [LinearOrder K]
    (covariance : CovarianceEstimate K) (a c b : K) : Prop where
  symbols : covariance.symbols = ["QQQ", "SOXX"]
  matrix : covariance.matrix = [[a, c], [c, b]]
  qqq : 0 < a
  soxx : 0 < b
  determinant : c * c ≤ a * b

variable {covariance : CovarianceEstimate K} {a c b : K}

section Values

variable [LinearOrder K]

theorem CovarianceEstimate.IsPositiveSemidefinite.value_eq
    (h : covariance.IsPositiveSemidefinite a c b) :
    covariance.value "QQQ" "QQQ" = .ok a ∧ covariance.value "QQQ" "SOXX" = .ok c ∧
      covariance.value "SOXX" "QQQ" = .ok c ∧ covariance.value "SOXX" "SOXX" = .ok b := by
  have hqqq : covariance.symbols.idxOf? "QQQ" = some 0 := by
    rw [h.symbols]
    rfl
  have hsoxx : covariance.symbols.idxOf? "SOXX" = some 1 := by
    rw [h.symbols]
    rfl
  simp [CovarianceEstimate.value, hqqq, hsoxx, h.matrix]

theorem portfolioVariance_eq [IsStrictOrderedRing K] (h : covariance.IsPositiveSemidefinite a c b)
    {weights : Dict String K} {qqqWeight soxxWeight : K}
    (hqqq : weights.getD "QQQ" 0 = qqqWeight) (hsoxx : weights.getD "SOXX" 0 = soxxWeight) :
    portfolioVariance weights covariance = .ok (variance a c b qqqWeight soxxWeight) := by
  obtain ⟨h11, h12, h21, h22⟩ := h.value_eq
  have hnonneg := variance_nonneg h.qqq h.determinant qqqWeight soxxWeight
  have hsum : 0 + qqqWeight * qqqWeight * a + qqqWeight * soxxWeight * c +
      soxxWeight * qqqWeight * c + soxxWeight * soxxWeight * b =
      variance a c b qqqWeight soxxWeight := by
    unfold variance
    ring
  simp only [portfolioVariance, h.symbols, List.foldlM_cons, List.foldlM_nil, h11, h12, h21, h22,
    ok_bind, pure_bind, hqqq, hsoxx, hsum, raiseIf_neg _ (not_lt.mpr hnonneg)]
  rfl

end Values

end Estimate

end AdaptiveQuant.Quant
