import AdaptiveQuant.Quant.Covariance

/-! The estimates of `quant/covariance.py`. -/

namespace AdaptiveQuant.Quant

open Guard PairVariance Sequence List

section Recurrence

variable {K : Type} [Field K]

/-- The recurrence of `ewma_annualized_variance`. -/
def ewmaOf (decayLambda : K) (returns : List K) : K :=
  returns.foldl (fun ewma value => decayLambda * ewma + (1 - decayLambda) * value * value) 0

theorem ewmaOf_concat (decayLambda : K) (returns : List K) (value : K) :
    ewmaOf decayLambda (returns ++ [value]) =
      decayLambda * ewmaOf decayLambda returns + (1 - decayLambda) * value * value := by
  rw [ewmaOf, foldl_concat, ← ewmaOf]

def CovarianceParameters.decayOf (p : CovarianceParameters K) (functions : DecimalFunctions K) :
    K :=
  functions.exp (functions.ln p.lambdaBase / p.halfLifeSessions)

def ewmaAnnualizedVariance [LinearOrder K] (functions : DecimalFunctions K)
    (completedReturns : List K) (p : CovarianceParameters K) : Except Failure K := do
  raiseIf (completedReturns = []) (q1MathError "variance returns must be non-empty")
  raiseIf (p.initialization ≠ "ZERO") (q1MathError "unsupported covariance initialization")
  let annualized := ewmaOf (p.decayOf functions) completedReturns * p.annualizationSessions
  let shrunk := p.fullWeight * annualized + p.diagonalWeight * annualized
  return max shrunk p.varianceEpsilon

theorem ewmaStep_pair (decayLambda : K) (xs ys : List K) (a c b : K) (observation : ℕ) :
    ewmaStep decayLambda [xs, ys] [[a, c], [c, b]] observation =
      let x := xs.getD observation 0
      let y := ys.getD observation 0
      [[decayLambda * a + (1 - decayLambda) * x * x, decayLambda * c + (1 - decayLambda) * x * y],
        [decayLambda * c + (1 - decayLambda) * x * y,
          decayLambda * b + (1 - decayLambda) * y * y]] := by
  simp [ewmaStep, squareMatrix, entryAt, range_succ]

theorem ewma_run [LinearOrder K] [IsStrictOrderedRing K] (decayLambda : K) (xs ys : List K) {n : ℕ}
    (hx : n ≤ xs.length) (hy : n ≤ ys.length) :
    ∃ c, (List.range n).foldl (ewmaStep decayLambda [xs, ys]) (squareMatrix 2 fun _ _ => 0) =
        [[ewmaOf decayLambda (xs.take n), c], [c, ewmaOf decayLambda (ys.take n)]] ∧
      (0 ≤ decayLambda → decayLambda ≤ 1 →
        IsMoments (ewmaOf decayLambda (xs.take n)) c (ewmaOf decayLambda (ys.take n))) := by
  induction n with
  | zero => exact ⟨0, rfl, fun _ _ => ⟨le_rfl, le_rfl, le_rfl⟩⟩
  | succ n ih =>
    obtain ⟨c, hmatrix, hmoments⟩ := ih (by omega) (by omega)
    have hnext : ∀ zs : List K, n + 1 ≤ zs.length →
        zs.take (n + 1) = zs.take n ++ [zs.getD n 0] := fun zs hz => by
      have hn : n < zs.length := by omega
      rw [take_add_one, List.getD, List.getElem?_eq_getElem hn]
      rfl
    rw [range_succ, foldl_concat, hmatrix, ewmaStep_pair, hnext xs hx, hnext ys hy,
      ewmaOf_concat, ewmaOf_concat]
    exact ⟨_, rfl, fun h0 h1 => (hmoments h0 h1).observe h0 (sub_nonneg.mpr h1) _ _⟩

variable {functions : DecimalFunctions K} {p : CovarianceParameters K}
  {alignedReturns : List (String × List K)}

theorem ewmaCovariance_cases [LinearOrder K] [IsStrictOrderedRing K] {s t : String} {xs ys : List K}
    (sorted : sortedBy (·.1) alignedReturns = [(s, xs), (t, ys)]) (nonempty : xs ≠ [])
    (aligned : xs.length = ys.length) (zero : p.initialization = "ZERO") :
    ∃ c, (0 ≤ p.decayOf functions → p.decayOf functions ≤ 1 →
        IsMoments (ewmaOf (p.decayOf functions) xs) c (ewmaOf (p.decayOf functions) ys)) ∧
      ewmaCovariance functions alignedReturns p = do
        let x := ewmaOf (p.decayOf functions) xs * p.annualizationSessions
        let y := ewmaOf (p.decayOf functions) ys * p.annualizationSessions
        let shared := p.fullWeight * (c * p.annualizationSessions)
        let shrunk := [[max (p.fullWeight * x + p.diagonalWeight * x) p.varianceEpsilon, shared],
          [shared, max (p.fullWeight * y + p.diagonalWeight * y) p.varianceEpsilon]]
        validateSymmetricPsd shrunk p.psdTolerance
        return {
          symbols := [s, t]
          matrix := shrunk
          ewmaUnannualized := [[ewmaOf (p.decayOf functions) xs, c],
            [c, ewmaOf (p.decayOf functions) ys]]
          decayLambda := p.decayOf functions
          returnObservations := xs.length } := by
  obtain ⟨c, hmatrix, hmoments⟩ := ewma_run (p.decayOf functions) xs ys le_rfl aligned.le
  rw [take_length, take_of_length_le aligned.ge] at hmatrix hmoments
  refine ⟨c, hmoments, ?_⟩
  have hlength : xs.length ≠ 0 := fun h => nonempty (length_eq_zero_iff.mp h)
  have hshape : ¬([xs.length, ys.length].dedup.length ≠ 1 ∨ 0 ∈ [xs.length, ys.length].dedup) := by
    rw [← aligned]
    simp [dedup_cons_of_mem, hlength.symm]
  simp only [ewmaCovariance, sorted, map_cons, map_nil, zero]
  rw [raiseIf_neg _ (by simp), raiseIf_neg _ hshape, raiseIf_neg _ (by simp)]
  unfold CovarianceParameters.decayOf at hmatrix ⊢
  simp only [ok_bind, length_cons, length_nil, headD_cons, zero_add,
    Nat.reduceAdd, hmatrix]
  simp [squareMatrix, entryAt, range_succ]

theorem inputs_of_ewmaCovariance [LinearOrder K] {estimate}
    (h : ewmaCovariance functions alignedReturns p = .ok estimate) :
    ∃ s xs t ys, sortedBy (·.1) alignedReturns = [(s, xs), (t, ys)] ∧ xs ≠ [] ∧
      xs.length = ys.length ∧ p.initialization = "ZERO" ∧ estimate.symbols = [s, t] := by
  simp only [ewmaCovariance, ok_iff, not_or, not_not] at h
  obtain ⟨hpair, ⟨hone, hpos⟩, hzero, -, -, rfl⟩ := h
  rw [length_map, length_eq_two] at hpair
  obtain ⟨⟨s, xs⟩, ⟨t, ys⟩, hsorted⟩ := hpair
  simp only [hsorted, map_cons, map_nil] at hone hpos
  have haligned : xs.length = ys.length := by
    by_contra hne
    simp [dedup_cons_of_notMem, hne] at hone
  refine ⟨s, xs, t, ys, hsorted, ?_, haligned, hzero, by simp [hsorted]⟩
  rintro rfl
  exact hpos (by simp)

end Recurrence

section Estimate

variable {K : Type} [Field K] [LinearOrder K]

/-- The bounds that the covariance estimate relies on. -/
structure CovarianceParameters.Bounded (p : CovarianceParameters K) : Prop where
  annualization : p.annualizationSessions ≠ 0
  full : 0 ≤ p.fullWeight
  diagonal : 0 ≤ p.diagonalWeight
  epsilon : 0 < p.varianceEpsilon
  tolerance : 0 ≤ p.psdTolerance
  sum : p.fullWeight + p.diagonalWeight = 1
  zero : p.initialization = "ZERO"

theorem CovarianceParameters.bounded_of_check {p : CovarianceParameters K}
    (h : p.check = .ok ()) : p.Bounded := by
  simp only [CovarianceParameters.check, positiveInt, positiveDecimal, nonNegativeDecimal,
    unitIntervalDecimal, strictUnitDecimal, ok_iff, not_le, not_or, not_lt, not_not] at h
  obtain ⟨-, -, hannualization, hfull, hdiagonal, hepsilon, htolerance, -, hsum, hzero⟩ := h
  exact ⟨hannualization, hfull.1, hdiagonal.1, hepsilon, htolerance, hsum, hzero⟩

theorem Q1MathConfig.covariance_bounded (config : Q1MathConfig K) :
    config.val.covariance.Bounded := by
  have h := config.valid
  simp only [Q1MathDocument.check, bind_eq_ok] at h
  obtain ⟨_, -, _, -, _, hcovariance, -⟩ := h
  exact CovarianceParameters.bounded_of_check hcovariance

variable [IsStrictOrderedRing K] {p : CovarianceParameters K} {functions : DecimalFunctions K}

theorem portfolioVariance_pair {estimate} {s t : String} {a c b : K}
    (symbols : estimate.symbols = [s, t]) (distinct : s ≠ t)
    (matrix : estimate.matrix = [[a, c], [c, b]]) (moments : IsMoments a c b)
    (weights : Dict String K) : portfolioVariance weights estimate =
      .ok (variance a c b (weights.getD s 0) (weights.getD t 0)) := by
  have hvalues : estimate.value s s = .ok a ∧ estimate.value s t = .ok c ∧
      estimate.value t s = .ok c ∧ estimate.value t t = .ok b := by
    simp [CovarianceEstimate.value, symbols, matrix, List.idxOf?_cons, distinct]
  obtain ⟨hss, hst, hts, htt⟩ := hvalues
  have hnonneg := moments.variance_nonneg (weights.getD s 0) (weights.getD t 0)
  have hsum : ∀ x y : K,
      0 + x * x * a + x * y * c + y * x * c + y * y * b = variance a c b x y := by
    intro x y
    unfold variance
    ring
  simp only [portfolioVariance, symbols, foldlM_cons, foldlM_nil, hss, hst, hts, htt,
    ok_bind, pure_bind, hsum, raiseIf_neg _ (not_lt.mpr hnonneg)]
  rfl

/-- The estimate is a covariance matrix, and every portfolio has a variance under it. -/
structure CovarianceEstimate.Sound (estimate : CovarianceEstimate K) (p : CovarianceParameters K)
    (a c b : K) : Prop where
  matrix : estimate.matrix = [[a, c], [c, b]]
  first : p.varianceEpsilon ≤ a
  second : p.varianceEpsilon ≤ b
  determinant : c * c ≤ a * b
  variance_nonneg : ∀ weights : Dict String K,
    ∃ value, portfolioVariance weights estimate = .ok value ∧ 0 ≤ value
  spread : 0 < p.diagonalWeight → 0 < a + b - 2 * c

theorem validateSymmetricPsd_ok {a c b tolerance : K} (h : IsMoments a c b)
    (htolerance : 0 ≤ tolerance) : validateSymmetricPsd [[a, c], [c, b]] tolerance = .ok () := by
  have hsymmetric : ¬tolerance < |entryAt [[a, c], [c, b]] 0 1 - entryAt [[a, c], [c, b]] 1 0| := by
    simpa [entryAt] using htolerance
  have hdiagonal : ¬(entryAt [[a, c], [c, b]] 0 0 < -tolerance ∨
      entryAt [[a, c], [c, b]] 1 1 < -tolerance) := by
    rintro (hneg | hneg)
    · linarith [h.first, show a < -tolerance from hneg]
    · linarith [h.second, show b < -tolerance from hneg]
  have hdeterminant : ¬entryAt [[a, c], [c, b]] 0 0 * entryAt [[a, c], [c, b]] 1 1 -
      entryAt [[a, c], [c, b]] 0 1 * entryAt [[a, c], [c, b]] 1 0 < -tolerance := by
    intro hneg
    linarith [h.mixed, show a * b - c * c < -tolerance from hneg]
  rw [validateSymmetricPsd, raiseIf_neg _ (by simp), raiseIf_neg _ hsymmetric,
    raiseIf_neg _ hdiagonal, raiseIf_neg _ hdeterminant]
  rfl

theorem shrunk_lt (hp : p.Bounded) (diagonal : 0 < p.diagonalWeight) {x : K} (hx : 0 ≤ x) :
    p.fullWeight * x < max (p.fullWeight * x + p.diagonalWeight * x) p.varianceEpsilon := by
  rcases hx.eq_or_lt with rfl | hpos
  · rw [mul_zero]
    exact lt_max_of_lt_right hp.epsilon
  · exact lt_max_of_lt_left (lt_add_of_pos_right _ (mul_pos diagonal hpos))

theorem ewmaCovariance_sound (hp : p.Bounded) (decay : 0 ≤ p.decayOf functions)
    (below : p.decayOf functions ≤ 1) {alignedReturns} {s t : String} {xs ys : List K}
    (sorted : sortedBy (·.1) alignedReturns = [(s, xs), (t, ys)]) (distinct : s ≠ t)
    (nonempty : xs ≠ []) (aligned : xs.length = ys.length) :
    ∃ estimate a c b, ewmaCovariance functions alignedReturns p = .ok estimate ∧
      estimate.symbols = [s, t] ∧ estimate.Sound p a c b := by
  obtain ⟨c, hmoments, heq⟩ :=
    @ewmaCovariance_cases K _ functions p _ _ _ _ _ _ _ sorted nonempty aligned hp.zero
  have hewma := hmoments decay below
  have hyearly : (0 : K) ≤ p.annualizationSessions := Nat.cast_nonneg _
  set x := ewmaOf (p.decayOf functions) xs * p.annualizationSessions with hx
  set y := ewmaOf (p.decayOf functions) ys * p.annualizationSessions with hy
  have hannual : IsMoments x (c * p.annualizationSessions) y := by
    rw [mul_comm] at hx hy
    have hscaled := hewma.shrink hyearly hx.ge hy.ge
    rwa [mul_comm c]
  have hlarger : ∀ z, 0 ≤ z → p.fullWeight * z ≤
      max (p.fullWeight * z + p.diagonalWeight * z) p.varianceEpsilon := fun z hz =>
    le_max_of_le_left (le_add_of_nonneg_right (mul_nonneg hp.diagonal hz))
  have hshrunk := hannual.shrink hp.full (hlarger x hannual.first) (hlarger y hannual.second)
  have hvalid := validateSymmetricPsd_ok hshrunk hp.tolerance
  simp only [hvalid, ok_bind] at heq
  refine ⟨_, _, _, _, heq, rfl, rfl, le_max_right _ _, le_max_right _ _, hshrunk.mixed,
    fun weights => ?_, fun diagonal => ?_⟩
  · exact ⟨_, portfolioVariance_pair rfl distinct rfl hshrunk weights,
      hshrunk.variance_nonneg _ _⟩
  · have hfirst := shrunk_lt hp diagonal hannual.first
    have hsecond := shrunk_lt hp diagonal hannual.second
    have htwo := mul_le_mul_of_nonneg_left hannual.two_mul_le hp.full
    linarith

end Estimate

def halvingFunctions : DecimalFunctions Decimal where
  ln _ := 0
  exp _ := 1 / 2
  sqrt x := x

def sampleReturns : List (String × List Decimal) :=
  [("SOXX", [1 / 50, -1 / 100]), ("QQQ", [1 / 100, 1 / 200])]

theorem sampleReturns_sorted : sortedBy (·.1) sampleReturns =
    [("QQQ", [1 / 100, 1 / 200]), ("SOXX", [1 / 50, -1 / 100])] := by decide +kernel

theorem halvingFunctions_decay :
    shippedQ1Config.val.covariance.decayOf halvingFunctions = 1 / 2 := rfl

end AdaptiveQuant.Quant
