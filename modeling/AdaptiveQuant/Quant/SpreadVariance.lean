import AdaptiveQuant.Domain.CanonicalText
import AdaptiveQuant.Quant.ComputeSignal
import AdaptiveQuant.Quant.EwmaVariance

/-! The spread of QQQ and SOXX in `compute_q1_signal`. -/

namespace AdaptiveQuant.Quant

open Guard Sequence

def spreadFailure : Failure := q1MathError "relative-strength spread variance must be positive"

theorem q1MathError_ne {message : String} (h : message.toList.head? ≠ some 'r') :
    q1MathError message ≠ spreadFailure := by
  intro heq
  have hmessage : message = "relative-strength spread variance must be positive" :=
    congrArg Failure.message heq
  exact h (by rw [hmessage]; rfl)

theorem exception_ne {exception} {message : String} {fields} (h : exception ≠ .q1MathError) :
    (⟨exception, message, fields⟩ : Failure) ≠ spreadFailure :=
  fun heq => h (congrArg Failure.exception heq)

variable (env : SignalEnvironment) (c : SignalConfig)

theorem checkBar_avoids (w : PriceWindow) (o : AdjustedCloseObservation) :
    Avoids spreadFailure (w.checkBar o) := by
  unfold PriceWindow.checkBar
  refine .check (by decide) <| .check (by decide) <| Avoids.bind ?_ fun _ =>
    avoids_raiseIf (by decide)
  unfold WrittenDecimal.checkPrice
  split
  · exact avoids_raiseIf (by decide)
  · exact avoids_error (by decide)
  · exact avoids_error (exception_ne (by decide))

theorem distinctCloses_avoids (normalize : String → String)
    (grouped : List AdjustedCloseObservation) (sessionId symbol : String) :
    Avoids spreadFailure (distinctCloses normalize grouped sessionId symbol) := by
  unfold distinctCloses
  refine Avoids.bind (avoids_raiseIf (q1MathError_ne ?_)) fun _ =>
    Avoids.bind (avoids_raiseIf (q1MathError_ne ?_)) fun _ => avoids_ok _ _
  · simp [toString]
  · simp [toString]

theorem checkSession_avoids (normalize : String → String) (w : PriceWindow)
    (grouped : List AdjustedCloseObservation) (previous : Option Instant) (sessionId : String) :
    Avoids spreadFailure (w.checkSession normalize grouped previous sessionId) := by
  unfold PriceWindow.checkSession
  refine Avoids.bind (avoids_mapM fun _ _ => distinctCloses_avoids _ _ _ _) fun closes => ?_
  split
  · exact .check (by decide) (avoids_ok _ _)
  · refine avoids_error (q1MathError_ne ?_)
    simp [toString]

theorem selectPrices_avoids (normalize : String → String) (w : PriceWindow)
    (observations : List AdjustedCloseObservation) :
    Avoids spreadFailure (w.selectPrices normalize observations) := by
  unfold PriceWindow.selectPrices
  refine Avoids.bind (avoids_foldlM fun grouped o _ => ?_) fun grouped =>
    Avoids.bind (avoids_foldlM fun previous sessionId _ => checkSession_avoids _ _ _ _ _) fun _ =>
      avoids_ok _ _
  unfold PriceWindow.group
  split
  · exact (checkBar_avoids w o).bind fun _ => avoids_ok _ _
  · exact avoids_ok _ _

theorem value_avoids (covariance : CovarianceEstimate Decimal) (left right : String) :
    Avoids spreadFailure (covariance.value left right) := by
  unfold CovarianceEstimate.value
  split
  · exact avoids_ok _ _
  · exact avoids_error (by decide)

theorem returnBetween_avoids (earlier later : Decimal) :
    Avoids spreadFailure (returnBetween env c earlier later) :=
  .check (by decide) (avoids_ok _ _)

theorem priceBack_avoids (prices : List Decimal) (horizon : ℕ) :
    Avoids spreadFailure (priceBack prices horizon) := by
  unfold priceBack
  split
  · exact avoids_ok _ _
  · exact avoids_error (exception_ne (by decide))

theorem assetTrend_avoids (symbol : String) (prices : List Decimal)
    (covariance : CovarianceEstimate Decimal) :
    Avoids spreadFailure (assetTrend env c symbol prices covariance) := by
  unfold assetTrend
  refine (value_avoids covariance symbol symbol).bind fun variance =>
    Avoids.bind (avoids_mapM fun horizon _ => ?_) fun scores => ?_
  · exact (priceBack_avoids prices 0).bind fun _ => (priceBack_avoids prices horizon).bind fun _ =>
      (returnBetween_avoids env c _ _).bind fun _ => avoids_ok _ _
  · dsimp only
    split
    · exact avoids_error (exception_ne (by decide))
    · exact avoids_ok _ _

theorem ewmaCovariance_avoids (returns : List (String × List Decimal)) :
    Avoids spreadFailure (ewmaCovariance env.functions returns c.config.val.covariance) := by
  unfold ewmaCovariance validateSymmetricPsd
  refine .check (by decide) <| .check (by decide) <| .check (by decide) <|
    Avoids.bind ?_ fun _ => avoids_ok _ _
  exact .check (by decide) <| .check (by decide) <| .check (by decide) <|
    avoids_raiseIf (by decide)

def SignalConfig.decay : Decimal := c.config.val.covariance.decayOf env.functions

variable {env c}

theorem mem_of_variance {covariance : CovarianceEstimate Decimal} {symbol : String}
    {value : Decimal} (h : covariance.variance symbol = .ok value) :
    symbol ∈ covariance.symbols := by
  by_contra hnot
  rw [CovarianceEstimate.variance, CovarianceEstimate.value,
    List.idxOf?_eq_none_iff.mpr hnot] at h
  cases h

theorem spread_pos (decay : 0 ≤ c.decay env ∧ c.decay env ≤ 1)
    (diagonal : 0 < c.config.val.covariance.diagonalWeight) {returns : List (String × List Decimal)}
    {estimate : CovarianceEstimate Decimal} {qqq soxx shared : Decimal}
    (h : ewmaCovariance env.functions returns c.config.val.covariance = .ok estimate)
    (hqqq : estimate.variance "QQQ" = .ok qqq) (hsoxx : estimate.variance "SOXX" = .ok soxx)
    (hshared : estimate.value "QQQ" "SOXX" = .ok shared) : 0 < qqq + soxx - 2 * shared := by
  obtain ⟨s, xs, t, ys, hsorted, hnonempty, haligned, -, hsymbols⟩ := inputs_of_ewmaCovariance h
  have hmem := mem_of_variance hqqq
  have hmem' := mem_of_variance hsoxx
  simp only [hsymbols, List.mem_cons, List.not_mem_nil, or_false] at hmem hmem'
  have hdistinct : s ≠ t := by
    rintro rfl
    rw [or_self] at hmem hmem'
    exact absurd (hmem.trans hmem'.symm) (by decide)
  obtain ⟨estimate', a, shared', b, hok, -, hsound⟩ := ewmaCovariance_sound
    c.config.covariance_bounded decay.1 decay.2 hsorted hdistinct hnonempty haligned
  obtain rfl := Except.ok.inj (h.symm.trans hok)
  have hpos := hsound.spread diagonal
  simp only [CovarianceEstimate.variance, CovarianceEstimate.value, hsymbols, hsound.matrix]
    at hqqq hsoxx hshared
  rcases hmem with rfl | rfl
  · obtain rfl := hmem'.resolve_left (by decide)
    obtain rfl := Except.ok.inj hqqq
    obtain rfl := Except.ok.inj hsoxx
    obtain rfl := Except.ok.inj hshared
    exact hpos
  · obtain rfl := hmem'.resolve_right (by decide)
    obtain rfl := Except.ok.inj hqqq
    obtain rfl := Except.ok.inj hsoxx
    obtain rfl := Except.ok.inj hshared
    show 0 < b + a - 2 * shared'
    linarith

theorem signalNumbers_avoids (decay : 0 ≤ c.decay env ∧ c.decay env ≤ 1)
    (diagonal : 0 < c.config.val.covariance.diagonalWeight)
    (prices : List (String × List Decimal)) :
    Avoids spreadFailure (signalNumbers env c prices) := by
  have hprices : ∀ symbol, Avoids spreadFailure (pricesOf prices symbol) := fun symbol => by
    unfold pricesOf
    split
    · exact avoids_ok _ _
    · exact avoids_error (exception_ne (by decide))
  have hnext : ∀ trends symbol, Avoids spreadFailure (nextTrend trends symbol) := by
    intro trends symbol
    unfold nextTrend
    split
    · exact avoids_ok _ _
    · exact avoids_error (exception_ne (by decide))
  have hreturn : ∀ trend horizon, Avoids spreadFailure (returnFor trend horizon) := by
    intro trend horizon
    unfold returnFor lookup
    split
    · exact avoids_ok _ _
    · refine avoids_error (q1MathError_ne ?_)
      simp [toString]
  unfold signalNumbers
  refine Avoids.bind (avoids_mapM fun item _ => ?_) fun returns =>
    (ewmaCovariance_avoids env c returns).bind_ok fun estimate hestimate =>
      Avoids.bind (avoids_mapM fun symbol _ => ?_) fun trends => ?_
  · exact Avoids.bind (avoids_mapM fun _ _ => returnBetween_avoids env c _ _) fun _ => avoids_ok _ _
  · exact (hprices symbol).bind fun _ => assetTrend_avoids env c _ _ _
  · refine (hnext _ _).bind fun _ => (hnext _ _).bind fun _ => (hreturn _ _).bind fun _ =>
      (hreturn _ _).bind fun _ => (value_avoids _ _ _).bind_ok fun qqq hqqq =>
        (value_avoids _ _ _).bind_ok fun soxx hsoxx =>
          (value_avoids _ _ _).bind_ok fun shared hshared => ?_
    have hpos := spread_pos decay diagonal hestimate hqqq hsoxx hshared
    dsimp only
    rw [raiseIf_neg _ (not_le.mpr hpos)]
    exact avoids_ok _ _

/-- Every estimate from two series of one length is positive semidefinite with floored variances, no
portfolio has a negative variance in it, and the check of the spread never fails. -/
theorem covariance_estimates_sound (env : SignalEnvironment) (c : SignalConfig)
    (decay : 0 < c.decay env ∧ c.decay env < 1) :
    (∀ (alignedReturns : List (String × List Decimal)) (s t : String) (xs ys : List Decimal),
      sortedBy (·.1) alignedReturns = [(s, xs), (t, ys)] → s ≠ t → xs ≠ [] →
      xs.length = ys.length → ∃ estimate a shared b,
        ewmaCovariance env.functions alignedReturns c.config.val.covariance = .ok estimate ∧
        estimate.symbols = [s, t] ∧ estimate.Sound c.config.val.covariance a shared b) ∧
    (0 < c.config.val.covariance.diagonalWeight → ∀ request observations,
      computeQ1Signal env c request observations ≠ .error spreadFailure) := by
  refine ⟨fun _ s t xs ys sorted distinct nonempty aligned => ewmaCovariance_sound
    c.config.covariance_bounded decay.1.le decay.2.le sorted distinct nonempty aligned, ?_⟩
  intro diagonal request observations
  have hcheck : Avoids spreadFailure (request.check c) := by
    unfold SignalRequest.check
    exact .check (by decide) <| .check (by decide) <| .check (by decide) <| .check (by decide) <|
      .check (by decide) <| avoids_raiseIf (by decide)
  have hsignal : Avoids spreadFailure (computeQ1Signal env c request observations) :=
    hcheck.bind fun _ => (selectPrices_avoids _ _ _).bind fun _ =>
      (signalNumbers_avoids ⟨decay.1.le, decay.2.le⟩ diagonal _).bind fun _ => avoids_ok _ _
  exact hsignal

def halvingConfig : SignalConfig where
  config := shippedQ1Config
  returnQuantum := ⟨1, -18⟩
  written := shippedQ1Config_written

def halvingEnvironment : SignalEnvironment where
  normalize := id
  functions := halvingFunctions
  hash := .short

theorem halving_estimates_sound :
    (∃ estimate a shared b, ewmaCovariance halvingFunctions sampleReturns
        shippedQ1Config.val.covariance = .ok estimate ∧ estimate.symbols = ["QQQ", "SOXX"] ∧
        estimate.Sound shippedQ1Config.val.covariance a shared b) ∧
    ∀ request observations,
      computeQ1Signal halvingEnvironment halvingConfig request observations ≠
        .error spreadFailure := by
  obtain ⟨hestimates, hspread⟩ := covariance_estimates_sound halvingEnvironment halvingConfig
    (show 0 < shippedQ1Config.val.covariance.decayOf halvingFunctions ∧
      shippedQ1Config.val.covariance.decayOf halvingFunctions < 1 by
        rw [halvingFunctions_decay]
        norm_num)
  exact ⟨hestimates _ _ _ _ _ sampleReturns_sorted (by decide) (by simp) rfl,
    hspread (by decide +kernel)⟩

end AdaptiveQuant.Quant
