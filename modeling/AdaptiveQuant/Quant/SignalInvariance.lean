import AdaptiveQuant.Quant.ComputeSignal
import AdaptiveQuant.Domain.CanonicalText

/-! What a signal does not depend on. -/

namespace AdaptiveQuant.Quant

open Guard List

section Unit

variable {env : SignalEnvironment} {c : SignalConfig} {factor : Decimal}

theorem returnBetween_mul (nonzero : factor ≠ 0) (earlier later : Decimal) :
    returnBetween env c (factor * earlier) (factor * later) =
      returnBetween env c earlier later := by
  rw [returnBetween, mul_div_mul_left _ _ nonzero, returnBetween]

theorem dailyReturns_mul (nonzero : factor ≠ 0) (prices : List Decimal) :
    dailyReturns env c (prices.map (factor * ·)) = dailyReturns env c prices := by
  simp only [dailyReturns, ← map_tail, zip_map, mapM_map, Function.comp_def,
    Prod.map_fst, Prod.map_snd, returnBetween_mul nonzero]

theorem priceBack_mul (prices : List Decimal) (horizon : ℕ) :
    priceBack (prices.map (factor * ·)) horizon = (factor * ·) <$> priceBack prices horizon := by
  simp only [priceBack, ← map_reverse, List.getElem?_map]
  cases prices.reverse[horizon]? with
  | none => rfl
  | some price => rfl

theorem horizonScore_mul (nonzero : factor ≠ 0) (prices : List Decimal) (variance : Decimal)
    (horizon : ℕ) :
    horizonScore env c (prices.map (factor * ·)) variance horizon =
      horizonScore env c prices variance horizon := by
  simp only [horizonScore, priceBack_mul, bind_map_left, returnBetween_mul nonzero]

theorem assetTrend_mul (nonzero : factor ≠ 0) (symbol : String) (prices : List Decimal)
    (covariance : CovarianceEstimate Decimal) :
    assetTrend env c symbol (prices.map (factor * ·)) covariance =
      assetTrend env c symbol prices covariance := by
  have hscore : ∀ variance, horizonScore env c (prices.map (factor * ·)) variance =
      horizonScore env c prices variance :=
    fun variance => funext fun horizon => horizonScore_mul nonzero prices variance horizon
  simp only [assetTrend, hscore]

def inUnits (factors : String → Decimal) (prices : List (String × List Decimal)) :
    List (String × List Decimal) :=
  prices.map fun item => (item.1, item.2.map (factors item.1 * ·))

theorem pricesOf_inUnits (factors : String → Decimal) (prices : List (String × List Decimal))
    (symbol : String) :
    pricesOf (inUnits factors prices) symbol =
      List.map (factors symbol * ·) <$> pricesOf prices symbol := by
  have hfind : (inUnits factors prices).find? (·.1 = symbol) =
      (prices.find? (·.1 = symbol)).map fun item => (item.1, item.2.map (factors item.1 * ·)) := by
    rw [inUnits, List.find?_map]
    rfl
  simp only [pricesOf, hfind]
  cases hitem : prices.find? (·.1 = symbol) with
  | none => rfl
  | some item =>
    have hsymbol : item.1 = symbol := of_decide_eq_true (List.find?_some hitem :)
    rw [← hsymbol]
    rfl

theorem signalNumbers_inUnits {factors} (nonzero : ∀ symbol, factors symbol ≠ 0)
    (prices : List (String × List Decimal)) :
    signalNumbers env c (inUnits factors prices) = signalNumbers env c prices := by
  have hreturns : (inUnits factors prices).mapM (fun item => do
      let daily ← dailyReturns env c item.2
      return (item.1, daily)) = prices.mapM fun item => do
      let daily ← dailyReturns env c item.2
      return (item.1, daily) := by
    simp only [inUnits, mapM_map, Function.comp_def, dailyReturns_mul (nonzero _)]
  simp only [signalNumbers, hreturns, pricesOf_inUnits, bind_map_left, assetTrend_mul (nonzero _)]

end Unit

def Q1Signal.unhashed (signal : Q1Signal Decimal) : Q1Signal Decimal :=
  { signal with signalHash := "" }

def AllocationResult.unhashed (result : AllocationResult Decimal) : AllocationResult Decimal :=
  { result with allocationHash := "" }

def allocateObserved (env : SignalEnvironment) (c : SignalConfig)
    (canonicalHash : AllocationPayload Decimal → String) (request : SignalRequest)
    (observations : List AdjustedCloseObservation) : Except Failure (AllocationResult Decimal) := do
  let signal ← computeQ1Signal env c request observations
  allocateQ1 env.functions.sqrt canonicalHash signal c.config

/-- What a signal should not depend on. -/
structure Insensitive (env : SignalEnvironment) (c : SignalConfig) (request : SignalRequest)
    (observations : List AdjustedCloseObservation) : Prop where
  order : ∀ others : List AdjustedCloseObservation, others.Perm observations →
    (computeQ1Signal env c request others).toOption =
      (computeQ1Signal env c request observations).toOption
  late : ∀ others : List AdjustedCloseObservation,
    others.filter (·.availableAt ≤ request.signalDataCutoff) =
        observations.filter (·.availableAt ≤ request.signalDataCutoff) →
      computeQ1Signal env c request others = computeQ1Signal env c request observations
  outside : ∀ others : List AdjustedCloseObservation,
    let inside := fun o : AdjustedCloseObservation =>
      decide (env.normalize o.symbol ∈ c.config.val.riskySymbols ∧
        o.sessionId ∈ request.completedSessionIds)
    others.filter inside = observations.filter inside →
      computeQ1Signal env c request others = computeQ1Signal env c request observations
  unit : ∀ symbol coefficient exponent, 0 < coefficient →
    let others := observations.map (·.rescale env.normalize symbol coefficient exponent)
    (computeQ1Signal env c request others).map Q1Signal.unhashed =
        (computeQ1Signal env c request observations).map Q1Signal.unhashed ∧
      ∀ canonicalHash, (allocateObserved env c canonicalHash request others).map
          AllocationResult.unhashed =
        (allocateObserved env c canonicalHash request observations).map AllocationResult.unhashed

section Kept

variable {env : SignalEnvironment} {c : SignalConfig} {request : SignalRequest}
  {observations others : List AdjustedCloseObservation}

theorem computeQ1Signal_eq_of_filter
    (same : others.filter ((request.window c).Reads env.normalize) =
      observations.filter ((request.window c).Reads env.normalize)) :
    computeQ1Signal env c request others = computeQ1Signal env c request observations := by
  simp only [computeQ1Signal, PriceWindow.select_eq_of_filter same]

theorem computeQ1Signal_late (same : others.filter (·.availableAt ≤ request.signalDataCutoff) =
      observations.filter (·.availableAt ≤ request.signalDataCutoff)) :
    computeQ1Signal env c request others = computeQ1Signal env c request observations := by
  apply computeQ1Signal_eq_of_filter
  have hsplit : ∀ list : List AdjustedCloseObservation,
      list.filter ((request.window c).Reads env.normalize) =
        (list.filter (·.availableAt ≤ request.signalDataCutoff)).filter fun o =>
          env.normalize o.symbol ∈ c.config.val.riskySymbols ∧
            o.sessionId ∈ request.completedSessionIds := by
    intro list
    rw [filter_filter]
    refine filter_congr fun o _ => ?_
    rw [Bool.eq_iff_iff, Bool.and_eq_true, decide_eq_true_iff, decide_eq_true_iff,
      decide_eq_true_iff]
    exact Iff.rfl
  rw [hsplit, hsplit, same]

theorem computeQ1Signal_outside
    (same : others.filter (fun o => env.normalize o.symbol ∈ c.config.val.riskySymbols ∧
        o.sessionId ∈ request.completedSessionIds) =
      observations.filter fun o => env.normalize o.symbol ∈ c.config.val.riskySymbols ∧
        o.sessionId ∈ request.completedSessionIds) :
    computeQ1Signal env c request others = computeQ1Signal env c request observations := by
  apply computeQ1Signal_eq_of_filter
  have hsplit : ∀ list : List AdjustedCloseObservation,
      list.filter ((request.window c).Reads env.normalize) =
        (list.filter fun o => env.normalize o.symbol ∈ c.config.val.riskySymbols ∧
          o.sessionId ∈ request.completedSessionIds).filter
            (·.availableAt ≤ request.signalDataCutoff) := by
    intro list
    rw [filter_filter]
    refine filter_congr fun o _ => ?_
    rw [Bool.eq_iff_iff, Bool.and_eq_true, decide_eq_true_iff, decide_eq_true_iff,
      decide_eq_true_iff]
    exact and_comm
  rw [hsplit, hsplit, same]

variable {coefficient : ℤ}

theorem signalOf_rescale (positive : 0 < coefficient) (unit : String)
    (exponent : ℤ) (selected : SelectedPrices) :
    (signalOf env c request (selected.rescale unit coefficient exponent)).map Q1Signal.unhashed =
      (signalOf env c request selected).map Q1Signal.unhashed := by
  have hvalues : signalNumbers env c (selected.rescale unit coefficient exponent).values =
      signalNumbers env c selected.values := by
    rw [SelectedPrices.values_rescale]
    exact signalNumbers_inUnits (fun symbol => unitFactor_ne_zero positive symbol) selected.values
  simp only [signalOf, hvalues]
  cases signalNumbers env c selected.values with
  | error e => rfl
  | ok n => rfl

theorem computeQ1Signal_rescale (positive : 0 < coefficient) (unit : String) (exponent : ℤ) :
    (computeQ1Signal env c request
        (observations.map (·.rescale env.normalize unit coefficient exponent))).map
        Q1Signal.unhashed =
      (computeQ1Signal env c request observations).map Q1Signal.unhashed := by
  simp only [computeQ1Signal, PriceWindow.select_rescale positive]
  cases request.check c with
  | error e => rfl
  | ok _ =>
    cases (request.window c).selectPrices env.normalize observations with
    | error e => rfl
    | ok selected => exact signalOf_rescale positive unit exponent selected

theorem allocateQ1_unhashed (canonicalHash : AllocationPayload Decimal → String) {signal signal'}
    (same : signal.unhashed = signal'.unhashed) :
    (allocateQ1 env.functions.sqrt canonicalHash signal c.config).map AllocationResult.unhashed =
      (allocateQ1 env.functions.sqrt canonicalHash signal' c.config).map
        AllocationResult.unhashed := by
  have hrestore : signal' = { signal with signalHash := signal'.signalHash } := by
    cases signal
    cases signal'
    simp only [Q1Signal.unhashed, Q1Signal.mk.injEq] at same ⊢
    tauto
  rw [hrestore]
  -- The stages and the diagnostics read every field of the signal but the hash.
  have hstages : allocationNumbers env.functions.sqrt
      { signal with signalHash := signal'.signalHash } c.config.val.allocation =
      allocationNumbers env.functions.sqrt signal c.config.val.allocation := rfl
  have hdiagnostics : q1Diagnostics { signal with signalHash := signal'.signalHash } =
      q1Diagnostics signal := rfl
  simp only [allocateQ1, hstages, hdiagnostics]
  cases allocationNumbers env.functions.sqrt signal c.config.val.allocation with
  | error e => rfl
  | ok n =>
    simp only [ok_bind]
    generalize n.weights.mapping.set c.config.val.cashSymbol (1 - n.weights.sum) = final
    cases validateQ1Weights final c.config with
    | error e => rfl
    | ok _ =>
      simp only [ok_bind]
      cases q1Diagnostics signal n c.config.val.cashSymbol final with
      | error e => rfl
      | ok diagnostics => rfl

theorem allocateObserved_rescale (positive : 0 < coefficient) (unit : String)
    (exponent : ℤ) (canonicalHash : AllocationPayload Decimal → String) :
    (allocateObserved env c canonicalHash request
        (observations.map (·.rescale env.normalize unit coefficient exponent))).map
        AllocationResult.unhashed =
      (allocateObserved env c canonicalHash request observations).map
        AllocationResult.unhashed := by
  have hsignal : (computeQ1Signal env c request
      (observations.map (·.rescale env.normalize unit coefficient exponent))).map
        Q1Signal.unhashed = (computeQ1Signal env c request observations).map Q1Signal.unhashed :=
    computeQ1Signal_rescale positive unit exponent
  unfold allocateObserved
  generalize computeQ1Signal env c request
    (observations.map (·.rescale env.normalize unit coefficient exponent)) = scaled at hsignal ⊢
  generalize computeQ1Signal env c request observations = computed at hsignal ⊢
  cases scaled with
  | error e =>
    cases computed with
    | error e' => rw [Except.error.inj hsignal]
    | ok signal => exact absurd hsignal nofun
  | ok signal =>
    cases computed with
    | error e => exact absurd hsignal nofun
    | ok signal' => exact allocateQ1_unhashed canonicalHash (Except.ok.inj hsignal)

theorem computeQ1Signal_of_perm (h : others.Perm observations) {signal}
    (ok : computeQ1Signal env c request observations = .ok signal) :
    ∃ signal', computeQ1Signal env c request others = .ok signal' ∧
      ((request.window c).TiesAgree env.normalize observations → signal' = signal) := by
  simp only [computeQ1Signal, signalOf, ok_iff] at ok
  obtain ⟨_, hcheck, selected, hselected, n, hn, rfl⟩ := ok
  obtain ⟨selected', hselected', hvalues, hids, htexts⟩ :=
    PriceWindow.select_of_perm h hselected
  simp only [computeQ1Signal, signalOf, hcheck, hselected', hvalues, hn, ok_bind]
  refine ⟨_, rfl, fun ties => ?_⟩
  rw [hids, htexts ties]

theorem closesPayload_injective : Function.Injective closesPayload := by
  intro texts texts' h
  refine map_injective_iff.mpr ?_ (Canonical.dict_injective h)
  intro item item' hitem
  simp only [Prod.mk.injEq] at hitem
  refine Prod.ext hitem.1 (map_injective_iff.mpr ?_ (Canonical.list_injective hitem.2))
  exact fun _ _ => Canonical.str.inj

theorem texts_of_signalPayload {sourceIds sourceIds' texts texts' n n'}
    (h : signalPayload c request sourceIds texts n = signalPayload c request sourceIds' texts' n') :
    texts = texts' := by
  have hentries := Canonical.dict_injective h
  simp only [List.cons.injEq, Prod.mk.injEq, true_and] at hentries
  exact closesPayload_injective hentries.2.1

theorem ties_of_order (injective : Function.Injective env.hash.canonicalHash)
    {signal : Q1Signal Decimal} (ok : computeQ1Signal env c request observations = .ok signal)
    (order : ∀ others : List AdjustedCloseObservation, others.Perm observations →
      (computeQ1Signal env c request others).toOption =
        (computeQ1Signal env c request observations).toOption) :
    (request.window c).TiesAgree env.normalize observations := by
  have hsame : ∀ others : List AdjustedCloseObservation, others.Perm observations →
      computeQ1Signal env c request others = .ok signal := by
    intro others hperm
    obtain ⟨signal', hok, -⟩ := computeQ1Signal_of_perm hperm ok
    have hoption := order others hperm
    rw [hok, ok] at hoption
    rw [hok, Option.some.inj hoption]
  simp only [computeQ1Signal, signalOf, ok_iff] at hsame
  obtain ⟨_, -, selected, hselected, n, hn, hsignal⟩ := hsame observations (List.Perm.refl _)
  refine @PriceWindow.ties_of_select_perm _ _ _ selected fun others hperm => ?_
  obtain ⟨_, -, selected', hselected', n', hn', hsignal'⟩ := hsame others hperm
  have hhash := congrArg Q1Signal.signalHash (hsignal'.trans hsignal.symm)
  exact ⟨selected', hselected', texts_of_signalPayload (injective hhash)⟩

theorem toOption_of_perm (h : others.Perm observations)
    (ties : ∀ signal, computeQ1Signal env c request observations = .ok signal →
      (request.window c).TiesAgree env.normalize observations) :
    (computeQ1Signal env c request others).toOption =
      (computeQ1Signal env c request observations).toOption := by
  cases hok : computeQ1Signal env c request observations with
  | ok signal =>
    obtain ⟨signal', hok', hsame⟩ := computeQ1Signal_of_perm h hok
    rw [hok', hsame (ties signal hok)]
  | error e =>
    cases hothers : computeQ1Signal env c request others with
    | error e' => rfl
    | ok signal =>
      obtain ⟨signal', hok', -⟩ := computeQ1Signal_of_perm h.symm hothers
      rw [hok] at hok'
      exact absurd hok' nofun

/-- A signal depends neither on late observations, nor on others outside its window, nor on the unit
of a symbol's prices; and it does not depend on the order of the observations exactly when those
that `min` cannot tell apart have prices that are written alike. -/
theorem computeQ1Signal_insensitive_iff (env : SignalEnvironment)
    (injective : Function.Injective env.hash.canonicalHash) (c : SignalConfig)
    (request : SignalRequest) (observations : List AdjustedCloseObservation) :
    Insensitive env c request observations ↔
      ((computeQ1Signal env c request observations).isOk →
        (request.window c).TiesAgree env.normalize observations) := by
  constructor
  · intro insensitive accepted
    cases hok : computeQ1Signal env c request observations with
    | error e =>
      rw [hok] at accepted
      exact absurd accepted nofun
    | ok signal => exact ties_of_order injective hok insensitive.order
  · intro ties
    refine ⟨fun others h => toOption_of_perm h fun signal hok => ties (by rw [hok]; rfl),
      fun others same => computeQ1Signal_late same,
      fun others same => computeQ1Signal_outside same, ?_⟩
    intro symbol coefficient exponent positive
    exact ⟨computeQ1Signal_rescale positive symbol exponent, fun canonicalHash =>
      allocateObserved_rescale positive symbol exponent canonicalHash⟩

end Kept

-- The logarithms and the exponential that constant prices need, to 40 digits.
def sampleFunctions : DecimalFunctions Decimal where
  ln value :=
    if value = 1 / 2 then -6931471805599453094172321214581765680755 / 10 ^ 40 else value - 1
  exp _ := 9659363289248455510651443129204638993907 / 10 ^ 40
  sqrt := decimalSqrt

def sampleEnvironment : SignalEnvironment := ⟨id, sampleFunctions, Hashing.plain⟩

def sampleSignalConfig : SignalConfig where
  config := shippedQ1Config
  returnQuantum := ⟨1, -18⟩
  written := shippedQ1Config_written

def sampleSignalRequest : SignalRequest where
  completedSessionIds := (List.range 121).map toString
  calendarSessionId := "121"
  expectedLatestCompletedSessionId := "120"
  currentSessionOpenAt := 1215
  scheduledAt := 1216
  signalDataCutoff := 1216
  configManifestHash := "manifest"

def sampleBar (symbol : String) (day : ℕ) : AdjustedCloseObservation where
  barId := symbol ++ toString day
  symbol
  sessionId := toString day
  sessionCloseAt := 10 * day
  adjustedClose := .finite 100 0
  availableAt := 10 * day + 1

def sampleBars : List AdjustedCloseObservation :=
  (List.range 121).map (sampleBar "QQQ") ++ (List.range 121).map (sampleBar "SOXX")

def sampleTwin : AdjustedCloseObservation :=
  { sampleBar "SOXX" 120 with adjustedClose := .finite 1000 (-1) }

theorem sampleBars_insensitive :
    Insensitive sampleEnvironment sampleSignalConfig sampleSignalRequest sampleBars := by
  refine (computeQ1Signal_insensitive_iff sampleEnvironment Hashing.plain_injective
    sampleSignalConfig sampleSignalRequest sampleBars).mpr fun _ => ?_
  have hclose : ∀ o ∈ sampleBars, o.adjustedClose = .finite 100 0 := by
    simp only [sampleBars, forall_mem_append, forall_mem_map]
    exact ⟨fun _ _ => rfl, fun _ _ => rfl⟩
  have hread : ∀ o symbol sessionId, o ∈ candidates sampleEnvironment.normalize (sampleBars.filter
      ((sampleSignalRequest.window sampleSignalConfig).Reads sampleEnvironment.normalize)) symbol
      sessionId → o ∈ sampleBars :=
    fun o _ _ h => mem_of_mem_filter (mem_of_mem_filter h)
  intro symbol _ sessionId _ o p bars ho hp
  rw [hclose o (hread o symbol sessionId ho.1), hclose p (hread p symbol sessionId hp.1)]

set_option maxRecDepth 10000 in
theorem sampleTwin_accepted : (computeQ1Signal sampleEnvironment sampleSignalConfig
    sampleSignalRequest (sampleBars ++ [sampleTwin])).isOk = true := by
  decide +kernel

set_option maxRecDepth 10000 in
theorem sampleTwin_bars : candidates sampleEnvironment.normalize
    ((sampleBars ++ [sampleTwin]).filter
      ((sampleSignalRequest.window sampleSignalConfig).Reads sampleEnvironment.normalize))
    "SOXX" "120" = [sampleBar "SOXX" 120, sampleTwin] := by
  decide +kernel

theorem sampleTwin_ties : ¬(sampleSignalRequest.window sampleSignalConfig).TiesAgree
    sampleEnvironment.normalize (sampleBars ++ [sampleTwin]) := by
  intro ties
  have hsymbol : "SOXX" ∈ (sampleSignalRequest.window sampleSignalConfig).symbols := by
    decide +kernel
  have hsession : "120" ∈ (sampleSignalRequest.window sampleSignalConfig).completedSessionIds :=
    mem_map.mpr ⟨120, by decide, by decide +kernel⟩
  have hlowest : ∀ o ∈ [sampleBar "SOXX" 120, sampleTwin],
      IsLowest [sampleBar "SOXX" 120, sampleTwin] o := by
    decide +kernel
  have htext := ties "SOXX" hsymbol "120" hsession (sampleBar "SOXX" 120) sampleTwin
  simp only [sampleTwin_bars] at htext
  exact absurd (htext (hlowest _ (by simp)) (hlowest _ (by simp))) (by decide +kernel)

/-- A bar that comes twice, once with another number of decimal places, makes the hash depend on the
order. -/
theorem sampleTwin_sensitive :
    ¬Insensitive sampleEnvironment sampleSignalConfig sampleSignalRequest
      (sampleBars ++ [sampleTwin]) := by
  intro insensitive
  have haccepted := sampleTwin_accepted
  cases hok : computeQ1Signal sampleEnvironment sampleSignalConfig sampleSignalRequest
      (sampleBars ++ [sampleTwin]) with
  | error e =>
    rw [hok] at haccepted
    exact absurd haccepted nofun
  | ok signal =>
    exact sampleTwin_ties (ties_of_order Hashing.plain_injective hok insensitive.order)

end AdaptiveQuant.Quant
