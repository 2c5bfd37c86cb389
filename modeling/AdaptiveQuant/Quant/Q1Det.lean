import AdaptiveQuant.Control.Contracts
import AdaptiveQuant.Domain.CanonicalData
import AdaptiveQuant.Lib.Dict
import Mathlib.Algebra.BigOperators.Ring.List

/-! Q1-DET 2.0.0 (`challengers/q1_det_v2_0_0/decision.py`) in exact arithmetic. -/

namespace AdaptiveQuant.Q1Det

open Guard Sequence List

inductive CandidateError
  | valueError (message : String)
  | typeError (message : String)
deriving DecidableEq

abbrev Object := List (String × PyValue)

def sleeveOrder : List String := ["GLD", "SGOV", "TLT"]

def diversifiers : List String := ["GLD", "TLT"]

structure Instrument where
  symbol : String
  currentWeight : ℚ
  features : Dict String ℚ
  featureIntegrity : Bool

def get (data : Object) (name : String) : PyValue := (data.lookup name).getD .none

def asObject : PyValue → Option Object
  | .mapping data => some data
  | _ => none

def requiredObject (raw : PyValue) (message : String) : Except CandidateError Object :=
  match raw with
  | .mapping data => .ok data
  | _ => .error (.valueError message)

/-- A list that is not empty. -/
def requiredItems (raw : PyValue) (message : String) : Except CandidateError (List PyValue) :=
  match raw with
  | .sequence (first :: rest) => .ok (first :: rest)
  | _ => .error (.valueError message)

def isText (expected : String) : PyValue → Bool
  | .str value => value = expected
  | _ => false

def isBool (expected : Bool) : PyValue → Bool
  | .bool value => value = expected
  | _ => false

def number : PyValue → Option ℚ
  | .int value => if |value| < 2 ^ 1024 - 2 ^ 970 then some value else none
  | .float value => some value.value
  | _ => none

def requiredString (data : Object) (name : String) : Except CandidateError String :=
  let failure := CandidateError.valueError (name ++ " must be a non-empty string")
  match get data name with
  | .str value => do
    raiseIf (value = "") failure
    return value
  | _ => .error failure

def requiredHash (data : Object) (name : String) : Except CandidateError String := do
  let value ← requiredString data name
  raiseIf (¬Control.isHash value) (.valueError (name ++ " must be a lowercase SHA-256"))
  return value

def requiredNumber (data : Object) (name : String) (lower : ℚ) (upper : Option ℚ)
    (lowerInclusive : Bool) : Except CandidateError ℚ :=
  let failure := CandidateError.valueError (name ++ " is outside its permitted range")
  match number (get data name) with
  | some value => do
    raiseIf (if lowerInclusive then value < lower else value ≤ lower) failure
    raiseIf (∃ bound ∈ upper, bound < value) failure
    return value
  | none => .error failure

/-- `_SYMBOL_PATTERN.fullmatch`. -/
def isSymbol (text : String) : Bool :=
  match text.toList with
  | first :: rest => first.isUpper && rest.length ≤ 14 &&
      rest.all fun c => c.isUpper || c.isDigit || c = '.' || c = '-'
  | [] => false

section Parsing

-- `read` is what `datetime.fromisoformat` makes of a text, or the message of its failure.
variable (read : String → Except String Instant) (decisionTime signalDataCutoff : Instant)

def timestamp : PyValue → Except CandidateError Instant
  | .str text => (read text).mapError .valueError
  | _ => .error (.typeError "timestamp must be a string")

def parseFeature : PyValue → Option (String × ℚ)
  | .mapping data =>
    match get data "name", number (get data "value"), get data "source_revision",
      get data "source_hash", timestamp read (get data "source_event_time"),
      timestamp read (get data "available_at"),
      timestamp read (get data "revision_available_at") with
    | .str name, some value, .int sourceRevision, .str sourceHash, .ok sourceEventTime,
      .ok availableAt, .ok revisionAvailableAt =>
      if name = "" ∨ sourceRevision < 0 ∨
          isBool true (get data "revision_was_known_at_cutoff") = false ∨
          ¬Control.isHash sourceHash ∨ availableAt < sourceEventTime ∨
          signalDataCutoff < sourceEventTime ∨ signalDataCutoff < availableAt ∨
          signalDataCutoff < revisionAvailableAt then none
      else some (name, value)
    | _, _, _, _, _, _, _ => none
  | _ => none

/-- The features of an instrument, unless one of them fails or comes twice. -/
def parseFeatures : PyValue → Option (Dict String ℚ)
  | .sequence (first :: rest) => (first :: rest).foldlM (fun features raw => do
      let parsed ← parseFeature read signalDataCutoff raw
      if parsed.1 ∈ features.keys then none else some (features.set parsed.1 parsed.2)) .empty
  | _ => none

def membershipIntegrity (data : Object) : Except CandidateError Bool := do
  let availableAt ← timestamp read (get data "membership_available_at")
  let validFrom ← timestamp read (get data "membership_valid_from")
  let validUntil ← match get data "membership_valid_until" with
    | .none => pure none
    | value => some <$> timestamp read value
  match get data "instrument_is_non_survivor" with
  | .bool isNonSurvivor => return ¬(signalDataCutoff < availableAt ∨ decisionTime < validFrom ∨
      (∃ until_ ∈ validUntil, until_ < decisionTime) ∨ (isNonSurvivor ∧ validUntil = none))
  | _ => .error (.valueError "instrument_is_non_survivor must be boolean")

def parseInstrument (raw : PyValue) : Except CandidateError Instrument :=
  match raw with
  | .mapping data => do
    let symbol ← requiredString data "symbol"
    raiseIf (isSymbol symbol = false) (.valueError "invalid candidate symbol")
    let currentWeight ← requiredNumber data "current_weight" 0 (some 1) true
    let member := (membershipIntegrity read decisionTime signalDataCutoff data).toOption
    match parseFeatures read signalDataCutoff (get data "features"), member with
    | some features, some true => return ⟨symbol, currentWeight, features, true⟩
    | _, _ => return ⟨symbol, currentWeight, .empty, false⟩
  | _ => .error (.valueError "candidate instrument must be an object")

def parseInstruments (raw : List PyValue) : Except CandidateError (Dict String Instrument) :=
  raw.foldlM (fun instruments item => do
    let instrument ← parseInstrument read decisionTime signalDataCutoff item
    raiseIf (instrument.symbol ∈ instruments.keys) (.valueError "duplicate candidate instrument")
    return instruments.set instrument.symbol instrument) .empty

end Parsing

def parseCaps (raw : Object) : Except CandidateError (Dict String ℚ) :=
  raw.foldlM (fun caps item => do
    raiseIf (isSymbol item.1 = false) (.valueError "invalid symbol cap")
    match number item.2 with
    | some cap => do
      raiseIf (¬(0 ≤ cap ∧ cap ≤ 1)) (.valueError "invalid symbol cap")
      return caps.set item.1 cap
    | none => .error (.valueError "invalid symbol cap")) .empty

/-- What `_parse_request` returns. -/
structure Context where
  requestId : String
  requestHash : String
  challengerId : String
  candidateArtifactHash : String
  strategyId : String
  strategyVersion : String
  strategyParameters : Object
  instruments : Dict String Instrument
  caps : Dict String ℚ
  grossLimit : ℚ
  tolerance : ℚ

def parseConstraints (raw : Object) : Except CandidateError (ℚ × ℚ × Dict String ℚ) := do
  raiseIf (isBool true (get raw "long_only") = false ∨
      isBool false (get raw "leverage_permitted") = false ∨
      isBool false (get raw "new_symbols_permitted") = false)
    (.valueError "unsafe candidate constraints")
  let maximumGross ← requiredNumber raw "maximum_gross_weight" 0 (some 1) false
  let minimumCash ← requiredNumber raw "minimum_cash_weight" 0 (some 1) true
  raiseIf (1 ≤ minimumCash) (.valueError "minimum_cash_weight must be below one")
  let tolerance ← requiredNumber raw "numeric_tolerance" 0 none false
  let message := "candidate symbol caps must be a non-empty object"
  let rawCaps ← requiredObject (get raw "maximum_weight_by_symbol") message
  raiseIf (rawCaps = []) (.valueError message)
  let caps ← parseCaps rawCaps
  return (min maximumGross (1 - minimumCash), tolerance, caps)

def parseRequest (read : String → Except String Instant) (request : PyValue) :
    Except CandidateError Context := do
  let data ← requiredObject request "candidate request must be a raw JSON object"
  raiseIf (isText "candidate_decision_request_v1" (get data "schema_version") = false)
    (.valueError "unsupported candidate request schema")
  let requestId ← requiredString data "request_id"
  let requestHash ← requiredHash data "request_hash"
  let challengerId ← requiredString data "challenger_id"
  let candidateArtifactHash ← requiredHash data "candidate_artifact_hash"
  let strategyId ← requiredString data "strategy_id"
  let strategyVersion ← requiredString data "strategy_version"
  let decisionTime ← timestamp read (get data "decision_time")
  let signalDataCutoff ← timestamp read (get data "signal_data_cutoff")
  raiseIf (decisionTime < signalDataCutoff)
    (.valueError "signal_data_cutoff cannot exceed decision_time")
  let raw ← requiredObject (get data "constraints") "candidate constraints must be an object"
  let limits ← parseConstraints raw
  let rawInstruments ← requiredItems (get data "instruments")
    "candidate instruments must be a non-empty array"
  let instruments ← parseInstruments read decisionTime signalDataCutoff rawInstruments
  raiseIf ((∃ symbol ∈ instruments.keys, symbol ∉ limits.2.2.keys) ∨
      ∃ symbol ∈ limits.2.2.keys, symbol ∉ instruments.keys)
    (.valueError "candidate universe differs from host symbol caps")
  let strategyParameters ← requiredObject (get data "strategy_parameters")
    "strategy_parameters must be an object"
  raiseIf (limits.1 ≤ 0) (.valueError "host gross boundary must be positive")
  return ⟨requestId, requestHash, challengerId, candidateArtifactHash, strategyId, strategyVersion,
    strategyParameters, instruments, limits.2.2, limits.1, limits.2.1⟩

structure Parameters where
  reviewIntervalSessions : ℤ
  reviewAnchorSessionOrdinal : ℤ
  shortReturnSessions : ℤ
  longReturnSessions : ℤ
  movingAverageSessions : ℤ
  downsideBetaSessions : ℤ
  minimumDownsideObservations : ℤ
  sleeveCap : ℚ
  diversifierCap : ℚ
  noTradeBand : ℚ
  entryExcessTrend : ℚ
  exitExcessTrend : ℚ
  entryMovingAverageGap : ℚ
  exitMovingAverageGap : ℚ
  gldEntryDownsideBeta : ℚ
  gldExitDownsideBeta : ℚ
  tltEntryDownsideBeta : ℚ
  tltExitDownsideBeta : ℚ

/-- A parameter under the first of its names that is present, and whether it is in its range. -/
def floating (source : Object) (names : List String) (default minimum maximum : ℚ) : ℚ × Bool :=
  match names.findSome? fun name => source.lookup name with
  | none => (default, true)
  | some raw =>
    match number raw with
    | some value => if minimum ≤ value ∧ value ≤ maximum then (value, true) else (default, false)
    | none => (default, false)

def integer (source : Object) (names : List String) (default minimum maximum : ℤ) : ℤ × Bool :=
  match names.findSome? fun name => source.lookup name with
  | none => (default, true)
  | some raw =>
    match number raw with
    | some value =>
      if value.den = 1 ∧ minimum ≤ value ∧ value ≤ maximum then (value.num, true)
      else (default, false)
    | none => (default, false)

def loadParameters (raw : Object) : Parameters × Bool :=
  let nested (name : String) : Object := (asObject (get raw name)).getD []
  let source := nested "residual_defensive_sleeve" ++ nested "q1_det_v2_0_0" ++ raw
  let reviewInterval := integer source ["review_interval_sessions"] 21 1 252
  let reviewAnchor := integer source
    ["review_anchor_session_ordinal", "review_anchor_session"] 0 0 10000000
  let shortReturn := integer source ["short_return_sessions", "return_lookback_short"] 63 2 504
  let longReturn := integer source ["long_return_sessions", "return_lookback_long"] 126 2 756
  let movingAverage := integer source
    ["moving_average_sessions", "moving_average_lookback"] 200 2 756
  let downsideBeta := integer source ["downside_beta_sessions", "downside_beta_lookback"] 126 2 756
  let observations := integer source ["minimum_downside_observations"] 20 1 756
  let sleeveCap := floating source ["sleeve_cap"] (35 / 100) 0 1
  let diversifierCap := floating source ["diversifier_cap", "per_diversifier_cap"] (20 / 100) 0 1
  let noTradeBand := floating source ["no_trade_band"] (2 / 100) 0 1
  let entryTrend := floating source ["entry_excess_trend"] 0 (-10) 10
  let exitTrend := floating source ["exit_excess_trend"] (-2 / 100) (-10) 10
  let entryGap := floating source ["entry_moving_average_gap"] 0 (-10) 10
  let exitGap := floating source ["exit_moving_average_gap"] (-2 / 100) (-10) 10
  let gldEntry := floating source ["gld_entry_downside_beta"] (25 / 100) (-10) 10
  let gldExit := floating source ["gld_exit_downside_beta"] (35 / 100) (-10) 10
  let tltEntry := floating source ["tlt_entry_downside_beta"] 0 (-10) 10
  let tltExit := floating source ["tlt_exit_downside_beta"] (10 / 100) (-10) 10
  let inRange := [reviewInterval, reviewAnchor, shortReturn, longReturn, movingAverage,
      downsideBeta, observations].all (·.2) &&
    [sleeveCap, diversifierCap, noTradeBand, entryTrend, exitTrend, entryGap, exitGap, gldEntry,
      gldExit, tltEntry, tltExit].all (·.2)
  (⟨reviewInterval.1, reviewAnchor.1, shortReturn.1, longReturn.1, movingAverage.1, downsideBeta.1,
      observations.1, sleeveCap.1, diversifierCap.1, noTradeBand.1, entryTrend.1, exitTrend.1,
      entryGap.1, exitGap.1, gldEntry.1, gldExit.1, tltEntry.1, tltExit.1⟩,
    inRange && !(longReturn.1 ≤ shortReturn.1 ∨ entryTrend.1 < exitTrend.1 ∨
      entryGap.1 < exitGap.1 ∨ gldExit.1 < gldEntry.1 ∨ tltExit.1 < tltEntry.1))

variable (instrument : Instrument)

def Instrument.feature (names : List String) : Option ℚ :=
  if instrument.featureIntegrity then names.findSome? instrument.features.get? else none

def Instrument.over (sessions : ℤ) (prefixes : List String) : Option ℚ :=
  instrument.feature (prefixes.map fun name => name ++ toString sessions)

def Instrument.movingAverageGap (sessions : ℤ) : Option ℚ :=
  instrument.over sessions ["moving_average_gap_", "ma_gap_", "close_to_sma_gap_"] <|>
    (instrument.over sessions ["close_to_moving_average_ratio_", "close_to_sma_ratio_"]).map (· - 1)

def Instrument.downsideBeta (sessions : ℤ) : Option ℚ :=
  instrument.feature ["downside_beta_" ++ toString sessions ++ "_qqq",
    "downside_beta_to_qqq_" ++ toString sessions, "downside_beta_" ++ toString sessions]

def Instrument.parentTarget : ℚ × Bool :=
  match instrument.feature ["parent_target_weight", "q1_det_parent_target_weight",
    "parent_target"] with
  | some target =>
    if 0 ≤ target ∧ target ≤ 1 then (target, true) else (instrument.currentWeight, false)
  | none => (instrument.currentWeight, false)

def isNonnegativeInteger (value : ℚ) : Bool := 0 ≤ value ∧ value.den = 1

def Instrument.review (parameters : Parameters) :
    Option (Bool × String) :=
  let whole (names : List String) := (instrument.feature names).filter isNonnegativeInteger
  match (instrument.feature ["review_due", "sleeve_review_due"]).filter (fun x => x = 0 ∨ x = 1),
    whole ["completed_sessions_since_review", "completed_sessions_since_last_review"],
    whole ["completed_session_ordinal", "market_session_ordinal"] with
  | some direct, _, _ => some (direct = 1, instrument.symbol ++ ":review_due")
  | none, some since, _ =>
    some (parameters.reviewIntervalSessions ≤ since.num,
      instrument.symbol ++ ":sessions_since_review")
  | none, none, some ordinal =>
    let offset := ordinal.num - parameters.reviewAnchorSessionOrdinal
    some (0 ≤ offset ∧ offset % parameters.reviewIntervalSessions = 0,
      instrument.symbol ++ ":session_ordinal")
  | none, none, none => none

structure Signal where
  score : ℚ
  volatility : Option ℚ
  valid : Bool
  eligible : Bool

/-- The part of `_signals` about one diversifier; `reserve` holds the two returns of SGOV. -/
def Instrument.signal (parameters : Parameters) (tolerance : ℚ)
    (reserve : Option (ℚ × ℚ)) : Signal :=
  let returns := ["total_return_", "return_", "r"]
  let volatility := instrument.over parameters.shortReturnSessions
    ["realized_volatility_", "annualized_realized_volatility_", "volatility_"]
  let score := match reserve, instrument.over parameters.shortReturnSessions returns,
      instrument.over parameters.longReturnSessions returns with
    | some (reserveShort, reserveLong), some shortReturn, some longReturn =>
      some (1 / 2 * (shortReturn - reserveShort) + 1 / 2 * (longReturn - reserveLong))
    | _, _, _ => none
  let gap := instrument.movingAverageGap parameters.movingAverageSessions
  let beta := instrument.downsideBeta parameters.downsideBetaSessions
  let observations := (instrument.over parameters.downsideBetaSessions
    ["downside_observation_count_", "qqq_downside_observation_count_",
      "downside_observations_"]).filter isNonnegativeInteger
  let valid := instrument.featureIntegrity && score.isSome && volatility.any (0 < ·) &&
    gap.isSome && beta.isSome && observations.any ((parameters.minimumDownsideObservations : ℚ) ≤ ·)
  let held := tolerance < instrument.currentWeight
  let betaThreshold :=
    if instrument.symbol = "GLD" then
      if held then parameters.gldExitDownsideBeta else parameters.gldEntryDownsideBeta
    else if held then parameters.tltExitDownsideBeta else parameters.tltEntryDownsideBeta
  let above (value entry exit : ℚ) : Bool := if held then exit ≤ value else entry < value
  ⟨score.getD 0, volatility, valid, valid &&
    above (score.getD 0) parameters.entryExcessTrend parameters.exitExcessTrend &&
    gap.any (above · parameters.entryMovingAverageGap parameters.exitMovingAverageGap) &&
    beta.any (· < betaThreshold)⟩

def reviewedSleeveTargets (present : List String) (caps : String → ℚ) (budget : ℚ)
    (parameters : Parameters) (signals : String → Option Signal) (reserveValid : Bool) :
    String → ℚ :=
  let volatilities : List (String × ℚ) := diversifiers.filterMap fun symbol => do
    let signal ← signals symbol
    let volatility ← signal.volatility
    if signal.eligible then some (symbol, volatility) else none
  let inverse : List (String × ℚ) := match (volatilities.map (·.2)).min? with
    | some minimum => volatilities.map fun item => (item.1, minimum / item.2)
    | none => []
  let inverseTotal := (inverse.map (·.2)).sum
  let targets (symbol : String) : ℚ := match inverse.lookup symbol with
    | some weight =>
      if 0 < inverseTotal then
        min (min (budget * weight / inverseTotal) parameters.diversifierCap) (caps symbol)
      else 0
    | none => 0
  let unused := max 0 (budget - (present.map targets).sum)
  if reserveValid && "SGOV" ∈ present then Function.update targets "SGOV" (min unused (caps "SGOV"))
  else targets

def capped (caps targets : String → ℚ) (symbol : String) : ℚ :=
  min (max 0 (targets symbol)) (caps symbol)

/-- What `_fit_sleeve` takes off the capped targets when they exceed the budget. -/
def reduceSleeve (present : List String) (budget : ℚ) (fitted : String → ℚ) : String → ℚ :=
  let excess := (present.map fitted).sum - budget
  if excess ≤ 0 then fitted else
    let reduction := if "SGOV" ∈ present then min excess (fitted "SGOV") else 0
    let reserved := Function.update fitted "SGOV" (fitted "SGOV" - reduction)
    let left := excess - reduction
    if left ≤ 0 then reserved else
      let gross := ((diversifiers.filter (· ∈ present)).map reserved).sum
      if gross ≤ 0 then reserved else
        let scale := max 0 ((gross - left) / gross)
        fun symbol => if symbol ∈ diversifiers then reserved symbol * scale else reserved symbol

def fitSleeve (present : List String) (caps : String → ℚ) (budget : ℚ) (targets : String → ℚ) :
    String → ℚ := reduceSleeve present budget (capped caps targets)

def scaleSelected (weights : String → ℚ) (symbols : List String) (limit : ℚ) : String → ℚ :=
  let total := (symbols.map weights).sum
  if total ≤ limit ∨ total ≤ 0 then weights
  else fun symbol => if symbol ∈ symbols then weights symbol * (limit / total) else weights symbol

/-- The body of the loop of `_enforce_host_limits`, which ends once nothing is in excess. -/
def reduceExcess (universe_ : List String) (grossLimit : ℚ) (fitted : String → ℚ)
    (symbol : String) : String → ℚ :=
  let excess := (universe_.map fitted).sum - grossLimit
  if excess ≤ 0 then fitted
  else Function.update fitted symbol (fitted symbol - min excess (fitted symbol))

def enforceHostLimits (universe_ : List String) (caps : String → ℚ) (grossLimit : ℚ)
    (weights : String → ℚ) : String → ℚ :=
  let first := ["SGOV", "TLT", "GLD"].filter (· ∈ universe_)
  let reductionOrder := first ++ universe_.reverse.filter (· ∉ first)
  reductionOrder.foldl (reduceExcess universe_ grossLimit) (capped caps weights)

namespace Context

variable (context : Context)

def symbols : List String := sortedBy id context.instruments.keys

variable (symbol : String)

def cap : ℚ := context.caps.getD symbol 0

def present : List String := sleeveOrder.filter (· ∈ context.instruments.keys)

def baseSymbols : List String := context.symbols.filter (· ∉ sleeveOrder)

def parentWeight : ℚ :=
  match context.instruments.get? symbol with
  | some instrument =>
    if symbol ∈ sleeveOrder then 0 else min instrument.parentTarget.1 (context.cap symbol)
  | none => 0

def parentGross : ℚ := (context.baseSymbols.map context.parentWeight).sum

def baseWeight : String → ℚ :=
  if context.grossLimit < context.parentGross then
    scaleSelected context.parentWeight context.baseSymbols context.grossLimit
  else context.parentWeight

def baseGross : ℚ := (context.baseSymbols.map context.baseWeight).sum

def parameters : Parameters := (loadParameters context.strategyParameters).1

def parametersValid : Bool := (loadParameters context.strategyParameters).2

def sleeveBudget : ℚ :=
  max 0 (min (min context.parameters.sleeveCap (1 - context.baseGross))
    (context.grossLimit - context.baseGross))

def strategyBindingValid : Bool :=
  context.strategyId = "Q1-DET" && context.strategyVersion = "2.0.0"

def schedule : Bool × String :=
  let priority := ["QQQ", "SOXX", "SGOV", "GLD", "TLT"]
  let ordered := priority ++ context.symbols.filter (· ∉ priority)
  ((ordered.filterMap context.instruments.get?).findSome? (·.review context.parameters)).getD
    (false, "missing")

def reviewDue : Bool :=
  context.schedule.1 && context.parametersValid && context.strategyBindingValid

def reserve : Option (ℚ × ℚ) := do
  let instrument ← context.instruments.get? "SGOV"
  let names := ["total_return_", "return_", "r"]
  let short ← instrument.over context.parameters.shortReturnSessions names
  let long ← instrument.over context.parameters.longReturnSessions names
  return (short, long)

def signal : Option Signal :=
  if symbol ∈ diversifiers then
    (context.instruments.get? symbol).map
      (·.signal context.parameters context.tolerance context.reserve)
  else none

def current : ℚ :=
  min ((context.instruments.get? symbol).elim 0 (·.currentWeight)) (context.cap symbol)

def desired : String → ℚ :=
  reviewedSleeveTargets context.present context.cap context.sleeveBudget context.parameters
    context.signal context.reserve.isSome

def withinBand : Bool :=
  (if symbol = "SGOV" then context.reserve.isSome else (context.signal symbol).any (·.valid)) &&
    |context.desired symbol - context.current symbol| < context.parameters.noTradeBand

def sleeveTarget : ℚ :=
  if context.reviewDue && !context.withinBand symbol then context.desired symbol
  else context.current symbol

def sleeveWeight : String → ℚ :=
  fitSleeve context.present context.cap context.sleeveBudget context.sleeveTarget

def weight : String → ℚ :=
  enforceHostLimits (sortedBy id context.caps.keys) context.cap context.grossLimit fun symbol =>
    if symbol ∈ context.present then context.sleeveWeight symbol else context.baseWeight symbol

def score : ℚ :=
  match context.signal symbol, context.instruments.get? symbol with
  | some signal, _ => signal.score
  | none, some instrument =>
    if symbol = "QQQ" ∨ symbol = "SOXX" then
      (instrument.feature ["parent_score", "q1_det_parent_score"]).getD (context.weight symbol)
    else 0
  | none, none => 0

def parentTargetsPreserved : Bool :=
  context.parentGross ≤ context.grossLimit && ["QQQ", "SOXX"].all fun symbol =>
    (context.instruments.get? symbol).all (·.parentTarget.2)

def diagnostics : List (String × CanonicalValue) :=
  let float (value : ℚ) := CanonicalValue.float (PyFloat.ofRat value).canonical
  let texts (symbols : List String) := CanonicalValue.list (symbols.map .str)
  [("strategy_id", .str "Q1-DET"), ("strategy_version", .str "2.0.0"),
    ("parent_version", .str "1.0.0"),
    ("hypothesis_id", .str "hypothesis-q1-residual-defensive-sleeve-v1"),
    ("strategy_binding_valid", .bool context.strategyBindingValid),
    ("parameters_valid", .bool context.parametersValid),
    ("input_feature_integrity", .bool (context.instruments.values.all (·.featureIntegrity))),
    ("review_due", .bool context.reviewDue), ("review_schedule_source", .str context.schedule.2),
    ("review_interval_sessions", .int context.parameters.reviewIntervalSessions),
    ("implementation_delay_sessions", .int 1),
    ("parent_targets_preserved", .bool context.parentTargetsPreserved),
    ("eligible_diversifiers", texts (diversifiers.filter fun symbol =>
      (context.signal symbol).any (·.eligible))),
    ("reserve_available", .bool context.reserve.isSome),
    ("sleeve_budget", float context.sleeveBudget),
    ("sleeve_gross", float (context.present.map context.weight).sum),
    ("no_trade_band_applied", texts (context.present.filter fun symbol =>
      context.reviewDue && context.withinBand symbol)),
    ("scope", .str "long_only_targets")]

end Context

structure Target where
  symbol : String
  score : PyFloat
  targetWeight : ℚ

structure Response where
  requestId : String
  requestHash : String
  challengerId : String
  candidateArtifactHash : String
  targets : List Target
  diagnostics : List (String × CanonicalValue)
  outputHash : String

def Target.payload (target : Target) : CanonicalValue :=
  .dict [("symbol", .str target.symbol), ("score", .float target.score.canonical),
    ("target_weight", .float (PyFloat.ofRat target.targetWeight).canonical)]

/-- The response to a parsed request; `digest` is the hexadecimal SHA-256 of a text. -/
def Context.respond (digest : String → String) (context : Context) : Response :=
  let targets := context.symbols.map fun symbol =>
    (⟨symbol, (PyFloat.ofRat (context.score symbol)).canonical, context.weight symbol⟩ : Target)
  let payload : CanonicalValue :=
    .dict [("schema_version", .str "candidate_decision_response_v1"),
      ("request_id", .str context.requestId), ("request_hash", .str context.requestHash),
      ("challenger_id", .str context.challengerId),
      ("candidate_artifact_hash", .str context.candidateArtifactHash),
      ("targets", .list (targets.map Target.payload)), ("diagnostics", .dict context.diagnostics)]
  ⟨context.requestId, context.requestHash, context.challengerId, context.candidateArtifactHash,
    targets, context.diagnostics, digest payload.json⟩

def decide (digest : String → String) (read : String → Except String Instant) (request : PyValue) :
    Except CandidateError Response :=
  Context.respond digest <$> parseRequest read request

theorem sum_sleeve (p : String → Bool) (f : String → ℚ) :
    ((sleeveOrder.filter p).map f).sum =
      ((diversifiers.filter (· ∈ sleeveOrder.filter p)).map f).sum +
        if "SGOV" ∈ sleeveOrder.filter p then f "SGOV" else 0 := by
  cases hgld : p "GLD" <;> cases hsgov : p "SGOV" <;> cases htlt : p "TLT" <;>
    simp [sleeveOrder, diversifiers, hgld, hsgov, htlt] <;> ring

theorem capped_nonneg {caps : String → ℚ} (h : ∀ symbol, 0 ≤ caps symbol)
    (targets : String → ℚ) (symbol : String) : 0 ≤ capped caps targets symbol :=
  le_min (le_max_left _ _) (h symbol)

section Fitting

variable {p : String → Bool} {fitted : String → ℚ} {budget : ℚ}

theorem reduceSleeve_fits (nonneg : ∀ symbol, 0 ≤ fitted symbol) (budget_nonneg : 0 ≤ budget) :
    (∀ symbol, 0 ≤ reduceSleeve (sleeveOrder.filter p) budget fitted symbol ∧
      reduceSleeve (sleeveOrder.filter p) budget fitted symbol ≤ fitted symbol) ∧
    ((sleeveOrder.filter p).map (reduceSleeve (sleeveOrder.filter p) budget fitted)).sum ≤
      budget := by
  generalize hpresent : sleeveOrder.filter p = present
  have hsum : ∀ f : String → ℚ, (present.map f).sum =
      ((diversifiers.filter (· ∈ present)).map f).sum +
        if "SGOV" ∈ present then f "SGOV" else 0 := fun f => hpresent ▸ sum_sleeve p f
  unfold reduceSleeve
  dsimp only
  split
  · rename_i hfits
    exact ⟨fun symbol => ⟨nonneg symbol, le_rfl⟩, by linarith⟩
  rename_i hexcess
  rw [not_le] at hexcess
  generalize hreduction : (if "SGOV" ∈ present then min ((present.map fitted).sum - budget)
    (fitted "SGOV") else 0) = reduction
  generalize hreserved : Function.update fitted "SGOV" (fitted "SGOV" - reduction) = reserved
  have hreduced : 0 ≤ reduction ∧ reduction ≤ fitted "SGOV" := by
    rw [← hreduction]
    split
    · exact ⟨le_min hexcess.le (nonneg _), min_le_right _ _⟩
    · exact ⟨le_rfl, nonneg _⟩
  have hreserve : reserved "SGOV" = fitted "SGOV" - reduction := by
    rw [← hreserved, Function.update_self]
  have hother : ∀ symbol, symbol ≠ "SGOV" → reserved symbol = fitted symbol := by
    intro symbol hne
    rw [← hreserved, Function.update_of_ne hne]
  have hbounds : ∀ symbol, 0 ≤ reserved symbol ∧ reserved symbol ≤ fitted symbol := by
    intro symbol
    by_cases hsymbol : symbol = "SGOV"
    · rw [hsymbol, hreserve]
      constructor <;> linarith [hreduced.1, hreduced.2]
    · rw [hother symbol hsymbol]
      exact ⟨nonneg symbol, le_rfl⟩
  have hgross : ((diversifiers.filter (· ∈ present)).map reserved).sum =
      ((diversifiers.filter (· ∈ present)).map fitted).sum := by
    rw [map_congr_left fun symbol hsymbol => hother symbol fun h => ?_]
    rw [h] at hsymbol
    exact absurd (mem_of_mem_filter hsymbol) (by decide)
  have htotal := hsum fitted
  split
  · -- The reserve covers the excess.
    rename_i hleft
    refine ⟨hbounds, ?_⟩
    rw [hsum reserved, hgross, hreserve]
    split_ifs at htotal hreduction ⊢ <;> linarith
  rename_i hleft
  rw [not_le] at hleft
  -- The reserve is used up, and what is left is what the diversifiers exceed the budget by.
  have hempty : (if "SGOV" ∈ present then reserved "SGOV" else 0) = 0 := by
    rw [hreserve]
    split_ifs at hreduction ⊢ with hmem
    · rcases min_choice ((present.map fitted).sum - budget) (fitted "SGOV") with h | h <;> linarith
    · rfl
  have hexceed : ((diversifiers.filter (· ∈ present)).map reserved).sum -
      ((present.map fitted).sum - budget - reduction) = budget := by
    rw [hgross, htotal]
    split_ifs at hempty hreduction ⊢ <;> linarith
  split
  · rename_i hnone
    refine ⟨hbounds, ?_⟩
    rw [hsum reserved, hempty]
    linarith
  rename_i hsome
  rw [not_le] at hsome
  rw [hexceed]
  generalize hG : ((diversifiers.filter (· ∈ present)).map reserved).sum = gross at hexceed hsome
  have hscale : max 0 (budget / gross) = budget / gross :=
    max_eq_right (div_nonneg budget_nonneg hsome.le)
  have hone : budget / gross ≤ 1 := (div_le_one hsome).mpr (by linarith)
  rw [hscale]
  refine ⟨fun symbol => ?_, ?_⟩
  · dsimp only
    split
    · exact ⟨mul_nonneg (hbounds symbol).1 (div_nonneg budget_nonneg hsome.le),
        (mul_le_of_le_one_right (hbounds symbol).1 hone).trans (hbounds symbol).2⟩
    · exact hbounds symbol
  · have hscaled : ((diversifiers.filter (· ∈ present)).map fun symbol =>
        if symbol ∈ diversifiers then reserved symbol * (budget / gross) else reserved symbol).sum =
        budget := by
      rw [map_congr_left (g := fun symbol => reserved symbol * (budget / gross))
        fun symbol hsymbol => if_pos (mem_of_mem_filter hsymbol), sum_map_mul_right, hG,
        mul_div_cancel₀ _ hsome.ne']
    have hreserve' : (if "SGOV" ∈ diversifiers then reserved "SGOV" * (budget / gross)
        else reserved "SGOV") = reserved "SGOV" := if_neg (by decide)
    rw [hsum, hscaled, hreserve', hempty, add_zero]

end Fitting

theorem enforceHostLimits_eq {universe_} {caps weights : String → ℚ} {limit : ℚ}
    (within : ∀ symbol ∈ universe_, 0 ≤ weights symbol ∧ weights symbol ≤ caps symbol)
    (total : (universe_.map weights).sum ≤ limit) {symbol : String} (hmem : symbol ∈ universe_) :
    enforceHostLimits universe_ caps limit weights symbol = weights symbol := by
  have hcapped : ∀ other ∈ universe_, capped caps weights other = weights other := by
    intro other hother
    obtain ⟨hnonneg, hcap⟩ := within other hother
    rw [capped, max_eq_right hnonneg, min_eq_left hcap]
  have hexcess : (universe_.map (capped caps weights)).sum - limit ≤ 0 := by
    rw [map_congr_left hcapped]
    linarith
  have hstep : ∀ other, reduceExcess universe_ limit (capped caps weights) other =
      capped caps weights := fun _ => if_pos hexcess
  rw [enforceHostLimits, foldl_fixed' hstep]
  exact hcapped symbol hmem

/-- The facts about a context that its weights rest on. -/
structure Context.Sound (context : Context) : Prop where
  cap_nonneg : ∀ symbol, 0 ≤ context.cap symbol
  current_nonneg : ∀ symbol instrument, context.instruments.get? symbol = some instrument →
    0 ≤ instrument.currentWeight
  same_symbols : ∀ symbol, symbol ∈ context.instruments.keys ↔ symbol ∈ context.caps.keys
  gross_pos : 0 < context.grossLimit

theorem requiredNumber_ge {data : Object} {name : String} {lower value : ℚ} {upper : Option ℚ}
    {lowerInclusive : Bool} (h : requiredNumber data name lower upper lowerInclusive = .ok value) :
    lower ≤ value ∧ number (get data name) = some value := by
  unfold requiredNumber at h
  dsimp only at h
  cases hnumber : number (get data name) with
  | none =>
    rw [hnumber] at h
    cases h
  | some found =>
    simp only [hnumber, ok_iff] at h
    obtain ⟨hlow, -, rfl⟩ := h
    refine ⟨?_, rfl⟩
    cases lowerInclusive with
    | true => exact not_lt.mp (by simpa using hlow)
    | false => exact (not_le.mp (by simpa using hlow)).le

theorem parseCaps_nonneg {raw : Object} {caps} (h : parseCaps raw = .ok caps) :
    ∀ symbol cap, caps.get? symbol = some cap → 0 ≤ cap := by
  refine foldlM_induction h (fun _ (caps : Dict String ℚ) => ∀ symbol cap,
    caps.get? symbol = some cap → 0 ≤ cap) (by simp) fun _ item caps caps' inv hstep => ?_
  cases hnumber : number item.2 with
  | none => simp [hnumber] at hstep
  | some value =>
    simp only [hnumber, ok_iff, not_not] at hstep
    obtain ⟨-, hrange, rfl⟩ := hstep
    intro symbol cap hcap
    rw [Dict.get?_set] at hcap
    split at hcap
    · cases hcap
      exact hrange.1
    · exact inv symbol cap hcap

section Requests

variable {read : String → Except String Instant} {decisionTime signalDataCutoff : Instant}

/-- The entry of a request about the symbol. -/
def Names (item : PyValue) (symbol : String) : Prop :=
  ∃ data, item = .mapping data ∧ get data "symbol" = .str symbol

theorem requiredString_eq_ok {data : Object} {name text : String}
    (h : requiredString data name = .ok text) : get data name = .str text := by
  unfold requiredString at h
  dsimp only at h
  split at h
  · rename_i hvalue
    simp only [ok_iff] at h
    obtain ⟨-, rfl⟩ := h
    exact hvalue
  · cases h

variable {raw : PyValue}

theorem parseInstrument_eq_ok {instrument : Instrument}
    (h : parseInstrument read decisionTime signalDataCutoff raw = .ok instrument) :
    Names raw instrument.symbol ∧ 0 ≤ instrument.currentWeight := by
  unfold parseInstrument at h
  split at h
  · rename_i data
    simp only [ok_iff] at h
    obtain ⟨symbol, hsymbol, -, currentWeight, hweight, h⟩ := h
    have hnames : Names (.mapping data) symbol := ⟨data, rfl, requiredString_eq_ok hsymbol⟩
    have hnonneg := (requiredNumber_ge hweight).1
    split at h
    · cases h
      exact ⟨hnames, hnonneg⟩
    · cases h
      exact ⟨hnames, hnonneg⟩
  · cases h

theorem parseInstruments_eq_ok {raw instruments}
    (h : parseInstruments read decisionTime signalDataCutoff raw = .ok instruments) :
    raw.Forall₂ Names instruments.keys ∧
      ∀ symbol instrument, instruments.get? symbol = some instrument →
        0 ≤ instrument.currentWeight := by
  refine foldlM_induction h (fun done (instruments : Dict String Instrument) =>
    done.Forall₂ Names instruments.keys ∧ ∀ symbol instrument,
      instruments.get? symbol = some instrument → 0 ≤ instrument.currentWeight)
    ⟨.nil, by simp⟩ fun done item instruments _ inv hstep => ?_
  simp only [ok_iff] at hstep
  obtain ⟨parsed, hparsed, hnew, rfl⟩ := hstep
  obtain ⟨hnames, hnonneg⟩ := parseInstrument_eq_ok hparsed
  constructor
  · have hentries : Dict.setEntries parsed.symbol parsed instruments.entries =
        instruments.entries ++ [(parsed.symbol, parsed)] := Dict.setEntries_of_notMem hnew
    have hkeys : (instruments.set parsed.symbol parsed).keys =
        instruments.keys ++ [parsed.symbol] :=
      (congrArg (List.map Prod.fst) hentries).trans map_append
    rw [hkeys]
    exact rel_append inv.1 (.cons hnames .nil)
  · intro symbol instrument hinstrument
    rw [Dict.get?_set] at hinstrument
    split at hinstrument
    · cases hinstrument
      exact hnonneg
    · exact inv.2 symbol instrument hinstrument

theorem parseConstraints_eq_ok {raw : Object} {grossLimit tolerance : ℚ} {caps}
    (h : parseConstraints raw = .ok (grossLimit, tolerance, caps)) :
    (∃ maximumGross minimumCash, number (get raw "maximum_gross_weight") = some maximumGross ∧
      number (get raw "minimum_cash_weight") = some minimumCash ∧
      grossLimit = min maximumGross (1 - minimumCash)) ∧
    ∀ symbol cap, caps.get? symbol = some cap → 0 ≤ cap := by
  simp only [parseConstraints, ok_iff] at h
  obtain ⟨-, maximumGross, hmaximum, minimumCash, hminimum, -, tolerance, -, rawCaps, -, -, caps,
    hcaps, h⟩ := h
  obtain ⟨rfl, rfl, rfl⟩ := by simpa using h
  exact ⟨⟨_, _, (requiredNumber_ge hmaximum).2, (requiredNumber_ge hminimum).2, rfl⟩,
    parseCaps_nonneg hcaps⟩

theorem requiredObject_eq_ok {message : String} {data : Object} :
    requiredObject raw message = .ok data ↔ raw = .mapping data := by
  cases raw <;> simp [requiredObject]

theorem requiredItems_eq_ok {message : String} {items : List PyValue}
    (h : requiredItems raw message = .ok items) : raw = .sequence items := by
  unfold requiredItems at h
  split at h
  · cases h
    rfl
  · cases h

/-- What the parts of an accepted request are. -/
structure Accepted (read : String → Except String Instant) (data : Object) (context : Context) where
  raw : Object
  items : List PyValue
  decisionTime : Instant
  signalDataCutoff : Instant
  constraints : get data "constraints" = .mapping raw
  decided : timestamp read (get data "decision_time") = .ok decisionTime
  cutoff : timestamp read (get data "signal_data_cutoff") = .ok signalDataCutoff
  limits : parseConstraints raw = .ok (context.grossLimit, context.tolerance, context.caps)
  sequence : get data "instruments" = .sequence items
  instruments : parseInstruments read decisionTime signalDataCutoff items = .ok context.instruments
  sound : context.Sound

theorem parseRequest_eq_ok {request : PyValue} {context : Context}
    (h : parseRequest read request = .ok context) :
    ∃ data, request = .mapping data ∧ Nonempty (Accepted read data context) := by
  simp only [parseRequest, ok_iff, requiredObject_eq_ok, not_or, not_exists, not_and, not_not,
    not_le] at h
  obtain ⟨data, rfl, -, requestId, -, requestHash, -, challengerId, -, artifactHash, -, strategyId,
    -, strategyVersion, -, decisionTime, hdecided, signalDataCutoff, hcutoff, -, raw, hraw, limits,
    hlimits, items, hitems, instruments, hinstruments, hsame, parameters, -, hgross, rfl⟩ := h
  refine ⟨data, rfl, ⟨raw, items, decisionTime, signalDataCutoff, hraw, hdecided, hcutoff, hlimits,
    requiredItems_eq_ok hitems, hinstruments, ?_, (parseInstruments_eq_ok hinstruments).2,
    fun symbol => ⟨hsame.1 symbol, hsame.2 symbol⟩, hgross⟩⟩
  intro symbol
  show 0 ≤ limits.2.2.getD symbol 0
  rw [Dict.getD]
  cases hcap : limits.2.2.get? symbol with
  | none => exact le_rfl
  | some cap => exact (parseConstraints_eq_ok hlimits).2 symbol cap hcap

end Requests

theorem Instrument.parentTarget_nonneg {instrument : Instrument}
    (h : 0 ≤ instrument.currentWeight) : 0 ≤ instrument.parentTarget.1 := by
  unfold Instrument.parentTarget
  split
  · split
    · rename_i hrange
      exact hrange.1
    · exact h
  · exact h

namespace Context

variable {context : Context}

theorem symbols_nodup : context.symbols.Nodup :=
  (sortedBy_perm id context.instruments.keys).nodup_iff.mpr context.instruments.nodup

theorem mem_symbols {symbol : String} :
    symbol ∈ context.symbols ↔ symbol ∈ context.instruments.keys := mem_sortedBy id

theorem Sound.parentWeight_within (sound : context.Sound) (symbol : String) :
    0 ≤ context.parentWeight symbol ∧ context.parentWeight symbol ≤ context.cap symbol := by
  have hcap := sound.cap_nonneg symbol
  unfold parentWeight
  split
  · rename_i instrument hinstrument
    split
    · exact ⟨le_rfl, hcap⟩
    · have htarget := instrument.parentTarget_nonneg (sound.current_nonneg _ _ hinstrument)
      exact ⟨le_min htarget hcap, min_le_right _ _⟩
  · exact ⟨le_rfl, hcap⟩

theorem Sound.baseWeight_within (sound : context.Sound) :
    (∀ symbol, 0 ≤ context.baseWeight symbol ∧ context.baseWeight symbol ≤ context.cap symbol) ∧
      context.baseGross ≤ context.grossLimit := by
  have hparent := sound.parentWeight_within
  unfold baseGross baseWeight
  split
  · rename_i hexceeds
    have hpos : 0 < context.parentGross := sound.gross_pos.trans hexceeds
    have hscaled : scaleSelected context.parentWeight context.baseSymbols context.grossLimit =
        fun symbol => if symbol ∈ context.baseSymbols then
          context.parentWeight symbol * (context.grossLimit / context.parentGross)
        else context.parentWeight symbol :=
      if_neg (not_or.mpr ⟨not_le.mpr hexceeds, not_le.mpr hpos⟩)
    have hnonneg := div_nonneg sound.gross_pos.le hpos.le
    have hone : context.grossLimit / context.parentGross ≤ 1 := (div_le_one hpos).mpr hexceeds.le
    rw [hscaled]
    refine ⟨fun symbol => ?_, ?_⟩
    · dsimp only
      split
      · exact ⟨mul_nonneg (hparent symbol).1 hnonneg,
          (mul_le_of_le_one_right (hparent symbol).1 hone).trans (hparent symbol).2⟩
      · exact hparent symbol
    · rw [map_congr_left fun symbol hsymbol => if_pos hsymbol, sum_map_mul_right,
        ← parentGross, mul_div_cancel₀ _ hpos.ne']
  · rename_i hfits
    exact ⟨hparent, not_lt.mp hfits⟩

theorem sleeveBudget_nonneg : 0 ≤ context.sleeveBudget := le_max_left _ _

theorem Sound.sleeveBudget_le (sound : context.Sound) :
    context.baseGross + context.sleeveBudget ≤ context.grossLimit := by
  have hbase := sound.baseWeight_within.2
  have hbudget : context.sleeveBudget ≤ context.grossLimit - context.baseGross :=
    max_le (by linarith) (min_le_right _ _)
  linarith

theorem Sound.sleeveWeight_within (sound : context.Sound) :
    (∀ symbol, 0 ≤ context.sleeveWeight symbol ∧
      context.sleeveWeight symbol ≤ context.cap symbol) ∧
    (context.present.map context.sleeveWeight).sum ≤ context.sleeveBudget := by
  obtain ⟨hbounds, htotal⟩ := reduceSleeve_fits
    (p := fun symbol => symbol ∈ context.instruments.keys)
    (capped_nonneg sound.cap_nonneg context.sleeveTarget) context.sleeveBudget_nonneg
  exact ⟨fun symbol => ⟨(hbounds symbol).1, (hbounds symbol).2.trans (min_le_right _ _)⟩, htotal⟩

/-- The weights before the host limits are enforced. -/
def placedWeight (context : Context) (symbol : String) : ℚ :=
  if symbol ∈ context.present then context.sleeveWeight symbol else context.baseWeight symbol

theorem sleeve_perm : (context.symbols.filter (· ∈ sleeveOrder)).Perm context.present := by
  refine (perm_ext_iff_of_nodup (symbols_nodup.filter _)
    (List.Nodup.filter _ (by decide))).mpr fun symbol => ?_
  simp [mem_symbols, and_comm]

theorem sum_sleeve_placed : ((context.symbols.filter (· ∈ sleeveOrder)).map
    context.placedWeight).sum = (context.present.map context.sleeveWeight).sum := by
  rw [(sleeve_perm.map _).sum_eq]
  exact congrArg List.sum (map_congr_left fun symbol hsymbol => if_pos hsymbol)

theorem sum_base_placed :
    (context.baseSymbols.map context.placedWeight).sum = context.baseGross := by
  refine congrArg List.sum (map_congr_left fun symbol hsymbol => if_neg fun hpresent => ?_)
  have houtside : symbol ∉ sleeveOrder := by simpa using (mem_filter.mp hsymbol).2
  exact houtside (mem_of_mem_filter hpresent)

section

variable (sound : context.Sound)

include sound

theorem Sound.universe_eq :
    sortedBy id context.caps.keys = context.symbols := by
  refine sortedBy_eq_of_perm_of_injective id ?_ Function.injective_id
  exact (perm_ext_iff_of_nodup context.caps.nodup context.instruments.nodup).mpr
    fun symbol => (sound.same_symbols symbol).symm

theorem Sound.sum_placed_le :
    (context.symbols.map context.placedWeight).sum ≤ context.grossLimit := by
  have hperm := (context.symbols.filter_append_perm (fun symbol => symbol ∈ sleeveOrder)).map
    context.placedWeight
  have hbase : context.symbols.filter (fun symbol => !Decidable.decide (symbol ∈ sleeveOrder)) =
      context.baseSymbols := filter_congr fun _ _ => by simp
  rw [← hperm.sum_eq, map_append, sum_append, sum_sleeve_placed, hbase, sum_base_placed]
  have hsleeve := sound.sleeveWeight_within.2
  have hbudget := sound.sleeveBudget_le
  linarith

theorem Sound.placedWeight_within (symbol : String) :
    0 ≤ context.placedWeight symbol ∧ context.placedWeight symbol ≤ context.cap symbol := by
  unfold placedWeight
  split
  · exact sound.sleeveWeight_within.1 symbol
  · exact sound.baseWeight_within.1 symbol

theorem Sound.weight_eq {symbol : String}
    (hmem : symbol ∈ context.symbols) : context.weight symbol = context.placedWeight symbol := by
  unfold weight
  rw [sound.universe_eq]
  exact enforceHostLimits_eq (fun other _ => sound.placedWeight_within other)
    sound.sum_placed_le hmem

theorem Sound.baseWeight_eq {symbol : String}
    (hmem : symbol ∈ context.baseSymbols) : context.weight symbol = context.baseWeight symbol := by
  obtain ⟨hsymbol, houtside⟩ := mem_filter.mp hmem
  rw [sound.weight_eq hsymbol, placedWeight, if_neg]
  intro hpresent
  simp [mem_of_mem_filter hpresent] at houtside

theorem Sound.symbols_eq {other : Context} (sound' : other.Sound)
    (caps : context.caps = other.caps) : context.symbols = other.symbols := by
  rw [← sound.universe_eq, ← sound'.universe_eq, caps]

end

end Context

/-- The two entries are equal, or both are about one symbol of the sleeve. -/
def SameOutside (item item' : PyValue) : Prop :=
  item = item' ∨ ∃ symbol ∈ sleeveOrder, Names item symbol ∧ Names item' symbol

/-- The payloads differ in instruments outside the sleeve only. -/
def SameOutsideSleeve (data data' : Object) : Prop :=
  (∀ name ∈ ["decision_time", "signal_data_cutoff", "constraints"],
      get data' name = get data name) ∧
    ∃ items items', get data "instruments" = .sequence items ∧
      get data' "instruments" = .sequence items' ∧ items.Forall₂ SameOutside items'

theorem Names.unique {item : PyValue} {symbol symbol' : String} (h : Names item symbol)
    (h' : Names item symbol') : symbol = symbol' := by
  obtain ⟨data, rfl, hsymbol⟩ := h
  obtain ⟨data', heq, hsymbol'⟩ := h'
  cases heq
  rw [hsymbol] at hsymbol'
  cases hsymbol'
  rfl

section Outside

variable {read : String → Except String Instant} {decisionTime signalDataCutoff : Instant}

theorem parseInstruments_outside {items items'} (same : items.Forall₂ SameOutside items')
    {instruments instruments'}
    (h : parseInstruments read decisionTime signalDataCutoff items = .ok instruments)
    (h' : parseInstruments read decisionTime signalDataCutoff items' = .ok instruments') :
    ∀ symbol ∉ sleeveOrder, instruments.get? symbol = instruments'.get? symbol := by
  unfold parseInstruments at h h'
  generalize hstart : (Dict.empty : Dict String Instrument) = start at h
  generalize hstart' : (Dict.empty : Dict String Instrument) = start' at h'
  have agree : ∀ symbol ∉ sleeveOrder, start.get? symbol = start'.get? symbol := by
    rw [← hstart, ← hstart']
    exact fun _ _ => rfl
  clear hstart hstart'
  induction same generalizing start start' with
  | nil =>
    cases h
    cases h'
    exact agree
  | cons hitem _ ih =>
    simp only [foldlM_cons, ok_iff] at h h'
    obtain ⟨_, ⟨parsed, hparsed, -, rfl⟩, h⟩ := h
    obtain ⟨_, ⟨parsed', hparsed', -, rfl⟩, h'⟩ := h'
    refine ih _ h _ h' fun symbol houtside => ?_
    rw [Dict.get?_set, Dict.get?_set]
    rcases hitem with rfl | ⟨name, hname, hitem, hitem'⟩
    · rw [hparsed] at hparsed'
      cases hparsed'
      rw [agree symbol houtside]
    · -- The entry is about a symbol of the sleeve, and `symbol` is another one.
      have hfirst := (parseInstrument_eq_ok hparsed).1.unique hitem
      have hsecond := (parseInstrument_eq_ok hparsed').1.unique hitem'
      have hne : symbol ≠ name := fun heq => houtside (heq ▸ hname)
      rw [hfirst, hsecond, if_neg hne, if_neg hne, agree symbol houtside]

variable {context context' : Context}

theorem Accepted.outside {data data' : Object} (parts : Accepted read data context)
    (parts' : Accepted read data' context') (same : SameOutsideSleeve data data') :
    context.caps = context'.caps ∧ context.grossLimit = context'.grossLimit ∧
      ∀ symbol ∉ sleeveOrder,
        context.instruments.get? symbol = context'.instruments.get? symbol := by
  obtain ⟨hget, items, items', hitems, hitems', hsame⟩ := same
  obtain ⟨raw, entries, decided, cutoff, hraw, hdecided, hcutoff, hlimits, hentries, hinstruments,
    -⟩ := parts
  obtain ⟨raw', entries', decided', cutoff', hraw', hdecided', hcutoff', hlimits', hentries',
    hinstruments', -⟩ := parts'
  rw [hget _ (by simp)] at hraw' hdecided' hcutoff'
  cases hraw.symm.trans hraw'
  cases hdecided.symm.trans hdecided'
  cases hcutoff.symm.trans hcutoff'
  cases hentries.symm.trans hitems
  cases hentries'.symm.trans hitems'
  have heq := hlimits.symm.trans hlimits'
  simp only [Except.ok.injEq, Prod.mk.injEq] at heq
  exact ⟨heq.2.2, heq.1, parseInstruments_outside hsame hinstruments hinstruments'⟩

theorem Context.baseWeight_congr
    (symbols : context.symbols = context'.symbols) (caps : context.caps = context'.caps)
    (limit : context.grossLimit = context'.grossLimit)
    (agree : ∀ symbol ∉ sleeveOrder,
      context.instruments.get? symbol = context'.instruments.get? symbol)
    {symbol : String} (outside : symbol ∉ sleeveOrder) :
    context.baseWeight symbol = context'.baseWeight symbol := by
  have hbase : context.baseSymbols = context'.baseSymbols := by
    rw [baseSymbols, baseSymbols, symbols]
  have hparent : ∀ other ∉ sleeveOrder,
      context.parentWeight other = context'.parentWeight other := by
    intro other hother
    rw [parentWeight, parentWeight, agree other hother, cap, cap, caps]
  have hgross : (context.baseSymbols.map context.parentWeight).sum =
      (context'.baseSymbols.map context'.parentWeight).sum := by
    rw [hbase]
    refine congrArg List.sum (map_congr_left fun other hother => hparent other ?_)
    simpa using (mem_filter.mp hother).2
  unfold baseWeight parentGross scaleSelected
  rw [hgross, hbase, limit]
  split
  · dsimp only
    split
    · exact hparent symbol outside
    · dsimp only
      rw [hparent symbol outside]
  · exact hparent symbol outside

end Outside

section Availability

variable (read : String → Except String Instant) (decisionTime signalDataCutoff : Instant)

def Available (feature : Object) : Prop :=
  get feature "revision_was_known_at_cutoff" = .bool true ∧
    ∀ name ∈ ["source_event_time", "available_at", "revision_available_at"],
      ∃ time, timestamp read (get feature name) = .ok time ∧ time ≤ signalDataCutoff

/-- The features are equal, or they differ in the value and are not available. -/
def Revalued (feature feature' : PyValue) : Prop :=
  feature = feature' ∨ ∃ data data', feature = .mapping data ∧ feature' = .mapping data' ∧
    ¬Available read signalDataCutoff data ∧ ∀ name ≠ "value", get data' name = get data name

def Within (field : String) (R : PyValue → PyValue → Prop) (data data' : Object) : Prop :=
  (∀ name ≠ field, get data' name = get data name) ∧
    ∃ items items', get data field = .sequence items ∧ get data' field = .sequence items' ∧
      items.Forall₂ R items'

def RevaluedInstrument (item item' : PyValue) : Prop :=
  item = item' ∨ ∃ data data', item = .mapping data ∧ item' = .mapping data' ∧
    Within "features" (Revalued read signalDataCutoff) data data'

/-- The requests differ in the values of features that are not available. -/
def RevaluedRequest (data data' : Object) : Prop :=
  ∃ signalDataCutoff, timestamp read (get data "signal_data_cutoff") = .ok signalDataCutoff ∧
    Within "instruments" (RevaluedInstrument read signalDataCutoff) data data'

variable {read decisionTime signalDataCutoff}

theorem foldlM_forall₂ {m : Type → Type} [Monad m] {β : Type} {R : PyValue → PyValue → Prop}
    {f : β → PyValue → m β} (same : ∀ x y, R x y → ∀ b, f b x = f b y) {items items' : List PyValue}
    (h : items.Forall₂ R items') (b : β) : items.foldlM f b = items'.foldlM f b := by
  induction h generalizing b with
  | nil => rfl
  | cons hitem _ ih =>
    rw [foldlM_cons, foldlM_cons, same _ _ hitem b]
    exact bind_congr fun b' => ih b'

theorem parseFeature_of_not_available {data : Object} (h : ¬Available read signalDataCutoff data) :
    parseFeature read signalDataCutoff (.mapping data) = none := by
  unfold parseFeature
  dsimp only
  split
  · rename_i hevent havailable hrevision
    split
    · rfl
    · rename_i hvalid
      simp only [not_or, not_lt, Bool.not_eq_false] at hvalid
      obtain ⟨-, -, hknown, -, -, hbefore, hcutoff, hrevised⟩ := hvalid
      refine absurd ⟨?_, ?_⟩ h
      · cases hbool : get data "revision_was_known_at_cutoff" <;> simp [hbool, isBool] at hknown
        rw [hknown]
      · simp only [forall_mem_cons, not_mem_nil, false_implies, implies_true, and_true]
        exact ⟨⟨_, hevent, hbefore⟩, ⟨_, havailable, hcutoff⟩, ⟨_, hrevision, hrevised⟩⟩
  · rfl

theorem parseFeature_revalued {feature feature' : PyValue}
    (h : Revalued read signalDataCutoff feature feature') :
    parseFeature read signalDataCutoff feature = parseFeature read signalDataCutoff feature' := by
  rcases h with rfl | ⟨data, data', rfl, rfl, hdata, hget⟩
  · rfl
  have hdata' : ¬Available read signalDataCutoff data' := by
    rintro ⟨hknown, htimes⟩
    refine hdata ⟨hget "revision_was_known_at_cutoff" (by decide) ▸ hknown, fun name hname => ?_⟩
    have hne : name ≠ "value" := fun heq => absurd (heq ▸ hname) (by decide)
    exact hget name hne ▸ htimes name hname
  rw [parseFeature_of_not_available hdata, parseFeature_of_not_available hdata']

theorem parseFeatures_revalued {items items' : List PyValue}
    (h : items.Forall₂ (Revalued read signalDataCutoff) items') :
    parseFeatures read signalDataCutoff (.sequence items) =
      parseFeatures read signalDataCutoff (.sequence items') := by
  cases h with
  | nil => rfl
  | cons hfirst hrest =>
    have hstep : ∀ x y, Revalued read signalDataCutoff x y → ∀ features : Dict String ℚ,
        (do let parsed ← parseFeature read signalDataCutoff x
            if parsed.1 ∈ features.keys then none else some (features.set parsed.1 parsed.2)) =
        (do let parsed ← parseFeature read signalDataCutoff y
            if parsed.1 ∈ features.keys then none else some (features.set parsed.1 parsed.2)) := by
      intro x y hxy features
      rw [parseFeature_revalued hxy]
    exact foldlM_forall₂ hstep (.cons hfirst hrest) Dict.empty

theorem parseInstrument_revalued {item item' : PyValue}
    (h : RevaluedInstrument read signalDataCutoff item item') :
    parseInstrument read decisionTime signalDataCutoff item =
      parseInstrument read decisionTime signalDataCutoff item' := by
  rcases h with rfl | ⟨data, data', rfl, rfl, hget, items, items', hitems, hitems', hrevalued⟩
  · rfl
  simp (disch := decide) only [parseInstrument, requiredString, requiredNumber, membershipIntegrity,
    hget, hitems, hitems', parseFeatures_revalued hrevalued]

theorem parseRequest_revalued {data data' : Object} {context : Context}
    (h : RevaluedRequest read data data')
    (haccepted : parseRequest read (.mapping data) = .ok context) :
    parseRequest read (.mapping data') = .ok context := by
  obtain ⟨cutoff, hcut, hget, items, items', hitems, hitems', hrevalued⟩ := h
  have hstring : ∀ name ≠ "instruments", requiredString data' name = requiredString data name := by
    intro name hne
    rw [requiredString, requiredString, hget name hne]
  have hhash : ∀ name ≠ "instruments", requiredHash data' name = requiredHash data name := by
    intro name hne
    rw [requiredHash, requiredHash, hstring name hne]
  simp only [parseRequest, ok_iff, requiredObject_eq_ok, PyValue.mapping.injEq,
    exists_eq_left'] at haccepted
  simp (disch := decide) only [parseRequest, bind_eq_ok, raiseIf_eq_ok, exists_const, pure_eq_ok,
    requiredObject_eq_ok, PyValue.mapping.injEq, exists_eq_left', hstring, hhash, hget]
  obtain ⟨hschema, requestId, hid, requestHash, hrequest, challengerId, hchallenger, artifactHash,
    hartifact, strategyId, hstrategy, version, hversion, decided, hdecided, cutoff', hcutoff,
    horder, raw, hraw, limits, hlimits, entries, hentries, instruments, hinstruments, hrest⟩ :=
    haccepted
  cases hcut.symm.trans hcutoff
  cases hitems.symm.trans (requiredItems_eq_ok hentries)
  have hentries' : requiredItems (get data' "instruments")
      "candidate instruments must be a non-empty array" = .ok items' := by
    rw [hitems] at hentries
    rw [hitems']
    cases hrevalued with
    | nil => exact hentries
    | cons _ _ => rfl
  have hparsed : parseInstruments read decided cutoff items' = .ok instruments := by
    rw [← hinstruments]
    refine (foldlM_forall₂ (fun x y hxy found => ?_) hrevalued Dict.empty).symm
    rw [parseInstrument_revalued hxy]
  exact ⟨hschema, requestId, hid, requestHash, hrequest, challengerId, hchallenger, artifactHash,
    hartifact, strategyId, hstrategy, version, hversion, decided, hdecided, cutoff, hcut, horder,
    raw, hraw, limits, hlimits, items', hentries', instruments, hparsed, hrest⟩

end Availability

def Response.outside (response : Response) : List (String × ℚ) :=
  (response.targets.filter (·.symbol ∉ sleeveOrder)).map fun target =>
    (target.symbol, target.targetWeight)

section Decision

variable {context : Context} (digest : String → String)

theorem Context.respond_symbols :
    (context.respond digest).targets.map Target.symbol = context.symbols := by
  unfold respond
  dsimp only
  rw [map_map]
  exact map_id _

theorem Context.mem_respond {target : Target} (h : target ∈ (context.respond digest).targets) :
    target.symbol ∈ context.symbols ∧ target.targetWeight = context.weight target.symbol := by
  obtain ⟨symbol, hsymbol, rfl⟩ := mem_map.mp h
  exact ⟨hsymbol, rfl⟩

theorem Context.sum_respond (p : String → Bool) :
    (((context.respond digest).targets.filter fun target => p target.symbol).map
      Target.targetWeight).sum = ((context.symbols.filter p).map context.weight).sum := by
  unfold respond
  dsimp only
  rw [filter_map, map_map]
  rfl

theorem Context.respond_outside :
    (context.respond digest).outside =
      context.baseSymbols.map fun symbol => (symbol, context.weight symbol) := by
  unfold Response.outside respond baseSymbols
  dsimp only
  rw [filter_map, map_map]
  rfl

theorem Context.Sound.sum_weight (sound : context.Sound) (p : String → Bool) :
    ((context.symbols.filter p).map context.weight).sum =
      ((context.symbols.filter p).map context.placedWeight).sum :=
  congrArg List.sum (map_congr_left fun _ hmem =>
    sound.weight_eq (mem_of_mem_filter hmem))

end Decision

/-- The challenger's decision on a request that it accepts. -/
theorem challenger_decision (digest : String → String) {read : String → Except String Instant}
    {request : PyValue} {context : Context} (accepted : parseRequest read request = .ok context) :
    ∃ data raw items maximumGross minimumCash response,
      request = .mapping data ∧ get data "constraints" = .mapping raw ∧
      get data "instruments" = .sequence items ∧
      number (get raw "maximum_gross_weight") = some maximumGross ∧
      number (get raw "minimum_cash_weight") = some minimumCash ∧
      decide digest read request = .ok response ∧
      -- One target for each instrument, within the limits of the host.
      (response.targets.map Target.symbol).Nodup ∧
      (∃ symbols, items.Forall₂ Names symbols ∧
        (response.targets.map Target.symbol).Perm symbols) ∧
      (∀ target ∈ response.targets, 0 ≤ target.targetWeight ∧
        ∃ cap, context.caps.get? target.symbol = some cap ∧ target.targetWeight ≤ cap) ∧
      (response.targets.map Target.targetWeight).sum ≤ min maximumGross (1 - minimumCash) ∧
      ((response.targets.filter (·.symbol ∈ sleeveOrder)).map Target.targetWeight).sum ≤
        context.sleeveBudget ∧
      -- The weights outside the sleeve.
      (context.parentGross ≤ min maximumGross (1 - minimumCash) → ∀ target ∈ response.targets,
        ∀ instrument, context.instruments.get? target.symbol = some instrument →
          target.symbol ∉ sleeveOrder → target.targetWeight =
            min instrument.parentTarget.1 (context.cap target.symbol)) ∧
      (∀ data' response', SameOutsideSleeve data data' →
        decide digest read (.mapping data') = .ok response' →
          response'.outside = response.outside) ∧
      -- The values that were not available.
      ∀ data', RevaluedRequest read data data' →
        decide digest read (.mapping data') = .ok response := by
  obtain ⟨data, rfl, ⟨parts⟩⟩ := parseRequest_eq_ok accepted
  obtain ⟨⟨maximumGross, minimumCash, hmaximum, hminimum, hlimit⟩, -⟩ :=
    parseConstraints_eq_ok parts.limits
  have sound := parts.sound
  have hdecide : decide digest read (.mapping data) = .ok (context.respond digest) := by
    rw [decide, accepted]
    rfl
  refine ⟨data, parts.raw, parts.items, maximumGross, minimumCash, context.respond digest, rfl,
    parts.constraints, parts.sequence, hmaximum, hminimum, hdecide, ?_, ?_, ?_, ?_, ?_, ?_, ?_, ?_⟩
  · rw [Context.respond_symbols]
    exact Context.symbols_nodup
  · refine ⟨context.instruments.keys, (parseInstruments_eq_ok parts.instruments).1, ?_⟩
    rw [Context.respond_symbols]
    exact sortedBy_perm id _
  · intro target htarget
    obtain ⟨hsymbol, hweight⟩ := Context.mem_respond digest htarget
    obtain ⟨hnonneg, hcap⟩ := sound.placedWeight_within target.symbol
    obtain ⟨cap, hfound⟩ := Dict.mem_keys.mp
      ((sound.same_symbols _).mp (Context.mem_symbols.mp hsymbol))
    rw [hweight, sound.weight_eq hsymbol]
    refine ⟨hnonneg, cap, hfound, ?_⟩
    rwa [Context.cap, Dict.getD_of_get? hfound] at hcap
  · have htotal := sound.sum_placed_le
    have hsum := @Context.sum_respond context digest fun _ => true
    rw [sound.sum_weight, filter_true, filter_true] at hsum
    rw [hsum, ← hlimit]
    exact htotal
  · rw [Context.sum_respond digest fun symbol => Decidable.decide (symbol ∈ sleeveOrder),
      sound.sum_weight, Context.sum_sleeve_placed]
    exact sound.sleeveWeight_within.2
  · intro hfits target htarget instrument hinstrument houtside
    obtain ⟨hsymbol, hweight⟩ := Context.mem_respond digest htarget
    have hbase : target.symbol ∈ context.baseSymbols :=
      mem_filter.mpr ⟨hsymbol, by simpa using houtside⟩
    rw [← hlimit] at hfits
    rw [hweight, sound.baseWeight_eq hbase, Context.baseWeight, if_neg (not_lt.mpr hfits),
      Context.parentWeight, hinstrument]
    exact if_neg houtside
  · intro data' response' hsame hdecide'
    obtain ⟨context', haccepted', rfl⟩ : ∃ context',
        parseRequest read (.mapping data') = .ok context' ∧
          response' = context'.respond digest := by
      rw [decide] at hdecide'
      cases hparsed : parseRequest read (.mapping data') with
      | error failure =>
        rw [hparsed] at hdecide'
        cases hdecide'
      | ok context' =>
        rw [hparsed] at hdecide'
        cases hdecide'
        exact ⟨context', rfl, rfl⟩
    obtain ⟨data'', heq, ⟨parts'⟩⟩ := parseRequest_eq_ok haccepted'
    cases heq
    obtain ⟨hcaps, hgross, hagree⟩ := parts.outside parts' hsame
    have hsymbols := sound.symbols_eq parts'.sound hcaps
    rw [Context.respond_outside, Context.respond_outside, Context.baseSymbols, ← hsymbols]
    refine map_congr_left fun symbol hsymbol => ?_
    have houtside : symbol ∉ sleeveOrder := by simpa using (mem_filter.mp hsymbol).2
    have hbase' : symbol ∈ context'.baseSymbols := by rwa [Context.baseSymbols, ← hsymbols]
    rw [sound.baseWeight_eq hsymbol, parts'.sound.baseWeight_eq hbase',
      Context.baseWeight_congr hsymbols hcaps hgross hagree houtside]
  · intro data' hrevalued
    rw [decide, parseRequest_revalued hrevalued accepted]
    rfl

def lateRequest : Object :=
  let text (value : Char) := PyValue.str (String.ofList (List.replicate 64 value))
  let cutoff := PyValue.str "2026-01-05T21:00:00Z"
  let half := PyValue.float (.ofRat (1 / 2))
  let feature (name availableAt : String) := PyValue.mapping [("name", .str name), ("value", half),
    ("source_revision", .int 0), ("source_hash", text 'a'),
    ("revision_was_known_at_cutoff", .bool true), ("source_event_time", cutoff),
    ("available_at", .str availableAt), ("revision_available_at", cutoff)]
  let instrument (symbol : String) (features : List PyValue) := PyValue.mapping [
    ("symbol", .str symbol), ("current_weight", half), ("membership_available_at", cutoff),
    ("membership_valid_from", cutoff), ("instrument_is_non_survivor", .bool false),
    ("features", .sequence features)]
  [("schema_version", .str "candidate_decision_request_v1"), ("request_id", .str "request"),
    ("request_hash", text 'b'), ("challenger_id", .str "q1-det"),
    ("candidate_artifact_hash", text 'c'), ("strategy_id", .str "Q1-DET"),
    ("strategy_version", .str "2.0.0"), ("decision_time", .str "2026-01-05T21:01:00Z"),
    ("signal_data_cutoff", cutoff),
    ("constraints", .mapping [("long_only", .bool true), ("leverage_permitted", .bool false),
      ("new_symbols_permitted", .bool false), ("maximum_gross_weight", .int 1),
      ("minimum_cash_weight", .int 0), ("numeric_tolerance", half),
      ("maximum_weight_by_symbol", .mapping [("QQQ", half), ("GLD", half)])]),
    ("instruments", .sequence [
      instrument "QQQ" [feature "parent_target_weight" "2026-01-05T21:00:00Z"],
      instrument "GLD" [feature "r63" "2026-01-05T21:01:00Z"]]),
    ("strategy_parameters", .mapping [])]

def lateRead (text : String) : Except String Instant :=
  if text = "2026-01-05T21:00:00Z" then .ok 1767646800000000
  else if text = "2026-01-05T21:01:00Z" then .ok 1767646860000000
  else .error "Invalid isoformat string"

theorem lateRequest_decided : ∃ response, decide id lateRead (.mapping lateRequest) = .ok response ∧
    (∀ target ∈ response.targets, 0 ≤ target.targetWeight) ∧
    ∀ data', RevaluedRequest lateRead lateRequest data' →
      decide id lateRead (.mapping data') = .ok response := by
  obtain ⟨context, hcontext, -⟩ := exists_of_any (p := fun context : Context =>
    context.symbols = ["GLD", "QQQ"]) (x := parseRequest lateRead (.mapping lateRequest))
    (by decide +kernel)
  obtain ⟨data, raw, items, maximumGross, minimumCash, response, hdata, -, -, -, -, hdecide, -, -,
    hwithin, -, -, -, -, hrevalued⟩ := challenger_decision id hcontext
  cases hdata
  exact ⟨response, hdecide, fun target htarget => (hwithin target htarget).1, hrevalued⟩

end AdaptiveQuant.Q1Det
