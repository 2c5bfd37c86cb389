import AdaptiveQuant.Quant.AllocationBounds
import AdaptiveQuant.Quant.Turnover

/-! What `apply_turnover_control` keeps. -/

namespace AdaptiveQuant.Quant

open Guard List

def RiskyWeights.withCash (weights : RiskyWeights Decimal) (cash : Decimal) : Dict String Decimal :=
  weights.mapping.set "USD_CASH" cash

section Weights

variable {config : Q1MathConfig Decimal} (weights : RiskyWeights Decimal) (cash : Decimal)

theorem withCash_entries : (weights.withCash cash).entries =
    [("QQQ", weights.qqq), ("SOXX", weights.soxx), ("USD_CASH", cash)] := rfl

theorem withCash_getD : (weights.withCash cash).getD "QQQ" 0 = weights.qqq ∧
    (weights.withCash cash).getD "SOXX" 0 = weights.soxx ∧
    (weights.withCash cash).getD "USD_CASH" 0 = cash := ⟨rfl, rfl, rfl⟩

theorem withCash_set (value : Decimal) :
    (weights.withCash cash).set "QQQ" value = (RiskyWeights.mk value weights.soxx).withCash cash ∧
    (weights.withCash cash).set "SOXX" value = (RiskyWeights.mk weights.qqq value).withCash cash ∧
    (weights.withCash cash).set "USD_CASH" value = weights.withCash value := ⟨rfl, rfl, rfl⟩

/-- Weights that pass `_validate_basic_weights`. -/
structure RiskyWeights.Valid (config : Q1MathConfig Decimal) : Prop where
  qqq_nonneg : 0 ≤ weights.qqq
  soxx_nonneg : 0 ≤ weights.soxx
  cash_nonneg : 0 ≤ cash
  total : |weights.sum + cash - 1| ≤ config.val.allocation.weightSumTolerance

variable {weights cash}

theorem validateBasicWeights_iff : validateBasicWeights (weights.withCash cash)
    config.val.allocation = .ok () ↔ weights.Valid cash config := by
  have hvalues : (weights.withCash cash).values = [weights.qqq, weights.soxx, cash] := rfl
  simp only [validateBasicWeights, hvalues, ok_iff, not_lt, sum_cons, sum_nil, add_zero,
    not_exists, not_and, mem_cons, not_mem_nil, or_false, forall_eq_or_imp, forall_eq]
  rw [← add_assoc]
  constructor
  · rintro ⟨⟨h1, h2, h3⟩, h4⟩
    exact ⟨h1, h2, h3, h4⟩
  · intro h
    exact ⟨⟨h.qqq_nonneg, h.soxx_nonneg, h.cash_nonneg⟩, h.total⟩

theorem normalized_of_ok {values normalized : Dict String Decimal}
    (h : normalizedWeightMapping values (config.val.riskySymbols ++ [config.val.cashSymbol]) config
      = .ok normalized) :
    let weights : RiskyWeights Decimal := ⟨values.getD "QQQ" 0, values.getD "SOXX" 0⟩
    let cash := values.getD "USD_CASH" 0
    normalized = weights.withCash cash ∧ weights.Valid cash config := by
  obtain ⟨-, hrisky, hcash⟩ := config.bounded
  rw [hrisky, hcash] at h
  simp only [normalizedWeightMapping, ok_iff, cons_append, nil_append, foldlM_cons,
    foldlM_nil, nonNegative] at h
  obtain ⟨-, _, ⟨_, ⟨_, ⟨-, rfl⟩, rfl⟩, _, ⟨_, ⟨-, rfl⟩, rfl⟩, _, ⟨_, ⟨-, rfl⟩, rfl⟩, rfl⟩, _,
    hvalid, rfl⟩ := h
  exact ⟨rfl, validateBasicWeights_iff.mp hvalid⟩

end Weights

def keptLeg (bypassMinimum : Bool) (threshold nav delta : Decimal) : Decimal :=
  if bypassMinimum = false ∧ |delta| * nav < threshold then 0 else delta

section Legs

variable (context : LegContext)

def LegContext.delta (symbol : String) : Decimal :=
  context.adjusted.getD symbol 0 - context.current.getD symbol 0

def LegContext.kept (symbol : String) : Decimal :=
  keptLeg context.bypassMinimum context.threshold context.nav (context.delta symbol)

theorem LegContext.addLeg_spec (legs : Legs) (symbol : String)
    (start : legs.executable.get? symbol = some (context.current.getD symbol 0)) :
    (context.addLeg legs symbol).executable =
        legs.executable.set symbol (context.current.getD symbol 0 + context.kept symbol) ∧
      ∀ item ∈ (context.addLeg legs symbol).omitted, item ∈ legs.omitted ∨
        item.symbol = symbol ∧ context.kept symbol = 0 := by
  have hsame : ∀ item ∈ legs.omitted, item ∈ legs.omitted ∨
      item.symbol = symbol ∧ context.kept symbol = 0 := fun item hitem => .inl hitem
  have hstay : context.kept symbol = 0 → legs.executable =
      legs.executable.set symbol (context.current.getD symbol 0 + context.kept symbol) := by
    intro hzero
    rw [hzero, add_zero, Dict.set_eq_self start]
  have hdef : context.adjusted.getD symbol 0 - context.current.getD symbol 0 =
    context.delta symbol := rfl
  simp only [LegContext.addLeg, hdef]
  by_cases hdelta : context.delta symbol = 0
  · have hzero : context.kept symbol = 0 := by
      rw [LegContext.kept, keptLeg, hdelta]
      split <;> rfl
    rw [if_pos hdelta]
    exact ⟨hstay hzero, hsame⟩
  rw [if_neg hdelta]
  by_cases hsmall : context.bypassMinimum = false ∧
      |context.delta symbol| * context.nav < context.threshold
  · have hzero : context.kept symbol = 0 := by
      rw [LegContext.kept, keptLeg, if_pos hsmall]
    rw [if_pos hsmall]
    refine ⟨hstay hzero, fun item hitem => ?_⟩
    rcases mem_append.mp hitem with hitem | hitem
    · exact .inl hitem
    · rw [mem_singleton] at hitem
      exact .inr ⟨by rw [hitem], hzero⟩
  · have hkept : context.current.getD symbol 0 + context.kept symbol =
        context.adjusted.getD symbol 0 := by
      rw [LegContext.kept, keptLeg, if_neg hsmall, LegContext.delta]
      ring
    rw [if_neg hsmall, hkept]
    exact ⟨rfl, hsame⟩

end Legs

section Request

variable (config : Q1MathConfig Decimal) (request : TurnoverRequest)

def TurnoverRequest.current : RiskyWeights Decimal :=
  ⟨request.currentWeights.getD "QQQ" 0, request.currentWeights.getD "SOXX" 0⟩

def TurnoverRequest.currentCash : Decimal := request.currentWeights.getD "USD_CASH" 0

def TurnoverRequest.proposed : RiskyWeights Decimal :=
  ⟨request.proposedTargetWeights.getD "QQQ" 0, request.proposedTargetWeights.getD "SOXX" 0⟩

def TurnoverRequest.proposedCash : Decimal := request.proposedTargetWeights.getD "USD_CASH" 0

def TurnoverRequest.turnover : Decimal :=
  1 / 2 * (|request.proposed.qqq - request.current.qqq| +
    |request.proposed.soxx - request.current.soxx| + |request.proposedCash - request.currentCash|)

def TurnoverRequest.remaining : Decimal := remainingCapacity config request.usedNormalTurnover

/-- The request is an ordinary one, below the no-trade band. -/
def TurnoverRequest.BelowBand : Prop :=
  request.emergencyReduction = false ∧ request.bypassNormalTurnoverCap = false ∧
    request.turnover < config.val.turnover.noTradeOneWayThreshold

/-- The leg of a risky symbol after the minimum order, from the weights it moves between. -/
def TurnoverRequest.leg (alpha current proposed : Decimal) : Decimal :=
  keptLeg (request.emergencyReduction && config.val.turnover.emergencyBypassesMinimumOrder)
    (minimumNotional config request.currentNavUsd) request.currentNavUsd
    (alpha * (proposed - current))

def TurnoverRequest.executed (alpha : Decimal) : RiskyWeights Decimal where
  qqq := request.current.qqq + request.leg config alpha request.current.qqq request.proposed.qqq
  soxx := request.current.soxx +
    request.leg config alpha request.current.soxx request.proposed.soxx

variable {config request}

theorem turnover_eq : oneWayTurnover (request.current.withCash request.currentCash)
    (request.proposed.withCash request.proposedCash) = request.turnover := by
  simp only [oneWayTurnover, withCash_entries, map_cons, map_nil, sum_cons,
    sum_nil, (withCash_getD _ _).1, (withCash_getD _ _).2.1, (withCash_getD _ _).2.2,
    TurnoverRequest.turnover]
  ring

def TurnoverRequest.adjusted (request : TurnoverRequest) (alpha : Decimal) : Dict String Decimal :=
  (RiskyWeights.mk
    (request.current.qqq + alpha * (request.proposed.qqq - request.current.qqq))
    (request.current.soxx + alpha * (request.proposed.soxx - request.current.soxx))).withCash
      (request.currentCash + alpha * (request.proposedCash - request.currentCash))

theorem executedLegs_spec (config : Q1MathConfig Decimal) (request : TurnoverRequest)
    (alpha : Decimal) :
    let legs := executedLegs config request (request.current.withCash request.currentCash)
      (request.adjusted alpha)
    legs.executable = (request.executed config alpha).withCash
        (1 - (request.executed config alpha).sum) ∧
      ∀ item ∈ legs.omitted,
        item.symbol = "QQQ" ∧ (request.executed config alpha).qqq = request.current.qqq ∨
        item.symbol = "SOXX" ∧ (request.executed config alpha).soxx = request.current.soxx := by
  obtain ⟨-, hrisky, hcash⟩ := config.bounded
  simp only [executedLegs, hrisky, hcash, foldl_cons, foldl_nil, map_cons,
    map_nil, sum_cons, sum_nil, add_zero]
  generalize hcontext : LegContext.mk (request.current.withCash request.currentCash)
    (request.adjusted alpha) request.currentNavUsd (minimumNotional config request.currentNavUsd)
    (request.emergencyReduction && config.val.turnover.emergencyBypassesMinimumOrder) = context
  have hqqq : context.kept "QQQ" =
      request.leg config alpha request.current.qqq request.proposed.qqq := by
    have hdelta : context.delta "QQQ" =
        alpha * (request.proposed.qqq - request.current.qqq) := by
      rw [← hcontext]
      exact add_sub_cancel_left _ _
    rw [LegContext.kept, hdelta, ← hcontext]
    rfl
  have hsoxx : context.kept "SOXX" =
      request.leg config alpha request.current.soxx request.proposed.soxx := by
    have hdelta : context.delta "SOXX" =
        alpha * (request.proposed.soxx - request.current.soxx) := by
      rw [← hcontext]
      exact add_sub_cancel_left _ _
    rw [LegContext.kept, hdelta, ← hcontext]
    rfl
  have hcurrent : context.current = request.current.withCash request.currentCash := by
    rw [← hcontext]
  obtain ⟨hfirst, hfirstOmitted⟩ := context.addLeg_spec
    ⟨request.current.withCash request.currentCash, [], []⟩ "QQQ" (by rw [hcurrent]; rfl)
  generalize context.addLeg ⟨request.current.withCash request.currentCash, [], []⟩ "QQQ" =
    first at hfirst hfirstOmitted ⊢
  rw [hqqq, hcurrent, (withCash_getD _ _).1, (withCash_set _ _ _).1] at hfirst
  obtain ⟨hsecond, hsecondOmitted⟩ := context.addLeg_spec first "SOXX"
    (by rw [hfirst, hcurrent]; rfl)
  rw [hsoxx, hcurrent, hfirst, (withCash_getD _ _).2.1, (withCash_set _ _ _).2.1] at hsecond
  rw [hsecond]
  refine ⟨rfl, fun item hitem => ?_⟩
  rcases hsecondOmitted item hitem with hitem | ⟨hsymbol, hzero⟩
  · rcases hfirstOmitted item hitem with hitem | ⟨hsymbol, hzero⟩
    · exact absurd hitem not_mem_nil
    · refine .inl ⟨hsymbol, ?_⟩
      rw [TurnoverRequest.executed, ← hqqq, hzero, add_zero]
  · refine .inr ⟨hsymbol, ?_⟩
    rw [TurnoverRequest.executed, ← hsoxx, hzero, add_zero]

def TurnoverRequest.alpha (request : TurnoverRequest) (config : Q1MathConfig Decimal) : Decimal :=
  if request.bypassNormalTurnoverCap then if 0 < request.turnover then 1 else 0
  else if request.turnover = 0 then 0
  else if request.remaining config < request.turnover then
    request.remaining config / request.turnover
  else 1

theorem turnover_nonneg (request : TurnoverRequest) : 0 ≤ request.turnover := by
  have hqqq := abs_nonneg (request.proposed.qqq - request.current.qqq)
  have hsoxx := abs_nonneg (request.proposed.soxx - request.current.soxx)
  have hcash := abs_nonneg (request.proposedCash - request.currentCash)
  simp only [TurnoverRequest.turnover]
  linarith

theorem remaining_nonneg (config : Q1MathConfig Decimal) (request : TurnoverRequest) :
    0 ≤ request.remaining config := le_max_left _ _

theorem interpolationAlpha_normal (h : request.emergencyReduction = false) :
    interpolationAlpha config request request.turnover (request.remaining config) =
      .ok (request.alpha config) := by
  rw [interpolationAlpha, if_neg (by rw [h]; decide), TurnoverRequest.alpha]
  by_cases hbypass : request.bypassNormalTurnoverCap = true
  · rw [if_pos hbypass, if_pos hbypass]
    rfl
  rw [if_neg hbypass, if_neg hbypass]
  by_cases hzero : request.turnover = 0
  · rw [if_pos hzero, if_pos hzero]
    rfl
  rw [if_neg hzero, if_neg hzero]
  by_cases hover : request.remaining config < request.turnover
  · rw [if_pos hover, if_pos hover]
    rfl
  · rw [if_neg hover, if_neg hover]
    rfl

theorem alpha_mem (config : Q1MathConfig Decimal) (request : TurnoverRequest) :
    0 ≤ request.alpha config ∧ request.alpha config ≤ 1 := by
  have hturnover := turnover_nonneg request
  have hremaining := remaining_nonneg config request
  rw [TurnoverRequest.alpha]
  split_ifs with hbypass hpositive hzero hover
  · exact ⟨zero_le_one, le_refl 1⟩
  · exact ⟨le_refl 0, zero_le_one⟩
  · exact ⟨le_refl 0, zero_le_one⟩
  · exact ⟨div_nonneg hremaining hturnover, div_le_one_of_le₀ hover.le hturnover⟩
  · exact ⟨zero_le_one, le_refl 1⟩

theorem alpha_capacity (h : request.bypassNormalTurnoverCap = false) :
    request.alpha config * request.turnover ≤ request.remaining config := by
  have hremaining := remaining_nonneg config request
  rw [TurnoverRequest.alpha, if_neg (by rw [h]; decide)]
  split_ifs with hzero hover
  · rw [zero_mul]
    exact hremaining
  · rw [div_mul_cancel₀ _ hzero]
  · rw [one_mul]
    exact not_lt.mp hover

theorem interpolationAlpha_spec {alpha : Decimal}
    (h : interpolationAlpha config request request.turnover (request.remaining config) =
      .ok alpha) :
    (0 ≤ alpha ∧ alpha ≤ 1) ∧ (request.emergencyReduction = false →
      request.bypassNormalTurnoverCap = false →
        alpha * request.turnover ≤ request.remaining config) := by
  by_cases hemergency : request.emergencyReduction = true
  · rw [interpolationAlpha, if_pos hemergency] at h
    simp only [ok_iff] at h
    obtain ⟨-, rfl⟩ := h
    exact ⟨⟨zero_le_one, le_refl 1⟩, fun hfalse => absurd hemergency (by rw [hfalse]; decide)⟩
  · have hnormal := Bool.not_eq_true _ ▸ hemergency
    rw [interpolationAlpha_normal hnormal] at h
    obtain rfl := Except.ok.inj h
    exact ⟨alpha_mem config request, fun _ => alpha_capacity⟩

/-- Both sides of the request pass normalization. -/
structure TurnoverRequest.Normalized (request : TurnoverRequest) (config : Q1MathConfig Decimal) :
    Prop where
  current : normalizedWeightMapping request.currentWeights
    (config.val.riskySymbols ++ [config.val.cashSymbol]) config =
      .ok (request.current.withCash request.currentCash)
  proposed : normalizedWeightMapping request.proposedTargetWeights
    (config.val.riskySymbols ++ [config.val.cashSymbol]) config =
      .ok (request.proposed.withCash request.proposedCash)

theorem Normalized.valid (h : request.Normalized config) :
    request.current.Valid request.currentCash config ∧
      request.proposed.Valid request.proposedCash config :=
  ⟨(normalized_of_ok h.current).2, (normalized_of_ok h.proposed).2⟩

theorem adjusted_eq (alpha : Decimal) :
    ((request.current.withCash request.currentCash).mapVal fun symbol weight =>
      weight + alpha * ((request.proposed.withCash request.proposedCash).getD symbol 0 - weight)) =
      request.adjusted alpha := rfl

def TurnoverRequest.legs (request : TurnoverRequest) (config : Q1MathConfig Decimal)
    (alpha : Decimal) : Legs :=
  executedLegs config request (request.current.withCash request.currentCash)
    (request.adjusted alpha)

def TurnoverRequest.noTrade (request : TurnoverRequest) (config : Q1MathConfig Decimal)
    (hash : Hashing) : TurnoverResult :=
  let current := request.current.withCash request.currentCash
  turnoverResult config hash "NO_TRADE_BELOW_BAND" request.turnover (request.remaining config) 0
    current current ⟨current, [], []⟩

def TurnoverRequest.rebalance (request : TurnoverRequest) (config : Q1MathConfig Decimal)
    (hash : Hashing) (alpha : Decimal) : TurnoverResult :=
  turnoverResult config hash
    (if request.emergencyReduction then "EMERGENCY_REDUCTION"
      else if (request.legs config alpha).trades = [] then "NO_EXECUTABLE_ORDERS"
      else "NORMAL_REBALANCE")
    request.turnover (request.remaining config) alpha
    (request.current.withCash request.currentCash) (request.adjusted alpha)
    (request.legs config alpha)

def TurnoverRequest.Executable (request : TurnoverRequest) (config : Q1MathConfig Decimal)
    (alpha : Decimal) : Prop :=
  (request.executed config alpha).Valid (1 - (request.executed config alpha).sum) config

variable {hash : Hashing} {result : TurnoverResult}

/-- The request passes the checks of the turnover control. -/
structure TurnoverRequest.Accepted (request : TurnoverRequest) (config : Q1MathConfig Decimal) :
    Prop where
  nav_pos : 0 < request.currentNavUsd
  used_nonneg : 0 ≤ request.usedNormalTurnover
  normalized : request.Normalized config
  sellOnly : request.emergencyReduction = true →
    request.proposed.qqq ≤ request.current.qqq ∧ request.proposed.soxx ≤ request.current.soxx

theorem executedLegs_valid (alpha : Decimal) (done : Unit) :
    validateBasicWeights (request.legs config alpha).executable config.val.allocation = .ok done ↔
      request.Executable config alpha := by
  rw [TurnoverRequest.legs, (executedLegs_spec config request alpha).1]
  exact validateBasicWeights_iff

theorem notSellOnly_iff : (request.emergencyReduction = true ∧
      ∃ symbol ∈ config.val.riskySymbols,
        (request.current.withCash request.currentCash).getD symbol 0 <
          (request.proposed.withCash request.proposedCash).getD symbol 0) ↔
    ¬ (request.emergencyReduction = true →
      request.proposed.qqq ≤ request.current.qqq ∧ request.proposed.soxx ≤ request.current.soxx) := by
  obtain ⟨-, hrisky, -⟩ := config.bounded
  simp only [hrisky, mem_cons, not_mem_nil, or_false, exists_eq_or_imp, exists_eq_left,
    (withCash_getD _ _).1, (withCash_getD _ _).2.1, Classical.not_imp, not_and_or, not_le]

theorem normalized_of_applied (h : applyTurnoverControl config hash request = .ok result) :
    request.Normalized config := by
  simp only [applyTurnoverControl, bind_eq_ok] at h
  obtain ⟨_, -, _, -, current, hcurrent, proposed, hproposed, -⟩ := h
  have hcurrentEq : current = request.current.withCash request.currentCash :=
    (normalized_of_ok hcurrent).1
  have hproposedEq : proposed = request.proposed.withCash request.proposedCash :=
    (normalized_of_ok hproposed).1
  exact ⟨hcurrentEq ▸ hcurrent, hproposedEq ▸ hproposed⟩

theorem applyTurnoverControl_eq_ok : applyTurnoverControl config hash request = .ok result ↔
    request.Accepted config ∧
    (request.BelowBand config ∧ result = request.noTrade config hash ∨
      ¬ request.BelowBand config ∧ ∃ alpha,
        interpolationAlpha config request request.turnover (request.remaining config) = .ok alpha ∧
        request.Executable config alpha ∧ result = request.rebalance config hash alpha) := by
  have hlegs : ∀ alpha, executedLegs config request
      (request.current.withCash request.currentCash) (request.adjusted alpha) =
        request.legs config alpha := fun _ => rfl
  by_cases hnormalized : request.Normalized config
  · simp only [applyTurnoverControl, hnormalized.current, hnormalized.proposed, ok_iff,
      Except.ok.injEq, exists_eq_left', turnover_eq, adjusted_eq, positive, nonNegative,
      notSellOnly_iff, not_not, hlegs]
    constructor
    · rintro ⟨_, ⟨hnav, rfl⟩, _, ⟨hused, rfl⟩, hsell, h⟩
      refine ⟨⟨not_le.mp hnav, not_lt.mp hused, hnormalized, hsell⟩, ?_⟩
      split at h
      · rename_i hband
        exact .inl ⟨hband, (Except.ok.inj h).symm⟩
      · rename_i hband
        simp only [ok_iff, executedLegs_valid] at h
        obtain ⟨alpha, halpha, hvalid, rfl⟩ := h
        exact .inr ⟨hband, alpha, halpha, hvalid, rfl⟩
    · rintro ⟨haccepted, h⟩
      refine ⟨_, ⟨not_le.mpr haccepted.nav_pos, rfl⟩, _, ⟨not_lt.mpr haccepted.used_nonneg, rfl⟩,
        haccepted.sellOnly, ?_⟩
      rcases h with ⟨hband, rfl⟩ | ⟨hband, alpha, halpha, hvalid, rfl⟩
      · exact (if_pos hband).trans rfl
      · refine (if_neg hband).trans ?_
        simp only [ok_iff, executedLegs_valid]
        exact ⟨alpha, halpha, hvalid, rfl⟩
  · exact iff_of_false (fun h => hnormalized (normalized_of_applied h))
      fun h => hnormalized h.1.normalized

end Request

end AdaptiveQuant.Quant
