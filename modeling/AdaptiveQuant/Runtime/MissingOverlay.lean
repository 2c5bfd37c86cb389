import AdaptiveQuant.Llm.Q1Overlay
import AdaptiveQuant.Quant.AllocationBounds
import AdaptiveQuant.Quant.CurrentWeights
import AdaptiveQuant.Runtime.ArmState

/-! `_apply_llm_overlay` of `runtime/q1_cycle.py`, and when a cycle without an LLM decision gets a
target from it that `apply_turnover_control` accepts. -/

namespace AdaptiveQuant.Q1Cycle

open Guard Quant Q1Overlay Settlement List

def dictOf {α β : Type} (f : α → β) (items : List (String × α)) : Dict String β :=
  items.foldl (fun d item => d.set item.1 (f item.2)) .empty

variable (config : Q1MathConfig Decimal)

def applyLlmOverlay (baseAllocation : AllocationResult Decimal)
    (state : Q1ArmState) (midpointQuotes : Dict String Decimal)
    (decision : Option Q1LlmOverlayDecision) (asOf : Instant) :
    Except Failure (Dict String Decimal × Q1OverlayState) := do
  let receivables := state.val.unsettledReceivables.map fun item =>
    (item.val.receivableId, item.val.amountUsd)
  let current ← computeCurrentWeights state.val.positions state.val.settledCashUsd
    (dictOf id receivables) midpointQuotes config
  let (applied, overlayState) ← applyReduceOnlyOverlay
    (dictOf floatOf baseAllocation.targetWeights) (dictOf floatOf current.weights) decision asOf
  let result := applied.mapVal fun _ value => decimalOf value
  let deterministic := dictOf id baseAllocation.targetWeights
  raiseIf (∃ symbol ∈ config.val.riskySymbols, deterministic.getD symbol 0 < result.getD symbol 0)
    ⟨.q1CycleError, "LLM overlay attempted to increase risk", []⟩
  return (result, overlayState)

/-- The current weights of the arm can be computed. -/
def Valued (state : Q1ArmState)
    (midpointQuotes : Dict String Decimal) : Prop :=
  ∃ current, computeCurrentWeights state.val.positions state.val.settledCashUsd
    (dictOf id (state.val.unsettledReceivables.map fun item =>
      (item.val.receivableId, item.val.amountUsd))) midpointQuotes config = .ok current

/-- The weights of an allocation, up to rounding. -/
structure IsTarget (allocation : AllocationResult Decimal) (qqq soxx cash : Decimal) : Prop where
  weights : allocation.targetWeights = [("QQQ", qqq), ("SOXX", soxx), ("USD_CASH", cash)]
  qqq_nonneg : 0 ≤ qqq
  soxx_nonneg : 0 ≤ soxx
  risky : qqq + soxx ≤ 1 + 1 / 10 ^ 18

/-- What `allocate_q1` returns is a target, for every signal that it accepts. -/
theorem allocateQ1_isTarget {sqrt signal} {a c b : Decimal}
    (canonicalHash : AllocationPayload Decimal → String) (h : signal.IsValid a c b)
    (hsqrt : ∀ x, 0 < x → 0 < sqrt x) :
    ∃ allocation qqq soxx cash, allocateQ1 sqrt canonicalHash signal config = .ok allocation ∧
      IsTarget allocation qqq soxx cash := by
  obtain ⟨allocation, n, hok, -, hlimits⟩ := allocateQ1_ok config canonicalHash h hsqrt
  obtain ⟨hqqq, hsoxx, hcash⟩ := hlimits.nonneg
  refine ⟨allocation, _, _, _, hok, hlimits.targets, hqqq, hsoxx, ?_⟩
  linarith [hlimits.sum]

def throughFloat (value : Decimal) : Decimal := decimalOf (floatOf value)

def cashThroughFloat (qqq soxx : Decimal) : Decimal :=
  decimalOf (Binary64.round (1 - Binary64.round (floatOf qqq + floatOf soxx)))

/-- No risky weight is rounded up, and the rounded weights still add up to one. -/
structure Preserved (p : AllocationParameters Decimal) (qqq soxx : Decimal) : Prop where
  qqq_le : throughFloat qqq ≤ qqq
  soxx_le : throughFloat soxx ≤ soxx
  total : |throughFloat qqq + throughFloat soxx + cashThroughFloat qqq soxx - 1| ≤
    p.weightSumTolerance

/-- Without a decision the overlay changes nothing, and turnover control takes its result. -/
def Unharmed (allocation : AllocationResult Decimal)
    (state : Q1ArmState) (midpointQuotes : Dict String Decimal) (asOf : Instant) : Prop :=
  ∃ result proposed,
    applyLlmOverlay config allocation state midpointQuotes none asOf = .ok (result, .noChange) ∧
      normalizedWeightMapping result (config.val.riskySymbols ++ [config.val.cashSymbol]) config =
        .ok proposed

variable {config : Q1MathConfig Decimal} {allocation : AllocationResult Decimal}
  {state : Q1ArmState} {midpointQuotes : Dict String Decimal} {qqq soxx cash : Decimal}

theorem throughFloat_nonneg {value : Decimal} (h : 0 ≤ value) : 0 ≤ throughFloat value :=
  Binary64.shortest_nonneg (Binary64.round_nonneg h)

section

variable (h : IsTarget allocation qqq soxx cash)

include h

theorem IsTarget.risky_le_one :
    Binary64.round (floatOf qqq + floatOf soxx) ≤ 1 := by
  refine Binary64.round_add_le_one h.qqq_nonneg h.soxx_nonneg (h.risky.trans ?_)
  norm_num

theorem IsTarget.risky_nonneg :
    0 ≤ Binary64.round (floatOf qqq + floatOf soxx) :=
  Binary64.round_nonneg
    (add_nonneg (Binary64.round_nonneg h.qqq_nonneg) (Binary64.round_nonneg h.soxx_nonneg))

theorem IsTarget.cash_nonneg :
    0 ≤ cashThroughFloat qqq soxx :=
  Binary64.shortest_nonneg (Binary64.round_nonneg (sub_nonneg.mpr h.risky_le_one))

end

def floatWeights (qqq soxx : Decimal) : Dict String ℚ :=
  ((Dict.empty.set "QQQ" (floatOf qqq)).set "SOXX" (floatOf soxx)).set "USD_CASH"
    (Binary64.round (1 - Binary64.round (floatOf qqq + floatOf soxx)))

theorem IsTarget.applyReduceOnlyOverlay (h : IsTarget allocation qqq soxx cash)
    (currentWeights : Dict String ℚ) (asOf : Instant) :
    applyReduceOnlyOverlay (dictOf floatOf allocation.targetWeights) currentWeights none asOf =
      .ok (floatWeights qqq soxx, .noChange) := by
  have hqqq : (dictOf floatOf allocation.targetWeights).getD "QQQ" 0 = floatOf qqq := by
    rw [h.weights]
    rfl
  have hsoxx : (dictOf floatOf allocation.targetWeights).getD "SOXX" 0 = floatOf soxx := by
    rw [h.weights]
    rfl
  have hunknown : (dictOf floatOf allocation.targetWeights).keys.filter
      (· ∉ riskySymbols ++ ["USD_CASH"]) = [] := by
    rw [h.weights]
    rfl
  have hleverage : ¬1 + 1 / 10 ^ 12 < decimalOf (Binary64.round (floatOf qqq + floatOf soxx)) := by
    have hle := Binary64.shortest_le_one h.risky_nonneg h.risky_le_one
    rw [not_lt]
    exact hle.trans (by norm_num)
  have hbase : normalizeTarget (dictOf floatOf allocation.targetWeights) =
      .ok (floatWeights qqq soxx) := by
    have hqqq0 : max 0 (floatOf qqq) = floatOf qqq :=
      max_eq_right (Binary64.round_nonneg h.qqq_nonneg)
    have hsoxx0 : max 0 (floatOf soxx) = floatOf soxx :=
      max_eq_right (Binary64.round_nonneg h.soxx_nonneg)
    simp only [normalizeTarget, hunknown, hqqq, hsoxx, hqqq0, hsoxx0,
      raiseIf_neg _ (not_not.mpr rfl), raiseIf_neg _ hleverage, ok_bind]
    rfl
  simp only [Q1Overlay.applyReduceOnlyOverlay, hbase, ok_bind]
  rfl

def decimalWeights (qqq soxx : Decimal) : Dict String Decimal :=
  (floatWeights qqq soxx).mapVal fun _ value => decimalOf value

theorem getD_decimalWeights (qqq soxx : Decimal) :
    (decimalWeights qqq soxx).getD "QQQ" 0 = throughFloat qqq ∧
      (decimalWeights qqq soxx).getD "SOXX" 0 = throughFloat soxx ∧
      (decimalWeights qqq soxx).getD "USD_CASH" 0 = cashThroughFloat qqq soxx :=
  ⟨rfl, rfl, rfl⟩

section

variable (h : IsTarget allocation qqq soxx cash)

include h

theorem applyLlmOverlay_none_eq_ok {asOf : Instant} {outcome} :
    applyLlmOverlay config allocation state midpointQuotes none asOf = .ok outcome ↔
      Valued config state midpointQuotes ∧ throughFloat qqq ≤ qqq ∧ throughFloat soxx ≤ soxx ∧
        outcome = (decimalWeights qqq soxx, .noChange) := by
  have hrisk : (∃ symbol ∈ config.val.riskySymbols,
      (dictOf id allocation.targetWeights).getD symbol 0 <
        (decimalWeights qqq soxx).getD symbol 0) ↔
      ¬(throughFloat qqq ≤ qqq ∧ throughFloat soxx ≤ soxx) := by
    have hqqq : (dictOf id allocation.targetWeights).getD "QQQ" 0 = qqq := by
      rw [h.weights]
      rfl
    have hsoxx : (dictOf id allocation.targetWeights).getD "SOXX" 0 = soxx := by
      rw [h.weights]
      rfl
    obtain ⟨hqqq', hsoxx', -⟩ := getD_decimalWeights qqq soxx
    rw [config.bounded.2.1]
    simp only [mem_cons, not_mem_nil, or_false, exists_eq_or_imp, exists_eq_left, hqqq,
      hsoxx, hqqq', hsoxx', not_and_or, not_le]
  simp only [applyLlmOverlay, ok_iff, h.applyReduceOnlyOverlay, Except.ok.injEq, exists_eq_left']
  constructor
  · rintro ⟨current, hcurrent, hsafe, rfl⟩
    have hle := not_not.mp (hrisk.not.mp hsafe)
    exact ⟨⟨current, hcurrent⟩, hle.1, hle.2, rfl⟩
  · rintro ⟨⟨current, hcurrent⟩, hqqq, hsoxx, rfl⟩
    exact ⟨current, hcurrent, hrisk.not.mpr (not_not.mpr ⟨hqqq, hsoxx⟩), rfl⟩

theorem normalizedWeightMapping_decimalWeights :
    (∃ proposed, normalizedWeightMapping (decimalWeights qqq soxx)
        (config.val.riskySymbols ++ [config.val.cashSymbol]) config = .ok proposed) ↔
      |throughFloat qqq + throughFloat soxx + cashThroughFloat qqq soxx - 1| ≤
        config.val.allocation.weightSumTolerance := by
  obtain ⟨hqqq, hsoxx, hcash⟩ := getD_decimalWeights qqq soxx
  have hpass : ∀ {value : Decimal} (name : String), 0 ≤ value → nonNegative value name =
    .ok value := by
    intro value name hvalue
    simp only [nonNegative, raiseIf_neg _ (not_lt.mpr hvalue), ok_bind]
    rfl
  have hextras : ((decimalWeights qqq soxx).filter fun symbol value =>
      symbol ∉ ["QQQ", "SOXX", "USD_CASH"] ∧ value ≠ 0).keys = [] := by
    rw [eq_nil_iff_forall_not_mem]
    intro symbol hsymbol
    obtain ⟨entry, hentry, rfl⟩ := mem_map.mp hsymbol
    obtain ⟨hmem, hkeep⟩ := mem_filter.mp hentry
    have hkey : entry.1 ∈ ["QQQ", "SOXX", "USD_CASH"] :=
      mem_map_of_mem (f := Prod.fst) hmem
    exact (of_decide_eq_true hkeep).1 hkey
  let normalized : Dict String Decimal :=
    ((Dict.empty.set "QQQ" (throughFloat qqq)).set "SOXX" (throughFloat soxx)).set "USD_CASH"
      (cashThroughFloat qqq soxx)
  have hvalues : normalized.values =
      [throughFloat qqq, throughFloat soxx, cashThroughFloat qqq soxx] := rfl
  have hsigns : ¬∃ value ∈ normalized.values, value < 0 := by
    simp only [hvalues, mem_cons, not_mem_nil, or_false, exists_eq_or_imp,
      exists_eq_left, not_or, not_lt]
    exact ⟨throughFloat_nonneg h.qqq_nonneg, throughFloat_nonneg h.soxx_nonneg, h.cash_nonneg⟩
  have hmapping : normalizedWeightMapping (decimalWeights qqq soxx)
      (config.val.riskySymbols ++ [config.val.cashSymbol]) config = do
        validateBasicWeights normalized config.val.allocation
        return normalized := by
    rw [config.bounded.2.1, config.bounded.2.2]
    simp only [normalizedWeightMapping, cons_append, nil_append, hextras,
      raiseIf_neg _ (not_not.mpr rfl), ok_bind, foldlM_cons, foldlM_nil, hqqq, hsoxx, hcash,
      hpass _ (throughFloat_nonneg h.qqq_nonneg), hpass _ (throughFloat_nonneg h.soxx_nonneg),
      hpass _ h.cash_nonneg, pure_bind]
    rfl
  have hsum : normalized.values.sum =
      throughFloat qqq + throughFloat soxx + cashThroughFloat qqq soxx := by
    simp only [hvalues, sum_cons, sum_nil, add_zero]
    ring
  rw [hmapping]
  simp only [validateBasicWeights, raiseIf_neg _ hsigns, ok_bind, ok_iff, exists_and_left,
    exists_eq', and_true, hsum, not_lt]

theorem Unharmed.preserved {asOf : Instant}
    (unharmed : Unharmed config allocation state midpointQuotes asOf) :
    Valued config state midpointQuotes ∧ Preserved config.val.allocation qqq soxx := by
  obtain ⟨result, proposed, hoverlay, hproposed⟩ := unharmed
  obtain ⟨hvalued, hqqq, hsoxx, hresult⟩ := (applyLlmOverlay_none_eq_ok h).mp hoverlay
  rw [(Prod.mk.inj hresult).1] at hproposed
  exact ⟨hvalued, hqqq, hsoxx, (normalizedWeightMapping_decimalWeights h).mp ⟨_, hproposed⟩⟩

theorem unharmed_of_preserved (asOf : Instant) (valued : Valued config state midpointQuotes)
    (preserved : Preserved config.val.allocation qqq soxx) :
    Unharmed config allocation state midpointQuotes asOf := by
  obtain ⟨proposed, hproposed⟩ := (normalizedWeightMapping_decimalWeights h).mpr preserved.total
  exact ⟨_, proposed, (applyLlmOverlay_none_eq_ok h).mpr
    ⟨valued, preserved.qqq_le, preserved.soxx_le, rfl⟩, hproposed⟩

end

/-- A cycle without a policy goes on with its deterministic target exactly when no risky weight is
rounded up on its way through a float and the rounded weights add up to one. -/
theorem missing_decision_harmless_iff (h : IsTarget allocation qqq soxx cash) (asOf : Instant) :
    Unharmed config allocation state midpointQuotes asOf ↔
      Valued config state midpointQuotes ∧ Preserved config.val.allocation qqq soxx :=
  ⟨fun unharmed => unharmed.preserved h,
    fun ⟨valued, preserved⟩ => unharmed_of_preserved h asOf valued preserved⟩

def sampleCashArm : Q1ArmState where
  val :=
    { armId := .q1Llm
      initialNavUsd := 10000
      settledCashUsd := 10000
      unsettledReceivables := []
      positions := .empty
      sequence := 0
      evaluationAnchorId := none }
  valid := by decide +kernel

theorem sampleCashArm_valued : Valued shippedQ1Config sampleCashArm .empty :=
  let ⟨current, hcurrent, _⟩ := exists_of_any (p := fun _ => true)
    (show (computeCurrentWeights sampleCashArm.val.positions sampleCashArm.val.settledCashUsd
      (dictOf id []) .empty shippedQ1Config).toOption.any _ = true by decide +kernel)
  ⟨current, hcurrent⟩

def risingAllocation (variance : Decimal) : Except Failure (AllocationResult Decimal) :=
  allocateQ1 decimalSqrt (fun _ => "digest") (sampleSignal variance 0 variance 1 0) shippedQ1Config

theorem risingAllocation_isTarget {variance qqq : Decimal} (nonneg : 0 ≤ qqq) (le_one : qqq ≤ 1)
    (h : (risingAllocation variance).toOption.any (fun allocation => allocation.targetWeights =
      [("QQQ", qqq), ("SOXX", 0), ("USD_CASH", 1 - qqq)]) = true) :
    ∃ allocation, risingAllocation variance = .ok allocation ∧
      IsTarget allocation qqq 0 (1 - qqq) := by
  obtain ⟨allocation, hok, hweights⟩ := exists_of_any h
  refine ⟨allocation, hok, of_decide_eq_true hweights, nonneg, le_rfl, ?_⟩
  norm_num
  linarith

theorem risingHalf_isTarget : ∃ allocation, risingAllocation (9 / 100) = .ok allocation ∧
    IsTarget allocation (1 / 2) 0 (1 - 1 / 2) :=
  risingAllocation_isTarget (by norm_num) (by norm_num) (by decide +kernel)

theorem risingCapped_isTarget : ∃ allocation, risingAllocation (1 / 100) = .ok allocation ∧
    IsTarget allocation (4 / 5) 0 (1 - 4 / 5) :=
  risingAllocation_isTarget (by norm_num) (by norm_num) (by decide +kernel)

/-- Half of the portfolio in QQQ survives a missing decision. -/
theorem risingHalf_harmless : ∃ allocation, risingAllocation (9 / 100) = .ok allocation ∧
    Unharmed shippedQ1Config allocation sampleCashArm .empty 0 := by
  obtain ⟨allocation, hok, htarget⟩ := risingHalf_isTarget
  refine ⟨allocation, hok, (missing_decision_harmless_iff htarget 0).mpr
    ⟨sampleCashArm_valued, ?_, ?_, ?_⟩⟩
  all_goals decide +kernel

/-- QQQ at its cap does not: the cash weight comes back as 0.19999999999999996. -/
theorem risingCapped_harmed : ¬∀ allocation, risingAllocation (1 / 100) = .ok allocation →
    Unharmed shippedQ1Config allocation sampleCashArm .empty 0 := by
  intro harmless
  obtain ⟨allocation, hok, htarget⟩ := risingCapped_isTarget
  have htotal := ((harmless allocation hok).preserved htarget).2.total
  exact absurd htotal (by decide +kernel)

end AdaptiveQuant.Q1Cycle
