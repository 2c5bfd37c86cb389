import AdaptiveQuant.Llm.Q1Overlay

/-! The bounds of the reduce-only overlay in exact arithmetic. `overlayIn` is the overlay with the
rounding of a float and its decimal text as parameters. -/

namespace AdaptiveQuant.Q1Overlay

open Guard

section Arithmetic

variable (round : ℚ → ℚ) (text : ℚ → Decimal)

def targetOf (qqq soxx cash : ℚ) : Dict String ℚ :=
  ((Dict.empty.set "QQQ" qqq).set "SOXX" soxx).set "USD_CASH" cash

/-- `normalizeTarget`. -/
def normalizeTargetIn (target : Dict String ℚ) : Except Failure (Dict String ℚ) := do
  let unknown := target.keys.filter (· ∉ riskySymbols ++ ["USD_CASH"])
  raiseIf (unknown ≠ []) ⟨.valueError,
    s!"Q1 overlay target contains unknown symbols: {reprList (Sequence.sortedBy id unknown)}", []⟩
  let qqq := max 0 (target.getD "QQQ" 0)
  let soxx := max 0 (target.getD "SOXX" 0)
  let risky := round (qqq + soxx)
  raiseIf (1 + 1 / 10 ^ 12 < text risky)
    ⟨.valueError, "Q1 deterministic target is leveraged", []⟩
  return targetOf qqq soxx (round (1 - risky))

/-- `reducedWeight`. -/
def reducedWeightIn (base currentWeights : Dict String ℚ) (decision : Q1LlmOverlayDecision)
    (symbol : String) : ℚ :=
  let deterministicWeight := base.getD symbol 0
  let reduced := round (deterministicWeight * decision.riskMultiplier)
  let reduced :=
    if decision.blockNewEntries then min reduced (max 0 (currentWeights.getD symbol 0)) else reduced
  min deterministicWeight (max 0 reduced)

/-- `applyReduceOnlyOverlay`. -/
def overlayIn (deterministicTarget currentWeights : Dict String ℚ)
    (decision : Option Q1LlmOverlayDecision) (asOf : Instant) :
    Except Failure (Dict String ℚ × Q1OverlayState) := do
  let base ← normalizeTargetIn round text deterministicTarget
  match decision with
  | none => return (base, .noChange)
  | some decision =>
    if asOf < decision.effectiveTime then return (base, .noChange)
    else if decision.expiryTime ≤ asOf then do
      let current ← normalizeTargetIn round text currentWeights
      return (current, .expiredAwaitingNextRebalance)
    else
      let qqq := reducedWeightIn round base currentWeights decision "QQQ"
      let soxx := reducedWeightIn round base currentWeights decision "SOXX"
      return (targetOf qqq soxx (round (1 - round (qqq + soxx))), .active)

end Arithmetic

theorem overlayIn_floats : overlayIn Binary64.round decimalOf = applyReduceOnlyOverlay := rfl

def exactOverlay : Dict String ℚ → Dict String ℚ → Option Q1LlmOverlayDecision → Instant →
    Except Failure (Dict String ℚ × Q1OverlayState) := overlayIn id id

variable (target : Dict String ℚ)

def clamped (symbol : String) : ℚ := max 0 (target.getD symbol 0)

def clampedCash : ℚ := 1 - (clamped target "QQQ" + clamped target "SOXX")

def normalized : Dict String ℚ :=
  targetOf (clamped target "QQQ") (clamped target "SOXX") (clampedCash target)

theorem targetOf_getD (qqq soxx cash : ℚ) : (targetOf qqq soxx cash).getD "QQQ" 0 = qqq ∧
    (targetOf qqq soxx cash).getD "SOXX" 0 = soxx ∧
    (targetOf qqq soxx cash).getD "USD_CASH" 0 = cash := ⟨rfl, rfl, rfl⟩

theorem clamped_nonneg (symbol : String) : 0 ≤ clamped target symbol :=
  le_max_left 0 _

theorem normalizeTarget_exact {target base : Dict String ℚ}
    (h : normalizeTargetIn id id target = .ok base) :
    base = normalized target ∧ -(1 / 10 ^ 12) ≤ clampedCash target := by
  simp only [normalizeTargetIn, ok_iff, not_lt, id]
    at h
  obtain ⟨-, hleverage, rfl⟩ := h
  refine ⟨rfl, ?_⟩
  unfold clampedCash clamped
  linarith

/-- What every overlay keeps: the risky weights rise only when the policy expired. -/
structure Bounded (deterministicTarget currentWeights : Dict String ℚ)
    (decision : Option Q1LlmOverlayDecision) (target : Dict String ℚ)
    (state : Q1OverlayState) : Prop where
  symbols : target.keys = ["QQQ", "SOXX", "USD_CASH"]
  total : target.values.sum = 1
  risky_nonneg : ∀ symbol ∈ riskySymbols, 0 ≤ target.getD symbol 0
  cash_ge : -(1 / 10 ^ 12) ≤ target.getD "USD_CASH" 0
  risky_le : state ≠ .expiredAwaitingNextRebalance → ∀ symbol ∈ riskySymbols,
    target.getD symbol 0 ≤ clamped deterministicTarget symbol
  deterministic_cash : state ≠ .expiredAwaitingNextRebalance →
    clampedCash deterministicTarget ≤ target.getD "USD_CASH" 0
  no_entry : state = .active → (∃ d ∈ decision, d.blockNewEntries = true) →
    ∀ symbol ∈ riskySymbols, target.getD symbol 0 ≤ clamped currentWeights symbol
  expired : state = .expiredAwaitingNextRebalance → target = normalized currentWeights

section Bounds

variable {deterministicTarget currentWeights target : Dict String ℚ}
  {decision : Option Q1LlmOverlayDecision} {state : Q1OverlayState} {asOf : Instant}

theorem forall_risky {P : String → Prop} : (∀ symbol ∈ riskySymbols, P symbol) ↔
    P "QQQ" ∧ P "SOXX" := by
  simp [riskySymbols]

theorem reducedWeight_bounds (base : Dict String ℚ) (d : Q1LlmOverlayDecision) (symbol : String)
    (h : 0 ≤ base.getD symbol 0) :
    0 ≤ reducedWeightIn id base currentWeights d symbol ∧
    reducedWeightIn id base currentWeights d symbol ≤ base.getD symbol 0 ∧
    (d.blockNewEntries = true →
      reducedWeightIn id base currentWeights d symbol ≤ clamped currentWeights symbol) := by
  unfold reducedWeightIn
  refine ⟨le_min h (le_max_left 0 _), min_le_left _ _, fun hblock => ?_⟩
  simp only [if_pos hblock]
  apply (min_le_right _ _).trans
  exact max_le (clamped_nonneg currentWeights symbol) (min_le_right _ _)

theorem normalized_bounded (hstate : state ≠ .active)
    (hcash : -(1 / 10 ^ 12) ≤ clampedCash target)
    (hsource : if state = .expiredAwaitingNextRebalance then target = currentWeights
      else target = deterministicTarget) :
    Bounded deterministicTarget currentWeights decision (normalized target) state := by
  obtain ⟨hqqq, hsoxx, hcashD⟩ :=
    targetOf_getD (clamped target "QQQ") (clamped target "SOXX") (clampedCash target)
  constructor
  · rfl
  · show (clamped target "QQQ" + (clamped target "SOXX" + (clampedCash target + 0))) = 1
    unfold clampedCash
    ring
  · rw [forall_risky]
    exact ⟨clamped_nonneg target "QQQ", clamped_nonneg target "SOXX"⟩
  · exact hcash
  · intro hfresh
    rw [if_neg hfresh] at hsource
    rw [forall_risky, ← hsource]
    exact ⟨le_rfl, le_rfl⟩
  · intro hfresh
    rw [if_neg hfresh] at hsource
    rw [← hsource]
    exact le_rfl
  · intro hactive
    exact absurd hactive hstate
  · intro hexpired
    rw [if_pos hexpired] at hsource
    rw [hsource]

theorem active_bounded (d : Q1LlmOverlayDecision)
    (hcash : -(1 / 10 ^ 12) ≤ clampedCash deterministicTarget) :
    let base := normalized deterministicTarget
    let qqq := reducedWeightIn id base currentWeights d "QQQ"
    let soxx := reducedWeightIn id base currentWeights d "SOXX"
    Bounded deterministicTarget currentWeights (some d) (targetOf qqq soxx (1 - (qqq + soxx)))
      .active := by
  intro base qqq soxx
  obtain ⟨hqqq, hqqqLe, hqqqEntry⟩ := @reducedWeight_bounds currentWeights base d "QQQ"
    (clamped_nonneg deterministicTarget "QQQ")
  obtain ⟨hsoxx, hsoxxLe, hsoxxEntry⟩ := @reducedWeight_bounds currentWeights base d "SOXX"
    (clamped_nonneg deterministicTarget "SOXX")
  have hcashLe : clampedCash deterministicTarget ≤ 1 - (qqq + soxx) := by
    have hq : qqq ≤ clamped deterministicTarget "QQQ" := hqqqLe
    have hs : soxx ≤ clamped deterministicTarget "SOXX" := hsoxxLe
    unfold clampedCash
    linarith
  constructor
  · rfl
  · show qqq + (soxx + (1 - (qqq + soxx) + 0)) = 1
    ring
  · rw [forall_risky]
    exact ⟨hqqq, hsoxx⟩
  · exact hcash.trans hcashLe
  · rw [forall_risky]
    exact fun _ => ⟨hqqqLe, hsoxxLe⟩
  · exact fun _ => hcashLe
  · rintro - ⟨d', hd, hblock⟩
    obtain rfl : d = d' := Option.some.inj hd
    rw [forall_risky]
    exact ⟨hqqqEntry hblock, hsoxxEntry hblock⟩
  · intro hexpired
    cases hexpired

/-- Every target that the overlay returns is within its bounds. -/
theorem exactOverlay_bounded
    (h : exactOverlay deterministicTarget currentWeights decision asOf = .ok (target, state)) :
    Bounded deterministicTarget currentWeights decision target state := by
  simp only [exactOverlay, overlayIn, bind_eq_ok] at h
  obtain ⟨base, hbase, h⟩ := h
  obtain ⟨rfl, hcash⟩ := normalizeTarget_exact hbase
  have hunchanged : Bounded deterministicTarget currentWeights decision
      (normalized deterministicTarget) .noChange := normalized_bounded (by decide) hcash rfl
  cases decision with
  | none =>
    obtain ⟨rfl, rfl⟩ := Prod.mk.inj (pure_eq_ok.mp h)
    exact hunchanged
  | some d =>
    simp only at h
    split at h
    · obtain ⟨rfl, rfl⟩ := Prod.mk.inj (pure_eq_ok.mp h)
      exact hunchanged
    split at h
    · simp only [bind_eq_ok] at h
      obtain ⟨current, hcurrent, h⟩ := h
      obtain ⟨rfl, hcurrentCash⟩ := normalizeTarget_exact hcurrent
      obtain ⟨rfl, rfl⟩ := Prod.mk.inj (pure_eq_ok.mp h)
      exact normalized_bounded (by decide) hcurrentCash rfl
    · obtain ⟨rfl, rfl⟩ := Prod.mk.inj (pure_eq_ok.mp h)
      exact active_bounded d hcash

end Bounds

def samplePolicy : Q1LlmOverlayDecision where
  riskMultiplier := 1
  blockNewEntries := false
  effectiveTime := 0
  expiryTime := 10
  allowed := by decide
  window := by decide

def smallTarget : Dict String ℚ := targetOf (1 / 5) 0 (4 / 5)

def heldTarget : Dict String ℚ := targetOf (3 / 5) 0 (2 / 5)

def fullTarget : Dict String ℚ := targetOf (1 + 1 / 10 ^ 13) 0 0

theorem smallTarget_expired : exactOverlay smallTarget heldTarget (some samplePolicy) 10 =
    .ok (heldTarget, .expiredAwaitingNextRebalance) := by decide +kernel

/-- An expired policy leaves the current weights, and the tolerance of the leverage check a negative
cash. -/
theorem overlay_exceeds_target :
    (∃ target, exactOverlay smallTarget heldTarget (some samplePolicy) 10 =
      .ok (target, .expiredAwaitingNextRebalance) ∧
      smallTarget.getD "QQQ" 0 < target.getD "QQQ" 0) ∧
    ∃ target, exactOverlay fullTarget heldTarget (some samplePolicy) 5 = .ok (target, .active) ∧
      target.getD "USD_CASH" 0 < 0 := by
  refine ⟨⟨heldTarget, smallTarget_expired, by decide +kernel⟩, ?_⟩
  exact ⟨targetOf (1 + 1 / 10 ^ 13) 0 (-(1 / 10 ^ 13)), by decide +kernel, by decide +kernel⟩

theorem half_allowed : (1 / 2 : ℚ) ∈ [1, 3 / 4, 1 / 2] := by
  decide +kernel

def blockingPolicy : Q1LlmOverlayDecision :=
  { samplePolicy with riskMultiplier := 1 / 2, blockNewEntries := true, allowed := half_allowed }

/-- Half of the target would be three tenths of QQQ, but two tenths are held and no entry is
allowed. -/
theorem blockedTarget_bounded :
    Bounded heldTarget smallTarget (some blockingPolicy) smallTarget .active ∧
    Bounded smallTarget heldTarget (some samplePolicy) heldTarget
      .expiredAwaitingNextRebalance := by
  have hactive : exactOverlay heldTarget smallTarget (some blockingPolicy) 5 =
      .ok (smallTarget, .active) := by
    decide +kernel
  exact ⟨exactOverlay_bounded hactive, exactOverlay_bounded smallTarget_expired⟩

end AdaptiveQuant.Q1Overlay
