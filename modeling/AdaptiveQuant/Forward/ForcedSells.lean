import AdaptiveQuant.Forward.LatchedTargets
import AdaptiveQuant.Forward.SellOnlyPlan

/-! What a decision with a latch in force plans. -/

namespace AdaptiveQuant

open Guard Sequence

/-- A decision over an arm whose latch is set. -/
structure LatchedDecision (service : ForwardService) (effects : List DecisionEffectRow)
    (call : DecisionCall) (states : Dict String ArmState) (quotes : QuoteBundle)
    (core : ForwardCoreForecast) (target : ForwardTarget) (armId : String) (state : ArmState)
    (context : RiskContext) (latch : Dict String Decimal) : Prop where
  config : service.riskConfig.Sound
  core_symbol : service.coreSymbol = AdaptiveQuant.coreSymbol
  latest : latestStates call.tables.armStates (call.decisionArms service) call.createdAt =
    .ok states
  bundle : quoteBundle service call.tables (DecisionCall.quoteSymbols service states)
    call.createdAt = .ok quotes
  arm : states.get? armId = some state
  arm_id : state.armId = armId
  cash : 0 ≤ state.cashUsd
  positions : ∀ symbol, 0 ≤ state.quantity symbol
  securities : cashSymbol ∉ state.held.keys
  assessed : ∃ since, call.assessArm service since quotes armId state = .ok context
  controlled : armId ∈ service.lossControlArms.1
  hard : context.state.isHard = true
  latched : latchedForcedTargets effects armId call.createdAt = some latch
  core_vol : 0 ≤ core.annualizedVol
  target : call.armTarget service core quotes armId state = .ok target

section Property

variable (service : ForwardService) (quotes : QuoteBundle) (state : ArmState)

def residualQuantity (entry : String × Decimal) : Decimal := state.quantity entry.1 - max 0 entry.2

/-- The position is above its latched target by at least the smallest order. -/
def AboveTarget (entry : String × Decimal) : Prop :=
  0 < residualQuantity state entry ∧ service.riskConfig.minOrderNotionalUsd ≤
    residualQuantity state entry * (quoteOf quotes entry.1).bidPrice

/-- What is left to sell, in whole steps, is worth the least order. -/
def SellableInSteps (entry : String × Decimal) : Prop :=
  service.riskConfig.minOrderNotionalUsd ≤ floorQuantity (residualQuantity state entry)
    service.riskConfig.quantityPrecision * (quoteOf quotes entry.1).bidPrice

instance (entry : String × Decimal) : Decidable (AboveTarget service quotes state entry) := by
  unfold AboveTarget
  infer_instance

instance (entry : String × Decimal) : Decidable (SellableInSteps service quotes state entry) := by
  unfold SellableInSteps
  infer_instance

/-- The plan sells every symbol that is above its latched target. -/
def SellsDown (hash : Hashing) (runId : String) (effects : List DecisionEffectRow)
    (call : DecisionCall) (core : ForwardCoreForecast) (armId : String) (context : RiskContext)
    (latch : Dict String Decimal) : Prop :=
  ∃ plan, call.planArm service hash runId effects core quotes armId state context = .ok plan ∧
    ∀ entry ∈ latch.entries, AboveTarget service quotes state entry →
      ∃ intent ∈ plan.intents, intent.val.symbol = entry.1 ∧ intent.val.side = .sell

/-- Some arm holds the symbol, or it is the core. -/
def HeldOrCore (states : Dict String ArmState) (symbol : String) : Prop :=
  (∃ arm ∈ states.values, symbol ∈ arm.held.keys) ∨ symbol = coreSymbol

instance (states : Dict String ArmState) (symbol : String) :
    Decidable (HeldOrCore states symbol) := by
  unfold HeldOrCore
  infer_instance

end Property

section Arguments

variable {service : ForwardService} {call : DecisionCall} {quotes : QuoteBundle}

theorem todayTurnover_unsettled_nonneg (fills : List FillRow) (armId : String)
    (sessionOpen asOf : Instant) :
    0 ≤ (todayTurnover fills armId sessionOpen asOf).unsettledSaleProceeds := by
  unfold todayTurnover
  refine List.foldlRecOn _ _ (motive := fun acc : Turnover => 0 ≤ acc.unsettledSaleProceeds)
    le_rfl ?_
  intro acc hacc row _
  dsimp only
  split
  · exact hacc
  · exact add_nonneg hacc (le_max_left _ _)

theorem coreWeights_getD (weight : Decimal) : (coreWeights weight).getD coreSymbol 0 = weight := by
  simp [Dict.getD, Dict.get?, coreWeights]

/-- A target of an arm on a forecast, with a core weight that is not negative. -/
structure IsTarget (armId : String) (core : ForwardCoreForecast) (target : ForwardTarget) :
    Prop where
  arm : target.armId = armId
  forecast : target.coreForecast = core
  weight : 0 ≤ target.targetWeights.getD coreSymbol 0

variable {core : ForwardCoreForecast} {target : ForwardTarget} {armId : String} {state : ArmState}

theorem targetForArm_ok {policy} (h : targetForArm armId core policy = .ok target) :
    IsTarget armId core target := by
  simp only [targetForArm, ok_iff] at h
  obtain ⟨-, -, rfl⟩ := h
  refine ⟨rfl, rfl, ?_⟩
  rw [coreWeights_getD]
  exact le_min (le_max_right _ _) zero_le_one

theorem applyCoreRebalanceBand_ok {plain} {minWeightDelta : Decimal}
    (core_nonneg : 0 ≤ state.quantity coreSymbol * (quoteOf quotes coreSymbol).midpoint)
    (isTarget : IsTarget armId core plain)
    (h : applyCoreRebalanceBand plain state quotes minWeightDelta = .ok target) :
    IsTarget armId core target := by
  unfold applyCoreRebalanceBand at h
  split at h
  · cases h
    exact isTarget
  · simp only [bind_eq_ok] at h
    obtain ⟨-, -, h⟩ := h
    split at h
    · cases h
      exact isTarget
    · simp only [ok_iff] at h
      obtain ⟨-, hnav, h⟩ := h
      split at h
      · cases h
        exact isTarget
      · cases h
        refine ⟨isTarget.arm, isTarget.forecast, ?_⟩
        dsimp only
        rw [coreWeights_getD]
        exact div_nonneg core_nonneg (not_le.mp hnav).le

theorem armTarget_ok
    (core_nonneg : 0 ≤ state.quantity coreSymbol * (quoteOf quotes coreSymbol).midpoint)
    (h : call.armTarget service core quotes armId state = .ok target) :
    IsTarget armId core target := by
  simp only [DecisionCall.armTarget, bind_eq_ok] at h
  obtain ⟨plain, hplain, h⟩ := h
  have isTarget := targetForArm_ok hplain
  by_cases hbaseline : call.IsBaselineRebalance service
  · rw [if_pos hbaseline] at h
    exact applyCoreRebalanceBand_ok core_nonneg isTarget h
  · rw [if_neg hbaseline] at h
    cases h
    exact isTarget

end Arguments

section Decision

variable {service : ForwardService} {effects : List DecisionEffectRow} {call : DecisionCall}
  {states : Dict String ArmState} {quotes : QuoteBundle} {core : ForwardCoreForecast}
  {target : ForwardTarget} {armId : String} {state : ArmState} {context : RiskContext}
  {latch : Dict String Decimal}

namespace LatchedDecision

variable (d : LatchedDecision service effects call states quotes core target armId state context
  latch)
include d

theorem isBundle : IsBundle quotes (DecisionCall.quoteSymbols service states) call.createdAt :=
  quoteBundle_ok d.bundle

theorem mem_quotes {symbol : String} : symbol ∈ quotes.keys ↔ HeldOrCore states symbol := by
  rw [d.isBundle.keys, DecisionCall.mem_quoteSymbols, d.core_symbol, HeldOrCore]

theorem held_quoted {symbol : String} (h : symbol ∈ state.held.keys) : symbol ∈ quotes.keys :=
  d.mem_quotes.mpr (.inl ⟨state, Dict.mem_values_of_get? d.arm, h⟩)

theorem tradable {symbol : String} (h : symbol ∈ quotes.keys) : (quoteOf quotes symbol).Tradable :=
  d.isBundle.tradable symbol ((d.isBundle.keys symbol).mp h)

theorem controls : context.lossControlsApplied = true := by
  obtain ⟨since, hassess⟩ := d.assessed
  obtain ⟨-, -, -, hcontrols, -⟩ := DecisionCall.assessArm_ok hassess
  simpa [d.controlled] using hcontrols

theorem isTarget : IsTarget armId core target :=
  armTarget_ok (mul_nonneg (d.positions _)
    (d.tradable (d.mem_quotes.mpr (.inr rfl))).midpoint_pos.le) d.target

abbrev request
    (_ : LatchedDecision service effects call states quotes core target armId state context
    latch) (runId : String) : ForwardPlanRequest :=
  call.planRequest service runId quotes state context target (some latch)

theorem planArm_eq (hash : Hashing) (runId : String) :
    call.planArm service hash runId effects core quotes armId state context =
      buildForwardOrderPlan hash (d.request runId) := by
  have hlatch : call.latchedTargets effects armId context = some latch :=
    (latchedTargets_eq d.controls d.hard).trans d.latched
  simp only [DecisionCall.planArm, d.target, ok_bind,
    forcedTargets_of_latch d.controls d.hard hlatch]

variable (runId : String)

theorem nav_pos : 0 < (d.request runId).nav := by
  obtain ⟨since, hassess⟩ := d.assessed
  obtain ⟨openNav, peak, hguard, -, -⟩ := DecisionCall.assessArm_ok hassess
  obtain ⟨-, hnav, hpos, -, -⟩ := evaluateForwardLossGuard_ok hguard
  rw [← ForwardPlanRequest.start_value, Projection.value, ← midpointValue_filter]
  rw [hnav] at hpos
  exact hpos

theorem wellFormed : (d.request runId).WellFormed where
  config := d.config
  cash := d.cash
  positions := d.positions
  securities := d.securities
  tradable symbol h := d.tradable (d.held_quoted h)
  past quote hquote := by
    obtain ⟨entry, hentry, rfl⟩ := List.mem_map.mp (show quote ∈ quotes.values from hquote)
    have hmem := (d.isBundle.keys entry.1).mp (List.mem_map_of_mem hentry)
    have hpast := d.isBundle.past entry.1 hmem
    rwa [quoteOf, Dict.getD_of_get? (Dict.get?_eq_some.mpr hentry)] at hpast
  vol := by
    show 0 ≤ target.coreForecast.annualizedVol * _
    rw [d.isTarget.forecast]
    exact mul_nonneg d.core_vol d.isTarget.weight
  nav := d.nav_pos runId

theorem blockedEntries : (d.request runId).blockedEntries = true := by
  obtain ⟨since, hassess⟩ := d.assessed
  obtain ⟨openNav, peak, hguard, -, -⟩ := DecisionCall.assessArm_ok hassess
  obtain ⟨-, -, -, hblock, -⟩ := evaluateForwardLossGuard_ok hguard
  have hnormal : context.state ≠ .normal := by
    intro h
    have := d.hard
    rw [h] at this
    cases this
  have hentries : context.blockNewEntries = true := hblock.trans (decide_eq_true hnormal)
  simp [ForwardPlanRequest.blockedEntries, DecisionCall.planRequest, d.controls, hentries]

theorem forcedTargets_get? (runId symbol : String) :
    (d.request runId).forcedTargets.get? symbol = (latch.get? symbol).map (max 0) :=
  Dict.get?_mapVal _ _ _

theorem forcedTargets_keys : (d.request runId).forcedTargets.keys = latch.keys :=
  Dict.keys_mapVal _ _

theorem checkArguments_iff : (d.request runId).checkArguments = .ok () ↔
    ∀ symbol ∈ latch.keys, symbol ∈ quotes.keys := by
  obtain ⟨since, hassess⟩ := d.assessed
  obtain ⟨openNav, peak, hguard, -, hunsettled⟩ := DecisionCall.assessArm_ok hassess
  obtain ⟨hopen, -⟩ := evaluateForwardLossGuard_ok hguard
  rw [← d.forcedTargets_keys runId]
  refine ForwardPlanRequest.checkArguments_iff (d.arm_id.trans d.isTarget.arm.symm) hopen ?_
    (fun symbol h => d.held_quoted h) (d.mem_quotes.mpr (.inr rfl)) (d.nav_pos runId) ?_
  · show 0 ≤ context.unsettledSaleProceedsUsd
    rw [hunsettled]
    exact todayTurnover_unsettled_nonneg _ _ _ _
  · simp [DecisionCall.planRequest]

theorem planned_iff (quoted : ∀ symbol ∈ latch.keys, symbol ∈ quotes.keys) {entry}
    (mem : entry ∈ latch.entries) (above : AboveTarget service quotes state entry) :
    (∃ order ∈ (d.request runId).plannedSells, order.symbol = entry.1) ↔
      SellableInSteps service quotes state entry := by
  have htarget : (d.request runId).forcedTargets.get? entry.1 = some (max 0 entry.2) := by
    rw [d.forcedTargets_get?, Dict.get?_eq_some.mpr mem, Option.map_some]
  refine ForwardPlanRequest.plannedSells_forced (fun symbol h => d.tradable (quoted symbol ?_))
    d.config.minimum_pos htarget (sub_pos.mp above.1)
  rwa [d.forcedTargets_keys] at h

end LatchedDecision

/-- With a latch in force the plan is made and sells every symbol that is above its target exactly
when each latched symbol is the core or still held by a decision arm, and what is above a target
makes an order in steps of the quantity precision. -/
theorem latched_plan_sells_down_iff {service : ForwardService} {effects : List DecisionEffectRow}
    {call : DecisionCall} {states : Dict String ArmState} {quotes : QuoteBundle}
    {core : ForwardCoreForecast} {target : ForwardTarget} {armId : String} {state : ArmState}
    {context : RiskContext} {latch : Dict String Decimal}
    (d : LatchedDecision service effects call states quotes core target armId state context latch)
    (hash : Hashing) (runId : String) :
    SellsDown service quotes state hash runId effects call core armId context latch ↔
      (∀ symbol ∈ latch.keys, HeldOrCore states symbol) ∧
        ∀ entry ∈ latch.entries, AboveTarget service quotes state entry →
          SellableInSteps service quotes state entry := by
  have hquoted : (∀ symbol ∈ latch.keys, HeldOrCore states symbol) ↔
      (d.request runId).checkArguments = .ok () := by
    rw [d.checkArguments_iff]
    exact forall₂_congr fun symbol _ => d.mem_quotes.symm
  have hplan := fun arguments =>
    ForwardPlanRequest.sellOnlyPlan_ok hash (d.wellFormed runId) arguments
    (d.blockedEntries runId)
  constructor
  · rintro ⟨plan, hok, hsells⟩
    rw [d.planArm_eq] at hok
    have harguments : (d.request runId).checkArguments = .ok () := by
      have h := hok
      simp only [buildForwardOrderPlan, bind_eq_ok] at h
      obtain ⟨_, harguments, -⟩ := h
      exact harguments
    refine ⟨hquoted.mpr harguments, fun entry hentry above => ?_⟩
    obtain ⟨plan', hok', -, hfrom⟩ := hplan harguments
    obtain rfl : plan = plan' := Except.ok.inj (hok.symm.trans hok')
    obtain ⟨intent, hintent, hsymbol, -⟩ := hsells entry hentry above
    obtain ⟨order, horder, heq⟩ := hfrom intent hintent
    exact (d.planned_iff runId ((d.checkArguments_iff runId).mp harguments) hentry above).mp
      ⟨order, horder, heq.symm.trans hsymbol⟩
  · rintro ⟨hheld, hsteps⟩
    have harguments := hquoted.mp hheld
    obtain ⟨plan, hok, hsells, -⟩ := hplan harguments
    refine ⟨plan, (d.planArm_eq hash runId).trans hok, fun entry hentry above => ?_⟩
    obtain ⟨order, horder, hsymbol⟩ := (d.planned_iff runId
      ((d.checkArguments_iff runId).mp harguments) hentry above).mpr (hsteps entry hentry above)
    obtain ⟨intent, hintent, hintentSymbol, hside, -⟩ := hsells order horder
    exact ⟨intent, hintent, hintentSymbol.trans hsymbol, hside⟩

end Decision

section Sample

/-- `B3-RISK` with a leveraged position, at a drawdown of 12 percent. -/
def sampleLeveraged : DecisionCall :=
  sampleCheck "first" 100 480 ⟨[("SOXL", 2), ("QQQ", 3)], by decide⟩ fun symbol =>
    if symbol = "QQQ" then 100 else 50

def sampleSoldOut : DecisionCall :=
  sampleCheck "second" 200 580 ⟨[("SOXL", 0), ("QQQ", 3)], by decide⟩ fun symbol =>
    if symbol = "QQQ" then 100 else 50

def samplePartlySold : DecisionCall :=
  sampleCheck "second" 200 530 ⟨[("SOXL", 1), ("QQQ", 3)], by decide⟩ fun symbol =>
    if symbol = "QQQ" then 100 else 50

/-- What `B3-RISK` meets in `call` after `before`: the effects, the states of the decision arms, the
quotes, the target, the state, the context and the latch. -/
def sampleLatched (before call : DecisionCall) :
    Except Failure (List DecisionEffectRow × Dict String ArmState × QuoteBundle ×
      ForwardCoreForecast × ForwardTarget × ArmState × RiskContext × Dict String Decimal) := do
  let effects ← sampleService.decide Hashing.json "run" [] before
  let states ← latestStates call.tables.armStates (call.decisionArms sampleService) call.createdAt
  let quotes ← quoteBundle sampleService call.tables
    (DecisionCall.quoteSymbols sampleService states)
    call.createdAt
  let core ← call.tables.coreForecast
  match states.get? "B3-RISK", latchedForcedTargets effects "B3-RISK" call.createdAt with
  | some state, some latch =>
    let context ← call.assessArm sampleService 0 quotes "B3-RISK" state
    let target ← call.armTarget sampleService core quotes "B3-RISK" state
    return (effects, states, quotes, core, target, state, context, latch)
  | _, _ => .error ⟨.keyError, "B3-RISK", []⟩

def SampleSound (core : ForwardCoreForecast) (state : ArmState) (context : RiskContext) : Prop :=
  state.armId = "B3-RISK" ∧ 0 ≤ state.cashUsd ∧ (∀ entry ∈ state.positions.entries, 0 ≤ entry.2) ∧
    cashSymbol ∉ state.held.keys ∧ context.state.isHard = true ∧ 0 ≤ core.annualizedVol

instance (core : ForwardCoreForecast) (state : ArmState) (context : RiskContext) :
    Decidable (SampleSound core state context) := by
  unfold SampleSound
  infer_instance

theorem sampleLatched_ok {before call effects states quotes core target} {state : ArmState}
    {context latch}
    (h : sampleLatched before call =
      .ok (effects, states, quotes, core, target, state, context, latch))
    (sound : SampleSound core state context) :
    LatchedDecision sampleService effects call states quotes core target "B3-RISK" state context
      latch := by
  simp only [sampleLatched, bind_eq_ok] at h
  obtain ⟨effects', -, states', hstates, quotes', hquotes, core', -, h⟩ := h
  split at h
  · rename_i state' latch' hstate hlatch
    simp only [ok_iff, Prod.mk.injEq] at h
    obtain ⟨context', hcontext, target', htarget, rfl, rfl, rfl, rfl, rfl, rfl, rfl, rfl⟩ := h
    obtain ⟨harm, hcash, hpositions, hsecurities, hhard, hvol⟩ := sound
    refine ⟨shippedRiskConfig_sound, rfl, hstates, hquotes, hstate, harm, hcash, fun symbol => ?_,
      hsecurities, ⟨0, hcontext⟩, by decide, hhard, hlatch, hvol, htarget⟩
    unfold ArmState.quantity Dict.getD
    cases hget : state'.positions.get? symbol with
    | none => exact le_rfl
    | some quantity => exact hpositions (symbol, quantity) (Dict.get?_eq_some.mp hget)
  · cases h

/-- With the leveraged position sold out, the plan for the core fails for want of a quote. -/
theorem sampleSoldOut_not_sold_down : ∃ effects states quotes core target state context latch,
    LatchedDecision sampleService effects sampleSoldOut states quotes core target "B3-RISK" state
      context latch ∧
    ("QQQ", 3 / 2) ∈ latch.entries ∧ AboveTarget sampleService quotes state ("QQQ", 3 / 2) ∧
    sampleSoldOut.planArm sampleService Hashing.json "run" effects core quotes "B3-RISK" state
      context = .error (forwardRiskError "Forced target quote bundle is incomplete: ['SOXL']") ∧
    ¬SellsDown sampleService quotes state Hashing.json "run" effects sampleSoldOut core "B3-RISK"
      context latch := by
  have h : (sampleLatched sampleLeveraged sampleSoldOut).toOption.any
      (fun (effects, _, quotes, core, _, state, context, latch) =>
        SampleSound core state context ∧ ("QQQ", 3 / 2) ∈ latch.entries ∧
          AboveTarget sampleService quotes state ("QQQ", 3 / 2) ∧
          failure? (sampleSoldOut.planArm sampleService Hashing.json "run" effects core quotes
            "B3-RISK" state context) =
              some (forwardRiskError "Forced target quote bundle is incomplete: ['SOXL']")) =
                true := by
    decide +kernel
  obtain ⟨⟨effects, states, quotes, core, target, state, context, latch⟩, hok, h⟩ := exists_of_any h
  obtain ⟨hsound, hentry, habove, hfail⟩ := of_decide_eq_true h
  have hplan := failure?_eq_some.mp hfail
  refine ⟨effects, states, quotes, core, target, state, context, latch, sampleLatched_ok hok hsound,
    hentry, habove, hplan, ?_⟩
  rintro ⟨plan, hplanned, -⟩
  rw [hplan] at hplanned
  cases hplanned

/-- While the leveraged position is partly held, both positions are sold down. -/
theorem samplePartlySold_sold_down : ∃ effects states quotes core target state context latch,
    LatchedDecision sampleService effects samplePartlySold states quotes core target "B3-RISK" state
      context latch ∧
    AboveTarget sampleService quotes state ("SOXL", 0) ∧
    SellsDown sampleService quotes state Hashing.json "run" effects samplePartlySold core "B3-RISK"
      context latch := by
  have h : (sampleLatched sampleLeveraged samplePartlySold).toOption.any
      (fun (_, states, quotes, core, _, state, context, latch) =>
        SampleSound core state context ∧ AboveTarget sampleService quotes state ("SOXL", 0) ∧
          (∀ symbol ∈ latch.keys, HeldOrCore states symbol) ∧
          ∀ entry ∈ latch.entries, AboveTarget sampleService quotes state entry →
            SellableInSteps sampleService quotes state entry) = true := by
    decide +kernel
  obtain ⟨⟨effects, states, quotes, core, target, state, context, latch⟩, hok, h⟩ := exists_of_any h
  obtain ⟨hsound, habove, hcondition⟩ := of_decide_eq_true h
  have d := sampleLatched_ok hok hsound
  exact ⟨effects, states, quotes, core, target, state, context, latch, d, habove,
    (latched_plan_sells_down_iff d Hashing.json "run").mpr hcondition⟩

end Sample

end AdaptiveQuant
