import AdaptiveQuant.Forward.ForcedTargets
import AdaptiveQuant.Lib.Run
import AdaptiveQuant.Domain.CanonicalText

/-! The forced targets of an arm over whole runs of decisions. -/

namespace AdaptiveQuant

open Guard Sequence List

variable {service : ForwardService} {hash : Hashing} {runId : String}

def latchRow (effects : List DecisionEffectRow) (armId : String) (asOf : Instant) :
    Option DecisionEffectRow :=
  (latchRows effects asOf).find? fun row => (row.latch armId).isSome

theorem latchRow_of_latched {effects} {armId : String} {asOf : Instant} {targets}
    (h : latchedForcedTargets effects armId asOf = some targets) :
    ∃ row ∈ effects, latchRow effects armId asOf = some row ∧ row.latch armId =
      some (some targets) := by
  have hfound : (latchRows effects asOf).findSome? (·.latch armId) = some (some targets) := by
    unfold latchedForcedTargets at h
    cases hsome : (latchRows effects asOf).findSome? (·.latch armId) with
    | none => simp [hsome] at h
    | some latch =>
      rw [hsome] at h
      exact congrArg some h
  have hrows : ∀ row ∈ latchRows effects asOf, row ∈ effects := by
    intro row hrow
    have hmem := mem_of_mem_take hrow
    rw [mem_reverse, mem_sortedBy] at hmem
    exact mem_of_mem_filter hmem
  unfold latchRow
  generalize latchRows effects asOf = rows at hfound hrows
  induction rows with
  | nil => simp at hfound
  | cons row rest ih =>
    rw [List.findSome?_cons] at hfound
    split at hfound
    · rename_i latch hlatch
      refine ⟨row, hrows row mem_cons_self, ?_, hlatch.trans hfound⟩
      rw [List.find?_cons_of_pos (by simp [hlatch])]
    · rename_i hlatch
      rw [List.find?_cons_of_neg (by simp [hlatch])]
      exact ih hfound fun row' hrow' => hrows row' (mem_cons_of_mem _ hrow')

/-- The rows of one hard-loss episode of an arm: a decision at a force threshold without a latch
opens it, and each later one that finds the latch stores the same targets again. -/
inductive HardEpisode (service : ForwardService) (hash : Hashing)
    (taken : List (List DecisionEffectRow × DecisionCall)) (armId : String)
    (targets : Dict String Decimal) : DecisionEffectRow → Prop
  | opened {effects : List DecisionEffectRow} {call : DecisionCall} {payload : DecisionPayload}
      {quotes : QuoteBundle} {state : ArmState} {context : RiskContext}
      {built : Dict String Decimal} (made : (effects, call) ∈ taken)
      (meets : call.MeetsArm service quotes armId state context)
      (forces : ∃ budget, context.forcedSellBudgetUsd = some budget ∧ 0 < budget)
      (free : call.latchedTargets effects armId context = none)
      (covers : CoversHoldings service.riskConfig quotes state context.currentNavUsd built)
      (frozen : targets = freeze built)
      (stored : (call.effectRow hash payload).latch armId = some (some targets)) :
      HardEpisode service hash taken armId targets (call.effectRow hash payload)
  | continued {effects : List DecisionEffectRow} {call : DecisionCall} {payload : DecisionPayload}
      {previous : DecisionEffectRow} (made : (effects, call) ∈ taken)
      (found : latchRow effects armId call.createdAt = some previous)
      (episode : HardEpisode service hash taken armId targets previous)
      (stored : (call.effectRow hash payload).latch armId = some (some targets)) :
      HardEpisode service hash taken armId targets (call.effectRow hash payload)

variable {taken taken' : List (List DecisionEffectRow × DecisionCall)} {armId : String}
  {targets : Dict String Decimal} {row : DecisionEffectRow}

theorem HardEpisode.mono (h : HardEpisode service hash taken armId targets row)
    (sub : taken ⊆ taken') : HardEpisode service hash taken' armId targets row := by
  induction h with
  | opened made meets forces free covers frozen stored =>
    exact .opened (sub made) meets forces free covers frozen stored
  | continued made found _ stored ih => exact .continued (sub made) found ih stored

theorem HardEpisode.freeze_eq (h : HardEpisode service hash taken armId targets row) :
    freeze targets = targets := by
  induction h with
  | opened _ _ _ _ _ frozen _ => rw [frozen, freeze_freeze]
  | continued _ _ _ _ ih => exact ih

theorem buildForwardOrderPlan_forced {request plan}
    (h : buildForwardOrderPlan hash request = .ok plan) :
    plan.diagnostics.forcedTargetQuantities =
      freeze (request.forcedTargetQuantities.getD .empty) := by
  simp only [buildForwardOrderPlan, ok_iff] at h
  obtain ⟨-, -, -, -, -, -, -, -, rfl⟩ := h
  rfl

section Call

variable {call : DecisionCall} {effects effects' : List DecisionEffectRow}

/-- A payload that hands a latch on comes from the plan of an arm with a hard guard. -/
def HandsOn (service : ForwardService) (effects : List DecisionEffectRow) (call : DecisionCall)
    (armId : String) (targets : Dict String Decimal) : Prop :=
  ∃ quotes state context forced, call.MeetsArm service quotes armId state context ∧
    context.state.isHard ∧ call.forcedTargets service effects quotes armId state context =
      .ok forced ∧
    targets = freeze (forced.getD .empty)

theorem planArms_handsOn {core quotes contexts payload}
    (meets : ∀ arm ∈ contexts, call.MeetsArm service quotes arm.1 arm.2.1 arm.2.2)
    (h : call.planArms service hash runId effects core quotes contexts = .ok payload)
    (latch : (call.effectRow hash payload).latch armId = some (some targets)) :
    HandsOn service effects call armId targets := by
  simp only [DecisionCall.planArms, ok_iff] at h
  obtain ⟨plans, hplans, -, -, -, -, rfl⟩ := h
  simp only [DecisionEffectRow.latch, DecisionCall.effectRow, DecisionCall.committedPayload,
    Option.bind_some, Option.bind_none] at latch
  split at latch
  · rename_i effect heffect
    split at latch
    · cases latch
    · rename_i hhard
      obtain ⟨plan, hplan, harm, rfl⟩ :=
        (Dict.exists_of_get?_foldl_set _ _ heffect).resolve_right (by simp)
      obtain ⟨arm, hmem, hbuilt⟩ := mem_of_mapM_eq_ok hplans plan hplan
      simp only [ok_iff] at hbuilt
      obtain ⟨built, hbuilt, rfl⟩ := hbuilt
      obtain rfl : arm.1 = armId := harm
      simp only [DecisionCall.planArm, bind_eq_ok] at hbuilt
      obtain ⟨target, -, forced, hforced, hplanned⟩ := hbuilt
      refine ⟨quotes, arm.2.1, arm.2.2, forced, meets arm hmem, not_not.mp hhard, hforced, ?_⟩
      rw [← Option.some.inj (Option.some.inj latch)]
      exact buildForwardOrderPlan_forced hplanned
  · cases latch

theorem decideFresh_handsOn {payload}
    (h : call.decideFresh service hash runId effects = .ok payload)
    (latch : (call.effectRow hash payload).latch armId = some (some targets)) :
    HandsOn service effects call armId targets := by
  have effectOnly : ∀ {payload' : DecisionPayload}, payload'.arms = none →
      call.persistEffectOnly payload' = .ok payload →
        HandsOn service effects call armId targets := by
    intro payload' harms hpersist
    simp only [DecisionCall.persistEffectOnly, ok_iff] at hpersist
    obtain ⟨-, -, rfl⟩ := hpersist
    simp only [DecisionEffectRow.latch, DecisionCall.effectRow, harms, Option.bind_none] at latch
    split at latch
    · split at latch <;> cases latch
    · cases latch
  simp only [DecisionCall.decideFresh, bind_eq_ok] at h
  obtain ⟨-, -, -, -, h⟩ := h
  split at h
  · cases h
  · rename_i since _
    split at h
    · exact effectOnly rfl h
    · split at h
      · exact effectOnly rfl h
      · simp only [DecisionCall.decideInWindow, bind_eq_ok] at h
        obtain ⟨states, hstates, core, -, quotes, hquotes, contexts, hcontexts, h⟩ := h
        split at h
        · exact effectOnly rfl h
        · exact planArms_handsOn (fun arm harm => ⟨since, states, contexts, hstates, hquotes,
            hcontexts, harm⟩) h latch

theorem decide_rows (h : service.decide hash runId effects call = .ok effects') (row)
    (mem : row ∈ effects') : row ∈ effects ∨ ∃ payload, row = call.effectRow hash payload ∧
      ∀ targets, row.latch armId = some (some targets) →
        HandsOn service effects call armId targets := by
  simp only [ForwardService.decide, bind_eq_ok] at h
  obtain ⟨-, -, h⟩ := h
  split at h
  · cases h
    exact .inl mem
  · simp only [ok_iff] at h
    obtain ⟨payload, hpayload, rfl⟩ := h
    rcases mem_append.mp mem with mem | mem
    · exact .inl mem
    · rw [mem_singleton] at mem
      exact .inr ⟨payload, mem, fun targets latch => decideFresh_handsOn hpayload (mem ▸ latch)⟩

end Call

section Resolution

variable {call : DecisionCall} {effects : List DecisionEffectRow} {quotes : QuoteBundle}
  {state : ArmState} {context : RiskContext} {forced : Option (Dict String Decimal)}

theorem forcedTargets_of_latch (controls : context.lossControlsApplied = true)
    (hard : context.state.isHard = true) {latch}
    (h : call.latchedTargets effects armId context = some latch) :
    call.forcedTargets service effects quotes armId state context = .ok (some latch) := by
  simp [DecisionCall.forcedTargets, resolveForcedReductionTargets, controls, hard, h]

theorem forcedTargets_of_free (controls : context.lossControlsApplied = true)
    (hard : context.state.isHard = true) (h : call.latchedTargets effects armId context = none) :
    call.forcedTargets service effects quotes armId state context =
      if context.forcedSellBudgetUsd.all (· ≤ 0) then .ok none
      else some <$> buildForcedReductionTargets service.riskConfig quotes state
        context.currentNavUsd := by
  simp [DecisionCall.forcedTargets, resolveForcedReductionTargets, controls, hard, h]

theorem forcedTargets_of_benchmark (controls : context.lossControlsApplied = false) :
    call.forcedTargets service effects quotes armId state context = .ok none := by
  simp [DecisionCall.forcedTargets, resolveForcedReductionTargets, controls]

theorem latchedTargets_eq (controls : context.lossControlsApplied = true)
    (hard : context.state.isHard = true) :
    call.latchedTargets effects armId context =
      latchedForcedTargets effects armId call.createdAt := by
  simp [DecisionCall.latchedTargets, controls, hard]

theorem freeze_eq_nil {targets} :
    (freeze targets).entries = [] ↔ targets.entries = [] := by
  simp [freeze, Dict.sorted, Dict.sortedItems, Dict.mapVal]

/-- Every latch in the rows belongs to a hard-loss episode, unless it is empty. -/
def LatchesTraced (service : ForwardService) (hash : Hashing)
    (taken : List (List DecisionEffectRow × DecisionCall)) (armId : String)
    (effects : List DecisionEffectRow) : Prop :=
  ∀ row ∈ effects, ∀ targets, row.latch armId = some (some targets) → targets.entries ≠ [] →
    HardEpisode service hash taken armId targets row

theorem LatchesTraced.extend {payload} (traced : LatchesTraced service hash taken armId effects)
    (made : (effects, call) ∈ taken)
    (stored : (call.effectRow hash payload).latch armId = some (some targets))
    (nonempty : targets.entries ≠ []) (hands : HandsOn service effects call armId targets) :
    HardEpisode service hash taken armId targets (call.effectRow hash payload) := by
  obtain ⟨quotes, state, context, forced, meets, hard, hforced, rfl⟩ := hands
  have hsome : ∀ {latch}, forced = some latch → latch.entries ≠ [] := by
    rintro latch rfl hnil
    exact nonempty (freeze_eq_nil.mpr hnil)
  have hnone : forced ≠ none := by
    rintro rfl
    exact nonempty rfl
  cases controls : context.lossControlsApplied with
  | false =>
    rw [forcedTargets_of_benchmark controls] at hforced
    exact absurd (Except.ok.inj hforced).symm hnone
  | true =>
    cases hlatch : call.latchedTargets effects armId context with
    | some latch =>
      rw [forcedTargets_of_latch controls hard hlatch] at hforced
      obtain rfl : some latch = forced := Except.ok.inj hforced
      rw [latchedTargets_eq controls hard] at hlatch
      obtain ⟨previous, hmem, hfound, hprevious⟩ := latchRow_of_latched hlatch
      have episode := traced previous hmem latch hprevious (hsome rfl)
      rw [Option.getD_some, episode.freeze_eq] at stored ⊢
      exact .continued made hfound episode stored
    | none =>
      rw [forcedTargets_of_free controls hard hlatch] at hforced
      split at hforced
      · exact absurd (Except.ok.inj hforced).symm hnone
      · rename_i hbudget
        have forces : ∃ budget, context.forcedSellBudgetUsd = some budget ∧ 0 < budget := by
          cases hsell : context.forcedSellBudgetUsd with
          | none => simp [hsell] at hbudget
          | some budget => exact ⟨budget, rfl, by simpa [hsell] using hbudget⟩
        cases hbuilt : buildForcedReductionTargets service.riskConfig quotes state
            context.currentNavUsd with
        | error e =>
          rw [hbuilt] at hforced
          cases hforced
        | ok built =>
          rw [hbuilt] at hforced
          cases hforced
          exact .opened made meets forces hlatch (buildForcedReductionTargets_covers hbuilt) rfl
            stored

theorem latches_traced (armId : String) {effects}
    (run : Run (service.decide hash runId) [] taken effects) :
    LatchesTraced service hash taken armId effects := by
  induction run with
  | start =>
    intro row hrow
    cases hrow
  | @next taken effects effects' call run ok ih =>
    have sub : taken ⊆ taken ++ [(effects, call)] := subset_append_left _ _
    have traced : LatchesTraced service hash (taken ++ [(effects, call)]) armId effects :=
      fun row hrow targets hlatch hne => (ih row hrow targets hlatch hne).mono sub
    intro row hrow targets hlatch hne
    rcases decide_rows ok row hrow with hold | ⟨payload, rfl, hands⟩
    · exact traced row hold targets hlatch hne
    · exact traced.extend (by simp) hlatch hne (hands targets hlatch)

end Resolution

/-- Whenever the guard of a loss-controlled arm forces a reduction, the decision plans with targets
that cover what the arm holds, or with the latch of its episode. -/
theorem forced_targets_resolved {service : ForwardService} {hash : Hashing} {runId : String}
    {taken : List (List DecisionEffectRow × DecisionCall)} {effects : List DecisionEffectRow}
    (run : Run (service.decide hash runId) [] taken effects) {call : DecisionCall}
    {quotes : QuoteBundle} {armId : String} {state : ArmState} {context : RiskContext}
    (meets : call.MeetsArm service quotes armId state context)
    (controlled : armId ∈ service.lossControlArms.1) {budget : Decimal}
    (forces : context.forcedSellBudgetUsd = some budget)
    (positive : 0 < budget ∨ 0 < service.riskConfig.forceReduceCoreFraction) :
    ∃ forced, call.forcedTargets service effects quotes armId state context = .ok forced ∧
      (call.latchedTargets effects armId context = none →
        CoversHoldings service.riskConfig quotes state context.currentNavUsd
          (forced.getD .empty)) ∧
      ∀ latch, call.latchedTargets effects armId context = some latch → latch.entries ≠ [] →
        forced = some latch ∧ ∃ row ∈ effects,
          latchRow effects armId call.createdAt = some row ∧
          HardEpisode service hash taken armId latch row := by
  obtain ⟨openNav, peak, hguard⟩ := meets.guard
  obtain ⟨-, hnav, hpos, -, hbudget⟩ := evaluateForwardLossGuard_ok hguard
  obtain ⟨hard, hbudget⟩ := hbudget budget forces
  have controls : context.lossControlsApplied = true := by
    simpa [controlled] using meets.lossControlsApplied
  cases hlatch : call.latchedTargets effects armId context with
  | some latch =>
    refine ⟨some latch, forcedTargets_of_latch controls hard hlatch, by simp, ?_⟩
    rintro latch' hsome hne
    obtain rfl : latch = latch' := Option.some.inj hsome
    rw [latchedTargets_eq controls hard] at hlatch
    obtain ⟨row, hmem, hfound, hrow⟩ := latchRow_of_latched hlatch
    exact ⟨rfl, row, hmem, hfound, latches_traced armId run row hmem latch hrow hne⟩
  | none =>
    rw [forcedTargets_of_free controls hard hlatch, forces]
    by_cases hle : budget ≤ 0
    · refine ⟨none, by simp [hle], fun _ => ?_, by simp⟩
      have priced : Priced quotes state := fun symbol held =>
        (meets.tradable (ArmState.mem_held_of_pos held)).midpoint_pos
      exact covers_of_no_budget (positive.resolve_left (not_lt.mpr hle)) priced hbudget hle
    · have hbuilt : ∃ built, buildForcedReductionTargets service.riskConfig quotes state
          context.currentNavUsd = .ok built := by
        rw [buildForcedReductionTargets, raiseIf_neg _ (not_le.mpr hpos)]
        exact ⟨_, rfl⟩
      obtain ⟨built, hbuilt⟩ := hbuilt
      refine ⟨some built, by simp [hle, hbuilt], fun _ => ?_, by simp⟩
      exact buildForcedReductionTargets_covers hbuilt

section Sample

def sampleService : ForwardService where
  riskConfig := shippedRiskConfig
  orderEnabledArms := ["B0-CASH", "B0-QQQ", "B0-VOL", "B3-RISK"]
  lossControlArms := ⟨["B3-RISK"], by decide⟩
  rebalanceTimeEt := "15:45"
  minRebalanceWeightDelta := 5 / 100
  coreSymbol := "QQQ"
  maxQuoteAgeSeconds := 15
  maxSpreadBps := ⟨[("QQQ", 15), ("SOXX", 25), ("SMH", 25), ("XLK", 20)], by decide⟩
  defaultMaxSpreadBps := 40
  maxQuoteSkewSeconds := 20
  newYorkClock _ := "10:05"
  regularOpen _ := 10
  regularClose _ := 1000

/-- A loss check of `B3-RISK`, whose NAV was 1000 at its peak and 900 at the session open. -/
def sampleCheck (cycleId : String) (now : Instant) (cash : Decimal)
    (positions : Dict String Decimal) (price : String → Decimal) : DecisionCall where
  cycleId := cycleId
  scheduledAt := now
  dataAvailableCutoff := now
  createdAt := now
  lossTriggerOnly := true
  tables := {
    runCheck := .ok ()
    completion := some 0
    armStates := [⟨"B3-RISK", 1, 0, ⟨"B3-RISK", 1000, cash, positions, 1⟩⟩]
    navs := [⟨"B3-RISK", 0, 1000⟩, ⟨"B3-RISK", 10, 900⟩]
    fills := []
    connected := true
    latestQuote := fun symbol => some ⟨symbol, price symbol, price symbol, 1, 1, now, now⟩
    coreForecast := .ok ⟨"b0_forward_core_v1", 20, 20, 1 / 4, 48 / 100⟩
    policy := .default
    inputHash := "input"
    lockCycle := .ok ()
    lockedSequence := fun _ => 1
    latestPolicyVersion := 0 }

def sampleCorePosition : Dict String Decimal := ⟨[("QQQ", 5)], by decide⟩

def sampleMixedPositions : Dict String Decimal := ⟨[("NVDA", 10), ("QQQ", 3)], by decide⟩

def sampleBlockOnly : DecisionCall := sampleCheck "first" 100 420 sampleCorePosition fun _ => 100

def sampleForceAfterBlock : DecisionCall :=
  sampleCheck "second" 200 420 sampleCorePosition fun _ => 92

def sampleForce : DecisionCall := sampleCheck "first" 100 100 sampleMixedPositions fun symbol =>
  if symbol = "QQQ" then 100 else 48

def sampleForceAboveCap : DecisionCall :=
  sampleCheck "second" 200 100 sampleMixedPositions fun symbol => if symbol = "QQQ" then 75 else 48

def meetArm (service : ForwardService) (call : DecisionCall) (since : Instant) (armId : String) :
    Except Failure (QuoteBundle × ArmState × RiskContext) := do
  let states ← latestStates call.tables.armStates (call.decisionArms service) call.createdAt
  let quotes ← quoteBundle service call.tables (DecisionCall.quoteSymbols service states)
    call.createdAt
  let contexts ← call.assessArms service since quotes states
  match contexts.find? (·.1 = armId) with
  | some arm => return (quotes, arm.2)
  | none => .error ⟨.keyError, armId, []⟩

theorem meetArm_ok {service call} {since : Instant} {armId : String} {quotes} {state : ArmState}
    {context} (h : meetArm service call since armId = .ok (quotes, state, context)) :
    call.MeetsArm service quotes armId state context := by
  simp only [meetArm, bind_eq_ok] at h
  obtain ⟨states, hstates, quotes', hquotes, contexts, hcontexts, h⟩ := h
  split at h
  · rename_i arm harm
    obtain ⟨name, state', context'⟩ := arm
    cases h
    obtain rfl : name = armId := by simpa using List.find?_some harm
    exact ⟨since, states, contexts, hstates, hquotes, hcontexts, mem_of_find?_eq_some harm⟩
  · cases h

def sampleResolved (before call : DecisionCall) :
    Except Failure (List DecisionEffectRow × (QuoteBundle × ArmState × RiskContext) ×
      Option (Dict String Decimal)) := do
  let effects ← [before].foldlM (sampleService.decide Hashing.json "run") []
  let met ← meetArm sampleService call 0 "B3-RISK"
  let forced ← call.forcedTargets sampleService effects met.1 "B3-RISK" met.2.1 met.2.2
  return (effects, met, forced)

def LeavesOut (before call : DecisionCall) (symbol : String) : Prop :=
  ∃ taken effects quotes state context budget forced,
    Run (sampleService.decide Hashing.json "run") [] taken effects ∧ taken.map (·.2) = [before] ∧
    call.MeetsArm sampleService quotes "B3-RISK" state context ∧
    context.state = .forceReduce ∧ context.forcedSellBudgetUsd = some budget ∧ 0 < budget ∧
    call.forcedTargets sampleService effects quotes "B3-RISK" state context = .ok forced ∧
    0 < state.quantity symbol ∧ symbol ∉ (forced.getD .empty).keys ∧
    ¬CoversHoldings sampleService.riskConfig quotes state context.currentNavUsd
      (forced.getD .empty)

theorem leavesOut {before call : DecisionCall} {symbol : String}
    (h : (sampleResolved before call).toOption.any (fun x =>
      let state := x.2.1.2.1
      let context := x.2.1.2.2
      context.state = .forceReduce ∧ context.forcedSellBudgetUsd.any (0 < ·) ∧
        0 < state.quantity symbol ∧ symbol ∉ (x.2.2.getD .empty).keys ∧
        (symbol = coreSymbol ∨ (symbol ∈ sampleService.riskConfig.semiconductorSymbols.1 ∧
          SemiconductorCapExceeded sampleService.riskConfig x.2.1.1 state
            context.currentNavUsd))) = true) : LeavesOut before call symbol := by
  obtain ⟨⟨_, ⟨quotes, state, context⟩, _⟩, hresolved, h⟩ := exists_of_any h
  simp only [sampleResolved, ok_iff, Prod.mk.injEq] at hresolved
  obtain ⟨effects, hrun, _, hmeets, forced, hforced, rfl, rfl, rfl⟩ := hresolved
  simp only [decide_eq_true_eq] at h
  obtain ⟨hstate, hbudget, held, hout, hneeded⟩ := h
  obtain ⟨budget, hsome, hpos⟩ := (Option.any_eq_true _ _).mp hbudget
  obtain ⟨taken, htaken, run⟩ := Run.of_foldlM hrun
  refine ⟨taken, effects, quotes, state, context, budget, forced, run, htaken, meetArm_ok hmeets,
    hstate, hsome, of_decide_eq_true hpos, hforced, held, hout, fun covers => hout ?_⟩
  rcases hneeded with rfl | ⟨hsemi, exceeded⟩
  · exact covers.core held
  · exact covers.semiconductors exceeded symbol hsemi held

/-- After a stop that only blocked entries the forced reduction has no target for the held core, and
after a forced reduction the semiconductors that have come above their cap have none. -/
theorem sampleLatches_leave_out :
    LeavesOut sampleBlockOnly sampleForceAfterBlock "QQQ" ∧
      LeavesOut sampleForce sampleForceAboveCap "NVDA" :=
  ⟨leavesOut (by decide +kernel), leavesOut (by decide +kernel)⟩

/-- The frozen target of the core is handed on to the second forced reduction. -/
theorem sampleLatch_resolved : ∃ taken effects quotes state context forced latch row,
    Run (sampleService.decide Hashing.json "run") [] taken effects ∧
    sampleForceAboveCap.MeetsArm sampleService quotes "B3-RISK" state context ∧
    sampleForceAboveCap.forcedTargets sampleService effects quotes "B3-RISK" state context =
      .ok forced ∧ forced = some latch ∧ latch.entries = [("QQQ", 3 / 2)] ∧ row ∈ effects ∧
    HardEpisode sampleService Hashing.json taken "B3-RISK" latch row := by
  have h : (sampleResolved sampleForce sampleForceAboveCap).toOption.any (fun x =>
      let context := x.2.1.2.2
      context.forcedSellBudgetUsd.any (0 < ·) ∧
        (sampleForceAboveCap.latchedTargets x.1 "B3-RISK" context).any
          (·.entries = [("QQQ", 3 / 2)])) = true := by decide +kernel
  obtain ⟨⟨_, ⟨quotes, state, context⟩, _⟩, hresolved, h⟩ := exists_of_any h
  simp only [sampleResolved, ok_iff, Prod.mk.injEq] at hresolved
  obtain ⟨effects, hrun, _, hmeets, forced, hforced, rfl, rfl, rfl⟩ := hresolved
  simp only [decide_eq_true_eq] at h
  obtain ⟨budget, hsome, hpos⟩ := (Option.any_eq_true _ _).mp h.1
  obtain ⟨latch, hlatch, hentries⟩ := (Option.any_eq_true _ _).mp h.2
  obtain ⟨taken, -, run⟩ := Run.of_foldlM hrun
  have hentries := of_decide_eq_true hentries
  obtain ⟨forced', hforced', -, hhanded⟩ := forced_targets_resolved run (meetArm_ok hmeets)
    (by decide) hsome (.inl (of_decide_eq_true hpos))
  obtain ⟨rfl, row, hrow, -, episode⟩ := hhanded latch hlatch (by simp [hentries])
  exact ⟨taken, effects, quotes, state, context, _, latch, row, run, meetArm_ok hmeets, hforced',
    rfl, hentries, hrow, episode⟩

end Sample

end AdaptiveQuant
