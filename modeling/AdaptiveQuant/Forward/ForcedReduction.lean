import AdaptiveQuant.Forward.PlanSafety

/-! The forced sells of a plan: whatever turnover the day has used, they reach their targets, and
they come before the transition sells. -/

namespace AdaptiveQuant

open Guard Sequence

theorem quantizeDown_multiple (q : Quantum) (n : ℤ) :
    quantizeDown (n * q.value) q = n * q.value := by
  have hsteps : (n * q.value : Decimal) / 10 ^ q.exponent =
    ((n * q.coefficient : ℤ) : Decimal) := by
    rw [Quantum.value, ← mul_assoc, mul_div_cancel_right₀ _ q.step_pos.ne']
    push_cast
    rfl
  simp only [quantizeDown, hsteps, Int.floor_intCast, Int.ceil_intCast, ite_self]
  rw [Quantum.value]
  push_cast
  ring

namespace ForwardPlanRequest

variable {request : ForwardPlanRequest}

theorem sells_quantity : ∃ after, projectState request.config request.quotes request.state
    request.plannedSells = .ok after ∧ ∀ symbol, after.quantity symbol =
      request.state.quantity symbol + netShares request.plannedSells symbol := by
  have hsells : SoundSells request request.plannedSells := plannedSells_sound
  have hproject : ∃ after, request.plannedSells.foldlM
      (projectOrder request.config request.quotes) request.start = .ok after :=
    projectOrders_exists hsells.nodup fun order horder _ => hsells.bounded order horder
  obtain ⟨after, hafter⟩ := hproject
  exact ⟨after, hafter, (projectOrders_ok hafter).quantity⟩

theorem not_sold_of_at_target {symbol : String} {target : Decimal}
    (h : request.forcedTargets.get? symbol = some target)
    (held : request.state.quantity symbol ≤ target) :
    ∀ order ∈ request.plannedSells, order.symbol ≠ symbol := by
  rintro order horder rfl
  obtain ⟨c, hc, hsells⟩ := sellLoop_sellsFrom order horder
  obtain ⟨entry, -, hcandidate⟩ := mem_sellCandidates.mp hc
  obtain ⟨hsymbol, hkind⟩ := sellCandidate_some hcandidate
  rw [← hsymbol, ← hsells.symbol] at hkind
  rcases hkind with ⟨-, -, hpos, target', htarget', hmax⟩ | ⟨-, hnone, -⟩
  · obtain rfl : target = target' := Option.some.inj (h.symm.trans htarget')
    linarith
  · rw [h] at hnone
    cases hnone

theorem sells_reach_target (tradable : ∀ symbol ∈ request.forcedTargets.keys,
      (quoteOf request.quotes symbol).Tradable) {symbol : String} {target : Decimal}
    (h : request.forcedTargets.get? symbol = some target)
    (held : target ≤ request.state.quantity symbol)
    (large : request.config.minOrderNotionalUsd ≤
      (request.state.quantity symbol - target) * (quoteOf request.quotes symbol).bidPrice)
    {n : ℤ} (steps : request.state.quantity symbol - target =
      n * request.config.quantityPrecision.value) :
    request.state.quantity symbol + netShares request.plannedSells symbol = target := by
  rcases held.eq_or_lt with heq | above
  · rw [netShares_of_not_mem (not_sold_of_at_target h heq.ge), add_zero, heq]
  · have hfloor : floorQuantity (request.state.quantity symbol - target)
        request.config.quantityPrecision = request.state.quantity symbol - target := by
      rw [steps]
      exact quantizeDown_multiple _ n
    obtain ⟨order, horder, rfl, hquantity⟩ := plannedSells_of_sellable tradable h above
      (by rw [hfloor]; exact sub_pos.mpr above)
      (by unfold SellableAbove; rw [hfloor]; exact large)
    rw [netShares_of_mem plannedSells_sound.nodup horder, PlannedOrder.shares,
      plannedSells_sound.side order horder, hquantity, hfloor]
    ring

theorem sellCandidate_group {c : SellCandidate} (mem : c ∈ request.sellCandidates) :
    c.group = 0 ↔ c.symbol ∈ request.forcedTargets.keys := by
  obtain ⟨entry, -, hcandidate⟩ := mem_sellCandidates.mp mem
  obtain ⟨hsymbol, hkind⟩ := sellCandidate_some hcandidate
  rw [hsymbol]
  rcases hkind with ⟨hgroup, -, -, target, htarget, -⟩ | ⟨hgroup, hnone, -⟩
  · exact iff_of_true hgroup (Dict.mem_keys.mpr ⟨target, htarget⟩)
  · exact iff_of_false (by omega) (Dict.get?_eq_none.mp hnone)

theorem plannedSells_forced_first : request.plannedSells.Pairwise fun first later =>
    later.symbol ∈ request.forcedTargets.keys → first.symbol ∈ request.forcedTargets.keys := by
  have hcandidates : (request.sellCandidates.map (·.symbol)).Pairwise fun first later =>
      later ∈ request.forcedTargets.keys → first ∈ request.forcedTargets.keys := by
    rw [List.pairwise_map]
    refine sellCandidates_sorted.imp_of_mem fun {first later} hfirst hlater hle hforced => ?_
    rw [← sellCandidate_group hlater] at hforced
    rw [← sellCandidate_group hfirst]
    omega
  exact List.pairwise_map.mp (hcandidates.sublist sellLoop_symbols)

end ForwardPlanRequest

/-- Forced reductions are not cut short by the budget and come first. -/
theorem forced_reductions_complete (request : ForwardPlanRequest)
    (tradable : ∀ symbol ∈ request.forcedTargets.keys, (quoteOf request.quotes symbol).Tradable) :
    (∃ after, projectState request.config request.quotes request.state request.plannedSells =
        .ok after ∧
      ∀ symbol target, request.forcedTargets.get? symbol = some target →
        target ≤ request.state.quantity symbol →
        request.config.minOrderNotionalUsd ≤ (request.state.quantity symbol - target) *
          (quoteOf request.quotes symbol).bidPrice →
        (∃ n : ℤ, request.state.quantity symbol - target =
          n * request.config.quantityPrecision.value) →
        after.quantity symbol = target) ∧
    request.plannedSells.Pairwise fun first later =>
      later.symbol ∈ request.forcedTargets.keys → first.symbol ∈ request.forcedTargets.keys := by
  obtain ⟨after, hafter, hquantity⟩ := @ForwardPlanRequest.sells_quantity request
  refine ⟨⟨after, hafter, fun symbol target hforced hheld hlarge ⟨n, hsteps⟩ => ?_⟩,
    ForwardPlanRequest.plannedSells_forced_first⟩
  rw [hquantity]
  exact ForwardPlanRequest.sells_reach_target tradable hforced hheld hlarge hsteps

section Sample

def sampleForcedRequest : ForwardPlanRequest :=
  { samplePlanRequest shippedRiskConfig 0 0
      ⟨[("NVDA", 5), ("QQQ", 3), ("SOXX", 7)], by decide⟩
      ⟨[("NVDA", sampleDecisionQuote "NVDA" 100 100), ("QQQ", sampleDecisionQuote "QQQ" 100 100),
        ("SOXX", sampleDecisionQuote "SOXX" 100 100)], by decide⟩ with
    todaySellNotionalUsd := 4000
    forcedTargetQuantities := some ⟨[("SOXX", 11 / 2), ("QQQ", 3 / 2)], by decide⟩ }

theorem sampleForced_complete : ∃ after, projectState sampleForcedRequest.config
    sampleForcedRequest.quotes sampleForcedRequest.state sampleForcedRequest.plannedSells =
      .ok after ∧ after.quantity "SOXX" = 11 / 2 ∧ after.quantity "QQQ" = 3 / 2 := by
  have hquotes : ∀ symbol ∈ sampleForcedRequest.forcedTargets.keys,
      0 < (quoteOf sampleForcedRequest.quotes symbol).bidPrice ∧
        (quoteOf sampleForcedRequest.quotes symbol).bidPrice ≤
          (quoteOf sampleForcedRequest.quotes symbol).askPrice := by decide +kernel
  obtain ⟨⟨after, hafter, hreached⟩, -⟩ := forced_reductions_complete sampleForcedRequest
    fun symbol hsymbol => ⟨(hquotes symbol hsymbol).1, (hquotes symbol hsymbol).2⟩
  exact ⟨after, hafter,
    hreached "SOXX" _ (by decide +kernel) (by decide +kernel) (by decide +kernel)
      ⟨1500000, by decide +kernel⟩,
    hreached "QQQ" _ (by decide +kernel) (by decide +kernel) (by decide +kernel)
      ⟨1500000, by decide +kernel⟩⟩

end Sample

end AdaptiveQuant
