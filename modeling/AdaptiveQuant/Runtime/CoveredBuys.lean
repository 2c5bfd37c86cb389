import AdaptiveQuant.Runtime.ExecutionFills
import AdaptiveQuant.Runtime.SellProceeds

/-! The buys of an execution cycle are covered by the settled cash. -/

namespace AdaptiveQuant.Q1Execution

open Guard Settlement

/-- The two refusals of a buy that costs more than the settled cash: by the cycle and by the arm. -/
def cashRefusals : List Failure :=
  [q1ExecutionCycleError "Settled-cash affordability guard failed",
    valueError "BUY fill exceeds settled cash"]

section Refusals

variable {hash : Hashing} {ctx : ExecutionContext} {candidate : QuoteCandidate}
  {economics : Q1FillEconomics} {failure : Failure}

section

variable (h : failure ∈ cashRefusals)

include h

theorem ne_of_refusal {other : Failure} (hother : other ∉ cashRefusals) :
    other ≠ failure := by
  rintro rfl
  exact hother h

theorem not_validation : failure.exception ≠ .validationError := by
  have hclasses : ∀ refusal ∈ cashRefusals, refusal.exception ≠ .validationError := by decide
  exact hclasses failure h

theorem q1Fill_avoids :
    Avoids failure (q1Fill hash ctx candidate economics) := by
  have hclass (fields : List FieldError) : Failure.validation "Q1Fill" fields ≠ failure := by
    rintro rfl
    exact not_validation h rfl
  have hsensitivity (bps : Decimal) (text : String)
      (hother : q1ExecutionCycleError s!"Q1 execution sensitivity {text} bps is not configured" ∉
        cashRefusals) : Avoids failure (sensitivity economics bps text) := by
    unfold sensitivity
    split
    · exact avoids_ok _ _
    · exact avoids_error (ne_of_refusal h hother)
  refine (hsensitivity 5 "5.0" (by decide)).bind fun fiveBps => ?_
  refine (hsensitivity 10 "10.0" (by decide)).bind fun tenBps => ?_
  refine .check (hclass _) ?_
  split
  · exact .check (hclass _) (avoids_ok _ _)
  · exact avoids_error (hclass _)

theorem recordBuyCashDebit_avoids (cash : FillCash) :
    Avoids failure (recordBuyCashDebit hash ctx.entry cash) :=
  .check (ne_of_refusal h (by decide)) (event_avoids hash _ ctx.entry (not_validation h))

theorem applyFill_avoids_buy {state : Q1ArmState} {fill : Fill} (buy : fill.side = .buy)
    (covered : fill.notional + fill.commissionUsd ≤ state.val.settledCashUsd) :
    Avoids failure (state.applyFill fill none) := by
  have hother :
    valueError s!"Fill for {fill.armId.value} cannot mutate arm {state.val.armId.value}" ≠
      failure := by
    rcases List.mem_pair.mp h with rfl | rfl
    · exact fun heq => absurd (Failure.mk.inj heq).1 (by decide)
    · exact otherArm_ne (by decide)
  refine .check hother (Avoids.bind ?_ fun outcome => avoids_validate ?_)
  · rw [Q1ArmState.fillOutcome, buy]
    refine .check (ne_of_refusal h (by decide)) ?_
    dsimp only
    rw [raiseIf_neg _ (not_lt.mpr covered)]
    exact avoids_ok _ _
  · refine .check (ne_of_refusal h (by decide)) ?_
    exact .check (ne_of_refusal h (by decide)) <| avoids_raiseIf (ne_of_refusal h (by decide))

end

end Refusals

section Covered

variable {ctx : ExecutionContext} {state : Q1ArmState} {candidate : QuoteCandidate}
  {economics : Q1FillEconomics} {executable remainingAdv : Decimal}

theorem candidate_covered (buy : candidate.intent.val.side = .buy)
    (within : executableRemaining ctx state candidate = .ok executable)
    (priced : buildQ1FillEconomics ctx.config (fillRequest ctx candidate executable remainingAdv) =
      .ok economics) :
    economics.quantity * economics.price + economics.commissionUsd ≤ state.val.settledCashUsd := by
  simp only [executableRemaining, buy, ok_iff] at within
  obtain ⟨affordable, haffordable, rfl⟩ := within
  exact affordable_fill_le haffordable buy rfl rfl rfl (min_le_right _ _) priced

theorem executeCandidate_avoids {failure : Failure} (h : failure ∈ cashRefusals) (hash : Hashing)
    (buy : candidate.intent.val.side = .buy) (covered : economics.quantity * economics.price +
      economics.commissionUsd ≤ state.val.settledCashUsd) :
    Avoids failure (executeCandidate hash ctx candidate state economics) := by
  unfold executeCandidate
  rw [raiseIf_neg _ fun hguard => not_lt.mpr covered hguard.2]
  refine (q1Fill_avoids h).bind_ok fun fill hfill => ?_
  obtain ⟨-, -, hside, hfilled⟩ := q1Fill_ok hfill
  have hbuy : fill.side = .buy := hside.trans buy
  have hcost : fill.notional + fill.commissionUsd ≤ state.val.settledCashUsd := by
    rw [Fill.notional, hfilled.quantity, hfilled.price, hfilled.commission]
    exact covered
  rw [settlementEvent, hbuy]
  refine (recordBuyCashDebit_avoids h _).bind fun event => Avoids.bind ?_ fun _ => avoids_ok _ _
  rw [stateAfter, receivableOf, hbuy]
  exact applyFill_avoids_buy h hbuy hcost

theorem executeCandidate_cash {hash : Hashing} {execution : Execution}
    (buy : candidate.intent.val.side = .buy)
    (h : executeCandidate hash ctx candidate state economics = .ok execution) :
    execution.stateAfter.val.settledCashUsd = state.val.settledCashUsd -
      (economics.quantity * economics.price + economics.commissionUsd) := by
  simp only [executeCandidate, ok_iff] at h
  obtain ⟨-, fill, hfill, event, -, after, hafter, rfl⟩ := h
  obtain ⟨-, -, hside, hfilled⟩ := q1Fill_ok hfill
  have hbuy : fill.side = .buy := hside.trans buy
  simp only [stateAfter, ok_iff] at hafter
  obtain ⟨receivable, -, happlied⟩ := hafter
  obtain ⟨-, -, -, ⟨-, -, -, hcash, -⟩ | ⟨-, hsell, -⟩⟩ := Q1ArmState.applyFill_eq_ok happlied
  · rw [hcash, Fill.notional, hfilled.quantity, hfilled.price, hfilled.commission]
  · rw [hbuy] at hsell
    cases hsell

end Covered

/-- The search for an affordable quantity ends unless the rounded price is zero, a fill of that
quantity or less is covered by the settled cash, and so the cycle and the arm take every buy that
the cycle prices. -/
theorem buys_covered :
    (∀ config settledCash askPrice notionalBefore commissionBefore,
      (delayedPrice config .buy askPrice ≠ 0 → ∃ affordable, maximumAffordableQuantity config
        settledCash askPrice notionalBefore commissionBefore = .ok affordable) ∧
      ∀ affordable, maximumAffordableQuantity config settledCash askPrice notionalBefore
          commissionBefore = .ok affordable →
        ∀ request fill, request.side = .buy → request.askPrice = askPrice →
          request.cumulativeNotionalBefore = notionalBefore →
          request.cumulativeCommissionBefore = commissionBefore →
          request.remainingQuantity ≤ affordable →
          buildQ1FillEconomics config request = .ok fill →
            fill.quantity * fill.price + fill.commissionUsd ≤ settledCash) ∧
    ∀ (hash : Hashing) ctx (state : Q1ArmState) (candidate : QuoteCandidate) executable remainingAdv
        economics, candidate.intent.val.side = .buy →
      executableRemaining ctx state candidate = .ok executable →
      buildQ1FillEconomics ctx.config (fillRequest ctx candidate executable remainingAdv) =
        .ok economics →
      (∀ failure ∈ cashRefusals,
        Avoids failure (executeCandidate hash ctx candidate state economics)) ∧
      ∀ execution, executeCandidate hash ctx candidate state economics = .ok execution →
        0 ≤ execution.stateAfter.val.settledCashUsd ∧
        execution.stateAfter.val.settledCashUsd = state.val.settledCashUsd -
          (economics.quantity * economics.price + economics.commissionUsd) := by
  refine ⟨fun config settledCash askPrice notionalBefore commissionBefore =>
    ⟨maximumAffordableQuantity_total, ?_⟩, ?_⟩
  · intro affordable haffordable request fill hside hask hnotional hcommission hremaining hfill
    exact affordable_fill_le haffordable hside hask hnotional hcommission hremaining hfill
  · intro hash ctx state candidate executable remainingAdv economics buy within priced
    have hcovered := candidate_covered buy within priced
    refine ⟨fun failure h => executeCandidate_avoids h hash buy hcovered,
      fun execution hexecution => ?_⟩
    have hcash := executeCandidate_cash buy hexecution
    exact ⟨hcash ▸ sub_nonneg.mpr hcovered, hcash⟩

abbrev sampleBuyer : Q1ArmState := fiveHeld .q1Det

def sampleBuy : QuoteCandidate :=
  ⟨⟨detBuy.descriptor, .created, 2, 0, 0, 1, "created"⟩, buyIntent,
    ⟨"q", 2, 2, 100, 10, 100, 10⟩, 1, 0⟩

def boughtShare : Except Failure Execution := do
  let executable ← executableRemaining noonCycle sampleBuyer sampleBuy
  let economics ← buildQ1FillEconomics noonCycle.config
    (fillRequest noonCycle sampleBuy executable 1)
  executeCandidate .short noonCycle sampleBuy sampleBuyer economics

/-- A share is bought for 100.01 dollars and ten cents out of 500 dollars. -/
theorem buys_covered_shipped : ∃ execution, boughtShare = .ok execution ∧
    execution.fill.quantity = 1 ∧ execution.stateAfter.val.settledCashUsd = 39989 / 100 ∧
    0 ≤ execution.stateAfter.val.settledCashUsd := by
  have h : boughtShare.toOption.any (fun execution => decide (execution.fill.quantity = 1 ∧
      execution.stateAfter.val.settledCashUsd = 39989 / 100)) = true := by
    decide +kernel
  obtain ⟨execution, hok, hvalues⟩ := exists_of_any h
  obtain ⟨hone, hleft⟩ := of_decide_eq_true hvalues
  have hbought := hok
  simp only [boughtShare, ok_iff] at hbought
  obtain ⟨executable, hwithin, economics, hpriced, hexecution⟩ := hbought
  have hafter := (buys_covered.2 .short noonCycle sampleBuyer sampleBuy executable 1 economics rfl
    hwithin hpriced).2 execution hexecution
  exact ⟨execution, hok, hone, hleft, hafter.1⟩

end AdaptiveQuant.Q1Execution
