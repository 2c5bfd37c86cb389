import AdaptiveQuant.Runtime.AffordableBuys
import AdaptiveQuant.Settlement.Conservation

/-! What a sale brings. -/

namespace AdaptiveQuant

open Guard Settlement

def Q1FillEconomics.netProceeds (fill : Q1FillEconomics) : Decimal :=
  fill.quantity * fill.price - fill.commissionUsd

/-- A fill that brings something, so that neither the receivable nor the arm refuses its
proceeds. -/
structure Q1FillEconomics.Accepted (fill : Q1FillEconomics) : Prop where
  proceeds_pos : 0 < fill.netProceeds
  receivable : ∀ (hash : Hashing) (ctx : EntryContext) (calendar : BusinessCalendar)
    (tradeSession : CivilDate) (cash : FillCash),
    cash.fillNotionalUsd = fill.quantity * fill.price → cash.commissionUsd = fill.commissionUsd →
      Avoids (settlementError "SELL fill notional must be positive and commission non-negative")
        (recordSellReceivable hash ctx calendar tradeSession cash) ∧
      Avoids (settlementError "SELL net proceeds must be positive")
        (recordSellReceivable hash ctx calendar tradeSession cash)
  arm : ∀ (state : Q1ArmState) (filled : Fill) (receivable : Option UnsettledReceivable),
    filled.side = .sell → FilledAs filled fill →
      Avoids (valueError "SELL fill must create a positive net receivable")
        (state.applyFill filled receivable)

/-- The price is not rounded to nothing, and the order stays within the waiver or owes less with the
fill than the fill is worth. -/
def CoversCommission (config : Q1ExecutionConfig)
    (notionalBefore quantity price : Decimal) : Prop :=
  0 < price ∧
    (notionalBefore + quantity * price ≤ config.val.commissionWaiverThresholdUsd ∨
      quantizeHalfEven ((notionalBefore + quantity * price) * config.val.commissionRate)
          config.val.commissionPrecision -
        (if notionalBefore ≤ config.val.commissionWaiverThresholdUsd then 0
          else quantizeHalfEven (notionalBefore * config.val.commissionRate)
            config.val.commissionPrecision) < quantity * price)

section Sale

variable {config : Q1ExecutionConfig} {order : PaperOrder} {fills : List Q1FillEconomics}
  {offer : FillOffer} {fill : Q1FillEconomics}

theorem commission_eq_sub (inv : FillsInv config order fills)
    (hfill : buildQ1FillEconomics config (order.request fills offer) = .ok fill) :
    fill.commissionUsd = totalCommission config (orderNotional fills + fill.quantity * fill.price) -
      totalCommission config (orderNotional fills) := by
  have hpriced := buildQ1FillEconomics_ok hfill
  have hnotional : fill.cumulativeNotionalUsd =
    orderNotional fills + fill.quantity * fill.price := hpriced.notional_eq
  rw [← inv.commission, ← hnotional, ← hpriced.total_eq]
  exact hpriced.commission_eq

theorem proceeds_pos_iff (inv : FillsInv config order fills)
    (hfill : buildQ1FillEconomics config (order.request fills offer) = .ok fill) :
    0 < fill.netProceeds ↔
      CoversCommission config (orderNotional fills) fill.quantity fill.price := by
  have hpriced := buildQ1FillEconomics_ok hfill
  have hcommission := commission_eq_sub inv hfill
  have hbefore : (if orderNotional fills ≤ config.val.commissionWaiverThresholdUsd then 0
      else quantizeHalfEven (orderNotional fills * config.val.commissionRate)
        config.val.commissionPrecision) = totalCommission config (orderNotional fills) := rfl
  simp only [Q1FillEconomics.netProceeds, CoversCommission, hbefore, sub_pos]
  constructor
  · intro h
    have hprice : 0 < fill.price :=
      pos_of_mul_pos_right (hpriced.commission_nonneg.trans_lt h) hpriced.quantity_pos.le
    refine ⟨hprice, ?_⟩
    by_cases hwaived : orderNotional fills + fill.quantity * fill.price ≤
        config.val.commissionWaiverThresholdUsd
    · exact .inl hwaived
    · right
      rw [hcommission, totalCommission, if_neg hwaived] at h
      exact h
  · rintro ⟨hprice, h⟩
    have hworth := mul_pos hpriced.quantity_pos hprice
    rw [hcommission]
    by_cases hwaived : orderNotional fills + fill.quantity * fill.price ≤
        config.val.commissionWaiverThresholdUsd
    · have hnone : totalCommission config (orderNotional fills + fill.quantity * fill.price) = 0 :=
        if_pos hwaived
      rw [hnone]
      linarith [totalCommission_nonneg config (orderNotional fills)]
    · rw [totalCommission, if_neg hwaived]
      exact h.resolve_left hwaived

/-- The texts with which `record_sell_receivable` refuses the amounts of a sale. -/
def saleRefusals : List String :=
  ["SELL fill notional must be positive and commission non-negative",
    "SELL net proceeds must be positive"]

variable {message : String}

theorem noSession_ne (h : message ∈ saleRefusals) (date : CivilDate) :
    settlementError s!"{date.isoformat} is not a calendar session" ≠ settlementError message := by
  intro heq
  have hmessage : s!"{date.isoformat} is not a calendar session" = message :=
    (Failure.mk.inj heq).2.1
  have hlast : message.toList.getLast? = some 'n' := by
    rw [← hmessage]
    simp [toString]
  have hrefusal : ∀ text ∈ saleRefusals, text.toList.getLast? = some 'e' := by decide +kernel
  rw [hrefusal message h] at hlast
  cases hlast

theorem ne_of_notMem {message other : String} (h : message ∈ saleRefusals)
    (hother : other ∉ saleRefusals) : settlementError other ≠ settlementError message := by
  intro heq
  have hsame : other = message := (Failure.mk.inj heq).2.1
  exact hother (hsame ▸ h)

theorem requireSession_avoids (h : message ∈ saleRefusals)
    (calendar : BusinessCalendar) (date : CivilDate) :
    Avoids (settlementError message) (calendar.requireSession date) :=
  avoids_raiseIf (noSession_ne h date)

theorem addBusinessSessions_avoids (h : message ∈ saleRefusals)
    (calendar : BusinessCalendar) (date : CivilDate) (count : ℤ) :
    Avoids (settlementError message) (calendar.addBusinessSessions date count) := by
  refine .check (ne_of_notMem h (by decide)) ?_
  refine (requireSession_avoids h calendar date).bind fun _ => ?_
  dsimp only
  split
  · exact avoids_ok _ _
  · exact avoids_error (ne_of_notMem h (by decide))

theorem event_avoids (hash : Hashing) (draft : Settlement.EventDraft) (ctx : EntryContext)
    {failure : Failure} (h : failure.exception ≠ .validationError) :
    Avoids failure (draft.event hash ctx) := by
  have hclass : ∀ other : Failure, other.exception = .validationError → other ≠ failure := by
    rintro _ hother rfl
    exact h hother
  refine avoids_validate (.check (hclass _ rfl) ?_)
  exact .check (hclass _ rfl) <| avoids_raiseIf (hclass _ rfl)

theorem recordSellReceivable_avoids (h : message ∈ saleRefusals) (hash : Hashing)
    (ctx : EntryContext) (calendar : BusinessCalendar) (tradeSession : CivilDate) {cash : FillCash}
    (hcommission : 0 ≤ cash.commissionUsd)
    (hproceeds : 0 < cash.fillNotionalUsd - cash.commissionUsd) :
    Avoids (settlementError message)
      (recordSellReceivable hash ctx calendar tradeSession cash) := by
  have hnotional : 0 < cash.fillNotionalUsd := by linarith
  unfold recordSellReceivable
  refine Avoids.bind (avoids_raiseIf (ne_of_notMem h (by decide))) fun _ => ?_
  refine (requireSession_avoids h calendar tradeSession).bind fun _ => ?_
  rw [raiseIf_neg _ (not_or.mpr ⟨not_le.mpr hnotional, not_lt.mpr hcommission⟩),
    raiseIf_neg _ (not_le.mpr hproceeds)]
  refine (avoids_ok _ _).bind fun _ => (avoids_ok _ _).bind fun _ => ?_
  refine Avoids.bind (addBusinessSessions_avoids h calendar tradeSession _) fun date => ?_
  exact event_avoids hash _ ctx (by simp [settlementError])

theorem applyFill_avoids {state : Q1ArmState} {filled : Fill}
    {receivable : Option UnsettledReceivable} (hside : filled.side = .sell)
    (hproceeds : 0 < filled.notional - filled.commissionUsd) :
    Avoids (valueError "SELL fill must create a positive net receivable")
      (state.applyFill filled receivable) := by
  refine .check (otherArm_ne (by decide)) ?_
  refine Avoids.bind ?_ fun outcome => ?_
  · rw [Q1ArmState.fillOutcome, hside]
    refine .check (by decide) ?_
    dsimp only
    rw [raiseIf_neg _ (not_le.mpr hproceeds)]
    cases receivable with
    | none => exact avoids_error (by decide)
    | some receivable => exact .check (by decide) (avoids_ok _ _)
  · refine avoids_validate ?_
    refine .check (by decide) ?_
    exact .check (by decide) <| avoids_raiseIf (by decide)

theorem accepted_of_proceeds (hpositive : 0 < fill.netProceeds)
    (hcommission : 0 ≤ fill.commissionUsd) : fill.Accepted := by
  refine ⟨hpositive, ?_, ?_⟩
  · intro hash ctx calendar tradeSession cash hcash hpaid
    have hproceeds : 0 < cash.fillNotionalUsd - cash.commissionUsd := by
      rw [hcash, hpaid]
      exact hpositive
    have hcharged : 0 ≤ cash.commissionUsd := hpaid ▸ hcommission
    exact ⟨recordSellReceivable_avoids (by decide) hash ctx calendar tradeSession hcharged
      hproceeds,
      recordSellReceivable_avoids (by decide) hash ctx calendar tradeSession hcharged hproceeds⟩
  · intro state filled receivable hside hfilled
    refine applyFill_avoids hside ?_
    rw [Fill.notional, hfilled.quantity, hfilled.price, hfilled.commission]
    exact hpositive

/-- A fill of a sale is accepted exactly when its price is not rounded to nothing and it covers the
commission that the order owes with it. -/
theorem sell_accepted_iff {taken : List (List Q1FillEconomics × FillOffer)}
    (hsell : order.side = .sell) (run : Run (fillPaperOrder config order) [] taken fills)
    (hfill : buildQ1FillEconomics config (order.request fills offer) = .ok fill) :
    fill.Accepted ↔ CoversCommission config (orderNotional fills)
      ((order.request fills offer).quantity config)
      (delayedPrice config .sell offer.bidPrice) := by
  have hpriced := buildQ1FillEconomics_ok hfill
  have hreference : (order.request fills offer).reference = offer.bidPrice := by
    have hside : (order.request fills offer).side = .sell := hsell
    rw [FillRequest.reference, hside]
    rfl
  have hprice : fill.price = delayedPrice config .sell offer.bidPrice := by
    rw [hpriced.price_eq, hreference]
    exact congrArg (fun side => delayedPrice config side offer.bidPrice) hsell
  rw [← hpriced.quantity_eq, ← hprice, ← proceeds_pos_iff (fillsInv_run run) hfill]
  exact ⟨fun h => h.proceeds_pos, fun h => accepted_of_proceeds h hpriced.commission_nonneg⟩

/-- The second fill of the larger sale crosses the waiver and is accepted. -/
theorem secondFill_accepted : ∃ taken,
    Run (fillPaperOrder shippedExecutionConfig largerSale) [] taken [cappedFill] ∧
    secondFill.commissionUsd = 2 / 100 ∧ secondFill.Accepted := by
  have hfirst : [cappedOffer].foldlM (fillPaperOrder shippedExecutionConfig largerSale) [] =
      .ok [cappedFill] := by decide +kernel
  have hfill : buildQ1FillEconomics shippedExecutionConfig (largerSale.request [cappedFill]
      { cappedOffer with remainingAdvCapacity := 3 / 100 }) = .ok secondFill := by decide +kernel
  obtain ⟨taken, -, run⟩ := Run.of_foldlM hfirst
  refine ⟨taken, run, by decide +kernel, (sell_accepted_iff rfl run hfill).mpr
    ⟨by decide +kernel, ?_⟩⟩
  right
  decide +kernel

def crossingFill : Q1FillEconomics :=
  match buildQ1FillEconomics shippedExecutionConfig
      (smallSale.request [cappedFill] cappedOffer) with
  | .ok fill => fill
  | .error _ => cappedFill

/-- The rest of the small sale is worth half a cent and charged a cent. -/
theorem crossingFill_refused :
    (∃ taken, Run (fillPaperOrder shippedExecutionConfig smallSale) [] taken [cappedFill]) ∧
      buildQ1FillEconomics shippedExecutionConfig (smallSale.request [cappedFill] cappedOffer) =
        .ok crossingFill ∧
      crossingFill.netProceeds = -5 / 1000 ∧
      recordSellReceivable Hashing.plain (sampleContext 0) sampleCalendar sampleSession
        ⟨.q1Det, "fill", 0, crossingFill.quantity * crossingFill.price,
          crossingFill.commissionUsd⟩ =
        .error (settlementError "SELL net proceeds must be positive") :=
  ⟨cappedFill_run, by decide +kernel, by decide +kernel, by decide +kernel⟩

end Sale

end AdaptiveQuant
