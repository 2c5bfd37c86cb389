import AdaptiveQuant.Forward.Projected

/-! The buys of a plan. -/

namespace AdaptiveQuant

open Guard Sequence List

section Lowering

variable {config : ForwardRiskConfig} {delayedAsk remaining quantity : Decimal}

def lowerQuantity (config : ForwardRiskConfig) (quantity : Decimal) : Decimal :=
  floorQuantity (quantity - config.quantityPrecision.value) config.quantityPrecision

/-- A quantity that costs more than the cash left. -/
def Unaffordable (config : ForwardRiskConfig) (delayedAsk remaining quantity : Decimal) : Prop :=
  0 < quantity ∧ buyCash config delayedAsk quantity > remaining

theorem lowerQuantity_le :
    lowerQuantity config quantity ≤ max 0 (quantity - config.quantityPrecision.value) := by
  rcases le_or_gt 0 (quantity - config.quantityPrecision.value) with hnonneg | hneg
  · exact (quantizeDown_le hnonneg).trans (le_max_right _ _)
  · exact (quantizeDown_nonpos hneg).trans (le_max_left _ _)

theorem Quantum.value_nonneg (q : Quantum) : 0 ≤ q.value :=
  mul_nonneg (Nat.cast_nonneg _) q.step_pos.le

theorem quantitySteps_lower (precision : 0 < config.quantityPrecision.value) (pos : 0 < quantity) :
    quantitySteps config (lowerQuantity config quantity) < quantitySteps config quantity := by
  have hceil := Nat.le_ceil (quantity / config.quantityPrecision.value)
  have hsteps : 0 < quantitySteps config quantity := Nat.ceil_pos.mpr (div_pos pos precision)
  have hlower : lowerQuantity config quantity / config.quantityPrecision.value ≤
      ((quantitySteps config quantity - 1 : ℕ) : Decimal) := by
    rw [div_le_iff₀ precision]
    refine lowerQuantity_le.trans (max_le ?_ ?_)
    · exact mul_nonneg (Nat.cast_nonneg _) precision.le
    · rw [Nat.cast_sub hsteps, Nat.cast_one, sub_one_mul]
      exact sub_le_sub_right ((div_le_iff₀ precision).mp hceil) _
  have hle := Nat.ceil_le.mpr hlower
  rw [← quantitySteps] at hle
  omega

theorem affordableQuantity_ends (precision : 0 < config.quantityPrecision.value) {fuel : ℕ}
    (enough : quantitySteps config quantity ≤ fuel) :
    ¬Unaffordable config delayedAsk remaining
      (affordableQuantity config delayedAsk remaining fuel quantity) := by
  induction fuel generalizing quantity with
  | zero =>
    have hnone : quantitySteps config quantity = 0 := Nat.le_zero.mp enough
    rintro ⟨hpos, -⟩
    exact absurd hnone (Nat.ceil_pos.mpr (div_pos hpos precision)).ne'
  | succ fuel ih =>
    unfold affordableQuantity
    split
    · rename_i hguard
      have := quantitySteps_lower precision hguard.1
      exact ih (by rw [← lowerQuantity]; omega)
    · assumption

theorem affordableQuantity_eq_iterate (fuel : ℕ) :
    ∃ n, affordableQuantity config delayedAsk remaining fuel quantity =
      (lowerQuantity config)^[n] quantity := by
  induction fuel generalizing quantity with
  | zero => exact ⟨0, rfl⟩
  | succ fuel ih =>
    unfold affordableQuantity
    split
    · obtain ⟨n, hn⟩ := @ih (lowerQuantity config quantity)
      exact ⟨n + 1, hn⟩
    · exact ⟨0, rfl⟩

theorem lowering_ends (precision : 0 < config.quantityPrecision.value)
    (delayedAsk remaining quantity : Decimal) :
    ∃ n, ¬Unaffordable config delayedAsk remaining ((lowerQuantity config)^[n] quantity) := by
  have hiterate : ∃ n, affordableQuantity config delayedAsk remaining
      (quantitySteps config quantity) quantity = (lowerQuantity config)^[n] quantity :=
    affordableQuantity_eq_iterate _
  obtain ⟨n, hn⟩ := hiterate
  exact ⟨n, hn ▸ affordableQuantity_ends precision le_rfl⟩

theorem affordableQuantity_le (fuel : ℕ) :
    affordableQuantity config delayedAsk remaining fuel quantity ≤ quantity := by
  induction fuel generalizing quantity with
  | zero => exact le_rfl
  | succ fuel ih =>
    unfold affordableQuantity
    split
    · rename_i hguard
      refine ih.trans (lowerQuantity_le.trans (max_le hguard.1.le ?_))
      exact sub_le_self _ config.quantityPrecision.value_nonneg
    · exact le_rfl

theorem affordableQuantity_spec (precision : 0 < config.quantityPrecision.value)
    (delayedAsk remaining : Decimal) {gross price first : Decimal} (nonneg : 0 ≤ gross)
    (price_pos : 0 < price)
    (start : floorQuantity (gross / price) config.quantityPrecision = first) :
    affordableQuantity config delayedAsk remaining (quantitySteps config first) first * price ≤
        gross ∧
      ¬Unaffordable config delayedAsk remaining
        (affordableQuantity config delayedAsk remaining (quantitySteps config first) first) := by
  refine ⟨?_, affordableQuantity_ends precision le_rfl⟩
  rw [← le_div_iff₀ price_pos]
  refine (affordableQuantity_le _).trans ?_
  rw [← start]
  exact quantizeDown_le (div_nonneg nonneg price_pos.le)

end Lowering

def delayedAsk (config : ForwardRiskConfig) (quotes : QuoteBundle) (symbol : String) : Decimal :=
  (quoteOf quotes symbol).askPrice * (1 + delay config)

def PlannedOrder.cashCost (config : ForwardRiskConfig) (quotes : QuoteBundle)
    (order : PlannedOrder) : Decimal :=
  buyCash config (delayedAsk config quotes order.symbol) order.quantity

structure Bought (config : ForwardRiskConfig) (quotes : QuoteBundle)
    (currentValues desiredValues : Dict String Decimal) (order : PlannedOrder) : Prop where
  side : order.side = .buy
  quoted : order.symbol ∈ quotes.keys
  entry : order.symbol ∈ config.entrySymbols.1
  not_sellOnly : order.symbol ∉ config.sellOnlySymbols.1
  pos : 0 < order.quantity
  notional : config.minOrderNotionalUsd ≤ order.quantity * delayedAsk config quotes order.symbol
  short : currentValues.getD order.symbol 0 < desiredValues.getD order.symbol 0
  deficit : order.quantity * (delayedAsk config quotes order.symbol * (1 + config.commissionRate)) ≤
    desiredValues.getD order.symbol 0 - currentValues.getD order.symbol 0

section Loop

variable {config : ForwardRiskConfig} {quotes : QuoteBundle}
  {currentValues desiredValues : Dict String Decimal}

theorem requireQuotes_singleton {symbol : String} {u : Unit}
    (h : requireQuotes quotes [symbol] = .ok u) : symbol ∈ quotes.keys := by
  unfold requireQuotes at h
  by_contra hnot
  rw [List.find?_cons_of_pos (by simpa using hnot)] at h
  cases h

theorem buyStep_cases (precision : 0 < config.quantityPrecision.value)
    (asks : ∀ symbol ∈ quotes.keys,
      0 < delayedAsk config quotes symbol * (1 + config.commissionRate))
    {acc acc' : Decimal × List PlannedOrder} {symbol : String} (nonneg : 0 ≤ acc.1)
    (h : buyStep config quotes currentValues desiredValues acc symbol = .ok acc') :
    acc' = acc ∨ ∃ order, Bought config quotes currentValues desiredValues order ∧
      order.symbol = symbol ∧ order.cashCost config quotes ≤ acc.1 ∧
      acc' = (acc.1 - order.cashCost config quotes, acc.2 ++ [order]) := by
  unfold buyStep at h
  split at h
  · exact .inl (Except.ok.inj h).symm
  · rename_i hentry
    dsimp only at h
    split at h
    · exact .inl (Except.ok.inj h).symm
    · simp only [bind_eq_ok] at h
      obtain ⟨_, hquotes, h⟩ := h
      have hquoted := requireQuotes_singleton hquotes
      have hask := asks symbol hquoted
      rw [← delayedAsk] at h
      have hpossible : 0 ≤ min (max 0 (desiredValues.getD symbol 0 -
          currentValues.getD symbol 0)) acc.1 := le_min (le_max_left _ _) nonneg
      have hspec := affordableQuantity_spec precision (delayedAsk config quotes symbol) acc.1
        hpossible hask rfl
      generalize affordableQuantity config (delayedAsk config quotes symbol) acc.1 _ _ = quantity
        at h hspec
      obtain ⟨hgross, hends⟩ := hspec
      split at h
      · exact .inl (pure_eq_ok.mp h).symm
      · rename_i hsize
        rw [not_or, not_le, not_lt] at hsize
        obtain ⟨hpos, hnotional⟩ := hsize
        have hworth := mul_pos hpos hask
        have hdeficit := hgross.trans (min_le_left _ _)
        have hmax : max 0 (desiredValues.getD symbol 0 - currentValues.getD symbol 0) =
            desiredValues.getD symbol 0 - currentValues.getD symbol 0 := by
          refine max_eq_right (le_of_lt ?_)
          by_contra hnot
          rw [max_eq_left (not_lt.mp hnot)] at hdeficit
          exact absurd hdeficit (not_le.mpr hworth)
        rw [hmax] at hdeficit
        rw [not_or, not_not] at hentry
        refine .inr ⟨⟨symbol, .buy, quantity, (quoteOf quotes symbol).quoteId⟩,
          ⟨rfl, hquoted, hentry.2, hentry.1, hpos, hnotional, ?_, hdeficit⟩, rfl, ?_,
          (pure_eq_ok.mp h).symm⟩
        · exact sub_pos.mp (hworth.trans_le hdeficit)
        · exact not_lt.mp fun hmore => hends ⟨hpos, hmore⟩

/-- What the buys of a plan keep: one order a symbol, each bought within its deficit, and all of
them paid from the cash that is allowed. -/
structure SoundBuys (config : ForwardRiskConfig) (quotes : QuoteBundle)
    (currentValues desiredValues : Dict String Decimal) (allowed : Decimal)
    (orders : List PlannedOrder) : Prop where
  nodup : (orders.map (·.symbol)).Nodup
  bought : ∀ order ∈ orders, Bought config quotes currentValues desiredValues order
  paid : (orders.map (·.cashCost config quotes)).sum ≤ allowed

theorem buyLoop_sound (precision : 0 < config.quantityPrecision.value)
    (asks : ∀ symbol ∈ quotes.keys,
      0 < delayedAsk config quotes symbol * (1 + config.commissionRate))
    {symbols : List String} (nodup : symbols.Nodup) {allowed : Decimal} (nonneg : 0 ≤ allowed)
    {acc : Decimal × List PlannedOrder}
    (h : symbols.foldlM (buyStep config quotes currentValues desiredValues) (allowed, []) =
      .ok acc) :
    SoundBuys config quotes currentValues desiredValues allowed acc.2 := by
  have hinv := foldlM_induction h (fun pre acc => 0 ≤ acc.1 ∧
    acc.1 + (acc.2.map (·.cashCost config quotes)).sum = allowed ∧
    (∀ order ∈ acc.2, Bought config quotes currentValues desiredValues order) ∧
    (acc.2.map (·.symbol)).Sublist pre) ⟨nonneg, by simp, by simp, by simp⟩ ?_
  · obtain ⟨hleft, hsum, hbought, hsymbols⟩ := hinv
    exact ⟨nodup.sublist hsymbols, hbought, by linarith⟩
  · rintro pre symbol acc acc' ⟨hleft, hsum, hbought, hsymbols⟩ hstep
    rcases buyStep_cases precision asks hleft hstep with rfl | ⟨order, hone, rfl, hpaid, rfl⟩
    · exact ⟨hleft, hsum, hbought, hsymbols.trans (sublist_append_left _ _)⟩
    · refine ⟨sub_nonneg.mpr hpaid, ?_, fun other hother => ?_, ?_⟩
      · rw [map_append, sum_append, ← hsum]
        simp
      · rcases mem_append.mp hother with hother | hother
        · exact hbought other hother
        · exact mem_singleton.mp hother ▸ hone
      · rw [map_append]
        exact hsymbols.append (List.Sublist.refl _)

end Loop

namespace ForwardPlanRequest

variable {request : ForwardPlanRequest}

def spendableCash (request : ForwardPlanRequest) : Decimal :=
  max 0 ((request.state.cashUsd -
    (if request.config.spendUnsettledSaleProceeds then 0 else request.unsettledSaleProceedsUsd)) *
      (1 - request.config.buyCashReserveFraction))

variable {buys : List PlannedOrder}

theorem plannedBuys_side (h : request.plannedBuys = .ok buys) :
    ∀ order ∈ buys, order.side = .buy := by
  unfold plannedBuys buyOrders at h
  split at h
  · obtain rfl : [] = buys := Except.ok.inj h
    simp
  · simp only [ok_iff] at h
    obtain ⟨acc, hfold, rfl⟩ := h
    refine foldlM_induction hfold (fun _ acc => ∀ order ∈ acc.2, order.side = .buy) (by simp) ?_
    intro _ symbol acc acc' hacc hstep
    unfold buyStep at hstep
    split at hstep
    · rwa [← Except.ok.inj hstep]
    · dsimp only at hstep
      split at hstep
      · rwa [← Except.ok.inj hstep]
      · simp only [bind_eq_ok] at hstep
        obtain ⟨-, -, hstep⟩ := hstep
        split at hstep
        · rwa [← pure_eq_ok.mp hstep]
        · rw [← pure_eq_ok.mp hstep]
          intro order horder
          rcases mem_append.mp horder with horder | horder
          · exact hacc order horder
          · rw [mem_singleton.mp horder]

theorem plannedBuys_sound (precision : 0 < request.config.quantityPrecision.value)
    (asks : ∀ symbol ∈ request.quotes.keys,
      0 < delayedAsk request.config request.quotes symbol * (1 + request.config.commissionRate))
        (h : request.plannedBuys = .ok buys) :
    SoundBuys request.config request.quotes request.currentValues request.desiredValues
      (min request.buyBudget request.spendableCash) buys := by
  have hallowed : 0 ≤ min request.buyBudget request.spendableCash :=
    le_min (le_max_left _ _) (le_max_left _ _)
  unfold plannedBuys buyOrders at h
  split at h
  · obtain rfl : [] = buys := Except.ok.inj h
    exact ⟨by simp, by simp, by simpa using hallowed⟩
  · simp only [ok_iff] at h
    obtain ⟨acc, hfold, rfl⟩ := h
    refine buyLoop_sound precision asks ?_ hallowed hfold
    exact (sortedBy_perm id request.desiredValues.keys).nodup_iff.mpr request.desiredValues.nodup

end ForwardPlanRequest

end AdaptiveQuant
