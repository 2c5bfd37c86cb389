import AdaptiveQuant.Settlement.Service

/-! The state of an arm (`runtime/q1_state.py`). -/

namespace AdaptiveQuant.Settlement

open Guard

structure UnsettledReceivableFields where
  receivableId : String
  sourceFillId : String
  amountUsd : Decimal
  settlementDate : CivilDate
  createdAt : Instant
deriving DecidableEq

/-- `UnsettledReceivable.__post_init__`. -/
def UnsettledReceivableFields.check (r : UnsettledReceivableFields) : Except Failure Unit :=
  raiseIf (r.amountUsd ≤ 0) (valueError "Unsettled receivable amount must be positive")

abbrev UnsettledReceivable := Validated UnsettledReceivableFields.check

/-- `Fill`, which the checks of its domain model have passed. -/
structure Fill where
  fillId : String
  orderIntentId : String
  armId : Q1ArmId
  symbol : String
  side : OrderSide
  quantity : Decimal
  price : Decimal
  commissionUsd : Decimal
  effectiveAt : Instant
  createdAt : Instant
  quantity_pos : 0 < quantity
  price_pos : 0 < price
  commission_nonneg : 0 ≤ commissionUsd

def Fill.notional (f : Fill) : Decimal := f.quantity * f.price

structure Q1ArmStateFields where
  armId : Q1ArmId
  initialNavUsd : Decimal
  settledCashUsd : Decimal
  unsettledReceivables : List UnsettledReceivable
  positions : Dict String Decimal
  sequence : ℕ
  evaluationAnchorId : Option String
deriving DecidableEq

/-- `Q1ArmState.__post_init__`. -/
def Q1ArmStateFields.check (s : Q1ArmStateFields) : Except Failure Unit := do
  raiseIf (s.initialNavUsd < 0 ∨ s.settledCashUsd < 0)
    (valueError "Q1 arm cash balances cannot be negative")
  raiseIf (∃ quantity ∈ s.positions.values, quantity < 0)
    (valueError "Q1 arm state cannot contain short positions")
  raiseIf (¬(s.unsettledReceivables.map (·.val.receivableId)).Nodup)
    (valueError "Q1 arm state has duplicate receivable IDs")

abbrev Q1ArmState := Validated Q1ArmStateFields.check

namespace Q1ArmState

variable (s : Q1ArmState)

def unsettledCashUsd : Decimal :=
  (s.val.unsettledReceivables.map (·.val.amountUsd)).sum

def setPosition (positions : Dict String Decimal) (symbol : String) (quantity : Decimal) :
    Dict String Decimal :=
  if quantity = 0 then positions.filter fun other _ => other ≠ symbol
  else positions.set symbol quantity

def fillOutcome (fill : Fill) (sellReceivable : Option UnsettledReceivable) :
    Except Failure (Decimal × Decimal × List UnsettledReceivable) :=
  let current := s.val.positions.getD fill.symbol 0
  match fill.side with
  | .buy => do
    raiseIf (sellReceivable.isSome)
      (valueError "BUY fill cannot create a settlement receivable")
    let requiredCash := fill.notional + fill.commissionUsd
    raiseIf (s.val.settledCashUsd < requiredCash) (valueError "BUY fill exceeds settled cash")
    return (s.val.settledCashUsd - requiredCash, current + fill.quantity,
      s.val.unsettledReceivables)
  | .sell => do
    raiseIf (current < fill.quantity) (valueError "SELL fill would create a short position")
    let expectedReceivable := fill.notional - fill.commissionUsd
    raiseIf (expectedReceivable ≤ 0) (valueError "SELL fill must create a positive net receivable")
    match sellReceivable with
    | none => .error (valueError "SELL fill requires a typed settlement receivable")
    | some receivable => do
      raiseIf (receivable.val.sourceFillId ≠ fill.fillId ∨
          receivable.val.amountUsd ≠ expectedReceivable)
        (valueError "SELL receivable does not match fill economics")
      return (s.val.settledCashUsd, current - fill.quantity,
        s.val.unsettledReceivables ++ [receivable])

def applyFill (fill : Fill) (sellReceivable : Option UnsettledReceivable) :
    Except Failure Q1ArmState := do
  raiseIf (fill.armId ≠ s.val.armId)
    (valueError s!"Fill for {fill.armId.value} cannot mutate arm {s.val.armId.value}")
  let outcome ← fillOutcome s fill sellReceivable
  Guard.validate Q1ArmStateFields.check
    { s.val with
      settledCashUsd := outcome.1
      unsettledReceivables := outcome.2.2
      positions := setPosition s.val.positions fill.symbol outcome.2.1
      sequence := s.val.sequence + 1 }

def settle (receivableId : String) : Except Failure Q1ArmState :=
  match s.val.unsettledReceivables.find? fun item => item.val.receivableId = receivableId with
  | none => .ok s
  | some receivable =>
    Guard.validate Q1ArmStateFields.check
      { s.val with
        settledCashUsd := s.val.settledCashUsd + receivable.val.amountUsd
        unsettledReceivables :=
          s.val.unsettledReceivables.filter fun item => item.val.receivableId ≠ receivableId
        sequence := s.val.sequence + 1 }

def signedQuantity (fill : Fill) : Decimal :=
  match fill.side with
  | .buy => fill.quantity
  | .sell => -fill.quantity

theorem getD_setPosition (positions : Dict String Decimal) (symbol other : String)
    (quantity : Decimal) :
    (setPosition positions symbol quantity).getD other 0 =
      if symbol = other then quantity else positions.getD other 0 := by
  unfold setPosition
  by_cases hzero : quantity = 0
  · rw [if_pos hzero, Dict.getD, Dict.get?_filter]
    by_cases hsame : symbol = other
    · subst hsame
      cases positions.get? symbol <;> simp [hzero]
    · have hne : other ≠ symbol := fun h => hsame h.symm
      rw [if_neg hsame, Dict.getD]
      cases positions.get? other <;> simp [hne, Option.filter]
  · rw [if_neg hzero, Dict.getD, Dict.get?_set]
    by_cases hsame : symbol = other
    · simp [hsame]
    · have hne : other ≠ symbol := fun h => hsame h.symm
      rw [if_neg hne, if_neg hsame, Dict.getD]

theorem applyFill_eq_ok {s s' : Q1ArmState} {fill : Fill}
    {sellReceivable : Option UnsettledReceivable} (h : s.applyFill fill sellReceivable = .ok s') :
    s'.val.armId = s.val.armId ∧ s'.val.sequence = s.val.sequence + 1 ∧
      (∀ symbol, s'.val.positions.getD symbol 0 = s.val.positions.getD symbol 0 +
        if fill.symbol = symbol then signedQuantity fill else 0) ∧
      ((fill.side = .buy ∧ sellReceivable = none ∧
          fill.notional + fill.commissionUsd ≤ s.val.settledCashUsd ∧
          s'.val.settledCashUsd = s.val.settledCashUsd - (fill.notional + fill.commissionUsd) ∧
          s'.val.unsettledReceivables = s.val.unsettledReceivables) ∨
        ∃ receivable, fill.side = .sell ∧ sellReceivable = some receivable ∧
          receivable.val.amountUsd = fill.notional - fill.commissionUsd ∧
          s'.val.settledCashUsd = s.val.settledCashUsd ∧
          s'.val.unsettledReceivables = s.val.unsettledReceivables ++ [receivable]) := by
  simp only [applyFill, ok_iff, validate_eq_ok] at h
  obtain ⟨-, ⟨settled, quantity, receivables⟩, houtcome, heq⟩ := h
  unfold fillOutcome at houtcome
  cases hside : fill.side with
  | buy =>
    rw [hside] at houtcome
    simp only [ok_iff, Prod.mk.injEq, not_lt] at houtcome
    obtain ⟨hnone, hcash, rfl, rfl, rfl⟩ := houtcome
    refine ⟨by rw [heq], by rw [heq], fun symbol => ?_, .inl ⟨rfl, ?_, hcash, by rw [heq],
      by rw [heq]⟩⟩
    · rw [heq]
      show (setPosition _ _ _).getD symbol 0 = _
      rw [getD_setPosition, signedQuantity, hside]
      by_cases hsame : fill.symbol = symbol
      · simp [hsame]
      · simp [hsame]
    · simpa [Option.isSome_iff_ne_none] using hnone
  | sell =>
    rw [hside] at houtcome
    simp only [ok_iff] at houtcome
    obtain ⟨-, -, houtcome⟩ := houtcome
    cases sellReceivable with
    | none => cases houtcome
    | some receivable =>
      simp only [ok_iff, Prod.mk.injEq, not_or, not_not] at houtcome
      obtain ⟨⟨-, hamount⟩, rfl, rfl, rfl⟩ := houtcome
      refine ⟨by rw [heq], by rw [heq], fun symbol => ?_, .inr ⟨receivable, rfl, rfl, hamount,
        by rw [heq], by rw [heq]⟩⟩
      rw [heq]
      show (setPosition _ _ _).getD symbol 0 = _
      rw [getD_setPosition, signedQuantity, hside]
      by_cases hsame : fill.symbol = symbol
      · simp [hsame, sub_eq_add_neg]
      · simp [hsame]

theorem settle_eq_ok {s s' : Q1ArmState} {receivableId : String}
    (h : s.settle receivableId = .ok s') :
    s' = s ∨ ∃ receivable ∈ s.val.unsettledReceivables, receivable.val.receivableId = receivableId ∧
      s'.val =
        { s.val with
          settledCashUsd := s.val.settledCashUsd + receivable.val.amountUsd
          unsettledReceivables :=
            s.val.unsettledReceivables.filter fun item => item.val.receivableId ≠ receivableId
          sequence := s.val.sequence + 1 } := by
  unfold settle at h
  split at h
  · cases h
    exact .inl rfl
  · rename_i receivable hfind
    rw [validate_eq_ok] at h
    exact .inr
      ⟨receivable, List.mem_of_find?_eq_some hfind, by simpa using List.find?_some hfind, h⟩

theorem receivableIds_nodup :
    (s.val.unsettledReceivables.map (·.val.receivableId)).Nodup := by
  have h := s.valid
  simp only [Q1ArmStateFields.check, ok_iff, not_not] at h
  exact h.2.2

theorem settled_nonneg : 0 ≤ s.val.settledCashUsd := by
  have h := s.valid
  simp only [Q1ArmStateFields.check, ok_iff, not_or, not_lt] at h
  exact h.1.2

end Q1ArmState

end AdaptiveQuant.Settlement
