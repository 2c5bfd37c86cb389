import AdaptiveQuant.Runtime.NavRisk

/-! The volatility of the held weights of an arm (`runtime/q1_cycle.py`), from the covariance of its
latest decision. -/

namespace AdaptiveQuant.Q1Cycle

open Guard Sequence List
open Settlement (Q1ArmState)

structure DecisionDiagnostics where
  portfolioDecisionId : String
  decisionCreatedAt : Instant
  covariance : Option (Dict String (Dict String Decimal))

variable (rows : List DecisionDiagnostics) (state : Q1ArmState) (prices : Dict String Decimal)

def latestCovariance : Option (Dict String (Dict String Decimal)) :=
  (sortedBy (fun row => toLex (row.decisionCreatedAt, row.portfolioDecisionId))
    rows).reverse.findSome?
    (·.covariance)

def storedCovariance (covariance : Dict String (Dict String Decimal)) (row column : String) :
    Except Failure Decimal :=
  match (covariance.get? row).bind (·.get? column) with
  | some value => .ok value
  | none => .error (q1CycleError "Stored Q1 covariance diagnostics are malformed")

def storedVolatility (covariance : Dict String (Dict String Decimal)) (qqq soxx : Decimal) :
    Except Failure (Option Decimal) := do
  let qqqQqq ← storedCovariance covariance "QQQ" "QQQ"
  let qqqSoxx ← storedCovariance covariance "QQQ" "SOXX"
  let soxxSoxx ← storedCovariance covariance "SOXX" "SOXX"
  let variance := qqq * qqq * qqqQqq + 2 * qqq * soxx * qqqSoxx + soxx * soxx * soxxSoxx
  raiseIf (variance < 0)
    (q1CycleError "Stored Q1 covariance produced negative portfolio variance")
  return some (decimalSqrt variance)

def pricedWeight (nav : Decimal)
    (symbol : String) : Except Failure Decimal :=
  match prices.get? symbol with
  | none => .error ⟨.keyError, symbol, []⟩
  | some price => do
    raiseIf (nav = 0) ⟨.divisionByZero, "", []⟩
    return state.val.positions.getD symbol 0 * price / nav

def heldRisk : Dict String Decimal :=
  state.val.positions.filter fun symbol quantity => symbol ∈ ["QQQ", "SOXX"] ∧ 0 < quantity

def currentPortfolioAnnualizedVolatility : Except Failure (Option Decimal) :=
  if (heldRisk state).entries = [] then .ok (some 0)
  else
    match latestCovariance rows with
    | none => .ok none
    | some covariance => do
      let nav ← state.nav prices
      let qqq ← pricedWeight state prices nav "QQQ"
      let soxx ← pricedWeight state prices nav "SOXX"
      storedVolatility covariance qqq soxx

def heldWeight (nav : Decimal)
    (symbol : String) : Decimal :=
  if symbol ∈ state.held.keys then state.val.positions.getD symbol 0 * prices.getD symbol 0 / nav
  else 0

def heldVolatility : Except Failure (Option Decimal) :=
  if (heldRisk state).entries = [] then .ok (some 0)
  else
    match latestCovariance rows with
    | none => .ok none
    | some covariance => do
      let nav ← state.nav prices
      storedVolatility covariance (heldWeight state prices nav "QQQ")
        (heldWeight state prices nav "SOXX")

/-- A positive price for every holding, and no other. -/
structure PricesHeld (state : Q1ArmState) (prices : Dict String Decimal) : Prop where
  exactly : ∀ symbol, symbol ∈ prices.keys ↔ symbol ∈ state.held.keys
  positive : ∀ price ∈ prices.values, 0 < price

/-- A covariance with the entries of both symbols, and no negative variance of long weights. -/
structure ReadableCovariance (covariance : Dict String (Dict String Decimal)) : Prop where
  entries : ∃ qqqQqq qqqSoxx soxxSoxx, storedCovariance covariance "QQQ" "QQQ" = .ok qqqQqq ∧
    storedCovariance covariance "QQQ" "SOXX" = .ok qqqSoxx ∧
    storedCovariance covariance "SOXX" "SOXX" = .ok soxxSoxx ∧
    ∀ qqq soxx : Decimal, 0 ≤ qqq → 0 ≤ soxx →
      0 ≤ qqq * qqq * qqqQqq + 2 * qqq * soxx * qqqSoxx + soxx * soxx * soxxSoxx

/-- Both symbols are held or none is, unless there is no covariance. -/
def AllOrNoneHeld : Prop :=
  ("QQQ" ∈ state.held.keys ↔ "SOXX" ∈ state.held.keys) ∨ latestCovariance rows = none

section Volatility

variable {rows : List DecisionDiagnostics} {state : Q1ArmState} {prices : Dict String Decimal}

theorem mem_held {symbol : String} {quantity : Decimal} :
    (symbol, quantity) ∈ state.held.entries ↔
      (symbol, quantity) ∈ state.val.positions.entries ∧ 0 < quantity := by
  unfold Settlement.Q1ArmState.held
  show _ ∈ state.val.positions.entries.filter _ ↔ _
  simp [mem_filter]

theorem heldRisk_eq_nil : (heldRisk state).entries = [] ↔
    "QQQ" ∉ state.held.keys ∧ "SOXX" ∉ state.held.keys := by
  have hmem (symbol : String) : symbol ∈ state.held.keys ↔
      ∃ quantity, (symbol, quantity) ∈ state.val.positions.entries ∧ 0 < quantity := by
    simp only [Dict.keys, mem_map, Prod.exists, mem_held]
    constructor
    · rintro ⟨_, quantity, hheld, rfl⟩
      exact ⟨quantity, hheld⟩
    · rintro ⟨quantity, hheld⟩
      exact ⟨symbol, quantity, hheld, rfl⟩
  rw [hmem, hmem, eq_nil_iff_forall_not_mem]
  constructor
  · intro hnone
    constructor
    · rintro ⟨quantity, hheld, hpos⟩
      exact hnone ("QQQ", quantity) (mem_filter.mpr ⟨hheld, by simp [hpos]⟩)
    · rintro ⟨quantity, hheld, hpos⟩
      exact hnone ("SOXX", quantity) (mem_filter.mpr ⟨hheld, by simp [hpos]⟩)
  · rintro ⟨hqqq, hsoxx⟩ ⟨symbol, quantity⟩ hentry
    obtain ⟨hheld, hrisk⟩ := mem_filter.mp hentry
    simp only [mem_cons, not_mem_nil, or_false, decide_eq_true_eq] at hrisk
    obtain ⟨rfl | rfl, hpos⟩ := hrisk
    · exact hqqq ⟨quantity, hheld, hpos⟩
    · exact hsoxx ⟨quantity, hheld, hpos⟩

theorem PricesHeld.price_pos (h : PricesHeld state prices) {symbol : String}
    (held : symbol ∈ state.held.keys) : ∃ price, prices.get? symbol = some price ∧ 0 < price := by
  obtain ⟨price, hprice⟩ := Dict.mem_keys.mp ((h.exactly symbol).mpr held)
  exact ⟨price, hprice, h.positive price (Dict.mem_values_of_get? hprice)⟩

theorem totalCashUsd_nonneg (state : Q1ArmState) : 0 ≤ state.totalCashUsd := by
  have hvalid := state.valid
  simp only [Settlement.Q1ArmStateFields.check, ok_iff, not_or, not_lt] at hvalid
  refine add_nonneg hvalid.1.2 (sum_nonneg (forall_mem_map.mpr fun receivable _ => ?_))
  have hamount := receivable.valid
  simp only [Settlement.UnsettledReceivableFields.check, raiseIf_eq_ok, not_le] at hamount
  exact hamount.le

theorem PricesHeld.nav_pos (h : PricesHeld state prices) {symbol : String}
    (held : symbol ∈ state.held.keys) : ∃ nav, state.nav prices = .ok nav ∧ 0 < nav := by
  have hmissing : state.held.keys.filter (fun symbol => symbol ∉ prices.keys) = [] := by
    refine filter_eq_nil_iff.mpr fun other hother => ?_
    simpa using (h.exactly other).mpr hother
  have hsum : 0 < (state.held.entries.map fun entry => entry.2 * prices.getD entry.1 0).sum := by
    apply sum_pos
    · refine forall_mem_map.mpr fun entry hentry => ?_
      obtain ⟨price, hprice, hpos⟩ := h.price_pos (mem_map_of_mem hentry)
      rw [Dict.getD_of_get? hprice]
      exact mul_pos (mem_held.mp hentry).2 hpos
    · intro hnil
      rw [map_eq_nil_iff] at hnil
      rw [Dict.keys, hnil] at held
      cases held
  refine ⟨_, ?_, add_pos_of_nonneg_of_pos (totalCashUsd_nonneg state) hsum⟩
  simp only [Settlement.Q1ArmState.nav, hmissing]
  rfl

theorem PricesHeld.pricedWeight_eq (h : PricesHeld state prices) {nav : Decimal} (hnav : 0 < nav)
    (symbol : String) : pricedWeight state prices nav symbol =
      if symbol ∈ state.held.keys then .ok (heldWeight state prices nav symbol)
      else .error ⟨.keyError, symbol, []⟩ := by
  unfold pricedWeight heldWeight
  by_cases hheld : symbol ∈ state.held.keys
  · obtain ⟨price, hprice, -⟩ := h.price_pos hheld
    rw [if_pos hheld, if_pos hheld, hprice, Dict.getD_of_get? hprice]
    simp only [raiseIf_neg _ hnav.ne', ok_bind]
    rfl
  · have hnone : prices.get? symbol = none := by
      rw [Dict.get?_eq_none, h.exactly]
      exact hheld
    rw [if_neg hheld, hnone]

theorem heldWeight_nonneg (h : PricesHeld state prices) {nav : Decimal} (hnav : 0 < nav)
    (symbol : String) : 0 ≤ heldWeight state prices nav symbol := by
  unfold heldWeight
  by_cases hheld : symbol ∈ state.held.keys
  · obtain ⟨price, hprice, hpos⟩ := h.price_pos hheld
    obtain ⟨entry, hentry, rfl⟩ := mem_map.mp hheld
    obtain ⟨hposition, hquantity⟩ := mem_held.mp hentry
    rw [if_pos hheld, Dict.getD_of_get? hprice,
      Dict.getD_of_get? (Dict.get?_eq_some.mpr hposition)]
    exact div_nonneg (mul_nonneg hquantity.le hpos.le) hnav.le
  · rw [if_neg hheld]

theorem storedVolatility_ne_keyError {covariance} {qqq soxx : Decimal} {symbol : String} :
    storedVolatility covariance qqq soxx ≠ .error ⟨.keyError, symbol, []⟩ := by
  have hentry (row column : String) : Avoids ⟨.keyError, symbol, []⟩
      (storedCovariance covariance row column) := by
    unfold storedCovariance
    split
    · exact avoids_ok _ _
    · exact avoids_error (by simp [q1CycleError])
  refine (hentry "QQQ" "QQQ").bind fun _ => (hentry "QQQ" "SOXX").bind fun _ =>
    (hentry "SOXX" "SOXX").bind fun _ => Avoids.bind (avoids_raiseIf ?_) fun _ => avoids_ok _ _
  simp [q1CycleError]

/-- With prices of exactly the held symbols, the volatility is the one with weight zero for what is
not held exactly when both symbols are held or none, or there is no covariance; and where the
covariance can be read, this is also when a value is returned at all. -/
theorem volatility_iff (h : PricesHeld state prices) :
    (currentPortfolioAnnualizedVolatility rows state prices = heldVolatility rows state prices ↔
      AllOrNoneHeld rows state) ∧
    ((∀ covariance ∈ latestCovariance rows, ReadableCovariance covariance) →
      ((∃ value, currentPortfolioAnnualizedVolatility rows state prices = .ok value) ↔
        AllOrNoneHeld rows state)) := by
  unfold currentPortfolioAnnualizedVolatility heldVolatility AllOrNoneHeld
  by_cases hnone : (heldRisk state).entries = []
  · obtain ⟨hqqq, hsoxx⟩ := heldRisk_eq_nil.mp hnone
    rw [if_pos hnone, if_pos hnone]
    have hboth : "QQQ" ∈ state.held.keys ↔ "SOXX" ∈ state.held.keys := iff_of_false hqqq hsoxx
    exact ⟨iff_of_true rfl (.inl hboth), fun _ => iff_of_true ⟨_, rfl⟩ (.inl hboth)⟩
  rw [if_neg hnone, if_neg hnone]
  cases hlatest : latestCovariance rows with
  | none => exact ⟨iff_of_true rfl (.inr rfl), fun _ => iff_of_true ⟨_, rfl⟩ (.inr rfl)⟩
  | some covariance =>
    have hsome : "QQQ" ∈ state.held.keys ∨ "SOXX" ∈ state.held.keys := by
      by_contra hneither
      rw [not_or] at hneither
      exact hnone (heldRisk_eq_nil.mpr hneither)
    obtain ⟨nav, hnav, hpos⟩ := hsome.elim h.nav_pos h.nav_pos
    simp only [hnav, ok_bind, h.pricedWeight_eq hpos, reduceCtorEq, or_false]
    have hreads (readable : ReadableCovariance covariance) : ∃ value, storedVolatility covariance
        (heldWeight state prices nav "QQQ") (heldWeight state prices nav "SOXX") = .ok value := by
      obtain ⟨qqqQqq, qqqSoxx, soxxSoxx, hqq, hqs, hss, hvariance⟩ := readable.entries
      have hnonneg := hvariance _ _ (heldWeight_nonneg h hpos "QQQ")
        (heldWeight_nonneg h hpos "SOXX")
      simp only [storedVolatility, hqq, hqs, hss, ok_bind, raiseIf_neg _ (not_lt.mpr hnonneg)]
      exact ⟨_, rfl⟩
    by_cases hqqq : "QQQ" ∈ state.held.keys
    · by_cases hsoxx : "SOXX" ∈ state.held.keys
      · have hboth : "QQQ" ∈ state.held.keys ↔ "SOXX" ∈ state.held.keys := iff_of_true hqqq hsoxx
        rw [if_pos hqqq, if_pos hsoxx, ok_bind, ok_bind]
        exact ⟨iff_of_true rfl hboth, fun readable => iff_of_true (hreads (readable _ rfl)) hboth⟩
      · have hdiffer : ¬("QQQ" ∈ state.held.keys ↔ "SOXX" ∈ state.held.keys) :=
          fun hboth => hsoxx (hboth.mp hqqq)
        rw [if_pos hqqq, if_neg hsoxx, ok_bind]
        exact ⟨iff_of_false (fun heq => storedVolatility_ne_keyError heq.symm) hdiffer,
          fun _ => iff_of_false (by rintro ⟨_, hok⟩; cases hok) hdiffer⟩
    · have hdiffer : ¬("QQQ" ∈ state.held.keys ↔ "SOXX" ∈ state.held.keys) :=
        fun hboth => hqqq (hboth.mpr (hsome.resolve_left hqqq))
      rw [if_neg hqqq]
      exact ⟨iff_of_false (fun heq => storedVolatility_ne_keyError heq.symm) hdiffer,
        fun _ => iff_of_false (by rintro ⟨_, hok⟩; cases hok) hdiffer⟩

end Volatility

def sampleHolding (positions : Dict String Decimal)
    (valid : Settlement.Q1ArmStateFields.check
      ⟨.q1Llm, 10000, 7000, [], positions, 0, none⟩ = .ok ()) : Q1ArmState := ⟨_, valid⟩

def sampleQqqHolding : Q1ArmState :=
  sampleHolding ⟨[("QQQ", 30)], by decide⟩ (by decide +kernel)

def sampleBothHolding : Q1ArmState :=
  sampleHolding ⟨[("QQQ", 30), ("SOXX", 30)], by decide⟩ (by decide +kernel)

def sampleDiagnostics : DecisionDiagnostics where
  portfolioDecisionId := "decision"
  decisionCreatedAt := 0
  covariance := some ⟨[("QQQ", ⟨[("QQQ", 1 / 25), ("SOXX", 0)], by decide⟩),
    ("SOXX", ⟨[("QQQ", 0), ("SOXX", 1 / 25)], by decide⟩)], by decide⟩

theorem sampleQqqPrices_held :
    PricesHeld sampleQqqHolding ⟨[("QQQ", (100 : Decimal))], by decide⟩ where
  exactly symbol := by
    show symbol ∈ ["QQQ"] ↔ symbol ∈ ["QQQ"]
    rfl
  positive price hprice := by
    rw [mem_singleton.mp hprice]
    decide +kernel

theorem sampleBothPrices_held :
    PricesHeld sampleBothHolding ⟨[("QQQ", (100 : Decimal)), ("SOXX", 100)], by decide⟩ where
  exactly symbol := by
    show symbol ∈ ["QQQ", "SOXX"] ↔ symbol ∈ ["QQQ", "SOXX"]
    rfl
  positive := by decide +kernel

/-- The price of SOXX is missing although there is none to price. -/
theorem unheld_symbol_priced :
    PricesHeld sampleQqqHolding ⟨[("QQQ", (100 : Decimal))], by decide⟩ ∧
    currentPortfolioAnnualizedVolatility [sampleDiagnostics] sampleQqqHolding
      ⟨[("QQQ", (100 : Decimal))], by decide⟩ = .error ⟨.keyError, "SOXX", []⟩ :=
  ⟨sampleQqqPrices_held, by decide +kernel⟩

theorem sampleDiagnostics_readable :
    ∀ covariance ∈ latestCovariance [sampleDiagnostics], ReadableCovariance covariance := by
  intro covariance hlatest
  cases show sampleDiagnostics.covariance = some covariance from hlatest
  refine ⟨1 / 25, 0, 1 / 25, by decide +kernel, by decide +kernel, by decide +kernel, ?_⟩
  intro qqq soxx hqqq hsoxx
  positivity

theorem both_symbols_priced :
    currentPortfolioAnnualizedVolatility [sampleDiagnostics] sampleBothHolding
        ⟨[("QQQ", (100 : Decimal)), ("SOXX", 100)], by decide⟩ =
      heldVolatility [sampleDiagnostics] sampleBothHolding
        ⟨[("QQQ", (100 : Decimal)), ("SOXX", 100)], by decide⟩ ∧
    ∃ value, currentPortfolioAnnualizedVolatility [sampleDiagnostics] sampleBothHolding
      ⟨[("QQQ", (100 : Decimal)), ("SOXX", 100)], by decide⟩ = .ok value :=
  have hiff := @volatility_iff [sampleDiagnostics] _ _ sampleBothPrices_held
  ⟨hiff.1.mpr (.inl (by decide)), (hiff.2 sampleDiagnostics_readable).mpr (.inl (by decide))⟩

end AdaptiveQuant.Q1Cycle
