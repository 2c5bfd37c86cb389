import AdaptiveQuant.Research.ShadowGuards
import AdaptiveQuant.Domain.CanonicalText
import Mathlib.Algebra.Order.Archimedean.Basic
import Mathlib.Algebra.Order.Ring.Star
import Mathlib.Data.Rat.Star
import Mathlib.Tactic.FieldSimp
import Mathlib.Tactic.LinearCombination

/-! When a buy fits the cash. -/

namespace AdaptiveQuant.Shadow

open Guard Ledger ArmCycle List

variable {hash : Hashing}

def stepCommission (p : PaperParameters) : Decimal :=
  100 * (p.commissionRate * p.quantityQuantum * 10 ^ p.priceQuantum.exponent)

/-- The commission of one quantity step is a whole number. -/
def WholeCentCommission (p : PaperParameters) : Prop := (stepCommission p).den = 1

/-- No cycle that the pair can be given ends with negative cash. -/
def AffordsEveryBuy (spec : PairRuntimeSpec hash) : Prop :=
  ∀ m : MatchedCycle hash, m.spec = spec → m.validateCommonInputs = .ok () →
    (∀ role, (m.arm role).execute ≠ .error negativeCash) ∧ m.execute ≠ .error negativeCash

theorem commission_le {quantity price : Decimal} {p} (whole : WholeCentCommission p)
    (hquantity : quantity ∈ AddSubgroup.zmultiples p.quantityQuantum)
    (hprice : price ∈ AddSubgroup.zmultiples ((10 : Decimal) ^ p.priceQuantum.exponent))
    (pos : 0 ≤ quantity * price) :
    commission (quantity * price) p ≤ quantity * price * p.commissionRate := by
  unfold commission
  split
  · exact mul_nonneg pos p.commissionRate_nonneg
  · refine le_of_eq (quantizeHalfEven_of_mem ?_)
    obtain ⟨i, rfl⟩ := AddSubgroup.mem_zmultiples_iff.mp hquantity
    obtain ⟨j, rfl⟩ := AddSubgroup.mem_zmultiples_iff.mp hprice
    have hstep : stepCommission p = (stepCommission p).num :=
      (Rat.den_eq_one_iff _).mp whole |>.symm
    rw [AddSubgroup.mem_zmultiples_iff]
    refine ⟨i * j * (stepCommission p).num, ?_⟩
    rw [zsmul_eq_mul, zsmul_eq_mul, zsmul_eq_mul, Int.cast_mul, ← hstep, stepCommission]
    have hcent : (10 : Decimal) ^ cent.exponent = 1 / 100 := by norm_num [cent]
    rw [hcent]
    push_cast
    ring

theorem fill_fits {cash requested quantity : Decimal} {quote : Quote} {p}
    (whole : WholeCentCommission p)
    (hquantity : fillableQuantity requested .buy quote.val cash p = .ok quantity)
    (pos : 0 < quantity) :
    quantity * fillPrice .buy quote.val p + commission (quantity * fillPrice .buy quote.val p) p ≤
      cash := by
  have hprice := fillPrice_nonneg .buy quote p
  have hmem : fillPrice .buy quote.val p ∈
      AddSubgroup.zmultiples ((10 : Decimal) ^ p.priceQuantum.exponent) := quantizeHalfEven_mem _ _
  have hfee := commission_le whole (fillableQuantity_mem hquantity) hmem (mul_nonneg pos.le hprice)
  have hcash := fillableQuantity_affordable hquantity pos
  linarith

theorem execute_affords (c : ArmCycle hash) (whole : WholeCentCommission c.parameters) :
    Avoids negativeCash c.execute := by
  have guards : negativeCash ∈ bookGuards := by decide
  refine execute_avoids guards c fun _ _ => avoids_foldlM fun book planned _ => ?_
  refine executeOrder_avoids guards c fun order quote quantity _ horder hquantity hpos => ?_
  refine ⟨fun _ hside => ?_, fun heq => absurd heq (by decide)⟩
  rw [← (buildOrderIntent_eq_ok horder).1, hside] at hquantity
  exact fill_fits whole hquantity hpos

theorem affordsEveryBuy_of_whole {spec : PairRuntimeSpec hash}
    (whole : WholeCentCommission spec.val.paperParameters) : AffordsEveryBuy spec := by
  rintro m rfl valid
  have harms : ∀ role, Avoids negativeCash (m.arm role).execute := by
    intro role
    refine execute_affords _ ?_
    cases role <;> exact whole
  exact ⟨harms, MatchedCycle.execute_avoids (by decide) valid harms⟩

theorem exists_mul_eq_sub_one {a : ℤ} {b : ℕ} (hb : 0 < b) (co : a.natAbs.Coprime b) (least : ℕ) :
    ∃ n ≥ least, ∃ t : ℤ, a * n = b * t - 1 := by
  have hbezout : a * a.gcdA b + b * a.gcdB b = 1 := by
    rw [← Int.gcd_eq_gcd_ab]
    exact_mod_cast co
  have hmod : 0 ≤ -a.gcdA b % b := Int.emod_nonneg _ (by omega)
  have hdiv := Int.emod_add_mul_ediv (-a.gcdA b) b
  refine ⟨(-a.gcdA b % b).toNat + b * least, ?_,
    a.gcdB b - a * (-a.gcdA b / b) + a * least, ?_⟩
  · have := Nat.le_mul_of_pos_left least hb
    omega
  · push_cast
    rw [Int.toNat_of_nonneg hmod]
    linear_combination a * hdiv - hbezout

theorem exists_roundsUp {γ : Decimal} (h : γ.den ≠ 1) (least : ℕ) :
    ∃ n ≥ least, γ * n - ⌊γ * n⌋ > 1 / 2 ∨
      (γ * n - ⌊γ * n⌋ = 1 / 2 ∧ ⌊γ * n⌋ % 2 = 1) := by
  have hden : (0 : Decimal) < γ.den := by exact_mod_cast γ.den_pos
  have hγ : γ * γ.den = γ.num := Rat.mul_den_eq_num γ
  have hpos := γ.den_pos
  by_cases htwo : γ.den = 2
  · -- halves: a multiple with the numerator 3 modulo 4 is halfway above an odd number
    have hco : γ.num.natAbs.Coprime 4 := by
      have := γ.reduced.pow_right 2
      rwa [htwo] at this
    obtain ⟨n, hn, t, ht⟩ := exists_mul_eq_sub_one (by norm_num) hco least
    have hvalue : γ * n = ((2 * t - 1 : ℤ) : Decimal) + 1 / 2 := by
      have hcast : (γ.num : Decimal) * n = 4 * t - 1 := by exact_mod_cast ht
      rw [htwo] at hγ
      push_cast at hγ ⊢
      rw [← hγ] at hcast
      linarith
    have hfloor : ⌊γ * n⌋ = 2 * t - 1 := by
      rw [hvalue, Int.floor_intCast_add]
      norm_num
    refine ⟨n, hn, .inr ⟨?_, ?_⟩⟩
    · rw [hfloor, hvalue]
      ring
    · rw [hfloor]
      omega
  · -- otherwise a multiple that is one over the denominator below a whole number
    obtain ⟨n, hn, t, ht⟩ := exists_mul_eq_sub_one hpos γ.reduced least
    have hthree : (3 : Decimal) ≤ γ.den := by exact_mod_cast (by omega : 3 ≤ γ.den)
    have hvalue : γ * n = ((t - 1 : ℤ) : Decimal) + (1 - 1 / γ.den) := by
      have hcast : (γ.num : Decimal) * n = γ.den * t - 1 := by exact_mod_cast ht
      rw [← hγ] at hcast
      push_cast
      field_simp
      linarith
    have hthird : 1 / (γ.den : Decimal) ≤ 1 / 3 :=
      one_div_le_one_div_of_le (by norm_num) hthree
    have hfrac : 0 < 1 / (γ.den : Decimal) := one_div_pos.mpr hden
    have hfloor : ⌊γ * n⌋ = t - 1 := by
      rw [hvalue, Int.floor_intCast_add, Int.floor_eq_zero_iff.mpr ⟨by linarith, by linarith⟩]
      ring
    refine ⟨n, hn, .inl ?_⟩
    rw [hfloor, hvalue]
    linarith

theorem lt_quantizeHalfEven {value : Decimal} {q : Quantum}
    (up : value / 10 ^ q.exponent - ⌊value / 10 ^ q.exponent⌋ > 1 / 2 ∨
      (value / 10 ^ q.exponent - ⌊value / 10 ^ q.exponent⌋ = 1 / 2 ∧
        ⌊value / 10 ^ q.exponent⌋ % 2 = 1)) : value < quantizeHalfEven value q := by
  have hlt := Int.lt_floor_add_one (value / 10 ^ q.exponent)
  rw [div_lt_iff₀ q.step_pos] at hlt
  simp only [quantizeHalfEven, if_pos up]
  exact_mod_cast hlt

theorem share_nonneg {share : Decimal} (h : 0 ≤ share ∧ share ≤ 1) : 0 ≤ share := h.1

theorem share_le {share : Decimal} (h : 0 ≤ share ∧ share ≤ 1) : share ≤ 1 := h.2

theorem whole_share : (0 : Decimal) ≤ 1 ∧ (1 : Decimal) ≤ 1 := ⟨by norm_num, le_rfl⟩

def spyWeights (share : Decimal) (h : 0 ≤ share ∧ share ≤ 1) : List TargetWeight :=
  [⟨"SPY", share, share_nonneg h, share_le h⟩,
    ⟨usdCash, 1 - share, by linarith [h.2], by linarith [h.1]⟩]

section Inputs

variable (spec : PairRuntimeSpec hash) (time : Instant) (share : Decimal)
  (h : 0 ≤ share ∧ share ≤ 1)

def spyTarget (role : ArmRole) (quoteManifestHash : String) : TargetDecision hash :=
  sealTarget hash (targetFields "target" spec role time time (time + 2) quoteManifestHash
    (spyWeights share h))
    { weighted := cons_ne_nil _ _
      cutoff := le_rfl
      validity := Int.lt_add_of_pos_right time (by decide)
      sorted := (by decide : SortedUnique ["SPY", usdCash])
      cash := (by decide : usdCash ∈ ["SPY", usdCash])
      total := by simp [targetFields, spyWeights] }

def spyInput (quote : Quote) : CycleInput hash :=
  let bundle := sealBundle hash spec.val.executionContract.marketInputManifestHash
    (time + 1) [quote]
    (cons_ne_nil _ _) (pairwise_singleton _ _)
  ⟨spyTarget spec time share h .champion bundle.val.quoteManifestHash,
    spyTarget spec time share h .challenger bundle.val.quoteManifestHash, bundle⟩

variable (quote : Quote) (cash : Decimal) (pos : 0 < cash) (role : ArmRole)

def cashPair : PairState hash :=
  ⟨cashState spec .champion cash time pos, cashState spec .challenger cash time pos, []⟩

def spyCycle : MatchedCycle hash :=
  (spyInput spec time share h quote).cycle spec (cashPair spec time cash pos)

def spyArm : ArmCycle hash where
  spec := spec
  state := cashState spec role cash time pos
  target := spyTarget spec time share h role
    (spyInput spec time share h quote).bundle.val.quoteManifestHash
  bundle := (spyInput spec time share h quote).bundle

theorem spyCycle_arm :
    (spyCycle spec time share h quote cash pos).arm role =
      spyArm spec time share h quote cash pos role := by
  cases role <;> rfl

theorem spyCycle_valid : (spyCycle spec time share h quote cash pos).validateCommonInputs =
    .ok () := by
  have hbinding (role : ArmRole) :
      (spyArm spec time share h quote cash pos role).checkBinding role = .ok () := by
    have htimes : ¬(time < time ∨ time + 1 ≤ time) :=
      not_or.mpr ⟨lt_irrefl _, not_le.mpr (Int.lt_succ _)⟩
    simp only [checkBinding, ok_iff, not_not]
    exact ⟨⟨rfl, rfl, rfl, rfl, rfl, rfl⟩, htimes, ⟨rfl, rfl, rfl, rfl, rfl, rfl, rfl, rfl, rfl⟩⟩
  have hvalidity : ¬time + 1 ≥ time + 2 := not_le.mpr (Int.add_lt_add_left (by decide) _)
  simp only [MatchedCycle.validateCommonInputs, ok_iff, not_not, ne_eq]
  exact ⟨rfl, rfl, rfl, rfl, rfl, hvalidity, rfl, (), hbinding .champion, hbinding .challenger⟩

variable {quote} in
theorem spyArm_checkQuotes
    (quoted : (spyArm spec time share h quote cash pos role).quotes.get? "SPY" = some quote)
    (fresh : quote.val.eventTime = time + 1 ∧ quote.val.availableAt = time + 1) :
    (spyArm spec time share h quote cash pos role).checkQuotes = .ok () := by
  have hrisky : (spyArm spec time share h quote cash pos role).riskySymbols = ["SPY"] := rfl
  have hasOf : (spyArm spec time share h quote cash pos role).bundle.val.asOf = time + 1 := rfl
  have hafter : time < quote.val.availableAt := by
    rw [fresh.2]
    exact Int.lt_succ _
  refine checkQuotes_eq_ok.mpr fun symbol hmem => ?_
  rw [hrisky, mem_singleton] at hmem
  subst hmem
  refine ⟨quote, quoted, hafter, fresh.2.le, fresh.1.le, ?_⟩
  rw [hasOf, fresh.1, sub_self]
  positivity

end Inputs

section Costly

variable (spec : PairRuntimeSpec hash) (n : ℕ)

variable (p : PaperParameters)

def priceStep : Decimal := 10 ^ p.priceQuantum.exponent

theorem priceStep_pos : 0 < priceStep p := p.priceQuantum.step_pos

def steps (n : ℕ) : Decimal := n * p.quantityQuantum

def stepQuoteFields (n : ℕ) : QuoteFields where
  quoteId := "quote"
  instrumentId := "SPY"
  eventTime := 1
  availableAt := 1
  bidPrice := 7 / 10 * priceStep p
  askPrice := 7 / 10 * priceStep p
  bidSizeShares := 1
  askSizeShares := steps p (n + 1) / p.displayedParticipationRate
  advShares := steps p (n + 1) / p.advParticipationRate
  sourceHash := "source"

theorem steps_pos : 0 < steps p (n + 1) :=
  mul_pos (by positivity) p.quantityQuantum_pos

def stepQuote : Quote where
  val := stepQuoteFields p n
  valid := by
    have hprice : 0 < 7 / 10 * priceStep p := mul_pos (by norm_num) (priceStep_pos p)
    have hsteps := steps_pos n p
    exact QuoteFields.check_eq_ok.mpr ⟨⟨hprice, hprice, by norm_num [stepQuoteFields],
      div_pos hsteps p.displayed_pos, div_pos hsteps p.adv_pos⟩, le_rfl, le_rfl⟩

theorem fillPrice_stepQuote :
    fillPrice .buy (stepQuote n p).val p = priceStep p := by
  have hu := priceStep_pos p
  have hdelay := delay_nonneg p
  have hlt := delay_lt_one p
  generalize hd : p.delayPenaltyBps / p.basisPointsPerUnitReturn = d at hdelay hlt
  have hsteps : 7 / 10 * priceStep p * (1 + d) / 10 ^ p.priceQuantum.exponent =
    7 / 10 * (1 + d) := by
    show 7 / 10 * priceStep p * (1 + d) / priceStep p = _
    field_simp
  show quantizeHalfEven
    (7 / 10 * priceStep p * (1 + p.delayPenaltyBps / p.basisPointsPerUnitReturn))
    p.priceQuantum = priceStep p
  simp only [hd, quantizeHalfEven, hsteps]
  show ((if _ then _ else _ : ℤ) : Decimal) * priceStep p = priceStep p
  rcases lt_or_ge (7 / 10 * (1 + d)) 1 with hbelow | habove
  · have hfloor : ⌊7 / 10 * (1 + d)⌋ = 0 := Int.floor_eq_zero_iff.mpr ⟨by linarith, hbelow⟩
    rw [hfloor, if_pos (.inl (by push_cast; linarith))]
    push_cast
    ring
  · have hfloor : ⌊7 / 10 * (1 + d)⌋ = 1 :=
      Int.floor_eq_iff.mpr (by push_cast; constructor <;> linarith)
    rw [hfloor, if_neg]
    · push_cast
      ring
    · push_cast
      rintro (h | h)
      · linarith
      · linarith [h.1]

def stepCash : Decimal :=
  steps p (n + 1) * (priceStep p * (1 + p.commissionRate))

theorem stepCash_pos : 0 < stepCash n p := by
  have hrate : 0 < 1 + p.commissionRate := by linarith [p.commissionRate_nonneg]
  exact mul_pos (steps_pos n p) (mul_pos (priceStep_pos p) hrate)

def investedCycle : MatchedCycle hash :=
  spyCycle spec 0 1 whole_share (stepQuote n spec.val.paperParameters) _
    (stepCash_pos n spec.val.paperParameters)

variable (role : ArmRole)

def investedArm : ArmCycle hash :=
  spyArm spec 0 1 whole_share (stepQuote n spec.val.paperParameters) _
    (stepCash_pos n spec.val.paperParameters) role

theorem investedArm_risky : (investedArm spec n role).riskySymbols = ["SPY"] := rfl

theorem investedArm_quote : (investedArm spec n role).quotes.get? "SPY" =
    some (stepQuote n spec.val.paperParameters) := rfl

theorem investedArm_weight : (weightMap (investedArm spec n role).target).get? "SPY" = some 1 := rfl

theorem investedArm_nav :
    (investedArm spec n role).decisionNav = stepCash n spec.val.paperParameters := add_zero _

theorem investedArm_midpoint : (investedArm spec n role).midpoint "SPY" =
    7 / 10 * priceStep spec.val.paperParameters := by
  show
    (7 / 10 * priceStep spec.val.paperParameters + 7 / 10 * priceStep spec.val.paperParameters) / 2
    = _
  ring

def wanted : Decimal :=
  roundDown (stepCash n p * 1 / (7 / 10 * priceStep p)) p.quantityQuantum

theorem steps_le_wanted : steps p (n + 1) ≤ wanted n p := by
  have hu := priceStep_pos p
  have hsteps := steps_pos n p
  refine le_roundDown (n := n + 1) p.quantityQuantum_pos ?_
  show steps p (n + 1) ≤ _
  rw [le_div_iff₀ (by positivity), stepCash, mul_one, ← sub_nonneg]
  have hrate := p.commissionRate_nonneg
  have hexpand : steps p (n + 1) * (priceStep p * (1 + p.commissionRate)) -
      steps p (n + 1) * (7 / 10 * priceStep p) =
      steps p (n + 1) * priceStep p * (3 / 10 + p.commissionRate) := by ring
  rw [hexpand]
  positivity

theorem investedArm_desired : (investedArm spec n role).desiredQuantity "SPY" =
    wanted n spec.val.paperParameters := by
  have hrisky : "SPY" ≠ usdCash ∧ (0 : Decimal) < 1 := ⟨by decide, by norm_num⟩
  simp only [desiredQuantity, investedArm_weight, if_pos hrisky, investedArm_nav,
    investedArm_midpoint]
  rfl

variable {n} in
theorem investedArm_planned
    (hmin : spec.val.paperParameters.minimumOrderNotionalUsd ≤
      steps spec.val.paperParameters (n + 1) * (7 / 10 * priceStep spec.val.paperParameters)) :
    (investedArm spec n role).planned =
      [⟨.buy, "SPY", wanted n spec.val.paperParameters⟩] := by
  have hwanted : 0 < wanted n spec.val.paperParameters :=
    (steps_pos n _).trans_le (steps_le_wanted n _)
  have hprice : 0 < 7 / 10 * priceStep spec.val.paperParameters :=
    mul_pos (by norm_num) (priceStep_pos _)
  have hlarge : ¬wanted n spec.val.paperParameters * (7 / 10 * priceStep spec.val.paperParameters) <
      spec.val.paperParameters.minimumOrderNotionalUsd :=
    not_lt.mpr (hmin.trans (mul_le_mul_of_nonneg_right (steps_le_wanted n _) hprice.le))
  have horder : (investedArm spec n role).plannedOrder "SPY" =
      some ⟨.buy, "SPY", wanted n spec.val.paperParameters⟩ := by
    have hheld : (positionMap (investedArm spec n role).state).getD "SPY" 0 = 0 := rfl
    simp only [plannedOrder, investedArm_desired, hheld, sub_zero, if_neg hwanted.ne',
      abs_of_pos hwanted, investedArm_midpoint, if_pos hwanted]
    exact if_neg hlarge
  rw [planned, investedArm_risky, filterMap_cons, horder]
  rfl

variable {n} in
theorem stepQuote_fillable :
    fillableQuantity (wanted n p) .buy (stepQuote n p).val (stepCash n p) p =
      .ok (steps p (n + 1)) := by
  have hu := priceStep_pos p
  have hrate : 0 < 1 + p.commissionRate := by linarith [p.commissionRate_nonneg]
  have hunit : priceStep p * (1 + p.commissionRate) ≠ 0 := (mul_pos hu hrate).ne'
  have hdisplayed : steps p (n + 1) / p.displayedParticipationRate * p.displayedParticipationRate =
      steps p (n + 1) := div_mul_cancel₀ _ p.displayed_pos.ne'
  have hadv : steps p (n + 1) / p.advParticipationRate * p.advParticipationRate =
      steps p (n + 1) := div_mul_cancel₀ _ p.adv_pos.ne'
  have hcap : liquidityCap (wanted n p) .buy (stepQuote n p).val p = steps p (n + 1) := by
    show min (min (wanted n p) (steps p (n + 1) / p.displayedParticipationRate *
      p.displayedParticipationRate)) (steps p (n + 1) / p.advParticipationRate *
      p.advParticipationRate) = _
    rw [hdisplayed, hadv, min_eq_right (steps_le_wanted n p), min_self]
  have hcash : stepCash n p / (priceStep p * (1 + p.commissionRate)) = steps p (n + 1) :=
    mul_div_cancel_right₀ _ hunit
  simp only [fillableQuantity, fillPrice_stepQuote, ok_iff, decimalDiv_eq_ok]
  refine ⟨_, ⟨hunit, hcash⟩, ?_⟩
  rw [hcap, min_self]
  exact roundDown_natCast_mul p.quantityQuantum_pos (n + 1)

theorem fillOrder_negativeCash {c : ArmCycle hash} {book : Book} {order : OrderIntent}
    {quote : Quote} {quantity : Decimal} (hside : order.val.side = .buy)
    (hcost : quantity * fillPrice .buy quote.val c.parameters +
      commission (quantity * fillPrice .buy quote.val c.parameters) c.parameters > book.cash) :
    c.fillOrder book order quote quantity = .error negativeCash := by
  simp only [fillOrder, hside, true_and]
  rw [raiseIf_pos _ hcost, error_bind]

variable {spec n} in
theorem investedArm_fails
    (hmin : spec.val.paperParameters.minimumOrderNotionalUsd ≤
      steps spec.val.paperParameters (n + 1) * (7 / 10 * priceStep spec.val.paperParameters))
    (hfee : steps spec.val.paperParameters (n + 1) * priceStep spec.val.paperParameters *
      spec.val.paperParameters.commissionRate < commission (steps spec.val.paperParameters (n + 1) *
        priceStep spec.val.paperParameters) spec.val.paperParameters) :
    (investedArm spec n role).execute = .error negativeCash := by
  set p := spec.val.paperParameters with hp
  have hwanted : 0 < wanted n p := (steps_pos n p).trans_le (steps_le_wanted n p)
  obtain ⟨order, horder⟩ := @exists_buildOrderIntent _ (investedArm spec n role)
    ⟨.buy, "SPY", wanted n p⟩ hwanted
  have hcost : steps p (n + 1) * priceStep p + commission (steps p (n + 1) * priceStep p) p >
      stepCash n p := by
    rw [stepCash]
    linarith
  have hfill : (investedArm spec n role).executeOrder (investedArm spec n role).openingBook
      ⟨.buy, "SPY", wanted n p⟩ = .error negativeCash := by
    rw [executeOrder_eq_fillOrder (investedArm_quote spec n role) horder (stepQuote_fillable p)
      (steps_pos n p)]
    refine fillOrder_negativeCash (buildOrderIntent_eq_ok horder).1 ?_
    show steps p (n + 1) * fillPrice .buy (stepQuote n p).val p +
      commission (steps p (n + 1) * fillPrice .buy (stepQuote n p).val p) p > stepCash n p
    rwa [fillPrice_stepQuote]
  have hnav : ¬(investedArm spec n role).decisionNav ≤ 0 := by
    rw [investedArm_nav]
    exact not_le.mpr (stepCash_pos n p)
  have hquotes : (investedArm spec n role).checkQuotes = .ok () :=
    spyArm_checkQuotes _ _ _ _ _ _ _ (investedArm_quote spec n role) ⟨rfl, rfl⟩
  rw [execute, hquotes, ok_bind, raiseIf_neg _ hnav, ok_bind, executeOrders,
    investedArm_planned spec role hmin, foldlM_cons, hfill, error_bind, error_bind]

end Costly

theorem exists_costly {p : PaperParameters} (fraction : ¬WholeCentCommission p) :
    ∃ n, p.minimumOrderNotionalUsd ≤ steps p (n + 1) * (7 / 10 * priceStep p) ∧
      steps p (n + 1) * priceStep p * p.commissionRate <
        commission (steps p (n + 1) * priceStep p) p := by
  have hunit : 0 < p.quantityQuantum * priceStep p :=
    mul_pos p.quantityQuantum_pos (priceStep_pos p)
  obtain ⟨large, hlarge⟩ := exists_nat_gt
    (max (p.minimumOrderNotionalUsd * (10 / 7)) p.commissionWaiverThresholdUsd /
      (p.quantityQuantum * priceStep p))
  rw [div_lt_iff₀ hunit] at hlarge
  obtain ⟨m, hm, hup⟩ := exists_roundsUp fraction (large + 1)
  obtain ⟨n, rfl⟩ : ∃ n, m = n + 1 := ⟨m - 1, by omega⟩
  have hnotional : max (p.minimumOrderNotionalUsd * (10 / 7)) p.commissionWaiverThresholdUsd <
      steps p (n + 1) * priceStep p := by
    refine hlarge.trans_le ?_
    rw [steps, mul_assoc]
    refine mul_le_mul_of_nonneg_right ?_ hunit.le
    exact_mod_cast (by omega : large ≤ n + 1)
  obtain ⟨hmin, hwaiver⟩ := max_lt_iff.mp hnotional
  refine ⟨n, by linarith, ?_⟩
  rw [commission, if_neg (not_le.mpr hwaiver)]
  refine lt_quantizeHalfEven ?_
  have hvalue : steps p (n + 1) * priceStep p * p.commissionRate / 10 ^ cent.exponent =
      stepCommission p * (n + 1 : ℕ) := by
    have hcent : (10 : Decimal) ^ cent.exponent = 1 / 100 := by norm_num [cent]
    rw [hcent, stepCommission, steps, priceStep]
    push_cast
    ring
  rw [hvalue]
  exact hup

/-- No buy ever makes the cash of an arm negative exactly when the commission on one quantity step
at one price step is a whole number of cents. -/
theorem affordsEveryBuy_iff (spec : PairRuntimeSpec hash) :
    AffordsEveryBuy spec ↔ WholeCentCommission spec.val.paperParameters := by
  constructor
  · intro hafford
    by_contra fraction
    obtain ⟨n, hmin, hfee⟩ := exists_costly fraction
    obtain ⟨harms, -⟩ := hafford (investedCycle spec n) rfl (spyCycle_valid ..)
    refine harms .champion ?_
    rw [investedCycle, spyCycle_arm]
    exact investedArm_fails .champion hmin hfee
  · exact affordsEveryBuy_of_whole

/-- The parameters of `config/research/research-plane.yaml`. -/
def shippedParameters : PaperParameters where
  contractVersion := "shadow-paper-v1"
  commissionRate := 1 / 1000
  commissionWaiverThresholdUsd := 0
  delayPenaltyBps := 1
  displayedParticipationRate := 1 / 10
  advParticipationRate := 25 / 1000
  minimumOrderNotionalUsd := 25
  quantityQuantum := 1 / 1000000
  priceQuantum := ⟨1, -4⟩
  sensitivity5Bps := 5
  sensitivity10Bps := 10
  basisPointsPerUnitReturn := 10000
  maximumQuoteAgeSeconds := 15
  maximumMultiSymbolQuoteSkewSeconds := 2
  displayedSizeUnitShares := 100
  advLookbackCompletedSessions := 20
  weightTolerance := 1 / 1000000
  commissionRate_nonneg := by norm_num
  commissionRate_le := by norm_num
  waiver_nonneg := by norm_num
  delay_nonneg := by norm_num
  displayed_pos := by norm_num
  displayed_le := by norm_num
  adv_pos := by norm_num
  adv_le := by norm_num
  minimumOrder_pos := by norm_num
  quantityQuantum_pos := by norm_num
  priceQuantum_pos := by norm_num
  sensitivity5_pos := by norm_num
  basisPoints_pos := by norm_num
  quoteAge_pos := by norm_num
  quoteSkew_pos := by norm_num
  sizeUnit_pos := by norm_num
  lookback_gt := by norm_num
  tolerance_pos := by norm_num
  sensitivity_lt := by norm_num
  delay_lt := by norm_num
  sensitivity10_lt := by norm_num

def sampleSpec (hash : Hashing) (capital : Decimal) (pos : 0 < capital) : PairRuntimeSpec hash where
  val :=
    let contract : ExecutionContract :=
      ⟨"inputs", "schedule", "scenario", "costs", capital, "liquidity", pos⟩
    let runtimeHash := hash.canonicalHash (runtimeContract contract shippedParameters)
    let spec : PairRuntimeSpecFields :=
      ⟨hash.stableId "research-shadow-run" [.str "pair", .str "artifact-a", .str "artifact-b",
          .str runtimeHash], "pair", "challenger", ⟨.champion, "ARM-A", "core", "v1", "artifact-a"⟩,
        ⟨.challenger, "ARM-B", "core", "v2", "artifact-b"⟩, contract,
        hash.canonicalHash contract.payload, shippedParameters, runtimeHash, "code", 0, ""⟩
    { spec with specHash := hash.canonicalHash spec.payload }
  valid := PairRuntimeSpecFields.check_eq_ok.mpr
    ⟨rfl, rfl, (by decide : "ARM-A" ≠ "ARM-B"), (by decide : "v1" ≠ "v2"),
      (by decide : "artifact-a" ≠ "artifact-b"), rfl, rfl, rfl⟩

theorem sampleCapital_pos : (0 : Decimal) < 100000 := by norm_num

def sampleQuote (time : Instant) (bid ask : Decimal) (bid_pos : 0 < bid) (spread : bid ≤ ask) :
    Quote where
  val := ⟨"quote", "SPY", time, time, bid, ask, 5000, 5000, 1000000, "source"⟩
  valid := QuoteFields.check_eq_ok.mpr ⟨⟨bid_pos, bid_pos.trans_le spread, by norm_num, by norm_num,
    by norm_num⟩, spread, le_rfl⟩

/-- Two arms with 100006 dollars: the exact commission of 99.906 is rounded up to 99.91, and the buy
costs more than the cash. -/
theorem shippedParameters_overspend :
    ¬AffordsEveryBuy (sampleSpec Hashing.short 100006 (by norm_num)) := by
  intro hafford
  let spec := sampleSpec Hashing.short 100006 (by norm_num)
  let m := (spyInput spec 0 1 ⟨by norm_num, le_rfl⟩ (sampleQuote 1 (49998 / 100) (50002 / 100)
    (by norm_num) (by norm_num))).cycle spec (pairStart spec)
  have hvalid : failure? m.validateCommonInputs = none := by decide +kernel
  have hfails : failure? (m.arm .champion).execute = some negativeCash := by decide +kernel
  have hok : m.validateCommonInputs = .ok () := by
    cases h : m.validateCommonInputs with
    | ok u => rfl
    | error e => rw [h] at hvalid; cases hvalid
  exact (hafford m rfl hok).1 .champion (failure?_eq_some.mp hfails)

end AdaptiveQuant.Shadow
