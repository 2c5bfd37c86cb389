import AdaptiveQuant.Research.ShadowCycle
import Mathlib.Algebra.Group.Subgroup.ZPowers.Lemmas

/-! What one fill of a shadow cycle can be. -/

namespace AdaptiveQuant.Shadow

open Guard Ledger

theorem roundDown_mem (value quantum : Decimal) :
    roundDown value quantum ∈ AddSubgroup.zmultiples quantum := by
  rw [AddSubgroup.mem_zmultiples_iff]
  exact ⟨_, zsmul_eq_mul _ _⟩

theorem roundDown_of_nonneg {value quantum : Decimal} (hq : 0 < quantum) (h : 0 ≤ value) :
    roundDown value quantum = ⌊value / quantum⌋ * quantum := by
  rw [roundDown, if_pos (div_nonneg h hq.le)]

theorem roundDown_le {value quantum : Decimal} (hq : 0 < quantum) (h : 0 ≤ value) :
    roundDown value quantum ≤ value := by
  rw [roundDown_of_nonneg hq h, ← le_div_iff₀ hq]
  exact Int.floor_le _

theorem roundDown_nonneg {value quantum : Decimal} (hq : 0 < quantum) (h : 0 ≤ value) :
    0 ≤ roundDown value quantum := by
  rw [roundDown_of_nonneg hq h]
  exact mul_nonneg (Int.cast_nonneg (Int.floor_nonneg.mpr (div_nonneg h hq.le))) hq.le

theorem roundDown_nonpos {value quantum : Decimal} (hq : 0 < quantum) (h : value < 0) :
    roundDown value quantum ≤ 0 := by
  have hunits : value / quantum < 0 := div_neg_of_neg_of_pos h hq
  rw [roundDown, if_neg (not_le.mpr hunits)]
  exact mul_nonpos_of_nonpos_of_nonneg (Int.cast_nonpos.mpr (Int.ceil_nonpos.mpr hunits.le)) hq.le

theorem roundDown_le_of_pos {value quantum : Decimal} (hq : 0 < quantum)
    (h : 0 < roundDown value quantum) : roundDown value quantum ≤ value := by
  rcases le_or_gt 0 value with hvalue | hvalue
  · exact roundDown_le hq hvalue
  · exact absurd h (not_lt.mpr (roundDown_nonpos hq hvalue))

theorem le_roundDown {value quantum : Decimal} (hq : 0 < quantum) {n : ℕ}
    (h : n * quantum ≤ value) : n * quantum ≤ roundDown value quantum := by
  have hvalue : 0 ≤ value := (mul_nonneg (Nat.cast_nonneg n) hq.le).trans h
  rw [roundDown_of_nonneg hq hvalue]
  refine mul_le_mul_of_nonneg_right ?_ hq.le
  exact_mod_cast Int.le_floor.mpr (by exact_mod_cast (le_div_iff₀ hq).mpr h)

theorem roundDown_natCast_mul {quantum : Decimal} (hq : 0 < quantum) (n : ℕ) :
    roundDown (n * quantum) quantum = n * quantum := by
  have hvalue : 0 ≤ n * quantum := mul_nonneg (Nat.cast_nonneg n) hq.le
  exact le_antisymm (roundDown_le hq hvalue) (le_roundDown hq le_rfl)

theorem quantizeHalfEven_mem (value : Decimal) (q : Quantum) :
    quantizeHalfEven value q ∈ AddSubgroup.zmultiples ((10 : Decimal) ^ q.exponent) := by
  rw [AddSubgroup.mem_zmultiples_iff]
  exact ⟨_, zsmul_eq_mul _ _⟩

theorem quantizeHalfEven_of_mem {value : Decimal} {q : Quantum}
    (h : value ∈ AddSubgroup.zmultiples ((10 : Decimal) ^ q.exponent)) :
    quantizeHalfEven value q = value := by
  obtain ⟨n, rfl⟩ := AddSubgroup.mem_zmultiples_iff.mp h
  have hsteps : n • (10 : Decimal) ^ q.exponent / 10 ^ q.exponent = n := by
    rw [zsmul_eq_mul, mul_div_cancel_right₀ _ q.step_pos.ne']
  simp only [quantizeHalfEven, hsteps, Int.floor_intCast, sub_self]
  norm_num

theorem delay_nonneg (p : PaperParameters) :
    0 ≤ p.delayPenaltyBps / p.basisPointsPerUnitReturn :=
  div_nonneg p.delay_nonneg p.basisPoints_pos.le

theorem delay_lt_one (p : PaperParameters) :
    p.delayPenaltyBps / p.basisPointsPerUnitReturn < 1 :=
  (div_lt_one p.basisPoints_pos).mpr p.delay_lt

theorem fillPrice_nonneg (side : OrderSide) (quote : Quote) (p : PaperParameters) :
    0 ≤ fillPrice side quote.val p := by
  obtain ⟨⟨hbid, hask, -⟩, -⟩ := QuoteFields.check_eq_ok.mp quote.valid
  have hdelay := delay_nonneg p
  have hlt := delay_lt_one p
  cases side with
  | buy => exact quantizeHalfEven_nonneg (mul_nonneg hask.le (by linarith))
  | sell => exact quantizeHalfEven_nonneg (mul_nonneg hbid.le (by linarith))

theorem decimalDiv_eq_ok {a b r : Decimal} : decimalDiv a b = .ok r ↔ b ≠ 0 ∧ a / b = r := by
  simp only [decimalDiv, ok_iff]
  constructor
  · rintro ⟨-, hb, hr⟩
    exact ⟨hb, hr⟩
  · rintro ⟨hb, hr⟩
    exact ⟨fun h => hb h.1, hb, hr⟩

theorem liquidityCap_le (requested : Decimal) (side : OrderSide) (quote : QuoteFields)
    (p : PaperParameters) : liquidityCap requested side quote p ≤ requested :=
  (min_le_left _ _).trans (min_le_left _ _)

section Fillable

variable {requested cash quantity : Decimal} {side : OrderSide} {quote : Quote}
  {p : PaperParameters}

theorem fillableQuantity_mem (h : fillableQuantity requested side quote.val cash p = .ok quantity) :
    quantity ∈ AddSubgroup.zmultiples p.quantityQuantum := by
  cases side with
  | buy =>
    simp only [fillableQuantity, ok_iff] at h
    obtain ⟨affordable, -, rfl⟩ := h
    exact roundDown_mem _ _
  | sell =>
    simp only [fillableQuantity, pure_eq_ok] at h
    rw [← h]
    exact roundDown_mem _ _

theorem fillableQuantity_le
    (h : fillableQuantity requested side quote.val cash p = .ok quantity) (pos : 0 < quantity) :
    quantity ≤ requested := by
  cases side with
  | buy =>
    simp only [fillableQuantity, ok_iff] at h
    obtain ⟨affordable, -, rfl⟩ := h
    have hle := roundDown_le_of_pos p.quantityQuantum_pos pos
    exact hle.trans ((min_le_left _ _).trans (liquidityCap_le _ _ _ _))
  | sell =>
    simp only [fillableQuantity, pure_eq_ok] at h
    subst h
    exact (roundDown_le_of_pos p.quantityQuantum_pos pos).trans (liquidityCap_le _ _ _ _)

theorem fillableQuantity_affordable
    (h : fillableQuantity requested .buy quote.val cash p = .ok quantity) (pos : 0 < quantity) :
    quantity * (fillPrice .buy quote.val p * (1 + p.commissionRate)) ≤ cash := by
  simp only [fillableQuantity, ok_iff, decimalDiv_eq_ok] at h
  obtain ⟨affordable, ⟨hne, rfl⟩, rfl⟩ := h
  have hrate : (0 : Decimal) < 1 + p.commissionRate := by linarith [p.commissionRate_nonneg]
  have hunit : 0 < fillPrice .buy quote.val p * (1 + p.commissionRate) :=
    lt_of_le_of_ne (mul_nonneg (fillPrice_nonneg _ _ _) hrate.le) (Ne.symm hne)
  rw [← le_div_iff₀ hunit]
  exact (roundDown_le_of_pos p.quantityQuantum_pos pos).trans (min_le_right _ _)

end Fillable

namespace ArmCycle

variable {hash : Hashing} {c : ArmCycle hash}

structure Executable (c : ArmCycle hash) (quote : QuoteFields) : Prop where
  after : c.target.val.decisionTime < quote.availableAt
  available : quote.availableAt ≤ c.bundle.val.asOf
  before : quote.eventTime ≤ c.bundle.val.asOf
  fresh : c.bundle.val.asOf - quote.eventTime ≤ c.parameters.maximumQuoteAgeSeconds * 1000000

theorem checkQuote_eq_ok {symbol : String} : c.checkQuote symbol = .ok () ↔
    ∃ quote, c.quotes.get? symbol = some quote ∧ c.Executable quote.val := by
  unfold checkQuote
  cases c.quotes.get? symbol with
  | none =>
    constructor
    · intro h
      cases h
    · rintro ⟨quote, hquote, -⟩
      cases hquote
  | some quote =>
    simp only [ok_iff, Option.some.injEq, exists_eq_left', not_or, not_lt, not_le, gt_iff_lt,
      sub_nonneg]
    constructor
    · rintro ⟨h1, h2, h3, h4⟩
      exact ⟨h1, h2, h3, h4⟩
    · intro h
      exact ⟨h.after, h.available, h.before, h.fresh⟩

theorem checkQuotes_eq_ok : c.checkQuotes = .ok () ↔
    ∀ symbol ∈ c.riskySymbols, ∃ quote, c.quotes.get? symbol = some quote ∧
      c.Executable quote.val := by
  simp only [checkQuotes, ok_iff, not_not, ne_eq, forM_eq_ok, checkQuote_eq_ok,
    List.filter_eq_nil_iff, decide_eq_true_eq, and_iff_right_iff_imp]
  intro hall symbol hmem
  obtain ⟨quote, hquote, -⟩ := hall symbol hmem
  exact Dict.mem_keys.mpr ⟨quote, hquote⟩

theorem buildOrderIntent_eq_ok {planned order} (h : c.buildOrderIntent planned = .ok order) :
    order.val.side = planned.side ∧
      order.val.symbol = planned.symbol ∧ order.val.quantity = planned.quantity := by
  rw [buildOrderIntent, validate_eq_ok] at h
  rw [h]
  exact ⟨rfl, rfl, rfl⟩

theorem exists_buildOrderIntent {planned} (pos : 0 < planned.quantity) :
    ∃ order, c.buildOrderIntent planned = .ok order := by
  refine ⟨_, validate_of_ok ?_⟩
  exact raiseIf_neg _ (by simpa [gtZeroCheck] using pos)

theorem executeOrder_eq_fillOrder {book : Book} {planned order} {quote : Quote} {quantity : Decimal}
    (hquote : c.quotes.get? planned.symbol = some quote)
    (horder : c.buildOrderIntent planned = .ok order)
    (hquantity : fillableQuantity planned.quantity planned.side quote.val book.cash c.parameters =
      .ok quantity)
    (pos : 0 < quantity) : c.executeOrder book planned =
        c.fillOrder { book with orders := book.orders ++ [order] } order quote quantity := by
  simp only [executeOrder, hquote, horder, ok_bind, hquantity, if_neg (not_le.mpr pos)]

end ArmCycle

end AdaptiveQuant.Shadow

namespace AdaptiveQuant.Shadow.ArmCycle

open Guard Ledger

variable {hash : Hashing}

def predates : Failure :=
  ⟨.valueError, "shadow cycle cannot predate its persisted arm state", []⟩

def bookGuards : List Failure := [negativeCash, shortSell, shortFill, predates]

section Other

variable {e : Failure} (guards : e ∈ bookGuards)

include guards

theorem ne_guard {e' : Failure} (h : e' ∉ bookGuards) : e' ≠ e := fun heq => h (heq ▸ guards)

variable {exception : ExceptionClass}

theorem exception_ne {message : String} {fields} (h : exception ≠ .valueError) :
    (⟨exception, message, fields⟩ : Failure) ≠ e := by
  refine ne_guard guards fun hmem => h ?_
  simp only [bookGuards, List.mem_cons, List.not_mem_nil, or_false] at hmem
  rcases hmem with hmem | hmem | hmem | hmem <;> exact congrArg Failure.exception hmem

theorem validation_ne (model : String) (fields : List FieldError) :
    Failure.validation model fields ≠ e := exception_ne guards (by decide)

theorem message_ne {front rest : String} {x : Char}
    (hx : front.toList.head? = some x) (hne : x ∉ ['p', 's']) :
    (⟨exception, front ++ rest, []⟩ : Failure) ≠ e := by
  have hhead : (front ++ rest).toList.head? = some x := by
    rw [String.toList_append, List.head?_append, hx, Option.some_or]
  have hguard : ∀ g ∈ bookGuards, g.message.toList.head? ∈ [some 'p', some 's'] := by decide +kernel
  intro heq
  have hfirst := hguard e guards
  rw [← heq, hhead] at hfirst
  exact hne (by simpa using hfirst)

end Other

section Avoid

variable {e : Failure} (guards : e ∈ bookGuards) (c : ArmCycle hash)

include guards

theorem checkQuotes_avoids : Avoids e c.checkQuotes := by
  unfold checkQuotes checkQuote
  refine Avoids.bind ?_ fun _ => avoids_forM fun symbol _ => ?_
  · exact avoids_raiseIf (message_ne guards (x := 'm') (by decide +kernel) (by decide))
  · cases c.quotes.get? symbol with
    | none => exact avoids_error (exception_ne guards (by decide))
    | some quote =>
      refine .check (ne_guard guards (by decide)) ?_
      refine .check (ne_guard guards (by decide)) ?_
      exact avoids_raiseIf (ne_guard guards (by decide))

theorem fillableQuantity_avoids (requested : Decimal) (side : OrderSide) (quote : QuoteFields)
    (cash : Decimal) (p : PaperParameters) :
    Avoids e (fillableQuantity requested side quote cash p) := by
  cases side with
  | buy =>
    refine Avoids.bind ?_ fun _ => avoids_ok _ _
    refine .check (exception_ne guards (by decide)) ?_
    exact .check (exception_ne guards (by decide)) (avoids_ok _ _)
  | sell => exact avoids_ok _ _

theorem buildOrderIntent_avoids (planned : PlannedOrder) :
    Avoids e (c.buildOrderIntent planned) :=
  avoids_validate (avoids_raiseIf (validation_ne guards _ _))

omit guards in
theorem avoids_raiseIf_self {bad : Prop} [Decidable bad] {e' : Failure} (h : e' = e → ¬bad) :
    Avoids e (raiseIf bad e') := by
  by_cases heq : e' = e
  · rw [raiseIf_neg _ (h heq)]
    exact avoids_ok _ _
  · exact avoids_raiseIf heq

structure Passes (e : Failure) (c : ArmCycle hash) (book : Book) (order : OrderIntentFields)
    (quote : QuoteFields) (quantity : Decimal) : Prop where
  buy : e = negativeCash → order.side = .buy → quantity * fillPrice .buy quote c.parameters +
    commission (quantity * fillPrice .buy quote c.parameters) c.parameters ≤ book.cash
  sell : e = shortSell ∨ e = shortFill → order.side = .sell →
    quantity ≤ book.positions.getD order.symbol 0

theorem fillOrder_avoids {book : Book} {order} {quote : Quote} {quantity : Decimal}
    (passes : Passes e c book order.val quote.val quantity) :
    Avoids e (c.fillOrder book order quote quantity) := by
  unfold fillOrder
  refine Avoids.bind (avoids_raiseIf_self ?_) fun _ => ?_
  · rintro heq ⟨hside, hcost⟩
    rw [hside] at hcost
    exact absurd (passes.buy heq.symm hside) (not_le.mpr hcost)
  refine Avoids.bind (avoids_raiseIf_self ?_) fun _ => ?_
  · rintro heq ⟨hside, hshort⟩
    exact absurd (passes.sell (.inl heq.symm) hside) (not_le.mpr hshort)
  refine Avoids.bind_ok (avoids_validate ?_) fun fill hfill => ?_
  · exact avoids_raiseIf (validation_ne guards _ _)
  dsimp only
  rw [fillEntry_check, ok_bind]
  refine Avoids.bind ?_ fun _ => avoids_ok _ _
  rw [validate_eq_ok] at hfill
  unfold settle
  cases hside : fill.val.side with
  | buy => exact avoids_ok _ _
  | sell =>
    refine Avoids.bind (avoids_raiseIf_self fun heq hneg => ?_) fun _ => avoids_ok _ _
    rw [hfill] at hside hneg
    exact absurd (passes.sell (.inr heq.symm) hside) (not_le.mpr (by exact sub_neg.mp hneg))

theorem executeOrder_avoids {book : Book} {planned : PlannedOrder}
    (passes : ∀ order quote quantity, c.quotes.get? planned.symbol = some quote →
      c.buildOrderIntent planned = .ok order →
      fillableQuantity planned.quantity planned.side quote.val book.cash c.parameters =
        .ok quantity → 0 < quantity → Passes e c book order.val quote.val quantity) :
    Avoids e (c.executeOrder book planned) := by
  unfold executeOrder
  cases hquote : c.quotes.get? planned.symbol with
  | none => exact avoids_error (exception_ne guards (by decide))
  | some quote =>
    refine (buildOrderIntent_avoids guards c planned).bind_ok fun order horder => ?_
    refine (fillableQuantity_avoids guards _ _ _ _ _).bind_ok fun quantity hquantity => ?_
    split
    · exact avoids_ok _ _
    · rename_i hpos
      have hpass := passes order quote quantity hquote horder hquantity (not_le.mp hpos)
      exact fillOrder_avoids guards c ⟨hpass.buy, hpass.sell⟩

theorem validateEntries_avoids (entries : List LedgerEntry) :
    Avoids e (validateEntries entries) := by
  refine Avoids.bind (avoids_foldlM fun seen entry _ => ?_) fun _ => avoids_ok _ _
  refine Avoids.bind (avoids_raiseIf ?_) fun _ => Avoids.bind (avoids_raiseIf ?_) fun _ => ?_
  · exact message_ne guards (x := 'D') (by decide +kernel) (by decide)
  · rw [String.append_assoc, String.append_assoc]
    exact message_ne guards (x := 'U') (by decide +kernel) (by decide)
  · refine avoids_foldlM fun seen posting _ => Avoids.bind (avoids_raiseIf ?_) fun _ =>
      avoids_ok _ _
    exact message_ne guards (x := 'D') (by decide +kernel) (by decide)

theorem calculateNav_avoids (armId : String) (asOf : Instant) (cash : Decimal)
    (positions prices : Dict String Decimal) :
    Avoids e (calculateNav hash armId asOf cash positions prices) := by
  refine Avoids.bind (avoids_raiseIf ?_) fun _ => ?_
  · exact message_ne guards (x := 'M') (by decide +kernel) (by decide)
  · exact .check (validation_ne guards _ _) (avoids_ok _ _)

theorem sealState_avoids (state : ArmStateFields) :
    Avoids e (sealState state : Except Failure (ArmState hash)) := by
  refine avoids_validate (.check (validation_ne guards _ _) ?_)
  refine .check (validation_ne guards _ _) ?_
  exact avoids_raiseIf (validation_ne guards _ _)

theorem close_avoids (book : Book) : Avoids e (c.close book) := by
  refine (validateEntries_avoids guards _).bind fun _ => ?_
  refine .check (ne_guard guards (by decide)) ?_
  refine (calculateNav_avoids guards _ _ _ _ _).bind fun nav => ?_
  refine (sealState_avoids guards _).bind fun _ => ?_
  refine .check (ne_guard guards (by decide)) ?_
  refine Avoids.bind (avoids_validate ?_) fun _ => avoids_ok _ _
  refine .check (validation_ne guards _ _) ?_
  refine .check (validation_ne guards _ _) ?_
  exact avoids_raiseIf (validation_ne guards _ _)

theorem execute_avoids (orders : c.checkQuotes = .ok () → 0 < c.decisionNav →
    Avoids e c.executeOrders) : Avoids e c.execute := by
  unfold ArmCycle.execute
  refine (checkQuotes_avoids guards c).bind_ok fun _ hquotes => ?_
  refine (avoids_raiseIf (ne_guard guards (by decide))).bind_ok fun _ hnav => ?_
  rw [raiseIf_eq_ok, not_le] at hnav
  exact (orders hquotes hnav).bind fun book => close_avoids guards c book

omit guards in
theorem execute_not_predates : Avoids predates c.execute := by
  have guards : predates ∈ bookGuards := by decide
  refine execute_avoids guards c fun _ _ => avoids_foldlM fun book planned _ => ?_
  refine executeOrder_avoids guards c fun order quote quantity _ _ _ _ => ?_
  exact ⟨fun heq => absurd heq (by decide), fun heq => absurd heq (by decide)⟩

end Avoid

end AdaptiveQuant.Shadow.ArmCycle

namespace AdaptiveQuant.Shadow

open Guard ArmCycle

theorem MatchedCycle.execute_avoids {hash : Hashing} {m : MatchedCycle hash} {e : Failure}
    (guards : e ∈ bookGuards) (valid : m.validateCommonInputs = .ok ())
    (arms : ∀ role, Avoids e (m.arm role).execute) : Avoids e m.execute := by
  rw [MatchedCycle.execute, valid, ok_bind]
  refine Avoids.bind (arms .champion) fun _ => Avoids.bind (arms .challenger) fun _ => ?_
  refine avoids_validate (.check (validation_ne guards _ _) ?_)
  refine .check (validation_ne guards _ _) ?_
  refine .check (validation_ne guards _ _) ?_
  exact avoids_raiseIf (validation_ne guards _ _)

end AdaptiveQuant.Shadow
