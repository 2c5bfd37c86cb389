import AdaptiveQuant.Forward.SellOrders
import Mathlib.Algebra.BigOperators.Ring.List

/-! A plan that only sells. -/

namespace AdaptiveQuant

open Guard Sequence List

/-- The configuration leaves something of every order that it allows. -/
structure ForwardRiskConfig.Sound (config : ForwardRiskConfig) : Prop where
  delay_nonneg : 0 ≤ delay config
  delay_lt : delay config < 1
  rate_nonneg : 0 ≤ config.commissionRate
  rate_lt : config.commissionRate < 1
  fee_covered : 1 / 200 < config.minOrderNotionalUsd * (1 - delay config) *
    (1 - config.commissionRate)
  gross : 1 ≤ config.maxGrossExposure

theorem shippedRiskConfig_sound : shippedRiskConfig.Sound := by
  constructor <;> simp [shippedRiskConfig, delay] <;> norm_num

section Orders

variable {config : ForwardRiskConfig} {quotes : QuoteBundle}

theorem ForwardRiskConfig.Sound.minimum_pos (sound : config.Sound) :
    0 < config.minOrderNotionalUsd := by
  have hfee := sound.fee_covered
  have hrate := sub_pos.mpr sound.rate_lt
  have hdelay := sub_pos.mpr sound.delay_lt
  have hproduct : 0 < config.minOrderNotionalUsd * (1 - delay config) *
    (1 - config.commissionRate) :=
    lt_trans (by norm_num) hfee
  exact pos_of_mul_pos_left (pos_of_mul_pos_left hproduct hrate.le) hdelay.le

theorem commission_nonneg (sound : config.Sound) {notional : Decimal} (h : 0 ≤ notional) :
    0 ≤ commission config notional := by
  unfold commission
  split
  · exact le_rfl
  · exact quantizeHalfEven_nonneg (mul_nonneg h sound.rate_nonneg)

theorem commission_lt (sound : config.Sound) {notional : Decimal}
    (h : config.minOrderNotionalUsd * (1 - delay config) ≤ notional) :
    commission config notional < notional := by
  have hrate := sub_pos.mpr sound.rate_lt
  have hpos : 0 < config.minOrderNotionalUsd * (1 - delay config) :=
    mul_pos sound.minimum_pos (sub_pos.mpr sound.delay_lt)
  unfold commission
  split
  · exact hpos.trans_le h
  · have hround := quantizeHalfEven_le (notional * config.commissionRate) cent
    have hcent : (10 : Decimal) ^ cent.exponent / 2 = 1 / 200 := by norm_num [cent]
    have hfee := sound.fee_covered
    have hle := mul_le_mul_of_nonneg_right h hrate.le
    rw [hcent] at hround
    linarith

end Orders

section Projection

variable {config : ForwardRiskConfig} {quotes : QuoteBundle}

def Projection.value (quotes : QuoteBundle) (p : Projection) : Decimal :=
  p.cash + midpointValue quotes p.positions

def Projection.quantity (p : Projection) (symbol : String) : Decimal := p.positions.getD symbol 0

theorem midpointValue_set (positions : Dict String Decimal) (symbol : String) (quantity : Decimal) :
    midpointValue quotes (positions.set symbol quantity) = midpointValue quotes positions +
      (quantity - positions.getD symbol 0) * (quoteOf quotes symbol).midpoint := by
  unfold midpointValue
  rw [Dict.sum_entries_set, Dict.getD]
  cases positions.get? symbol with
  | none => simp
  | some old =>
    simp only [Option.map_some, Option.getD_some]
    ring

theorem midpointValue_filter (positions : Dict String Decimal) :
    midpointValue quotes (positions.filter fun _ quantity => quantity ≠ 0) =
      midpointValue quotes positions := by
  show ((positions.entries.filter fun entry => decide (entry.2 ≠ 0)).map _).sum = _
  unfold midpointValue
  generalize positions.entries = entries
  induction entries with
  | nil => rfl
  | cons entry rest ih =>
    rw [filter_cons]
    split
    · rw [map_cons, sum_cons, ih, map_cons, sum_cons]
    · rename_i hzero
      have : entry.2 = 0 := by simpa using hzero
      rw [ih, map_cons, sum_cons, this, zero_mul, zero_add]

structure SellsProjected (quotes : QuoteBundle) (before after : Projection) : Prop where
  value : after.value quotes = before.value quotes - (after.totalCost - before.totalCost)
  cost : before.totalCost ≤ after.totalCost
  cash : before.cash ≤ after.cash
  nonneg : ∀ symbol, 0 ≤ after.quantity symbol
  shrinks : ∀ symbol, after.quantity symbol ≤ before.quantity symbol

theorem SellsProjected.refl {p : Projection} (nonneg : ∀ symbol, 0 ≤ p.quantity symbol) :
    SellsProjected quotes p p :=
  ⟨by ring, le_rfl, le_rfl, nonneg, fun _ => le_rfl⟩

theorem SellsProjected.trans {a b c : Projection} (first : SellsProjected quotes a b)
    (second : SellsProjected quotes b c) : SellsProjected quotes a c where
  value := by rw [second.value, first.value]; ring
  cost := first.cost.trans second.cost
  cash := first.cash.trans second.cash
  nonneg := second.nonneg
  shrinks symbol := (second.shrinks symbol).trans (first.shrinks symbol)

theorem projectOrder_sell (sound : config.Sound) {before : Projection} {order : PlannedOrder}
    (nonneg : ∀ symbol, 0 ≤ before.quantity symbol) (side : order.side = .sell)
    (pos : 0 < order.quantity) (bounded : order.quantity ≤ before.quantity order.symbol)
    (tradable : (quoteOf quotes order.symbol).Tradable)
    (notional : config.minOrderNotionalUsd ≤
      order.quantity * (quoteOf quotes order.symbol).bidPrice) :
    ∃ after, projectOrder config quotes before order = .ok after ∧
      SellsProjected quotes before after ∧ before.cash < after.cash ∧
      ∀ symbol, symbol ≠ order.symbol → after.quantity symbol = before.quantity symbol := by
  have hprice : orderPrice config quotes order =
      (quoteOf quotes order.symbol).bidPrice * (1 - delay config) := by
    rw [orderPrice, side]
  have hdelay := sub_pos.mpr sound.delay_lt
  have hproceeds : config.minOrderNotionalUsd * (1 - delay config) ≤
      order.quantity * orderPrice config quotes order := by
    rw [hprice, ← mul_assoc]
    exact mul_le_mul_of_nonneg_right notional hdelay.le
  have hfee := commission_lt sound hproceeds
  have hpos : 0 < order.quantity * orderPrice config quotes order :=
    (mul_pos sound.minimum_pos hdelay).trans_le hproceeds
  have hmid : orderPrice config quotes order ≤ (quoteOf quotes order.symbol).midpoint := by
    rw [hprice]
    have := tradable.bid_le_midpoint
    nlinarith [tradable.bid_pos, sound.delay_nonneg]
  have hcost : orderCost config quotes order = commission config (order.quantity *
      orderPrice config quotes order) + order.quantity *
        ((quoteOf quotes order.symbol).midpoint - orderPrice config quotes order) := by
    simp only [orderCost]
    rw [abs_sub_comm, abs_of_nonneg (sub_nonneg.mpr hmid)]
  have hset : ∀ symbol, (before.positions.set order.symbol
      (before.quantity order.symbol - order.quantity)).getD symbol 0 =
        if symbol = order.symbol then before.quantity order.symbol - order.quantity
        else before.quantity symbol := by
    intro symbol
    rw [Dict.getD, Dict.get?_set]
    split <;> rfl
  refine ⟨⟨before.cash + (order.quantity * orderPrice config quotes order -
      commission config (order.quantity * orderPrice config quotes order)),
    before.positions.set order.symbol (before.quantity order.symbol - order.quantity),
    before.totalCost + orderCost config quotes order⟩, ?_, ⟨?_, ?_, ?_, ?_, ?_⟩, ?_, ?_⟩
  · have hshort : ¬order.quantity > before.positions.getD order.symbol 0 := not_lt.mpr bounded
    simp only [projectOrder, side]
    rw [raiseIf_neg _ hshort]
    rfl
  · simp only [Projection.value, midpointValue_set, hcost]
    rw [Projection.quantity]
    ring
  · rw [hcost]
    have := mul_nonneg pos.le (sub_nonneg.mpr hmid)
    linarith [commission_nonneg sound hpos.le]
  · dsimp only
    linarith
  · intro symbol
    rw [Projection.quantity, hset]
    split
    · linarith
    · exact nonneg symbol
  · intro symbol
    rw [Projection.quantity, hset]
    split
    · rename_i heq
      rw [heq]
      linarith
    · exact le_rfl
  · dsimp only
    linarith
  · intro symbol hne
    rw [Projection.quantity, hset, if_neg hne]

structure ServedSells (config : ForwardRiskConfig) (quotes : QuoteBundle) (before : Projection)
    (orders : List PlannedOrder) : Prop where
  nodup : (orders.map (·.symbol)).Nodup
  side : ∀ order ∈ orders, order.side = .sell
  pos : ∀ order ∈ orders, 0 < order.quantity
  bounded : ∀ order ∈ orders, order.quantity ≤ before.quantity order.symbol
  tradable : ∀ order ∈ orders, (quoteOf quotes order.symbol).Tradable
  notional : ∀ order ∈ orders, config.minOrderNotionalUsd ≤
    order.quantity * (quoteOf quotes order.symbol).bidPrice

theorem projectOrders_sells (sound : config.Sound) {orders} {before : Projection}
    (nonneg : ∀ symbol, 0 ≤ before.quantity symbol)
    (served : ServedSells config quotes before orders) :
    ∃ after, orders.foldlM (projectOrder config quotes) before = .ok after ∧
      SellsProjected quotes before after ∧ (orders ≠ [] → before.cash < after.cash) ∧
      (orders = [] → after = before) := by
  induction orders generalizing before with
  | nil => exact ⟨before, rfl, .refl nonneg, fun h => absurd rfl h, fun _ => rfl⟩
  | cons order rest ih =>
    obtain ⟨nodup, side, pos, bounded, tradable, notional⟩ := served
    rw [map_cons, nodup_cons] at nodup
    rw [forall_mem_cons] at side pos bounded tradable notional
    obtain ⟨next, hnext, hfirst, hcash, hsame⟩ := projectOrder_sell sound nonneg side.1 pos.1
      bounded.1 tradable.1 notional.1
    have hserved : ServedSells config quotes next rest := by
      refine ⟨nodup.2, side.2, pos.2, fun order' horder' => ?_, tradable.2, notional.2⟩
      have hne : order'.symbol ≠ order.symbol := fun heq =>
        nodup.1 (heq ▸ mem_map_of_mem horder')
      rw [hsame _ hne]
      exact bounded.2 order' horder'
    obtain ⟨after, hafter, hrest, -, -⟩ := ih hfirst.nonneg hserved
    refine ⟨after, ?_, hfirst.trans hrest, fun _ => hcash.trans_le hrest.cash, fun h => by cases h⟩
    rw [foldlM_cons, hnext]
    exact hafter

end Projection

section Weights

variable {quotes : QuoteBundle} {positions : Dict String Decimal} {nav : Decimal}

def positionValue (quotes : QuoteBundle) (positions : Dict String Decimal) (symbol : String) :
    Decimal := positions.getD symbol 0 * (quoteOf quotes symbol).midpoint

theorem midpointWeights_getD (symbol : String) :
    (midpointWeights quotes positions nav).getD symbol 0 =
      positionValue quotes positions symbol / nav := by
  rw [midpointWeights, Dict.getD, Dict.get?_mapVal, Dict.get?_filter, positionValue, Dict.getD]
  cases positions.get? symbol with
  | none => simp
  | some value =>
    by_cases hzero : value = 0
    · simp [Option.filter_some, hzero]
    · simp [Option.filter_some, hzero]

theorem midpointWeights_sum :
    (midpointWeights quotes positions nav).values.sum = midpointValue quotes positions / nav := by
  rw [← midpointValue_filter, midpointValue, midpointWeights, Dict.values, Dict.mapVal,
    map_map, div_eq_mul_inv, ← sum_map_mul_right]
  rfl

theorem groupWeight_midpointWeights (symbols : SymbolSet) :
    groupWeight (midpointWeights quotes positions nav) symbols =
      (symbols.1.map (positionValue quotes positions)).sum / nav := by
  rw [groupWeight, div_eq_mul_inv, ← sum_map_mul_right]
  congr 1
  exact map_congr_left fun symbol _ => midpointWeights_getD symbol

theorem midpointValue_eq_keys :
    midpointValue quotes positions = (positions.keys.map (positionValue quotes positions)).sum := by
  rw [midpointValue, Dict.keys, map_map]
  congr 1
  refine map_congr_left fun entry hentry => ?_
  rw [Function.comp_apply, positionValue, Dict.getD_of_get? (Dict.get?_eq_some.mpr hentry)]

theorem groupValue_le (nonneg : ∀ symbol, 0 ≤ positionValue quotes positions symbol)
    {symbols : List String} (nodup : symbols.Nodup) :
    (symbols.map (positionValue quotes positions)).sum ≤ midpointValue quotes positions := by
  have hheld : (symbols.map (positionValue quotes positions)).sum =
      ((symbols.filter (· ∈ positions.keys)).map (positionValue quotes positions)).sum := by
    clear nodup
    induction symbols with
    | nil => rfl
    | cons symbol rest ih =>
      rw [map_cons, sum_cons, ih, filter_cons]
      split
      · rw [map_cons, sum_cons]
      · rename_i hmem
        have hnone : positions.get? symbol = none := Dict.get?_eq_none.mpr (by simpa using hmem)
        rw [positionValue, Dict.getD, hnone, Option.getD_none, zero_mul, zero_add]
  rw [hheld, midpointValue_eq_keys]
  refine sum_map_le_of_subset (nodup.filter _) (fun symbol h => ?_) fun symbol _ => nonneg symbol
  simpa using (mem_filter.mp h).2

theorem midpointValue_nonneg (nonneg : ∀ symbol, 0 ≤ positionValue quotes positions symbol) :
    0 ≤ midpointValue quotes positions := by
  simpa using groupValue_le nonneg nodup_nil

theorem weight_growth {before after nav left cost : Decimal} (nav_pos : 0 < nav)
    (left_pos : 0 < left) (cost_nonneg : 0 ≤ cost) (left_ge : nav - cost ≤ left)
    (nonneg : 0 ≤ after) (shrinks : after ≤ before) (within : after ≤ left) :
    after / left ≤ before / nav + cost / nav := by
  rw [← add_div, div_le_div_iff₀ left_pos nav_pos]
  have hspent : after * (nav - left) ≤ left * cost := by
    calc after * (nav - left) ≤ after * cost := mul_le_mul_of_nonneg_left (by linarith) nonneg
      _ ≤ left * cost := mul_le_mul_of_nonneg_right within cost_nonneg
  have hshrunk : after * left ≤ before * left := mul_le_mul_of_nonneg_right shrinks left_pos.le
  calc after * nav = after * left + after * (nav - left) := by ring
    _ ≤ before * left + left * cost := add_le_add hshrunk hspent
    _ = (before + cost) * left := by ring

end Weights

theorem grandfatherAllows_of_le {pre post cap extra : Decimal} (h : post ≤ pre + extra) :
    grandfatherAllows pre post cap extra := by
  have hallowed : pre ≤ if pre ≤ cap then cap else pre := by
    split
    · assumption
    · exact le_rfl
  have hepsilon : 0 ≤ weightEpsilon := by norm_num [weightEpsilon]
  unfold grandfatherAllows
  linarith

theorem rejectUnless_eq_nil {ok : Prop} [Decidable ok] {reason : String} (h : ok) :
    rejectUnless ok reason = [] := if_pos h

theorem weightRejections_eq_nil {config} {armId : String} {current projected} {extra : Decimal}
    (growth : ∀ symbols : SymbolSet, groupWeight projected symbols ≤
      groupWeight current symbols + extra)
    (gross : projected.values.sum ≤ config.maxGrossExposure + weightEpsilon) :
    weightRejections config armId current projected extra = [] := by
  have single : ∀ symbol, projected.getD symbol 0 ≤ current.getD symbol 0 + extra := by
    intro symbol
    simpa [groupWeight] using growth ⟨[symbol], nodup_singleton symbol⟩
  simp only [weightRejections, append_eq_nil_iff, flatMap_eq_nil_iff]
  refine ⟨⟨⟨⟨fun symbol _ => ?_, ?_⟩, fun symbol _ => ?_⟩, ?_⟩, rejectUnless_eq_nil gross⟩
  · split
    · rfl
    · exact rejectUnless_eq_nil (grandfatherAllows_of_le (single symbol))
  · exact rejectUnless_eq_nil (grandfatherAllows_of_le (growth _))
  · exact rejectUnless_eq_nil (grandfatherAllows_of_le (single symbol))
  · exact rejectUnless_eq_nil (grandfatherAllows_of_le (growth _))

namespace ForwardPlanRequest

/-- What `decide` promises of the arguments of a plan. -/
structure WellFormed (request : ForwardPlanRequest) : Prop where
  config : request.config.Sound
  cash : 0 ≤ request.state.cashUsd
  positions : ∀ symbol, 0 ≤ request.state.quantity symbol
  securities : cashSymbol ∉ request.state.held.keys
  tradable : ∀ symbol ∈ request.state.held.keys, (quoteOf request.quotes symbol).Tradable
  past : ∀ quote ∈ request.quotes.values, quote.eventTime ≤ request.intentCreatedAt
  vol : 0 ≤ request.target.coreForecast.annualizedVol *
    request.target.targetWeights.getD coreSymbol 0
  nav : 0 < request.nav

def start (request : ForwardPlanRequest) : Projection :=
  ⟨request.state.cashUsd, request.state.positions, 0⟩

variable {request : ForwardPlanRequest} {after : Projection}

theorem start_value : request.start.value request.quotes = request.nav := by
  rw [Projection.value, nav, start, ← midpointValue_filter, currentValues, Dict.values, Dict.mapVal,
    map_map]
  rfl

theorem currentWeights_eq : (request.currentValues.mapVal fun _ value => value / request.nav) =
    midpointWeights request.quotes request.state.positions request.nav :=
  Dict.mapVal_mapVal _ _ _

structure SellsOut (request : ForwardPlanRequest) (after : Projection) : Prop
    extends SellsProjected request.quotes request.start after where
  cash_nonneg : 0 ≤ after.cash
  value_pos : 0 < after.value request.quotes
  values_nonneg : ∀ symbol, 0 ≤ positionValue request.quotes after.positions symbol
  free : request.plannedSells = [] → after.totalCost = 0

theorem positionValue_nonneg (wf : request.WellFormed)
    (projected : SellsProjected request.quotes request.start after) (symbol : String) :
    0 ≤ positionValue request.quotes after.positions symbol := by
  rcases (projected.nonneg symbol).eq_or_lt with hzero | hpos
  · rw [positionValue, ← Projection.quantity, ← hzero, zero_mul]
  · have hheld : symbol ∈ request.state.held.keys :=
      ArmState.mem_held_of_pos (hpos.trans_le (projected.shrinks symbol))
    exact mul_nonneg hpos.le (wf.tradable symbol hheld).midpoint_pos.le

theorem project_sells (wf : request.WellFormed) : ∃ after,
    request.project request.plannedSells = .ok (after, after.value request.quotes) ∧
      SellsOut request after := by
  have hsound : SoundSells request request.plannedSells := plannedSells_sound
  have hserved : ServedSells request.config request.quotes request.start request.plannedSells :=
    ⟨hsound.nodup, hsound.side, hsound.pos, hsound.bounded,
      fun order horder => wf.tradable _ (hsound.held order horder), hsound.notional⟩
  have hnonneg : ∀ symbol, 0 ≤ request.start.quantity symbol := wf.positions
  obtain ⟨after, hafter, hprojected, hmore, hsame⟩ :=
    projectOrders_sells wf.config hnonneg hserved
  have hcash : 0 ≤ after.cash := wf.cash.trans hprojected.cash
  have hvalues := positionValue_nonneg wf hprojected
  have hpos : 0 < after.value request.quotes := by
    by_cases hnil : request.plannedSells = []
    · rw [hsame hnil, start_value]
      exact wf.nav
    · have hcash' : 0 < after.cash := wf.cash.trans_lt (hmore hnil)
      have := midpointValue_nonneg hvalues
      unfold Projection.value
      linarith
  have hfree : request.plannedSells = [] → after.totalCost = 0 := fun hnil => by
    rw [hsame hnil, start]
  refine ⟨after, ?_, hprojected, hcash, hpos, hvalues, hfree⟩
  have hfold : projectState request.config request.quotes request.state request.plannedSells =
      .ok after := hafter
  have hvalue : ¬after.cash + midpointValue request.quotes after.positions ≤ 0 := not_le.mpr hpos
  simp only [project, hfold, ok_bind]
  rw [raiseIf_neg _ (not_lt.mpr hcash), midpointValue_filter, ok_bind, raiseIf_neg _ hvalue]
  rfl

theorem SellsOut.value_eq (out : SellsOut request after) :
    after.value request.quotes = request.nav - after.totalCost := by
  rw [out.value, start_value, start, sub_zero]

/-- What sells leave: no position grew, and the value fell by at most the cost. -/
structure Lightened (request : ForwardPlanRequest) (after : Projection) : Prop where
  nonneg : ∀ symbol, 0 ≤ after.quantity symbol
  shrinks : ∀ symbol, after.quantity symbol ≤ request.state.quantity symbol
  cost : 0 ≤ after.totalCost
  value : request.nav - after.totalCost ≤ after.value request.quotes
  cash_nonneg : 0 ≤ after.cash
  value_pos : 0 < after.value request.quotes

section Lightened

variable (tradable : ∀ symbol ∈ request.state.held.keys, (quoteOf request.quotes symbol).Tradable)

include tradable in
theorem Lightened.values_nonneg (light : Lightened request after) (symbol : String) :
    0 ≤ positionValue request.quotes after.positions symbol := by
  rcases (light.nonneg symbol).eq_or_lt with hzero | hpos
  · rw [positionValue, ← Projection.quantity, ← hzero, zero_mul]
  · have hheld : symbol ∈ request.state.held.keys :=
      ArmState.mem_held_of_pos (hpos.trans_le (light.shrinks symbol))
    exact mul_nonneg hpos.le (tradable symbol hheld).midpoint_pos.le

include tradable in
theorem Lightened.growth (light : Lightened request after) (nav : 0 < request.nav)
    (symbols : SymbolSet) :
    groupWeight (midpointWeights request.quotes after.positions (after.value request.quotes))
      symbols ≤
      groupWeight (midpointWeights request.quotes request.state.positions request.nav) symbols +
        after.totalCost / request.nav := by
  rw [groupWeight_midpointWeights, groupWeight_midpointWeights]
  have hvalues := light.values_nonneg tradable
  refine weight_growth nav light.value_pos light.cost light.value ?_ ?_ ?_
  · refine sum_nonneg fun x hx => ?_
    obtain ⟨symbol, -, rfl⟩ := mem_map.mp hx
    exact hvalues symbol
  · refine sum_le_sum fun symbol _ => ?_
    rcases (light.nonneg symbol).eq_or_lt with hzero | hpos
    · have hbefore : 0 ≤ request.state.quantity symbol := hzero.trans_le (light.shrinks symbol)
      rw [positionValue, ← Projection.quantity, ← hzero, zero_mul]
      rcases hbefore.eq_or_lt with hnone | hheld
      · rw [positionValue, ← ArmState.quantity, ← hnone, zero_mul]
      · exact mul_nonneg hbefore (tradable symbol (ArmState.mem_held_of_pos hheld)).midpoint_pos.le
    · exact mul_le_mul_of_nonneg_right (light.shrinks symbol) (tradable symbol
        (ArmState.mem_held_of_pos (hpos.trans_le (light.shrinks symbol)))).midpoint_pos.le
  · refine (groupValue_le hvalues symbols.2).trans ?_
    have hcash := light.cash_nonneg
    unfold Projection.value
    linarith

include tradable in
theorem Lightened.not_rejected (light : Lightened request after) (nav : 0 < request.nav)
    (gross : 1 ≤ request.config.maxGrossExposure) {planned}
    (side : ∀ order ∈ planned, order.side = .sell) (free : planned = [] → after.totalCost = 0) :
    request.rejectionReasons planned after (after.value request.quotes) = [] := by
  have hshort : ∀ quantity ∈ after.positions.values, 0 ≤ quantity := by
    intro quantity hquantity
    obtain ⟨entry, hentry, rfl⟩ := mem_map.mp hquantity
    have := light.nonneg entry.1
    rwa [Projection.quantity, Dict.getD_of_get? (Dict.get?_eq_some.mpr hentry)] at this
  have hextra : (if 0 < request.nav ∧ (decide (planned ≠ [] ∧
      ∀ order ∈ planned, order.side = .sell)) = true
      then after.totalCost / request.nav else 0) = after.totalCost / request.nav := by
    split
    · rfl
    · rename_i hnot
      have hnil : planned = [] := by
        by_contra hne
        exact hnot ⟨nav, decide_eq_true ⟨hne, side⟩⟩
      rw [free hnil, zero_div]
  rw [rejectionReasons, riskRejections]
  simp only [hextra, currentWeights_eq, append_eq_nil_iff]
  refine ⟨rejectUnless_eq_nil hshort,
    weightRejections_eq_nil (fun symbols => light.growth tradable nav symbols) ?_⟩
  rw [midpointWeights_sum]
  have hgross : midpointValue request.quotes after.positions / after.value request.quotes ≤ 1 := by
    rw [div_le_one light.value_pos, Projection.value]
    linarith [light.cash_nonneg]
  have hepsilon : 0 ≤ weightEpsilon := by norm_num [weightEpsilon]
  linarith

end Lightened

theorem SellsOut.lightened (out : SellsOut request after) : Lightened request after where
  nonneg := out.nonneg
  shrinks := out.shrinks
  cost := out.cost
  value := out.value_eq.ge
  cash_nonneg := out.cash_nonneg
  value_pos := out.value_pos

theorem SellsOut.not_rejected (wf : request.WellFormed) (out : SellsOut request after) :
    request.rejectionReasons request.plannedSells after (after.value request.quotes) = [] :=
  out.lightened.not_rejected wf.tradable wf.nav wf.config.gross plannedSells_sound.side out.free

theorem checkArguments_iff (arm : request.state.armId = request.target.armId)
    (openNav : 0 < request.sessionOpenNavUsd) (unsettled : 0 ≤ request.unsettledSaleProceedsUsd)
    (held : ∀ symbol ∈ request.state.held.keys, symbol ∈ request.quotes.keys)
    (core : coreSymbol ∈ request.quotes.keys) (nav : 0 < request.nav)
    (budget : request.forcedSellBudgetUsd = none) : request.checkArguments = .ok () ↔
      ∀ symbol ∈ request.forcedTargets.keys, symbol ∈ request.quotes.keys := by
  have hmissing : request.missing = [] := by
    rw [missing, sortedBy_eq_nil, filter_eq_nil_iff]
    intro symbol hsymbol
    have hquoted : symbol ∈ request.quotes.keys := by
      split at hsymbol
      · exact held symbol hsymbol
      · rcases mem_append.mp hsymbol with h | h
        · exact held symbol h
        · exact mem_singleton.mp h ▸ core
    simpa using hquoted
  have hunknown : request.unknownForcedSymbols = [] ↔
      ∀ symbol ∈ request.forcedTargets.keys, symbol ∈ request.quotes.keys := by
    rw [unknownForcedSymbols, sortedBy_eq_nil, filter_eq_nil_iff]
    simp
  simp only [checkArguments, ok_iff, not_not, not_le, not_lt, hunknown]
  constructor
  · rintro ⟨-, -, -, -, -, hforced, -⟩
    exact hforced
  · intro hforced
    exact ⟨arm, openNav, unsettled, hmissing, nav, hforced, by simp [budget]⟩

theorem normalizeWeights_eq {weights} (sum : weights.values.sum = 1) {cash : Decimal}
    (hcash : weights.get? cashSymbol = some cash) :
    normalizeWeights weights = .ok weights := by
  have hscaled : (weights.mapVal fun _ value => value / weights.values.sum) = weights :=
    Dict.mapVal_eq_self fun entry _ => by rw [sum, div_one]
  have hpos : ¬weights.values.sum ≤ 0 := by rw [sum]; norm_num
  simp only [normalizeWeights]
  rw [raiseIf_neg _ hpos, hscaled, sum, sub_self, add_zero, Dict.getD_of_get? hcash,
    Dict.set_eq_self hcash]
  rfl

def finalWeights (request : ForwardPlanRequest) (after : Projection) : Dict String Decimal :=
  (midpointWeights request.quotes after.positions.sorted (after.value request.quotes)).set
    cashSymbol
    (after.cash / after.value request.quotes)

theorem SellsOut.cash_not_held (wf : request.WellFormed) (out : SellsOut request after) :
    (midpointWeights request.quotes after.positions.sorted (after.value request.quotes)).get?
      cashSymbol = none := by
  have hzero : after.quantity cashSymbol = 0 := by
    by_contra hne
    have hpos := (out.nonneg cashSymbol).lt_of_ne' hne
    exact wf.securities (ArmState.mem_held_of_pos (hpos.trans_le (out.shrinks cashSymbol)))
  rw [midpointWeights, Dict.get?_mapVal, Dict.get?_filter, Dict.get?_sorted]
  unfold Projection.quantity Dict.getD at hzero
  cases hget : after.positions.get? cashSymbol with
  | none => rfl
  | some value =>
    rw [hget, Option.getD_some] at hzero
    simp [Option.filter_some, hzero]

theorem midpointValue_sorted (quotes : QuoteBundle) (positions : Dict String Decimal) :
    midpointValue quotes positions.sorted = midpointValue quotes positions := by
  have hperm : (positions.sorted.entries).Perm positions.entries := sortedBy_perm _ _
  exact (hperm.map _).sum_eq

theorem SellsOut.weights_sum (wf : request.WellFormed) (out : SellsOut request after) :
    (request.finalWeights after).values.sum = 1 := by
  have hsum : (request.finalWeights after).values.sum = (midpointWeights request.quotes
      after.positions.sorted (after.value request.quotes)).values.sum +
        after.cash / after.value request.quotes := by
    rw [finalWeights, Dict.values, Dict.sum_entries_set, out.cash_not_held wf]
    simp [Dict.values]
  rw [hsum, midpointWeights_sum, midpointValue_sorted, ← add_div, add_comm]
  exact div_self out.value_pos.ne'

theorem SellsOut.weights_nonneg (out : SellsOut request after) :
    ∀ weight ∈ (request.finalWeights after).values, 0 ≤ weight := by
  intro weight hweight
  obtain ⟨entry, hentry, rfl⟩ := mem_map.mp hweight
  have hget := Dict.get?_eq_some.mpr hentry
  rw [finalWeights, Dict.get?_set] at hget
  split at hget
  · rw [← Option.some.inj hget]
    exact div_nonneg out.cash_nonneg out.value_pos.le
  · have hvalue : (midpointWeights request.quotes after.positions.sorted
        (after.value request.quotes)).getD entry.1 0 = entry.2 := Dict.getD_of_get? hget
    rw [midpointWeights_getD, positionValue, Dict.getD, Dict.get?_sorted, ← Dict.getD] at hvalue
    rw [← hvalue]
    exact div_nonneg (out.values_nonneg entry.1) out.value_pos.le

theorem marketDataAgeSeconds_nonneg (wf : request.WellFormed) :
    0 ≤ request.marketDataAgeSeconds := by
  unfold marketDataAgeSeconds
  cases hmax : (request.quotes.values.map fun quote =>
      ((request.intentCreatedAt - quote.eventTime : ℤ) : Decimal) / 1000000).max? with
  | none => exact le_rfl
  | some age =>
    obtain ⟨quote, hquote, rfl⟩ := mem_map.mp (List.max?_mem hmax)
    exact div_nonneg (Int.cast_nonneg (sub_nonneg.mpr (wf.past quote hquote))) (by norm_num)

theorem oneWayTurnover_nonneg {current desired} {nav : Decimal} (h : 0 < nav) :
    0 ≤ oneWayTurnover current desired nav := by
  refine div_nonneg (le_max_of_le_left (sum_nonneg fun x hx => ?_)) h.le
  obtain ⟨symbol, -, rfl⟩ := mem_map.mp hx
  exact le_max_left _ _

theorem finalWeights_cash : (request.finalWeights after).get? cashSymbol =
    some (after.cash / after.value request.quotes) := by
  unfold finalWeights
  rw [Dict.get?_set, if_pos rfl]

theorem SellsOut.portfolio_check (hash : Hashing) (wf : request.WellFormed)
    (out : SellsOut request after) :
    (request.portfolioFields hash request.plannedSells after.totalCost).check = .ok () := by
  have hcost : 0 ≤ after.totalCost := out.cost
  have hturnover : 0 ≤ oneWayTurnover request.currentValues request.desiredValues request.nav :=
    oneWayTurnover_nonneg wf.nav
  refine raiseIf_neg _ (not_not.mpr ?_)
  simp [PortfolioDecisionFields.fieldErrors, portfolioFields, wf.vol, hcost, hturnover]

theorem SellsOut.risk_check (hash : Hashing) (wf : request.WellFormed)
    (out : SellsOut request after) (portfolio : PortfolioDecision) :
    (request.riskFields hash portfolio request.plannedSells (request.finalWeights after) []).check =
      .ok () := by
  have hage : geCheck "market_data_age_seconds" 0 request.marketDataAgeSeconds = [] := by
    simpa using marketDataAgeSeconds_nonneg wf
  have hlong : ¬∃ weight ∈ (request.finalWeights after).values, weight < -1 / 10 ^ 12 := by
    rintro ⟨weight, hweight, hneg⟩
    have hnonneg := out.weights_nonneg weight hweight
    have : (-1 / 10 ^ 12 : Decimal) < 0 := by norm_num
    linarith
  have hsum : ¬|(request.finalWeights after).values.sum - 1| > 1 / 10 ^ 8 := by
    rw [out.weights_sum wf]
    norm_num
  simp only [RiskDecisionFields.check, ok_iff]
  exact ⟨not_not.mpr hage, fun h => hlong h.2, fun h => hsum h.2⟩

theorem check_of_pos {intent : OrderIntentFields}
    (h : 0 < intent.quantity) : intent.check = .ok () :=
  raiseIf_neg _ (not_not.mpr (fieldCheck_eq_nil.mpr h))

theorem orderIntents_sells (request : ForwardPlanRequest) (hash : Hashing)
    (portfolio : PortfolioDecision) (risk : RiskDecision) :
    ∃ intents, request.orderIntents hash portfolio risk request.plannedSells = .ok intents ∧
      (∀ order ∈ request.plannedSells, ∃ intent ∈ intents, intent.val.symbol = order.symbol ∧
        intent.val.side = .sell ∧ intent.val.quantity = order.quantity) ∧
      ∀ intent ∈ intents, ∃ order ∈ request.plannedSells, intent.val.symbol = order.symbol := by
  have hsound : SoundSells request request.plannedSells := plannedSells_sound
  have hall : ∀ order ∈ request.plannedSells, ∃ intent,
      request.orderIntent hash portfolio risk order = .ok intent := by
    intro order horder
    exact ⟨_, validate_of_ok (check_of_pos (hsound.pos order horder))⟩
  obtain ⟨intents, hintents, hmem⟩ := mapM_of_forall hall
  refine ⟨intents, hintents, fun order horder => ?_, fun intent hintent => ?_⟩
  · obtain ⟨intent, hintent, hbuilt⟩ := hmem order horder
    have hfields := validate_eq_ok.mp hbuilt
    exact ⟨intent, hintent, by rw [hfields], by rw [hfields]; exact hsound.side order horder,
      by rw [hfields]⟩
  · obtain ⟨order, horder, hbuilt⟩ := mem_of_mapM_eq_ok hintents intent hintent
    exact ⟨order, horder, by rw [validate_eq_ok.mp hbuilt]⟩

theorem decidePlan_sells (hash : Hashing) (wf : request.WellFormed) (out : SellsOut request after) :
    ∃ decision, request.decidePlan hash request.plannedSells after (after.value request.quotes) =
        .ok decision ∧
      (∀ order ∈ request.plannedSells, ∃ intent ∈ decision.2.2, intent.val.symbol = order.symbol ∧
        intent.val.side = .sell ∧ intent.val.quantity = order.quantity) ∧
      ∀ intent ∈ decision.2.2, ∃ order ∈ request.plannedSells, intent.val.symbol =
        order.symbol := by
  have hweights : request.approvedWeights after (after.value request.quotes) =
      .ok (request.finalWeights after) :=
    normalizeWeights_eq (out.weights_sum wf) finalWeights_cash
  obtain ⟨portfolio, hportfolio⟩ : ∃ portfolio, validate PortfolioDecisionFields.check
      (request.portfolioFields hash request.plannedSells after.totalCost) = .ok portfolio :=
    ⟨_, validate_of_ok (out.portfolio_check hash wf)⟩
  obtain ⟨risk, hrisk⟩ :
    ∃ risk, validate RiskDecisionFields.check (request.riskFields hash portfolio
      request.plannedSells (request.finalWeights after) []) = .ok risk :=
    ⟨_, validate_of_ok (out.risk_check hash wf portfolio)⟩
  obtain ⟨intents, hintents, hsells, hfrom⟩ := request.orderIntents_sells hash portfolio risk
  refine ⟨(portfolio, risk, intents), ?_, hsells, hfrom⟩
  simp only [decidePlan, hweights, ok_bind, out.not_rejected wf, hportfolio, hrisk, if_true,
    hintents]
  rfl

theorem sellOnlyPlan_ok (hash : Hashing) (wf : request.WellFormed)
    (arguments : request.checkArguments = .ok ()) (blocked : request.blockedEntries = true) :
    ∃ plan, buildForwardOrderPlan hash request = .ok plan ∧
      (∀ order ∈ request.plannedSells, ∃ intent ∈ plan.intents, intent.val.symbol = order.symbol ∧
        intent.val.side = .sell ∧ intent.val.quantity = order.quantity) ∧
      ∀ intent ∈ plan.intents, ∃ order ∈ request.plannedSells, intent.val.symbol =
        order.symbol := by
  have hbuys : request.plannedBuys = .ok [] := if_pos blocked
  obtain ⟨after, hproject, out⟩ := project_sells wf
  obtain ⟨decision, hdecision, hsells, hfrom⟩ := decidePlan_sells hash wf out
  have hplan : ∃ plan, buildForwardOrderPlan hash request = .ok plan ∧ plan.intents =
    decision.2.2 := by
    simp only [buildForwardOrderPlan, arguments, hbuys, append_nil, hproject, ok_bind, hdecision]
    exact ⟨_, rfl, rfl⟩
  obtain ⟨plan, hplan, hintents⟩ := hplan
  rw [← hintents] at hsells hfrom
  exact ⟨plan, hplan, hsells, hfrom⟩

end ForwardPlanRequest

end AdaptiveQuant
