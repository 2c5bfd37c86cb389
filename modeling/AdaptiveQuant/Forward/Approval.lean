import AdaptiveQuant.Forward.PlanSafety

/-! Which plans the weight limits reject. -/

namespace AdaptiveQuant

open Guard Sequence List

namespace ForwardPlanRequest

variable {request : ForwardPlanRequest} {planned : List PlannedOrder} {projection : Projection}
  {projectedNav : Decimal}

/-- No order of the plan earns a commission. -/
def FeesNonneg (request : ForwardPlanRequest) (planned : List PlannedOrder) : Prop :=
  ∀ order ∈ planned, 0 ≤ commission request.config
    (order.quantity * orderPrice request.config request.quotes order)

theorem sells_lightened (positions : ∀ symbol, 0 ≤ request.state.quantity symbol)
    (fees : request.FeesNonneg request.plannedSells)
    (h : request.project request.plannedSells = .ok (projection, projectedNav)) :
    Lightened request projection := by
  obtain ⟨hproject, hcash, hvalue, -⟩ := project_eq_ok.mp h
  have haccount : Projected request.config request.quotes request.start request.plannedSells
    projection := projectOrders_ok hproject
  have hsells : SoundSells request request.plannedSells := plannedSells_sound
  have hcosts : ∀ order ∈ request.plannedSells,
      0 ≤ orderCost request.config request.quotes order := fun order horder =>
    add_nonneg (fees order horder) (mul_nonneg (hsells.pos order horder).le (abs_nonneg _))
  have hcost : projection.totalCost =
      (request.plannedSells.map (orderCost request.config request.quotes)).sum := by
    rw [haccount.cost, start, zero_add]
  have hshares : ∀ order ∈ request.plannedSells, order.shares = -order.quantity :=
    fun order horder => by rw [PlannedOrder.shares, hsells.side order horder]
  refine ⟨fun symbol => ?_, fun symbol => ?_, ?_, ?_, hcash, hvalue⟩
  · rw [haccount.quantity]
    change 0 ≤ request.state.quantity symbol + _
    by_cases hmem : ∃ order ∈ request.plannedSells, order.symbol = symbol
    · obtain ⟨order, horder, rfl⟩ := hmem
      rw [netShares_of_mem hsells.nodup horder, hshares order horder]
      linarith [hsells.bounded order horder]
    · push Not at hmem
      rw [netShares_of_not_mem hmem, add_zero]
      exact positions symbol
  · rw [haccount.quantity]
    have hless := @netShares_nonpos request.plannedSells (fun order horder => by
      rw [hshares order horder]
      exact neg_nonpos.mpr (hsells.pos order horder).le) symbol
    change request.state.quantity symbol + _ ≤ _
    linarith
  · rw [hcost]
    refine sum_nonneg fun x hx => ?_
    obtain ⟨order, horder, rfl⟩ := mem_map.mp hx
    exact hcosts order horder
  · have hgain : -(request.plannedSells.map (orderCost request.config request.quotes)).sum ≤
        (request.plannedSells.map (orderGain request.config request.quotes)).sum := by
      rw [← neg_one_mul, ← sum_map_mul_left]
      refine sum_le_sum fun order horder => ?_
      rw [neg_one_mul]
      exact neg_orderCost_le_orderGain (hsells.pos order horder).le
    rw [haccount.value, start_value, hcost]
    linarith

theorem planned_eq_sells {buys} (hbuys : request.plannedBuys = .ok buys)
    (sells : ∀ order ∈ request.plannedSells ++ buys, order.side = .sell) : buys = [] := by
  refine eq_nil_iff_forall_not_mem.mpr fun order horder => ?_
  have hside := sells order (mem_append_right _ horder)
  rw [plannedBuys_side hbuys order horder] at hside
  cases hside

theorem sells_not_rejected (arguments : request.checkArguments = .ok ())
    (positions : ∀ symbol, 0 ≤ request.state.quantity symbol)
    (tradable : TradableBundle request.quotes) (gross : 1 ≤ request.config.maxGrossExposure)
    (fees : request.FeesNonneg request.plannedSells)
    (h : request.project request.plannedSells = .ok (projection, projectedNav)) :
    request.rejectionReasons request.plannedSells projection projectedNav = [] := by
  obtain ⟨-, hheld, hnav, -⟩ := checkArguments_ok arguments
  obtain ⟨hproject, -, -, rfl⟩ := project_eq_ok.mp h
  refine (sells_lightened positions fees h).not_rejected
    (fun symbol hsymbol => tradable.quoteOf (hheld symbol hsymbol)) hnav gross
    plannedSells_sound.side fun hnil => ?_
  have haccount : Projected request.config request.quotes request.start request.plannedSells
    projection := projectOrders_ok hproject
  rw [haccount.cost, hnil, start]
  simp

inductive WeightLimit (request : ForwardPlanRequest) : SymbolSet → Decimal → String → Prop
  | single (symbol : String) (held : symbol ∈ request.state.held.keys)
      (counted : ¬(symbol = coreSymbol ∧ request.state.armId ∈ request.config.coreCapExemptArms.1))
        :
      WeightLimit request ⟨[symbol], nodup_singleton symbol⟩
        request.config.maxSingleSymbolWeight s!"SINGLE_SYMBOL_LIMIT:{symbol}"
  | semiconductor : WeightLimit request request.config.semiconductorSymbols
      request.config.maxSemiconductorClusterWeight "SEMICONDUCTOR_CLUSTER_LIMIT"
  | leveraged (symbol : String) (mem : symbol ∈ request.config.leveragedSymbols.1) :
      WeightLimit request ⟨[symbol], nodup_singleton symbol⟩
        request.config.maxLeveragedEtfWeight s!"LEVERAGED_SYMBOL_LIMIT:{symbol}"
  | combined : WeightLimit request request.config.leveragedSymbols
      request.config.maxCombinedLeveragedEtfWeight "COMBINED_LEVERAGED_LIMIT"

def groupValue (request : ForwardPlanRequest) (symbols : SymbolSet) : Decimal :=
  (symbols.1.map (positionValue request.quotes request.state.positions)).sum

/-- A limit that the positions exceed and whose symbols the plan neither sells nor buys. -/
structure Grandfathered (request : ForwardPlanRequest) (planned : List PlannedOrder)
    (symbols : SymbolSet) (cap : Decimal) (reason : String) : Prop where
  limit : WeightLimit request symbols cap reason
  above : cap < request.groupValue symbols / request.nav
  untouched : ∀ order ∈ planned, order.symbol ∉ symbols.1

theorem mem_keys_nonzero {positions : Dict String Decimal} {symbol : String} :
    symbol ∈ (positions.filter fun _ quantity => quantity ≠ 0).keys ↔
      positions.getD symbol 0 ≠ 0 := by
  rw [Dict.mem_keys, Dict.get?_filter, Dict.getD]
  cases positions.get? symbol with
  | none => simp
  | some quantity => by_cases hzero : quantity = 0 <;> simp [Option.filter_some, hzero]

theorem mem_rejectUnless {ok : Prop} [Decidable ok] {reason text : String} :
    reason ∈ rejectUnless ok text ↔ ¬ok ∧ reason = text := by
  unfold rejectUnless
  split <;> simp [*]

@[simp] theorem groupWeight_singleton (weights : Dict String Decimal) (symbol : String) :
    groupWeight weights ⟨[symbol], nodup_singleton symbol⟩ = weights.getD symbol 0 := by
  simp [groupWeight]

def Refuses (request : ForwardPlanRequest) (projection : Projection) (projectedNav : Decimal)
    (symbols : SymbolSet) (cap : Decimal) : Prop :=
  ¬grandfatherAllows
    (groupWeight (midpointWeights request.quotes request.state.positions request.nav) symbols)
    (groupWeight (midpointWeights request.quotes projection.positions projectedNav) symbols) cap 0

def reasonTag (reason : String) : List Char := reason.toList.take 3

theorem reasonTag_single (symbol : String) :
    reasonTag s!"SINGLE_SYMBOL_LIMIT:{symbol}" = ['S', 'I', 'N'] := by
  simp [reasonTag, toString]

theorem reasonTag_leveraged (symbol : String) :
    reasonTag s!"LEVERAGED_SYMBOL_LIMIT:{symbol}" = ['L', 'E', 'V'] := by
  simp [reasonTag, toString]

theorem single_inj {a b : String}
    (h : s!"SINGLE_SYMBOL_LIMIT:{a}" = s!"SINGLE_SYMBOL_LIMIT:{b}") : a = b := by
  simpa [toString] using h

theorem leveraged_inj {a b : String}
    (h : s!"LEVERAGED_SYMBOL_LIMIT:{a}" = s!"LEVERAGED_SYMBOL_LIMIT:{b}") : a = b := by
  simpa [toString] using h

theorem mem_rejectionReasons (mixed : ∃ order ∈ planned, order.side = .buy) {reason : String} :
    reason ∈ request.rejectionReasons planned projection projectedNav ↔
      (¬(∀ quantity ∈ projection.positions.values, 0 ≤ quantity) ∧
        reason = "SHORT_POSITION_PROHIBITED") ∨
      (∃ symbol, projection.quantity symbol ≠ 0 ∧
        ¬(symbol = coreSymbol ∧ request.state.armId ∈ request.config.coreCapExemptArms.1) ∧
        request.Refuses projection projectedNav ⟨[symbol], nodup_singleton symbol⟩
          request.config.maxSingleSymbolWeight ∧ reason = s!"SINGLE_SYMBOL_LIMIT:{symbol}") ∨
      (request.Refuses projection projectedNav request.config.semiconductorSymbols
        request.config.maxSemiconductorClusterWeight ∧ reason = "SEMICONDUCTOR_CLUSTER_LIMIT") ∨
      (∃ symbol ∈ request.config.leveragedSymbols.1,
        request.Refuses projection projectedNav ⟨[symbol], nodup_singleton symbol⟩
          request.config.maxLeveragedEtfWeight ∧ reason = s!"LEVERAGED_SYMBOL_LIMIT:{symbol}") ∨
      (request.Refuses projection projectedNav request.config.leveragedSymbols
        request.config.maxCombinedLeveragedEtfWeight ∧ reason = "COMBINED_LEVERAGED_LIMIT") ∨
      (¬((midpointWeights request.quotes projection.positions projectedNav).values.sum ≤
        request.config.maxGrossExposure + weightEpsilon) ∧ reason = "MAX_GROSS_EXPOSURE") := by
  have hnone : ¬(0 < request.nav ∧ (decide (planned ≠ [] ∧
      ∀ order ∈ planned, order.side = .sell)) = true) := by
    rintro ⟨-, hall⟩
    obtain ⟨order, horder, hside⟩ := mixed
    rw [(of_decide_eq_true hall).2 order horder] at hside
    cases hside
  have hkeys : ∀ symbol, symbol ∈ (midpointWeights request.quotes projection.positions
      projectedNav).keys ↔ projection.quantity symbol ≠ 0 := fun symbol => by
    rw [midpointWeights, Dict.keys_mapVal, mem_keys_nonzero, Projection.quantity]
  simp only [rejectionReasons, riskRejections, if_neg hnone, currentWeights_eq, weightRejections,
    mem_append, mem_flatMap, mem_rejectUnless, Refuses, groupWeight_singleton, hkeys,
    or_assoc]
  refine or_congr Iff.rfl
    (or_congr (exists_congr fun symbol => and_congr_right fun _ => ?_) Iff.rfl)
  by_cases hexempt : symbol = coreSymbol ∧ request.state.armId ∈ request.config.coreCapExemptArms.1
  · simp [hexempt]
  · rw [if_neg hexempt, mem_rejectUnless]
    simp [hexempt]

theorem limit_refuses_iff (mixed : ∃ order ∈ planned, order.side = .buy) {symbols : SymbolSet}
    {cap : Decimal} {reason : String} (limit : WeightLimit request symbols cap reason)
    (kept : ∀ symbol ∈ symbols.1, projection.quantity symbol = request.state.quantity symbol) :
    reason ∈ request.rejectionReasons planned projection projectedNav ↔
      request.Refuses projection projectedNav symbols cap := by
  rw [mem_rejectionReasons mixed]
  have htags : reasonTag "SHORT_POSITION_PROHIBITED" = ['S', 'H', 'O'] ∧
      reasonTag "SEMICONDUCTOR_CLUSTER_LIMIT" = ['S', 'E', 'M'] ∧
      reasonTag "COMBINED_LEVERAGED_LIMIT" = ['C', 'O', 'M'] ∧
      reasonTag "MAX_GROSS_EXPOSURE" = ['M', 'A', 'X'] := by decide
  obtain ⟨hshort, hsemi, hcombined, hgross⟩ := htags
  have hne : ∀ {a b : String}, reasonTag a ≠ reasonTag b → a ≠ b := fun h heq => h (heq ▸ rfl)
  cases limit with
  | single symbol held counted =>
    have hquantity : projection.quantity symbol ≠ 0 := by
      rw [kept symbol (by simp)]
      exact mem_keys_nonzero.mp held
    constructor
    · rintro (⟨-, h⟩ | ⟨other, -, -, hrefuses, h⟩ | ⟨-, h⟩ | ⟨other, -, -, h⟩ | ⟨-, h⟩ | ⟨-, h⟩)
      · exact absurd h (hne (by rw [reasonTag_single, hshort]; decide))
      · obtain rfl := single_inj h
        exact hrefuses
      · exact absurd h (hne (by rw [reasonTag_single, hsemi]; decide))
      · exact absurd h (hne (by rw [reasonTag_single, reasonTag_leveraged]; decide))
      · exact absurd h (hne (by rw [reasonTag_single, hcombined]; decide))
      · exact absurd h (hne (by rw [reasonTag_single, hgross]; decide))
    · exact fun hrefuses => .inr (.inl ⟨symbol, hquantity, counted, hrefuses, rfl⟩)
  | semiconductor =>
    constructor
    · rintro (⟨-, h⟩ | ⟨other, -, -, -, h⟩ | ⟨hrefuses, -⟩ | ⟨other, -, -, h⟩ | ⟨-, h⟩ | ⟨-, h⟩)
      · exact absurd h (hne (by rw [hsemi, hshort]; decide))
      · exact absurd h (hne (by rw [hsemi, reasonTag_single]; decide))
      · exact hrefuses
      · exact absurd h (hne (by rw [hsemi, reasonTag_leveraged]; decide))
      · exact absurd h (hne (by rw [hsemi, hcombined]; decide))
      · exact absurd h (hne (by rw [hsemi, hgross]; decide))
    · exact fun hrefuses => .inr (.inr (.inl ⟨hrefuses, rfl⟩))
  | leveraged symbol mem =>
    constructor
    · rintro (⟨-, h⟩ | ⟨other, -, -, -, h⟩ | ⟨-, h⟩ | ⟨other, -, hrefuses, h⟩ | ⟨-, h⟩ | ⟨-, h⟩)
      · exact absurd h (hne (by rw [reasonTag_leveraged, hshort]; decide))
      · exact absurd h (hne (by rw [reasonTag_leveraged, reasonTag_single]; decide))
      · exact absurd h (hne (by rw [reasonTag_leveraged, hsemi]; decide))
      · obtain rfl := leveraged_inj h
        exact hrefuses
      · exact absurd h (hne (by rw [reasonTag_leveraged, hcombined]; decide))
      · exact absurd h (hne (by rw [reasonTag_leveraged, hgross]; decide))
    · exact fun hrefuses => .inr (.inr (.inr (.inl ⟨symbol, mem, hrefuses, rfl⟩)))
  | combined =>
    constructor
    · rintro (⟨-, h⟩ | ⟨other, -, -, -, h⟩ | ⟨-, h⟩ | ⟨other, -, -, h⟩ | ⟨hrefuses, -⟩ | ⟨-, h⟩)
      · exact absurd h (hne (by rw [hcombined, hshort]; decide))
      · exact absurd h (hne (by rw [hcombined, reasonTag_single]; decide))
      · exact absurd h (hne (by rw [hcombined, hsemi]; decide))
      · exact absurd h (hne (by rw [hcombined, reasonTag_leveraged]; decide))
      · exact hrefuses
      · exact absurd h (hne (by rw [hcombined, hgross]; decide))
    · exact fun hrefuses => .inr (.inr (.inr (.inr (.inl ⟨hrefuses, rfl⟩))))

theorem refuses_iff (nav : 0 < request.nav) (left : 0 < projectedNav) {symbols : SymbolSet}
    {cap : Decimal} (above : cap < request.groupValue symbols / request.nav)
    (kept : ∀ symbol ∈ symbols.1, projection.quantity symbol = request.state.quantity symbol) :
    request.Refuses projection projectedNav symbols cap ↔
      weightEpsilon * request.nav * projectedNav <
        request.groupValue symbols * (request.nav - projectedNav) := by
  have hsame : (symbols.1.map (positionValue request.quotes projection.positions)).sum =
      request.groupValue symbols := by
    rw [groupValue]
    congr 1
    refine map_congr_left fun symbol hsymbol => ?_
    rw [positionValue, ← Projection.quantity, kept symbol hsymbol, positionValue, ArmState.quantity]
  have hbefore : groupWeight (midpointWeights request.quotes request.state.positions request.nav)
      symbols = request.groupValue symbols / request.nav := groupWeight_midpointWeights symbols
  rw [Refuses, grandfatherAllows, hbefore, groupWeight_midpointWeights, hsame,
    if_neg (not_le.mpr above),
    add_zero, not_le, ← lt_sub_iff_add_lt', div_sub_div _ _ left.ne' nav.ne',
    lt_div_iff₀ (mul_pos left nav)]
  constructor <;> intro h <;> linarith

end ForwardPlanRequest

/-- In a mixed plan, the positions above their limits that the plan does not touch are kept exactly
when the value that it loses moves none of their weights by more than the tolerance. -/
theorem mixed_plan_grandfathers_iff (request : ForwardPlanRequest) (planned : List PlannedOrder)
    (mixed : ∃ order ∈ planned, order.side = .buy) (arguments : request.checkArguments = .ok ())
    {projection : Projection} {projectedNav : Decimal}
    (h : request.project planned = .ok (projection, projectedNav)) :
    (∀ symbols cap reason, request.Grandfathered planned symbols cap reason →
      reason ∉ request.rejectionReasons planned projection projectedNav) ↔
    ∀ symbols cap reason, request.Grandfathered planned symbols cap reason →
      request.groupValue symbols * (request.nav - projectedNav) ≤
        weightEpsilon * request.nav * projectedNav := by
  obtain ⟨-, -, hnav, -⟩ := ForwardPlanRequest.checkArguments_ok arguments
  obtain ⟨hproject, -, hleft, hvalue⟩ := ForwardPlanRequest.project_eq_ok.mp h
  rw [← hvalue] at hleft
  have haccount : Projected request.config request.quotes request.start planned projection :=
    projectOrders_ok hproject
  refine forall₃_congr fun symbols cap reason => imp_congr_right fun kept => ?_
  have hsame : ∀ symbol ∈ symbols.1, projection.quantity symbol =
    request.state.quantity symbol := by
    intro symbol hsymbol
    rw [haccount.quantity, netShares_of_not_mem, add_zero]
    · rfl
    · rintro order horder rfl
      exact kept.untouched order horder hsymbol
  rw [ForwardPlanRequest.limit_refuses_iff mixed kept.limit hsame,
    ForwardPlanRequest.refuses_iff hnav hleft kept.above hsame, not_lt]

/-- A plan that only sells is approved, as long as no commission is negative. -/
theorem sell_only_plan_approved (hash : Hashing) (request : ForwardPlanRequest)
    (arguments : request.checkArguments = .ok ())
    (positions : ∀ symbol, 0 ≤ request.state.quantity symbol)
    (tradable : TradableBundle request.quotes) (gross : 1 ≤ request.config.maxGrossExposure)
    {buys : List PlannedOrder} (hbuys : request.plannedBuys = .ok buys)
    (sells : ∀ order ∈ request.plannedSells ++ buys, order.side = .sell)
    (fees : request.FeesNonneg (request.plannedSells ++ buys)) :
    (∀ projection projectedNav, request.project (request.plannedSells ++ buys) =
        .ok (projection, projectedNav) →
      request.rejectionReasons (request.plannedSells ++ buys) projection projectedNav = []) ∧
    ∀ plan, buildForwardOrderPlan hash request = .ok plan → plan.riskDecision.val.approved =
      true := by
  obtain rfl := ForwardPlanRequest.planned_eq_sells hbuys sells
  rw [append_nil] at fees ⊢
  have hreasons : ∀ projection projectedNav, request.project request.plannedSells =
      .ok (projection, projectedNav) →
      request.rejectionReasons request.plannedSells projection projectedNav = [] :=
    fun _ _ h => ForwardPlanRequest.sells_not_rejected arguments positions tradable gross fees h
  refine ⟨hreasons, fun plan hplan => ?_⟩
  simp only [buildForwardOrderPlan, ok_iff] at hplan
  obtain ⟨_, -, buys, hbuys', ⟨projection, projectedNav⟩, hproject, ⟨portfolio, risk, intents⟩,
    hdecide, rfl⟩ := hplan
  obtain rfl : [] = buys := Except.ok.inj (hbuys.symm.trans hbuys')
  rw [append_nil] at hproject hdecide
  have hnone := hreasons projection projectedNav hproject
  simp only [ForwardPlanRequest.decidePlan, hnone, if_true, ok_iff, Prod.mk.injEq] at hdecide
  obtain ⟨weights, -, _, -, risk', hrisk, _, -, -, rfl, -⟩ := hdecide
  rw [validate_eq_ok.mp hrisk]
  simp [ForwardPlanRequest.riskFields]

section Sample

/-- Both positions are above their limits; the day's budget sells one of them, and cash buys the
core. -/
def limitsRequest (config : ForwardRiskConfig) (weight cash : Decimal) : ForwardPlanRequest :=
  samplePlanRequest config weight cash ⟨[("SOXL", 10), ("NVDA", 20)], by decide⟩
    ⟨[("QQQ", sampleDecisionQuote "QQQ" 100 100), ("SOXL", sampleDecisionQuote "SOXL" 100 100),
      ("NVDA", sampleDecisionQuote "NVDA" 100 100)], by decide⟩

def sampleMixedRequest : ForwardPlanRequest := limitsRequest shippedRiskConfig 1 1000

def sampleFreeRequest : ForwardPlanRequest :=
  limitsRequest { shippedRiskConfig with commissionRate := 0, delayPenaltyBps := 0 } 1 1000

def ForwardPlanRequest.projectPlan (request : ForwardPlanRequest) :
    Except Failure (List PlannedOrder × Projection × Decimal) := do
  let buys ← request.plannedBuys
  let projected ← request.project (request.plannedSells ++ buys)
  return (request.plannedSells ++ buys, projected)

/-- The plan sells `SOXL` and buys the core; it is refused because `NVDA`, which it does not touch,
grows in weight by the costs. -/
theorem sampleMixed_refused : sampleMixedRequest.projectPlan.toOption.any
    (fun (planned, projection, projectedNav) =>
      planned.map (fun order => (order.symbol, order.side)) = [("SOXL", .sell), ("QQQ", .buy)] ∧
      (midpointWeights sampleMixedRequest.quotes projection.positions projectedNav).getD "QQQ" 0 ≤
        sampleMixedRequest.config.maxSingleSymbolWeight ∧
      sampleMixedRequest.rejectionReasons planned projection projectedNav =
        ["SINGLE_SYMBOL_LIMIT:NVDA"]) = true := by
  decide +kernel

/-- Without costs the plan loses nothing, and `NVDA` stays above its limit. -/
theorem sampleFree_grandfathers : ∃ planned projection projectedNav,
    sampleFreeRequest.projectPlan = .ok (planned, projection, projectedNav) ∧
    planned.map (fun order => (order.symbol, order.side)) = [("SOXL", .sell), ("QQQ", .buy)] ∧
    sampleFreeRequest.Grandfathered planned ⟨["NVDA"], nodup_singleton "NVDA"⟩
      sampleFreeRequest.config.maxSingleSymbolWeight "SINGLE_SYMBOL_LIMIT:NVDA" ∧
    ∀ symbols cap reason, sampleFreeRequest.Grandfathered planned symbols cap reason →
      reason ∉ sampleFreeRequest.rejectionReasons planned projection projectedNav := by
  have hplan : sampleFreeRequest.projectPlan.toOption.any (fun (planned, _, projectedNav) =>
      planned.map (fun order => (order.symbol, order.side)) = [("SOXL", .sell), ("QQQ", .buy)] ∧
      projectedNav = sampleFreeRequest.nav) = true := by decide +kernel
  obtain ⟨⟨planned, projection, projectedNav⟩, hok, hfacts⟩ := exists_of_any hplan
  obtain ⟨hplanned, hnav⟩ := of_decide_eq_true hfacts
  have hproject := hok
  simp only [ForwardPlanRequest.projectPlan, ok_iff] at hproject
  obtain ⟨buys, -, projected, hprojected, heq⟩ := hproject
  cases heq
  have hmem {order : PlannedOrder} (horder : order ∈ sampleFreeRequest.plannedSells ++ buys) :
      (order.symbol, order.side) ∈ [("SOXL", OrderSide.sell), ("QQQ", .buy)] :=
    hplanned ▸ mem_map_of_mem horder
  have hmixed : ∃ order ∈ sampleFreeRequest.plannedSells ++ buys, order.side = .buy := by
    obtain ⟨order, horder, heq⟩ := mem_map.mp (hplanned ▸ by simp : ("QQQ", OrderSide.buy) ∈
      (sampleFreeRequest.plannedSells ++ buys).map fun order => (order.symbol, order.side))
    exact ⟨order, horder, (Prod.mk.inj heq).2⟩
  have hsingle : sampleFreeRequest.WeightLimit ⟨["NVDA"], nodup_singleton "NVDA"⟩
      sampleFreeRequest.config.maxSingleSymbolWeight "SINGLE_SYMBOL_LIMIT:NVDA" :=
    .single "NVDA" (by decide +kernel) (by decide +kernel)
  refine ⟨_, projection, projectedNav, hok, hplanned, ⟨hsingle, by decide +kernel, ?_⟩, ?_⟩
  · intro order horder hsymbol
    have hsame : order.symbol = "NVDA" := mem_singleton.mp hsymbol
    simpa [hsame] using hmem horder
  · refine (mixed_plan_grandfathers_iff sampleFreeRequest _ hmixed (by decide +kernel)
      hprojected).mpr ?_
    intro symbols cap reason _
    rw [hnav, sub_self, mul_zero]
    have hpos : 0 ≤ sampleFreeRequest.nav ∧ 0 ≤ weightEpsilon := by decide +kernel
    exact mul_nonneg (mul_nonneg hpos.2 hpos.1) hpos.1

def sampleRebateRequest : ForwardPlanRequest :=
  limitsRequest { shippedRiskConfig with commissionRate := -1 } 0 0

/-- The plan only sells, and is refused: a negative cost takes from the weight that is allowed. -/
theorem sampleRebate_refused : sampleRebateRequest.projectPlan.toOption.any
    (fun (planned, projection, projectedNav) =>
      planned.map (fun order => (order.symbol, order.side)) = [("SOXL", .sell)] ∧
      1 ≤ sampleRebateRequest.config.maxGrossExposure ∧ 0 ≤ sampleRebateRequest.state.cashUsd ∧
      (∀ entry ∈ sampleRebateRequest.state.positions.entries, 0 ≤ entry.2) ∧
      (∀ quote ∈ sampleRebateRequest.quotes.values,
        0 < quote.bidPrice ∧ quote.bidPrice ≤ quote.askPrice) ∧
      sampleRebateRequest.rejectionReasons planned projection projectedNav ≠ []) = true := by
  decide +kernel

def sampleSellsRequest : ForwardPlanRequest := limitsRequest shippedRiskConfig 0 0

theorem sampleSells_approved : sampleSellsRequest.plannedSells ≠ [] ∧
    ∃ plan, buildForwardOrderPlan .json sampleSellsRequest = .ok plan ∧
      plan.riskDecision.val.approved = true := by
  have hplan : (buildForwardOrderPlan .json sampleSellsRequest).toOption.any (fun _ => true) =
    true := by
    decide +kernel
  have hquotes : ∀ quote ∈ sampleSellsRequest.quotes.values,
      0 < quote.bidPrice ∧ quote.bidPrice ≤ quote.askPrice := by decide +kernel
  have hnone : sampleSellsRequest.plannedBuys = .ok [] := by decide +kernel
  have hpositions : ∀ symbol, 0 ≤ sampleSellsRequest.state.quantity symbol := by
    intro symbol
    have hall : ∀ entry ∈ sampleSellsRequest.state.positions.entries, 0 ≤ entry.2 := by
      decide +kernel
    unfold ArmState.quantity Dict.getD
    cases hget : sampleSellsRequest.state.positions.get? symbol with
    | none => exact le_rfl
    | some quantity => exact hall (symbol, quantity) (Dict.get?_eq_some.mp hget)
  obtain ⟨plan, hok, -⟩ := exists_of_any hplan
  exact ⟨by decide +kernel, plan, hok, (sell_only_plan_approved .json sampleSellsRequest
    (by decide +kernel) hpositions
    (fun quote hquote => ⟨(hquotes quote hquote).1, (hquotes quote hquote).2⟩) (by decide +kernel)
    hnone (by decide +kernel) (by unfold ForwardPlanRequest.FeesNonneg; decide +kernel)).2 plan hok⟩

end Sample

end AdaptiveQuant
