import AdaptiveQuant.Research.ShadowGuards
import Mathlib.Data.List.Dedup

/-! The value of a book during a cycle. -/

namespace AdaptiveQuant.Shadow.ArmCycle

open Guard Ledger Sequence List

variable {hash : Hashing} {c : ArmCycle hash}

def signedCost (fill : FillFields) (midpoint : Decimal) : Decimal :=
  slippage fill midpoint + fill.commissionUsd

theorem signedCost_le_baseCost (fill : FillFields) (midpoint : Decimal) :
    signedCost fill midpoint ≤ baseCost fill midpoint :=
  add_le_add (le_max_left _ _) le_rfl

theorem signedCost_eq_baseCost {fill : FillFields} {midpoint : Decimal}
    (h : 0 ≤ slippage fill midpoint) : signedCost fill midpoint = baseCost fill midpoint := by
  rw [signedCost, baseCost, max_eq_left h]

theorem marketValue_set (positions : Dict String Decimal) (price : String → Decimal)
    (symbol : String) (quantity : Decimal) : marketValue (positions.set symbol quantity) price =
      marketValue positions price + (quantity - positions.getD symbol 0) * price symbol := by
  rw [marketValue, Dict.sum_entries_set, marketValue, Dict.getD]
  cases positions.get? symbol with
  | none =>
    simp only [Option.map_none, Option.getD_none]
    ring
  | some held =>
    simp only [Option.map_some, Option.getD_some]
    ring

theorem marketValue_filter_ne (positions : Dict String Decimal) (price : String → Decimal)
    (symbol : String) : marketValue (positions.filter fun other _ => other ≠ symbol) price =
      marketValue positions price - positions.getD symbol 0 * price symbol := by
  rw [marketValue, Dict.sum_entries_filter_ne, marketValue, Dict.getD]
  cases positions.get? symbol with
  | none => simp only [Option.map_none, Option.getD_none, zero_mul]
  | some held => simp only [Option.map_some, Option.getD_some]

section Settle

variable {cash cash' : Decimal} {positions positions' : Dict String Decimal} {fill : FillFields}

section

variable (h : settle cash positions fill = .ok (cash', positions'))

include h

theorem settle_cases :
    (fill.side = .buy ∧ cash' = cash - (fill.notional + fill.commissionUsd) ∧
      positions' = positions.set fill.symbol (positions.getD fill.symbol 0 + fill.quantity)) ∨
    (fill.side = .sell ∧ cash' = cash + (fill.notional - fill.commissionUsd) ∧
      fill.quantity ≤ positions.getD fill.symbol 0 ∧
      positions' = if positions.getD fill.symbol 0 - fill.quantity = 0 then
          positions.filter fun symbol _ => symbol ≠ fill.symbol
        else positions.set fill.symbol (positions.getD fill.symbol 0 - fill.quantity)) := by
  unfold settle at h
  cases hside : fill.side with
  | buy =>
    simp only [hside, pure_eq_ok, Prod.mk.injEq] at h
    exact .inl ⟨rfl, h.1.symm, h.2.symm⟩
  | sell =>
    simp only [hside, ok_iff, Prod.mk.injEq, not_lt, sub_nonneg] at h
    exact .inr ⟨rfl, h.2.1.symm, h.1, h.2.2.symm⟩

theorem settle_value (price : String → Decimal) : cash' + marketValue positions' price +
      signedCost fill (price fill.symbol) = cash + marketValue positions price := by
  rcases settle_cases h with ⟨hside, rfl, rfl⟩ | ⟨hside, rfl, -, rfl⟩
  · rw [marketValue_set]
    simp only [signedCost, slippage, hside, FillFields.notional]
    ring
  · simp only [signedCost, slippage, hside, FillFields.notional]
    split
    · rename_i hzero
      rw [marketValue_filter_ne, sub_eq_zero.mp hzero]
      ring
    · rw [marketValue_set]
      ring

theorem settle_get? {symbol : String}
    (hne : symbol ≠ fill.symbol) : positions'.get? symbol = positions.get? symbol := by
  rcases settle_cases h with ⟨-, -, rfl⟩ | ⟨-, -, -, rfl⟩
  · rw [Dict.get?_set, if_neg hne]
  · split
    · rw [Dict.get?_filter]
      cases positions.get? symbol with
      | none => rfl
      | some held => simp [Option.filter, hne]
    · rw [Dict.get?_set, if_neg hne]

end

theorem settle_positions {quantum : Decimal} (hpos : 0 < fill.quantity)
    (hfill : fill.quantity ∈ AddSubgroup.zmultiples quantum)
    (before : ∀ symbol held, positions.get? symbol = some held →
      0 < held ∧ held ∈ AddSubgroup.zmultiples quantum)
    (h : settle cash positions fill = .ok (cash', positions')) {symbol : String} {held : Decimal}
    (hget : positions'.get? symbol = some held) :
    0 < held ∧ held ∈ AddSubgroup.zmultiples quantum := by
  by_cases hsymbol : symbol = fill.symbol
  · have hheld : 0 ≤ positions.getD fill.symbol 0 ∧
        positions.getD fill.symbol 0 ∈ AddSubgroup.zmultiples quantum := by
      rw [Dict.getD]
      cases hget : positions.get? fill.symbol with
      | none => exact ⟨le_rfl, AddSubgroup.zero_mem _⟩
      | some old => exact ⟨(before _ old hget).1.le, (before _ old hget).2⟩
    rcases settle_cases h with ⟨-, -, rfl⟩ | ⟨-, -, hle, rfl⟩
    · rw [Dict.get?_set, if_pos hsymbol, Option.some.injEq] at hget
      rw [← hget]
      exact ⟨add_pos_of_nonneg_of_pos hheld.1 hpos, AddSubgroup.add_mem _ hheld.2 hfill⟩
    · split at hget
      · rw [Dict.get?_filter_eq_some] at hget
        simp [hsymbol] at hget
      · rename_i hresidual
        rw [Dict.get?_set, if_pos hsymbol, Option.some.injEq] at hget
        rw [← hget]
        exact ⟨lt_of_le_of_ne (sub_nonneg.mpr hle) (Ne.symm hresidual),
          AddSubgroup.sub_mem _ hheld.2 hfill⟩
  · rw [settle_get? h hsymbol] at hget
    exact before symbol held hget

end Settle

structure Filled (c : ArmCycle hash) (book book' : Book) (order : PlannedOrder) (quote : Quote)
    (fill : Fill) : Prop where
  symbol : fill.val.symbol = order.symbol
  side : fill.val.side = order.side
  quantity : fillableQuantity order.quantity order.side quote.val book.cash c.parameters =
    .ok fill.val.quantity
  settled : settle book.cash book.positions fill.val = .ok (book'.cash, book'.positions)
  fills : book'.fills = book.fills ++ [fill]
  costs : book'.fillCosts = book.fillCosts ++ [fillCost fill quote.val.midpoint c.parameters]

variable {book book' : Book}

theorem Filled.quantity_pos {order} {quote : Quote} {fill : Fill}
    (_ : Filled c book book' order quote fill) : 0 < fill.val.quantity :=
  (FillFields.check_eq_ok.mp fill.valid).1

theorem executeOrder_cases {order} (h : c.executeOrder book order = .ok book') :
    ∃ quote, c.quotes.get? order.symbol = some quote ∧
      ((book'.cash = book.cash ∧ book'.positions = book.positions ∧ book'.fills = book.fills ∧
        book'.fillCosts = book.fillCosts) ∨ ∃ fill, Filled c book book' order quote fill) := by
  unfold executeOrder at h
  cases hquote : c.quotes.get? order.symbol with
  | none =>
    rw [hquote] at h
    cases h
  | some quote =>
    refine ⟨quote, rfl, ?_⟩
    simp only [hquote, bind_eq_ok] at h
    obtain ⟨intent, hintent, quantity, hquantity, h⟩ := h
    obtain ⟨hside, hsymbol, -⟩ := buildOrderIntent_eq_ok hintent
    split at h
    · rw [pure_eq_ok] at h
      subst h
      exact .inl ⟨rfl, rfl, rfl, rfl⟩
    · simp only [fillOrder, ok_iff, validate_eq_ok] at h
      obtain ⟨-, -, fill, hfill, u, -, ⟨cash, positions⟩, hsettle, rfl⟩ := h
      refine .inr ⟨fill, ?_⟩
      have hquantity' : fill.val.quantity = quantity := by rw [hfill]; rfl
      exact ⟨by rw [hfill]; exact hsymbol, by rw [hfill]; exact hside,
        by rw [hquantity']; exact hquantity,
        hsettle, rfl, rfl⟩

theorem mem_planned {order} :
    order ∈ c.planned ↔ ∃ symbol ∈ c.riskySymbols, c.plannedOrder symbol = some order := by
  rw [planned, mem_sortedBy, mem_filterMap]

theorem plannedOrder_symbol {symbol : String} {order} (h : c.plannedOrder symbol = some order) :
    order.symbol = symbol := by
  simp only [plannedOrder] at h
  split at h
  · cases h
  · split at h
    · cases h
    · rw [← Option.some.inj h]

theorem planned_symbols_nodup : (c.planned.map (·.symbol)).Nodup := by
  have hsub : ∀ symbols : List String,
      ((symbols.filterMap c.plannedOrder).map (·.symbol)).Sublist symbols := by
    intro symbols
    induction symbols with
    | nil => exact List.Sublist.slnil
    | cons symbol rest ih =>
      rw [filterMap_cons]
      cases horder : c.plannedOrder symbol with
      | none => exact ih.cons symbol
      | some order =>
        rw [map_cons, plannedOrder_symbol horder]
        exact ih.cons_cons symbol
  have hrisky : c.riskySymbols.Nodup := (sortedBy_perm _ _).nodup_iff.mpr (nodup_dedup _)
  exact ((sortedBy_perm _ _).map _).nodup_iff.mpr (hrisky.sublist (hsub c.riskySymbols))

theorem midpoint_pos_of_quote {symbol : String} {quote : Quote}
    (h : c.quotes.get? symbol = some quote) : 0 < c.midpoint symbol := by
  rw [midpoint, h]
  exact midpoint_pos quote

theorem desiredQuantity_nonneg (quotes : c.checkQuotes = .ok ()) (nav : 0 < c.decisionNav)
    {symbol : String} (risky : symbol ∈ c.riskySymbols) : 0 ≤ c.desiredQuantity symbol := by
  obtain ⟨quote, hquote, -⟩ := checkQuotes_eq_ok.mp quotes symbol risky
  unfold desiredQuantity
  cases (weightMap c.target).get? symbol with
  | none => exact le_rfl
  | some weight =>
    dsimp only
    split
    · rename_i hweight
      exact roundDown_nonneg c.parameters.quantityQuantum_pos
        (div_nonneg (mul_nonneg nav.le hweight.2.le) (midpoint_pos_of_quote hquote).le)
    · exact le_rfl

theorem plannedOrder_sell_le (quotes : c.checkQuotes = .ok ()) (nav : 0 < c.decisionNav) {order}
    (h : order ∈ c.planned) (hside : order.side = .sell) :
    order.quantity ≤ (positionMap c.state).getD order.symbol 0 := by
  obtain ⟨symbol, hrisky, horder⟩ := mem_planned.mp h
  have hdesired := desiredQuantity_nonneg quotes nav hrisky
  rw [plannedOrder_symbol horder]
  simp only [plannedOrder] at horder
  split at horder
  · cases horder
  · split at horder
    · cases horder
    · rw [← Option.some.inj horder] at hside ⊢
      dsimp only at hside ⊢
      split at hside
      · cases hside
      · rename_i hle
        rw [abs_of_nonpos (not_lt.mp hle)]
        linarith

/-- What the loop keeps: symbols whose orders have not come up, and the value that is left with the
signed costs of the fills. -/
structure BookInv (c : ArmCycle hash) (done : List PlannedOrder) (book : Book) : Prop where
  untouched : ∀ symbol ∉ done.map (·.symbol),
    book.positions.get? symbol = (positionMap c.state).get? symbol
  value : book.cash + marketValue book.positions c.midpoint +
    (book.fills.map fun fill => signedCost fill.val (c.midpoint fill.val.symbol)).sum =
      c.decisionNav
  costs : book.fillCosts =
    book.fills.map fun fill => fillCost fill (c.midpoint fill.val.symbol) c.parameters

theorem openingBook_inv : BookInv c [] c.openingBook :=
  ⟨fun _ _ => rfl, add_zero _, rfl⟩

theorem executeOrder_inv {done order} (inv : BookInv c done book)
    (h : c.executeOrder book order = .ok book') :
    BookInv c (done ++ [order]) book' := by
  have hother : ∀ symbol ∉ (done ++ [order]).map (·.symbol),
      symbol ∉ done.map (·.symbol) ∧ symbol ≠ order.symbol := by
    intro symbol hsymbol
    simpa using hsymbol
  obtain ⟨quote, hquote, ⟨hcash, hpositions, hfills, hcosts⟩ | ⟨fill, filled⟩⟩ :=
    executeOrder_cases h
  · refine ⟨fun symbol hsymbol => ?_, ?_, ?_⟩
    · rw [hpositions, inv.untouched symbol (hother symbol hsymbol).1]
    · rw [hcash, hpositions, hfills, inv.value]
    · rw [hcosts, hfills, inv.costs]
  · have hmid : c.midpoint fill.val.symbol = quote.val.midpoint := by
      rw [filled.symbol, midpoint, hquote, Option.elim_some]
    refine ⟨fun symbol hsymbol => ?_, ?_, ?_⟩
    · obtain ⟨hdone, hne⟩ := hother symbol hsymbol
      rw [settle_get? filled.settled (by rw [filled.symbol]; exact hne), inv.untouched symbol hdone]
    · have hvalue := settle_value filled.settled c.midpoint
      have hbefore := inv.value
      rw [filled.fills, map_append, sum_append, map_singleton, sum_singleton]
      linarith
    · rw [filled.costs, filled.fills, map_append, map_singleton, hmid, inv.costs]

theorem executeOrders_inv {book : Book} (h : c.executeOrders = .ok book) :
    BookInv c c.planned book :=
  foldlM_induction h (BookInv c) openingBook_inv fun _ _ _ _ => executeOrder_inv

def Quantized (c : ArmCycle hash) (positions : Dict String Decimal) : Prop :=
  ∀ symbol held, positions.get? symbol = some held →
    0 < held ∧ held ∈ AddSubgroup.zmultiples c.parameters.quantityQuantum

theorem executeOrders_quantized {book : Book} (start : Quantized c (positionMap c.state))
    (h : c.executeOrders = .ok book) : Quantized c book.positions := by
  refine foldlM_induction h (fun _ book => Quantized c book.positions) start ?_
  intro _ order book book' before hstep
  obtain ⟨quote, hquote, ⟨-, hpositions, -⟩ | ⟨fill, filled⟩⟩ := executeOrder_cases hstep
  · rw [hpositions]
    exact before
  · intro symbol held hget
    exact settle_positions filled.quantity_pos (fillableQuantity_mem filled.quantity) before
      filled.settled hget

theorem execute_never_short {e : Failure} (he : e = shortSell ∨ e = shortFill) :
    Avoids e c.execute := by
  have guards : e ∈ bookGuards := by rcases he with rfl | rfl <;> decide
  have hcash : e ≠ negativeCash := by rcases he with rfl | rfl <;> decide
  refine execute_avoids guards c fun hquotes hnav => ?_
  refine avoids_foldlM_of_inv (BookInv c) openingBook_inv (fun _ _ _ _ => executeOrder_inv) ?_
  intro done order rest book hsplit inv
  refine executeOrder_avoids guards c fun intent quote quantity _ hintent hquantity hpos => ?_
  refine ⟨fun heq => absurd heq hcash, fun _ hside => ?_⟩
  obtain ⟨hintentSide, hsymbol, -⟩ := buildOrderIntent_eq_ok hintent
  -- the symbol has not been traded yet, so the book still holds what the state held
  have hfresh : order.symbol ∉ done.map (·.symbol) := by
    have hnodup := planned_symbols_nodup (c := c)
    rw [hsplit, map_append, map_cons, nodup_append] at hnodup
    exact fun hmem => hnodup.2.2 _ hmem _ mem_cons_self rfl
  have hmem : order ∈ c.planned := hsplit ▸ mem_append_right _ mem_cons_self
  calc quantity ≤ order.quantity := fillableQuantity_le hquantity hpos
    _ ≤ (positionMap c.state).getD order.symbol 0 :=
      plannedOrder_sell_le hquotes hnav hmem (hintentSide ▸ hside)
    _ = book.positions.getD intent.val.symbol 0 := by
      rw [hsymbol, Dict.getD, Dict.getD, inv.untouched _ hfresh]

structure Closed (c : ArmCycle hash) (book : Book) (r : ArmCycleResult hash) : Prop where
  role : r.role = c.target.val.role
  target : r.target = c.target
  fills : r.fills = book.fills
  fillCosts : r.fillCosts = book.fillCosts
  armId : r.nav.armId = c.target.val.armId
  next : ∃ stateHash, r.nextState.val = { nextStateFields c.state.val book.cash book.positions
    r.nav.navUsd book.totals c.bundle.val.asOf c.sourceCycleHash with stateHash := stateHash }
  daily : r.dailySummary.val =
    c.dailySummary r.nav book.totals (c.exposures book.positions r.nav.navUsd)

theorem close_eq_ok {book : Book} {r} (h : c.close book = .ok r) :
    Closed c book r := by
  simp only [close, ok_iff, validate_eq_ok] at h
  obtain ⟨-, -, -, nav, hnav, state, hstate, -, daily, hdaily, rfl⟩ := h
  rw [sealState, validate_eq_ok] at hstate
  have harm : nav.armId = c.target.val.armId := by
    simp only [calculateNav, ok_iff] at hnav
    obtain ⟨-, -, -, -, rfl⟩ := hnav
    rfl
  exact ⟨rfl, rfl, rfl, rfl, harm, ⟨_, hstate⟩, hdaily⟩

theorem execute_eq_ok {r} (h : c.execute = .ok r) :
    c.checkQuotes = .ok () ∧ 0 < c.decisionNav ∧
      ∃ book, c.executeOrders = .ok book ∧ Closed c book r := by
  simp only [ArmCycle.execute, ok_iff, not_le] at h
  obtain ⟨u, hquotes, hnav, book, hbook, hclose⟩ := h
  exact ⟨hquotes, hnav, book, hbook, close_eq_ok hclose⟩

theorem positionRecords_items {positions}
    (pos : ∀ symbol held, positions.get? symbol = some held → 0 < held) :
    (positionRecords positions).map (fun p => (p.instrumentId, p.quantity)) =
      positions.sortedItems := by
  have hitems : ∀ items : List (String × Decimal), (∀ item ∈ items, 0 < item.2) →
      (items.filterMap fun item =>
        if h : 0 < item.2 then some (⟨item.1, item.2, h⟩ : Position) else none).map
          (fun p => (p.instrumentId, p.quantity)) = items := by
    intro items hall
    induction items with
    | nil => rfl
    | cons item rest ih =>
      rw [forall_mem_cons] at hall
      rw [filterMap_cons, dif_pos hall.1, map_cons, ih hall.2]
  refine hitems _ fun item hitem => pos item.1 item.2 (Dict.get?_eq_some.mpr ?_)
  exact (mem_sortedBy _).mp hitem

end AdaptiveQuant.Shadow.ArmCycle

namespace AdaptiveQuant.Shadow

open Guard Ledger Sequence ArmCycle List

variable {hash : Hashing}

def stateValue (state : ArmState hash) (price : String → Decimal) : Decimal :=
  state.val.cashUsd + marketValue (positionMap state) price

def OnQuantum (quantum : Decimal) (state : ArmState hash) : Prop :=
  ∀ p ∈ state.val.positions, p.quantity ∈ AddSubgroup.zmultiples quantum

def recordedCost (r : ArmCycleResult hash) : Decimal :=
  (r.fillCosts.map (·.baseExecutionCostUsd)).sum

def Improved (c : ArmCycle hash) (fill : Fill) : Prop :=
  slippage fill.val (c.midpoint fill.val.symbol) < 0

section Cycle

variable {c : ArmCycle hash} {r : ArmCycleResult hash}

theorem positionMap_get? {state : ArmState hash} {symbol : String} {held : Decimal} :
    (positionMap state).get? symbol = some held ↔
      ∃ p ∈ state.val.positions, p.instrumentId = symbol ∧ p.quantity = held := by
  rw [Dict.get?_eq_some]
  simp only [positionMap, mem_map, Prod.mk.injEq]

theorem quantized_of_onQuantum (start : OnQuantum c.parameters.quantityQuantum c.state) :
    Quantized c (positionMap c.state) := by
  intro symbol held hget
  obtain ⟨p, hp, -, rfl⟩ := positionMap_get?.mp hget
  exact ⟨p.pos, start p hp⟩

theorem ArmCycle.Closed.items {book : Book} (closed : Closed c book r)
    (pos : ∀ symbol held, book.positions.get? symbol = some held → 0 < held) :
    (positionMap r.nextState).entries = book.positions.sortedItems := by
  obtain ⟨stateHash, hnext⟩ := closed.next
  show r.nextState.val.positions.map (fun p => (p.instrumentId, p.quantity)) = _
  rw [hnext]
  exact positionRecords_items pos

theorem execute_onQuantum (start : OnQuantum c.parameters.quantityQuantum c.state)
    (h : c.execute = .ok r) : OnQuantum c.parameters.quantityQuantum r.nextState := by
  obtain ⟨-, -, book, hbook, closed⟩ := execute_eq_ok h
  have hquantized := executeOrders_quantized (quantized_of_onQuantum start) hbook
  intro p hp
  have hitem : (p.instrumentId, p.quantity) ∈ (positionMap r.nextState).entries :=
    mem_map_of_mem hp
  rw [closed.items fun symbol held hget => (hquantized symbol held hget).1] at hitem
  exact (hquantized _ _ (Dict.get?_eq_some.mpr ((mem_sortedBy _).mp hitem))).2

theorem execute_value (start : OnQuantum c.parameters.quantityQuantum c.state)
    (h : c.execute = .ok r) : stateValue c.state c.midpoint = stateValue r.nextState c.midpoint +
      (r.fills.map fun fill => signedCost fill.val (c.midpoint fill.val.symbol)).sum := by
  obtain ⟨-, -, book, hbook, closed⟩ := execute_eq_ok h
  have hquantized := executeOrders_quantized (quantized_of_onQuantum start) hbook
  have hitems := closed.items fun symbol held hget => (hquantized symbol held hget).1
  obtain ⟨stateHash, hnext⟩ := closed.next
  have hcash : r.nextState.val.cashUsd = book.cash := by rw [hnext]; rfl
  have hmarket : marketValue (positionMap r.nextState) c.midpoint =
      marketValue book.positions c.midpoint := by
    rw [marketValue, hitems]
    exact ((sortedBy_perm _ _).map _).sum_eq
  have hvalue := (executeOrders_inv hbook).value
  rw [← closed.fills] at hvalue
  have hafter : stateValue r.nextState c.midpoint =
      book.cash + marketValue book.positions c.midpoint := by rw [stateValue, hcash, hmarket]
  rw [hafter, hvalue]
  rfl

theorem execute_recordedCost (h : c.execute = .ok r) : recordedCost r =
    (r.fills.map fun fill => baseCost fill.val (c.midpoint fill.val.symbol)).sum := by
  obtain ⟨-, -, book, hbook, closed⟩ := execute_eq_ok h
  rw [recordedCost, closed.fillCosts, (executeOrders_inv hbook).costs, closed.fills, map_map]
  rfl

theorem execute_value_le (start : OnQuantum c.parameters.quantityQuantum c.state)
    (h : c.execute = .ok r) :
    stateValue c.state c.midpoint - stateValue r.nextState c.midpoint ≤ recordedCost r := by
  rw [execute_value start h, add_sub_cancel_left, execute_recordedCost h]
  exact sum_le_sum fun fill _ => signedCost_le_baseCost _ _

theorem execute_value_eq (start : OnQuantum c.parameters.quantityQuantum c.state)
    (h : c.execute = .ok r) (plain : ∀ fill ∈ r.fills, ¬Improved c fill) :
    stateValue c.state c.midpoint - stateValue r.nextState c.midpoint = recordedCost r := by
  rw [execute_value start h, add_sub_cancel_left, execute_recordedCost h]
  refine congrArg List.sum (map_congr_left fun fill hfill => ?_)
  exact signedCost_eq_baseCost (not_lt.mp (plain fill hfill))

end Cycle

end AdaptiveQuant.Shadow
