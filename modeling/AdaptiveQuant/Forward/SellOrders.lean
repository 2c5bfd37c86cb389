import AdaptiveQuant.Forward.Assessment

/-! The sells of a plan. -/

namespace AdaptiveQuant

open Guard Sequence List

section Loop

variable {config : ForwardRiskConfig} {quotes : QuoteBundle} {remaining : Decimal}
  {candidates : List SellCandidate}

structure SellsFrom (config : ForwardRiskConfig) (quotes : QuoteBundle) (c : SellCandidate)
    (order : PlannedOrder) : Prop where
  symbol : order.symbol = c.symbol
  side : order.side = .sell
  quantity : ∃ remaining, order.quantity = sellQuantity config quotes remaining c
  pos : 0 < order.quantity
  notional : config.minOrderNotionalUsd ≤ order.quantity * (quoteOf quotes c.symbol).bidPrice

variable {c : SellCandidate}

theorem SellsFrom.le_maximum {order} (h : SellsFrom config quotes c order) :
    order.quantity ≤ c.maximumQuantity := by
  obtain ⟨remaining, hquantity⟩ := h.quantity
  rw [hquantity]
  exact min_le_left _ _

theorem sellLoop_sellsFrom : ∀ order ∈ sellLoop config quotes remaining candidates,
    ∃ c ∈ candidates, SellsFrom config quotes c order := by
  induction candidates generalizing remaining with
  | nil => simp [sellLoop]
  | cons c rest ih =>
    intro order horder
    unfold sellLoop at horder
    split at horder
    · cases horder
    · dsimp only at horder
      split at horder
      · obtain ⟨c', hc', hsells⟩ := ih order horder
        exact ⟨c', mem_cons_of_mem c hc', hsells⟩
      · rename_i hlarge
        rw [not_or, not_le, not_lt] at hlarge
        rcases mem_cons.mp horder with rfl | horder
        · exact ⟨c, mem_cons_self, rfl, rfl, ⟨remaining, rfl⟩, hlarge.1, hlarge.2⟩
        · obtain ⟨c', hc', hsells⟩ := ih order horder
          exact ⟨c', mem_cons_of_mem c hc', hsells⟩

theorem sellLoop_symbols : ((sellLoop config quotes remaining candidates).map (·.symbol)).Sublist
    (candidates.map (·.symbol)) := by
  induction candidates generalizing remaining with
  | nil => simp [sellLoop]
  | cons c rest ih =>
    unfold sellLoop
    split
    · exact nil_sublist _
    · dsimp only
      split
      · exact ih.trans (sublist_cons_self _ _)
      · exact ih.cons_cons _

def SellCandidate.residual (quotes : QuoteBundle) (c : SellCandidate) : Decimal :=
  c.maximumQuantity * (quoteOf quotes c.symbol).bidPrice

structure SellCandidate.Forced (quotes : QuoteBundle) (c : SellCandidate) : Prop where
  surplus : -c.negativeSurplus = c.residual quotes
  maximum_pos : 0 < c.maximumQuantity
  bid_pos : 0 < (quoteOf quotes c.symbol).bidPrice

theorem SellCandidate.Forced.residual_pos (h : c.Forced quotes) :
    0 < c.residual quotes := mul_pos h.maximum_pos h.bid_pos

theorem sellQuantity_forced (h : c.Forced quotes) (budget : c.residual quotes ≤ remaining) :
    sellQuantity config quotes remaining c =
      floorQuantity c.maximumQuantity config.quantityPrecision := by
  have hdiv : c.residual quotes / (quoteOf quotes c.symbol).bidPrice = c.maximumQuantity :=
    mul_div_cancel_right₀ _ h.bid_pos.ne'
  rw [sellQuantity, h.surplus, min_eq_left budget, hdiv]
  exact min_eq_right (quantizeDown_le h.maximum_pos.le)

theorem SellsFrom.le_floor {order : PlannedOrder}
    (h : SellsFrom config quotes c order) (forced : c.Forced quotes) :
    order.quantity ≤ floorQuantity c.maximumQuantity config.quantityPrecision := by
  obtain ⟨remaining, hquantity⟩ := h.quantity
  have hle : min (-c.negativeSurplus) remaining / (quoteOf quotes c.symbol).bidPrice ≤
      c.maximumQuantity := by
    rw [div_le_iff₀ forced.bid_pos]
    exact (min_le_left _ _).trans forced.surplus.le
  rcases le_or_gt 0 (min (-c.negativeSurplus) remaining / (quoteOf quotes c.symbol).bidPrice) with
    hnonneg | hneg
  · rw [hquantity]
    exact (min_le_right _ _).trans (quantizeDown_mono hnonneg hle)
  · have hpos := h.pos
    rw [hquantity] at hpos
    exact absurd (hpos.trans_le (min_le_right _ _)) (not_lt.mpr (quantizeDown_nonpos hneg))

def CoversForced (quotes : QuoteBundle) (candidates : List SellCandidate) (remaining : Decimal) :
    Prop :=
  ((candidates.filter (·.group = 0)).map (·.residual quotes)).sum ≤ remaining

theorem CoversForced.mono {more : Decimal} (h : CoversForced quotes candidates remaining)
    (le : remaining ≤ more) : CoversForced quotes candidates more := le_trans h le

theorem coversForced_cons {first} (group : first.group = 0) :
    CoversForced quotes (first :: candidates) remaining ↔
      CoversForced quotes candidates (remaining - first.residual quotes) := by
  unfold CoversForced
  rw [filter_cons_of_pos (by simp [group]), map_cons, sum_cons, le_sub_iff_add_le']

theorem CoversForced.residual_le (h : CoversForced quotes candidates remaining)
    (forced : ∀ c ∈ candidates, c.group = 0 → c.Forced quotes) (mem : c ∈ candidates)
    (group : c.group = 0) : c.residual quotes ≤ remaining := by
  have hmem : c.residual quotes ∈ (candidates.filter (·.group = 0)).map (·.residual quotes) :=
    mem_map_of_mem (mem_filter.mpr ⟨mem, decide_eq_true group⟩)
  refine le_trans (single_le_sum (fun x hx => ?_) _ hmem) h
  obtain ⟨c', hc', rfl⟩ := mem_map.mp hx
  obtain ⟨hcandidate, hgroup⟩ := mem_filter.mp hc'
  exact (forced c' hcandidate (of_decide_eq_true hgroup)).residual_pos.le

/-- The candidate is worth an order after its quantity is rounded down. -/
structure SellCandidate.Sellable (config : ForwardRiskConfig) (quotes : QuoteBundle)
    (c : SellCandidate) : Prop where
  pos : 0 < floorQuantity c.maximumQuantity config.quantityPrecision
  notional : config.minOrderNotionalUsd ≤
    floorQuantity c.maximumQuantity config.quantityPrecision * (quoteOf quotes c.symbol).bidPrice

theorem SellCandidate.Sellable.min_le (h : c.Sellable config quotes)
    (forced : c.Forced quotes) : config.minOrderNotionalUsd ≤ c.residual quotes :=
  h.notional.trans (mul_le_mul_of_nonneg_right (quantizeDown_le forced.maximum_pos.le)
    forced.bid_pos.le)

theorem sellLoop_forced (sorted : candidates.Pairwise fun a b => a.group ≤ b.group)
    (forced : ∀ c ∈ candidates, c.group = 0 → c.Forced quotes)
    (budget : CoversForced quotes candidates remaining) (mem : c ∈ candidates)
    (group : c.group = 0) (sellable : c.Sellable config quotes) :
    ∃ order ∈ sellLoop config quotes remaining candidates, order.symbol = c.symbol ∧
      order.quantity = floorQuantity c.maximumQuantity config.quantityPrecision := by
  induction candidates generalizing remaining with
  | nil => cases mem
  | cons first rest ih =>
    rw [pairwise_cons] at sorted
    -- a forced candidate only follows forced candidates
    have hfirst : first.group = 0 := by
      rcases mem_cons.mp mem with rfl | hmem
      · exact group
      · exact Nat.le_zero.mp (group ▸ sorted.1 c hmem)
    have hforced := forced first mem_cons_self hfirst
    have hquantity : sellQuantity config quotes remaining first =
        floorQuantity first.maximumQuantity config.quantityPrecision :=
      sellQuantity_forced hforced (budget.residual_le forced mem_cons_self hfirst)
    have hspent : sellQuantity config quotes remaining first *
        (quoteOf quotes first.symbol).bidPrice ≤ first.residual quotes :=
      mul_le_mul_of_nonneg_right (min_le_left _ _) hforced.bid_pos.le
    have hmin : config.minOrderNotionalUsd ≤ remaining :=
      (sellable.min_le (forced c mem group)).trans (budget.residual_le forced mem group)
    have hrest := (coversForced_cons hfirst).mp budget
    have hforcedRest : ∀ c ∈ rest, c.group = 0 → c.Forced quotes :=
      fun c' hc' => forced c' (mem_cons_of_mem first hc')
    unfold sellLoop
    rw [if_neg (not_lt.mpr hmin)]
    dsimp only
    split
    · rename_i hsmall
      rcases mem_cons.mp mem with rfl | hmem
      · rw [hquantity] at hsmall
        exact absurd hsmall (not_or.mpr ⟨not_le.mpr sellable.pos, not_lt.mpr sellable.notional⟩)
      · exact ih sorted.2 hforcedRest (hrest.mono (by linarith [hforced.residual_pos])) hmem
    · rcases mem_cons.mp mem with rfl | hmem
      · exact ⟨_, mem_cons_self, rfl, hquantity⟩
      · obtain ⟨order, horder, hsold⟩ :=
          ih sorted.2 hforcedRest (hrest.mono (sub_le_sub_left hspent _)) hmem
        exact ⟨order, mem_cons_of_mem _ horder, hsold⟩

end Loop

section Candidates

variable {config : ForwardRiskConfig} {quotes : QuoteBundle} {state : ArmState}
  {desired forced : Dict String Decimal} {allow : Bool}

theorem sellCandidate_some {entry c}
    (h : sellCandidate config quotes state desired forced allow entry = some c) :
    c.symbol = entry.1 ∧
      ((c.group = 0 ∧ -c.negativeSurplus = c.residual quotes ∧ 0 < c.maximumQuantity ∧
          ∃ target, forced.get? entry.1 = some target ∧
            c.maximumQuantity = state.quantity entry.1 - target) ∨
        (c.group = 1 ∧ forced.get? entry.1 = none ∧
          c.maximumQuantity ≤ state.quantity entry.1 ∧ desired.getD entry.1 0 < entry.2)) := by
  unfold sellCandidate at h
  split at h
  · rename_i target htarget
    simp only [forcedCandidate] at h
    split at h
    · cases h
    · rename_i hpos
      cases h
      have hmax : max 0 (state.quantity entry.1 - target) = state.quantity entry.1 - target := by
        rcases le_or_gt (state.quantity entry.1 - target) 0 with hle | hgt
        · exact absurd (max_eq_left hle).le hpos
        · exact max_eq_right hgt.le
      exact ⟨rfl, .inl ⟨rfl, neg_neg _, not_le.mp hpos, target, htarget, hmax⟩⟩
  · rename_i hnone
    split at h
    · cases h
    · simp only [transitionCandidate] at h
      split at h
      · cases h
      · rename_i hsurplus
        cases h
        refine ⟨rfl, .inr ⟨rfl, hnone, min_le_left _ _, ?_⟩⟩
        rcases lt_max_iff.mp (not_le.mp hsurplus) with hzero | hpos
        · exact absurd hzero (lt_irrefl 0)
        · exact sub_pos.mp hpos

theorem sellCandidate_of_above {symbol : String} {value target : Decimal}
    (h : forced.get? symbol = some target) (above : target < state.quantity symbol) :
    ∃ c, sellCandidate config quotes state desired forced allow (symbol, value) = some c ∧
      c.group = 0 ∧ c.symbol = symbol ∧ c.maximumQuantity = state.quantity symbol - target := by
  have hmax : max 0 (state.quantity symbol - target) = state.quantity symbol - target :=
    max_eq_right (sub_pos.mpr above).le
  refine ⟨⟨0, forcedPriority config symbol,
    -((state.quantity symbol - target) * (quoteOf quotes symbol).bidPrice), symbol,
    state.quantity symbol - target⟩, ?_, rfl, rfl, rfl⟩
  simp only [sellCandidate, h, forcedCandidate, hmax, if_neg (not_le.mpr (sub_pos.mpr above))]

end Candidates

namespace ForwardPlanRequest

variable (request : ForwardPlanRequest)

def sellCandidates : List SellCandidate :=
  sortedBy SellCandidate.key (request.currentValues.entries.filterMap
    (sellCandidate request.config request.quotes request.state request.desiredValues
      request.forcedTargets request.allowTransitionSells))

theorem plannedSells_eq : request.plannedSells =
    sellLoop request.config request.quotes request.sellBudget request.sellCandidates := rfl

variable {request}

theorem mem_sellCandidates {c} : c ∈ request.sellCandidates ↔
    ∃ entry ∈ request.currentValues.entries, sellCandidate request.config request.quotes
      request.state request.desiredValues request.forcedTargets request.allowTransitionSells
      entry = some c := by
  rw [sellCandidates, mem_sortedBy, mem_filterMap]

theorem sellCandidates_nodup : (request.sellCandidates.map (·.symbol)).Nodup := by
  have hperm := (sortedBy_perm SellCandidate.key (request.currentValues.entries.filterMap
    (sellCandidate request.config request.quotes request.state request.desiredValues
      request.forcedTargets request.allowTransitionSells))).map (·.symbol)
  refine hperm.nodup_iff.mpr (request.currentValues.nodup.sublist ?_)
  generalize request.currentValues.entries = entries
  induction entries with
  | nil => simp
  | cons entry rest ih =>
    rw [filterMap_cons]
    split
    · exact ih.trans (sublist_cons_self _ _)
    · rename_i c hc
      rw [map_cons, map_cons, (sellCandidate_some hc).1]
      exact ih.cons_cons _

theorem sellCandidates_sorted : request.sellCandidates.Pairwise fun a b => a.group ≤ b.group := by
  refine (sortedBy_pairwise SellCandidate.key _).imp fun {a b} h => ?_
  rcases Prod.Lex.le_iff.mp h with hlt | heq
  · exact hlt.le
  · exact heq.1.le

variable {symbol : String} {target : Decimal}

theorem forcedTargets_nonneg
    (h : request.forcedTargets.get? symbol = some target) : 0 ≤ target := by
  rw [forcedTargets, Dict.get?_mapVal] at h
  obtain ⟨value, -, rfl⟩ := Option.map_eq_some_iff.mp h
  exact le_max_left _ _

theorem currentValues_keys : request.currentValues.keys = request.state.held.keys :=
  Dict.keys_mapVal _ _

structure SoundSells (request : ForwardPlanRequest) (orders : List PlannedOrder) : Prop where
  nodup : (orders.map (·.symbol)).Nodup
  side : ∀ order ∈ orders, order.side = .sell
  held : ∀ order ∈ orders, order.symbol ∈ request.state.held.keys
  pos : ∀ order ∈ orders, 0 < order.quantity
  bounded : ∀ order ∈ orders, order.quantity ≤ request.state.quantity order.symbol
  notional : ∀ order ∈ orders, request.config.minOrderNotionalUsd ≤
    order.quantity * (quoteOf request.quotes order.symbol).bidPrice

theorem plannedSells_sound : SoundSells request request.plannedSells := by
  have hfrom : ∀ order ∈ request.plannedSells, ∃ c ∈ request.sellCandidates,
      SellsFrom request.config request.quotes c order := sellLoop_sellsFrom
  refine ⟨sellCandidates_nodup.sublist sellLoop_symbols, ?_, ?_, ?_, ?_, ?_⟩ <;>
    intro order horder <;> obtain ⟨c, hc, hsells⟩ := hfrom order horder
  · exact hsells.side
  · obtain ⟨entry, hentry, hcandidate⟩ := mem_sellCandidates.mp hc
    rw [hsells.symbol, (sellCandidate_some hcandidate).1, ← currentValues_keys]
    exact mem_map_of_mem hentry
  · exact hsells.pos
  · obtain ⟨entry, hentry, hcandidate⟩ := mem_sellCandidates.mp hc
    obtain ⟨hsymbol, hkind⟩ := sellCandidate_some hcandidate
    refine hsells.le_maximum.trans ?_
    rw [hsells.symbol, hsymbol]
    rcases hkind with ⟨-, -, -, target, htarget, hmax⟩ | ⟨-, -, hmax, -⟩
    · have := forcedTargets_nonneg htarget
      linarith
    · exact hmax
  · rw [hsells.symbol]
    exact hsells.notional

def forcedResidual (request : ForwardPlanRequest) (symbol : String) : Decimal :=
  max 0 (request.state.quantity symbol - request.forcedTargets.getD symbol 0) *
    (quoteOf request.quotes symbol).bidPrice

theorem forcedSellResidualUsd_eq :
    request.forcedSellResidualUsd =
      (request.forcedTargets.keys.map request.forcedResidual).sum := by
  rw [forcedSellResidualUsd, residualNotional, Dict.keys, map_map]
  congr 1
  refine map_congr_left fun entry hentry => ?_
  rw [Function.comp_apply, forcedResidual, Dict.getD_of_get? (Dict.get?_eq_some.mpr hentry)]

variable (tradable : ∀ symbol ∈ request.forcedTargets.keys,
  (quoteOf request.quotes symbol).Tradable)

include tradable in
theorem sellCandidates_forced : ∀ c ∈ request.sellCandidates, c.group = 0 →
    c.Forced request.quotes ∧ c.symbol ∈ request.forcedTargets.keys ∧
      c.residual request.quotes = request.forcedResidual c.symbol := by
  intro c hc hgroup
  obtain ⟨entry, -, hcandidate⟩ := mem_sellCandidates.mp hc
  obtain ⟨hsymbol, ⟨-, hsurplus, hpos, target, htarget, hmax⟩ | ⟨hone, -⟩⟩ :=
    sellCandidate_some hcandidate
  · have hkey : c.symbol ∈ request.forcedTargets.keys := by
      rw [hsymbol]
      exact Dict.mem_keys.mpr ⟨target, htarget⟩
    refine ⟨⟨hsurplus, hpos, (tradable _ hkey).bid_pos⟩, hkey, ?_⟩
    rw [SellCandidate.residual, forcedResidual, hsymbol, Dict.getD_of_get? htarget, ← hmax,
      max_eq_right hpos.le]
  · rw [hgroup] at hone
    cases hone

include tradable in
theorem sellBudget_covers :
    CoversForced request.quotes request.sellCandidates request.sellBudget := by
  have hsum : ((request.sellCandidates.filter (·.group = 0)).map (·.residual request.quotes)).sum =
      (((request.sellCandidates.filter (·.group = 0)).map (·.symbol)).map
        request.forcedResidual).sum := by
    rw [map_map]
    congr 1
    refine map_congr_left fun c hc => ?_
    obtain ⟨hmem, hgroup⟩ := mem_filter.mp hc
    exact (sellCandidates_forced tradable c hmem (of_decide_eq_true hgroup)).2.2
  have hle : request.forcedSellResidualUsd ≤ request.sellBudget :=
    (le_max_right _ _).trans (le_max_left _ _)
  unfold CoversForced
  rw [hsum]
  refine le_trans ?_ hle
  rw [forcedSellResidualUsd_eq]
  refine sum_map_le_of_subset (sellCandidates_nodup.sublist (filter_sublist.map _)) ?_ ?_
  · intro symbol hsymbol
    obtain ⟨c, hc, rfl⟩ := mem_map.mp hsymbol
    obtain ⟨hmem, hgroup⟩ := mem_filter.mp hc
    exact (sellCandidates_forced tradable c hmem (of_decide_eq_true hgroup)).2.1
  · intro symbol hsymbol
    exact mul_nonneg (le_max_left _ _) (tradable symbol hsymbol).bid_pos.le

/-- What is above the target of a symbol makes an order after it is rounded down. -/
def SellableAbove (request : ForwardPlanRequest) (symbol : String) (target : Decimal) : Prop :=
  request.config.minOrderNotionalUsd ≤
    floorQuantity (request.state.quantity symbol - target) request.config.quantityPrecision *
      (quoteOf request.quotes symbol).bidPrice

include tradable in
theorem plannedSells_of_sellable (h : request.forcedTargets.get? symbol = some target)
    (above : target < request.state.quantity symbol)
    (pos : 0 <
      floorQuantity (request.state.quantity symbol - target) request.config.quantityPrecision)
    (sellable : request.SellableAbove symbol target) : ∃ order ∈ request.plannedSells,
      order.symbol = symbol ∧ order.quantity =
        floorQuantity (request.state.quantity symbol - target)
          request.config.quantityPrecision := by
  have hforced : ∀ c ∈ request.sellCandidates, c.group = 0 → c.Forced request.quotes :=
    fun c hc hgroup => (sellCandidates_forced tradable c hc hgroup).1
  have hheld : symbol ∈ request.currentValues.keys := by
    rw [currentValues_keys]
    exact ArmState.mem_held_of_pos ((forcedTargets_nonneg h).trans_lt above)
  obtain ⟨value, hvalue⟩ := Dict.mem_keys.mp hheld
  obtain ⟨c, hcandidate, hgroup, hsymbol, hmax⟩ := sellCandidate_of_above h above
  have hc : c ∈ request.sellCandidates :=
    mem_sellCandidates.mpr ⟨(symbol, value), Dict.get?_eq_some.mp hvalue, hcandidate⟩
  have hsellable : c.Sellable request.config request.quotes := by
    refine ⟨?_, ?_⟩
    · rw [hmax]
      exact pos
    · rw [hmax, hsymbol]
      exact sellable
  obtain ⟨order, horder, heq, hquantity⟩ := sellLoop_forced sellCandidates_sorted hforced
    (sellBudget_covers tradable) hc hgroup hsellable
  exact ⟨order, horder, heq.trans hsymbol, hmax ▸ hquantity⟩

include tradable in
theorem plannedSells_forced (minimum : 0 < request.config.minOrderNotionalUsd)
    (h : request.forcedTargets.get? symbol = some target)
    (above : target < request.state.quantity symbol) :
    (∃ order ∈ request.plannedSells, order.symbol = symbol) ↔
      request.SellableAbove symbol target := by
  have hbid := (tradable symbol (Dict.mem_keys.mpr ⟨_, h⟩)).bid_pos
  constructor
  · rintro ⟨order, horder, rfl⟩
    obtain ⟨c, hc, hsells⟩ := sellLoop_sellsFrom order horder
    obtain ⟨entry, -, hcandidate⟩ := mem_sellCandidates.mp hc
    obtain ⟨hsymbol, ⟨hgroup, -, -, target', htarget', hmax⟩ | ⟨-, hnone, -⟩⟩ :=
      sellCandidate_some hcandidate
    · rw [← hsymbol, ← hsells.symbol] at htarget' hmax
      obtain rfl : target = target' := Option.some.inj (h.symm.trans htarget')
      have hfloor := hsells.le_floor (sellCandidates_forced tradable c hc hgroup).1
      rw [hmax] at hfloor
      exact (plannedSells_sound.notional order horder).trans
        (mul_le_mul_of_nonneg_right hfloor hbid.le)
    · rw [← hsymbol, ← hsells.symbol, h] at hnone
      cases hnone
  · intro hlarge
    obtain ⟨order, horder, hsymbol, -⟩ := plannedSells_of_sellable tradable h above
      (pos_of_mul_pos_left (minimum.trans_le hlarge) hbid.le) hlarge
    exact ⟨order, horder, hsymbol⟩

end ForwardPlanRequest

end AdaptiveQuant
