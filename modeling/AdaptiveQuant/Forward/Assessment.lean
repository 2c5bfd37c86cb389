import AdaptiveQuant.Forward.Decision
import Mathlib.Tactic.Positivity

/-! What `decide` knows of an arm when it plans. -/

namespace AdaptiveQuant

open Guard Sequence List

variable {service : ForwardService}

/-- Prices that can be traded at: a positive bid, not above the ask. -/
structure DecisionQuote.Tradable (quote : DecisionQuote) : Prop where
  bid_pos : 0 < quote.bidPrice
  bid_le_ask : quote.bidPrice ≤ quote.askPrice

variable {quote : DecisionQuote}

theorem DecisionQuote.Tradable.bid_le_midpoint (h : quote.Tradable) :
    quote.bidPrice ≤ quote.midpoint := by
  have := h.bid_le_ask
  unfold DecisionQuote.midpoint
  linarith

theorem DecisionQuote.Tradable.midpoint_pos (h : quote.Tradable) :
    0 < quote.midpoint := h.bid_pos.trans_le h.bid_le_midpoint

variable {symbol : String}

theorem get?_of_quantity_pos {state : ArmState} (h : 0 < state.quantity symbol) :
    state.positions.get? symbol = some (state.quantity symbol) := by
  unfold ArmState.quantity at h ⊢
  cases hget : state.positions.get? symbol with
  | none =>
    rw [Dict.getD, hget, Option.getD_none] at h
    exact absurd h (lt_irrefl 0)
  | some value => rw [Dict.getD_of_get? hget]

theorem ArmState.mem_held_of_pos {state : ArmState}
    (h : 0 < state.quantity symbol) : symbol ∈ state.held.keys :=
  Dict.mem_keys.mpr ⟨_, Dict.get?_filter_eq_some.mpr
    ⟨get?_of_quantity_pos h, decide_eq_true h.ne.symm⟩⟩

variable {asOf : Instant}

theorem bundleQuote_ok {latestQuote} (h : bundleQuote service latestQuote asOf symbol = .ok quote) :
    quote.Tradable ∧ quote.eventTime ≤ asOf := by
  unfold bundleQuote at h
  split at h
  · cases h
  · simp only [bind_eq_ok, raiseIf_eq_ok, pure_eq_ok] at h
    obtain ⟨-, hage, -, hexec, -, -, rfl⟩ := h
    rw [not_not, MarketQuoteRow.Executable] at hexec
    push Not at hexec
    exact ⟨⟨hexec.1, hexec.2.2.1⟩, sub_nonneg.mp (not_lt.mp (not_or.mp hage).1)⟩

/-- A bundle: exactly the symbols asked for, with tradable quotes from before the decision. -/
structure IsBundle (quotes : QuoteBundle) (symbols : List String) (asOf : Instant) : Prop where
  keys : ∀ symbol, symbol ∈ quotes.keys ↔ symbol ∈ symbols
  tradable : ∀ symbol ∈ symbols, (quoteOf quotes symbol).Tradable
  past : ∀ symbol ∈ symbols, (quoteOf quotes symbol).eventTime ≤ asOf

theorem quoteOf_set (quotes : QuoteBundle) (symbol other : String) (quote : DecisionQuote) :
    quoteOf (quotes.set symbol quote) other = if other =
      symbol then quote else quoteOf quotes other := by
  unfold quoteOf Dict.getD
  rw [Dict.get?_set]
  split <;> rfl

variable {symbols : List String}

theorem IsBundle.set {quotes} (h : IsBundle quotes symbols asOf) (tradable : quote.Tradable)
    (past : quote.eventTime ≤ asOf) :
    IsBundle (quotes.set symbol quote) (symbols ++ [symbol]) asOf := by
  refine ⟨fun other => ?_, fun other hother => ?_, fun other hother => ?_⟩
  · rw [Dict.mem_keys_set, h.keys, mem_append, mem_singleton, or_comm]
  all_goals
    rw [quoteOf_set]
    split
    · assumption
    · rename_i hne
      rw [mem_append, mem_singleton] at hother
      first
        | exact h.tradable other (hother.resolve_right hne)
        | exact h.past other (hother.resolve_right hne)

theorem IsBundle.congr {quotes symbols'} (h : IsBundle quotes symbols asOf)
    (same : ∀ symbol, symbol ∈ symbols ↔ symbol ∈ symbols') :
    IsBundle quotes symbols' asOf :=
  ⟨fun symbol => (h.keys symbol).trans (same symbol),
    fun symbol hs => h.tradable symbol ((same symbol).mpr hs),
    fun symbol hs => h.past symbol ((same symbol).mpr hs)⟩

theorem quoteBundle_ok {tables quotes} (h : quoteBundle service tables symbols asOf = .ok quotes) :
    IsBundle quotes symbols asOf := by
  unfold quoteBundle at h
  split at h
  · rename_i hnil
    cases h
    subst hnil
    exact ⟨by simp [Dict.keys, Dict.empty], by simp, by simp⟩
  · simp only [bind_eq_ok, raiseIf_eq_ok, pure_eq_ok] at h
    obtain ⟨-, -, filled, hfold, -, -, rfl⟩ := h
    have hsorted : IsBundle filled (sortedBy id symbols) asOf := by
      refine foldlM_induction hfold (fun pre quotes => IsBundle quotes pre asOf)
        ⟨by simp [Dict.keys, Dict.empty], by simp, by simp⟩ ?_
      intro pre symbol acc acc' hacc hstep
      simp only [bind_eq_ok, pure_eq_ok] at hstep
      obtain ⟨quote, hquote, rfl⟩ := hstep
      exact hacc.set (bundleQuote_ok hquote).1 (bundleQuote_ok hquote).2
    exact hsorted.congr fun symbol => mem_sortedBy id

variable {config : ForwardRiskConfig}

theorem guardBudget_some {quotes} {state : ArmState} {nav budget : Decimal} {forces : Bool}
    (h : guardBudget config quotes state nav forces = .ok (some budget)) :
    forces = true ∧ forcedReductionBudget config quotes state nav true = .ok budget := by
  unfold guardBudget at h
  split at h
  · rename_i hforces
    refine ⟨hforces, ?_⟩
    cases hbudget : forcedReductionBudget config quotes state nav true with
    | error e =>
      rw [hbudget] at h
      cases h
    | ok value =>
      rw [hbudget] at h
      cases h
      rfl
  · cases h

theorem evaluateForwardLossGuard_ok {state : ArmState} {quotes} {openNav peak : Decimal} {guard}
    (h : evaluateForwardLossGuard state quotes openNav peak config = .ok guard) :
    0 < guard.sessionOpenNavUsd ∧ guard.currentNavUsd = armNav state quotes ∧
      0 < guard.currentNavUsd ∧ guard.blockNewEntries = decide (guard.state ≠ .normal) ∧
      ∀ budget, guard.forcedSellBudgetUsd = some budget → guard.state.isHard ∧
        forcedReductionBudget config quotes state guard.currentNavUsd true = .ok budget := by
  simp only [evaluateForwardLossGuard, bind_eq_ok, raiseIf_eq_ok, pure_eq_ok] at h
  obtain ⟨-, hopen, -, -, -, hnav, -, -, forced, hforced, rfl⟩ := h
  refine ⟨not_le.mp hopen, rfl, not_le.mp hnav, rfl, ?_⟩
  rintro budget rfl
  obtain ⟨hlevel, hbudget⟩ := guardBudget_some hforced
  refine ⟨?_, hbudget⟩
  show (lossLevel _ _ _).1.isHard = true
  unfold lossLevel at hlevel ⊢
  grind [LossState.isHard]

namespace DecisionCall

/-- The decision assesses the arm in this state. -/
def MeetsArm (service : ForwardService) (call : DecisionCall) (quotes : QuoteBundle)
    (armId : String) (state : ArmState) (context : RiskContext) : Prop :=
  ∃ since states contexts,
    latestStates call.tables.armStates (call.decisionArms service) call.createdAt = .ok states ∧
    quoteBundle service call.tables (quoteSymbols service states) call.createdAt = .ok quotes ∧
    call.assessArms service since quotes states = .ok contexts ∧ (armId, state, context) ∈ contexts

variable {call : DecisionCall} {quotes : QuoteBundle} {armId : String} {state : ArmState}
  {context : RiskContext}

theorem assessArm_ok {since : Instant} (h : call.assessArm service since quotes armId state =
    .ok context) : ∃ openNav peak, evaluateForwardLossGuard state quotes openNav peak
      service.riskConfig = .ok context.toForwardLossGuard ∧
      context.lossControlsApplied = decide (armId ∈ service.lossControlArms.1) ∧
      context.unsettledSaleProceedsUsd = (todayTurnover call.tables.fills armId
        (service.regularOpen call.scheduledAt) call.createdAt).unsettledSaleProceeds := by
  simp only [assessArm, ok_iff] at h
  obtain ⟨openNav, -, peak, -, guard, hguard, rfl⟩ := h
  exact ⟨openNav, peak, hguard, rfl, rfl⟩

section

variable (h : call.MeetsArm service quotes armId state context)

include h

theorem MeetsArm.assessed :
    ∃ since, call.assessArm service since quotes armId state = .ok context := by
  obtain ⟨since, states, contexts, -, -, hassess, hmem⟩ := h
  obtain ⟨arm, -, harm⟩ := mem_of_mapM_eq_ok hassess _ hmem
  simp only [ok_iff, Prod.mk.injEq] at harm
  obtain ⟨context', hcontext, rfl, rfl, rfl⟩ := harm
  exact ⟨since, hcontext⟩

theorem MeetsArm.guard :
    ∃ openNav peak, evaluateForwardLossGuard state quotes openNav peak service.riskConfig =
      .ok context.toForwardLossGuard := by
  obtain ⟨since, hassess⟩ := h.assessed
  obtain ⟨openNav, peak, hguard, -, -⟩ := assessArm_ok hassess
  exact ⟨openNav, peak, hguard⟩

theorem MeetsArm.lossControlsApplied :
    context.lossControlsApplied = decide (armId ∈ service.lossControlArms.1) := by
  obtain ⟨since, hassess⟩ := h.assessed
  obtain ⟨-, -, -, hcontrols, -⟩ := assessArm_ok hassess
  exact hcontrols

end

theorem mem_quoteSymbols {states} {symbol : String} :
    symbol ∈ quoteSymbols service states ↔
      (∃ state ∈ states.values, symbol ∈ state.held.keys) ∨ symbol = service.coreSymbol := by
  rw [quoteSymbols, mem_dedup, mem_append, mem_flatMap, mem_singleton]

theorem MeetsArm.bundle (h : call.MeetsArm service quotes armId state context) :
    ∃ states, latestStates call.tables.armStates (call.decisionArms service) call.createdAt =
        .ok states ∧ states.get? armId = some state ∧
      IsBundle quotes (quoteSymbols service states) call.createdAt := by
  obtain ⟨since, states, contexts, hstates, hquotes, hassess, hmem⟩ := h
  obtain ⟨arm, harm, hcontext⟩ := mem_of_mapM_eq_ok hassess _ hmem
  simp only [ok_iff, Prod.mk.injEq] at hcontext
  obtain ⟨-, -, rfl, rfl, -⟩ := hcontext
  have hget : states.get? arm.1 = some arm.2 :=
    Dict.get?_eq_some.mpr ((mem_sortedBy _).mp harm)
  exact ⟨states, hstates, hget, quoteBundle_ok hquotes⟩

theorem MeetsArm.tradable (h : call.MeetsArm service quotes armId state context) {symbol : String}
    (held : symbol ∈ state.held.keys) : (quoteOf quotes symbol).Tradable := by
  obtain ⟨states, -, hget, bundle⟩ := h.bundle
  exact bundle.tradable symbol (mem_quoteSymbols.mpr
    (.inl ⟨state, Dict.mem_values_of_get? hget, held⟩))

end DecisionCall

end AdaptiveQuant
