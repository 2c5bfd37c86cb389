import AdaptiveQuant.Forward.Assessment

/-! The targets that `build_forced_reduction_targets` freezes. -/

namespace AdaptiveQuant

open Guard Sequence List

/-- The targets name every held leveraged symbol, with quantity zero, the held core symbol, and,
when the semiconductor cap is exceeded, every held semiconductor symbol. -/
structure CoversHoldings (config : ForwardRiskConfig) (quotes : QuoteBundle) (state : ArmState)
    (currentNav : Decimal) (targets : Dict String Decimal) : Prop where
  leveraged : ∀ symbol ∈ config.leveragedSymbols.1, symbol ≠ coreSymbol →
    0 < state.quantity symbol → targets.get? symbol = some 0
  core : 0 < state.quantity coreSymbol → coreSymbol ∈ targets.keys
  semiconductors : SemiconductorCapExceeded config quotes state currentNav →
    ∀ symbol ∈ config.semiconductorSymbols.1, 0 < state.quantity symbol → symbol ∈ targets.keys

section Targets

variable {config : ForwardRiskConfig} {quotes : QuoteBundle} {state : ArmState}
  {currentNav : Decimal}

variable {symbol : String}

theorem leveragedTargets_get? (h : symbol ∈ config.leveragedSymbols.1)
    (held : 0 < state.quantity symbol) : (leveragedTargets config state).get? symbol = some 0 := by
  have hfilter : (state.positions.filter fun symbol quantity =>
      decide (0 < quantity ∧ symbol ∈ config.leveragedSymbols.1)).get? symbol =
        some (state.quantity symbol) :=
    Dict.get?_filter_eq_some.mpr ⟨get?_of_quantity_pos held, by simp [held, h]⟩
  rw [leveragedTargets, Dict.get?_mapVal, hfilter, Option.map_some]

theorem mem_semiconductorPositions :
    symbol ∈ (semiconductorPositions config state).keys ↔ 0 < state.quantity symbol ∧
      symbol ∈ config.semiconductorSymbols.1 ∧ symbol ∉ config.leveragedSymbols.1 := by
  rw [Dict.mem_keys]
  constructor
  · rintro ⟨value, hvalue⟩
    obtain ⟨hget, hp⟩ := Dict.get?_filter_eq_some.mp hvalue
    rw [ArmState.quantity, Dict.getD_of_get? hget]
    simpa using hp
  · intro h
    exact ⟨_, Dict.get?_filter_eq_some.mpr ⟨get?_of_quantity_pos h.1, by simpa using h⟩⟩

theorem addSemiconductorTargets_get? {targets} (h : symbol ∈ config.leveragedSymbols.1) :
    (addSemiconductorTargets config quotes state currentNav targets).get? symbol =
      targets.get? symbol := by
  unfold addSemiconductorTargets
  split
  · refine Dict.get?_foldl_set _ _ fun entry hentry heq => ?_
    have hmem : symbol ∈ (semiconductorPositions config state).keys := by
      rw [← heq]
      exact mem_map_of_mem hentry
    exact (mem_semiconductorPositions.mp hmem).2.2 h
  · rfl

theorem mem_addSemiconductorTargets {targets}
    (exceeded : SemiconductorCapExceeded config quotes state currentNav)
    (h : symbol ∈ (semiconductorPositions config state).keys) :
    symbol ∈ (addSemiconductorTargets config quotes state currentNav targets).keys := by
  obtain ⟨entry, hentry, hkey⟩ := mem_map.mp h
  simp only [addSemiconductorTargets, if_pos exceeded]
  exact (Dict.mem_keys_foldl_set _ _).mpr (.inl ⟨entry, hentry, hkey⟩)

theorem mem_addCoreTarget {targets} {includeCore : Bool} (h : symbol ∈ targets.keys) :
    symbol ∈ (addCoreTarget config state includeCore targets).keys := by
  unfold addCoreTarget
  split
  · exact Dict.mem_keys_set.mpr (.inr h)
  · exact h

theorem addCoreTarget_get? {targets} {includeCore : Bool} (h : symbol ≠ coreSymbol) :
    (addCoreTarget config state includeCore targets).get? symbol = targets.get? symbol := by
  unfold addCoreTarget
  split
  · rw [Dict.get?_set, if_neg h]
  · rfl

theorem buildForcedReductionTargets_covers {targets}
    (h : buildForcedReductionTargets config quotes state currentNav = .ok targets) :
    CoversHoldings config quotes state currentNav targets := by
  simp only [buildForcedReductionTargets, ok_iff] at h
  obtain ⟨-, -, rfl⟩ := h
  refine ⟨fun symbol hlev hne held => ?_, fun held => ?_, fun exceeded symbol hsemi held => ?_⟩
  · rw [addCoreTarget_get? hne, addSemiconductorTargets_get? hlev]
    exact leveragedTargets_get? hlev held
  · rw [addCoreTarget, if_pos ⟨rfl, held⟩]
    exact Dict.mem_keys_set.mpr (.inl rfl)
  · refine mem_addCoreTarget ?_
    by_cases hlev : symbol ∈ config.leveragedSymbols.1
    · rw [Dict.mem_keys, addSemiconductorTargets_get? hlev]
      exact ⟨0, leveragedTargets_get? hlev held⟩
    · exact mem_addSemiconductorTargets exceeded
        (mem_semiconductorPositions.mpr ⟨held, hsemi, hlev⟩)

theorem floorQuantity_lt {value bound : Decimal} {precision : Quantum} (h : value < bound)
    (pos : 0 < bound) : floorQuantity value precision < bound := by
  rcases le_or_gt 0 value with hvalue | hvalue
  · exact (quantizeDown_le hvalue).trans_lt h
  · exact (quantizeDown_nonpos hvalue).trans_lt pos

theorem semiconductorPositions_entry {entry}
    (h : entry ∈ (semiconductorPositions config state).entries) :
    entry.2 = state.quantity entry.1 ∧ 0 < state.quantity entry.1 := by
  obtain ⟨hget, -⟩ := Dict.get?_filter_eq_some.mp (Dict.get?_eq_some.mpr h)
  refine ⟨?_, (mem_semiconductorPositions.mp (mem_map_of_mem h)).1⟩
  rw [ArmState.quantity, Dict.getD_of_get? hget]

def Priced (quotes : QuoteBundle) (state : ArmState) : Prop :=
  ∀ symbol, 0 < state.quantity symbol → 0 < (quoteOf quotes symbol).midpoint

theorem retainedFraction_lt_one (priced : Priced quotes state)
    (exceeded : SemiconductorCapExceeded config quotes state currentNav)
    (held : (semiconductorPositions config state).entries ≠ []) :
    currentNav * config.maxSemiconductorClusterWeight /
      midpointValue quotes (semiconductorPositions config state) < 1 := by
  have hvalue : 0 < midpointValue quotes (semiconductorPositions config state) := by
    refine sum_pos _ ?_ (by simpa using held)
    simp only [mem_map, forall_exists_index, and_imp, forall_apply_eq_imp_iff₂]
    intro entry hentry
    obtain ⟨heq, hpos⟩ := semiconductorPositions_entry hentry
    rw [heq]
    exact mul_pos hpos (priced entry.1 hpos)
  rw [div_lt_one hvalue]
  exact exceeded

theorem addSemiconductorTargets_lt (targets : Dict String Decimal) (priced : Priced quotes state)
    (exceeded : SemiconductorCapExceeded config quotes state currentNav)
    (h : symbol ∈ (semiconductorPositions config state).keys) (free : targets.get? symbol = none) :
    ∃ target < state.quantity symbol,
      (addSemiconductorTargets config quotes state currentNav targets).get? symbol =
        some target := by
  obtain ⟨target, htarget⟩ := Dict.mem_keys.mp
    (mem_addSemiconductorTargets exceeded h : symbol ∈
      (addSemiconductorTargets config quotes state currentNav targets).keys)
  refine ⟨target, ?_, htarget⟩
  simp only [addSemiconductorTargets, if_pos exceeded] at htarget
  rcases Dict.exists_of_get?_foldl_set _ _ htarget with ⟨entry, hentry, rfl, rfl⟩ | hold
  · obtain ⟨heq, hpos⟩ := semiconductorPositions_entry hentry
    have hlt := retainedFraction_lt_one priced exceeded (ne_nil_of_mem hentry)
    refine floorQuantity_lt ?_ hpos
    rw [heq]
    exact mul_lt_of_lt_one_right hpos hlt
  · rw [free] at hold
    cases hold

theorem addCoreTarget_core (targets : Dict String Decimal) (held : 0 < state.quantity coreSymbol) :
    (addCoreTarget config state true targets).get? coreSymbol = some (floorQuantity
      (state.quantity coreSymbol * (1 - config.forceReduceCoreFraction))
        config.quantityPrecision) := by
  rw [addCoreTarget, if_pos ⟨rfl, held⟩, Dict.get?_set, if_pos rfl]

theorem leveragedTargets_get?_none (h : symbol ∉ config.leveragedSymbols.1) :
    (leveragedTargets config state).get? symbol = none := by
  rw [Dict.get?_eq_none, leveragedTargets, Dict.keys_mapVal, Dict.mem_keys]
  rintro ⟨value, hvalue⟩
  have hp := (Dict.get?_filter_eq_some.mp hvalue).2
  simp only [decide_eq_true_eq] at hp
  exact h hp.2

theorem buildForcedReductionTargets_lt {targets : Dict String Decimal}
    (fraction : 0 < config.forceReduceCoreFraction) (priced : Priced quotes state)
    (h : buildForcedReductionTargets config quotes state currentNav = .ok targets)
    (held : 0 < state.quantity symbol)
    (reduced : symbol = coreSymbol ∨ symbol ∈ config.leveragedSymbols.1 ∨
      (symbol ∈ config.semiconductorSymbols.1 ∧
        SemiconductorCapExceeded config quotes state currentNav)) :
    ∃ target < state.quantity symbol, targets.get? symbol = some target := by
  simp only [buildForcedReductionTargets, ok_iff] at h
  obtain ⟨-, -, rfl⟩ := h
  by_cases hcore : symbol = coreSymbol
  · subst hcore
    refine ⟨_, ?_, addCoreTarget_core _ held⟩
    exact floorQuantity_lt (by nlinarith) held
  · rw [addCoreTarget_get? hcore]
    by_cases hlev : symbol ∈ config.leveragedSymbols.1
    · rw [addSemiconductorTargets_get? hlev]
      exact ⟨0, held, leveragedTargets_get? hlev held⟩
    · obtain ⟨hsemi, exceeded⟩ := (reduced.resolve_left hcore).resolve_left hlev
      exact addSemiconductorTargets_lt _ priced exceeded
        (mem_semiconductorPositions.mpr ⟨held, hsemi, hlev⟩) (leveragedTargets_get?_none hlev)

theorem buildForcedReductionTargets_held {targets}
    (h : buildForcedReductionTargets config quotes state currentNav = .ok targets)
    (mem : symbol ∈ targets.keys) : 0 < state.quantity symbol := by
  simp only [buildForcedReductionTargets, ok_iff] at h
  obtain ⟨-, -, rfl⟩ := h
  have leveraged : symbol ∈ (leveragedTargets config state).keys → 0 < state.quantity symbol := by
    rw [leveragedTargets, Dict.keys_mapVal, Dict.mem_keys]
    rintro ⟨value, hvalue⟩
    obtain ⟨hget, hp⟩ := Dict.get?_filter_eq_some.mp hvalue
    simp only [decide_eq_true_eq] at hp
    rw [ArmState.quantity, Dict.getD_of_get? hget]
    exact hp.1
  have semiconductors : symbol ∈ (addSemiconductorTargets config quotes state currentNav
      (leveragedTargets config state)).keys → 0 < state.quantity symbol := by
    unfold addSemiconductorTargets
    split
    · rw [Dict.mem_keys_foldl_set]
      rintro (⟨entry, hentry, rfl⟩ | hmem)
      · exact (semiconductorPositions_entry hentry).2
      · exact leveraged hmem
    · exact leveraged
  unfold addCoreTarget at mem
  split at mem
  · rename_i hcore
    rcases Dict.mem_keys_set.mp mem with rfl | hmem
    · exact hcore.2
    · exact semiconductors hmem
  · exact semiconductors mem

theorem residualNotional_pos {targets} {target : Decimal} (priced : Priced quotes state)
    (held : ∀ symbol ∈ targets.keys, 0 < state.quantity symbol)
    (h : targets.get? symbol = some target) (above : target < state.quantity symbol) :
    0 < residualNotional quotes state targets DecisionQuote.midpoint := by
  have hmem := Dict.get?_eq_some.mp h
  have hpos : 0 < max 0 (state.quantity symbol - target) * (quoteOf quotes symbol).midpoint :=
    mul_pos (lt_max_of_lt_right (sub_pos.mpr above))
      (priced symbol (held symbol (Dict.mem_keys.mpr ⟨_, h⟩)))
  have hterms : ∀ term ∈ targets.entries.map fun entry => max 0 (state.quantity entry.1 - entry.2) *
      (quoteOf quotes entry.1).midpoint, 0 ≤ term := by
    intro term hterm
    obtain ⟨entry, hentry, rfl⟩ := mem_map.mp hterm
    exact mul_nonneg (le_max_left _ _) (priced entry.1 (held _ (mem_map_of_mem hentry))).le
  have hle : max 0 (state.quantity symbol - target) * (quoteOf quotes symbol).midpoint ≤
      residualNotional quotes state targets DecisionQuote.midpoint :=
    single_le_sum hterms _ (mem_map.mpr ⟨_, hmem, rfl⟩)
  exact hpos.trans_le hle

theorem covers_of_no_budget {budget : Decimal}
    (fraction : 0 < config.forceReduceCoreFraction) (priced : Priced quotes state)
    (h : forcedReductionBudget config quotes state currentNav true = .ok budget)
    (none : budget ≤ 0) : CoversHoldings config quotes state currentNav .empty := by
  simp only [forcedReductionBudget, ok_iff] at h
  obtain ⟨targets, htargets, rfl⟩ := h
  have notHeld : ∀ symbol, (symbol = coreSymbol ∨ symbol ∈ config.leveragedSymbols.1 ∨
      (symbol ∈ config.semiconductorSymbols.1 ∧
        SemiconductorCapExceeded config quotes state currentNav)) → ¬0 < state.quantity symbol := by
    intro symbol reduced held
    obtain ⟨target, hlt, htarget⟩ :=
      buildForcedReductionTargets_lt fraction priced htargets held reduced
    exact absurd none (not_le.mpr (residualNotional_pos priced
      (fun _ hmem => buildForcedReductionTargets_held htargets hmem) htarget hlt))
  exact ⟨fun symbol hlev _ held => absurd held (notHeld symbol (.inr (.inl hlev))),
    fun held => absurd held (notHeld coreSymbol (.inl rfl)),
    fun exceeded symbol hsemi held => absurd held (notHeld symbol (.inr (.inr ⟨hsemi, exceeded⟩)))⟩

end Targets

/-- The targets as a plan stores them: not below zero, in the order of their symbols. -/
def freeze (targets : Dict String Decimal) : Dict String Decimal :=
  (targets.mapVal fun _ quantity => max 0 quantity).sorted

theorem get?_freeze (targets : Dict String Decimal) (symbol : String) :
    (freeze targets).get? symbol = (targets.get? symbol).map (max 0) := by
  rw [freeze, Dict.get?_sorted, Dict.get?_mapVal]

theorem freeze_freeze (targets : Dict String Decimal) :
    freeze (freeze targets) = freeze targets := by
  have hmap : (freeze targets).mapVal (fun _ quantity => max 0 quantity) = freeze targets := by
    refine Dict.mapVal_eq_self fun entry hentry => ?_
    have hget := Dict.get?_eq_some.mpr hentry
    rw [get?_freeze] at hget
    obtain ⟨value, -, hvalue⟩ := Option.map_eq_some_iff.mp hget
    rw [← hvalue]
    exact max_eq_right (le_max_left 0 value)
  conv_lhs => rw [freeze, hmap]
  exact Dict.sorted_sorted _

end AdaptiveQuant
