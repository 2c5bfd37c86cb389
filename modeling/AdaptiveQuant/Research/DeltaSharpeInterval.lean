import AdaptiveQuant.Research.DeltaSharpe
import Mathlib.Order.Bounds.Basic

/-! The bootstrap interval is ordered and within the resampled differences, and exchanging candidate
and champion turns it upside down. -/

namespace AdaptiveQuant.DeltaSharpe

open Guard Sequence Interpolation List

variable {α σ : Type}

section Indices

variable [LinearOrder α] {rng : Random α σ} {count : ℕ}

theorem nextIndex_lt (hcount : 0 < count) (restart : α) (index : ℕ) (state : σ) :
    (nextIndex rng count restart index state).1 < count := by
  unfold nextIndex
  split
  split
  · exact rng.randrange_lt _ hcount
  · exact Nat.mod_lt _ hcount

theorem walk_lt (hcount : 0 < count) (restart : α) (n : ℕ) :
    ∀ {index : ℕ} (state : σ), index < count →
      ∀ i ∈ (walk rng count restart n index state).1, i < count := by
  induction n with
  | zero =>
    intro index state _ i hi
    cases hi
  | succ n ih =>
    intro index state hindex i hi
    rcases mem_cons.mp hi with rfl | hi
    · exact hindex
    · exact ih _ (nextIndex_lt hcount restart index state) i hi

theorem walk_length (restart : α) (n : ℕ) : ∀ (index : ℕ) (state : σ),
    (walk rng count restart n index state).1.length = n := by
  induction n with
  | zero => exact fun _ _ => rfl
  | succ n ih => exact fun index state => congrArg (· + 1) (ih _ _)

theorem stationaryIndices_lt [Field α] {expected : ℕ} {state next : σ} {indices : List ℕ}
    (h : stationaryIndices rng count expected state = .ok (indices, next)) :
    indices.length = count ∧ ∀ index ∈ indices, index < count := by
  simp only [stationaryIndices, ok_iff] at h
  obtain ⟨-, hcount, hwalk⟩ := h
  have hpos : 0 < count := Nat.pos_of_ne_zero hcount
  have hindices : (walk rng count (1 / (expected : α)) count (rng.randrange count state).1
      (rng.randrange count state).2).1 = indices := congrArg Prod.fst hwalk
  rw [← hindices]
  exact ⟨walk_length _ _ _ _, walk_lt hpos _ _ _ (rng.randrange_lt _ hpos)⟩

end Indices

theorem lt_of_item_eq_ok {values : List α} {index : ℤ} {value : α}
    (h : item values index = .ok value) : index < values.length := by
  by_contra hge
  have hnone : values[index.toNat]? = none := List.getElem?_eq_none (by omega)
  unfold item at h
  rw [if_neg (by omega), if_neg (by omega), hnone] at h
  cases h

section Entries

variable [Zero α]

theorem item_eq_ok {values : List α} {index : ℤ} (h0 : 0 ≤ index) (h : index < values.length) :
    item values index = .ok (entry values index) := by
  unfold item
  rw [if_neg (not_lt.mpr h0), if_neg (not_lt.mpr h0), entry_of_lt h0 h]

theorem resample_eq {values : List α} {indices : List ℕ} (h : ∀ i ∈ indices, i < values.length) :
    resample values indices = .ok (indices.map fun i : ℕ => entry values i) :=
  mapM_eq_ok fun i hi => item_eq_ok (Int.natCast_nonneg i) (Int.ofNat_lt.mpr (h i hi))

end Entries

variable [Field α] [LinearOrder α] [IsStrictOrderedRing α]

section Difference

variable {sqrt : α → α} {annualizationSessions : ℕ} {varianceEpsilon : α}

theorem sampleVariance_nonneg {values : List α} (h : 1 ≤ values.length) :
    0 ≤ sampleVariance values := by
  refine div_nonneg (sum_nonneg ?_) (sub_nonneg.mpr (by exact_mod_cast h))
  refine forall_mem_map.mpr fun value _ => ?_
  exact sq_nonneg _

theorem sampleSharpe_error {returns riskFree : List α} {e : Failure}
    (hlength : returns.length = riskFree.length) (htwo : 2 ≤ returns.length)
    (h : sampleSharpe sqrt annualizationSessions varianceEpsilon returns riskFree = .error e) :
    (0 ≤ varianceEpsilon ∧ e.exception = .portfolioDeltaSharpeError) ∨
      (varianceEpsilon < 0 ∧ e.exception = .divisionByZero) := by
  have hnonneg : 0 ≤ sampleVariance (excessReturns returns riskFree) := by
    apply sampleVariance_nonneg
    rw [excessReturns, length_zipWith]
    omega
  have hshort : ¬(returns.length ≠ riskFree.length ∨ returns.length < 2) := by omega
  simp only [sampleSharpe, raiseIf_neg _ hshort, ok_bind] at h
  by_cases hlow : sampleVariance (excessReturns returns riskFree) ≤ varianceEpsilon
  · rw [raiseIf_pos _ hlow, error_bind] at h
    cases h
    exact .inl ⟨hnonneg.trans hlow, rfl⟩
  · rw [raiseIf_neg _ hlow, ok_bind] at h
    by_cases hzero : sampleVariance (excessReturns returns riskFree) = 0
    · rw [raiseIf_pos _ hzero, error_bind] at h
      cases h
      exact .inr ⟨hzero ▸ not_le.mp hlow, rfl⟩
    · rw [raiseIf_neg _ hzero, ok_bind] at h
      cases h

theorem caught_exchange {candidate champion riskFree : List α} {delta : Option α}
    (hcandidate : candidate.length = riskFree.length)
    (hchampion : champion.length = riskFree.length)
    (htwo : 2 ≤ riskFree.length)
    (h : caught (sharpeDifference sqrt annualizationSessions varianceEpsilon candidate champion
      riskFree) = .ok delta) :
    caught (sharpeDifference sqrt annualizationSessions varianceEpsilon champion candidate
      riskFree) = .ok (delta.map Neg.neg) := by
  unfold sharpeDifference at h ⊢
  cases hc : sampleSharpe sqrt annualizationSessions varianceEpsilon candidate riskFree with
  | ok candidateSharpe =>
    cases hh : sampleSharpe sqrt annualizationSessions varianceEpsilon champion riskFree with
    | ok championSharpe =>
      rw [hc, hh] at h
      cases h
      show Except.ok (some (championSharpe - candidateSharpe)) = _
      rw [Option.map_some, neg_sub]
    | error e =>
      rw [hc, hh] at h
      show (if e.exception = .portfolioDeltaSharpeError then _ else _) = _
      change (if e.exception = .portfolioDeltaSharpeError then _ else _) = _ at h
      split at h
      · cases h
        exact if_pos ‹_›
      · cases h
  | error e =>
    rw [hc] at h
    change (if e.exception = .portfolioDeltaSharpeError then _ else _) = _ at h
    split at h
    · rename_i hcaught
      cases h
      cases hh : sampleSharpe sqrt annualizationSessions varianceEpsilon champion riskFree with
      | ok championSharpe => exact if_pos hcaught
      | error e' =>
        have hthreshold : 0 ≤ varianceEpsilon := by
          rcases sampleSharpe_error hcandidate (by omega) hc with hlow | hzero
          · exact hlow.1
          · rw [hcaught] at hzero
            cases hzero.2
        have hcaught' : e'.exception = .portfolioDeltaSharpeError := by
          rcases sampleSharpe_error hchampion (by omega) hh with hlow | hzero
          · exact hlow.2
          · exact absurd hzero.1 (not_lt.mpr hthreshold)
        exact if_pos hcaught'
    · cases h

end Difference

section Deltas

variable {sqrt : α → α} {rng : Random α σ} {annualizationSessions : ℕ}
  {bootstrap : StationaryBootstrapContract α} {candidate champion riskFree : List α}

structure Common (candidate champion riskFree : List α) : Prop where
  candidate_length : candidate.length = riskFree.length
  champion_length : champion.length = riskFree.length
  two_le : 2 ≤ riskFree.length

omit [IsStrictOrderedRing α] [LinearOrder α] [Field α] in
theorem Common.exchange (h : Common candidate champion riskFree) :
    Common champion candidate riskFree := ⟨h.champion_length, h.candidate_length, h.two_le⟩

theorem resampledDeltas_exchange (common : Common candidate champion riskFree) (n : ℕ) :
    ∀ {state : σ} {deltas : List α},
      resampledDeltas sqrt rng annualizationSessions bootstrap candidate champion riskFree n state =
        .ok deltas →
      resampledDeltas sqrt rng annualizationSessions bootstrap champion candidate riskFree n state =
        .ok (deltas.map Neg.neg) := by
  have hcandidate := common.candidate_length
  have hchampion := common.champion_length
  induction n with
  | zero =>
    intro state deltas h
    cases h
    rfl
  | succ n ih =>
    intro state deltas h
    simp only [resampledDeltas, ok_iff, Prod.exists] at h
    obtain ⟨indices, next, hindices, sampledCandidate, hc, sampledChampion, hh, sampledRiskFree, hr,
      delta, hdelta, rest, hrest, rfl⟩ := h
    obtain ⟨hcount, hlt⟩ := stationaryIndices_lt hindices
    have hlength : indices.length = riskFree.length := hcount.trans hcandidate
    rw [resample_eq hlt, Except.ok.injEq] at hc
    rw [resample_eq (hchampion.trans hcandidate.symm ▸ hlt), Except.ok.injEq] at hh
    rw [resample_eq (hcandidate ▸ hlt), Except.ok.injEq] at hr
    have hexchange := caught_exchange (by rw [← hc, ← hr, length_map, length_map])
      (by rw [← hh, ← hr, length_map, length_map])
      (by rw [← hr, length_map, hlength]; exact common.two_le) hdelta
    simp only [resampledDeltas, ok_iff, Prod.exists]
    refine ⟨indices, next, ?_, _, resample_eq (hchampion.trans hcandidate.symm ▸ hlt), _,
      resample_eq hlt, _, resample_eq (hcandidate ▸ hlt), delta.map Neg.neg, ?_, _, ih hrest, ?_⟩
    · rw [hchampion, ← hcandidate]
      exact hindices
    · rw [hc, hh, hr]
      exact hexchange
    · cases delta <;> rfl

theorem bootstrapDeltas_exchange (common : Common candidate champion riskFree) {seed : σ}
    {deltas : List α}
    (h : bootstrapDeltas sqrt rng annualizationSessions bootstrap seed candidate champion riskFree =
      .ok deltas) :
    bootstrapDeltas sqrt rng annualizationSessions bootstrap seed champion candidate riskFree =
      .ok (deltas.map Neg.neg) := by
  simp only [bootstrapDeltas, ok_iff] at h ⊢
  obtain ⟨_, hdeltas, henough, rfl⟩ := h
  exact ⟨_, resampledDeltas_exchange common _ hdeltas, by rwa [length_map], rfl⟩

end Deltas

section Interval

variable [FloorRing α] {values : List α} {probability value : α}

theorem percentile_eq (hne : values ≠ []) (h0 : 0 ≤ probability * (values.length - 1))
    (hlast : probability * (values.length - 1) ≤ values.length - 1) :
    percentile values probability =
      .ok (interpolate (entry values) (probability * (values.length - 1))) := by
  have hlastInt : probability * (values.length - 1) ≤ ((values.length - 1 : ℤ) : α) := by
    push_cast
    exact hlast
  have hceil : ⌈probability * ((values.length : α) - 1)⌉ ≤ values.length - 1 :=
    Int.ceil_le.mpr hlastInt
  have hfloor : ⌊probability * ((values.length : α) - 1)⌋ ≤
      ⌈probability * ((values.length : α) - 1)⌉ := Int.floor_le_ceil _
  have hfloorNonneg : 0 ≤ ⌊probability * ((values.length : α) - 1)⌋ := Int.floor_nonneg.mpr h0
  have hlow := @item_eq_ok _ _ values _ hfloorNonneg (by omega)
  have hhigh := @item_eq_ok _ _ values _ (hfloorNonneg.trans hfloor) (by omega)
  simp only [percentile, raiseIf_neg _ hne, ok_bind, hlow, hhigh]
  split
  · rename_i heq
    rw [interpolate_of_floor_eq_ceil _ heq]
  · rfl

omit [IsStrictOrderedRing α] in
theorem percentile_le (h : percentile values probability = .ok value) : values ≠ [] ∧
    probability * (values.length - 1) ≤ values.length - 1 := by
  simp only [percentile, ok_iff] at h
  obtain ⟨hne, h⟩ := h
  have hceil : ∃ high, item values ⌈probability * ((values.length : α) - 1)⌉ = .ok high := by
    split at h
    · rename_i heq
      exact ⟨value, heq ▸ h⟩
    · simp only [bind_eq_ok] at h
      obtain ⟨_, -, high, hhigh, -⟩ := h
      exact ⟨high, hhigh⟩
  obtain ⟨high, hhigh⟩ := hceil
  have hlt := lt_of_item_eq_ok hhigh
  have hle : ⌈probability * ((values.length : α) - 1)⌉ ≤ (values.length : ℤ) - 1 := by omega
  have hlast := Int.ceil_le.mp hle
  push_cast at hlast
  exact ⟨hne, hlast⟩

structure Within (values : List α) (quantile : α) : Prop where
  ne_nil : values ≠ []
  nonneg : 0 ≤ quantile * (values.length - 1)
  le_upper : quantile * (values.length - 1) ≤ (1 - quantile) * (values.length - 1)

theorem within_of_upper {quantile : α} (hhalf : quantile ≤ 1 / 2)
    (h : percentile values (1 - quantile) = .ok value) : Within values quantile := by
  obtain ⟨hne, hlast⟩ := percentile_le h
  have hlength : (1 : α) ≤ values.length := by
    exact_mod_cast length_pos_iff.mpr hne
  refine ⟨hne, ?_, mul_le_mul_of_nonneg_right ?_ (sub_nonneg.mpr hlength)⟩
  · rw [sub_mul, one_mul] at hlast
    linarith
  · linarith

variable {quantile : α}

theorem Within.lower (h : Within values quantile) : percentile values quantile =
    .ok (interpolate (entry values) (quantile * (values.length - 1))) := by
  refine percentile_eq h.ne_nil h.nonneg ?_
  have hupper := h.le_upper
  have hnonneg := h.nonneg
  rw [sub_mul, one_mul] at hupper
  linarith

theorem Within.upper (h : Within values quantile) : percentile values (1 - quantile) =
    .ok (interpolate (entry values) ((1 - quantile) * (values.length - 1))) := by
  refine percentile_eq h.ne_nil (h.nonneg.trans h.le_upper) ?_
  have hnonneg := h.nonneg
  rw [sub_mul, one_mul]
  linarith

omit [IsStrictOrderedRing α] [FloorRing α] in
theorem Within.mirror (h : Within values quantile) : Within (mirror values) quantile := by
  refine ⟨?_, ?_, ?_⟩
  · intro hnil
    have hlength := congrArg List.length hnil
    rw [length_mirror, length_nil, length_eq_zero_iff] at hlength
    exact h.ne_nil hlength
  · rw [length_mirror]
    exact h.nonneg
  · rw [length_mirror]
    exact h.le_upper

theorem interpolate_mirror (hne : values ≠ []) (probability : α) :
    interpolate (entry (mirror values)) (probability * (values.length - 1)) =
      -interpolate (entry values) ((1 - probability) * (values.length - 1)) := by
  have hentry : entry (mirror values) = fun i => -entry values ((values.length - 1 : ℤ) - i) :=
    funext fun i => entry_mirror hne i
  rw [hentry, interpolate_reflect]
  congr 2
  push_cast
  ring

end Interval

def PortfolioCostStressResult.exchanged (result : PortfolioCostStressResult α) :
    PortfolioCostStressResult α :=
  ⟨result.costMultiplier, result.championPortfolioSharpe, result.candidatePortfolioSharpe,
    -result.deltaSharpePoint, -result.deltaSharpeUcb, -result.deltaSharpeLcb⟩

section Evaluation

variable [FloorRing α] {sqrt : α → α} {rng : Random α σ} {costMultiplier : α}
  {annualizationSessions : ℕ} {bootstrap : StationaryBootstrapContract α} {seed : σ}
  {candidate champion riskFree : List α} {result : PortfolioCostStressResult α}

structure Evaluated (sqrt : α → α) (rng : Random α σ) (annualizationSessions : ℕ)
    (bootstrap : StationaryBootstrapContract α) (seed : σ) (candidate champion riskFree : List α)
    (result : PortfolioCostStressResult α) (deltas : List α) : Prop where
  common : Common candidate champion riskFree
  candidateSharpe : sampleSharpe sqrt annualizationSessions bootstrap.varianceEpsilon candidate
    riskFree = .ok result.candidatePortfolioSharpe
  championSharpe : sampleSharpe sqrt annualizationSessions bootstrap.varianceEpsilon champion
    riskFree = .ok result.championPortfolioSharpe
  point : result.deltaSharpePoint =
    result.candidatePortfolioSharpe - result.championPortfolioSharpe
  deltas_eq : bootstrapDeltas sqrt rng annualizationSessions bootstrap seed candidate champion
    riskFree = .ok deltas
  lower : percentile (sortedBy id deltas) bootstrap.lowerQuantile = .ok result.deltaSharpeLcb
  upper : percentile (sortedBy id deltas) (1 - bootstrap.lowerQuantile) =
    .ok result.deltaSharpeUcb
  multiplier_pos : 0 < result.costMultiplier
  ordered : result.deltaSharpeLcb ≤ result.deltaSharpeUcb

omit [IsStrictOrderedRing α] in
theorem evaluatePairedSeries_eq_ok :
    evaluatePairedSeries sqrt rng costMultiplier annualizationSessions bootstrap seed candidate
        champion riskFree = .ok result ↔
      result.costMultiplier = costMultiplier ∧ ∃ deltas, Evaluated sqrt rng annualizationSessions
        bootstrap seed candidate champion riskFree result deltas := by
  simp only [evaluatePairedSeries, PortfolioCostStressResult.check, ok_iff, not_or, not_not, not_lt,
    not_le]
  constructor
  · rintro ⟨⟨hchampion, hriskFree, htwo⟩, candidateSharpe, hc, championSharpe, hh, deltas, hdeltas,
      lower, hlower, upper, hupper, ⟨hpos, hordered⟩, rfl⟩
    exact ⟨rfl, deltas, ⟨hriskFree, hchampion.symm.trans hriskFree, hriskFree ▸ htwo⟩, hc, hh, rfl,
      hdeltas, hlower, hupper, hpos, hordered⟩
  · rintro ⟨rfl, deltas, h⟩
    obtain ⟨hriskFree, hchampion, htwo⟩ := h.common
    refine ⟨⟨hriskFree.trans hchampion.symm, hriskFree, hriskFree ▸ htwo⟩, _, h.candidateSharpe, _,
      h.championSharpe, deltas, h.deltas_eq, _, h.lower, _, h.upper,
        ⟨h.multiplier_pos, h.ordered⟩, ?_⟩
    rw [← h.point]

omit [FloorRing α] in
theorem sortedBy_map_neg (deltas : List α) :
    sortedBy id (deltas.map Neg.neg) = mirror (sortedBy id deltas) := by
  have hperm : (sortedBy id (deltas.map Neg.neg)).Perm (mirror (sortedBy id deltas)) :=
    (sortedBy_perm id _).trans
      (((sortedBy_perm id deltas).symm.map Neg.neg).trans (reverse_perm _).symm)
  exact hperm.eq_of_pairwise (fun _ _ _ _ hab hba => le_antisymm hab hba)
    (sortedBy_pairwise id _) (mirror_pairwise (sortedBy_pairwise id deltas))

variable {deltas : List α}

theorem Evaluated.exchange (hhalf : bootstrap.lowerQuantile ≤ 1 / 2)
    (h : Evaluated sqrt rng annualizationSessions bootstrap seed candidate champion riskFree result
      deltas) :
    Evaluated sqrt rng annualizationSessions bootstrap seed champion candidate riskFree
      result.exchanged (deltas.map Neg.neg) := by
  have hwithin := within_of_upper hhalf h.upper
  have hlower := Except.ok.inj (hwithin.lower.symm.trans h.lower)
  have hupper := Except.ok.inj (hwithin.upper.symm.trans h.upper)
  have hmirror (probability : α) := interpolate_mirror hwithin.ne_nil probability
  refine ⟨h.common.exchange, h.championSharpe, h.candidateSharpe, ?_,
    bootstrapDeltas_exchange h.common h.deltas_eq, ?_, ?_, h.multiplier_pos, neg_le_neg h.ordered⟩
  · show -result.deltaSharpePoint = _
    rw [h.point, neg_sub]
    rfl
  · rw [sortedBy_map_neg, hwithin.mirror.lower, length_mirror, hmirror, hupper]
    rfl
  · rw [sortedBy_map_neg, hwithin.mirror.upper, length_mirror, hmirror, sub_sub_cancel, hlower]
    rfl

theorem Evaluated.bounds (hhalf : bootstrap.lowerQuantile ≤ 1 / 2)
    (h : Evaluated sqrt rng annualizationSessions bootstrap seed candidate champion riskFree result
      deltas) :
    ∃ least greatest, IsLeast {delta | delta ∈ deltas} least ∧
      IsGreatest {delta | delta ∈ deltas} greatest ∧ least ≤ result.deltaSharpeLcb ∧
      result.deltaSharpeLcb ≤ result.deltaSharpeUcb ∧ result.deltaSharpeUcb ≤ greatest := by
  have hwithin := within_of_upper hhalf h.upper
  have hlower := Except.ok.inj (hwithin.lower.symm.trans h.lower)
  have hupper := Except.ok.inj (hwithin.upper.symm.trans h.upper)
  have hsorted := sortedBy_pairwise id deltas
  have hmono := entry_mono hsorted
  have hmem (i : ℤ) : entry (sortedBy id deltas) i ∈ deltas :=
    (mem_sortedBy id).mp (entry_mem hwithin.ne_nil i)
  have hfirst := interpolate_intCast (entry (sortedBy id deltas)) 0
  have hlast := interpolate_intCast (entry (sortedBy id deltas)) ((sortedBy id deltas).length - 1)
  refine ⟨_, _, ⟨hmem 0, fun delta hdelta => ?_⟩, ⟨hmem ((sortedBy id deltas).length - 1),
    fun delta hdelta => ?_⟩, ?_, ?_, ?_⟩
  · exact (entry_bounds hsorted ((mem_sortedBy id).mpr hdelta)).1
  · exact (entry_bounds hsorted ((mem_sortedBy id).mpr hdelta)).2
  · rw [← hlower, ← hfirst]
    exact interpolate_mono hmono (by exact_mod_cast hwithin.nonneg)
  · rw [← hlower, ← hupper]
    exact interpolate_mono hmono hwithin.le_upper
  · rw [← hupper, ← hlast]
    refine interpolate_mono hmono ?_
    have hnonneg := hwithin.nonneg
    push_cast
    rw [sub_mul, one_mul]
    linarith

end Evaluation

/-- The draws are in range, the interval is ordered and within the resampled differences, and with
candidate and champion exchanged the evaluation fails alike or gives the opposite interval. -/
theorem paired_bootstrap [FloorRing α] (sqrt : α → α) (rng : Random α σ) (costMultiplier : α)
    (annualizationSessions : ℕ) (bootstrap : StationaryBootstrapContract α) (seed : σ)
    (candidate champion riskFree : List α) (hhalf : bootstrap.lowerQuantile ≤ 1 / 2) :
    (∀ (count : ℕ) (state next : σ) (indices : List ℕ),
      stationaryIndices rng count bootstrap.expectedBlockSessions state = .ok (indices, next) →
        indices.length = count ∧ ∀ index ∈ indices, index < count) ∧
    (∀ result, evaluatePairedSeries sqrt rng costMultiplier annualizationSessions bootstrap seed
        candidate champion riskFree = .ok result →
      ∃ deltas least greatest, bootstrapDeltas sqrt rng annualizationSessions bootstrap seed
        candidate
          champion riskFree = .ok deltas ∧
        IsLeast {delta | delta ∈ deltas} least ∧ IsGreatest {delta | delta ∈ deltas} greatest ∧
        least ≤ result.deltaSharpeLcb ∧ result.deltaSharpeLcb ≤ result.deltaSharpeUcb ∧
        result.deltaSharpeUcb ≤ greatest) ∧
    ((∃ e, evaluatePairedSeries sqrt rng costMultiplier annualizationSessions bootstrap
      seed champion
        candidate riskFree = .error e) ↔
      ∃ e, evaluatePairedSeries sqrt rng costMultiplier annualizationSessions bootstrap seed
        candidate
        champion riskFree = .error e) ∧
    ∀ result, evaluatePairedSeries sqrt rng costMultiplier annualizationSessions bootstrap seed
        candidate champion riskFree = .ok result →
      evaluatePairedSeries sqrt rng costMultiplier annualizationSessions bootstrap seed champion
        candidate riskFree = .ok result.exchanged := by
  have hexchange {candidate champion : List α} {result : PortfolioCostStressResult α}
      (h : evaluatePairedSeries sqrt rng costMultiplier annualizationSessions bootstrap seed
        candidate
        champion riskFree = .ok result) :
      evaluatePairedSeries sqrt rng costMultiplier annualizationSessions bootstrap seed champion
        candidate riskFree = .ok result.exchanged := by
    obtain ⟨hmultiplier, deltas, hevaluated⟩ := evaluatePairedSeries_eq_ok.mp h
    exact evaluatePairedSeries_eq_ok.mpr ⟨hmultiplier, _, hevaluated.exchange hhalf⟩
  have hfails {candidate champion : List α}
      (h : ∃ e, evaluatePairedSeries sqrt rng costMultiplier annualizationSessions bootstrap seed
        candidate champion riskFree = .error e) :
      ∃ e, evaluatePairedSeries sqrt rng costMultiplier annualizationSessions bootstrap
        seed champion
        candidate riskFree = .error e := by
    obtain ⟨e, herror⟩ := h
    cases hother : evaluatePairedSeries sqrt rng costMultiplier annualizationSessions bootstrap seed
        champion candidate riskFree with
    | error e' => exact ⟨e', rfl⟩
    | ok result =>
      have hback := hexchange hother
      rw [herror] at hback
      cases hback
  refine ⟨fun count state next indices => stationaryIndices_lt, fun result h => ?_,
    ⟨hfails, hfails⟩, fun result => hexchange⟩
  obtain ⟨-, deltas, hevaluated⟩ := evaluatePairedSeries_eq_ok.mp h
  obtain ⟨least, greatest, hbounds⟩ := hevaluated.bounds hhalf
  exact ⟨deltas, least, greatest, hevaluated.deltas_eq, hbounds⟩

def squareRoot (value : ℚ) : ℚ := Nat.sqrt value.num.natAbs / Nat.sqrt value.den

/-- A generator that lets the first block run on, and then starts every block with session 0. -/
def sampleRandom : Random ℚ ℕ where
  randrange _ state := (0, state + 1)
  random state := (if state < 4 then 1 else 0, state + 1)
  randrange_lt _ hcount := hcount

def sampleBootstrap : StationaryBootstrapContract ℚ where
  samples := 2
  expectedBlockSessions := 1
  lowerQuantile := 1 / 40
  varianceEpsilon := 1 / 10 ^ 12

def sampleResult : PortfolioCostStressResult ℚ := ⟨1, 2, 0, 2, 2, 2⟩

theorem sample_exchanged :
    evaluatePairedSeries squareRoot sampleRandom 1 4 sampleBootstrap 0
      [0, 1 / 50, 1 / 25] [-1 / 100, 0, 1 / 100] [0, 0, 0] = .ok sampleResult ∧
    evaluatePairedSeries squareRoot sampleRandom 1 4 sampleBootstrap 0
      [-1 / 100, 0, 1 / 100] [0, 1 / 50, 1 / 25] [0, 0, 0] = .ok sampleResult.exchanged :=
  have hevaluated : evaluatePairedSeries squareRoot sampleRandom 1 4 sampleBootstrap 0
      [0, 1 / 50, 1 / 25] [-1 / 100, 0, 1 / 100] [0, 0, 0] = .ok sampleResult := by decide +kernel
  ⟨hevaluated, (paired_bootstrap squareRoot sampleRandom 1 4 sampleBootstrap 0 _ _ _
    (by decide +kernel)).2.2.2 _ hevaluated⟩

end AdaptiveQuant.DeltaSharpe
