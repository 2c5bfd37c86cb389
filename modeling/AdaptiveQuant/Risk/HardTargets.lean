import AdaptiveQuant.Risk.StateMachine
import Mathlib.Algebra.BigOperators.Ring.List

/-! The targets that a loss calls for. -/

namespace AdaptiveQuant

open Guard Sequence List

def midpointOf (quotes : Dict String RiskQuote) (symbol : String) : Decimal :=
  ((quotes.get? symbol).map (·.midpoint)).getD 0

def valueOf (quotes : Dict String RiskQuote) (entry : String × Decimal) : Decimal :=
  entry.2 * midpointOf quotes entry.1

theorem quoteMidpoint_ok {quotes} {symbol : String} {midpoint : Decimal}
    (h : quoteMidpoint quotes symbol = .ok midpoint) :
    midpoint = midpointOf quotes symbol ∧ 0 < midpoint := by
  unfold quoteMidpoint at h
  split at h
  · rename_i quote hquote
    cases h
    exact ⟨by simp [midpointOf, hquote], quote.midpoint_pos⟩
  · cases h

theorem RiskEngineConfig.cap_nonneg (config : RiskEngineConfig) {value : Decimal}
    (h : value ∈ config.fractions) : 0 ≤ value := by
  have hvalid := config.valid
  simp only [RiskEngineConfigFields.validate, ok_iff] at hvalid
  obtain ⟨-, -, -, hfractions, -⟩ := hvalid
  by_contra hnegative
  exact hfractions ⟨value, h, .inl (not_le.mp hnegative)⟩

section Arms

variable {positions : Dict String Decimal} {quotes : Dict String RiskQuote} {nav : Decimal}
  {config : RiskEngineConfig} {quantities : List (String × Decimal)}

/-- The positions that `_q1_hard_targets` reduces. -/
def q1Eligible (positions : Dict String Decimal) : Dict String Decimal :=
  positions.filter fun symbol _ => symbol ∈ ["QQQ", "SOXX"]

def soxxCapped (quotes : Dict String RiskQuote) (nav : Decimal) (config : RiskEngineConfig)
    (entry : String × Decimal) : Decimal :=
  if entry.1 = "SOXX" then min (valueOf quotes entry) (nav * config.q1HardSoxxWeightCap)
  else valueOf quotes entry

def capFactor (total cap : Decimal) : Decimal := if cap < total then cap / total else 1

def q1TargetValue (positions : Dict String Decimal) (quotes : Dict String RiskQuote)
    (nav : Decimal) (config : RiskEngineConfig) (entry : String × Decimal) : Decimal :=
  soxxCapped quotes nav config entry *
    capFactor ((q1Eligible positions).entries.map (soxxCapped quotes nav config)).sum
      (nav * config.q1HardGrossCap)

theorem capFactor_mem {total cap : Decimal} (total_nonneg : 0 ≤ total) (cap_nonneg : 0 ≤ cap) :
    0 ≤ capFactor total cap ∧ capFactor total cap ≤ 1 ∧ total * capFactor total cap ≤ cap := by
  unfold capFactor
  split
  · rename_i hover
    refine ⟨div_nonneg cap_nonneg total_nonneg, div_le_one_of_le₀ hover.le total_nonneg, ?_⟩
    rw [mul_div_cancel₀ cap (cap_nonneg.trans_lt hover).ne']
  · rename_i hover
    rw [mul_one]
    exact ⟨zero_le_one, le_refl 1, not_lt.mp hover⟩

theorem q1HardTargets_ok (h : q1HardTargets positions quotes nav config = .ok quantities) :
    (∀ entry ∈ (q1Eligible positions).entries, 0 < midpointOf quotes entry.1) ∧
    quantities = (q1Eligible positions).entries.map fun entry =>
      (entry.1, quantizeDown (q1TargetValue positions quotes nav config entry /
        midpointOf quotes entry.1) config.quantityPrecision) := by
  simp only [q1HardTargets, bind_eq_ok] at h
  obtain ⟨values, hvalues, h⟩ := h
  have hpos : ∀ entry ∈ (q1Eligible positions).entries, 0 < midpointOf quotes entry.1 := by
    intro entry hentry
    obtain ⟨value, -, hvalue⟩ := exists_of_mapM_eq_ok hvalues entry hentry
    simp only [ok_iff] at hvalue
    obtain ⟨midpoint, hmidpoint, -⟩ := hvalue
    obtain ⟨rfl, hpositive⟩ := quoteMidpoint_ok hmidpoint
    exact hpositive
  have hlist : values.map id = (q1Eligible positions).entries.map fun entry =>
      (entry.1, valueOf quotes entry) := by
    refine map_of_mapM_eq_ok (fun entry value hvalue => ?_) hvalues
    simp only [ok_iff] at hvalue
    obtain ⟨midpoint, hmidpoint, rfl⟩ := hvalue
    rw [(quoteMidpoint_ok hmidpoint).1]
    rfl
  rw [map_id] at hlist
  subst hlist
  have hcapped : (((q1Eligible positions).entries.map fun entry =>
      (entry.1, valueOf quotes entry)).map fun item => (item.1, if item.1 = "SOXX" then
        min item.2 (nav * config.q1HardSoxxWeightCap) else item.2)) =
      (q1Eligible positions).entries.map fun entry =>
        (entry.1, soxxCapped quotes nav config entry) := by
    rw [map_map]
    rfl
  have hscaled : (if nav * config.q1HardGrossCap <
        (((q1Eligible positions).entries.map fun entry =>
          (entry.1, soxxCapped quotes nav config entry)).map (·.2)).sum then
      ((q1Eligible positions).entries.map fun entry =>
        (entry.1, soxxCapped quotes nav config entry)).map fun item =>
          (item.1, item.2 * (nav * config.q1HardGrossCap /
            (((q1Eligible positions).entries.map fun entry =>
              (entry.1, soxxCapped quotes nav config entry)).map (·.2)).sum))
      else (q1Eligible positions).entries.map fun entry =>
        (entry.1, soxxCapped quotes nav config entry)) =
      (q1Eligible positions).entries.map fun entry =>
        (entry.1, q1TargetValue positions quotes nav config entry) := by
    simp only [map_map, Function.comp_def, q1TargetValue, capFactor]
    split
    · rfl
    · simp only [mul_one]
  rw [hcapped, hscaled] at h
  refine ⟨hpos, ?_⟩
  have hquantities : quantities.map id = ((q1Eligible positions).entries.map fun entry =>
      (entry.1, q1TargetValue positions quotes nav config entry)).map fun item =>
        (item.1, quantizeDown (item.2 / midpointOf quotes item.1) config.quantityPrecision) := by
    refine map_of_mapM_eq_ok (fun item quantity hquantity => ?_) h
    simp only [ok_iff] at hquantity
    obtain ⟨midpoint, hmidpoint, rfl⟩ := hquantity
    rw [(quoteMidpoint_ok hmidpoint).1]
    rfl
  rw [map_id, map_map] at hquantities
  exact hquantities

def AllHeld (positions : Dict String Decimal) : Prop :=
  ∀ entry ∈ positions.entries, 0 < entry.2

theorem q1Eligible_mem {entry} (h : entry ∈ (q1Eligible positions).entries) :
    entry ∈ positions.entries ∧ (entry.1 = "QQQ" ∨ entry.1 = "SOXX") := by
  obtain ⟨hmem, hsymbol⟩ := mem_filter.mp h
  exact ⟨hmem, by simpa using hsymbol⟩

theorem soxxCapped_mem (held : AllHeld positions) (hnav : 0 ≤ nav) {entry}
    (hentry : entry ∈ positions.entries) (hmid : 0 < midpointOf quotes entry.1) :
    0 ≤ soxxCapped quotes nav config entry ∧
      soxxCapped quotes nav config entry ≤ valueOf quotes entry := by
  have hvalue : 0 ≤ valueOf quotes entry := mul_nonneg (held entry hentry).le hmid.le
  have hcap : 0 ≤ nav * config.q1HardSoxxWeightCap :=
    mul_nonneg hnav (config.cap_nonneg (by simp [RiskEngineConfigFields.fractions]))
  unfold soxxCapped
  split
  · exact ⟨le_min hvalue hcap, min_le_left _ _⟩
  · exact ⟨hvalue, le_refl _⟩

theorem quantize_value {value midpoint : Decimal} {q : Quantum} (hvalue : 0 ≤ value)
    (hmid : 0 < midpoint) : 0 ≤ quantizeDown (value / midpoint) q ∧
      quantizeDown (value / midpoint) q * midpoint ≤ value := by
  have hquantity : 0 ≤ value / midpoint := div_nonneg hvalue hmid.le
  exact ⟨quantizeDown_nonneg hquantity, (le_div_iff₀ hmid).mp (quantizeDown_le hquantity)⟩

theorem q1HardTargets_spec (held : AllHeld positions) (hnav : 0 ≤ nav)
    (h : q1HardTargets positions quotes nav config = .ok quantities) :
    (∀ entry ∈ quantities, 0 ≤ entry.2 ∧ entry.2 ≤ positions.getD entry.1 0) ∧
      quantities.map (·.1) = (q1Eligible positions).keys ∧
      (quantities.map (valueOf quotes)).sum ≤ nav * config.q1HardGrossCap ∧
      ∀ entry ∈ quantities, entry.1 = "SOXX" →
        valueOf quotes entry ≤ nav * config.q1HardSoxxWeightCap := by
  obtain ⟨hmid, rfl⟩ := q1HardTargets_ok h
  have hgross : 0 ≤ nav * config.q1HardGrossCap :=
    mul_nonneg hnav (config.cap_nonneg (by simp [RiskEngineConfigFields.fractions]))
  have hcapped : ∀ entry ∈ (q1Eligible positions).entries,
      0 ≤ soxxCapped quotes nav config entry ∧
        soxxCapped quotes nav config entry ≤ valueOf quotes entry := fun entry hentry =>
    soxxCapped_mem held hnav (q1Eligible_mem hentry).1 (hmid entry hentry)
  have htotal : 0 ≤ ((q1Eligible positions).entries.map (soxxCapped quotes nav config)).sum :=
    sum_nonneg (forall_mem_map.mpr fun entry hentry => (hcapped entry hentry).1)
  obtain ⟨hfactor, hunit, hcap⟩ := capFactor_mem htotal hgross
  have htarget : ∀ entry ∈ (q1Eligible positions).entries,
      0 ≤ q1TargetValue positions quotes nav config entry ∧
        q1TargetValue positions quotes nav config entry ≤ soxxCapped quotes nav config entry :=
    fun entry hentry => ⟨mul_nonneg (hcapped entry hentry).1 hfactor,
      mul_le_of_le_one_right (hcapped entry hentry).1 hunit⟩
  have hvalue : ∀ entry ∈ (q1Eligible positions).entries,
      valueOf quotes (entry.1, quantizeDown (q1TargetValue positions quotes nav config entry /
        midpointOf quotes entry.1) config.quantityPrecision) ≤
          q1TargetValue positions quotes nav config entry := fun entry hentry =>
    (quantize_value (htarget entry hentry).1 (hmid entry hentry)).2
  refine ⟨?_, ?_, ?_, ?_⟩
  · refine forall_mem_map.mpr fun entry hentry => ⟨?_, ?_⟩
    · exact (quantize_value (htarget entry hentry).1 (hmid entry hentry)).1
    · have hle := ((hvalue entry hentry).trans (htarget entry hentry).2).trans
        (hcapped entry hentry).2
      have hquantity : positions.getD entry.1 0 = entry.2 :=
        Dict.getD_of_get? (Dict.get?_eq_some.mpr (q1Eligible_mem hentry).1)
      rw [hquantity]
      exact le_of_mul_le_mul_right hle (hmid entry hentry)
  · rw [map_map]
    rfl
  · rw [map_map]
    calc _ ≤ ((q1Eligible positions).entries.map
          (q1TargetValue positions quotes nav config)).sum := sum_le_sum hvalue
      _ = ((q1Eligible positions).entries.map (soxxCapped quotes nav config)).sum *
          capFactor ((q1Eligible positions).entries.map (soxxCapped quotes nav config)).sum
            (nav * config.q1HardGrossCap) := sum_map_mul_right _ _ _
      _ ≤ nav * config.q1HardGrossCap := hcap
  · refine forall_mem_map.mpr fun entry hentry hsoxx => ?_
    refine ((hvalue entry hentry).trans (htarget entry hentry).2).trans ?_
    change entry.1 = "SOXX" at hsoxx
    rw [soxxCapped, if_pos hsoxx]
    exact min_le_right _ _

def leveragedHeld (positions : Dict String Decimal) (config : RiskEngineConfig) :
    Dict String Decimal :=
  positions.filter fun symbol quantity => 0 < quantity ∧ symbol ∈ config.leveragedSymbols

def semiconductorsHeld (positions : Dict String Decimal) (config : RiskEngineConfig) :
    Dict String Decimal :=
  positions.filter fun symbol quantity =>
    0 < quantity ∧ symbol ∈ config.semiconductorSymbols ∧ symbol ∉ config.leveragedSymbols

def semiconductorFactor (positions : Dict String Decimal) (quotes : Dict String RiskQuote)
    (nav : Decimal) (config : RiskEngineConfig) : Decimal :=
  capFactor ((semiconductorsHeld positions config).entries.map (valueOf quotes)).sum
    (nav * config.liveMirrorSemiconductorWeightCap)

theorem liveMirrorHardTargets_ok
    (h : liveMirrorHardTargets positions quotes nav config = .ok quantities) :
    (∀ entry ∈ (semiconductorsHeld positions config).entries, 0 < midpointOf quotes entry.1) ∧
    quantities = (leveragedHeld positions config).entries.map (fun entry => (entry.1, 0)) ++
      (semiconductorsHeld positions config).entries.map fun entry =>
        (entry.1, quantizeDown (entry.2 * semiconductorFactor positions quotes nav config)
          config.quantityPrecision) := by
  simp only [liveMirrorHardTargets, ok_iff] at h
  obtain ⟨values, hvalues, rfl⟩ := h
  have hlist : values.map id =
      (semiconductorsHeld positions config).entries.map (valueOf quotes) := by
    refine map_of_mapM_eq_ok (fun entry value hvalue => ?_) hvalues
    simp only [ok_iff] at hvalue
    obtain ⟨midpoint, hmidpoint, rfl⟩ := hvalue
    rw [(quoteMidpoint_ok hmidpoint).1]
    rfl
  rw [map_id] at hlist
  refine ⟨fun entry hentry => ?_, ?_⟩
  · obtain ⟨value, -, hvalue⟩ := exists_of_mapM_eq_ok hvalues entry hentry
    simp only [ok_iff] at hvalue
    obtain ⟨midpoint, hmidpoint, -⟩ := hvalue
    obtain ⟨rfl, hpositive⟩ := quoteMidpoint_ok hmidpoint
    exact hpositive
  · have hfactor : (if values.sum ≤ nav * config.liveMirrorSemiconductorWeightCap then 1
        else nav * config.liveMirrorSemiconductorWeightCap / values.sum) =
          semiconductorFactor positions quotes nav config := by
      rw [semiconductorFactor, capFactor, ← hlist]
      by_cases hover : values.sum ≤ nav * config.liveMirrorSemiconductorWeightCap
      · rw [if_pos hover, if_neg (not_lt.mpr hover)]
      · rw [if_neg hover, if_pos (not_le.mp hover)]
    rw [hfactor]
    rfl

theorem liveMirrorHardTargets_spec (hnav : 0 ≤ nav)
    (h : liveMirrorHardTargets positions quotes nav config = .ok quantities) :
    (∀ entry ∈ quantities, 0 ≤ entry.2 ∧ entry.2 ≤ positions.getD entry.1 0) ∧
      quantities.map (·.1) =
        (leveragedHeld positions config).keys ++ (semiconductorsHeld positions config).keys ∧
      (∀ entry ∈ quantities, entry.1 ∈ config.leveragedSymbols → entry.2 = 0) ∧
      (quantities.map (valueOf quotes)).sum ≤ nav * config.liveMirrorSemiconductorWeightCap := by
  obtain ⟨hmid, rfl⟩ := liveMirrorHardTargets_ok h
  have hcap : 0 ≤ nav * config.liveMirrorSemiconductorWeightCap :=
    mul_nonneg hnav (config.cap_nonneg (by simp [RiskEngineConfigFields.fractions]))
  have hleveraged : ∀ entry ∈ (leveragedHeld positions config).entries,
      entry ∈ positions.entries ∧ 0 < entry.2 := by
    intro entry hentry
    obtain ⟨hmem, hheld⟩ := mem_filter.mp hentry
    exact ⟨hmem, (of_decide_eq_true hheld).1⟩
  have hsemiconductor : ∀ entry ∈ (semiconductorsHeld positions config).entries,
      entry ∈ positions.entries ∧ 0 < entry.2 ∧ entry.1 ∉ config.leveragedSymbols := by
    intro entry hentry
    obtain ⟨hmem, hheld⟩ := mem_filter.mp hentry
    obtain ⟨hquantity, -, hunleveraged⟩ := of_decide_eq_true hheld
    exact ⟨hmem, hquantity, hunleveraged⟩
  have hquantity : ∀ entry ∈ positions.entries, positions.getD entry.1 0 = entry.2 :=
    fun entry hentry => Dict.getD_of_get? (Dict.get?_eq_some.mpr hentry)
  have htotal : 0 ≤ ((semiconductorsHeld positions config).entries.map (valueOf quotes)).sum :=
    sum_nonneg (forall_mem_map.mpr fun entry hentry =>
      mul_nonneg (hsemiconductor entry hentry).2.1.le (hmid entry hentry).le)
  obtain ⟨hfactor, hunit, hfits⟩ := capFactor_mem htotal hcap
  have hscaled : ∀ entry ∈ (semiconductorsHeld positions config).entries,
      0 ≤ entry.2 * semiconductorFactor positions quotes nav config := fun entry hentry =>
    mul_nonneg (hsemiconductor entry hentry).2.1.le hfactor
  refine ⟨?_, ?_, ?_, ?_⟩
  · intro entry hentry
    rcases mem_append.mp hentry with hentry | hentry
    · obtain ⟨source, hsource, rfl⟩ := mem_map.mp hentry
      obtain ⟨hmem, hheld⟩ := hleveraged source hsource
      change 0 ≤ (0 : Decimal) ∧ 0 ≤ positions.getD source.1 0
      rw [hquantity source hmem]
      exact ⟨le_refl 0, hheld.le⟩
    · obtain ⟨source, hsource, rfl⟩ := mem_map.mp hentry
      obtain ⟨hmem, hheld, -⟩ := hsemiconductor source hsource
      refine ⟨quantizeDown_nonneg (hscaled source hsource), ?_⟩
      change quantizeDown _ _ ≤ positions.getD source.1 0
      rw [hquantity source hmem]
      exact (quantizeDown_le (hscaled source hsource)).trans
        (mul_le_of_le_one_right hheld.le hunit)
  · rw [map_append, map_map, map_map]
    rfl
  · intro entry hentry hsymbol
    rcases mem_append.mp hentry with hentry | hentry
    · obtain ⟨source, -, rfl⟩ := mem_map.mp hentry
      rfl
    · obtain ⟨source, hsource, rfl⟩ := mem_map.mp hentry
      exact absurd hsymbol (hsemiconductor source hsource).2.2
  · have hzero : ((leveragedHeld positions config).entries.map fun entry =>
        valueOf quotes (entry.1, 0)).sum = 0 := by
      refine sum_eq_zero (forall_mem_map.mpr fun entry _ => ?_)
      rw [valueOf, zero_mul]
    rw [map_append, sum_append, map_map, map_map]
    change ((leveragedHeld positions config).entries.map fun entry =>
      valueOf quotes (entry.1, 0)).sum + _ ≤ _
    rw [hzero, zero_add]
    calc _ ≤ ((semiconductorsHeld positions config).entries.map fun entry =>
          valueOf quotes entry * semiconductorFactor positions quotes nav config).sum := by
          refine sum_le_sum fun entry hentry => ?_
          calc quantizeDown (entry.2 * semiconductorFactor positions quotes nav config)
                config.quantityPrecision * midpointOf quotes entry.1
              ≤ entry.2 * semiconductorFactor positions quotes nav config *
                  midpointOf quotes entry.1 :=
                mul_le_mul_of_nonneg_right (quantizeDown_le (hscaled entry hentry))
                  (hmid entry hentry).le
            _ = valueOf quotes entry * semiconductorFactor positions quotes nav config := by
              rw [valueOf]
              ring
      _ = ((semiconductorsHeld positions config).entries.map (valueOf quotes)).sum *
            semiconductorFactor positions quotes nav config := sum_map_mul_right _ _ _
      _ ≤ nav * config.liveMirrorSemiconductorWeightCap := hfits

variable {hash : Hashing} {check : RiskCheckInput} {metrics : RiskMetrics}
  {severity : RiskSeverity} {generation : ℕ} {targets : List RiskTarget}

def RiskCheckFields.targetValue (check : RiskCheckFields) (target : RiskTarget) : Decimal :=
  valueOf check.quotes (target.symbol, target.targetQuantity)

def reducedSymbol (config : RiskEngineConfig) (severity : RiskSeverity) (armId : Q1ArmId)
    (symbol : String) : Prop :=
  match severity, armId with
  | .criticalExit, _ => True
  | _, .q1Det | _, .q1Llm => symbol ∈ ["QQQ", "SOXX"]
  | _, .liveMirror => symbol ∈ config.leveragedSymbols ∨ symbol ∈ config.semiconductorSymbols
  | _, _ => False

def RiskCheckFields.positive (check : RiskCheckFields) : Dict String Decimal :=
  check.positions.filter fun _ quantity => 0 < quantity

theorem positive_held (check : RiskCheckFields) : AllHeld check.positive := by
  intro entry hentry
  exact of_decide_eq_true (mem_filter.mp hentry).2

theorem buildTargets_ok
    (h : buildTargets hash check metrics severity config generation = .ok targets) :
    ∃ quantities, (check.positive.entries = [] ∧ quantities = [] ∨
        targetQuantities check metrics severity config check.positive = .ok quantities) ∧
      targets.map (fun target => (target.symbol, target.targetQuantity)) =
        sortedBy (·.1) quantities := by
  have hpositive : check.positions.filter (fun _ quantity => decide (0 < quantity)) =
    check.positive := rfl
  simp only [buildTargets, hpositive] at h
  split at h
  · rename_i hempty
    cases h
    exact ⟨[], .inl ⟨hempty, rfl⟩, rfl⟩
  · simp only [bind_eq_ok] at h
    obtain ⟨quantities, hquantities, htargets⟩ := h
    refine ⟨quantities, .inr hquantities, ?_⟩
    have hmap := map_of_mapM_eq_ok (k := id)
      (g := fun target : RiskTarget => (target.symbol, target.targetQuantity))
      (fun entry target htarget => ?_) htargets
    · rw [hmap, map_id]
    · obtain ⟨symbol, quantity⟩ := entry
      simp only [buildTarget] at htarget
      split at htarget
      · cases htarget
      · rw [RiskTarget.construct_eq_ok] at htarget
        rw [htarget]
        rfl

/-- What the targets of a reduction are. -/
structure ReducedTargets (config : RiskEngineConfig) (check : RiskCheckInput) (nav : Decimal)
    (severity : RiskSeverity) (targets : List RiskTarget) : Prop where
  within : ∀ target ∈ targets, 0 ≤ target.targetQuantity ∧
    target.targetQuantity ≤ check.positions.getD target.symbol 0
  covered : ∀ symbol, 0 < check.positions.getD symbol 0 →
    reducedSymbol config severity check.armId symbol → ∃ target ∈ targets, target.symbol = symbol
  critical : severity = .criticalExit → ∀ target ∈ targets, target.targetQuantity = 0
  q1 : severity ≠ .criticalExit → check.armId = .q1Det ∨ check.armId = .q1Llm →
    (targets.map check.targetValue).sum ≤ nav * config.q1HardGrossCap ∧
      ∀ target ∈ targets, target.symbol = "SOXX" →
        check.targetValue target ≤ nav * config.q1HardSoxxWeightCap
  liveMirror : severity ≠ .criticalExit → check.armId = .liveMirror →
    (∀ target ∈ targets, target.symbol ∈ config.leveragedSymbols → target.targetQuantity = 0) ∧
      (targets.map check.targetValue).sum ≤ nav * config.liveMirrorSemiconductorWeightCap

theorem positive_getD_le (check : RiskCheckInput) (symbol : String) :
    check.positive.getD symbol 0 ≤ check.positions.getD symbol 0 := by
  have hvalid := check.valid
  simp only [RiskCheckFields.validate, ok_iff] at hvalid
  obtain ⟨-, -, -, -, -, hshort, -⟩ := hvalid
  rw [Dict.getD, Dict.getD, RiskCheckFields.positive, Dict.get?_filter]
  cases hget : check.positions.get? symbol with
  | none => exact le_refl _
  | some quantity =>
    have hnonneg : 0 ≤ quantity := by
      by_contra hnegative
      exact hshort ⟨quantity, mem_map_of_mem (Dict.get?_eq_some.mp hget), not_le.mp hnegative⟩
    rw [Option.filter]
    split
    · exact le_refl _
    · exact hnonneg

theorem getD_positive {check : RiskCheckFields} {symbol : String}
    (h : 0 < check.positions.getD symbol 0) : symbol ∈ check.positive.keys := by
  cases hget : check.positions.get? symbol with
  | none =>
    rw [Dict.getD, hget] at h
    exact absurd h (lt_irrefl _)
  | some quantity =>
    rw [Dict.getD_of_get? hget] at h
    have hmem : (symbol, quantity) ∈ check.positive.entries :=
      mem_filter.mpr ⟨Dict.get?_eq_some.mp hget, decide_eq_true h⟩
    exact mem_map_of_mem hmem

structure ReducedQuantities (config : RiskEngineConfig) (check : RiskCheckInput) (nav : Decimal)
    (severity : RiskSeverity) (quantities : List (String × Decimal)) : Prop where
  within : ∀ entry ∈ quantities, 0 ≤ entry.2 ∧ entry.2 ≤ check.positive.getD entry.1 0
  covered : ∀ symbol ∈ check.positive.keys, reducedSymbol config severity check.armId symbol →
    ∃ entry ∈ quantities, entry.1 = symbol
  critical : severity = .criticalExit → ∀ entry ∈ quantities, entry.2 = 0
  q1 : severity ≠ .criticalExit → check.armId = .q1Det ∨ check.armId = .q1Llm →
    (quantities.map (valueOf check.quotes)).sum ≤ nav * config.q1HardGrossCap ∧
      ∀ entry ∈ quantities, entry.1 = "SOXX" →
        valueOf check.quotes entry ≤ nav * config.q1HardSoxxWeightCap
  liveMirror : severity ≠ .criticalExit → check.armId = .liveMirror →
    (∀ entry ∈ quantities, entry.1 ∈ config.leveragedSymbols → entry.2 = 0) ∧
      (quantities.map (valueOf check.quotes)).sum ≤
        nav * config.liveMirrorSemiconductorWeightCap

theorem criticalTargets_reduce (hcritical : severity = .criticalExit) :
    ReducedQuantities config check nav severity
      (check.positive.entries.map fun entry => (entry.1, 0)) := by
  refine ⟨forall_mem_map.mpr fun entry hentry => ⟨le_refl 0, ?_⟩, fun symbol hsymbol _ => ?_,
    fun _ => forall_mem_map.mpr fun _ _ => rfl, fun hhard => absurd hcritical hhard,
    fun hhard => absurd hcritical hhard⟩
  · rw [Dict.getD_of_get? (Dict.get?_eq_some.mpr hentry)]
    exact (positive_held check.toRiskCheckFields entry hentry).le
  · obtain ⟨entry, hentry, rfl⟩ := mem_map.mp hsymbol
    exact ⟨(entry.1, 0), mem_map_of_mem hentry, rfl⟩

theorem q1Targets_reduce (hnav : 0 ≤ nav) (hhard : severity ≠ .criticalExit)
    (harm : check.armId = .q1Det ∨ check.armId = .q1Llm)
    (h : q1HardTargets check.positive check.quotes nav config = .ok quantities) :
    ReducedQuantities config check nav severity quantities := by
  obtain ⟨hwithin, hsymbols, hgross, hsoxx⟩ := q1HardTargets_spec (positive_held _) hnav h
  refine ⟨hwithin, fun symbol hsymbol hreduced => ?_, fun hcritical => absurd hcritical hhard,
    fun _ _ => ⟨hgross, hsoxx⟩, fun _ hmirror => ?_⟩
  · have heligible : symbol ∈ ["QQQ", "SOXX"] := by
      rcases harm with harm | harm <;> rw [harm] at hreduced <;> cases severity <;>
        first | exact hreduced | exact absurd rfl hhard
    have hmem : symbol ∈ quantities.map (·.1) := by
      obtain ⟨entry, hentry, rfl⟩ := mem_map.mp hsymbol
      rw [hsymbols]
      exact mem_map_of_mem (mem_filter.mpr ⟨hentry, decide_eq_true heligible⟩)
    obtain ⟨entry, hentry, rfl⟩ := mem_map.mp hmem
    exact ⟨entry, hentry, rfl⟩
  · rcases harm with harm | harm <;> rw [harm] at hmirror <;> cases hmirror

theorem liveMirrorTargets_reduce (hnav : 0 ≤ nav) (hhard : severity ≠ .criticalExit)
    (harm : check.armId = .liveMirror)
    (h : liveMirrorHardTargets check.positive check.quotes nav config = .ok quantities) :
    ReducedQuantities config check nav severity quantities := by
  obtain ⟨hwithin, hsymbols, hleveraged, hcap⟩ := liveMirrorHardTargets_spec hnav h
  refine ⟨hwithin, fun symbol hsymbol hreduced => ?_, fun hcritical => absurd hcritical hhard,
    fun _ hq1 => ?_, fun _ _ => ⟨hleveraged, hcap⟩⟩
  · have hgroup : symbol ∈ config.leveragedSymbols ∨ symbol ∈ config.semiconductorSymbols := by
      rw [harm] at hreduced
      cases severity <;> first | exact hreduced | exact absurd rfl hhard
    have hmem : symbol ∈ quantities.map (·.1) := by
      obtain ⟨entry, hentry, rfl⟩ := mem_map.mp hsymbol
      have hheld := positive_held check.toRiskCheckFields entry hentry
      rw [hsymbols, mem_append]
      by_cases hsymbol : entry.1 ∈ config.leveragedSymbols
      · exact .inl (mem_map_of_mem
          (mem_filter.mpr ⟨hentry, decide_eq_true ⟨hheld, hsymbol⟩⟩))
      · exact .inr (mem_map_of_mem (mem_filter.mpr
          ⟨hentry, decide_eq_true ⟨hheld, hgroup.resolve_left hsymbol, hsymbol⟩⟩))
    obtain ⟨entry, hentry, rfl⟩ := mem_map.mp hmem
    exact ⟨entry, hentry, rfl⟩
  · rcases hq1 with hq1 | hq1 <;> rw [harm] at hq1 <;> cases hq1

theorem targetQuantities_spec (hnav : 0 ≤ metrics.currentNavUsd)
    (h : targetQuantities check metrics severity config check.positive = .ok quantities) :
    ReducedQuantities config check metrics.currentNavUsd severity quantities := by
  by_cases hcritical : severity = .criticalExit
  · have hzero : quantities = check.positive.entries.map fun entry => (entry.1, 0) := by
      rw [hcritical] at h
      exact (Except.ok.inj h).symm
    rw [hzero]
    exact criticalTargets_reduce hcritical
  · unfold targetQuantities at h
    split at h
    · exact absurd rfl hcritical
    · rename_i harm
      exact q1Targets_reduce hnav hcritical (.inl harm) h
    · rename_i harm
      exact q1Targets_reduce hnav hcritical (.inr harm) h
    · rename_i harm
      exact liveMirrorTargets_reduce hnav hcritical harm h
    · cases h

theorem reducedQuantities_nil (hnav : 0 ≤ nav) (h : check.positive.entries = []) :
    ReducedQuantities config check nav severity [] := by
  refine ⟨fun _ hentry => absurd hentry not_mem_nil, fun symbol hsymbol => ?_,
    fun _ _ hentry => absurd hentry not_mem_nil,
    fun _ _ => ⟨?_, fun _ hentry => absurd hentry not_mem_nil⟩,
    fun _ _ => ⟨fun _ hentry => absurd hentry not_mem_nil, ?_⟩⟩
  · rw [Dict.keys, h] at hsymbol
    exact absurd hsymbol not_mem_nil
  · exact mul_nonneg hnav (config.cap_nonneg (by simp [RiskEngineConfigFields.fractions]))
  · exact mul_nonneg hnav (config.cap_nonneg (by simp [RiskEngineConfigFields.fractions]))

theorem buildTargets_spec (hnav : 0 ≤ metrics.currentNavUsd)
    (h : buildTargets hash check metrics severity config generation = .ok targets) :
    ReducedTargets config check metrics.currentNavUsd severity targets := by
  obtain ⟨quantities, hquantities, htargets⟩ := buildTargets_ok h
  have hspec : ReducedQuantities config check metrics.currentNavUsd severity quantities := by
    rcases hquantities with ⟨hempty, rfl⟩ | hquantities
    · exact reducedQuantities_nil hnav hempty
    · exact targetQuantities_spec hnav hquantities
  have hperm : (targets.map fun target => (target.symbol, target.targetQuantity)).Perm
      quantities := htargets ▸ sortedBy_perm _ _
  have hmem : ∀ target ∈ targets, (target.symbol, target.targetQuantity) ∈ quantities :=
    fun target htarget => hperm.mem_iff.mp (mem_map_of_mem htarget)
  have hsum : (targets.map check.targetValue).sum =
    (quantities.map (valueOf check.quotes)).sum := by
    rw [← (hperm.map (valueOf check.quotes)).sum_eq, map_map]
    rfl
  refine ⟨fun target htarget => ?_, fun symbol hheld hreduced =>
    ?_, fun hcritical target htarget => ?_,
    fun hhard harm => ⟨?_, fun target htarget hsymbol => ?_⟩,
    fun hhard harm => ⟨fun target htarget hsymbol => ?_, ?_⟩⟩
  · obtain ⟨hnonneg, hle⟩ := hspec.within _ (hmem target htarget)
    exact ⟨hnonneg, hle.trans (positive_getD_le check _)⟩
  · obtain ⟨entry, hentry, hsymbol⟩ := hspec.covered symbol (getD_positive hheld) hreduced
    obtain ⟨target, htarget, rfl⟩ := mem_map.mp (hperm.mem_iff.mpr hentry)
    exact ⟨target, htarget, hsymbol⟩
  · exact hspec.critical hcritical _ (hmem target htarget)
  · rw [hsum]
    exact (hspec.q1 hhard harm).1
  · exact (hspec.q1 hhard harm).2 _ (hmem target htarget) hsymbol
  · exact (hspec.liveMirror hhard harm).1 _ (hmem target htarget) hsymbol
  · rw [hsum]
    exact (hspec.liveMirror hhard harm).2

end Arms

end AdaptiveQuant
