import AdaptiveQuant.Lib.Expiry
import AdaptiveQuant.Llm.PolicyCompiler
import Mathlib.Data.List.DropRight

/-! What composition computes. -/

namespace AdaptiveQuant.Control

open Guard Expiry List

variable {R : Type} [PolicyNumber R] {armId : String} {shadowMode : Bool} {now : Instant}
  {effects next other : PolicyEffects R} {operations : List (PolicyOperation R)}
  {patch : PolicyPatch R} {patches : List (PolicyPatch R)} {taken : String → Failure}

def PolicyOperation.restores (operation : PolicyOperation R) : Prop :=
  operation.action = .restoreDefault

instance (operation : PolicyOperation R) : Decidable operation.restores :=
  inferInstanceAs (Decidable (_ = _))

variable {operation : PolicyOperation R}

theorem PolicyEffects.apply_eq_ok :
    effects.apply taken armId shadowMode operation = .ok next ↔
      validateOperation armId shadowMode operation = .ok () ∧
      (operation.restores ∧ next = .default ∨
        ¬operation.restores ∧ operation.bucket ∉ effects.activeBuckets ∧
          next = effects.put operation) := by
  unfold PolicyEffects.apply PolicyOperation.restores
  by_cases h : operation.action = .restoreDefault
  · simp only [h, if_true, bind_eq_ok, pure_eq_ok, true_and, not_true_eq_false, false_and, or_false]
    constructor
    · rintro ⟨_, hvalid, rfl⟩
      exact ⟨hvalid, rfl⟩
    · rintro ⟨hvalid, rfl⟩
      exact ⟨(), hvalid, rfl⟩
  · simp only [h, if_false, bind_eq_ok, pure_eq_ok, raiseIf_eq_ok, false_and, not_false_eq_true,
      true_and, false_or]
    constructor
    · rintro ⟨_, hvalid, _, hbucket, rfl⟩
      exact ⟨hvalid, hbucket, rfl⟩
    · rintro ⟨hvalid, hbucket, rfl⟩
      exact ⟨(), hvalid, (), hbucket, rfl⟩

theorem foldlM_apply_iff (taken taken' : String → Failure) :
    operations.foldlM (PolicyEffects.apply taken armId shadowMode) effects = .ok next ↔
      operations.foldlM (PolicyEffects.apply taken' armId shadowMode) effects = .ok next :=
  foldlM_ok_congr fun _ _ _ => by rw [PolicyEffects.apply_eq_ok, PolicyEffects.apply_eq_ok]

def netOperations (operations : List (PolicyOperation R)) : List (PolicyOperation R) :=
  operations.rtakeWhile fun operation => ¬operation.restores

omit [PolicyNumber R] in
theorem netOperations_concat (operations : List (PolicyOperation R))
    (operation : PolicyOperation R) :
    netOperations (operations ++ [operation]) =
      if operation.restores then [] else netOperations operations ++ [operation] := by
  unfold netOperations
  by_cases h : operation.restores
  · rw [if_pos h, rtakeWhile_concat_neg]
    simpa using h
  · rw [if_neg h, rtakeWhile_concat_pos]
    simpa using h

theorem foldlM_apply_effects
    (h : operations.foldlM (PolicyEffects.apply taken armId shadowMode) effects = .ok next) :
    next = (netOperations operations).foldl PolicyEffects.put
      (if ∃ operation ∈ operations, operation.restores then .default else effects) := by
  refine foldlM_induction h (fun pre acc => acc = (netOperations pre).foldl PolicyEffects.put
    (if ∃ operation ∈ pre, operation.restores then .default else effects)) rfl ?_
  intro pre operation acc acc' hacc hstep
  rw [PolicyEffects.apply_eq_ok] at hstep
  rw [netOperations_concat]
  rcases hstep.2 with ⟨hrestores, rfl⟩ | ⟨hkeeps, -, rfl⟩
  · rw [if_pos hrestores, if_pos ⟨operation, by simp, hrestores⟩]
    rfl
  · have hsame : (∃ o ∈ pre ++ [operation], o.restores) ↔ ∃ o ∈ pre, o.restores := by
      simp [hkeeps]
    rw [if_neg hkeeps, foldl_append, hacc]
    simp only [hsame]
    rfl

theorem mem_foldl_put {bucket : String} :
    bucket ∈ (operations.foldl PolicyEffects.put effects).activeBuckets ↔
      bucket ∈ effects.activeBuckets ∨ ∃ operation ∈ operations, operation.bucket = bucket := by
  induction operations generalizing effects with
  | nil => simp
  | cons operation operations ih =>
    rw [foldl_cons, ih]
    simp only [PolicyEffects.put, Finset.mem_insert, mem_cons, exists_eq_or_imp]
    constructor
    · rintro ((rfl | h) | h)
      · exact .inr (.inl rfl)
      · exact .inl h
      · exact .inr (.inr h)
    · rintro (h | rfl | h)
      · exact .inl (.inr h)
      · exact .inl (.inl rfl)
      · exact .inr h

theorem foldlM_apply_mono (sub : other.activeBuckets ⊆ effects.activeBuckets)
    (h : operations.foldlM (PolicyEffects.apply taken armId shadowMode) effects = .ok next) :
    ∃ result, operations.foldlM (PolicyEffects.apply taken armId shadowMode) other =
      .ok result := by
  induction operations generalizing effects other with
  | nil => exact ⟨other, rfl⟩
  | cons operation operations ih =>
    rw [foldlM_cons, bind_eq_ok] at h
    obtain ⟨middle, hstep, hrest⟩ := h
    rw [PolicyEffects.apply_eq_ok] at hstep
    obtain ⟨hvalid, ⟨hrestores, rfl⟩ | ⟨hkeeps, hfree, rfl⟩⟩ := hstep
    · refine ⟨next, ?_⟩
      rw [foldlM_cons, bind_eq_ok]
      exact ⟨.default, PolicyEffects.apply_eq_ok.mpr ⟨hvalid, .inl ⟨hrestores, rfl⟩⟩, hrest⟩
    · have hsub : (other.put operation).activeBuckets ⊆ (effects.put operation).activeBuckets :=
        Finset.insert_subset_insert _ sub
      obtain ⟨result, hresult⟩ := ih hsub hrest
      refine ⟨result, ?_⟩
      rw [foldlM_cons, bind_eq_ok]
      exact ⟨other.put operation, PolicyEffects.apply_eq_ok.mpr
        ⟨hvalid, .inr ⟨hkeeps, fun hin => hfree (sub hin), rfl⟩⟩, hresult⟩

structure PolicyPatch.Fits (armId : String) (now : Instant) (patch : PolicyPatch R) : Prop where
  arm : patch.armScope = armId
  active : patch.effectiveFrom ≤ now ∧ now < patch.expiresAt
  conditions : patch.rollbackConditions.forM validateCondition = .ok ()

theorem composePatch_eq_ok {before after} :
    composePatch armId now shadowMode before patch = .ok after ↔
      patch.Fits armId now ∧
      patch.operations.foldlM (PolicyEffects.apply controlledTwice armId shadowMode) before.1 =
        .ok after.1 ∧ after.2 = some patch.patchId := by
  simp only [composePatch, bind_eq_ok, raiseIf_eq_ok, pure_eq_ok, not_not]
  constructor
  · rintro ⟨_, harm, _, hactive, _, hconditions, effects, hfold, rfl⟩
    exact ⟨⟨harm, hactive, hconditions⟩, hfold, rfl⟩
  · rintro ⟨⟨harm, hactive, hconditions⟩, hfold, hsource⟩
    exact ⟨(), harm, (), hactive, (), hconditions, after.1, hfold, by rw [← hsource]⟩

theorem compile_eq_ok {current compiled} :
    compile patch current now shadowMode = .ok compiled ↔
      patch.Fits current.armId now ∧ patch.basePolicyVersion = current.version ∧
      current.armId ∈ ["B3-RISK", "B3-FULL"] ∧
      patch.operations.foldlM (PolicyEffects.apply alreadyControlled current.armId shadowMode)
        current.toPolicyEffects = .ok compiled.toPolicyEffects ∧
      compiled.armId = current.armId ∧ compiled.version = current.version + 1 ∧
      compiled.sourcePatchId = some patch.patchId := by
  simp only [compile, bind_eq_ok, raiseIf_eq_ok, pure_eq_ok, not_not]
  constructor
  · rintro ⟨_, harm, _, hbase, _, hactive, _, hkind, _, hconditions, effects, hfold, rfl⟩
    rw [harm] at hkind hfold
    exact ⟨⟨harm, hactive, hconditions⟩, hbase, hkind, hfold, rfl, rfl, rfl⟩
  · rintro ⟨⟨harm, hactive, hconditions⟩, hbase, hkind, hfold, harmId, hversion, hsource⟩
    rw [← harm] at hkind hfold
    refine ⟨(), harm, (), hbase, (), hactive, (), hkind, (), hconditions, _, hfold, ?_⟩
    rw [← harmId, ← hversion, ← hsource]

variable {composed : PolicyState R} {version : ℕ}

theorem compose_eq_ok :
    compose armId patches version now shadowMode = .ok composed ↔
      patches.foldlM (composePatch armId now shadowMode) (.default, none) =
        .ok (composed.toPolicyEffects, composed.sourcePatchId) ∧
      composed.armId = armId ∧ composed.version = version := by
  simp only [compose, ok_iff]
  constructor
  · rintro ⟨result, hfold, rfl⟩
    exact ⟨hfold, rfl, rfl⟩
  · rintro ⟨hfold, rfl, rfl⟩
    exact ⟨_, hfold, rfl⟩

theorem compile_composed {current compiled}
    (h : compose armId patches version now shadowMode = .ok current) :
    compile patch current now shadowMode = .ok compiled ↔
      patch.basePolicyVersion = version ∧ armId ∈ ["B3-RISK", "B3-FULL"] ∧
      compose armId (patches ++ [patch]) (version + 1) now shadowMode = .ok compiled := by
  obtain ⟨hfold, rfl, rfl⟩ := compose_eq_ok.mp h
  rw [compile_eq_ok, compose_eq_ok, foldlM_concat_eq_ok]
  constructor
  · rintro ⟨hfits, hbase, hkind, hoperations, harm, hversion, hsource⟩
    refine ⟨hbase, hkind, ⟨_, hfold, composePatch_eq_ok.mpr ⟨hfits, ?_, hsource⟩⟩, harm, hversion⟩
    exact (foldlM_apply_iff _ _).mp hoperations
  · rintro ⟨hbase, hkind, ⟨before, hbefore, hlast⟩, harm, hversion⟩
    obtain rfl : (current.toPolicyEffects, current.sourcePatchId) = before :=
      Except.ok.inj (hfold.symm.trans hbefore)
    obtain ⟨hfits, hoperations, hsource⟩ := composePatch_eq_ok.mp hlast
    exact ⟨hfits, hbase, hkind, (foldlM_apply_iff _ _).mp hoperations, harm, hversion, hsource⟩

def PolicyPatch.restores (patch : PolicyPatch R) : Prop :=
  ∃ operation ∈ patch.operations, operation.restores

instance : DecidablePred (PolicyPatch.restores (R := R)) := fun patch =>
  inferInstanceAs (Decidable (∃ operation ∈ patch.operations, operation.restores))

def PolicyPatch.counts (patch : PolicyPatch R) : Prop := netOperations patch.operations ≠ []

instance : DecidablePred (PolicyPatch.counts (R := R)) := fun patch =>
  inferInstanceAs (Decidable (netOperations patch.operations ≠ []))

theorem composed_effects {source : Option String}
    (h : patches.foldlM (composePatch armId now shadowMode) (.default, none) =
      .ok (effects, source)) :
    effects = ((sinceReset PolicyPatch.restores patches).flatMap fun patch =>
      netOperations patch.operations).foldl PolicyEffects.put .default := by
  refine foldlM_induction h (fun pre acc => acc.1 = ((sinceReset PolicyPatch.restores pre).flatMap
    fun patch => netOperations patch.operations).foldl PolicyEffects.put .default) rfl ?_
  intro pre patch acc acc' hacc hstep
  obtain ⟨-, hfold, -⟩ := composePatch_eq_ok.mp hstep
  have heffects := foldlM_apply_effects hfold
  rw [sinceReset_concat, heffects]
  by_cases hrestores : patch.restores
  · have hany : ∃ operation ∈ patch.operations, operation.restores := hrestores
    rw [if_pos hrestores, if_pos hany]
    simp
  · have hnone : ¬∃ operation ∈ patch.operations, operation.restores := hrestores
    rw [if_neg hrestores, if_neg hnone, hacc, flatMap_append, foldl_append]
    simp

theorem mem_composed_buckets {source : Option String} {bucket : String}
    (h : patches.foldlM (composePatch armId now shadowMode) (.default, none) =
      .ok (effects, source)) :
    bucket ∈ effects.activeBuckets ↔ ∃ patch ∈ sinceReset PolicyPatch.restores patches,
      ∃ operation ∈ netOperations patch.operations, operation.bucket = bucket := by
  rw [composed_effects h, mem_foldl_put]
  simp only [PolicyEffects.default, Finset.notMem_empty, false_or, mem_flatMap]
  constructor
  · rintro ⟨operation, ⟨patch, hpatch, hoperation⟩, hbucket⟩
    exact ⟨patch, hpatch, operation, hoperation, hbucket⟩
  · rintro ⟨patch, hpatch, operation, hoperation, hbucket⟩
    exact ⟨operation, ⟨patch, hpatch, hoperation⟩, hbucket⟩

/-- The risk stays between a quarter of the default and the default, and `B3-RISK` has no deltas. -/
structure PolicyEffects.Restricts (armId : String) (effects : PolicyEffects R) : Prop where
  multiplier : effects.portfolioRiskMultiplier = 1 ∨
    0.25 ≤ effects.portfolioRiskMultiplier ∧ effects.portfolioRiskMultiplier ≤ 1
  deltas : armId = "B3-RISK" → effects.strategyRiskDeltas = ∅

theorem validateOperation_ok (h : validateOperation armId shadowMode operation = .ok ()) :
    (armId = "B3-RISK" → operation.adjustsRisk → operation.riskBudgetDelta = none) ∧
    ∀ multiplier ∈ operation.riskMultiplier, 0.25 ≤ multiplier ∧ multiplier ≤ 1 := by
  unfold validateOperation validateAmounts at h
  split at h
  all_goals
    rename_i harm
    simp only [ok_iff, not_and, not_exists, Classical.not_imp, not_not] at h
  · obtain ⟨htilt, ⟨⟩, hforward, -, -, -, -, -, hrange, -⟩ := h
    refine ⟨fun _ hadjusts => ?_, hrange⟩
    rw [validateForwardB3Operation, hadjusts.resolve_right (htilt harm)] at hforward
    simp only [ok_iff, Option.not_isSome_iff_eq_none] at hforward
    exact hforward.2.2
  · obtain ⟨-, -, -, -, -, -, hrange, -⟩ := h
    exact ⟨fun heq => absurd heq harm, hrange⟩

theorem PolicyEffects.Restricts.put (h : effects.Restricts armId)
    (hvalid : validateOperation armId shadowMode operation = .ok ()) :
    (effects.put operation).Restricts armId := by
  obtain ⟨hdelta, hrange⟩ := validateOperation_ok hvalid
  unfold PolicyEffects.put
  split
  · rename_i hadjusts
    refine ⟨?_, fun harm => by rw [hdelta harm hadjusts]; exact h.deltas harm⟩
    cases hm : operation.riskMultiplier with
    | none => exact h.multiplier
    | some m =>
      obtain ⟨hlow, hhigh⟩ := hrange m hm
      refine .inr ⟨le_min ?_ hlow, (min_le_right _ _).trans hhigh⟩
      rcases h.multiplier with hone | ⟨hold, -⟩
      · exact hone ▸ hlow.trans hhigh
      · exact hold
  · exact ⟨h.multiplier, h.deltas⟩

theorem foldlM_apply_restricts (h : effects.Restricts armId)
    (hfold : operations.foldlM (PolicyEffects.apply taken armId shadowMode) effects = .ok next) :
    next.Restricts armId := by
  refine foldlM_induction hfold (fun _ acc => acc.Restricts armId) h fun _ _ _ _ hacc hstep => ?_
  obtain ⟨hvalid, ⟨-, rfl⟩ | ⟨-, -, rfl⟩⟩ := PolicyEffects.apply_eq_ok.mp hstep
  · exact ⟨.inl rfl, fun _ => rfl⟩
  · exact hacc.put hvalid

theorem compose_restricts (h : compose armId patches version now shadowMode = .ok composed) :
    composed.Restricts armId :=
  foldlM_induction (compose_eq_ok.mp h).1 (fun _ acc => acc.1.Restricts armId)
    ⟨.inl rfl, fun _ => rfl⟩ fun _ _ _ _ hacc hstep =>
      foldlM_apply_restricts hacc (composePatch_eq_ok.mp hstep).2.1

end AdaptiveQuant.Control
