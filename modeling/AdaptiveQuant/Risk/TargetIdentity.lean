import AdaptiveQuant.Risk.EpisodeRun

/-! The names of reduction targets. -/

namespace AdaptiveQuant

open Guard Sequence List

variable {hash : Hashing}

/-- A risk step that makes targets, for a new episode or an active one. -/
structure TargetCreation where
  config : RiskEngineConfig
  step : RiskStep
  active : Option (RiskEpisode × List RiskEpisodeEvent)

namespace TargetCreation

def plan (hash : Hashing) (c : TargetCreation) : Except Failure RiskTransition :=
  planRiskTransition hash c.config c.step c.active

def generation (c : TargetCreation) : ℕ :=
  match c.active with
  | none => 1
  | some (_, events) => episodeTargetGeneration events + 1

def quantities (c : TargetCreation) : List (String × Decimal) :=
  let positive := c.step.check.positions.filter fun _ quantity => 0 < quantity
  if positive.entries = [] then []
  else ((targetQuantities c.step.check c.step.metrics c.step.metrics.indicatedSeverity c.config
    positive).toOption).getD []

/-- Both creations have a target with the same identity fields. -/
def SharesTarget (c c' : TargetCreation) : Prop :=
  c.step.check.armId = c'.step.check.armId ∧
    c.step.check.scheduledAt = c'.step.check.scheduledAt ∧ c.generation = c'.generation ∧
    ∃ symbol quantity, (symbol, quantity) ∈ c.quantities ∧ (symbol, quantity) ∈ c'.quantities ∧
      (c.step.check.quotes.get? symbol).map (·.quoteId) =
        (c'.step.check.quotes.get? symbol).map (·.quoteId)

end TargetCreation

def RiskTransition.createdTargets (t : RiskTransition) : List RiskTarget :=
  t.newEvents.flatMap (·.targets)

structure TargetOrigin where
  runId : String
  riskEpisodeId : String
  targetGeneration : ℕ
deriving DecidableEq

def TargetCreation.origin (c : TargetCreation) (t : RiskTransition) : Option TargetOrigin :=
  t.newEvents.head?.map fun event =>
    ⟨c.step.provenance.runId, event.riskEpisodeId, event.targetGeneration⟩

/-- No id is in both lists. -/
def TargetIdsDistinct (targets targets' : List RiskTarget) : Prop :=
  ∀ target ∈ targets, ∀ target' ∈ targets', target.targetId ≠ target'.targetId

instance (targets targets' : List RiskTarget) : Decidable (TargetIdsDistinct targets targets') := by
  unfold TargetIdsDistinct
  infer_instance

structure RiskEpisodeTargetRow where
  riskTargetId : String
  riskEpisodeId : String
  target : RiskTarget

def targetRowId (hash : Hashing) (episodeId : String) (target : RiskTarget) : String :=
  target.targetId.getD (hash.stableId "q1-risk-target" [.str episodeId,
    .int target.targetGeneration, .str target.symbol,
    .str (hash.canonicalHash target.canonical)])

/-- `_append_targets`, where the primary key of the table is checked. -/
def appendTargets (hash : Hashing) (rows : List RiskEpisodeTargetRow) (episodeId : String)
    (targets : List RiskTarget) : Except Failure (List RiskEpisodeTargetRow) := do
  raiseIf (targets = []) (q1PersistenceConflict "Empty forced-target sets are forbidden")
  targets.foldlM (fun rows target => do
    let row : RiskEpisodeTargetRow := ⟨targetRowId hash episodeId target, episodeId, target⟩
    raiseIf (row.riskTargetId ∈ rows.map (·.riskTargetId))
      ⟨.integrityError, "UNIQUE constraint failed: risk_episode_targets.risk_target_id", []⟩
    return rows ++ [row]) rows

def targetIdentity (armId : Q1ArmId) (symbol : String) (targetQuantity : Decimal)
    (quoteId : String) (triggeredAt : Instant) (targetGeneration : ℕ) : Canonical := .dict [
  ("arm_id", .str armId.value),
  ("symbol", .str symbol),
  ("target_quantity", .decimal targetQuantity),
  ("quote_id", .str quoteId),
  ("triggered_at", .instant triggeredAt),
  ("target_generation", .int targetGeneration)]

theorem targetIdentity_inj {armId armId' : Q1ArmId} {symbol symbol' : String}
    {quantity quantity' : Decimal} {quoteId quoteId' : String} {triggeredAt triggeredAt' : Instant}
    {generation generation' : ℕ} :
    targetIdentity armId symbol quantity quoteId triggeredAt generation =
        targetIdentity armId' symbol' quantity' quoteId' triggeredAt' generation' ↔
      armId = armId' ∧ symbol = symbol' ∧ quantity = quantity' ∧ quoteId = quoteId' ∧
        triggeredAt = triggeredAt' ∧ generation = generation' := by
  simp [targetIdentity, Canonical.dict, Q1ArmId.value_injective.eq_iff]

theorem buildTarget_named {check metrics} {generation : ℕ} {positive entry} {target : RiskTarget}
    (h : buildTarget hash check metrics generation positive entry = .ok target) :
    ∃ quote, check.quotes.get? entry.1 = some quote ∧
      target.targetId = some (hash.stableId "q1-risk-target" [targetIdentity check.armId entry.1
        entry.2 quote.quoteId check.scheduledAt generation]) := by
  obtain ⟨symbol, quantity⟩ := entry
  simp only [buildTarget] at h
  split at h
  · cases h
  · rename_i quote hquote
    rw [RiskTarget.construct_eq_ok] at h
    exact ⟨quote, hquote, by rw [h]; rfl⟩

def TargetCreation.targetId (hash : Hashing) (c : TargetCreation) (entry : String × Decimal)
    (quote : RiskQuote) : String :=
  hash.stableId "q1-risk-target" [targetIdentity c.step.check.armId entry.1 entry.2 quote.quoteId
    c.step.check.scheduledAt c.generation]

def TargetCreation.targets (hash : Hashing) (c : TargetCreation) :
    Except Failure (List RiskTarget) :=
  buildTargets hash c.step.check c.step.metrics c.step.metrics.indicatedSeverity c.config
    c.generation

theorem TargetCreation.targets_eq_ok {c : TargetCreation} {targets : List RiskTarget}
    (h : c.targets hash = .ok targets) :
    ∃ positive, (sortedBy (·.1) c.quantities).mapM
      (buildTarget hash c.step.check c.step.metrics c.generation positive) = .ok targets := by
  simp only [TargetCreation.targets, buildTargets] at h
  unfold TargetCreation.quantities
  split at h
  next hempty =>
    cases h
    exact ⟨.empty, by simp only [hempty, if_true]; rfl⟩
  next hheld =>
    simp only [bind_eq_ok] at h
    obtain ⟨quantities, hquantities, hmap⟩ := h
    refine ⟨c.step.check.positions.filter fun _ quantity => 0 < quantity, ?_⟩
    simp only [hheld, if_false, hquantities, Except.toOption, Option.getD_some]
    exact hmap

theorem TargetCreation.named_of_target {c : TargetCreation} {targets : List RiskTarget}
    {target : RiskTarget} (h : c.targets hash = .ok targets) (htarget : target ∈ targets) :
    ∃ entry ∈ c.quantities, ∃ quote, c.step.check.quotes.get? entry.1 = some quote ∧
      target.targetId = some (c.targetId hash entry quote) := by
  obtain ⟨positive, hmap⟩ := c.targets_eq_ok h
  obtain ⟨entry, hentry, hbuilt⟩ := mem_of_mapM_eq_ok hmap target htarget
  obtain ⟨quote, hquote, hname⟩ := buildTarget_named hbuilt
  exact ⟨entry, (mem_sortedBy ..).mp hentry, quote, hquote, hname⟩

theorem TargetCreation.named_of_quantity {c : TargetCreation} {targets : List RiskTarget}
    {entry : String × Decimal} (h : c.targets hash = .ok targets) (hentry : entry ∈ c.quantities) :
    ∃ target ∈ targets, ∃ quote, c.step.check.quotes.get? entry.1 = some quote ∧
      target.targetId = some (c.targetId hash entry quote) := by
  obtain ⟨positive, hmap⟩ := c.targets_eq_ok h
  obtain ⟨target, htarget, hbuilt⟩ := exists_of_mapM_eq_ok hmap entry ((mem_sortedBy ..).mpr hentry)
  obtain ⟨quote, hquote, hname⟩ := buildTarget_named hbuilt
  exact ⟨target, htarget, quote, hquote, hname⟩

theorem TargetCreation.targetId_inj {c c' : TargetCreation} {entry entry' : String × Decimal}
    {quote quote' : RiskQuote} (injective : hash.NoCollision)
    (h : c.targetId hash entry quote = c'.targetId hash entry' quote') :
    c.step.check.armId = c'.step.check.armId ∧ entry = entry' ∧ quote.quoteId = quote'.quoteId ∧
      c.step.check.scheduledAt = c'.step.check.scheduledAt ∧ c.generation = c'.generation := by
  obtain ⟨harm, hsymbol, hquantity, hrest⟩ :=
    targetIdentity_inj.mp (singleton_inj.mp (injective _ _ _ h))
  exact ⟨harm, Prod.ext hsymbol hquantity, hrest⟩

theorem TargetCreation.SharesTarget.same_name {c c' : TargetCreation}
    {targets targets' : List RiskTarget} (hshares : c.SharesTarget c')
    (h : c.targets hash = .ok targets) (h' : c'.targets hash = .ok targets') :
    ∃ target ∈ targets, ∃ target' ∈ targets', ∃ name,
      target.targetId = some name ∧ target'.targetId = some name := by
  obtain ⟨harm, hscheduled, hgeneration, symbol, quantity, hmem, hmem', hquoteId⟩ := hshares
  obtain ⟨target, htarget, quote, hquote, hname⟩ := TargetCreation.named_of_quantity h hmem
  obtain ⟨target', htarget', quote', hquote', hname'⟩ := TargetCreation.named_of_quantity h' hmem'
  refine ⟨target, htarget, target', htarget', _, hname, ?_⟩
  rw [hquote, hquote', Option.map_some, Option.map_some, Option.some.injEq] at hquoteId
  rw [hname', TargetCreation.targetId, TargetCreation.targetId, harm, hquoteId, hscheduled,
    hgeneration]

theorem episodeEvent_targets {episode existing request check provenance sourceCycleId event}
    (h : episodeEvent hash episode existing request check provenance sourceCycleId = .ok event) :
    event.targets = request.targets := by
  simp only [episodeEvent, bind_eq_ok, RiskEpisodeEvent.construct_eq_ok] at h
  obtain ⟨-, -, -, -, hfields⟩ := h
  rw [hfields]

theorem planActivation_targets {c : TargetCreation} {effective : RiskSeverity}
    {episode newEpisode : Option RiskEpisode} {events : List RiskEpisodeEvent}
    (h : planActivation hash c.config c.step c.active =
      .ok (effective, episode, newEpisode, events)) :
    events.flatMap (·.targets) = [] ∨
      c.targets hash = .ok (events.flatMap (·.targets)) := by
  simp only [planActivation] at h
  split at h
  next hnone =>
    have hgeneration : c.generation = 1 := by rw [TargetCreation.generation, hnone]
    rw [TargetCreation.targets, hgeneration]
    split at h
    · simp only [bind_eq_ok] at h
      obtain ⟨targets, htargets, h⟩ := h
      split at h
      · simp only [pure_eq_ok, Prod.mk.injEq] at h
        obtain ⟨-, -, -, rfl⟩ := h
        exact .inl rfl
      · simp only [ok_iff, Prod.mk.injEq] at h
        obtain ⟨created, -, event, hevent, -, -, -, rfl⟩ := h
        refine .inr ?_
        simpa [episodeEvent_targets hevent] using htargets
    · simp only [pure_eq_ok, Prod.mk.injEq] at h
      obtain ⟨-, -, -, rfl⟩ := h
      exact .inl rfl
  next existing events' hsome =>
    have hgeneration : c.generation = episodeTargetGeneration events' + 1 := by
      rw [TargetCreation.generation, hsome]
    rw [TargetCreation.targets, hgeneration]
    simp only [bind_eq_ok] at h
    obtain ⟨-, -, h⟩ := h
    split at h
    next hcritical =>
      simp only [bind_eq_ok] at h
      obtain ⟨targets, htargets, h⟩ := h
      split at h
      · simp only [pure_eq_ok, Prod.mk.injEq] at h
        obtain ⟨-, -, -, rfl⟩ := h
        exact .inl rfl
      · simp only [ok_iff, Prod.mk.injEq] at h
        obtain ⟨event, hevent, -, -, -, rfl⟩ := h
        refine .inr ?_
        rw [hcritical.2]
        simpa [episodeEvent_targets hevent] using htargets
    · simp only [pure_eq_ok, Prod.mk.injEq] at h
      obtain ⟨-, -, -, rfl⟩ := h
      exact .inl rfl

theorem TargetCreation.plan_targets {c : TargetCreation} {t : RiskTransition}
    (h : c.plan hash = .ok t) (created : t.createdTargets ≠ []) :
    c.targets hash = .ok t.createdTargets := by
  simp only [TargetCreation.plan, planRiskTransition, bind_eq_ok] at h
  obtain ⟨⟨effective, episode, newEpisode, events⟩, hplan, h⟩ := h
  have htargets := planActivation_targets hplan
  have hevents : t.createdTargets = events.flatMap (·.targets) := by
    cases episode with
    | none =>
      cases h
      rfl
    | some episode =>
      simp only [bind_eq_ok] at h
      obtain ⟨targets, -, h⟩ := h
      split at h
      · simp only [ok_iff] at h
        obtain ⟨release, hrelease, rfl⟩ := h
        simp [RiskTransition.createdTargets, episodeEvent_targets hrelease]
      · cases h
        rfl
  rw [hevents] at created ⊢
  exact htargets.resolve_left created

section Sample

/-- The loss of `sampleHardStep`, in another run. -/
def sampleOtherRunStep : RiskStep :=
  { sampleHardStep with
    provenance := ⟨{ sampleRiskProvenance.toRiskEpisodeProvenanceFields with runId := "other" },
      by decide⟩ }

def sampleCreation (step : RiskStep) : TargetCreation := ⟨sampleRiskConfig, step, none⟩

def sampleLaterStep : RiskStep where
  check := ⟨sampleCheckFields "first" 2 true 100 false, by decide +kernel⟩
  metrics := sampleMetrics (4 / 100) .hardReduce
  provenance := sampleRiskProvenance

end Sample

end AdaptiveQuant
