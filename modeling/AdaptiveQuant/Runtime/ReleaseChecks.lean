import AdaptiveQuant.Runtime.NavRisk

/-! Frozen valuations among the release checks. -/

namespace AdaptiveQuant.Q1Cycle

open Guard Sequence List

variable {hash : Hashing} {settings : NavSettings}

/-- No snapshot that the release count reads was valued with a trigger price. -/
def NeverCountsFrozen (s : ArmRisk) : Prop :=
  ∀ calendarSessionId asOf, ∀ row ∈ validReleaseChecks s.navSnapshots calendarSessionId asOf,
    row.payload.frozenAchievedTargetValuations = []

def HeldQuoted (settings : NavSettings) (latest : Dict String LatestQuote) (o : Observation) :
    Prop :=
  ∀ entry ∈ o.state.held.entries,
    Succeeds (freshDecisionQuote settings.maximumQuoteAge latest o.cycle.now entry.1)

/-- The arm reconciles, and its loss is below the release thresholds. -/
def MeetsRelease (settings : NavSettings) (s : ArmRisk) (latest : Dict String LatestQuote)
    (o : Observation) : Prop :=
  o.reconciliation.ok = true ∧ ∃ m, measureRisk settings s latest o = .ok m ∧
    releaseConditionValid m.metrics settings.config = true

def QuotedRelease (settings : NavSettings) (s : ArmRisk) : NavInput → Prop
  | .navRisk latest o => MeetsRelease settings s latest o → HeldQuoted settings latest o
  | .openSession .. | .strategic .. => True

variable {calendarSessionId : String}

theorem mem_countedChecks {rows row} (h : row ∈ countedChecks calendarSessionId rows) :
    row ∈ rows ∧ row.payload.releaseConditionValid = true ∧
      row.payload.reconciliationOk = true := by
  induction rows with
  | nil => simp [countedChecks] at h
  | cons first rest ih =>
    rw [countedChecks] at h
    split at h
    · exact ⟨mem_cons_of_mem _ (ih h).1, (ih h).2⟩
    · split at h
      next hvalid =>
        rcases mem_cons.mp h with rfl | h
        · exact ⟨mem_cons_self, hvalid.1, hvalid.2⟩
        · exact ⟨mem_cons_of_mem _ (ih h).1, (ih h).2⟩
      next => cases h

theorem mem_validReleaseChecks {rows} {asOf : Instant} {row}
    (h : row ∈ validReleaseChecks rows calendarSessionId asOf) :
    row ∈ rows ∧ row.payload.releaseConditionValid = true ∧
      row.payload.reconciliationOk = true := by
  obtain ⟨hmem, hvalid⟩ := mem_countedChecks h
  rw [mem_reverse, mem_sortedBy] at hmem
  exact ⟨(mem_filter.mp hmem).1, hvalid⟩

/-- No snapshot that passes the test of the count was valued with a trigger price. -/
def ValidUnfrozen (rows : List NavSnapshotRow) : Prop :=
  ∀ row ∈ rows, row.payload.releaseConditionValid = true → row.payload.reconciliationOk = true →
    row.payload.frozenAchievedTargetValuations = []

variable {s : ArmRisk}

theorem ValidUnfrozen.neverCounts (h : ValidUnfrozen s.navSnapshots) :
    NeverCountsFrozen s := by
  intro session asOf row hrow
  obtain ⟨hmem, hvalid, hok⟩ := mem_validReleaseChecks hrow
  exact h row hmem hvalid hok

theorem appendNavSnapshot_cases {cycle : NavCycle} {rows rows'} {navUsd : Decimal}
    {payload : NavPayload}
    (h : appendNavSnapshot hash settings cycle rows navUsd payload = .ok rows') :
    rows' = rows ∨ ∃ row, rows' = rows ++ [row] ∧ row.payload = payload := by
  unfold appendNavSnapshot at h
  dsimp only at h
  split at h
  · split at h
    · exact .inl (Except.ok.inj h).symm
    · cases h
  · exact .inr ⟨_, (Except.ok.inj h).symm, rfl⟩

theorem ValidUnfrozen.append {cycle : NavCycle} {rows rows' : List NavSnapshotRow}
    {navUsd : Decimal} {payload : NavPayload} (hrows : ValidUnfrozen rows)
    (h : appendNavSnapshot hash settings cycle rows navUsd payload = .ok rows')
    (hpayload : payload.releaseConditionValid = true → payload.reconciliationOk = true →
      payload.frozenAchievedTargetValuations = []) :
    ValidUnfrozen rows' := by
  rcases appendNavSnapshot_cases h with rfl | ⟨row, rfl, rfl⟩
  · exact hrows
  · intro other hother
    rcases mem_append.mp hother with hother | hother
    · exact hrows other hother
    · rw [mem_singleton.mp hother]
      exact hpayload

theorem optionalQuote_of_fresh {latest} {now : Instant} {symbol : String} {found}
    (hfresh : Succeeds (freshDecisionQuote settings.maximumQuoteAge latest now symbol))
    (h : optionalQuote settings latest now symbol = .ok found) : found.isSome := by
  obtain ⟨quote, hquote⟩ := hfresh
  rw [optionalQuote, hquote] at h
  rw [← Except.ok.inj h]
  rfl

variable {o : Observation}

theorem valueArm_quoted {latest targets} {v : Valuation} (hquoted : HeldQuoted settings latest o)
    (h : valueArm settings latest o.cycle.now o.state targets = .ok v) : v.frozen = [] := by
  simp only [valueArm, ok_iff] at h
  obtain ⟨required, -, quotes, hquotes, rfl⟩ := h
  -- the optional pass finds the quote of every symbol that the required pass left out
  have hkeys := foldlM_induction hquotes
    (fun seen (found : Dict String DecisionQuote) => ∀ entry ∈ seen,
      Succeeds (freshDecisionQuote settings.maximumQuoteAge latest o.cycle.now entry.1) →
      entry.1 ∈ found.keys) (by simp) (by
    intro seen entry found found' ih hstep other hother hfresh
    split at hstep
    next hmem =>
      cases hstep
      rcases mem_append.mp hother with hother | hother
      · exact ih other hother hfresh
      · rw [mem_singleton.mp hother]
        exact hmem
    next =>
      simp only [ok_iff] at hstep
      obtain ⟨quote, hquote, rfl⟩ := hstep
      rcases mem_append.mp hother with hother | hother
      · have hfound := ih other hother hfresh
        cases quote with
        | none => exact hfound
        | some quote => exact Dict.mem_keys_set.mpr (.inr hfound)
      · rw [mem_singleton.mp hother] at hfresh ⊢
        cases quote with
        | none => cases optionalQuote_of_fresh hfresh hquote
        | some quote => exact Dict.mem_keys_set.mpr (.inl rfl))
  refine filterMap_eq_nil_iff.mpr fun entry hentry => ?_
  rw [if_pos]
  exact hkeys entry ((mem_sortedBy ..).mpr hentry) (hquoted entry hentry)

theorem plannedMetrics_release {m metrics} (h : plannedMetrics s m = .ok metrics) :
    releaseConditionValid metrics settings.config =
      releaseConditionValid m.metrics settings.config := by
  unfold plannedMetrics at h
  split at h
  · rw [← Except.ok.inj h]
  · split at h
    · cases h
    · rw [← Except.ok.inj h]
      rfl

theorem measureRisk_valuation {latest m} (h : measureRisk settings s latest o = .ok m) :
    ∃ targets, valueArm settings latest o.cycle.now o.state targets = .ok m.valuation := by
  simp only [measureRisk, ok_iff] at h
  obtain ⟨targets, -, valuation, hvaluation, nav, -, quotes, -, check, -, metrics, -, rfl⟩ := h
  exact ⟨targets, hvaluation⟩

theorem navRiskCycle_keeps {s s' : ArmRisk} {latest} (hrows : ValidUnfrozen s.navSnapshots)
    (hmet : MeetsRelease settings s latest o → HeldQuoted settings latest o)
    (h : navRiskCycle hash settings s latest o = .ok s') : ValidUnfrozen s'.navSnapshots := by
  simp only [navRiskCycle, ok_iff] at h
  obtain ⟨m, hm, metrics, hmetrics, transition, -, progress, -, weights, -, rows, happend, rfl⟩ := h
  refine hrows.append happend fun hvalid hok => ?_
  have hvalid : releaseConditionValid metrics settings.config = true := hvalid
  rw [plannedMetrics_release hmetrics] at hvalid
  obtain ⟨targets, hvaluation⟩ := measureRisk_valuation hm
  have hquoted := hmet ⟨hok, m, hm, hvalid⟩
  show m.valuation.frozen.map _ = []
  rw [valueArm_quoted hquoted hvaluation, map_nil]

theorem stepArmRisk_keeps {s s' : ArmRisk} {input : NavInput}
    (hrows : ValidUnfrozen s.navSnapshots) (hmet : QuotedRelease settings s input)
    (h : stepArmRisk hash settings s input = .ok s') : ValidUnfrozen s'.navSnapshots := by
  cases input with
  | openSession cycle state prices =>
    simp only [stepArmRisk, openSession, ok_iff] at h
    obtain ⟨nav, -, -, weights, -, rows, happend, rfl⟩ := h
    exact hrows.append happend fun hvalid => by cases hvalid
  | navRisk latest o =>
    rw [stepArmRisk] at h
    split at h
    · exact navRiskCycle_keeps hrows hmet h
    · simp only [navOnlyCycle, bind_eq_ok] at h
      obtain ⟨valuation, -, h⟩ := h
      split at h
      · cases h
        exact hrows
      · simp only [ok_iff] at h
        obtain ⟨nav, -, weights, -, rows, happend, rfl⟩ := h
        exact hrows.append happend fun hvalid => by cases hvalid
  | strategic quotes o =>
    rw [stepArmRisk, strategicCycle] at h
    split at h
    · cases h
      exact hrows
    · simp only [ok_iff] at h
      obtain ⟨nav, -, riskQuotes, -, check, -, metrics, -, transition, -, rfl⟩ := h
      exact hrows

/-- In a run whose risk cycles have a fresh quote of every held symbol whenever they meet the
release condition, no frozen valuation is ever counted towards a release. -/
theorem frozen_never_counted (hash : Hashing) (settings : NavSettings)
    (taken : List (ArmRisk × NavInput)) (s : ArmRisk)
    (run : Run (stepArmRisk hash settings) .empty taken s)
    (met : ∀ x ∈ taken, QuotedRelease settings x.1 x.2) : NeverCountsFrozen s := by
  have hrows : ValidUnfrozen s.navSnapshots :=
    run.inv_when (I := fun s => ValidUnfrozen s.navSnapshots) (Q := QuotedRelease settings)
      (fun row hrow => by cases hrow) (fun _ _ _ hrows hmet h => stepArmRisk_keeps hrows hmet h) met
  exact hrows.neverCounts

section Sample

def sampleNavSettings : NavSettings where
  armId := .q1Det
  config := sampleRiskConfig
  criticalConditions := ["NEGATIVE_BALANCE"]
  maximumQuoteAge := 5

def sampleNavCycle (cycleId session : String) (now : Instant) : NavCycle where
  cycleId := cycleId
  scheduledAt := now
  now := now
  calendarSessionId := session
  provenance := sampleRiskProvenance

def sampleNavStateFields (quantity settledCash : Decimal) (sequence : ℕ) :
    Settlement.Q1ArmStateFields where
  armId := .q1Det
  initialNavUsd := 100
  settledCashUsd := settledCash
  unsettledReceivables := []
  positions := ⟨[("QQQ", quantity)], by simp⟩
  sequence := sequence
  evaluationAnchorId := none

def sampleFullState : Settlement.Q1ArmState := ⟨sampleNavStateFields 1 0 0, by decide +kernel⟩

def sampleHalfState : Settlement.Q1ArmState :=
  ⟨sampleNavStateFields (1 / 2) 48 2, by decide +kernel⟩

def sampleObservation (cycleId session : String) (now : Instant) (state : Settlement.Q1ArmState) :
    Observation where
  cycle := sampleNavCycle cycleId session now
  state := state
  reconciliation := { conditions := [.ok] }
  volatility := none

def sampleLatestQuote (seen : Instant) : Dict String LatestQuote :=
  ⟨[("QQQ", ⟨"quote", 96, 96, seen, seen⟩)], by simp⟩

def sampleDecisionQuotes : Dict String DecisionQuote :=
  ⟨[("QQQ", ⟨⟨"QQQ", "fresh", 96, 96, 5⟩, by decide +kernel⟩)], by simp⟩

/-- A fall that latches a reduction in one session, and two risk cycles with the quotes `later` and
a strategic cycle in the next. -/
def sampleCycles (later : Instant → Dict String LatestQuote) : List NavInput := [
  .openSession (sampleNavCycle "c0" "first" 0) sampleFullState ⟨[("QQQ", 100)], by simp⟩,
  .navRisk (sampleLatestQuote 1) (sampleObservation "c1" "first" 1 sampleFullState),
  .openSession (sampleNavCycle "c2" "second" 2) sampleHalfState ⟨[("QQQ", 96)], by simp⟩,
  .navRisk (later 3) (sampleObservation "c3" "second" 3 sampleHalfState),
  .navRisk (later 4) (sampleObservation "c4" "second" 4 sampleHalfState),
  .strategic sampleDecisionQuotes (sampleObservation "c5" "second" 5 sampleHalfState)]

def sampleFrozenCycles : List NavInput := sampleCycles fun _ => .empty

/-- The frozen valuation is counted twice, and the episode is released on that count. -/
theorem sampleFrozen_released : ∃ taken s,
    Run (stepArmRisk .short sampleNavSettings) .empty taken s ∧
    taken.map (·.2) = sampleFrozenCycles ∧ ¬NeverCountsFrozen s ∧
    ∃ log ∈ s.episodes, ∃ event ∈ log.events, event.eventType = .release := by
  have hrun : (sampleFrozenCycles.foldlM (stepArmRisk .short sampleNavSettings)
      .empty).toOption.any (fun s =>
        (validReleaseChecks s.navSnapshots "second" 5).any (fun row =>
          decide (row.payload.frozenAchievedTargetValuations ≠ [])) &&
        s.episodes.any fun log => log.events.any fun event =>
          decide (event.eventType = .release)) = true := by decide +kernel
  obtain ⟨s, hok, hfound⟩ := exists_of_any hrun
  obtain ⟨taken, hmap, run⟩ := Run.of_foldlM hok
  simp only [Bool.and_eq_true, any_eq_true, decide_eq_true_eq] at hfound
  obtain ⟨⟨row, hrow, hfrozen⟩, log, hlog, event, hevent, hkind⟩ := hfound
  exact ⟨taken, s, run, hmap, fun hnever => hfrozen (hnever "second" 5 row hrow), log, hlog, event,
    hevent, hkind⟩

theorem heldQuoted_of_all {latest : Dict String LatestQuote}
    (h : (o.state.held.entries.all fun entry =>
      (freshDecisionQuote settings.maximumQuoteAge latest o.cycle.now entry.1).toOption.any
        fun _ => true) = true) : HeldQuoted settings latest o := by
  intro entry hentry
  obtain ⟨quote, hquote, -⟩ := exists_of_any (all_eq_true.mp h entry hentry)
  exact ⟨quote, hquote⟩

theorem sampleQuoted_met (s : ArmRisk) :
    ∀ input ∈ sampleCycles sampleLatestQuote, QuotedRelease sampleNavSettings s input := by
  intro input hinput
  simp only [sampleCycles, mem_cons, not_mem_nil, or_false] at hinput
  rcases hinput with rfl | rfl | rfl | rfl | rfl | rfl
  · trivial
  · exact fun _ => heldQuoted_of_all (by decide +kernel)
  · trivial
  · exact fun _ => heldQuoted_of_all (by decide +kernel)
  · exact fun _ => heldQuoted_of_all (by decide +kernel)
  · trivial

/-- With quotes both risk cycles of the second session count, and none of them was frozen. -/
theorem sampleQuoted_never_counted : ∃ taken s, taken.map (·.2) = sampleCycles sampleLatestQuote ∧
    Run (stepArmRisk .short sampleNavSettings) .empty taken s ∧
    (validReleaseChecks s.navSnapshots "second" 5).length = 2 ∧ NeverCountsFrozen s := by
  have hrun : ((sampleCycles sampleLatestQuote).foldlM (stepArmRisk .short sampleNavSettings)
      .empty).toOption.any (fun s =>
        decide ((validReleaseChecks s.navSnapshots "second" 5).length = 2)) = true := by
    decide +kernel
  obtain ⟨s, hok, hcounted⟩ := exists_of_any hrun
  obtain ⟨taken, hmap, run⟩ := Run.of_foldlM hok
  have hmet : ∀ x ∈ taken, QuotedRelease sampleNavSettings x.1 x.2 := by
    intro x hx
    apply sampleQuoted_met
    rw [← hmap]
    exact mem_map_of_mem hx
  exact ⟨taken, s, hmap, run, of_decide_eq_true hcounted,
    frozen_never_counted .short sampleNavSettings taken s run hmet⟩

end Sample

end AdaptiveQuant.Q1Cycle
