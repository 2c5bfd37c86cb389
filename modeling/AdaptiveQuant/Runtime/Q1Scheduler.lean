import AdaptiveQuant.Lib.CivilDate
import AdaptiveQuant.Lib.Grid
import AdaptiveQuant.Runtime.CycleStore
import Mathlib.Data.List.Dedup

/-! The cycle slots of one exchange session (`runtime/q1_scheduler.py`).  The New York clock of a
date is a parameter. -/

namespace AdaptiveQuant.Q1Scheduler

open Guard Sequence List

/-- `Q1SessionSchedule`; a clock is the minutes after midnight. -/
structure Q1SessionScheduleFields where
  firstNavTimeEt : ℕ
  navIntervalMinutes : ℤ
  strategicTimeEt : ℕ
  llmReviewTimesEt : List ℕ
  normalExecutionStartEt : ℕ
  normalExecutionEndEt : ℕ
  executionIntervalMinutes : ℤ
  noRiskIncreaseAfterEt : ℕ

/-- `Q1SessionSchedule.__post_init__`. -/
def Q1SessionScheduleFields.check (s : Q1SessionScheduleFields) : Except Failure Unit := do
  raiseIf (s.navIntervalMinutes ≤ 0 ∨ s.executionIntervalMinutes ≤ 0)
    ⟨.valueError, "Q1 schedule intervals must be positive", []⟩
  raiseIf (s.normalExecutionEndEt < s.normalExecutionStartEt)
    ⟨.valueError, "Q1 normal execution window is inverted", []⟩

abbrev Q1SessionSchedule := Validated Q1SessionScheduleFields.check

theorem intervals_pos (schedule : Q1SessionSchedule) :
    0 < minutes schedule.val.navIntervalMinutes ∧
      0 < minutes schedule.val.executionIntervalMinutes := by
  have hvalid := schedule.valid
  simp only [Q1SessionScheduleFields.check, ok_iff, not_or, not_le] at hvalid
  unfold minutes
  omega

/-- What the slots read of a `VersionedMarketSession`. -/
structure VersionedMarketSession where
  sessionDate : CivilDate
  openAt : Instant
  closeAt : Instant

def q1CyclePriority : List String :=
  ["Q1_SETTLEMENT", "Q1_BOOTSTRAP", "Q1_NAV_RISK", "Q1_STRATEGIC", "Q1_LLM_REVIEW", "Q1_EXECUTION",
    "Q1_DAILY_RESULT"]

def slotKey (slot : PaperCycleSlot) : Instant ×ₗ ℕ ×ₗ String :=
  toLex (slot.scheduledAt, toLex (q1CyclePriority.idxOf slot.cycleKind, slot.cycleKind))

section Slots

variable (sessionClock : CivilDate → ℕ → Instant) (session : VersionedMarketSession)
  (schedule : Q1SessionSchedule)

def clockAt (clock : ℕ) : Instant := sessionClock session.sessionDate clock

def firstNav : Instant :=
  max session.openAt (clockAt sessionClock session schedule.val.firstNavTimeEt)

def navSlots : List PaperCycleSlot :=
  (Grid.points (minutes schedule.val.navIntervalMinutes) session.closeAt (intervals_pos schedule).1
    (firstNav sessionClock session schedule)).map (⟨"Q1_NAV_RISK", ·⟩)

def strategicSlots : List PaperCycleSlot :=
  let strategicAt := clockAt sessionClock session schedule.val.strategicTimeEt
  if session.openAt ≤ strategicAt ∧ strategicAt < session.closeAt then
    [⟨"Q1_STRATEGIC", strategicAt⟩]
  else []

def reviewSlots : List PaperCycleSlot :=
  (schedule.val.llmReviewTimesEt.filter fun reviewClock =>
    let reviewAt := clockAt sessionClock session reviewClock
    reviewClock ≠ schedule.val.strategicTimeEt ∧ session.openAt ≤ reviewAt ∧
      reviewAt < session.closeAt).map
    fun reviewClock => ⟨"Q1_LLM_REVIEW", clockAt sessionClock session reviewClock⟩

def executionSlots : List PaperCycleSlot :=
  (Grid.points (minutes schedule.val.executionIntervalMinutes) session.closeAt
    (intervals_pos schedule).2
    (session.openAt + minutes schedule.val.executionIntervalMinutes)).map (⟨"Q1_EXECUTION", ·⟩)

def gatheredSlots : List PaperCycleSlot :=
  [⟨"Q1_SETTLEMENT", session.openAt⟩, ⟨"Q1_BOOTSTRAP", session.openAt⟩,
    ⟨"Q1_DAILY_RESULT", session.closeAt⟩] ++ navSlots sessionClock session schedule ++
    strategicSlots sessionClock session schedule ++ reviewSlots sessionClock session schedule ++
    executionSlots session schedule

def buildQ1SessionSlots : Except Failure (List PaperCycleSlot) := do
  raiseIf (session.closeAt ≤ session.openAt)
    ⟨.valueError, "Market session close must follow open", []⟩
  return sortedBy slotKey (gatheredSlots sessionClock session schedule).dedup

end Slots

variable {sessionClock : CivilDate → ℕ → Instant} {session : VersionedMarketSession}
  {schedule : Q1SessionSchedule} {slots : List PaperCycleSlot}

theorem slotKey_injective : Function.Injective slotKey := by
  rintro ⟨kind, scheduledAt⟩ ⟨kind', scheduledAt'⟩ h
  have hpair := toLex.injective h
  obtain ⟨hat, hrest⟩ := Prod.mk.inj hpair
  obtain ⟨-, hkind⟩ := Prod.mk.inj (toLex.injective hrest)
  exact PaperCycleSlot.mk.injEq .. ▸ ⟨hkind, hat⟩

variable {slot : PaperCycleSlot}

theorem mem_gatheredSlots :
    slot ∈ gatheredSlots sessionClock session schedule ↔
      slot = ⟨"Q1_SETTLEMENT", session.openAt⟩ ∨ slot = ⟨"Q1_BOOTSTRAP", session.openAt⟩ ∨
      slot = ⟨"Q1_DAILY_RESULT", session.closeAt⟩ ∨
      (slot.cycleKind = "Q1_NAV_RISK" ∧ ∃ k : ℕ, slot.scheduledAt =
        firstNav sessionClock session schedule + k * minutes schedule.val.navIntervalMinutes ∧
        slot.scheduledAt < session.closeAt) ∨
      slot ∈ strategicSlots sessionClock session schedule ∨
      slot ∈ reviewSlots sessionClock session schedule ∨
        slot ∈ executionSlots session schedule := by
  have hnav : slot ∈ navSlots sessionClock session schedule ↔ slot.cycleKind = "Q1_NAV_RISK" ∧
      ∃ k : ℕ, slot.scheduledAt =
        firstNav sessionClock session schedule + k * minutes schedule.val.navIntervalMinutes ∧
        slot.scheduledAt < session.closeAt := by
    rw [← @Grid.mem_points _ _ (intervals_pos schedule).1]
    obtain ⟨kind, scheduledAt⟩ := slot
    simp only [navSlots, mem_map, PaperCycleSlot.mk.injEq]
    constructor
    · rintro ⟨_, hpoint, rfl, rfl⟩
      exact ⟨rfl, hpoint⟩
    · rintro ⟨rfl, hpoint⟩
      exact ⟨scheduledAt, hpoint, rfl, rfl⟩
  simp only [gatheredSlots, mem_append, mem_cons, not_mem_nil, or_false, hnav,
    or_assoc]

theorem mem_strategicSlots (h : slot ∈ strategicSlots sessionClock session schedule) :
    slot.cycleKind = "Q1_STRATEGIC" ∧ session.openAt ≤ slot.scheduledAt ∧
      slot.scheduledAt < session.closeAt := by
  simp only [strategicSlots] at h
  split at h
  · rename_i hwithin
    rw [mem_singleton.mp h]
    exact ⟨rfl, hwithin⟩
  · cases h

theorem mem_reviewSlots (h : slot ∈ reviewSlots sessionClock session schedule) :
    slot.cycleKind = "Q1_LLM_REVIEW" ∧ session.openAt ≤ slot.scheduledAt ∧
      slot.scheduledAt < session.closeAt := by
  obtain ⟨clock, hclock, rfl⟩ := mem_map.mp h
  have hwithin := of_decide_eq_true (mem_filter.mp hclock).2
  exact ⟨rfl, hwithin.2⟩

theorem mem_executionSlots (h : slot ∈ executionSlots session schedule) :
    slot.cycleKind = "Q1_EXECUTION" ∧ session.openAt ≤ slot.scheduledAt ∧
      slot.scheduledAt < session.closeAt := by
  obtain ⟨point, hpoint, rfl⟩ := mem_map.mp h
  obtain ⟨hstart, hstop⟩ := Grid.points_within hpoint
  have hpositive := (intervals_pos schedule).2
  have hopen : session.openAt ≤ session.openAt + minutes schedule.val.executionIntervalMinutes :=
    le_add_of_nonneg_right hpositive.le
  exact ⟨rfl, hopen.trans hstart, hstop⟩

/-- What the slots of one session are. -/
structure SessionSlots (sessionClock : CivilDate → ℕ → Instant) (session : VersionedMarketSession)
    (schedule : Q1SessionSchedule) (slots : List PaperCycleSlot) : Prop where
  ordered : slots.Pairwise fun slot later => slotKey slot < slotKey later
  unique : slots.Nodup
  within : ∀ slot ∈ slots, slot.cycleKind ≠ "Q1_DAILY_RESULT" →
    session.openAt ≤ slot.scheduledAt ∧ slot.scheduledAt < session.closeAt
  daily : slots.filter (·.cycleKind = "Q1_DAILY_RESULT") = [⟨"Q1_DAILY_RESULT", session.closeAt⟩]
  settlement : slots.filter (·.cycleKind = "Q1_SETTLEMENT") = [⟨"Q1_SETTLEMENT", session.openAt⟩]
  bootstrap : slots.filter (·.cycleKind = "Q1_BOOTSTRAP") = [⟨"Q1_BOOTSTRAP", session.openAt⟩]
  navRisk : ∀ instant, ⟨"Q1_NAV_RISK", instant⟩ ∈ slots ↔ ∃ k : ℕ, instant =
    firstNav sessionClock session schedule + k * minutes schedule.val.navIntervalMinutes ∧
    instant < session.closeAt

theorem filter_kind_eq (unique : slots.Nodup) (mem : slot ∈ slots)
    (only : ∀ other ∈ slots, other.cycleKind = slot.cycleKind → other = slot) :
    slots.filter (·.cycleKind = slot.cycleKind) = [slot] := by
  have hmem : ∀ other, other ∈ slots.filter (·.cycleKind = slot.cycleKind) ↔ other ∈ [slot] := by
    intro other
    rw [mem_filter, mem_singleton, decide_eq_true_eq]
    constructor
    · exact fun ⟨hother, hsame⟩ => only other hother hsame
    · rintro rfl
      exact ⟨mem, rfl⟩
  have hperm := (perm_ext_iff_of_nodup (unique.filter _) (nodup_singleton slot)).mpr hmem
  exact perm_singleton.mp hperm

theorem mem_slots_iff (h : buildQ1SessionSlots sessionClock session schedule = .ok slots) :
    slot ∈ slots ↔ slot ∈ gatheredSlots sessionClock session schedule := by
  simp only [buildQ1SessionSlots, ok_iff] at h
  obtain ⟨-, rfl⟩ := h
  rw [mem_sortedBy, mem_dedup]

/-- Every session has its slots, in order and once each, on the whole NAV grid from the first NAV
clock on. -/
theorem buildQ1SessionSlots_ok (hopen : session.openAt < session.closeAt) :
    ∃ slots, buildQ1SessionSlots sessionClock session schedule = .ok slots ∧
      SessionSlots sessionClock session schedule slots := by
  have hbuilt : buildQ1SessionSlots sessionClock session schedule =
      .ok (sortedBy slotKey (gatheredSlots sessionClock session schedule).dedup) := by
    simp only [buildQ1SessionSlots, raiseIf_neg _ (not_le.mpr hopen), ok_bind]
    rfl
  refine ⟨_, hbuilt, ?_⟩
  have hmem {slot : PaperCycleSlot} := @mem_slots_iff _ _ _ _ slot hbuilt
  have hunique : (sortedBy slotKey (gatheredSlots sessionClock session schedule).dedup).Nodup :=
    (sortedBy_perm _ _).nodup_iff.mpr (nodup_dedup _)
  have hsorted := sortedBy_pairwise slotKey (gatheredSlots sessionClock session schedule).dedup
  generalize sortedBy slotKey (gatheredSlots sessionClock session schedule).dedup = slots at *
  have hkind {slot : PaperCycleSlot} (h : slot ∈ slots) :
      (slot = ⟨"Q1_SETTLEMENT", session.openAt⟩ ∨ slot = ⟨"Q1_BOOTSTRAP", session.openAt⟩ ∨
        slot = ⟨"Q1_DAILY_RESULT", session.closeAt⟩) ∨
      (slot.cycleKind ∈ ["Q1_NAV_RISK", "Q1_STRATEGIC", "Q1_LLM_REVIEW", "Q1_EXECUTION"] ∧
        session.openAt ≤ slot.scheduledAt ∧ slot.scheduledAt < session.closeAt) := by
    rcases mem_gatheredSlots.mp (hmem.mp h) with h | h | h | ⟨hnav, k, hat, hstop⟩ | h | h | h
    · exact .inl (.inl h)
    · exact .inl (.inr (.inl h))
    · exact .inl (.inr (.inr h))
    · have hfirst : session.openAt ≤ firstNav sessionClock session schedule := le_max_left _ _
      have hnonneg : 0 ≤ (k : ℤ) * minutes schedule.val.navIntervalMinutes :=
        mul_nonneg (Int.natCast_nonneg k) (intervals_pos schedule).1.le
      exact .inr ⟨by simp [hnav], hat ▸ hfirst.trans (le_add_of_nonneg_right hnonneg), hstop⟩
    · obtain ⟨hkind, hwithin⟩ := mem_strategicSlots h
      exact .inr ⟨by simp [hkind], hwithin⟩
    · obtain ⟨hkind, hwithin⟩ := mem_reviewSlots h
      exact .inr ⟨by simp [hkind], hwithin⟩
    · obtain ⟨hkind, hwithin⟩ := mem_executionSlots h
      exact .inr ⟨by simp [hkind], hwithin⟩
  have hfixed {slot : PaperCycleSlot} (h : slot = ⟨"Q1_SETTLEMENT", session.openAt⟩ ∨
      slot = ⟨"Q1_BOOTSTRAP", session.openAt⟩ ∨ slot = ⟨"Q1_DAILY_RESULT", session.closeAt⟩) :
      slot ∈ slots := by
    rw [hmem, mem_gatheredSlots]
    rcases h with h | h | h
    · exact .inl h
    · exact .inr (.inl h)
    · exact .inr (.inr (.inl h))
  have honly {slot : PaperCycleSlot} (h : slot = ⟨"Q1_SETTLEMENT", session.openAt⟩ ∨
      slot = ⟨"Q1_BOOTSTRAP", session.openAt⟩ ∨ slot = ⟨"Q1_DAILY_RESULT", session.closeAt⟩) :
      slots.filter (·.cycleKind = slot.cycleKind) = [slot] := by
    refine filter_kind_eq hunique (hfixed h) fun other hother hsame => ?_
    rcases hkind hother with hfix | ⟨hregular, -⟩
    · rcases h with rfl | rfl | rfl <;> rcases hfix with rfl | rfl | rfl <;>
        first | rfl | exact absurd hsame (by simp)
    · rw [hsame] at hregular
      rcases h with rfl | rfl | rfl <;> exact absurd hregular (by simp)
  constructor
  · exact (hsorted.and hunique).imp fun ⟨hle, hne⟩ =>
      lt_of_le_of_ne hle fun heq => hne (slotKey_injective heq)
  · exact hunique
  · intro slot h hregular
    rcases hkind h with (rfl | rfl | rfl) | ⟨-, hwithin⟩
    · exact ⟨le_rfl, hopen⟩
    · exact ⟨le_rfl, hopen⟩
    · exact absurd rfl hregular
    · exact hwithin
  · exact honly (.inr (.inr rfl))
  · exact honly (.inl rfl)
  · exact honly (.inr (.inl rfl))
  · intro instant
    rw [hmem, mem_gatheredSlots]
    constructor
    · rintro (h | h | h | ⟨-, hgrid⟩ | h | h | h)
      · exact absurd (congrArg (·.cycleKind) h) (by simp)
      · exact absurd (congrArg (·.cycleKind) h) (by simp)
      · exact absurd (congrArg (·.cycleKind) h) (by simp)
      · exact hgrid
      · exact absurd (mem_strategicSlots h).1 (by simp)
      · exact absurd (mem_reviewSlots h).1 (by simp)
      · exact absurd (mem_executionSlots h).1 (by simp)
    · exact fun hgrid => .inr (.inr (.inr (.inl ⟨rfl, hgrid⟩)))

def sampleSchedule : Q1SessionSchedule where
  val :=
    { firstNavTimeEt := 585
      navIntervalMinutes := 15
      strategicTimeEt := 600
      llmReviewTimesEt := [600, 720]
      normalExecutionStartEt := 601
      normalExecutionEndEt := 620
      executionIntervalMinutes := 1
      noRiskIncreaseAfterEt := 780 }
  valid := by decide

def sampleSession : VersionedMarketSession :=
  ⟨.monday, minutes 570, minutes 960⟩

def sampleClock : CivilDate → ℕ → Instant := fun _ clock => minutes clock

/-- There is no NAV slot at the open. -/
theorem no_nav_at_open : ∃ slots,
    buildQ1SessionSlots sampleClock sampleSession sampleSchedule = .ok slots ∧
    ⟨"Q1_NAV_RISK", sampleSession.openAt⟩ ∉ slots := by
  have hopen : ¬sampleSession.closeAt ≤ sampleSession.openAt := by decide
  refine ⟨sortedBy slotKey (gatheredSlots sampleClock sampleSession sampleSchedule).dedup, ?_, ?_⟩
  · simp only [buildQ1SessionSlots, raiseIf_neg _ hopen, ok_bind]
    rfl
  · rw [mem_sortedBy, mem_dedup, mem_gatheredSlots]
    rintro (h | h | h | ⟨-, k, hat, -⟩ | h | h | h)
    · exact absurd (congrArg (·.cycleKind) h) (by simp)
    · exact absurd (congrArg (·.cycleKind) h) (by simp)
    · exact absurd (congrArg (·.cycleKind) h) (by simp)
    · have hfirst : firstNav sampleClock sampleSession sampleSchedule = minutes 585 := by decide
      have hnonneg : 0 ≤ (k : ℤ) * minutes 15 := mul_nonneg (Int.natCast_nonneg k) (by decide)
      have hstart : minutes 570 = minutes 585 + k * minutes 15 := hfirst ▸ hat
      unfold minutes at hstart hnonneg
      omega
    · exact absurd (mem_strategicSlots h).1 (by simp)
    · exact absurd (mem_reviewSlots h).1 (by simp)
    · exact absurd (mem_executionSlots h).1 (by simp)

theorem sampleSession_slots : ∃ slots,
    buildQ1SessionSlots sampleClock sampleSession sampleSchedule = .ok slots ∧
      SessionSlots sampleClock sampleSession sampleSchedule slots :=
  buildQ1SessionSlots_ok (by decide)

end AdaptiveQuant.Q1Scheduler
