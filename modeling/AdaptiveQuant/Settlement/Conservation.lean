import AdaptiveQuant.Domain.CanonicalText
import AdaptiveQuant.Settlement.CashBook

/-! What the projection of a cash book says about the money of its arm, and when it refuses. -/

namespace AdaptiveQuant.Settlement

open Guard List

variable {hash : Hashing} {opening : CashSettlementEvent} {book : List CashSettlementEvent}
  {taken : List (List CashSettlementEvent × BookStep)}

theorem sum_openingCash (events : List CashSettlementEvent) :
    (events.map openingCash).sum = ((events.filter fun e =>
      e.val.eventType = .openingSettledCash).map (·.val.grossAmountUsd)).sum := by
  induction events with
  | nil => rfl
  | cons e events ih =>
    rw [map_cons, sum_cons, ih, openingCash]
    by_cases htype : e.val.eventType = .openingSettledCash
    · simp [htype]
    · simp [htype]

theorem BookInv.opening_visible (inv : BookInv hash opening book) (asOf : Instant) :
    ((visibleEvents book asOf).map openingCash).sum =
      if opening.val.createdAt ≤ asOf then opening.val.grossAmountUsd else 0 := by
  have hfilter : (visibleEvents book asOf).filter (fun e => e.val.eventType = .openingSettledCash) =
      visibleEvents [opening] asOf := by
    rw [visibleEvents, filter_comm, inv.opened]
    rfl
  rw [sum_openingCash, hfilter]
  by_cases hcreated : opening.val.createdAt ≤ asOf
  · have heffective := opening.checks.2.trans hcreated
    simp [visibleEvents, hcreated, heffective]
  · simp [visibleEvents, hcreated]

/-- Some call of the run settled the receivable, when it was due. -/
def SettledInCall (taken : List (List CashSettlementEvent × BookStep)) (key : String) : Prop :=
  ∃ before args, (before, BookStep.settle args) ∈ taken ∧
    ∃ c ∈ before, createdId c = some key ∧
      ∃ date, c.val.settlementDate = some date ∧ date ≤ args.throughSession

theorem SettledInCall.mono {taken'} {key : String} (h : SettledInCall taken key)
    (sub : taken ⊆ taken') :
    SettledInCall taken' key := by
  obtain ⟨before, args, hmem, hsale⟩ := h
  exact ⟨before, args, sub hmem, hsale⟩

theorem settled_in_call (htype : opening.val.eventType = .openingSettledCash)
    (run : Run (bookStep hash) [opening] taken book) :
    ∀ e ∈ book, ∀ key, settledId e = some key → SettledInCall taken key := by
  induction run with
  | start =>
    intro e he key hkey
    rw [mem_singleton.mp he, settledId_eq_some, htype] at hkey
    simp at hkey
  | @next taken book book' step run ok ih =>
    rw [bookStep, map_eq_ok] at ok
    obtain ⟨events, hevents, rfl⟩ := ok
    intro e he key hkey
    rcases mem_append.mp he with he | he
    · exact (ih e he key hkey).mono (subset_append_left _ _)
    · cases step with
      | buy ctx fill =>
        simp only [stepEvents, ok_iff] at hevents
        obtain ⟨event, hrecord, rfl⟩ := hevents
        obtain ⟨-, -, hbuy, -⟩ := recordBuyCashDebit_eq_ok hrecord
        rw [mem_singleton.mp he, settledId_eq_some, hbuy] at hkey
        simp at hkey
      | sell ctx calendar tradeSession fill =>
        simp only [stepEvents, ok_iff] at hevents
        obtain ⟨event, hrecord, rfl⟩ := hevents
        obtain ⟨-, -, hcreated, -⟩ := recordSellReceivable_eq_ok hrecord
        rw [mem_singleton.mp he, settledId_eq_some, (createdId_eq_some.mp hcreated).1] at hkey
        simp at hkey
      | settle args =>
        obtain ⟨entry, hentry, heq⟩ := exists_entry_of_mem_due hevents he
        obtain ⟨hsource, hcreated, -, hdate⟩ := mem_dueEntries hentry
        rw [settledId_of_draft heq, Option.some.injEq] at hkey
        exact ⟨book, args, by simp, entry.2, hsource, hkey ▸ hcreated, hdate⟩

theorem chronological_of_run (collisionFree : hash.NoCollision)
    (inv : BookInv hash opening [opening]) (htype : opening.val.eventType = .openingSettledCash)
    (run : Run (bookStep hash) [opening] taken book)
    (turns : ∀ x ∈ taken, InTurn hash x.1 x.2) : Chronological book := by
  have hkeep : ∀ before step after, BookInv hash opening before ∧ Chronological before →
      InTurn hash before step → bookStep hash before step = .ok after →
      BookInv hash opening after ∧ Chronological after :=
    fun _ _ _ h turn ok => ⟨h.1.step ok, h.2.step collisionFree h.1 turn ok⟩
  exact (run.inv_when ⟨inv, .start htype⟩ hkeep turns).2

/-- What the projection of a cash book says, and which books it never refuses. -/
theorem cash_book_sound (collisionFree : hash.NoCollision) {ctx : EntryContext} {armId : Q1ArmId}
    {amount : Decimal} {effectiveAt : Instant}
    (hopening : recordOpeningSettledCash hash ctx armId amount effectiveAt = .ok opening)
    (run : Run (bookStep hash) [opening] taken book) :
    (∀ asOf b, applySettlementEvents book asOf = .ok b → 0 ≤ b.val.settledCashUsd ∧
      b.val.settledCashUsd + b.unsettledReceivablesUsd =
        (if opening.val.createdAt ≤ asOf then amount else 0) +
          ((visibleEvents book asOf).map netProceeds).sum -
          ((visibleEvents book asOf).map buyCost).sum) ∧
    ((∀ x ∈ taken, InTurn hash x.1 x.2) → ∀ asOf, (∀ e ∈ book, e.val.createdAt ≤ asOf) →
      ∃ b, applySettlementEvents book asOf = .ok b) ∧
    (book.filterMap settledId).Nodup ∧
    (∀ e ∈ book, ∀ key, settledId e = some key → SettledInCall taken key) ∧
    (∀ args args' due, settleDueReceivables hash book args = .ok due →
      args'.ctx.policy = args.ctx.policy → args'.calendar = args.calendar →
      args'.throughSession = args.throughSession →
      settleDueReceivables hash (book ++ due) args' = .ok []) ∧
    ∀ events, events.Perm book → ∀ asOf,
      applySettlementEvents events asOf = applySettlementEvents book asOf := by
  have inv := book_inv hopening run
  obtain ⟨-, -, htype, hamount, -⟩ := recordOpeningSettledCash_eq_ok hopening
  refine ⟨fun asOf b h => ⟨b.settled_nonneg, ?_⟩, fun turns asOf visible => ?_, inv.once,
    settled_in_call htype run, fun args args' due h hpolicy hcalendar hdate => ?_,
    fun events perm asOf => applySettlementEvents_perm perm⟩
  · obtain ⟨hsettled, hunsettled⟩ := applySettlementEvents_sums h inv.moves
    have hmoves : ∀ e ∈ visibleEvents book asOf, CashMoves e.val :=
      fun e he => inv.moves e (mem_of_mem_filter he)
    rw [hsettled, hunsettled, sum_total hmoves, inv.opening_visible, hamount]
  · have chron := chronological_of_run collisionFree (book_inv hopening .start) htype run turns
    exact chron.accepted collisionFree inv visible
  · have hchecks := h
    simp only [settleDueReceivables, bind_eq_ok] at hchecks
    obtain ⟨⟨⟩, samePolicy, ⟨⟩, session, -⟩ := hchecks
    refine inv.settle_twice collisionFree h ?_ ?_ hdate
    · rw [hpolicy, hcalendar]
      exact samePolicy
    · rw [hcalendar, hdate]
      exact session

instance (hash : Hashing) (book : List CashSettlementEvent) :
    ∀ step, Decidable (InTurn hash book step)
  | .buy _ _ => inferInstanceAs (Decidable (_ ∧ _))
  | .sell .. => inferInstanceAs (Decidable (_ ∧ _))
  | .settle _ => inferInstanceAs (Decidable (_ ∧ True))

def sampleSession : CivilDate := .monday

def sampleCalendar : BusinessCalendar := ⟨⟨"calendar", [sampleSession]⟩, by decide⟩

def sampleContext (createdAt : Instant) : EntryContext where
  createdAt := createdAt
  calendarSessionId := "session"
  policy := ⟨⟨"p", "calendar", 0⟩, by decide⟩
  provenance := ⟨⟨"r", "c", "config", "code", "model", "source", "fence", 1⟩, by decide⟩

def sampleFill (fillId : String) (tradeAt : Instant) (notional : Decimal) : FillCash :=
  ⟨.q1Det, fillId, tradeAt, notional, 1⟩

def sampleSell (fillId : String) (tradeAt : Instant) (notional : Decimal) : BookStep :=
  .sell (sampleContext tradeAt) sampleCalendar sampleSession (sampleFill fillId tradeAt notional)

def sampleBuy (fillId : String) (tradeAt : Instant) (notional : Decimal) : BookStep :=
  .buy (sampleContext tradeAt) (sampleFill fillId tradeAt notional)

def sampleSettle (effectiveAt : Instant) : BookStep :=
  .settle ⟨sampleSession, effectiveAt, sampleContext effectiveAt, sampleCalendar⟩

def sampleOpening (hash : Hashing) : Except Failure CashSettlementEvent :=
  recordOpeningSettledCash hash (sampleContext 0) .q1Det 2 0

def sampleSteps : List BookStep := [sampleSell "s" 1 3, sampleSettle 2, sampleBuy "b" 3 2]

theorem sample_book_sound : ∃ opening taken book b,
    Run (bookStep Hashing.nested) [opening] taken book ∧ taken.map (·.2) = sampleSteps ∧
      applySettlementEvents book 3 = .ok b ∧ b.val.settledCashUsd + b.unsettledReceivablesUsd = 1 ∧
      (book.filterMap settledId).Nodup := by
  have heval : ((sampleOpening Hashing.nested).toOption.any fun opening =>
      (sampleSteps.foldlM (fun book step => if InTurn Hashing.nested book step then
        bookStep Hashing.nested book step else .error (settlementError "not in turn"))
        [opening]).toOption.any fun book => decide (∀ e ∈ book, e.val.createdAt ≤ 3) &&
          decide (opening.val.createdAt ≤ 3 ∧
            2 + ((visibleEvents book 3).map netProceeds).sum -
              ((visibleEvents book 3).map buyCost).sum = 1)) = true := by
    decide +kernel
  obtain ⟨opening, hopening, hbook⟩ := exists_of_any heval
  obtain ⟨book, hfold, htest⟩ := exists_of_any hbook
  obtain ⟨hvisible, hsum⟩ := Bool.and_eq_true_iff.mp htest
  obtain ⟨taken, hsteps, run, turns⟩ := Run.of_guarded hfold
  have sound := cash_book_sound Hashing.nested_noCollision hopening run
  obtain ⟨b, happly⟩ := sound.2.1 turns 3 (of_decide_eq_true hvisible)
  refine ⟨opening, taken, book, b, run, hsteps, happly, ?_, sound.2.2.1⟩
  rw [(sound.1 3 b happly).2, if_pos (of_decide_eq_true hsum).1]
  exact (of_decide_eq_true hsum).2

/-- Accepted steps whose book the projection refuses, with everything in it visible. -/
def Refused (hash : Hashing) (opening : Except Failure CashSettlementEvent) (steps : List BookStep)
    (asOf : Instant) (failure : Failure) : Bool :=
  opening.toOption.any fun opening => (steps.foldlM (bookStep hash) [opening]).toOption.any
    fun book => decide ((∀ e ∈ book, e.val.createdAt ≤ asOf) ∧
      failure? (applySettlementEvents book asOf) = some failure)

/-- The steps do not look at the settled cash, at the order of instants, or at what was sold
before. -/
theorem cash_book_refused :
    Refused Hashing.short (sampleOpening Hashing.short) [sampleBuy "b" 1 2] 1
        (settlementError "BUY fill would consume more than settled cash") ∧
      Refused Hashing.short (sampleOpening Hashing.short)
        [sampleSell "s" 1 3, sampleSettle 2, sampleBuy "b" 2 2] 2
        (settlementError "BUY fill would consume more than settled cash") ∧
      Refused Hashing.short (sampleOpening Hashing.short) [sampleSell "s" 1 3, sampleSell "s" 2 3] 2
        (settlementError "SELL fill created more than one receivable") := by
  decide +kernel

end AdaptiveQuant.Settlement
