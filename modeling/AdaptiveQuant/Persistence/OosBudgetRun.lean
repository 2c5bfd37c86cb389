import AdaptiveQuant.Lib.Run
import AdaptiveQuant.Persistence.OosBudget
import Mathlib.Data.Int.Interval
import Mathlib.Data.List.Pairwise

/-! Calls on the budget of an experiment family in any order. -/

namespace AdaptiveQuant.ResearchPlane

open Guard List

inductive BudgetAnswer
  | reserve (call : ReserveCall) (result : Except Failure OosBudgetReservation)
  | append (call : BudgetEventCall) (result : Except Failure Bool)

def BudgetAnswer.Refused : BudgetAnswer → Prop
  | .reserve _ result => ∃ e, result = .error e
  | .append _ result => ∃ e, result = .error e

/-- The database, the calls in flight with their failed attempts, and the answers so far. -/
structure BudgetSystem where
  store : BudgetStore := {}
  flight : List (ReserveCall × ℕ) := []
  answers : List BudgetAnswer := []

/-- What may happen next: a challenger is registered, a call of `append_budget_event` is made, a
call of `reserve_oos_budget` is made, or such a call makes an attempt. -/
inductive BudgetAction
  | register (challengerId : String)
  | append (call : BudgetEventCall)
  | reserve (call : ReserveCall)
  | attempt (index : ℕ)

section System

variable (hash : Hashing)

def reserveAttempt (s : BudgetSystem) (index : ℕ) (call : ReserveCall) (failed : ℕ) :
    BudgetSystem :=
  match reserveOosBudgetOnce hash s.store call with
  | .ok (reservation, store) =>
    { store := store
      flight := s.flight.eraseIdx index
      answers := s.answers ++ [.reserve call (.ok reservation)] }
  | .error e =>
    if e.exception = .integrityError then
      if failed = 2 then
        { s with
          flight := s.flight.eraseIdx index
          answers := s.answers ++ [.reserve call
            (.error (persistenceError "concurrent OOS budget reservation conflict"))] }
      else { s with flight := s.flight.set index (call, failed + 1) }
    else
      { s with
        flight := s.flight.eraseIdx index
        answers := s.answers ++ [.reserve call (.error e)] }

/-- A call that is refused leaves the tables as they are and is answered with its error. -/
def budgetStep (s : BudgetSystem) : BudgetAction → Except Failure BudgetSystem
  | .register challengerId =>
    .ok { s with store := { s.store with challengers := s.store.challengers ++ [challengerId] } }
  | .append call =>
    match appendBudgetEvent hash s.store call with
    | .ok (created, store) =>
      .ok { s with store := store, answers := s.answers ++ [.append call (.ok created)] }
    | .error e => .ok { s with answers := s.answers ++ [.append call (.error e)] }
  | .reserve call =>
    match checkReserveCall call with
    | .ok () => .ok { s with flight := s.flight ++ [(call, 0)] }
    | .error e => .ok { s with answers := s.answers ++ [.reserve call (.error e)] }
  | .attempt index =>
    match s.flight[index]? with
    | some (call, failed) => .ok (reserveAttempt hash s index call failed)
    | none => .error (persistenceError "OOS budget reservation failed")

end System

variable {hash : Hashing}

structure OosBudgetReservation.Binds (r : OosBudgetReservation) (request : OosEvaluationRequest) :
    Prop where
  challengerId : r.challengerId = request.challengerId
  experimentFamily : r.experimentFamily = request.experimentFamily
  submissionNumber : r.submissionNumber = request.submissionNumber
  candidateArtifactHash : r.candidateArtifactHash = request.candidateArtifactHash
  evaluationContractHash : r.evaluationContractHash = request.evaluationContractHash

variable {r : OosBudgetReservation}

theorem OosBudgetReservation.Binds.unique {request request'} (h : r.Binds request)
    (h' : r.Binds request') :
    request' = request := by
  obtain ⟨c, f, n, a, e⟩ := request
  obtain ⟨c', f', n', a', e'⟩ := request'
  simp only [OosEvaluationRequest.mk.injEq]
  exact ⟨h'.challengerId.symm.trans h.challengerId,
    h'.experimentFamily.symm.trans h.experimentFamily,
    h'.submissionNumber.symm.trans h.submissionNumber,
    h'.candidateArtifactHash.symm.trans h.candidateArtifactHash,
    h'.evaluationContractHash.symm.trans h.evaluationContractHash⟩

@[simp] theorem requireOosReservationBinding_eq_ok {request : OosEvaluationRequest} {u : Unit} :
    requireOosReservationBinding r request = .ok u ↔ r.Binds request := by
  rw [requireOosReservationBinding, raiseIf_eq_ok]
  simp only [not_or, not_not]
  exact ⟨fun ⟨h1, h2, h3, h4, h5⟩ => ⟨h1, h2, h3, h4, h5⟩,
    fun ⟨h1, h2, h3, h4, h5⟩ => ⟨h1, h2, h3, h4, h5⟩⟩

theorem requireOosReservationBinding_conflict {request} (h : ¬r.Binds request) :
    requireOosReservationBinding r request =
      .error (persistenceError "OOS budget reservation idempotency conflict") := by
  cases hbinds : requireOosReservationBinding r request with
  | ok u => exact absurd (requireOosReservationBinding_eq_ok.mp hbinds) h
  | error e =>
    rw [requireOosReservationBinding, raiseIf] at hbinds
    split at hbinds
    · exact hbinds.symm
    · cases hbinds

theorem validateReservation_eq_ok {r'} (h : validateReservation hash r = .ok r') :
    r' = r ∧ 1 ≤ r.submissionOrdinal ∧ 1 ≤ r.oosBudgetOrdinal ∧
      r.submissionNumber = r.submissionOrdinal := by
  simp only [validateReservation, ok_iff, not_not] at h
  obtain ⟨hfields, -, hnumber, -, rfl⟩ := h
  simp only [OosBudgetReservation.fieldErrors, append_eq_nil_iff, geCheck_eq_nil,
    Nat.cast_one] at hfields
  obtain ⟨⟨⟨⟨⟨⟨-, hsubmission⟩, hbudget⟩, -⟩, -⟩, -⟩, -⟩ := hfields
  exact ⟨rfl, by exact_mod_cast hsubmission, by exact_mod_cast hbudget, hnumber⟩

variable {store' : BudgetStore}

theorem insertEvent_eq_ok {store : BudgetStore} {row : BudgetEventRow}
    (h : store.insertEvent row = .ok store') :
    store' = { store with events := store.events ++ [row] } := by
  simp only [BudgetStore.insertEvent, ok_iff] at h
  exact h.2.symm

theorem appendBudgetEvent_cases {store : BudgetStore} {call : BudgetEventCall}
    {created : Bool} (h : appendBudgetEvent hash store call = .ok (created, store')) :
    (created = false ∧ store' = store) ∨ (created = true ∧ 0 ≤ call.submissionDelta ∧
      0 ≤ call.oosBudgetDelta ∧
      store' = { store with events := store.events ++ [call.row hash] }) := by
  simp only [appendBudgetEvent, ok_iff, not_or, not_lt] at h
  obtain ⟨⟨hsubmission, hbudget, -, -⟩, h⟩ := h
  split at h
  · simp only [ok_iff, Prod.mk.injEq] at h
    exact .inl ⟨h.2.1.symm, h.2.2.symm⟩
  · split at h
    · cases h
    · rename_i hinsert
      obtain ⟨rfl, rfl⟩ := Prod.mk.inj (Except.ok.inj h)
      exact .inr ⟨rfl, hsubmission, hbudget, insertEvent_eq_ok hinsert⟩

theorem reserveOosBudgetOnce_cases {store : BudgetStore} {call : ReserveCall}
    (h : reserveOosBudgetOnce hash store call = .ok (r, store')) :
    (∃ existing, store.findReservation call.request.experimentFamily call.idempotencyKey =
        some existing ∧ existing.payload = r ∧ r.Binds call.request ∧ store' = store) ∨
      (store.findReservation call.request.experimentFamily call.idempotencyKey = none ∧
        r =
          call.reservation hash (store.total call.request.experimentFamily (·.submissionDelta) + 1)
          (store.total call.request.experimentFamily (·.oosBudgetDelta) + 1) ∧
        r.submissionOrdinal ≤ call.maximumSubmissions ∧ r.oosBudgetOrdinal ≤ call.maximumOosUses ∧
        validateReservation hash r = .ok r ∧
        store' = { store with
          events := store.events ++ [call.event.row hash]
          reservations := store.reservations ++ [r.row] }) := by
  rw [reserveOosBudgetOnce] at h
  dsimp only at h
  split at h
  · rename_i existing hfind
    simp only [ok_iff, Prod.mk.injEq, requireOosReservationBinding_eq_ok] at h
    obtain ⟨reservation, hvalid, -, hbinds, rfl, rfl⟩ := h
    obtain ⟨rfl, -⟩ := validateReservation_eq_ok hvalid
    exact .inl ⟨existing, hfind, rfl, hbinds, rfl⟩
  · rename_i hfind
    simp only [ok_iff, Prod.mk.injEq, not_lt] at h
    obtain ⟨-, -, hsubmission, hbudget, reservation, hvalid, store1, hreserve, store2, hevent, rfl,
      rfl⟩ := h
    obtain ⟨rfl, -⟩ := validateReservation_eq_ok hvalid
    simp only [BudgetStore.insertReservation, ok_iff] at hreserve
    obtain ⟨-, -, rfl⟩ := hreserve
    exact .inr ⟨hfind, rfl, hsubmission, hbudget, hvalid, insertEvent_eq_ok hevent⟩

theorem reserveOosBudgetOnce_known {store call} (hvalid : validateReservation hash r = .ok r)
    (hfind : store.findReservation call.request.experimentFamily call.idempotencyKey = some r.row) :
    reserveOosBudgetOnce hash store call =
      (requireOosReservationBinding r call.request).map fun _ => (r, store) := by
  rw [reserveOosBudgetOnce]
  dsimp only
  rw [hfind]
  dsimp only [OosBudgetReservation.row]
  rw [hvalid]
  simp only [ne_eq, not_true_eq_false, or_self, raiseIf_neg, not_false_eq_true, ok_bind]
  cases requireOosReservationBinding r call.request <;> rfl

theorem reserveAttempt_cases (s : BudgetSystem) (index : ℕ) (call : ReserveCall) (failed : ℕ) :
    let s' := reserveAttempt hash s index call failed
    (∃ r store', reserveOosBudgetOnce hash s.store call = .ok (r, store') ∧ s' =
        { store := store'
          flight := s.flight.eraseIdx index
          answers := s.answers ++ [.reserve call (.ok r)] }) ∨
      (s'.store = s.store ∧
        (s'.flight = s.flight.eraseIdx index ∧
            (∃ e, s'.answers = s.answers ++ [.reserve call (.error e)]) ∨
          s'.flight = s.flight.set index (call, failed + 1) ∧ s'.answers = s.answers)) := by
  dsimp only
  rw [reserveAttempt]
  split
  · rename_i r store' honce
    exact .inl ⟨r, store', honce, rfl⟩
  · rename_i e honce
    right
    split
    · split
      · exact ⟨rfl, .inl ⟨rfl, _, rfl⟩⟩
      · exact ⟨rfl, .inr ⟨rfl, rfl⟩⟩
    · exact ⟨rfl, .inl ⟨rfl, e, rfl⟩⟩

/-- The rows are those of validated reservations, every ordinal has been consumed, and later
reservations of a family have higher ordinals. -/
structure BudgetInv (hash : Hashing) (store : BudgetStore) : Prop where
  rows : ∀ row ∈ store.reservations, ∃ r, row = r.row ∧ validateReservation hash r = .ok r
  spent : ∀ row ∈ store.reservations,
    row.submissionOrdinal ≤ store.total row.experimentFamily (·.submissionDelta) ∧
      row.oosBudgetOrdinal ≤ store.total row.experimentFamily (·.oosBudgetDelta)
  increasing : store.reservations.Pairwise fun a b => a.experimentFamily = b.experimentFamily →
    a.submissionOrdinal < b.submissionOrdinal ∧ a.oosBudgetOrdinal < b.oosBudgetOrdinal

theorem total_append (store : BudgetStore) (row : BudgetEventRow)
    (reservations : List ReservationRow) (family : String) (delta : BudgetEventRow → ℤ) :
    BudgetStore.total ⟨store.challengers, store.events ++ [row], reservations⟩ family delta =
      store.total family delta + if row.experimentFamily = family then delta row else 0 := by
  simp only [BudgetStore.total, filter_append, map_append, sum_append]
  congr 1
  by_cases h : row.experimentFamily = family
  · simp [h]
  · simp [h]

theorem BudgetInv.append {store : BudgetStore} (inv : BudgetInv hash store) {call : BudgetEventCall}
    (hsubmission : 0 ≤ call.submissionDelta) (hbudget : 0 ≤ call.oosBudgetDelta) :
    BudgetInv hash { store with events := store.events ++ [call.row hash] } := by
  refine ⟨inv.rows, fun row hrow => ?_, inv.increasing⟩
  obtain ⟨hs, hb⟩ := inv.spent row hrow
  rw [total_append, total_append]
  constructor
  · split
    · exact hs.trans (le_add_of_nonneg_right hsubmission)
    · rwa [add_zero]
  · split
    · exact hb.trans (le_add_of_nonneg_right hbudget)
    · rwa [add_zero]

theorem BudgetInv.reserve {store : BudgetStore} (inv : BudgetInv hash store) {call : ReserveCall}
    (hr : r =
      call.reservation hash (store.total call.request.experimentFamily (·.submissionDelta) + 1)
      (store.total call.request.experimentFamily (·.oosBudgetDelta) + 1))
    (hvalid : validateReservation hash r = .ok r) :
    BudgetInv hash { store with
      events := store.events ++ [call.event.row hash]
      reservations := store.reservations ++ [r.row] } := by
  have hfamily : r.row.experimentFamily = call.request.experimentFamily := by rw [hr]; rfl
  have hsubmission : r.row.submissionOrdinal =
      store.total call.request.experimentFamily (·.submissionDelta) + 1 := by rw [hr]; rfl
  have hbudget : r.row.oosBudgetOrdinal =
      store.total call.request.experimentFamily (·.oosBudgetDelta) + 1 := by rw [hr]; rfl
  refine ⟨fun row hrow => ?_, fun row hrow => ?_, ?_⟩
  · rcases mem_append.mp hrow with hrow | hrow
    · exact inv.rows row hrow
    · exact ⟨r, mem_singleton.mp hrow, hvalid⟩
  · rw [total_append, total_append]
    rcases mem_append.mp hrow with hrow | hrow
    · obtain ⟨hs, hb⟩ := inv.spent row hrow
      have hone : (0 : ℤ) ≤ 1 := by decide
      constructor
      · split
        · exact hs.trans (le_add_of_nonneg_right hone)
        · rwa [add_zero]
      · split
        · exact hb.trans (le_add_of_nonneg_right hone)
        · rwa [add_zero]
    · obtain rfl := mem_singleton.mp hrow
      rw [hfamily, hsubmission, hbudget]
      have hsame : (call.event.row hash).experimentFamily = call.request.experimentFamily := rfl
      rw [if_pos hsame, if_pos hsame]
      exact ⟨le_rfl, le_rfl⟩
  · refine pairwise_append.mpr ⟨inv.increasing, pairwise_singleton _ _, ?_⟩
    intro a ha b hb hab
    obtain rfl := mem_singleton.mp hb
    obtain ⟨hs, hbudgetOf⟩ := inv.spent a ha
    rw [hab, hfamily] at hs hbudgetOf
    rw [hsubmission, hbudget]
    exact ⟨Int.lt_add_one_of_le hs, Int.lt_add_one_of_le hbudgetOf⟩

variable {s s' : BudgetSystem}

theorem budgetStep_inv {action : BudgetAction} (inv : BudgetInv hash s.store)
    (h : budgetStep hash s action = .ok s') : BudgetInv hash s'.store := by
  cases action with
  | register challengerId =>
    obtain rfl := Except.ok.inj h
    exact ⟨inv.rows, inv.spent, inv.increasing⟩
  | append call =>
    rw [budgetStep] at h
    split at h
    · rename_i created store' happend
      obtain rfl := Except.ok.inj h
      rcases appendBudgetEvent_cases happend with ⟨-, rfl⟩ | ⟨-, hsubmission, hbudget, rfl⟩
      · exact inv
      · exact inv.append hsubmission hbudget
    · obtain rfl := Except.ok.inj h
      exact inv
  | reserve call =>
    rw [budgetStep] at h
    split at h <;> obtain rfl := Except.ok.inj h <;> exact inv
  | attempt index =>
    rw [budgetStep] at h
    split at h
    · rename_i call failed hflight
      obtain rfl := Except.ok.inj h
      rcases @reserveAttempt_cases hash s index call failed with
        ⟨r, store', honce, heq⟩ | ⟨hstore, -⟩
      · rw [heq]
        rcases reserveOosBudgetOnce_cases honce with ⟨-, -, -, -, rfl⟩ |
          ⟨-, hr, -, -, hvalid, rfl⟩
        · exact inv
        · exact inv.reserve hr hvalid
      · rw [hstore]
        exact inv
    · cases h

def AnswersStored (hash : Hashing) (s : BudgetSystem) : Prop :=
  ∀ call r, .reserve call (.ok r) ∈ s.answers → r.Binds call.request ∧
    validateReservation hash r = .ok r ∧
    s.store.findReservation call.request.experimentFamily call.idempotencyKey = some r.row

/-- No reservation of the family is over its limits. -/
structure WithinLimits (family : String) (maximumSubmissions maximumOosUses : ℤ)
    (s : BudgetSystem) : Prop where
  flight : ∀ x ∈ s.flight, x.1.request.experimentFamily = family →
    x.1.maximumSubmissions = maximumSubmissions ∧ x.1.maximumOosUses = maximumOosUses
  rows : ∀ row ∈ s.store.reservations, row.experimentFamily = family →
    row.submissionOrdinal ≤ maximumSubmissions ∧ row.oosBudgetOrdinal ≤ maximumOosUses

theorem findReservation_append {store : BudgetStore} {family key : String} {row : ReservationRow}
    (h : store.findReservation family key = some row) (events : List BudgetEventRow)
    (added : List ReservationRow) :
    BudgetStore.findReservation ⟨store.challengers, events, store.reservations ++ added⟩
      family key =
      some row := by
  rw [BudgetStore.findReservation] at h ⊢
  rw [List.find?_append, h, Option.some_or]

theorem findReservation_new {store : BudgetStore}
    (h : store.findReservation r.experimentFamily r.idempotencyKey = none)
    (events : List BudgetEventRow) :
    BudgetStore.findReservation ⟨store.challengers, events, store.reservations ++ [r.row]⟩
      r.experimentFamily r.idempotencyKey = some r.row := by
  rw [BudgetStore.findReservation] at h ⊢
  rw [List.find?_append, h, Option.none_or]
  exact List.find?_cons_of_pos (by simp [OosBudgetReservation.row])

theorem AnswersStored.keep (stored : AnswersStored hash s)
    (hstore : s'.store.reservations = s.store.reservations)
    (hanswers : ∀ call r, .reserve call (.ok r) ∈ s'.answers → .reserve call (.ok r) ∈ s.answers) :
    AnswersStored hash s' := by
  intro call r hanswer
  obtain ⟨hbinds, hvalid, hfind⟩ := stored call r (hanswers call r hanswer)
  refine ⟨hbinds, hvalid, ?_⟩
  rw [BudgetStore.findReservation] at hfind ⊢
  rw [hstore, hfind]

theorem reserveAttempt_stored (inv : BudgetInv hash s.store)
    (stored : AnswersStored hash s) (index : ℕ) (call : ReserveCall) (failed : ℕ) :
    AnswersStored hash (reserveAttempt hash s index call failed) := by
  rcases @reserveAttempt_cases hash s index call failed with
    ⟨r, store', honce, heq⟩ | ⟨hstore, hanswers⟩
  · rw [heq]
    intro call' r' hanswer
    rcases mem_append.mp hanswer with hold | hnew
    · obtain ⟨hbinds, hvalid, hfind⟩ := stored call' r' hold
      refine ⟨hbinds, hvalid, ?_⟩
      rcases reserveOosBudgetOnce_cases honce with ⟨-, -, -, -, rfl⟩ | ⟨-, -, -, -, -, rfl⟩
      · exact hfind
      · exact findReservation_append hfind _ _
    · simp only [mem_singleton, BudgetAnswer.reserve.injEq, Except.ok.injEq] at hnew
      obtain ⟨rfl, rfl⟩ := hnew
      rcases reserveOosBudgetOnce_cases honce with ⟨existing, hfind, hpayload, hbinds, rfl⟩ |
        ⟨hfind, hr, -, -, hvalid, rfl⟩
      · obtain ⟨r, hrow, hvalid⟩ := inv.rows existing (mem_of_find?_eq_some hfind)
        obtain rfl : r = r' := by rw [← hpayload, hrow]; rfl
        exact ⟨hbinds, hvalid, hrow ▸ hfind⟩
      · refine ⟨by rw [hr]; exact ⟨rfl, rfl, rfl, rfl, rfl⟩, hvalid, ?_⟩
        have hfamily : call'.request.experimentFamily = r'.experimentFamily := by rw [hr]; rfl
        have hkey : call'.idempotencyKey = r'.idempotencyKey := by rw [hr]; rfl
        rw [hfamily, hkey] at hfind ⊢
        exact findReservation_new hfind _
  · refine stored.keep (by rw [hstore]) fun call' r' hanswer => ?_
    rcases hanswers with ⟨-, e, hanswers⟩ | ⟨-, hanswers⟩
    · rw [hanswers] at hanswer
      simpa using hanswer
    · rwa [hanswers] at hanswer

theorem budgetStep_stored {action} (inv : BudgetInv hash s.store) (stored : AnswersStored hash s)
    (h : budgetStep hash s action = .ok s') : AnswersStored hash s' := by
  cases action with
  | register challengerId =>
    obtain rfl := Except.ok.inj h
    exact stored.keep rfl fun _ _ h => h
  | append call =>
    rw [budgetStep] at h
    split at h
    · rename_i created store' happend
      obtain rfl := Except.ok.inj h
      refine stored.keep ?_ fun call' r' hanswer => by simpa using hanswer
      rcases appendBudgetEvent_cases happend with ⟨-, rfl⟩ | ⟨-, -, -, rfl⟩ <;> rfl
    · obtain rfl := Except.ok.inj h
      exact stored.keep rfl fun call' r' hanswer => by simpa using hanswer
  | reserve call =>
    rw [budgetStep] at h
    split at h
    · obtain rfl := Except.ok.inj h
      exact stored.keep rfl fun _ _ h => h
    · obtain rfl := Except.ok.inj h
      exact stored.keep rfl fun call' r' hanswer => by simpa using hanswer
  | attempt index =>
    rw [budgetStep] at h
    split at h
    · obtain rfl := Except.ok.inj h
      exact reserveAttempt_stored inv stored _ _ _
    · cases h

/-- Every call of the family brings the same limits. -/
def HasLimits (family : String) (maximumSubmissions maximumOosUses : ℤ) (action : BudgetAction) :
    Prop :=
  ∀ call, action = .reserve call → call.request.experimentFamily = family →
    call.maximumSubmissions = maximumSubmissions ∧ call.maximumOosUses = maximumOosUses

theorem budgetStep_limits {family : String} {S U : ℤ} {action} (within : WithinLimits family S U s)
    (limits : HasLimits family S U action) (h : budgetStep hash s action = .ok s') :
    WithinLimits family S U s' := by
  cases action with
  | register challengerId =>
    obtain rfl := Except.ok.inj h
    exact ⟨within.flight, within.rows⟩
  | append call =>
    rw [budgetStep] at h
    split at h
    · rename_i created store' happend
      obtain rfl := Except.ok.inj h
      rcases appendBudgetEvent_cases happend with ⟨-, rfl⟩ | ⟨-, -, -, rfl⟩
      · exact ⟨within.flight, within.rows⟩
      · exact ⟨within.flight, within.rows⟩
    · obtain rfl := Except.ok.inj h
      exact ⟨within.flight, within.rows⟩
  | reserve call =>
    rw [budgetStep] at h
    split at h
    · obtain rfl := Except.ok.inj h
      refine ⟨fun x hx hfamily => ?_, within.rows⟩
      rcases mem_append.mp hx with hx | hx
      · exact within.flight x hx hfamily
      · obtain rfl := mem_singleton.mp hx
        exact limits call rfl hfamily
    · obtain rfl := Except.ok.inj h
      exact ⟨within.flight, within.rows⟩
  | attempt index =>
    rw [budgetStep] at h
    split at h
    · rename_i call failed hflight
      obtain rfl := Except.ok.inj h
      have hcall := mem_of_getElem? hflight
      have herase : ∀ x ∈ s.flight.eraseIdx index, x.1.request.experimentFamily = family →
          x.1.maximumSubmissions = S ∧ x.1.maximumOosUses = U :=
        fun x hx => within.flight x (mem_of_mem_eraseIdx hx)
      rcases @reserveAttempt_cases hash s index call failed with
        ⟨r, store', honce, heq⟩ | ⟨hstore, hflights⟩
      · rw [heq]
        refine ⟨herase, ?_⟩
        rcases reserveOosBudgetOnce_cases honce with ⟨-, -, -, -, rfl⟩ |
          ⟨-, hr, hsubmission, hbudget, -, rfl⟩
        · exact within.rows
        · intro row hrow hfamily
          rcases mem_append.mp hrow with hrow | hrow
          · exact within.rows row hrow hfamily
          · obtain rfl := mem_singleton.mp hrow
            have hof : call.request.experimentFamily = family := by rw [← hfamily, hr]; rfl
            obtain ⟨rfl, rfl⟩ := within.flight _ hcall hof
            exact ⟨hsubmission, hbudget⟩
      · refine ⟨?_, by rw [hstore]; exact within.rows⟩
        rcases hflights with ⟨hflights, -⟩ | ⟨hflights, -⟩
        · rw [hflights]
          exact herase
        · rw [hflights]
          intro x hx hfamily
          rcases mem_or_eq_of_mem_set hx with hx | rfl
          · exact within.flight x hx hfamily
          · exact within.flight (call, failed) hcall hfamily
    · cases h

theorem budgetStep_refused {action} (h : budgetStep hash s action = .ok s')
    (refused : ∀ answer ∈ s'.answers.drop s.answers.length, answer.Refused) :
    s'.store.events = s.store.events := by
  cases action with
  | register challengerId =>
    obtain rfl := Except.ok.inj h
    rfl
  | append call =>
    rw [budgetStep] at h
    split at h
    · obtain rfl := Except.ok.inj h
      simp [BudgetAnswer.Refused] at refused
    · obtain rfl := Except.ok.inj h
      rfl
  | reserve call =>
    rw [budgetStep] at h
    split at h <;> obtain rfl := Except.ok.inj h <;> rfl
  | attempt index =>
    rw [budgetStep] at h
    split at h
    · rename_i call failed hflight
      obtain rfl := Except.ok.inj h
      rcases @reserveAttempt_cases hash s index call failed with
        ⟨r, store', honce, heq⟩ | ⟨hstore, -⟩
      · rw [heq] at refused
        simp [BudgetAnswer.Refused] at refused
      · rw [hstore]
    · cases h

theorem length_le_toNat {xs : List ℤ} {n : ℤ} (increasing : xs.Pairwise (· < ·))
    (within : ∀ x ∈ xs, 1 ≤ x ∧ x ≤ n) : xs.length ≤ n.toNat := by
  have hnodup : xs.Nodup := increasing.imp ne_of_lt
  rw [← toFinset_card_of_nodup hnodup]
  have hsubset : xs.toFinset ⊆ Finset.Icc 1 n := fun x hx =>
    Finset.mem_Icc.mpr (within x (mem_toFinset.mp hx))
  have hcard := Finset.card_le_card hsubset
  rw [Int.card_Icc] at hcard
  simpa using hcard

/-- In every state that calls reach in any order: the reservations of a family with fixed limits are
at most as many as the smaller limit, their numbers are their ordinals and increase, a retry is
answered with the reservation of its key, another request under that key is refused, and what is
refused leaves the totals. -/
theorem oos_budget_kept {taken : List (BudgetSystem × BudgetAction)} {s : BudgetSystem}
    (run : Run (budgetStep hash) {} taken s) {family : String}
    {maximumSubmissions maximumOosUses : ℤ}
    (fixed : ∀ x ∈ taken, HasLimits family maximumSubmissions maximumOosUses x.2) :
    let rows := s.store.reservations.filter (·.experimentFamily = family)
    rows.length ≤ min maximumSubmissions.toNat maximumOosUses.toNat ∧
      (rows.map (·.submissionNumber)).Nodup ∧
      (∀ row ∈ rows, row.submissionNumber = row.submissionOrdinal) ∧
      (rows.Pairwise fun a b => a.submissionOrdinal < b.submissionOrdinal ∧
        a.oosBudgetOrdinal < b.oosBudgetOrdinal) ∧
      (∀ first r index retry failed, .reserve first (.ok r) ∈ s.answers →
        s.flight[index]? = some (retry, failed) → retry.idempotencyKey = first.idempotencyKey →
        (retry.request = first.request → budgetStep hash s (.attempt index) = .ok { s with
          flight := s.flight.eraseIdx index
          answers := s.answers ++ [.reserve retry (.ok r)] }) ∧
        (retry.request ≠ first.request →
          retry.request.experimentFamily = first.request.experimentFamily →
          budgetStep hash s (.attempt index) = .ok { s with
            flight := s.flight.eraseIdx index
            answers := s.answers ++ [.reserve retry (.error
              (persistenceError "OOS budget reservation idempotency conflict"))] })) ∧
      (∀ action s', budgetStep hash s action = .ok s' →
        (∀ answer ∈ s'.answers.drop s.answers.length, answer.Refused) →
        ∀ other, s'.store.budgetTotals other = s.store.budgetTotals other) := by
  have hinv : BudgetInv hash s.store ∧ AnswersStored hash s := by
    refine run.inv (I := fun s => BudgetInv hash s.store ∧ AnswersStored hash s)
      ⟨⟨by simp, by simp, by simp⟩, by simp [AnswersStored]⟩ fun s action s' h hstep => ?_
    exact ⟨budgetStep_inv h.1 hstep, budgetStep_stored h.1 h.2 hstep⟩
  obtain ⟨inv, stored⟩ := hinv
  have within : WithinLimits family maximumSubmissions maximumOosUses s :=
    run.inv_when (Q := fun _ action => HasLimits family maximumSubmissions maximumOosUses action)
      ⟨by simp, by simp⟩ (fun s action s' h hlimits hstep =>
      budgetStep_limits h hlimits hstep) fixed
  have hrow : ∀ row ∈ s.store.reservations.filter (·.experimentFamily = family),
      1 ≤ row.submissionOrdinal ∧ 1 ≤ row.oosBudgetOrdinal ∧
        row.submissionNumber = row.submissionOrdinal ∧
        row.submissionOrdinal ≤ maximumSubmissions ∧ row.oosBudgetOrdinal ≤ maximumOosUses := by
    intro row hrow
    obtain ⟨hmem, hfamily⟩ := mem_filter.mp hrow
    obtain ⟨r, rfl, hvalid⟩ := inv.rows row hmem
    obtain ⟨-, hsubmission, hbudget, hnumber⟩ := validateReservation_eq_ok hvalid
    exact ⟨hsubmission, hbudget, hnumber, within.rows _ hmem (by simpa using hfamily)⟩
  have hincreasing : (s.store.reservations.filter (·.experimentFamily = family)).Pairwise fun a b =>
      a.submissionOrdinal < b.submissionOrdinal ∧ a.oosBudgetOrdinal < b.oosBudgetOrdinal := by
    refine (inv.increasing.filter _).imp_of_mem fun {a b} ha hb h => h ?_
    have hfamily := (mem_filter.mp ha).2
    have hfamily' := (mem_filter.mp hb).2
    rw [decide_eq_true_eq] at hfamily hfamily'
    rw [hfamily, hfamily']
  refine ⟨le_min ?_ ?_, ?_, fun row h => (hrow row h).2.2.1, hincreasing, ?_, ?_⟩
  · -- the submission ordinals are increasing numbers from 1 to the limit
    rw [← length_map (f := fun row : ReservationRow => row.submissionOrdinal)]
    refine length_le_toNat (pairwise_map.mpr (hincreasing.imp And.left)) fun x hx => ?_
    obtain ⟨row, hmem, rfl⟩ := mem_map.mp hx
    exact ⟨(hrow row hmem).1, (hrow row hmem).2.2.2.1⟩
  · rw [← length_map (f := fun row : ReservationRow => row.oosBudgetOrdinal)]
    refine length_le_toNat (pairwise_map.mpr (hincreasing.imp And.right)) fun x hx => ?_
    obtain ⟨row, hmem, rfl⟩ := mem_map.mp hx
    exact ⟨(hrow row hmem).2.1, (hrow row hmem).2.2.2.2⟩
  · refine pairwise_map.mpr (hincreasing.imp_of_mem fun {a b} ha hb h => ?_)
    rw [(hrow a ha).2.2.1, (hrow b hb).2.2.1]
    exact ne_of_lt h.1
  · intro first r index retry failed hanswer hflight hkey
    obtain ⟨hbinds, hvalid, hfind⟩ := stored first r hanswer
    rw [← hkey] at hfind
    constructor
    · intro hrequest
      rw [← hrequest] at hfind hbinds
      have hbound : requireOosReservationBinding r retry.request = .ok () :=
        requireOosReservationBinding_eq_ok.mpr hbinds
      simp only [budgetStep, hflight, reserveAttempt, reserveOosBudgetOnce_known hvalid hfind,
        hbound, Except.map]
    · intro hother hfamily
      rw [← hfamily] at hfind
      have hconflict := requireOosReservationBinding_conflict
        fun h : r.Binds retry.request => hother (hbinds.unique h)
      simp only [budgetStep, hflight, reserveAttempt, reserveOosBudgetOnce_known hvalid hfind,
        hconflict, Except.map]
      rfl
  · intro action s' hstep hrefused other
    have hevents := budgetStep_refused hstep hrefused
    simp only [BudgetStore.budgetTotals, BudgetStore.total, hevents]

def sampleReserve : ReserveCall where
  request :=
    { challengerId := "challenger"
      experimentFamily := "family"
      submissionNumber := 1
      candidateArtifactHash := "".pushn 'a' 64
      evaluationContractHash := "".pushn 'b' 64 }
  maximumSubmissions := 1
  maximumOosUses := 2
  idempotencyKey := "key"
  createdAt := 10
  expiresAt := 20

/-- Another request under the same key. -/
def otherReserve : ReserveCall :=
  { sampleReserve with request :=
      { sampleReserve.request with candidateArtifactHash := "".pushn 'c' 64 } }

def sampleBudgetActions : List BudgetAction :=
  [.register "challenger", .reserve sampleReserve, .attempt 0, .reserve sampleReserve,
    .reserve otherReserve]

def reservedFirst (s : BudgetSystem) : Option OosBudgetReservation :=
  match s.answers with
  | [.reserve call (.ok r)] => if call = sampleReserve then some r else none
  | _ => none

/-- After the reservation a retry and another request under its key are in flight: one is answered
with the reservation, the other is refused. -/
theorem sampleBudget_kept : ∃ taken s r, taken.map (·.2) = sampleBudgetActions ∧
    Run (budgetStep Hashing.hex) {} taken s ∧ s.store.reservations.length = 1 ∧
    (s.store.reservations.filter (·.experimentFamily = "family")).length ≤
      min (1 : ℤ).toNat (2 : ℤ).toNat ∧
    budgetStep Hashing.hex s (.attempt 0) = .ok { s with
      flight := s.flight.eraseIdx 0
      answers := s.answers ++ [.reserve sampleReserve (.ok r)] } ∧
    budgetStep Hashing.hex s (.attempt 1) = .ok { s with
      flight := s.flight.eraseIdx 1
      answers := s.answers ++ [.reserve otherReserve (.error
        (persistenceError "OOS budget reservation idempotency conflict"))] } := by
  have heval : (sampleBudgetActions.foldlM (budgetStep Hashing.hex) {}).toOption.any
      (fun s => s.store.reservations.length = 1 ∧ (reservedFirst s).isSome ∧
        s.flight = [(sampleReserve, 0), (otherReserve, 0)]) = true := by
    decide +kernel
  obtain ⟨s, hs, hfacts⟩ := exists_of_any heval
  obtain ⟨hlength, hreserved, hflight⟩ := of_decide_eq_true hfacts
  obtain ⟨taken, htaken, run⟩ := Run.of_foldlM hs
  obtain ⟨r, hr⟩ := Option.isSome_iff_exists.mp hreserved
  have hanswer : .reserve sampleReserve (.ok r) ∈ s.answers := by
    unfold reservedFirst at hr
    split at hr
    · rename_i hanswers
      split at hr
      · rename_i hcall
        rw [hanswers, ← hcall, ← Option.some.inj hr]
        exact mem_cons_self
      · cases hr
    · cases hr
  have hlimits : ∀ action ∈ sampleBudgetActions, HasLimits "family" 1 2 action := by
    simp [sampleBudgetActions, sampleReserve, otherReserve, HasLimits]
  obtain ⟨hbound, -, -, -, hkey, -⟩ := oos_budget_kept run fun x hx =>
    hlimits x.2 (htaken ▸ mem_map_of_mem hx)
  have hretry := (hkey sampleReserve r 0 sampleReserve 0 hanswer (by rw [hflight]; rfl) rfl).1 rfl
  have hother := (hkey sampleReserve r 1 otherReserve 0 hanswer (by rw [hflight]; rfl) rfl).2
    (by decide) rfl
  exact ⟨taken, s, r, htaken, run, hlength, hbound, hretry, hother⟩

end AdaptiveQuant.ResearchPlane
