import AdaptiveQuant.Risk.Reconciliation
import AdaptiveQuant.Runtime.ArmSteps

/-! The reconciliation of an arm (`risk/reconciliation.py`). -/

namespace AdaptiveQuant.Settlement

open Guard Sequence List
open Q1Cycle (ReconciliationCondition Q1ReconciliationResult)

/-- The rows that `Q1ReconciliationService.check` reads. -/
structure LedgerRows where
  opening : Option ArmStateSnapshotRow
  fills : List Q1Fill
  cash : List CashSettlementEvent
  fillEvents : List OrderEvent

def ArmStore.ledgerRows (s : ArmStore) (k : ArmKey) (asOf : Instant) : LedgerRows where
  opening := (sortedBy (fun row : ArmStateSnapshotRow =>
    toLex (row.sequence, toLex (row.createdAt, row.armStateSnapshotId)))
    ((s.view k).snapshots.filter fun row => row.createdAt ≤ asOf)).head?
  fills := sortedBy (fun fill : Q1Fill => toLex (fill.effectiveAt, fill.fillId))
    ((s.view k).fills.filter fun fill => fill.effectiveAt ≤ asOf)
  cash := sortedBy (fun e : CashSettlementEvent =>
    toLex (e.val.effectiveAt, e.val.cashSettlementEventId))
    ((s.view k).cash.filter fun e => e.val.effectiveAt ≤ asOf ∧ e.val.createdAt ≤ asOf)
  fillEvents := (s.view k).fillEvents.filter fun event => event.availableAt ≤ asOf

def filledQuantity (fills : List Q1Fill) (symbol : String) : Decimal :=
  (fills.map fun fill => if fill.symbol = symbol then Q1ArmState.signedQuantity fill.toFill
    else 0).sum

variable (cash : List CashSettlementEvent)

def receivableSum (key : String) : Decimal :=
  (cash.map fun e => if e.val.receivableId = some key then e.val.unsettledReceivableDeltaUsd
    else 0).sum

def positivePositions (positions : Dict String Decimal) : Dict String Decimal :=
  positions.sorted.filter fun _ quantity => quantity ≠ 0

def expectedPositions (opening : Q1ArmState) (fills : List Q1Fill) : Dict String Decimal :=
  positivePositions (fills.foldl (fun positions fill => positions.set fill.symbol
    (positions.getD fill.symbol 0 + Q1ArmState.signedQuantity fill.toFill)) opening.val.positions)

def expectedReceivables : Dict String Decimal :=
  (cash.foldl (fun receivables e => e.val.receivableId.elim receivables fun key =>
    receivables.set key (receivables.getD key 0 + e.val.unsettledReceivableDeltaUsd))
    Dict.empty).filter fun _ amount => amount ≠ 0

def actualReceivables (state : Q1ArmState) : Dict String Decimal := ⟨state.owed, state.owed_nodup⟩

def settlementCount : ℕ :=
  cash.countP fun e => e.val.eventType = .receivableSettled

/-- Two mappings are equal: the order of their entries does not count. -/
def SameMapping (d d' : Dict String Decimal) : Prop :=
  ∀ key ∈ d.keys ++ d'.keys, d.get? key = d'.get? key

instance (d d' : Dict String Decimal) : Decidable (SameMapping d d') :=
  inferInstanceAs (Decidable (∀ key ∈ d.keys ++ d'.keys, d.get? key = d'.get? key))

def reportsFill (fill : Q1Fill) (event : OrderEvent) : Bool :=
  event.sourceId = some fill.fillId ∧ event.orderIntentId = fill.orderIntentId ∧
    event.quantityDelta = fill.quantity ∧ event.commissionDeltaUsd = fill.commissionUsd

def cashTypesOf (fillId : String) :
    List CashSettlementEventType :=
  (cash.filter fun e => e.val.sourceFillId = some fillId).map (·.val.eventType)

def validCashTypes (side : OrderSide) (types : List CashSettlementEventType) : Bool :=
  match side with
  | .buy => types = [.buySettledCashDebit]
  | .sell => types ∈ [[.sellReceivableCreated], [.sellReceivableCreated, .receivableSettled]]

def ledgerUnavailable (rows : LedgerRows) (state : Q1ArmState) : Bool :=
  rows.opening = none ∨ (rows.opening.elim state (·.state)).val.sequence ≠ 0 ∨
    (rows.cash.filter fun e => e.val.eventType = .openingSettledCash).length ≠ 1

/-- A fill is not reported once, an order event or a cash event belongs to no fill, or a fill does
not have the cash events of its side. -/
def unknownFill (rows : LedgerRows) (asOf : Instant) : Bool :=
  let fills := rows.fills.filter (·.createdAt ≤ asOf)
  (∃ fill ∈ rows.fills, asOf < fill.createdAt) ∨
    (∃ fill ∈ fills, (rows.fillEvents.filter (reportsFill fill)).length ≠ 1) ∨
    (∃ event ∈ rows.fillEvents, event.sourceId.all (· ∉ fills.map (·.fillId))) ∨
    (∃ e ∈ rows.cash, e.val.sourceFillId.any (· ∉ fills.map (·.fillId))) ∨
    (∃ fill ∈ fills, cashTypesOf rows.cash fill.fillId = []) ∨
    ∃ fill ∈ fills, ¬validCashTypes fill.side (cashTypesOf rows.cash fill.fillId)

def positionOrCashMismatch (opening state : Q1ArmState) (fills : List Q1Fill)
    (cash : List CashSettlementEvent) : Bool :=
  state.val.sequence ≠ fills.length + settlementCount cash ∨
    ¬SameMapping (expectedPositions opening fills) (positivePositions state.val.positions) ∨
    settledSum cash ≠ state.val.settledCashUsd ∨
    ¬SameMapping (expectedReceivables cash) (actualReceivables state)

def negativeBalance (opening state : Q1ArmState) (fills : List Q1Fill)
    (cash : List CashSettlementEvent) : Bool :=
  state.val.settledCashUsd < 0 ∨ settledSum cash < 0 ∨
    (∃ quantity ∈ (expectedPositions opening fills).values, quantity < 0) ∨
    ∃ amount ∈ (expectedReceivables cash).values, amount < 0

def reconcile (s : ArmStore) (k : ArmKey) (state : Q1ArmState) (asOf : Instant) :
    Q1ReconciliationResult :=
  let rows := s.ledgerRows k asOf
  let opening := rows.opening.elim state (·.state)
  let fills := rows.fills.filter (·.createdAt ≤ asOf)
  let found : List (ReconciliationCondition × Bool) := [
    (.ledgerUnavailable, ledgerUnavailable rows state),
    (.positionOrCashMismatch, positionOrCashMismatch opening state fills rows.cash),
    (.negativeBalance, negativeBalance opening state fills rows.cash),
    (.unknownFill, unknownFill rows asOf)]
  let conditions := (found.filter (·.2)).map (·.1)
  { conditions := if conditions = [] then [.ok] else conditions
    expectedPositions := expectedPositions opening fills
    expectedSettledCashUsd := settledSum rows.cash
    expectedUnsettledReceivables := expectedReceivables rows.cash
    checkedFillIds := fills.map (·.fillId)
    checkedCashEventIds := rows.cash.map (·.val.cashSettlementEventId) }

theorem sameMapping_iff {d d'} :
    SameMapping d d' ↔ ∀ key, d.get? key = d'.get? key := by
  constructor
  · intro h key
    by_cases hkey : key ∈ d.keys ++ d'.keys
    · exact h key hkey
    · rw [mem_append, not_or] at hkey
      rw [Dict.get?_eq_none.mpr hkey.1, Dict.get?_eq_none.mpr hkey.2]
  · exact fun h key _ => h key

def nonzero (amount : Decimal) : Option Decimal := if amount = 0 then none else some amount

theorem nonzero_inj {a b : Decimal} (h : nonzero a = nonzero b) : a = b := by
  unfold nonzero at h
  split at h <;> split at h <;> simp_all

theorem get?_filter_nonzero (d : Dict String Decimal) (key : String) :
    (d.filter fun _ amount => amount ≠ 0).get? key = nonzero (d.getD key 0) := by
  rw [Dict.get?_filter, Dict.getD, nonzero]
  cases d.get? key with
  | none => simp
  | some amount =>
    by_cases hzero : amount = 0
    · simp [Option.filter, hzero]
    · simp [Option.filter, hzero]

theorem get?_positivePositions (positions : Dict String Decimal) (symbol : String) :
    (positivePositions positions).get? symbol = nonzero (positions.getD symbol 0) := by
  rw [positivePositions, get?_filter_nonzero, Dict.getD, Dict.get?_sorted, Dict.getD]

theorem filledQuantity_cons (fill : Q1Fill) (fills : List Q1Fill) (symbol : String) :
    filledQuantity (fill :: fills) symbol =
      (if fill.symbol = symbol then Q1ArmState.signedQuantity fill.toFill else 0) +
        filledQuantity fills symbol := by
  rw [filledQuantity, map_cons, sum_cons, filledQuantity]

theorem getD_foldl_fills (fills : List Q1Fill) (positions : Dict String Decimal) (symbol : String) :
    (fills.foldl (fun positions fill => positions.set fill.symbol (positions.getD fill.symbol 0 +
      Q1ArmState.signedQuantity fill.toFill)) positions).getD symbol 0 =
        positions.getD symbol 0 + filledQuantity fills symbol := by
  induction fills generalizing positions with
  | nil => simp [filledQuantity]
  | cons fill rest ih =>
    rw [foldl_cons, ih, filledQuantity_cons, ← add_assoc, Dict.getD, Dict.get?_set]
    by_cases hsame : fill.symbol = symbol
    · subst hsame
      rw [if_pos rfl, if_pos rfl]
      rfl
    · rw [if_neg (Ne.symm hsame), if_neg hsame, add_zero]
      rfl

theorem get?_expectedPositions (opening : Q1ArmState) (fills : List Q1Fill) (symbol : String) :
    (expectedPositions opening fills).get? symbol =
      nonzero (opening.val.positions.getD symbol 0 + filledQuantity fills symbol) := by
  rw [expectedPositions, get?_positivePositions, getD_foldl_fills]

theorem receivableSum_cons (e : CashSettlementEvent) (cash : List CashSettlementEvent)
    (key : String) :
    receivableSum (e :: cash) key =
      (if e.val.receivableId = some key then e.val.unsettledReceivableDeltaUsd else 0) +
        receivableSum cash key := by
  rw [receivableSum, map_cons, sum_cons, receivableSum]

theorem getD_foldl_receivables (receivables : Dict String Decimal) (key : String) :
    (cash.foldl (fun receivables e => e.val.receivableId.elim receivables fun key =>
      receivables.set key (receivables.getD key 0 + e.val.unsettledReceivableDeltaUsd))
      receivables).getD key 0 = receivables.getD key 0 + receivableSum cash key := by
  induction cash generalizing receivables with
  | nil => simp [receivableSum]
  | cons e rest ih =>
    rw [foldl_cons, ih, receivableSum_cons, ← add_assoc]
    congr 1
    cases hid : e.val.receivableId with
    | none => simp
    | some other =>
      rw [Option.elim_some, Dict.getD, Dict.get?_set]
      by_cases hsame : other = key
      · subst hsame
        rw [if_pos rfl, if_pos rfl]
        rfl
      · rw [if_neg (Ne.symm hsame), if_neg (by simpa using hsame), add_zero]
        rfl

theorem get?_expectedReceivables (key : String) :
    (expectedReceivables cash).get? key = nonzero (receivableSum cash key) := by
  rw [expectedReceivables, get?_filter_nonzero, getD_foldl_receivables]
  simp [Dict.getD]

def Q1ArmState.owedFor (state : Q1ArmState) (key : String) : Decimal :=
  (actualReceivables state).getD key 0

theorem get?_actualReceivables (state : Q1ArmState) (key : String) :
    (actualReceivables state).get? key = nonzero (state.owedFor key) := by
  unfold Q1ArmState.owedFor Dict.getD nonzero
  cases hget : (actualReceivables state).get? key with
  | none => simp
  | some amount =>
    have hmem : (key, amount) ∈ state.owed := Dict.get?_eq_some.mp hget
    obtain ⟨r, -, hr⟩ := mem_map.mp hmem
    have hpos : 0 < amount := by
      have hchecked := r.valid
      rw [UnsettledReceivableFields.check, raiseIf_eq_ok, not_le] at hchecked
      rw [← (Prod.mk.inj hr).2]
      exact hchecked
    simp [hpos.ne']

/-- The recorded state is not what the opening state, the fills and the cash events add up to. -/
def StateDiffers (opening state : Q1ArmState) (fills : List Q1Fill)
    (cash : List CashSettlementEvent) : Prop :=
  state.val.sequence ≠ fills.length + settlementCount cash ∨
    (∃ symbol, state.val.positions.getD symbol 0 ≠
      opening.val.positions.getD symbol 0 + filledQuantity fills symbol) ∨
    state.val.settledCashUsd ≠ settledSum cash ∨
    ∃ key, state.owedFor key ≠ receivableSum cash key

theorem positionOrCashMismatch_iff {opening state : Q1ArmState} {fills cash} :
    positionOrCashMismatch opening state fills cash = true ↔
      StateDiffers opening state fills cash := by
  have hpositions : SameMapping (expectedPositions opening fills)
      (positivePositions state.val.positions) ↔ ∀ symbol, state.val.positions.getD symbol 0 =
        opening.val.positions.getD symbol 0 + filledQuantity fills symbol := by
    simp only [sameMapping_iff, get?_expectedPositions, get?_positivePositions]
    exact ⟨fun h symbol => (nonzero_inj (h symbol)).symm, fun h symbol => by rw [h symbol]⟩
  have hreceivables : SameMapping (expectedReceivables cash) (actualReceivables state) ↔
      ∀ key, state.owedFor key = receivableSum cash key := by
    simp only [sameMapping_iff, get?_expectedReceivables, get?_actualReceivables]
    exact ⟨fun h key => (nonzero_inj (h key)).symm, fun h key => by rw [h key]⟩
  rw [positionOrCashMismatch, decide_eq_true_eq, StateDiffers, hpositions, hreceivables]
  simp only [not_forall, ne_comm (a := settledSum cash)]

theorem mem_reconcile_conditions {s : ArmStore} {k : ArmKey} {state : Q1ArmState} {asOf : Instant} :
    ReconciliationCondition.positionOrCashMismatch ∈ (reconcile s k state asOf).conditions ↔
      positionOrCashMismatch ((s.ledgerRows k asOf).opening.elim state (·.state)) state
        ((s.ledgerRows k asOf).fills.filter (·.createdAt ≤ asOf)) (s.ledgerRows k asOf).cash =
          true := by
  unfold reconcile
  dsimp only
  generalize ledgerUnavailable _ _ = a
  generalize positionOrCashMismatch _ _ _ _ = b
  generalize negativeBalance _ _ _ _ = c
  generalize unknownFill _ _ = d
  cases a <;> cases b <;> cases c <;> cases d <;> decide

theorem reconcile_ok {s : ArmStore} {k : ArmKey} {state : Q1ArmState} {asOf : Instant}
    (available : ledgerUnavailable (s.ledgerRows k asOf) state = false)
    (agrees : positionOrCashMismatch ((s.ledgerRows k asOf).opening.elim state (·.state)) state
      ((s.ledgerRows k asOf).fills.filter (·.createdAt ≤ asOf)) (s.ledgerRows k asOf).cash = false)
    (positive : negativeBalance ((s.ledgerRows k asOf).opening.elim state (·.state)) state
      ((s.ledgerRows k asOf).fills.filter (·.createdAt ≤ asOf)) (s.ledgerRows k asOf).cash = false)
    (known : unknownFill (s.ledgerRows k asOf) asOf = false) :
    (reconcile s k state asOf).conditions = [.ok] := by
  unfold reconcile
  simp [available, agrees, positive, known]

end AdaptiveQuant.Settlement
