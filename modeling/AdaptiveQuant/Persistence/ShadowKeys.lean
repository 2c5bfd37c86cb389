import AdaptiveQuant.Persistence.ShadowStore

/-! The unique columns of two runs. -/

namespace AdaptiveQuant.Shadow

open Guard Ledger ArmCycle Sequence List

variable {hash : Hashing}

def OrderOf (hash : Hashing) (runId : String) (order : OrderIntentFields) : Prop :=
  (∃ rest, order.orderIntentId = hash.stableId "research-shadow-order" (.str runId :: rest)) ∧
    order.idempotencyKey = hash.stableId "research-shadow-order-idem" [.str order.orderIntentId]

def FillOf (hash : Hashing) (runId : String) (fill : FillFields) : Prop :=
  (∃ rest, fill.fillId = hash.stableId "research-shadow-fill" (.str runId :: rest)) ∧
    ∃ rest, fill.orderIntentId = hash.stableId "research-shadow-order" (.str runId :: rest)

structure BookOf (c : ArmCycle hash) (book : Book) : Prop where
  orders : ∀ order ∈ book.orders, OrderOf hash c.spec.val.runId order.val
  fills : ∀ fill ∈ book.fills, FillOf hash c.spec.val.runId fill.val
  entries : book.entries = book.fills.map fun fill => fillEntry hash fill.val

theorem buildOrderIntent_of {c : ArmCycle hash} {planned : PlannedOrder} {order : OrderIntent}
    (h : c.buildOrderIntent planned = .ok order) : OrderOf hash c.spec.val.runId order.val := by
  rw [buildOrderIntent, validate_eq_ok] at h
  rw [h]
  exact ⟨⟨_, rfl⟩, rfl⟩

theorem executeOrder_of {c : ArmCycle hash} {book book' : Book} {planned : PlannedOrder}
    (before : BookOf c book) (h : c.executeOrder book planned = .ok book') : BookOf c book' := by
  unfold executeOrder at h
  cases hquote : c.quotes.get? planned.symbol with
  | none =>
    rw [hquote] at h
    cases h
  | some quote =>
    simp only [hquote, bind_eq_ok] at h
    obtain ⟨order, horder, quantity, -, h⟩ := h
    have horders : ∀ o ∈ book.orders ++ [order], OrderOf hash c.spec.val.runId o.val := by
      rw [forall_mem_append, forall_mem_singleton]
      exact ⟨before.orders, buildOrderIntent_of horder⟩
    split at h
    · obtain rfl := pure_eq_ok.mp h
      exact ⟨horders, before.fills, before.entries⟩
    · simp only [fillOrder, ok_iff, validate_eq_ok] at h
      obtain ⟨-, -, fill, hfill, u, -, ⟨cash, positions⟩, -, rfl⟩ := h
      refine ⟨horders, ?_, ?_⟩
      · rw [forall_mem_append, forall_mem_singleton]
        refine ⟨before.fills, ?_⟩
        rw [hfill]
        exact ⟨⟨_, rfl⟩, (buildOrderIntent_of horder).1⟩
      · show book.entries ++ [_] = _
        rw [map_append, before.entries]
        rfl

theorem executeOrders_of {c : ArmCycle hash} {book : Book} (h : c.executeOrders = .ok book) :
    BookOf c book :=
  foldlM_induction h (fun _ => BookOf c) ⟨by simp [openingBook], by simp [openingBook], rfl⟩
    fun _ _ _ _ => executeOrder_of

theorem calculateNav_id {armId : String} {asOf : Instant} {cash : Decimal} {positions prices nav}
    (h : calculateNav hash armId asOf cash positions prices = .ok nav) :
    nav.navSnapshotId = hash.stableId "nav"
      [.str armId, .instant asOf, .str (hash.canonicalHash (priceManifest prices))] := by
  simp only [calculateNav, ok_iff] at h
  obtain ⟨-, u, -, rfl⟩ := h
  rfl

structure ResultOf (c : ArmCycle hash) (r : ArmCycleResult hash) : Prop where
  target : r.target = c.target
  orders : ∀ order ∈ r.orders, OrderOf hash c.spec.val.runId order.val
  fills : ∀ fill ∈ r.fills, FillOf hash c.spec.val.runId fill.val
  entries : r.ledgerEntries = r.fills.map fun fill => fillEntry hash fill.val
  nav : ∃ positions : Dict String Decimal,
    (positionMap r.nextState).entries = positions.sortedItems ∧
    r.nav.navSnapshotId = hash.stableId "nav" [.str c.target.val.armId, .instant c.bundle.val.asOf,
      .str (hash.canonicalHash
        (priceManifest (positions.mapVal fun symbol _ => c.midpoint symbol)))]

theorem execute_of {c : ArmCycle hash} {r : ArmCycleResult hash}
    (start : OnQuantum c.parameters.quantityQuantum c.state) (h : c.execute = .ok r) :
    ResultOf c r := by
  simp only [ArmCycle.execute, ok_iff] at h
  obtain ⟨u, -, -, book, hbook, hclose⟩ := h
  have hitems := (close_eq_ok hclose).items fun symbol held hget =>
    (executeOrders_quantized (quantized_of_onQuantum start) hbook symbol held hget).1
  obtain ⟨horders, hfills, hentries⟩ := executeOrders_of hbook
  simp only [close, ok_iff] at hclose
  obtain ⟨-, -, -, nav, hnav, state, -, -, daily, -, rfl⟩ := hclose
  exact ⟨rfl, horders, hfills, hentries, book.positions, hitems, calculateNav_id hnav⟩

def OrderEventOf (hash : Hashing) (orderIntentId : String) (event : ShadowOrderEvent) : Prop :=
  event.orderIntentId = orderIntentId ∧
    event.orderEventId = hash.stableId "research-shadow-order-event"
      [.str orderIntentId, .int event.eventSequence] ∧
    event.idempotencyKey = hash.stableId "research-shadow-order-event-idempotency"
      [.str event.orderEventId]

theorem orderEvents_of (bundle : QuoteBundle hash) (order : OrderIntentFields)
    (fill : Option Fill) :
    ∀ event ∈ orderEvents bundle order fill, OrderEventOf hash order.orderIntentId event := by
  unfold orderEvents
  refine List.foldlRecOn (orderEventSteps bundle order fill) _ (motive := fun tally : OrderTally =>
    ∀ event ∈ tally.events, OrderEventOf hash order.orderIntentId event) (by simp) ?_
  rintro tally hbefore ⟨eventType, quantity, fee, quoteId, reason⟩ -
  rw [forall_mem_append, forall_mem_singleton]
  exact ⟨hbefore, rfl, rfl, rfl⟩

def TransactionOf (hash : Hashing) (runId transactionId : String) : Prop :=
  (∃ armId rest, transactionId = hash.stableId "ltx"
      [.str armId, .str (hash.stableId "research-shadow-fill" (.str runId :: rest))]) ∨
    ∃ armId rest, transactionId = hash.stableId "ltx"
      [.str (hash.stableId "research-shadow-opening" (.str runId :: rest)), .str armId,
        .str "PAPER_OPENING_BALANCE"]

def Row.Of (runId : String) : Row hash → Prop
  | run row => row.runId = runId
  | arm armInstanceId rowRunId armId => rowRunId = runId ∧
      armInstanceId = hash.stableId "research-shadow-arm-instance" [.str runId, .str armId]
  | state snapshotId _ s => s.val.runId = runId ∧
      ∃ rest, snapshotId = hash.stableId "research-shadow-state" (.str runId :: rest)
  | decision portfolioDecisionId _ _ _ => ∃ target : TargetDecisionFields, target.runId = runId ∧
      portfolioDecisionId = hash.stableId "research-shadow-decision"
        [.str (hash.canonicalHash target.payload)]
  | order _ o => OrderOf hash runId o.val
  | fill _ _ f _ => FillOf hash runId f.val
  | orderEvent _ e => ∃ rest,
      OrderEventOf hash (hash.stableId "research-shadow-order" (.str runId :: rest)) e
  | transaction _ t => TransactionOf hash runId t.ledgerTransactionId
  | posting p => ∃ transactionId suffix, TransactionOf hash runId transactionId ∧
      p.postingId = hash.stableId "post" [.str transactionId, .str suffix]
  | nav _ _ => True
  | event e =>
    (∃ rest, e.eventId = hash.stableId "research-shadow-cycle" (.str runId :: rest) ∧
      e.idempotencyKey = hash.stableId "research-shadow-cycle-idempotency" (.str runId :: rest)) ∨
    ∃ rest, e.eventId = hash.stableId "prospective-shadow-cycle-source" (.str runId :: rest) ∧
      e.idempotencyKey = hash.stableId "prospective-shadow-source-idempotency" [.str e.eventId]

def Row.table : Row hash → String
  | run _ => "runs"
  | arm .. => "shadow_arms"
  | state .. => "arm_state_snapshots"
  | decision .. => "portfolio_decisions"
  | order .. => "order_intents"
  | fill .. => "fills"
  | orderEvent .. => "order_events"
  | transaction .. => "ledger_transactions"
  | posting _ => "ledger_postings"
  | nav .. => "nav_snapshots"
  | event _ => "domain_events"

def constraintTable : String → String
  | "runs.run_id" => "runs"
  | "shadow_arms.arm_instance_id" | "uq_run_arm" => "shadow_arms"
  | "arm_state_snapshots.arm_state_snapshot_id" | "uq_arm_state_sequence" => "arm_state_snapshots"
  | "portfolio_decisions.portfolio_decision_id" => "portfolio_decisions"
  | "order_intents.order_intent_id" | "order_intents.idempotency_key" => "order_intents"
  | "fills.fill_id" | "uq_fill_order_quote_scenario" => "fills"
  | "order_events.order_event_id" | "uq_order_event_sequence" | "order_events.idempotency_key" =>
    "order_events"
  | "ledger_transactions.ledger_transaction_id" => "ledger_transactions"
  | "ledger_postings.posting_id" => "ledger_postings"
  | "nav_snapshots.nav_snapshot_id" => "nav_snapshots"
  | _ => "domain_events"

theorem table_of_key (row : Row hash) : ∀ key ∈ row.keys, constraintTable key.1 = row.table := by
  cases row <;> simp [Row.keys, constraintTable, Row.table]

theorem runId_of_payload {target target' : TargetDecisionFields}
    (h : target.payload = target'.payload) : target.runId = target'.runId := by
  simp only [TargetDecisionFields.payload, Canonical.dict, Canonical.entry.injEq,
    Canonical.str.injEq, true_and] at h
  exact h.2.1

section Injective

variable (injective : hash.Injective) {runId runId' : String}

include injective

theorem runId_of_name {tag tag' : String} {rest rest' : List Canonical}
    (h : hash.stableId tag (.str runId :: rest) = hash.stableId tag' (.str runId' :: rest')) :
    runId = runId' := by
  have hparts := (injective.names h).2
  rw [List.cons.injEq, Canonical.str.injEq] at hparts
  exact hparts.1

theorem runId_of_transaction {transactionId : String} (h : TransactionOf hash runId transactionId)
    (h' : TransactionOf hash runId' transactionId) : runId = runId' := by
  rcases h with ⟨armId, rest, rfl⟩ | ⟨armId, rest, rfl⟩ <;>
    rcases h' with ⟨armId', rest', heq⟩ | ⟨armId', rest', heq⟩
  all_goals
    have hparts := (injective.names heq).2
    simp only [List.cons.injEq, Canonical.str.injEq, and_true, reduceCtorEq, and_false] at hparts
  · exact runId_of_name injective hparts.2
  · exact runId_of_name injective hparts.1

theorem Row.Of.apart {a b : Row hash} (ha : a.Of runId) (hb : b.Of runId') (hne : runId ≠ runId')
    (hnav : ∀ r n r' n', a = .nav r n → b ≠ .nav r' n') : Apart a b := by
  intro key hkey hkey'
  have htable : a.table = b.table := (table_of_key _ key hkey).symm.trans (table_of_key _ key hkey')
  cases a <;> cases b <;> first | (simp [Row.table] at htable; done) | skip
  all_goals
    simp only [Row.keys, mem_cons, not_mem_nil, or_false] at hkey hkey'
    refine hne ?_
  case run.run row row' =>
    subst hkey
    simp only [Prod.mk.injEq, List.cons.injEq, Canonical.str.injEq, and_true, true_and] at hkey'
    rw [← (show row.runId = runId from ha), ← (show row'.runId = runId' from hb), hkey']
  case arm.arm id r armId id' r' armId' =>
    obtain ⟨rfl, rfl⟩ := ha
    obtain ⟨rfl, rfl⟩ := hb
    rcases hkey with rfl | rfl <;> simp at hkey'
    · exact runId_of_name injective hkey'
    · exact hkey'.1
  case state.state id stateHash st id' stateHash' st' =>
    obtain ⟨rfl, rest, rfl⟩ := ha
    obtain ⟨rfl, rest', rfl⟩ := hb
    rcases hkey with rfl | rfl <;> simp at hkey'
    · exact runId_of_name injective hkey'
    · exact hkey'.1
  case decision.decision id r n target id' r' n' target' =>
    obtain ⟨fields, rfl, rfl⟩ := ha
    obtain ⟨fields', rfl, rfl⟩ := hb
    subst hkey
    simp only [Prod.mk.injEq, List.cons.injEq, Canonical.str.injEq, and_true, true_and] at hkey'
    have hparts := (injective.names hkey').2
    rw [List.cons.injEq, Canonical.str.injEq] at hparts
    exact runId_of_payload (injective.digests hparts.1)
  case order.order r o r' o' =>
    obtain ⟨⟨rest, hid⟩, hidem⟩ := ha
    obtain ⟨⟨rest', hid'⟩, hidem'⟩ := hb
    have hsame : o.val.orderIntentId = o'.val.orderIntentId := by
      rcases hkey with rfl | rfl <;> simp at hkey'
      · exact hkey'
      · rw [hidem, hidem'] at hkey'
        simpa using (injective.names hkey').2
    rw [hid, hid'] at hsame
    exact runId_of_name injective hsame
  case fill.fill r quoteId f cost r' quoteId' f' cost' =>
    obtain ⟨⟨rest, hid⟩, restOrder, horder⟩ := ha
    obtain ⟨⟨rest', hid'⟩, restOrder', horder'⟩ := hb
    rcases hkey with rfl | rfl <;> simp at hkey'
    · rw [hid, hid'] at hkey'
      exact runId_of_name injective hkey'
    · rw [horder, horder'] at hkey'
      exact runId_of_name injective hkey'.1
  case orderEvent.orderEvent r e r' e' =>
    obtain ⟨rest, hid, hevent, hidem⟩ := ha
    obtain ⟨rest', hid', hevent', hidem'⟩ := hb
    have hname : e.orderEventId = e'.orderEventId → runId = runId' := by
      intro hsame
      rw [hevent, hevent'] at hsame
      have hparts := (injective.names hsame).2
      rw [List.cons.injEq, Canonical.str.injEq] at hparts
      exact runId_of_name injective hparts.1
    rcases hkey with rfl | rfl | rfl <;> simp at hkey'
    · exact hname hkey'
    · rw [hid, hid'] at hkey'
      exact runId_of_name injective hkey'.1
    · rw [hidem, hidem'] at hkey'
      exact hname (by simpa using (injective.names hkey').2)
  case transaction.transaction r t r' t' =>
    subst hkey
    simp only [Prod.mk.injEq, List.cons.injEq, Canonical.str.injEq, and_true, true_and] at hkey'
    have hsame : TransactionOf hash runId' t.ledgerTransactionId := by
      rw [hkey']
      exact hb
    exact runId_of_transaction injective ha hsame
  case posting.posting q q' =>
    obtain ⟨transactionId, suffix, htransaction, hid⟩ := ha
    obtain ⟨transactionId', suffix', htransaction', hid'⟩ := hb
    subst hkey
    simp only [Prod.mk.injEq, List.cons.injEq, Canonical.str.injEq, and_true, true_and] at hkey'
    rw [hid, hid'] at hkey'
    have hparts := (injective.names hkey').2
    rw [List.cons.injEq, Canonical.str.injEq] at hparts
    rw [← hparts.1] at htransaction'
    exact runId_of_transaction injective htransaction htransaction'
  case nav.nav r n r' n' => exact absurd rfl (hnav r n r' n' rfl)
  case event.event e e' =>
    -- events of cycles and of sources have different prefixes
    rcases ha with ⟨rest, hid, hidem⟩ | ⟨rest, hid, hidem⟩ <;>
      rcases hb with ⟨rest', hid', hidem'⟩ | ⟨rest', hid', hidem'⟩ <;>
      rcases hkey with rfl | rfl <;>
      simp only [Prod.mk.injEq, List.cons.injEq, Canonical.str.injEq, and_true, true_and,
        String.reduceEq, false_and, or_false, false_or] at hkey'
    · exact runId_of_name injective (hid.symm.trans (hkey'.trans hid'))
    · exact runId_of_name injective (hidem.symm.trans (hkey'.trans hidem'))
    · exact runId_of_name injective (hid.symm.trans (hkey'.trans hid'))
    · exact absurd (injective.names (hidem.symm.trans (hkey'.trans hidem'))).1 (by decide)
    · exact runId_of_name injective (hid.symm.trans (hkey'.trans hid'))
    · exact absurd (injective.names (hidem.symm.trans (hkey'.trans hidem'))).1 (by decide)
    · exact runId_of_name injective (hid.symm.trans (hkey'.trans hid'))
    · have hsame := (injective.names (hidem.symm.trans (hkey'.trans hidem'))).2
      rw [List.cons.injEq, Canonical.str.injEq] at hsame
      exact runId_of_name injective (hid.symm.trans (hsame.1.trans hid'))

end Injective

def ProspectiveSource.Built (hash : Hashing) (source : ProspectiveSource) : Prop :=
  ∃ executionHash, source.provenanceId = hash.stableId "prospective-shadow-cycle-source"
    [.str source.runId, .str source.prospectiveRequestId, .str executionHash]

/-- The rows that a run in this state has written. -/
inductive Writes (spec : PairRuntimeSpec hash) (p : PairState hash) : Row hash → Prop
  | run : Writes spec p (runRow spec)
  | opening {role : ArmRole} {rows : List (Row hash)} {row : Row hash}
      (built : initialArmRows spec role = .ok rows) (mem : row ∈ rows) : Writes spec p row
  | cycle {result : MatchedCycleResult hash} {role : ArmRole} {row : Row hash}
      (stored : result ∈ p.results)
      (mem : row ∈ armCycleRows spec result.val.quoteBundle (result.val.arm role)) :
      Writes spec p row
  | event {result : MatchedCycleResult hash} {provenance : Option ProspectiveSource}
      (stored : result ∈ p.results) : Writes spec p
        (.event (cycleEvent ⟨spec.val.runId, result.val.input, provenance⟩ spec.val result))
  | source {source : ProspectiveSource} (owned : source.runId = spec.val.runId)
      (built : source.Built hash) : Writes spec p (.event (sourceEvent source))

/-- What a net asset value is named after: the arm, the time and the prices of what it holds. -/
structure Valuation where
  armId : String
  asOf : Instant
  prices : List (String × Decimal)
deriving DecidableEq

def Valuation.name (hash : Hashing) (v : Valuation) : String :=
  hash.stableId "nav" [.str v.armId, .instant v.asOf,
    .str (hash.canonicalHash (.dict (v.prices.map fun item => (item.1, .decimal item.2))))]

def heldPrices (state : ArmState hash) (bundle : QuoteBundle hash) : List (String × Decimal) :=
  state.val.positions.map fun position => (position.instrumentId,
    ((quoteMap bundle).get? position.instrumentId).elim 0 fun quote => quote.val.midpoint)

/-- The valuations of an arm: its cash at the start, and its book after every cycle. -/
def valuations (spec : PairRuntimeSpec hash) (p : PairState hash) (role : ArmRole) :
    List Valuation :=
  ⟨(spec.val.bindingFor role).armId, spec.val.createdAt, []⟩ :: p.results.map fun result =>
    ⟨(spec.val.bindingFor role).armId, result.val.quoteBundle.val.asOf,
      heldPrices (result.val.arm role).nextState result.val.quoteBundle⟩

structure ArmNamed (spec : PairRuntimeSpec hash) (result : MatchedCycleResultFields hash)
    (role : ArmRole) : Prop where
  target : (result.arm role).target.val.runId = spec.val.runId
  state : (result.arm role).nextState.val.runId = spec.val.runId
  orders : ∀ order ∈ (result.arm role).orders, OrderOf hash spec.val.runId order.val
  fills : ∀ fill ∈ (result.arm role).fills, FillOf hash spec.val.runId fill.val
  entries : (result.arm role).ledgerEntries =
    (result.arm role).fills.map fun fill => fillEntry hash fill.val
  nav : (result.arm role).nav.navSnapshotId = Valuation.name hash
    ⟨(spec.val.bindingFor role).armId, result.quoteBundle.val.asOf,
      heldPrices (result.arm role).nextState result.quoteBundle⟩

theorem priceManifest_held {c : ArmCycle hash} {state : ArmState hash}
    {positions : Dict String Decimal} (h : (positionMap state).entries = positions.sortedItems) :
    priceManifest (positions.mapVal fun symbol _ => c.midpoint symbol) =
      .dict ((heldPrices state c.bundle).map fun item => (item.1, .decimal item.2)) := by
  have hsorted : (positions.mapVal fun symbol _ => c.midpoint symbol).sortedItems =
      positions.sortedItems.map fun item => (item.1, c.midpoint item.1) :=
    (map_sortedBy (fun item : String × Decimal => item.1)
      (fun item : String × Decimal => (item.1, c.midpoint item.1)) positions.entries).symm
  show Canonical.dict ((positions.mapVal _).sortedItems.map _) = _
  rw [hsorted, ← h]
  simp only [heldPrices, positionMap, map_map]
  rfl

theorem MatchedCycle.execute_named {spec : PairRuntimeSpec hash} {s : PairState hash}
    {input : CycleInput hash} {result : MatchedCycleResult hash} (inv : PairInv spec s)
    (h : (input.cycle spec s).execute = .ok result) (role : ArmRole) :
    ArmNamed spec result.val role := by
  obtain ⟨hvalid, hexecute, hbundle, -⟩ := MatchedCycle.execute_eq_ok h
  have hbinding := MatchedCycle.checkBinding_of_valid hvalid role
  have hspec : ((input.cycle spec s).arm role).spec = spec := by cases role <;> rfl
  have hcycleBundle : ((input.cycle spec s).arm role).bundle = result.val.quoteBundle := by
    rw [hbundle]
    cases role <;> rfl
  have hstart : OnQuantum ((input.cycle spec s).arm role).parameters.quantityQuantum
      ((input.cycle spec s).arm role).state := by
    rw [input.cycle_state, input.cycle_parameters]
    exact (inv role).1
  have hnext := (execute_next (hexecute role)).2.2.1
  obtain ⟨htarget, horders, hfills, hentries, positions, hitems, hnav⟩ :=
    execute_of hstart (hexecute role)
  simp only [checkBinding, ok_iff, not_not] at hbinding
  obtain ⟨hstate, -, hbound⟩ := hbinding
  rw [hspec] at hstate hbound horders hfills
  refine ⟨?_, ?_, horders, hfills, hentries, ?_⟩
  · rw [htarget]
    exact hbound.1
  · rw [hnext]
    exact hstate.1
  · rw [hnav, priceManifest_held hitems, hcycleBundle, hbound.2.2.1]
    rfl

theorem run_named {spec : PairRuntimeSpec hash} {p : PairState hash}
    {taken : List (PairState hash × CycleInput hash)}
    (run : Run (pairStep spec) (pairStart spec) taken p) :
    ∀ result ∈ p.results, ∀ role, ArmNamed spec result.val role := by
  refine (run.inv (I := fun s => PairInv spec s ∧
    ∀ result ∈ s.results, ∀ role, ArmNamed spec result.val role)
    ⟨pairStart_inv spec, by simp [pairStart]⟩ ?_).2
  rintro s input s' ⟨hinv, hnamed⟩ hstep
  refine ⟨pairStep_inv hinv hstep, ?_⟩
  obtain ⟨result, hresult, -, hresults⟩ := pairStep_cases hstep
  rw [hresults, forall_mem_append, forall_mem_singleton]
  exact ⟨hnamed, MatchedCycle.execute_named hinv hresult⟩

theorem stateRow_of {runId : String} {state : ArmState hash} (h : state.val.runId = runId) :
    (stateRow state).Of runId := by
  subst h
  exact ⟨rfl, _, rfl⟩

theorem fillRows_of {runId rowRunId : String} {fill : FillFields} (h : FillOf hash runId fill) :
    ∀ row ∈ (ledgerRows rowRunId (fillEntry hash fill) : List (Row hash)), row.Of runId := by
  obtain ⟨⟨rest, hid⟩, -⟩ := h
  have htransaction : TransactionOf hash runId
      (fillEntry hash fill).transaction.ledgerTransactionId := by
    refine .inl ⟨fill.armId, rest, ?_⟩
    rw [← hid]
    rfl
  intro row hrow
  rw [ledgerRows, mem_cons, mem_map] at hrow
  rcases hrow with rfl | ⟨posting, hposting, rfl⟩
  · exact htransaction
  · simp only [fillEntry, mem_cons, not_mem_nil, or_false] at hposting
    rcases hposting with rfl | rfl | rfl <;> exact ⟨_, _, htransaction, rfl⟩

theorem armCycleRows_of {spec : PairRuntimeSpec hash} {result : MatchedCycleResultFields hash}
    {role : ArmRole} (named : ArmNamed spec result role) {row : Row hash}
    (h : row ∈ armCycleRows spec result.quoteBundle (result.arm role)) :
    row.Of spec.val.runId ∧ ∀ runId nav, row = .nav runId nav → nav = (result.arm role).nav := by
  simp only [armCycleRows, mem_append, mem_map, mem_filterMap, mem_flatMap,
    mem_cons, not_mem_nil, or_false, Option.map_eq_some_iff] at h
  rcases h with ((((rfl | ⟨order, horder, rfl⟩) | ⟨fill, hfill, cost, -, rfl⟩) |
    ⟨order, horder, event, hevent, rfl⟩) | ⟨entry, hentry, hrow⟩) | rfl | rfl
  · refine ⟨⟨(result.arm role).target.val, named.target, ?_⟩, by simp⟩
    rw [(TargetDecisionFields.check_eq_ok.mp (result.arm role).target.valid).2]
  · exact ⟨named.orders order horder, by simp⟩
  · exact ⟨named.fills fill hfill, by simp⟩
  · obtain ⟨⟨rest, hid⟩, -⟩ := named.orders order horder
    refine ⟨⟨rest, ?_⟩, by simp⟩
    rw [← hid]
    exact orderEvents_of _ _ _ event hevent
  · rw [named.entries, mem_map] at hentry
    obtain ⟨fill, hfill, rfl⟩ := hentry
    refine ⟨fillRows_of (named.fills fill hfill) row hrow, fun runId nav hnav => ?_⟩
    rw [hnav, ledgerRows] at hrow
    simp at hrow
  · exact ⟨trivial, by simp⟩
  · exact ⟨stateRow_of named.state, by simp [stateRow]⟩

theorem initialArmRows_of {spec : PairRuntimeSpec hash} {role : ArmRole} {rows : List (Row hash)}
    (h : initialArmRows spec role = .ok rows) : (∀ row ∈ rows, row.Of spec.val.runId) ∧
      ∃ nav, Row.nav spec.val.runId nav ∈ rows ∧ nav.navSnapshotId = Valuation.name hash
          ⟨(spec.val.bindingFor role).armId, spec.val.createdAt, []⟩ ∧
        ∀ runId nav', Row.nav runId nav' ∈ rows → nav' = nav := by
  simp only [initialArmRows, buildInitialShadowState_eq, ok_bind, ok_iff] at h
  obtain ⟨opening, hopening, nav, hnav, rfl⟩ := h
  simp only [openingEntry, ok_iff] at hopening
  obtain ⟨-, u, -, u', -, rfl⟩ := hopening
  have htransaction : TransactionOf hash spec.val.runId (hash.stableId "ltx"
      [.str (hash.stableId "research-shadow-opening"
        [.str spec.val.runId, .str (spec.val.bindingFor role).armId]),
        .str (spec.val.bindingFor role).armId, .str "PAPER_OPENING_BALANCE"]) :=
    .inr ⟨_, _, rfl⟩
  refine ⟨?_, nav, by simp, calculateNav_id hnav, by simp [ledgerRows, stateRow]⟩
  intro row hrow
  simp only [ledgerRows, cons_append, nil_append, map_cons, map_nil,
    mem_cons, not_mem_nil, or_false] at hrow
  rcases hrow with rfl | rfl | rfl | rfl | rfl | rfl
  · exact ⟨rfl, rfl⟩
  · exact stateRow_of rfl
  · exact htransaction
  · exact ⟨_, _, htransaction, rfl⟩
  · exact ⟨_, _, htransaction, rfl⟩
  · trivial

theorem exists_initialArmRows (injective : hash.Injective) (spec : PairRuntimeSpec hash)
    (role : ArmRole) : ∃ rows, initialArmRows spec role = .ok rows := by
  have hcapital := spec.val.executionContract.capital_pos
  have hpostings : ∀ transactionId, hash.stableId "post" [.str transactionId, .str "equity"] ≠
      hash.stableId "post" [.str transactionId, .str "cash"] := by
    intro transactionId heq
    have hparts := (injective.names heq).2
    simp at hparts
  have hopening : ∀ armId sourceId, ∃ entry, openingEntry hash armId sourceId
      spec.val.executionContract.startingCapitalUsd spec.val.createdAt = .ok entry := by
    intro armId sourceId
    simp [openingEntry, raiseIf, hcapital.not_gt, LedgerEntry.check, LedgerEntry.balance,
      balanceTolerance, validateEntries, Seen.addEntry, Seen.addPosting, hpostings,
      bind_eq_ok]
  obtain ⟨entry, hentry⟩ := hopening (spec.val.bindingFor role).armId
    (hash.stableId "research-shadow-opening"
      [.str spec.val.runId, .str (spec.val.bindingFor role).armId])
  have hnav : ∃ nav, calculateNav hash (spec.val.bindingFor role).armId spec.val.createdAt
      spec.val.executionContract.startingCapitalUsd Dict.empty Dict.empty = .ok nav := by
    simp [calculateNav, NavSnapshot.check, raiseIf, Dict.keys, Dict.empty]
  obtain ⟨nav, hnav⟩ := hnav
  simp only [initialArmRows, buildInitialShadowState_eq, hentry, hnav, ok_bind]
  exact ⟨_, rfl⟩

section TwoRuns

variable {spec : PairRuntimeSpec hash} {p : PairState hash}
  {taken : List (PairState hash × CycleInput hash)}

theorem writes_of (run : Run (pairStep spec) (pairStart spec) taken p) {row : Row hash}
    (h : Writes spec p row) : row.Of spec.val.runId ∧ ∀ runId nav, row = .nav runId nav →
      ∃ role, ∃ v ∈ valuations spec p role, nav.navSnapshotId = v.name hash := by
  cases h with
  | run => exact ⟨rfl, by simp [runRow]⟩
  | @opening role rows row built mem =>
    obtain ⟨hof, nav, -, hname, honly⟩ := initialArmRows_of built
    refine ⟨hof row mem, fun runId nav' hrow => ⟨role, _, mem_cons_self, ?_⟩⟩
    rw [honly runId nav' (hrow ▸ mem), hname]
  | @cycle result role row stored mem =>
    have hnamed := run_named run result stored role
    obtain ⟨hof, hnav⟩ := armCycleRows_of hnamed mem
    refine ⟨hof, fun runId nav hrow => ⟨role, _, mem_cons_of_mem _
      (mem_map_of_mem stored), ?_⟩⟩
    rw [hnav runId nav hrow, hnamed.nav]
  | event stored => exact ⟨.inl ⟨_, rfl, rfl⟩, by simp⟩
  | @source source owned built =>
    obtain ⟨executionHash, hid⟩ := built
    rw [owned] at hid
    exact ⟨.inr ⟨_, hid, rfl⟩, by simp⟩

theorem writes_valuation (injective : hash.Injective)
    (run : Run (pairStep spec) (pairStart spec) taken p) {role : ArmRole} {v : Valuation}
    (h : v ∈ valuations spec p role) :
    ∃ nav, Writes spec p (.nav spec.val.runId nav) ∧ nav.navSnapshotId = v.name hash := by
  rw [valuations, mem_cons, mem_map] at h
  rcases h with rfl | ⟨result, hresult, rfl⟩
  · obtain ⟨rows, hrows⟩ := exists_initialArmRows injective spec role
    obtain ⟨-, nav, hmem, hname, -⟩ := initialArmRows_of hrows
    exact ⟨nav, .opening hrows hmem, hname⟩
  · refine ⟨(result.val.arm role).nav, @Writes.cycle hash spec p result role _ hresult ?_,
      (run_named run result hresult role).nav⟩
    simp [armCycleRows]

theorem Valuation.name_injective (injective : hash.Injective) :
    Function.Injective (Valuation.name hash) := by
  rintro ⟨armId, asOf, prices⟩ ⟨armId', asOf', prices'⟩ heq
  have hparts := (injective.names heq).2
  simp only [List.cons.injEq, Canonical.str.injEq, Canonical.instant.injEq, and_true] at hparts
  obtain ⟨rfl, rfl, hprices⟩ := hparts
  have hdict := injective.digests hprices
  have hmap : ∀ {xs ys : List (String × Decimal)},
      Canonical.dict (xs.map fun item => (item.1, .decimal item.2)) =
        Canonical.dict (ys.map fun item => (item.1, .decimal item.2)) → xs = ys := by
    intro xs
    induction xs with
    | nil => intro ys h; cases ys <;> simp_all [Canonical.dict]
    | cons x xs ih =>
      intro ys h
      cases ys with
      | nil => simp [Canonical.dict] at h
      | cons y ys =>
        simp only [map_cons, Canonical.dict, Canonical.entry.injEq,
          Canonical.decimal.injEq] at h
        rw [ih h.2.2, Prod.ext h.1 h.2.1]
  rw [hmap hdict]

theorem not_apart_of_shared (injective : hash.Injective) {spec' p' taken'}
    (run : Run (pairStep spec) (pairStart spec) taken p)
    (run' : Run (pairStep spec') (pairStart spec') taken' p') {role role' : ArmRole} {v : Valuation}
    (hv : v ∈ valuations spec p role) (hv' : v ∈ valuations spec' p' role') :
    ∃ row row', Writes spec p row ∧ Writes spec' p' row' ∧ ¬Apart row row' := by
  obtain ⟨nav, hwrites, hname⟩ := writes_valuation injective run hv
  obtain ⟨nav', hwrites', hname'⟩ := writes_valuation injective run' hv'
  refine ⟨_, _, hwrites, hwrites', fun happart => ?_⟩
  refine happart ("nav_snapshots.nav_snapshot_id", [.str nav.navSnapshotId]) (by simp [Row.keys]) ?_
  simp [Row.keys, hname, hname']

/-- Two runs write no value of a unique column twice exactly when no arm of one is valued at the
same time and prices as an arm of the same name of the other. -/
theorem runs_apart_iff (injective : hash.Injective) {spec' : PairRuntimeSpec hash}
    {p' : PairState hash} {taken' : List (PairState hash × CycleInput hash)}
    (different : spec.val.runId ≠ spec'.val.runId)
    (run : Run (pairStep spec) (pairStart spec) taken p)
    (run' : Run (pairStep spec') (pairStart spec') taken' p') :
    (∀ row row', Writes spec p row → Writes spec' p' row' → Apart row row') ↔
      ∀ role role', ∀ v ∈ valuations spec p role, v ∉ valuations spec' p' role' := by
  constructor
  · intro happart role role' v hv hv'
    obtain ⟨row, row', hwrites, hwrites', hclash⟩ :=
      not_apart_of_shared injective run run' hv hv'
    exact hclash (happart row row' hwrites hwrites')
  · intro hvalued row row' hwrites hwrites'
    obtain ⟨hof, hnav⟩ := writes_of run hwrites
    obtain ⟨hof', hnav'⟩ := writes_of run' hwrites'
    by_cases hboth : ∃ r n r' n', row = .nav r n ∧ row' = .nav r' n'
    · obtain ⟨r, n, r', n', rfl, rfl⟩ := hboth
      obtain ⟨role, v, hv, hname⟩ := hnav r n rfl
      obtain ⟨role', v', hv', hname'⟩ := hnav' r' n' rfl
      intro key hkey hkey'
      simp only [Row.keys, mem_singleton] at hkey hkey'
      rw [hkey] at hkey'
      simp only [Prod.mk.injEq, List.cons.injEq, Canonical.str.injEq, and_true, true_and] at hkey'
      rw [hname, hname'] at hkey'
      rw [Valuation.name_injective injective hkey'] at hv
      exact hvalued role role' v' hv hv'
    · refine Row.Of.apart injective hof hof' different fun r n r' n' hrow hrow' => ?_
      exact hboth ⟨r, n, r', n', hrow, hrow'⟩

end TwoRuns

section Cash

variable (spec : PairRuntimeSpec hash) (role : ArmRole)

theorem no_share : (0 : Decimal) ≤ 0 ∧ (0 : Decimal) ≤ 1 := ⟨le_rfl, zero_le_one⟩

def cashInput : CycleInput hash :=
  spyInput spec spec.val.createdAt 0 no_share
    (sampleQuote (spec.val.createdAt + 1) 1 1 zero_lt_one le_rfl)

def cashArm : ArmCycle hash :=
  spyArm spec spec.val.createdAt 0 no_share
    (sampleQuote (spec.val.createdAt + 1) 1 1 zero_lt_one le_rfl)
    spec.val.executionContract.startingCapitalUsd (startingCapital_pos spec) role

theorem cashArm_orders :
    (cashArm spec role).executeOrders = .ok (cashArm spec role).openingBook := by
  have hplanned : (cashArm spec role).plannedOrder "SPY" = none := by
    have hdesired : (cashArm spec role).desiredQuantity "SPY" = 0 := by
      have hweight : (weightMap (cashArm spec role).target).get? "SPY" = some 0 := rfl
      simp [desiredQuantity, hweight]
    have hheld : (positionMap (cashArm spec role).state).getD "SPY" 0 = 0 := rfl
    simp only [plannedOrder, hdesired, hheld, sub_zero, if_true]
  have hrisky : (cashArm spec role).riskySymbols = ["SPY"] := rfl
  simp [executeOrders, planned, hrisky, hplanned, pure, Except.pure]

theorem cashArm_executes (capital : spec.val.executionContract.startingCapitalUsd = 100000) :
    ∃ r, (cashArm spec role).execute = .ok r ∧ r.role = role ∧ r.nextState.val.positions = [] := by
  have hcash : (cashArm spec role).state.val.cashUsd = 100000 := capital
  have hempty : positionMap (cashArm spec role).state = Dict.empty := rfl
  have htolerance := spec.val.paperParameters.tolerance_pos
  have hround : quantizeHalfEven 100000 cent = 100000 := by decide +kernel
  have hzero : quantizeHalfEven 0 cent = 0 := by decide +kernel
  have hquotes : (cashArm spec role).checkQuotes = .ok () :=
    spyArm_checkQuotes _ _ _ _ _ _ _ rfl ⟨rfl, rfl⟩
  let book : Book := ⟨100000, .empty, [], [], [], []⟩
  have hbook : (cashArm spec role).openingBook = book := by rw [openingBook, hcash, hempty]
  have hdecision : ¬(cashArm spec role).decisionNav ≤ 0 := by
    simp [decisionNav, hcash, hempty, marketValue, Dict.empty]
  let next := nextStateFields (cashArm spec role).state.val 100000 .empty 100000 book.totals
    (cashArm spec role).bundle.val.asOf (cashArm spec role).sourceCycleHash
  have hstate :
    ArmStateFields.check hash { next with stateHash := hash.canonicalHash next.payload } =
      .ok () := by
    refine ArmStateFields.check_eq_ok.mpr ⟨ArmStateFields.fieldErrors_eq_nil.mpr ?_, .nil, rfl⟩
    simp [next, nextStateFields, book, Book.totals, cashArm, spyArm, cashState, initialStateFields]
  let nav (navId priceHash : String) : NavSnapshot := ⟨navId, (cashArm spec role).target.val.armId,
    (cashArm spec role).bundle.val.asOf, 100000, 0, 100000, priceHash,
    (cashArm spec role).bundle.val.asOf⟩
  obtain ⟨navId, priceHash, hnav⟩ : ∃ navId priceHash, calculateNav hash
      (cashArm spec role).target.val.armId (cashArm spec role).bundle.val.asOf 100000 .empty
      (Dict.empty.mapVal fun symbol (_ : Decimal) => (cashArm spec role).midpoint symbol) =
        .ok (nav navId priceHash) := by
    simp [nav, calculateNav, NavSnapshot.check, raiseIf, Dict.empty, Dict.keys, marketValue, hround,
      hzero]
  have hweights :
    ¬|(100000 : Decimal) / 100000 + (Dict.empty : Dict String Decimal).values.sum - 1| >
      (cashArm spec role).parameters.weightTolerance := by
    simpa [Dict.values, Dict.empty, cashArm, spyArm, parameters] using htolerance.le
  have hdaily : ((cashArm spec role).dailySummary (nav navId priceHash) book.totals .empty).check =
      .ok () := by
    simp [DailyArmSummaryFields.check, DailyArmSummaryFields.fieldErrors, gtZeroCheck, leCheck,
      dailySummary, nav, book, Book.totals, cashArm, spyArm, cashState, capital, Dict.values,
        Dict.empty]
  refine ⟨⟨role, (cashArm spec role).target, [], [], [], [], nav navId priceHash, ⟨_, hstate⟩,
    ⟨_, hdaily⟩⟩, ?_, rfl, rfl⟩
  rw [ArmCycle.execute, hquotes, ok_bind, raiseIf_neg _ hdecision, ok_bind, cashArm_orders, ok_bind,
    hbook]
  simp only [close, ok_iff]
  exact ⟨(), rfl, by simp [book, Dict.values, Dict.empty], _, hnav, ⟨_, hstate⟩,
    validate_eq_ok.mpr rfl, hweights, ⟨_, hdaily⟩, validate_eq_ok.mpr rfl, rfl⟩

/-- A cycle in which both arms keep their cash values each of them once more. -/
theorem cashCycle_runs (capital : spec.val.executionContract.startingCapitalUsd = 100000) :
    ∃ taken p, Run (pairStep spec) (pairStart spec) taken p ∧ taken.map (·.2) = [cashInput spec] ∧
      ∀ role, valuations spec p role = [⟨(spec.val.bindingFor role).armId, spec.val.createdAt, []⟩,
        ⟨(spec.val.bindingFor role).armId, spec.val.createdAt + 1, []⟩] := by
  obtain ⟨champion, hchampion, hrole, hflat⟩ := cashArm_executes spec .champion capital
  obtain ⟨challenger, hchallenger, hrole', hflat'⟩ := cashArm_executes spec .challenger capital
  let m := (cashInput spec).cycle spec (pairStart spec)
  have harm (role : ArmRole) : m.arm role = cashArm spec role := spyCycle_arm ..
  let fields := m.resultFields champion challenger
  have hvalid : MatchedCycleResultFields.check hash
      { fields with resultHash := hash.canonicalHash fields.payload } = .ok () := by
    simp only [MatchedCycleResultFields.check, ok_iff, not_not]
    exact ⟨hrole, hrole', rfl, rfl⟩
  have hinputs : m.validateCommonInputs = .ok () := spyCycle_valid ..
  have hexecute : m.execute = .ok ⟨_, hvalid⟩ := by
    rw [MatchedCycle.execute, hinputs, ok_bind, harm, hchampion, ok_bind, harm,
      hchallenger, ok_bind]
    exact validate_eq_ok.mpr rfl
  have hstep : pairStep spec (pairStart spec) (cashInput spec) =
      .ok ⟨champion.nextState, challenger.nextState, [⟨_, hvalid⟩]⟩ := by
    rw [pairStep, hexecute]
    rfl
  refine ⟨_, _, .next .start hstep, rfl, fun role => ?_⟩
  cases role with
  | champion =>
    simp [valuations, heldPrices, MatchedCycleResultFields.arm, fields, MatchedCycle.resultFields,
      hflat]
    rfl
  | challenger =>
    simp [valuations, heldPrices, MatchedCycleResultFields.arm, fields, MatchedCycle.resultFields,
      hflat']
    rfl

end Cash

/-- The pair of `sampleSpec` initialised again under another champion artifact. -/
def rivalSpec (hash : Hashing) (createdAt : Instant) : PairRuntimeSpec hash where
  val :=
    let contract : ExecutionContract :=
      ⟨"inputs", "schedule", "scenario", "costs", 100000, "liquidity", sampleCapital_pos⟩
    let runtimeHash := hash.canonicalHash (runtimeContract contract shippedParameters)
    let spec : PairRuntimeSpecFields :=
      ⟨hash.stableId "research-shadow-run" [.str "pair", .str "artifact-c", .str "artifact-b",
          .str runtimeHash], "pair", "challenger", ⟨.champion, "ARM-A", "core", "v1", "artifact-c"⟩,
        ⟨.challenger, "ARM-B", "core", "v2", "artifact-b"⟩, contract,
        hash.canonicalHash contract.payload, shippedParameters, runtimeHash, "code", createdAt, ""⟩
    { spec with specHash := hash.canonicalHash spec.payload }
  valid := PairRuntimeSpecFields.check_eq_ok.mpr
    ⟨rfl, rfl, (by decide : "ARM-A" ≠ "ARM-B"), (by decide : "v1" ≠ "v2"),
      (by decide : "artifact-c" ≠ "artifact-b"), rfl, rfl, rfl⟩

abbrev markedSpec : PairRuntimeSpec Hashing.marked := sampleSpec _ 100000 sampleCapital_pos

theorem rivals_differ (createdAt : Instant) :
    markedSpec.val.runId ≠
      (rivalSpec Hashing.marked createdAt).val.runId := by
  intro heq
  have hparts := (Hashing.marked_injective.names heq).2
  simp at hparts

/-- One pair initialised twice at one instant, under two champion artifacts. -/
theorem rivals_collide : Hashing.marked.Injective ∧
    markedSpec.val.runId ≠
      (rivalSpec Hashing.marked 0).val.runId ∧
    ¬∀ row row', Writes markedSpec
        (pairStart markedSpec) row →
      Writes (rivalSpec Hashing.marked 0) (pairStart (rivalSpec Hashing.marked 0)) row' →
      Apart row row' := by
  refine ⟨Hashing.marked_injective, rivals_differ 0, fun happart => ?_⟩
  let spec := markedSpec
  let spec' := rivalSpec Hashing.marked 0
  have hv : ⟨"ARM-A", 0, []⟩ ∈ valuations spec (pairStart spec) .champion := mem_cons_self
  have hv' : ⟨"ARM-A", 0, []⟩ ∈ valuations spec' (pairStart spec') .champion := mem_cons_self
  obtain ⟨row, row', hwrites, hwrites', hclash⟩ :=
    not_apart_of_shared Hashing.marked_injective .start .start hv hv'
  exact hclash (happart row row' hwrites hwrites')

/-- Initialised at 0 and at 2, each with a cycle a microsecond later. -/
theorem rivals_apart : ∃ taken taken' p p',
    Run (pairStep markedSpec)
      (pairStart markedSpec) taken p ∧
    Run (pairStep (rivalSpec Hashing.marked 2)) (pairStart (rivalSpec Hashing.marked 2)) taken' p' ∧
    taken.length = 1 ∧ taken'.length = 1 ∧
    ∀ row row', Writes markedSpec p row →
      Writes (rivalSpec Hashing.marked 2) p' row' → Apart row row' := by
  obtain ⟨taken, p, run, hinputs, hvalued⟩ :=
    cashCycle_runs markedSpec rfl
  obtain ⟨taken', p', run', hinputs', hvalued'⟩ := cashCycle_runs (rivalSpec Hashing.marked 2) rfl
  refine ⟨taken, taken', p, p', run, run', by simpa using congrArg length hinputs,
    by simpa using congrArg length hinputs',
    (runs_apart_iff Hashing.marked_injective (rivals_differ 2) run run').mpr ?_⟩
  intro role role' v hv hv'
  rw [hvalued] at hv
  rw [hvalued'] at hv'
  have htime : v.asOf = 0 ∨ v.asOf = 1 := by
    rcases mem_pair.mp hv with rfl | rfl
    · exact .inl rfl
    · exact .inr rfl
  have htime' : v.asOf = 2 ∨ v.asOf = 3 := by
    rcases mem_pair.mp hv' with rfl | rfl
    · exact .inl rfl
    · exact .inr rfl
  rcases htime with h | h <;> rcases htime' with h' | h' <;> exact absurd (h.symm.trans h')
    (by decide)

end AdaptiveQuant.Shadow
