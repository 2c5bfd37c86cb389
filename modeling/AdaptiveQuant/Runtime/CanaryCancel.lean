import AdaptiveQuant.Domain.CanonicalText
import AdaptiveQuant.Runtime.CanarySound

/-! Which open orders a sync selects for cancellation. -/

namespace AdaptiveQuant

open Guard Effect List

variable (service : CanaryService) (runId : String) (w : World PaperStore) (call : SyncCall)

def cancelSelection : List AlpacaPaperOrder :=
  match (w.observed service runId call).1 with
  | .ok o => cancellationRequired o call.now
  | .error _ => []

/-- A command of a decision that is not the latest one or has expired. -/
def PaperBrokerCommandRow.IsStale
    (command : PaperBrokerCommandRow) : Prop :=
  ∀ decision ∈ latestDecision service call.source runId,
    command.sourceDecisionId ≠ decision.portfolioDecisionId ∨ decision.validUntil ≤ call.now

instance (service : CanaryService) (runId : String) (call : SyncCall)
    (command : PaperBrokerCommandRow) : Decidable (command.IsStale service runId call) :=
  inferInstanceAs (Decidable (∀ decision ∈ latestDecision service call.source runId, _))

/-- A stale open order of the canary whose cancel the broker has not accepted. -/
def NeedsCancel
    (order : AlpacaPaperOrder) : Prop :=
  order.isOpen = true ∧ order.brokerOrderId ∉ (w.enter call).listing.cancelsAccepted ∧
    ∃ command ∈ w.store.commands, command.commandType = .submit ∧
      command.clientOrderId = some order.clientOrderId ∧ command.IsStale service runId call

instance (service : CanaryService) (runId : String) (w : World PaperStore) (call : SyncCall)
    (order : AlpacaPaperOrder) : Decidable (NeedsCancel service runId w call order) :=
  inferInstanceAs (Decidable (_ ∧ _))

/-- The sync cancels every order that needs it. -/
def SelectsStale : Prop :=
  ∀ order ∈ (w.enter call).listing.orders, NeedsCancel service runId w call order →
    order ∈ cancelSelection service runId w call

instance (service : CanaryService) (runId : String) (w : World PaperStore) (call : SyncCall) :
    Decidable (SelectsStale service runId w call) :=
  inferInstanceAs (Decidable (∀ order ∈ (w.enter call).listing.orders, _))

def PaperStore.lastCommand (store : PaperStore) (clientOrderId : String) :
    Option PaperBrokerCommandRow :=
  commandFor (Sequence.sortedBy
    (fun row : PaperBrokerCommandRow => toLex (row.createdAt, row.commandId)) store.commands)
    clientOrderId

/-- The last command of the order is a CANCEL that names the latest decision, which has not expired,
and no risk state blocks the order. -/
def Overlooked
    (order : AlpacaPaperOrder) : Prop :=
  ∃ command ∈ w.store.lastCommand order.clientOrderId, command.commandType = .cancel ∧
    ∃ decision ∈ latestDecision service call.source runId,
      command.sourceDecisionId = decision.portfolioDecisionId ∧ call.now < decision.validUntil ∧
      ¬(blocksBuys (latestSourceRiskState service call.source runId) = true ∧ order.side = .buy)

instance (service : CanaryService) (runId : String) (w : World PaperStore) (call : SyncCall)
    (order : AlpacaPaperOrder) : Decidable (Overlooked service runId w call order) :=
  inferInstanceAs (Decidable (∃ command ∈ w.store.lastCommand order.clientOrderId, _))

/-- The reconciliation of a sync goes through: every request is answered and every check passes. -/
def Reconciles : Prop :=
  (w.observed service runId call).1.toOption.isSome = true

instance (service : CanaryService) (runId : String) (w : World PaperStore) (call : SyncCall) :
    Decidable (Reconciles service runId w call) := inferInstanceAs (Decidable (_ = true))

/-- The sync gets to see the order and does not overlook it. -/
def Judged
    (order : AlpacaPaperOrder) : Prop :=
  Reconciles service runId w call ∧
    order ∈ (w.enter call).listing.orders.take service.config.val.orderHistoryLimit ∧
    ¬Overlooked service runId w call order

instance (service : CanaryService) (runId : String) (w : World PaperStore) (call : SyncCall)
    (order : AlpacaPaperOrder) : Decidable (Judged service runId w call order) :=
  inferInstanceAs (Decidable (_ ∧ _))

section Selection

variable {service : CanaryService} {runId : String} {w w' : World PaperStore} {call : SyncCall}
  {o : Observation}

theorem commandFor_observed (sound : w.store.Sound service runId)
    (h : w.observed service runId call = (.ok o, w')) (clientOrderId : String) :
    commandFor o.commands clientOrderId = w.store.lastCommand clientOrderId := by
  have hobserved := observe_ok h
  have hsound : w'.store.Sound service runId :=
    (sound_steady.observe call.source call.now).ok h sound
  have hall : w.store.commands.filter (·.bindingId = o.binding.bindingId) = w.store.commands := by
    rw [filter_eq_self]
    intro command hcommand
    have hmem : command ∈ w'.store.commands := by
      rw [hobserved.stored]
      exact hcommand
    simpa using hsound.bindingId_eq hmem hobserved.binding
  rw [hobserved.commands, PaperStore.commandsOf]
  show commandFor (Sequence.sortedBy _ (w.store.commands.filter _)) clientOrderId = _
  rw [hall]
  rfl

theorem lastCommand_some {store : PaperStore} {clientOrderId : String} {command}
    (h : command ∈ store.commands) (client : command.clientOrderId = some clientOrderId) :
    ∃ last ∈ store.commands, store.lastCommand clientOrderId = some last ∧
      last.clientOrderId = some clientOrderId := by
  have hrow : ∀ row, row ∈ (Sequence.sortedBy
      (fun row : PaperBrokerCommandRow => toLex (row.createdAt, row.commandId))
      store.commands).filter (·.clientOrderId = some clientOrderId) ↔
      row ∈ store.commands ∧ row.clientOrderId = some clientOrderId := by
    intro row
    rw [mem_filter, Sequence.mem_sortedBy, decide_eq_true_eq]
  cases hlast : store.lastCommand clientOrderId with
  | none =>
    have hempty := List.getLast?_eq_none_iff.mp hlast
    have hmem := (hrow command).mpr ⟨h, client⟩
    rw [hempty] at hmem
    cases hmem
  | some last =>
    obtain ⟨hmem, hclient⟩ := (hrow last).mp (mem_of_getLast? hlast)
    exact ⟨last, hmem, rfl, hclient⟩

theorem lastCommand_stale (sound : w.store.Sound service runId) {order}
    (h : NeedsCancel service runId w call order) :
    ∃ last, w.store.lastCommand order.clientOrderId = some last ∧
      (last.IsStale service runId call ∨ last.commandType = .cancel) := by
  obtain ⟨-, -, command, hcommand, hsubmit, hclient, hstale⟩ := h
  obtain ⟨last, hlast, hsome, hlastClient⟩ := lastCommand_some hcommand hclient
  refine ⟨last, hsome, ?_⟩
  cases htype : last.commandType with
  | cancel => exact .inr rfl
  | submit =>
    left
    rw [sound.submit_unique hlast hcommand htype hsubmit (hlastClient.trans hclient.symm)]
    exact hstale

theorem mem_cancellationRequired (now : Instant) {last order}
    (h : commandFor o.commands order.clientOrderId = some last) :
    order ∈ cancellationRequired o now ↔ order ∈ o.openOrders ∧
      ∀ decision ∈ o.decision, last.sourceDecisionId ≠ decision.portfolioDecisionId ∨
        decision.validUntil ≤ now ∨ (blocksBuys o.risk = true ∧ order.side = .buy) := by
  simp only [cancellationRequired, ownedOpen, mem_filter, h, Option.isSome_some, and_true]
  cases o.decision with
  | none => simp
  | some decision => simp

theorem mem_cancelSelection (sound : w.store.Sound service runId) {order}
    (h : NeedsCancel service runId w call order) :
    order ∈ cancelSelection service runId w call ↔ Judged service runId w call order := by
  rcases hrun : w.observed service runId call with ⟨failure | o, w1⟩
  · -- The sync stopped: it selects nothing and does not reconcile.
    have hstop : ¬Reconciles service runId w call := by
      rw [Reconciles, hrun]
      simp [Except.toOption]
    simp only [cancelSelection, hrun, not_mem_nil, Judged, hstop, false_and]
  · have hreconciles : Reconciles service runId w call := by
      rw [Reconciles, hrun]
      rfl
    obtain ⟨last, hlast, hkind⟩ := lastCommand_stale sound h
    have hobserved := observe_ok hrun
    have hmem := mem_cancellationRequired call.now ((commandFor_observed sound hrun _).trans hlast)
    have hopen : order ∈ o.openOrders ↔
        order ∈ (w.enter call).listing.orders.take service.config.val.orderHistoryLimit := by
      rw [hobserved.openOrders, mem_filter, and_iff_left h.1]
    simp only [cancelSelection, hrun, Judged, hreconciles, true_and]
    rw [hmem, hopen, hobserved.decision, hobserved.risk]
    refine and_congr_right fun _ => ?_
    constructor
    · rintro hselect ⟨command, hcommand, -, decision, hdecision, hname, hvalid, hblock⟩
      obtain rfl : last = command := Option.some.inj (hlast.symm.trans hcommand)
      rcases hselect decision hdecision with hother | hexpired | hblocked
      · exact hother hname
      · exact absurd hvalid (not_lt.mpr hexpired)
      · exact hblock hblocked
    · intro hseen decision hdecision
      rcases hkind with hstale | hcancel
      · rcases hstale decision hdecision with hother | hexpired
        · exact .inl hother
        · exact .inr (.inl hexpired)
      · by_contra hnone
        rw [not_or, not_or, not_not, not_le] at hnone
        exact hseen ⟨last, hlast, hcancel, decision, hdecision, hnone.1, hnone.2.1, hnone.2.2⟩

end Selection

/-- In every run, with any broker, network and source decisions, a sync selects every open order
with a stale SUBMIT and no accepted cancel request exactly when it gets to see each of them and
overlooks none. -/
theorem stale_orders_selected_iff {service : CanaryService} {runId : String}
    {init w : World PaperStore} {taken : List (World PaperStore × SyncCall)}
    (run : Run (syncStep service runId) init taken w) (start : init.IsUntouched) :
    ∀ x ∈ taken, SelectsStale service runId x.1 x.2 ↔
      ∀ order ∈ (x.1.enter x.2).listing.orders, NeedsCancel service runId x.1 x.2 order →
        Judged service runId x.1 x.2 order := by
  intro x hx
  have hsound := (sound_of_run run start).2 x hx
  exact forall_congr' fun order => forall_congr' fun _ => forall_congr' fun hneeds =>
    mem_cancelSelection hsound hneeds

def sampleHash : Hashing where
  canonicalHash value := String.ofList (value.json.toList.reverse.take 40)
  stableId := Hashing.json.stableId

def sampleCanary : CanaryService where
  hash := sampleHash
  config := shippedCanaryConfig
  paperManifestHash := "paper"
  q1ManifestHash := "q1"
  codeVersion := "code"
  calendarVersion := "calendar"
  newYorkDate _ := 0
  newYorkTime _ := 0

def sampleDecision (portfolioDecisionId : String) (decisionCreatedAt : Instant)
    (targetWeights : Dict String Decimal) : PortfolioDecisionRow where
  portfolioDecisionId := portfolioDecisionId
  runId := "run"
  armId := "Q1-LLM"
  algorithmVersion := q1AlgorithmVersion
  decisionCreatedAt := decisionCreatedAt
  validUntil := 100
  targetWeights := targetWeights
  configManifestHash := "q1"
  codeVersion := "code"
  decisionHash := "digest"

def sampleQuote (symbol : String) (price : Decimal) : CanaryQuoteRow where
  quoteId := "quote"
  provider := "alpaca"
  feed := "iex"
  symbol := symbol
  availableAt := 0
  eventTime := 0
  bidPrice := price
  askPrice := price
  bidSizeRoundLots := 1
  askSizeRoundLots := 1

def sampleSource (decisions : List PortfolioDecisionRow)
    (key : (decisions.map (·.portfolioDecisionId)).Nodup)
    (named : ∀ row ∈ decisions, row.portfolioDecisionId ≠ "") (risk : String) (price : Decimal) :
    CanarySource where
  run := some ⟨q1AlgorithmVersion, "q1", "code"⟩
  decisions := decisions
  decisionsKey := key
  decisionsNamed := named
  navs := [⟨"nav", "run", "Q1-LLM", q1AlgorithmVersion, "q1", "code", 0, some risk⟩]
  sessions := [⟨"session", "calendar", q1AlgorithmVersion, "q1", "code", 0, 0, 0, 1000⟩]
  stream := some ⟨"CONNECTED", some 0⟩
  quotes := [sampleQuote "QQQ" price, sampleQuote "SOXX" price]

def sampleWorld : World PaperStore where
  store := ⟨[], [], []⟩
  broker :=
    { account := ⟨"account", "ACTIVE", "USD", 10000, 10000, 10000, false, false, false⟩
      positions := []
      orders := []
      activities := []
      cancelsAccepted := []
      inFlight := [] }
  exchanges := []
  life := none

theorem sampleWorld_isUntouched : sampleWorld.IsUntouched := ⟨rfl, by simp [sampleWorld], rfl⟩

def answeredExchanges (count : ℕ) (brokerOrderId : String) : List Exchange :=
  List.replicate count { moves := [] } ++ [{ taken := ⟨brokerOrderId, .accepted, 0⟩ }]

def sampleTargets : Dict String Decimal := Dict.empty.set "QQQ" (1 / 2)

def firstDecision : PortfolioDecisionRow := sampleDecision "D1" 0 sampleTargets

def firstSource (risk : String) (price : Decimal) : CanarySource :=
  sampleSource [firstDecision] (by decide) (by decide) risk price

def secondDecision : PortfolioDecisionRow := sampleDecision "D2" 5 sampleTargets

def buyCall : SyncCall where
  now := 1
  source := firstSource "NORMAL" 100
  exchanges := answeredExchanges 5 "order"
  life := none

def replaceCall (now : Instant) (fate : Fate) : SyncCall where
  now := now
  source := sampleSource [firstDecision, secondDecision] (by decide) (by decide) "NORMAL" 100
  exchanges := List.replicate 4 { moves := [] } ++ [{ fate }]
  life := none

def boughtWorld : World PaperStore := (sampleWorld.synced sampleCanary "run" buyCall).2

/-- The cancel request of the second decision times out before it reaches the broker. -/
def lostCall : SyncCall := replaceCall 6 (.failed .timeout false)

def lostWorld : World PaperStore := (boughtWorld.synced sampleCanary "run" lostCall).2

def retryCall : SyncCall := replaceCall 7 .answered

theorem lostRun : Run (syncStep sampleCanary "run") sampleWorld
    [(sampleWorld, buyCall), (boughtWorld, lostCall), (lostWorld, retryCall)]
    (lostWorld.synced sampleCanary "run" retryCall).2 :=
  .next (.next (.next .start rfl) rfl) rfl

/-- The order of the first decision is open when the second decision comes, and selected. -/
theorem buy_order_selected :
    (∃ order ∈ (boughtWorld.enter lostCall).listing.orders,
      NeedsCancel sampleCanary "run" boughtWorld lostCall order) ∧
    SelectsStale sampleCanary "run" boughtWorld lostCall := by
  refine ⟨by decide +kernel, ?_⟩
  rw [stale_orders_selected_iff lostRun sampleWorld_isUntouched (boughtWorld, lostCall) (by simp)]
  decide +kernel

/-- After its cancel request was lost, the order is still open and no longer selected. -/
theorem lost_cancel_not_selected :
    ∃ (init w : World PaperStore) (taken : List (World PaperStore × SyncCall)),
      Run (syncStep sampleCanary "run") init taken w ∧ init.IsUntouched ∧
      ∃ x ∈ taken, ¬SelectsStale sampleCanary "run" x.1 x.2 :=
  ⟨_, _, _, lostRun, sampleWorld_isUntouched, (lostWorld, retryCall), by simp, by decide +kernel⟩

end AdaptiveQuant
