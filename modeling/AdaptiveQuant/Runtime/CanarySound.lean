import AdaptiveQuant.Runtime.CanaryRun

/-! The rule for whole syncs, and the invariant of the store in every run. -/

namespace AdaptiveQuant

open Guard Effect List

/-- A sync that has nothing to cancel or to wait for, and the orders that it plans. -/
structure Planned (service : CanaryService) (source : CanarySource) (now : Instant)
    (o : Observation) (decision : PortfolioDecisionRow) (plans : List CanaryOrderPlan) : Prop where
  latest : o.decision = some decision
  session : activeMarketSession service source now
  unexpired : now < decision.validUntil
  idle : ownedOpen o.commands o.openOrders = []
  plans : planOrders service source o.account o.positions decision o.risk now = .ok plans

theorem Planned.uncancelled {service source} {now : Instant} {o decision plans}
    (h : Planned service source now o decision plans) : cancellationRequired o now = [] := by
  rw [cancellationRequired, h.idle, filter_nil]

theorem Planned.follow_eq {service source} {now : Instant} {o decision plans}
    (h : Planned service source now o decision plans) :
    follow service source o now = (do
      submitPlans service source o.binding decision now plans
      recordReady service o.binding now) := by
  rw [follow, if_neg (by rw [h.uncancelled]; simp), h.latest]
  show followDecision service source o decision now = _
  rw [followDecision, if_neg (not_not.mpr h.session), if_neg (not_le.mpr h.unexpired),
    if_neg (not_not.mpr h.idle), submitPlanned, h.plans]
  rfl

section Rule

variable {service : CanaryService} {runId : String} {J : PaperStore → Broker → Prop}
  {source : CanarySource} {now : Instant} {w : World PaperStore}

section

variable (q : Quiet service runId J)

include q

theorem Quiet.submitPlanned {o : Observation}
    {decision : PortfolioDecisionRow} (h : Holds J w)
    (submits : ∀ plans, planOrders service source o.account o.positions decision o.risk now =
      .ok plans → Holds J (submitPlans service source o.binding decision now plans w).2) :
    Holds J (AdaptiveQuant.submitPlanned service source o decision now w).2 := by
  rw [AdaptiveQuant.submitPlanned]
  cases hplans : planOrders service source o.account o.positions decision o.risk now with
  | error failure => exact h
  | ok plans =>
    have hsubmit := submits plans hplans
    rw [bind_ok (ofExcept_run _)]
    rcases hdone : submitPlans service source o.binding decision now plans w with
      ⟨failure | ⟨⟩, w'⟩
    · rw [bind_error hdone]
      rwa [hdone] at hsubmit
    · rw [bind_ok hdone]
      rw [hdone] at hsubmit
      exact q.recordReady o.binding now w' hsubmit

theorem Quiet.follow {o : Observation} (bound : o.binding.runId = runId)
    (h : Holds J w)
    (submits : ∀ decision plans, Planned service source now o decision plans →
      Holds J (submitPlans service source o.binding decision now plans w).2) :
    Holds J (AdaptiveQuant.follow service source o now w).2 := by
  rw [AdaptiveQuant.follow]
  split
  · exact ((Keeps.ofExcept _).bind fun _ => (q.cancelOrders source bound _ _ now _).bind
      fun _ => q.recordReady o.binding now) w h
  · cases hlatest : o.decision with
    | none => exact q.recordReady o.binding now w h
    | some decision =>
      show Holds J (followDecision service source o decision now w).2
      rw [followDecision]
      split
      · exact ((q.cancelOrders source bound _ _ now _).bind fun _ => Keeps.fail _) w h
      · rename_i hsession
        split
        · exact h
        · rename_i hunexpired
          split
          · exact q.recordReady o.binding now w h
          · rename_i hidle
            exact q.submitPlanned h fun plans hplans => submits decision plans
              ⟨hlatest, not_not.mp hsession, not_le.mp hunexpired, not_not.mp hidle, hplans⟩

theorem Quiet.syncOnce (steady : Steady service runId J)
    (h : Holds J w)
    (submits : ∀ o w1 decision plans, AdaptiveQuant.observe service runId source now w =
      (.ok o, w1) → Holds J w1 → Planned service source now o decision plans →
      Holds J (submitPlans service source o.binding decision now plans w1).2) :
    Holds J (AdaptiveQuant.syncOnce service runId source now w).2 := by
  have hobserve := steady.observe source now w h
  rcases hrun : AdaptiveQuant.observe service runId source now w with ⟨failure | o, w1⟩
  · rw [AdaptiveQuant.syncOnce, bind_error hrun]
    rwa [hrun] at hobserve
  · rw [AdaptiveQuant.syncOnce, bind_ok hrun]
    rw [hrun] at hobserve
    exact q.follow (observe_ok hrun).run hobserve fun decision plans =>
      submits o w1 decision plans hrun hobserve

theorem Quiet.settleSync (outcome : Except CanaryFailure Unit) :
    Keeps (Holds J) (AdaptiveQuant.settleSync service runId now outcome) := by
  unfold AdaptiveQuant.settleSync
  split
  · exact Keeps.pure _
  · split
    · exact Keeps.fail _
    · exact (q.recordBlocked now _ _).bind fun _ => Keeps.pure _

theorem Quiet.sync (h : Holds J (AdaptiveQuant.syncOnce service runId source now w).2) :
    Holds J (AdaptiveQuant.sync service runId source now w).2 := by
  rw [AdaptiveQuant.sync, bind_ok attempt_run]
  exact q.settleSync _ _ h

end

end Rule

/-- The store of a canary: one binding for the run, rows that the canary made under it, one command
for each idempotency key, and events named by their keys. -/
structure PaperStore.Sound (service : CanaryService) (runId : String) (store : PaperStore) :
    Prop where
  binding : ∀ binding ∈ store.bindings, store.bindingForRun runId = some binding
  bindings : ∀ binding ∈ store.bindings, PaperBrokerBindingRow.Made service runId binding
  commands : ∀ command ∈ store.commands, PaperBrokerCommandRow.Made service runId command ∧
    ∃ binding ∈ store.bindings, binding.bindingId = command.bindingId
  keys : ∀ a ∈ store.commands, ∀ b ∈ store.commands, a.idempotencyKey = b.idempotencyKey → a = b
  events : ∀ event ∈ store.events, event.eventId = service.hash.stableId "alpaca-paper-event"
    [.str event.bindingId, .str event.idempotencyKey] ∧
    ∃ binding ∈ store.bindings, binding.bindingId = event.bindingId
  fills : ∀ event ∈ store.events, ∀ id ∈ event.providerEventId, event.idempotencyKey =
    service.hash.stableId "alpaca-fill-activity" [.str event.bindingId, .str id]

variable {service : CanaryService} {runId : String}

theorem PaperStore.Sound.empty : PaperStore.Sound service runId ⟨[], [], []⟩ := by
  constructor <;> simp

theorem PaperStore.Sound.append_command {store : PaperStore} {row} (h : store.Sound service runId)
    (made : row.Made service runId)
    (bound : ∃ binding ∈ store.bindings, binding.bindingId = row.bindingId)
    (new : ∀ other ∈ store.commands, other.idempotencyKey ≠ row.idempotencyKey) :
    PaperStore.Sound service runId { store with commands := store.commands ++ [row] } where
  binding := h.binding
  bindings := h.bindings
  commands := by
    intro command hcommand
    rcases mem_append.mp hcommand with hold | hnew
    · exact h.commands command hold
    · rw [mem_singleton.mp hnew]
      exact ⟨made, bound⟩
  keys := by
    intro a ha b hb hkey
    rcases mem_append.mp ha with ha | ha <;> rcases mem_append.mp hb with hb | hb
    · exact h.keys a ha b hb hkey
    · rw [mem_singleton.mp hb] at hkey
      exact (new a ha hkey).elim
    · rw [mem_singleton.mp ha] at hkey
      exact (new b hb hkey.symm).elim
    · rw [mem_singleton.mp ha, mem_singleton.mp hb]
  events := h.events
  fills := h.fills

theorem PaperStore.Sound.append_binding {store : PaperStore} {row} (h : store.Sound service runId)
    (made : row.Made service runId) (new : store.bindingForRun runId = none) :
    PaperStore.Sound service runId { store with bindings := store.bindings ++ [row] } := by
  -- Every stored binding is the one of the run, so there is none yet.
  have hempty : store.bindings = [] := by
    rw [eq_nil_iff_forall_not_mem]
    intro binding hbinding
    have := h.binding binding hbinding
    rw [new] at this
    cases this
  have hcommands : store.commands = [] := by
    rw [eq_nil_iff_forall_not_mem]
    intro command hcommand
    obtain ⟨-, binding, hbinding, -⟩ := h.commands command hcommand
    rw [hempty] at hbinding
    cases hbinding
  constructor
  · intro binding hbinding
    simp only [hempty, nil_append, mem_singleton] at hbinding
    simp [PaperStore.bindingForRun, hempty, hbinding, made.1]
  · intro binding hbinding
    simp only [hempty, nil_append, mem_singleton] at hbinding
    rw [hbinding]
    exact made
  · simp [hcommands]
  · simp [hcommands]
  · intro event hevent
    obtain ⟨-, binding, hbinding, -⟩ := h.events event hevent
    rw [hempty] at hbinding
    cases hbinding
  · exact h.fills

theorem PaperStore.Sound.append_event {store : PaperStore} (h : store.Sound service runId) {binding}
    {now : Instant} {event} (made : SyncEvent service binding now event)
    (bound : ∃ stored ∈ store.bindings, stored.bindingId = binding.bindingId) :
    PaperStore.Sound service runId
      { store with events := store.events ++ [event.row service binding now] } :=
  { h with
    events := by
      intro e he
      rcases mem_append.mp he with hold | hnew
      · exact h.events e hold
      · rw [mem_singleton.mp hnew]
        exact ⟨rfl, bound⟩
    fills := by
      intro e he
      rcases mem_append.mp he with hold | hnew
      · exact h.fills e hold
      · rw [mem_singleton.mp hnew]
        exact made.provider }

theorem sound_steady : Steady service runId fun store _ => store.Sound service runId where
  moves _ _ _ h := h
  event _ _ _ _ _ made _ bound h := h.append_event made bound
  bind _ _ _ made new h := h.append_binding made new

theorem sound_quiet : Quiet service runId fun store _ => store.Sound service runId where
  moves _ _ _ h := h
  event _ _ _ _ _ made _ bound h := h.append_event made bound
  command _ _ _ made _ bound new h := h.append_command made bound new
  post _ _ _ h := h
  cancel _ _ _ h := h

theorem ensureCommand_sound {source row command} {store store' : PaperStore}
    (made : row.validate = .ok () → row.Made service runId) (h : store.Sound service runId)
    (ok : ensureCommand service source row store = .ok (command, store')) :
    store'.Sound service runId := by
  rcases ensureCommand_ok ok with ⟨rfl, -⟩ | ⟨-, rfl, hvalid, hbound, hnew⟩
  · exact h
  · exact h.append_command (made hvalid) hbound hnew

theorem keeps_placeOrder {J : PaperStore → Broker → Prop} {binding : PaperBrokerBindingRow}
    {decision : PortfolioDecisionRow} {now : Instant} {plan : CanaryOrderPlan}
    {command : PaperBrokerCommandRow} (moves : Unmoved J)
    (event : ∀ broker, EventClosed service false (J · broker))
    (post : ∀ request : AlpacaPaperOrderRequest,
      request.val = planTerms service binding decision plan → ∀ store broker, J store broker →
      J store (Broker.post broker (some (.submit request))))
    (submit : ∀ request : AlpacaPaperOrderRequest,
      request.val = planTerms service binding decision plan → ∀ store broker taken,
      J store broker → J store (Broker.submit broker request taken).2) :
    Keeps (Holds J) (placeOrder service binding decision now plan command) := by
  refine (Keeps.ofExcept _).bind_of fun request w w' hw hrequest _ => ?_
  obtain ⟨hvalid, rfl⟩ := Prod.mk.inj hrequest
  have hterms : request.val = planTerms service binding decision plan :=
    validate_eq_ok.mp (mapError_eq_ok.mp hvalid)
  exact ((keeps_ensureSubmitted moves request (post request hterms) (submit request hterms) _).bind
    fun order => keeps_transactEvents fun _ broker _ h ok =>
      (event broker).writeNewEvent (.submitted command order) rfl h ok) w hw

theorem keeps_submitPlans {J : PaperStore → Broker → Prop} (moves : Unmoved J)
    (event : ∀ broker, EventClosed service false (J · broker))
    (command : ∀ store broker row, J store broker →
      J { store with commands := store.commands ++ [row] } broker)
    (post : ∀ store broker message, J store broker → J store (Broker.post broker message))
    (submit : ∀ store broker request taken, J store broker →
      J store (Broker.submit broker request taken).2) (source : CanarySource)
    (binding : PaperBrokerBindingRow) (decision : PortfolioDecisionRow) (now : Instant)
    (plans : List CanaryOrderPlan) :
    Keeps (Holds J) (submitPlans service source binding decision now plans) := by
  refine Keeps.each fun plan _ => Keeps.bind (keeps_transact fun store _ _ store' h ok => ?_)
    fun _ => keeps_placeOrder moves event (fun _ _ _ _ h => post _ _ _ h)
      fun _ _ _ _ _ h => submit _ _ _ _ h
  rcases ensureCommand_ok ok with ⟨rfl, -⟩ | ⟨-, rfl, -⟩
  · exact h
  · exact command _ _ _ h

theorem keeps_submitPlan_sound (source : CanarySource) {binding} (hrun : binding.runId = runId)
    (decision : PortfolioDecisionRow) (now : Instant) (plan : CanaryOrderPlan) :
    Keeps (Holds fun store _ => store.Sound service runId)
      (submitPlan service source binding decision now plan) := by
  refine Keeps.bind (keeps_transact fun _ _ _ _ h ok => ?_) fun _ =>
    keeps_placeOrder (fun _ _ _ h => h) sound_quiet.event (fun _ _ _ _ h => h) fun _ _ _ _ _ h => h
  exact ensureCommand_sound
    (fun hvalid => submitRow_made hrun decision (validate_symbol hvalid) now) h ok

theorem syncStep_sound {w w'} {call : SyncCall} (h : w.store.Sound service runId)
    (ok : syncStep service runId w call = .ok w') :
    w'.store.Sound service runId := by
  cases ok
  refine sound_quiet.sync
    (sound_quiet.syncOnce sound_steady h fun o w1 decision plans hobserve hw1 _ => ?_)
  exact Keeps.each (fun plan _ =>
    keeps_submitPlan_sound call.source (observe_ok hobserve).run decision call.now plan) w1 hw1

theorem sound_of_run {init w taken} (run : Run (syncStep service runId) init taken w)
    (start : init.IsUntouched) :
    w.store.Sound service runId ∧ ∀ x ∈ taken, x.1.store.Sound service runId := by
  have hstart : init.store.Sound service runId := by
    rw [start.1]
    exact PaperStore.Sound.empty
  have hkeep : ∀ s call s', s.store.Sound service runId → syncStep service runId s call = .ok s' →
      s'.store.Sound service runId := fun _ _ _ => syncStep_sound
  exact ⟨run.inv hstart hkeep, fun x hx => (run.inv_taken hstart hkeep x hx).1⟩

theorem PaperStore.Sound.submit_key {store : PaperStore} (h : store.Sound service runId) {a}
    (ha : a ∈ store.commands) (hsubmit : a.commandType = .submit) :
    ∃ clientOrderId, a.clientOrderId = some clientOrderId ∧
      isCanaryId clientOrderId = true ∧
      a.idempotencyKey = "SUBMIT:" ++ a.bindingId ++ ":" ++ clientOrderId := by
  obtain ⟨⟨-, -, -, -, hkeyed⟩, -⟩ := h.commands a ha
  simp only [PaperBrokerCommandRow.Keyed, hsubmit] at hkeyed
  exact ⟨_, hkeyed.1, isCanaryId_deterministic _ _ _ _ _, hkeyed.2.2.2⟩

theorem PaperStore.Sound.bindingId_eq {store : PaperStore} (h : store.Sound service runId) {a}
    (ha : a ∈ store.commands) {binding} (hbinding : binding ∈ store.bindings) :
    a.bindingId = binding.bindingId := by
  obtain ⟨-, other, hother, hid⟩ := h.commands a ha
  have hsame := (h.binding other hother).symm.trans (h.binding binding hbinding)
  rw [← hid, Option.some.inj hsame]

theorem PaperStore.Sound.submit_unique {store : PaperStore} (h : store.Sound service runId) {a b}
    (ha : a ∈ store.commands) (hb : b ∈ store.commands) (hsa : a.commandType = .submit)
    (hsb : b.commandType = .submit) (hclient : a.clientOrderId = b.clientOrderId) : a = b := by
  obtain ⟨ida, hida, -, hkeya⟩ := h.submit_key ha hsa
  obtain ⟨idb, hidb, -, hkeyb⟩ := h.submit_key hb hsb
  obtain ⟨-, binding, hbinding, hid⟩ := h.commands b hb
  have hids : ida = idb := by
    rw [hida, hidb] at hclient
    exact Option.some.inj hclient
  refine h.keys a ha b hb ?_
  rw [hkeya, hkeyb, hids, h.bindingId_eq ha hbinding, hid]

end AdaptiveQuant
