import AdaptiveQuant.Runtime.CanarySound

/-! When an event is written. -/

namespace AdaptiveQuant

open Guard Effect List

/-- What the canary relies on in its digests: names are not empty, and tell their prefix and their
key. -/
structure Hashing.TellsApart (hash : Hashing) : Prop where
  named : ∀ tag values, hash.stableId tag values ≠ ""
  tag : ∀ tag tag' values values', '_' ∉ tag.toList → '_' ∉ tag'.toList →
    hash.stableId tag values = hash.stableId tag' values' → tag = tag'
  command : ∀ a b, hash.stableId "alpaca-paper-command" [.str a] =
    hash.stableId "alpaca-paper-command" [.str b] → a = b
  event : ∀ bindingId a b, hash.stableId "alpaca-paper-event" [.str bindingId, .str a] =
    hash.stableId "alpaca-paper-event" [.str bindingId, .str b] → a = b
  fill : ∀ bindingId a b, hash.stableId "alpaca-fill-activity" [.str bindingId, .str a] =
    hash.stableId "alpaca-fill-activity" [.str bindingId, .str b] → a = b
  order : ∀ runId decisionId decisionId' side side', ∀ symbol ∈ alpacaPaperAllowedSymbols,
    ∀ symbol' ∈ alpacaPaperAllowedSymbols,
    deterministicClientOrderId hash runId decisionId symbol side =
      deterministicClientOrderId hash runId decisionId' symbol' side' →
    symbol = symbol' ∧ side = side'

def timestampFailure : CanaryFailure :=
  .raised (valueError "Alpaca Paper event timestamps are inconsistent")

section Failures

variable {τ α : Type} {e : CanaryFailure}

theorem avoids_act {f : World τ → Except CanaryFailure α × World τ} (died : e ≠ .died)
    (h : ∀ w, (f w).1 ≠ .error e) : Effect.Avoids e (act f) := by
  intro w
  unfold act
  split
  · exact h w
  · exact fun heq => died (Except.error.inj heq).symm
  · exact h _

theorem avoids_transact {f : PaperStore → Except CanaryFailure (α × PaperStore)} (died : e ≠ .died)
    (h : ∀ store, f store ≠ .error e) : Effect.Avoids e (transact f) := by
  refine avoids_act died fun w => ?_
  have hstore := h w.store
  cases hf : f w.store with
  | ok result => exact nofun
  | error failure =>
    rw [hf] at hstore
    exact fun heq => hstore (by rw [Except.error.inj heq])

theorem avoids_transactEvents {f} (died : e ≠ .died) (h : ∀ store, f store ≠ .error e) :
    Effect.Avoids e (transactEvents f) := by
  refine avoids_transact died fun store => ?_
  have hstore := h store
  cases hf : f store with
  | ok result => exact nofun
  | error failure =>
    rw [hf] at hstore
    exact fun heq => hstore (by rw [Except.error.inj heq])

end Failures

theorem mapError_ne_error {ε δ α : Type} {x : Except ε α} {f : ε → δ} {e : δ}
    (h : ∀ e', x = .error e' → f e' ≠ e) : x.mapError f ≠ .error e := by
  cases x with
  | ok a => exact nofun
  | error e' => exact fun heq => h e' rfl (Except.error.inj heq)

theorem raised_ne_timestampFailure {α : Type} {x : Except Failure α}
    (h : Avoids (valueError "Alpaca Paper event timestamps are inconsistent") x) :
    x.mapError .raised ≠ .error timestampFailure := by
  refine mapError_ne_error fun failure hfailure heq => h ?_
  rw [hfailure, CanaryFailure.raised.inj heq]

theorem avoids_requireStrings (values : List (String × String)) :
    Avoids (valueError "Alpaca Paper event timestamps are inconsistent")
      (requireStrings values) := by
  refine avoids_raiseIf fun heq => ?_
  have hlist := congrArg (fun failure => failure.message.toList) heq
  simp [valueError] at hlist

theorem ensureCommand_ne_timestampFailure (service : CanaryService) (source : CanarySource)
    (row : PaperBrokerCommandRow) (store : PaperStore) :
    ensureCommand service source row store ≠ .error timestampFailure := by
  unfold ensureCommand
  split
  · exact nofun
  · refine raised_ne_timestampFailure (.bind ?_ fun _ => .bind ?_ fun _ => ?_)
    · refine .bind (avoids_requireStrings _) fun _ => .check (by decide) <| .check (by decide) <|
        .check (by decide) ?_
      unfold PaperBrokerCommandRow.validateType
      split
      · exact .check (by decide) <| avoids_raiseIf (by decide)
      · exact avoids_raiseIf (by decide)
    · refine .bind ?_ fun binding => .check (by decide) <| .check (by decide) ?_
      · unfold PaperStore.requiredBinding
        split
        · exact avoids_error nofun
        · exact avoids_ok _ _
      · split
        · exact avoids_error (by decide)
        · exact avoids_raiseIf (by decide)
    · split
      · exact .check (by decide) (avoids_ok _ _)
      · exact avoids_ok _ _

theorem requireStrings_eq_ok {values} {u : Unit} :
    requireStrings values = .ok u ↔ ∀ value ∈ values, value.2 ≠ "" := by
  simp only [requireStrings, raiseIf_eq_ok, not_not, Sequence.sortedBy_eq_nil,
    map_eq_nil_iff, filter_eq_nil_iff, decide_eq_true_eq]

section Stored

variable {service : CanaryService} {runId : String} {store : PaperStore}
  {binding : PaperBrokerBindingRow}

theorem PaperBrokerBindingRow.Made.named (h : binding.Made service runId) :
    binding.bindingId ≠ "" ∧ binding.runId ≠ "" ∧ service.paperManifestHash ≠ "" ∧
      service.codeVersion ≠ "" := by
  obtain ⟨-, -, hmanifest, hcode, hvalid⟩ := h
  simp only [PaperBrokerBindingRow.validate, bind_eq_ok, requireStrings_eq_ok,
    forall_mem_cons] at hvalid
  obtain ⟨-, ⟨hid, hrun, -, hconfig, hversion, -⟩, -⟩ := hvalid
  exact ⟨hid, hrun, hmanifest ▸ hconfig, hcode ▸ hversion⟩

theorem PaperStore.Sound.requiredBinding (h : store.Sound service runId)
    (hbinding : binding ∈ store.bindings) :
    store.requiredBinding binding.bindingId = .ok binding := by
  cases hfound : store.bindingById binding.bindingId with
  | none =>
    have hnone := List.find?_eq_none.mp hfound binding hbinding
    simp at hnone
  | some found =>
    have hmem : found ∈ store.bindings := mem_of_find?_eq_some hfound
    have hsame := (h.binding found hmem).symm.trans (h.binding binding hbinding)
    rw [PaperStore.requiredBinding, hfound, Option.some.inj hsame]

theorem PaperStore.Sound.requiredCommand (h : store.Sound service runId)
    (apart : service.hash.TellsApart) {command} (hcommand : command ∈ store.commands) :
    store.requiredCommand command.commandId = .ok command := by
  cases hfound : store.commandById command.commandId with
  | none =>
    have hnone := List.find?_eq_none.mp hfound command hcommand
    simp at hnone
  | some found =>
    have hmem : found ∈ store.commands := mem_of_find?_eq_some hfound
    have hid : found.commandId = command.commandId := by
      simpa using List.find?_some hfound
    obtain ⟨⟨-, -, -, hfoundId, -⟩, -⟩ := h.commands found hmem
    obtain ⟨⟨-, -, -, hcommandId, -⟩, -⟩ := h.commands command hcommand
    rw [hfoundId, hcommandId] at hid
    rw [PaperStore.requiredCommand, hfound,
      h.keys found hmem command hcommand (apart.command _ _ hid)]

end Stored

structure BrokerEvent.Follows (event : BrokerEvent) (command : PaperBrokerCommandRow) : Prop where
  client : event.clientOrderId ≠ none → command.clientOrderId ≠ none →
    event.clientOrderId = command.clientOrderId
  broker : event.brokerOrderId ≠ none → command.brokerOrderId ≠ none →
    event.brokerOrderId = command.brokerOrderId
  symbol : ∀ symbol ∈ event.symbol, symbol = command.symbol
  side : ∀ side ∈ event.side, side = command.side

/-- The event is one that the store takes, if its time is right. -/
structure BrokerEvent.Fits (store : PaperStore) (event : BrokerEvent) : Prop where
  status : event.status ≠ ""
  key : event.idempotencyKey ≠ ""
  symbol : ∀ symbol ∈ event.symbol, symbol ∈ alpacaPaperAllowedSymbols
  quantity : ∀ quantity ∈ event.quantity, 0 < quantity
  filled : ∀ quantity ∈ event.filledQuantity, 0 ≤ quantity
  price : ∀ price ∈ event.fillPrice, 0 < price
  client : (event.clientOrderId.getD "").length ≤ 128
  complete : event.eventType = .fillActivity → event.command ≠ none ∧ event.providerEventId ≠ none ∧
    event.brokerOrderId ≠ none ∧ event.symbol ≠ none ∧ event.side ≠ none ∧
    event.quantity ≠ none ∧ event.filledQuantity ≠ none ∧ event.fillPrice ≠ none
  command : ∀ command ∈ event.command, command ∈ store.commands ∧ event.Follows command

section Writing

variable {service : CanaryService} {runId : String} {store : PaperStore}
  {binding : PaperBrokerBindingRow} {event : BrokerEvent} {now : Instant}

theorem BrokerEvent.Fits.of_commands {store' : PaperStore} (h : event.Fits store)
    (commands : store'.commands = store.commands) : event.Fits store' :=
  { h with
    command := fun command hcommand => by
      rw [commands]
      exact h.command command hcommand }

theorem not_any_of_forall {α : Type} {p : α → Bool} {o : Option α}
    (h : ∀ a ∈ o, p a = false) : ¬o.any p = true := by
  cases o with
  | none => simp
  | some a => simpa using h a rfl

theorem BrokerEvent.Fits.validate (fits : event.Fits store) (apart : service.hash.TellsApart)
    (made : binding.Made service runId) :
    (event.row service binding now).validate = raiseIf (now < event.occurredAt)
      (valueError "Alpaca Paper event timestamps are inconsistent") := by
  obtain ⟨hid, hrun, hmanifest, hcode⟩ := made.named
  have hstrings : requireStrings [("event_id", (event.row service binding now).eventId),
      ("binding_id", (event.row service binding now).bindingId),
      ("run_id", (event.row service binding now).runId),
      ("status", (event.row service binding now).status),
      ("idempotency_key", (event.row service binding now).idempotencyKey),
      ("config_manifest_hash", (event.row service binding now).configManifestHash),
      ("code_version", (event.row service binding now).codeVersion)] = .ok () := by
    rw [requireStrings_eq_ok]
    simp only [forall_mem_cons, not_mem_nil, IsEmpty.forall_iff, implies_true, and_true]
    exact ⟨apart.named _ _, hid, hrun, fits.status, fits.key, hmanifest, hcode⟩
  have hcomplete : ¬((event.row service binding now).eventType = .fillActivity ∧
      ¬(event.row service binding now).isComplete) := by
    rintro ⟨htype, hmissing⟩
    obtain ⟨hcommand, hrest⟩ := fits.complete htype
    refine hmissing ⟨?_, hrest⟩
    simpa [BrokerEvent.row] using hcommand
  have htimes : ((event.row service binding now).availableAt <
      (event.row service binding now).occurredAt ∨ (event.row service binding now).createdAt <
      (event.row service binding now).availableAt) ↔ now < event.occurredAt :=
    or_iff_left (lt_irrefl now)
  have hclient : ¬128 < ((event.row service binding now).clientOrderId.getD "").length :=
    not_lt.mpr fits.client
  rw [PaperBrokerEventRow.validate, hstrings, ok_bind,
    raiseIf_neg _ (not_any_of_forall fun symbol h => by simpa using fits.symbol symbol h), ok_bind,
    raiseIf_neg _ (not_any_of_forall fun quantity h => by simpa using fits.quantity quantity h),
    ok_bind,
    raiseIf_neg _ (not_any_of_forall fun quantity h => by simpa using fits.filled quantity h),
    ok_bind,
    raiseIf_neg _ (not_any_of_forall fun price h => by simpa using fits.price price h), ok_bind,
    raiseIf_neg _ hclient, raiseIf_neg _ hcomplete]
  by_cases hlate : now < event.occurredAt
  · rw [raiseIf_pos _ (htimes.mpr hlate), raiseIf_pos _ hlate]
    rfl
  · rw [raiseIf_neg _ (mt htimes.mp hlate), raiseIf_neg _ hlate]
    rfl

theorem BrokerEvent.Follows.check {command} (follows : event.Follows command)
    (made : command.Made service runId) (bound : command.bindingId = binding.bindingId)
    (hrun : binding.runId = runId) (now : Instant) :
    PaperStore.checkEventCommand (event.row service binding now) command = .ok () := by
  obtain ⟨hcommandRun, hmanifest, hcode, -⟩ := made
  simp only [PaperStore.checkEventCommand, ok_iff]
  refine ⟨?_, ?_, ?_, ?_, ?_, ?_⟩
  · rw [not_or, not_not, not_not]
    exact ⟨bound, hcommandRun.trans hrun.symm⟩
  · rw [not_or, not_not, not_not]
    exact ⟨hmanifest, hcode⟩
  · rintro ⟨hevent, hcommand, hdiffer⟩
    exact hdiffer (follows.client hevent hcommand)
  · rintro ⟨hevent, hcommand, hdiffer⟩
    exact hdiffer (follows.broker hevent hcommand)
  · exact not_any_of_forall fun symbol h => by simpa using follows.symbol symbol h
  · exact not_any_of_forall fun side h => by simpa using follows.side side h

theorem BrokerEvent.Fits.checkEvent (fits : event.Fits store) (apart : service.hash.TellsApart)
    (sound : store.Sound service runId) (hbinding : binding ∈ store.bindings) :
    store.checkEvent (event.row service binding now) = .ok () := by
  obtain ⟨hrun, -, hmanifest, hcode, -⟩ := sound.bindings binding hbinding
  have hrow : store.requiredBinding (event.row service binding now).bindingId = .ok binding :=
    sound.requiredBinding hbinding
  rw [PaperStore.checkEvent, hrow, ok_bind, raiseIf_neg _ (fun hdiffer => hdiffer rfl), ok_bind,
    raiseIf_neg _ (by rw [not_or, not_not, not_not]; exact ⟨hmanifest, hcode⟩), ok_bind]
  cases hcommand : event.command with
  | none => simp [BrokerEvent.row, hcommand]
  | some command =>
    obtain ⟨hmem, hfollows⟩ := fits.command command hcommand
    simp only [BrokerEvent.row, hcommand, Option.map_some]
    rw [sound.requiredCommand apart hmem, ok_bind]
    exact hfollows.check (sound.commands command hmem).1 (sound.bindingId_eq hmem hbinding) hrun
      now

theorem PaperStore.Sound.eventId_inj (sound : store.Sound service runId)
    (apart : service.hash.TellsApart) (hbinding : binding ∈ store.bindings) {stored}
    (hstored : stored ∈ store.events)
    (hid : stored.eventId = (event.row service binding now).eventId) :
    stored.bindingId = binding.bindingId ∧ stored.idempotencyKey = event.idempotencyKey := by
  obtain ⟨hname, other, hother, hbound⟩ := sound.events stored hstored
  have hsame := (sound.binding other hother).symm.trans (sound.binding binding hbinding)
  rw [Option.some.inj hsame] at hbound
  rw [hname, ← hbound] at hid
  exact ⟨hbound.symm, apart.event _ _ _ hid⟩

theorem PaperStore.Sound.eventLike_none (sound : store.Sound service runId)
    (apart : service.hash.TellsApart) (hbinding : binding ∈ store.bindings)
    (new : ¬store.eventExists binding.bindingId event.idempotencyKey)
    (made : SyncEvent service binding now event) :
    store.eventLike (event.row service binding now) = none := by
  rw [PaperStore.eventLike, Option.or_eq_none_iff, Option.or_eq_none_iff]
  refine ⟨?_, ?_, ?_⟩
  · rw [List.find?_eq_none]
    intro stored hstored hid
    exact new ⟨stored, hstored, sound.eventId_inj apart hbinding hstored (by simpa using hid)⟩
  · rw [List.find?_eq_none]
    intro stored hstored hkey
    rw [decide_eq_true_eq] at hkey
    exact new ⟨stored, hstored, hkey⟩
  · cases hprovider : event.providerEventId with
    | none => simp [BrokerEvent.row, hprovider]
    | some id =>
      simp only [BrokerEvent.row, hprovider, reduceCtorEq, if_false]
      rw [List.find?_eq_none]
      intro stored hstored hfound
      rw [decide_eq_true_eq] at hfound
      refine new ⟨stored, hstored, hfound.1, ?_⟩
      rw [sound.fills stored hstored id hfound.2, hfound.1, made.provider id hprovider]

theorem BrokerEvent.Fits.writeNewEvent (fits : event.Fits store) (apart : service.hash.TellsApart)
    (sound : store.Sound service runId) (hbinding : binding ∈ store.bindings)
    (made : SyncEvent service binding now event) :
    AdaptiveQuant.writeNewEvent service binding now event store =
      if store.eventExists binding.bindingId event.idempotencyKey then .ok store
      else if now < event.occurredAt then .error timestampFailure
      else .ok { store with events := store.events ++ [event.row service binding now] } := by
  unfold AdaptiveQuant.writeNewEvent
  by_cases hstored : store.eventExists binding.bindingId event.idempotencyKey
  · rw [if_pos hstored, if_pos hstored]
  · rw [if_neg hstored, if_neg hstored, AdaptiveQuant.writeEvent, PaperStore.appendEvent,
      fits.validate apart (sound.bindings binding hbinding)]
    by_cases hlate : now < event.occurredAt
    · rw [raiseIf_pos _ hlate, if_pos hlate]
      rfl
    · rw [raiseIf_neg _ hlate, if_neg hlate, ok_bind, fits.checkEvent apart sound hbinding, ok_bind,
        sound.eventLike_none apart hbinding hstored made]
      rfl

end Writing

end AdaptiveQuant
