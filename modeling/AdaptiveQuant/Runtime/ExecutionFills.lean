import AdaptiveQuant.Execution.PendingOrders
import AdaptiveQuant.Runtime.ExecutionCycle
import AdaptiveQuant.Runtime.PlannedBuys
import AdaptiveQuant.Settlement.Conservation

/-! What holds in every execution cycle. -/

namespace AdaptiveQuant.Q1Execution

open Guard Sequence Settlement List

variable {hash : Hashing} {ctx : ExecutionContext} {reads : ExecutionReads}

abbrev idOf (aggregate : OrderAggregate) : String := aggregate.order.orderIntentId

theorem BookOrder.descriptor_id (order : BookOrder) :
    order.descriptor.orderIntentId = order.intent.val.orderIntentId :=
  congrArg (·.orderIntentId) order.same

theorem orderById_ok {book} {orderIntentId : String} {order : BookOrder}
    (h : orderById book orderIntentId = .ok order) :
    order ∈ book.orders ∧ order.intent.val.orderIntentId = orderIntentId := by
  unfold orderById at h
  split at h
  · rename_i found hfind
    obtain rfl := Except.ok.inj h
    exact ⟨mem_of_find?_eq_some hfind, by simpa using List.find?_some hfind⟩
  · cases h

theorem orderById_descriptor {book order} {entry : BookOrder}
    (h : orderById book order.orderIntentId = .ok entry) (mem : order ∈ book.descriptors) :
    entry.descriptor = order := by
  obtain ⟨other, hother, rfl⟩ := mem_map.mp mem
  obtain ⟨hentry, hid⟩ := orderById_ok h
  rw [other.descriptor_id] at hid
  rw [inj_on_of_nodup_map book.unique hentry hother hid]

theorem Q1OrderBook.descriptors_nodup (book : Q1OrderBook) :
    (book.descriptors.map (·.orderIntentId)).Nodup := by
  have hids : book.descriptors.map (·.orderIntentId) =
      book.orders.map (·.intent.val.orderIntentId) := by
    rw [descriptors, map_map]
    exact map_congr_left fun order _ => order.descriptor_id
  rw [hids]
  exact book.unique

/-- What is left of the day's volume for an arm in a symbol when the cycle begins. -/
def sessionCapacity (ctx : ExecutionContext) (reads : ExecutionReads) (arm : Q1ArmId)
    (symbol : String) : Decimal :=
  advCapacity ctx reads ((reads.completedAdvShares symbol).getD 0) arm.value symbol

structure CandidateOf (ctx : ExecutionContext) (reads : ExecutionReads)
    (candidate : QuoteCandidate) : Prop where
  id : candidate.intent.val.orderIntentId = idOf candidate.aggregate
  capacity : candidate.aggregate.order ∈ reads.book.descriptors →
    candidate.remainingAdvCapacity =
      sessionCapacity ctx reads candidate.arm candidate.intent.val.symbol

theorem quoteOrder_cases {acc acc' : Gathered} {aggregate} {entry : BookOrder}
    (hentry : orderById reads.book (idOf aggregate) = .ok entry)
    (h : quoteOrder ctx reads acc aggregate entry.intent = .ok acc') :
    (∃ reason quoteId, acc' = acc.block (idOf aggregate) reason quoteId) ∨
      ∃ candidate, candidate.aggregate = aggregate ∧ CandidateOf ctx reads candidate ∧
        acc' = acc.add candidate := by
  simp only [quoteOrder, bind_eq_ok] at h
  obtain ⟨cursor, -, h⟩ := h
  split at h
  · exact .inl ⟨_, _, (Except.ok.inj h).symm⟩
  · split at h
    · exact .inl ⟨_, _, (Except.ok.inj h).symm⟩
    · rename_i quote _ adv hadv
      refine .inr ⟨_, rfl, ⟨(orderById_ok hentry).2, fun mem => ?_⟩, (Except.ok.inj h).symm⟩
      have hsame : aggregate.order.toOrderDescriptorFields = descriptorFields entry.intent := by
        rw [← orderById_descriptor hentry mem]
        exact entry.same
      have harm : aggregate.order.armId = entry.intent.val.armId.value := congrArg (·.armId) hsame
      have hsymbol : aggregate.order.symbol = entry.intent.val.symbol := congrArg (·.symbol) hsame
      show advCapacity ctx reads adv aggregate.order.armId aggregate.order.symbol =
        sessionCapacity ctx reads entry.intent.val.armId entry.intent.val.symbol
      rw [sessionCapacity, ← hsymbol, hadv, Option.getD_some, harm]

variable {expiredIds : List String}

theorem gatherOrder_cases {acc acc' : Gathered} {aggregate}
    (h : gatherOrder ctx reads expiredIds acc aggregate = .ok acc') :
    acc' = acc ∨ idOf aggregate ∉ expiredIds ∧
      ((∃ reason quoteId, acc' = acc.block (idOf aggregate) reason quoteId) ∨
        ∃ candidate, candidate.aggregate = aggregate ∧ CandidateOf ctx reads candidate ∧
          acc' = acc.add candidate) := by
  simp only [gatherOrder, bind_eq_ok] at h
  obtain ⟨entry, hentry, h⟩ := h
  split at h
  · exact .inl (Except.ok.inj h).symm
  · rename_i hlive
    split at h
    · exact .inr ⟨hlive, .inl ⟨_, _, (Except.ok.inj h).symm⟩⟩
    · split at h
      · exact .inl (Except.ok.inj h).symm
      · split at h
        · exact .inr ⟨hlive, .inl ⟨_, _, (Except.ok.inj h).symm⟩⟩
        · exact .inr ⟨hlive, quoteOrder_cases hentry h⟩

structure GatherInv (ctx : ExecutionContext) (reads : ExecutionReads) (expiredIds : List String)
    (seen : List OrderAggregate) (acc : Gathered) : Prop where
  made : ∀ c ∈ acc.candidates, CandidateOf ctx reads c
  sublist : (acc.candidates.map (·.aggregate)).Sublist seen
  live : ∀ c ∈ acc.candidates, idOf c.aggregate ∉ expiredIds
  blockedLive : ∀ key ∈ acc.blockedReasons.keys, key ∉ expiredIds
  blockedSeen : ∀ key ∈ acc.blockedReasons.keys, key ∈ seen.map idOf
  apart : (seen.map idOf).Nodup → ∀ c ∈ acc.candidates, idOf c.aggregate ∉ acc.blockedReasons.keys

variable {pending : List OrderAggregate}

theorem gather_inv {acc : Gathered}
    (h : pending.foldlM (gatherOrder ctx reads expiredIds) ⟨[], .empty⟩ = .ok acc) :
    GatherInv ctx reads expiredIds pending acc := by
  have hnone : ∀ key, key ∉ (Dict.empty : Dict String (String × Option String)).keys :=
    fun _ => not_mem_nil
  refine foldlM_induction h (GatherInv ctx reads expiredIds)
    ⟨by simp, List.Sublist.slnil, by simp, fun key hkey => absurd hkey (hnone key),
      fun key hkey => absurd hkey (hnone key), by simp⟩ ?_
  intro seen aggregate acc acc' inv hstep
  have hseen : seen.Sublist (seen ++ [aggregate]) := sublist_append_left _ _
  have hsplit : ((seen ++ [aggregate]).map idOf).Nodup →
      (seen.map idOf).Nodup ∧ idOf aggregate ∉ seen.map idOf := by
    intro hnodup
    rw [map_append, nodup_append] at hnodup
    exact ⟨hnodup.1, fun hmem => hnodup.2.2 _ hmem _ mem_cons_self rfl⟩
  rcases gatherOrder_cases hstep with rfl | ⟨hlive, ⟨reason, quoteId, rfl⟩ | ⟨c, rfl, hmade, rfl⟩⟩
  · exact
      { made := inv.made
        sublist := inv.sublist.trans hseen
        live := inv.live
        blockedLive := inv.blockedLive
        blockedSeen := fun key hkey => (hseen.map _).subset (inv.blockedSeen key hkey)
        apart := fun hnodup => inv.apart (hsplit hnodup).1 }
  · refine
      { made := inv.made
        sublist := inv.sublist.trans hseen
        live := inv.live
        blockedLive := fun key hkey => ?_
        blockedSeen := fun key hkey => ?_
        apart := fun hnodup c hc => ?_ }
    · rcases Dict.mem_keys_set.mp hkey with rfl | hold
      · exact hlive
      · exact inv.blockedLive key hold
    · rcases Dict.mem_keys_set.mp hkey with rfl | hold
      · exact mem_map_of_mem (by simp)
      · exact (hseen.map _).subset (inv.blockedSeen key hold)
    · have hold := inv.apart (hsplit hnodup).1 c hc
      have hmem : idOf c.aggregate ∈ seen.map idOf :=
        mem_map_of_mem (inv.sublist.subset (mem_map_of_mem hc))
      refine fun hkey => (Dict.mem_keys_set.mp hkey).elim (fun heq => ?_) hold
      exact (hsplit hnodup).2 (heq ▸ hmem)
  · refine
      { made := fun other hother => ?_
        sublist := ?_
        live := fun other hother => ?_
        blockedLive := inv.blockedLive
        blockedSeen := fun key hkey => (hseen.map _).subset (inv.blockedSeen key hkey)
        apart := fun hnodup other hother => ?_ }
    · rcases mem_append.mp hother with hother | hother
      · exact inv.made other hother
      · exact mem_singleton.mp hother ▸ hmade
    · show ((acc.candidates ++ [c]).map (·.aggregate)).Sublist _
      rw [map_append]
      exact inv.sublist.append (List.Sublist.refl _)
    · rcases mem_append.mp hother with hother | hother
      · exact inv.live other hother
      · exact mem_singleton.mp hother ▸ hlive
    · rcases mem_append.mp hother with hother | hother
      · exact inv.apart (hsplit hnodup).1 other hother
      · rw [mem_singleton.mp hother]
        exact fun hkey => (hsplit hnodup).2 (inv.blockedSeen _ hkey)

theorem dropSkewed_inv {acc : Gathered} (inv : GatherInv ctx reads expiredIds pending acc) :
    GatherInv ctx reads expiredIds pending (dropSkewed ctx acc) := by
  have hkept : (dropSkewed ctx acc).candidates.Sublist acc.candidates := filter_sublist
  have hkeys : ∀ key ∈ (dropSkewed ctx acc).blockedReasons.keys, key ∈ acc.blockedReasons.keys ∨
      ∃ c ∈ acc.candidates, skewBlocked ctx acc.candidates c = true ∧ idOf c.aggregate = key := by
    intro key hkey
    rcases (Dict.mem_keys_foldl_set _ _).mp hkey with ⟨c, hc, hid⟩ | hold
    · obtain ⟨hmem, hskewed⟩ := mem_filter.mp hc
      exact .inr ⟨c, hmem, hskewed, (inv.made c hmem).id ▸ hid⟩
    · exact .inl hold
  refine
    { made := fun c hc => inv.made c (hkept.subset hc)
      sublist := (hkept.map _).trans inv.sublist
      live := fun c hc => inv.live c (hkept.subset hc)
      blockedLive := fun key hkey => ?_
      blockedSeen := fun key hkey => ?_
      apart := fun hnodup c hc hkey => ?_ }
  · rcases hkeys key hkey with hold | ⟨c, hc, -, rfl⟩
    · exact inv.blockedLive key hold
    · exact inv.live c hc
  · rcases hkeys key hkey with hold | ⟨c, hc, -, rfl⟩
    · exact inv.blockedSeen key hold
    · exact mem_map_of_mem (inv.sublist.subset (mem_map_of_mem hc))
  · obtain ⟨hmem, hfresh⟩ := mem_filter.mp hc
    rcases hkeys _ hkey with hold | ⟨other, hother, hskewed, hid⟩
    · exact inv.apart hnodup c hmem hold
    · have hids : (acc.candidates.map fun c => idOf c.aggregate).Nodup := by
        have hsub := inv.sublist.map idOf
        rw [map_map] at hsub
        exact hnodup.sublist hsub
      rw [inj_on_of_nodup_map hids hother hmem hid] at hskewed
      rw [hskewed] at hfresh
      cases hfresh

variable {mutations : List PreparedMutation}

theorem prepareExpiryMutations_ids {expired}
    (h : prepareExpiryMutations hash ctx reads expired = .ok mutations) :
    mutations.map (·.event.orderIntentId) = expired.map (·.orderIntentId) := by
  refine map_of_mapM_eq_ok (fun provisional mutation hstep => ?_) h
  simp only [ok_iff] at hstep
  obtain ⟨order, horder, event, hevent, aggregate, -, rfl⟩ := hstep
  exact (append_id hevent).trans (order.descriptor_id.trans (orderById_ok horder).2)

variable {blockedReasons : Dict String (String × Option String)}

theorem prepareBlockedMutations_ids
    (h : prepareBlockedMutations hash ctx reads pending blockedReasons = .ok mutations) :
    mutations.map (·.event.orderIntentId) =
      (blockedOrders pending blockedReasons).map fun blocked => idOf blocked.1 := by
  refine map_of_mapM_eq_ok (fun blocked mutation hstep => ?_) h
  simp only [ok_iff] at hstep
  obtain ⟨order, -, event, hevent, rfl⟩ := hstep
  exact append_id hevent

theorem blockedOrders_ids (pending : List OrderAggregate)
    (blockedReasons : Dict String (String × Option String)) :
    (blockedOrders pending blockedReasons).map (·.1) =
      pending.filter fun a => decide (idOf a ∈ blockedReasons.keys) := by
  induction pending with
  | nil => rfl
  | cons a rest ih =>
    unfold blockedOrders at ih ⊢
    cases h : blockedReasons.get? a.order.orderIntentId with
    | none =>
      have hkey : idOf a ∉ blockedReasons.keys := Dict.get?_eq_none.mp h
      rw [filterMap_cons_none (by rw [h]; rfl), ih, filter_cons_of_neg (by simpa using hkey)]
    | some reason =>
      have hkey : idOf a ∈ blockedReasons.keys := Dict.mem_keys.mpr ⟨reason, h⟩
      rw [filterMap_cons_some (b := (a, reason)) (by rw [h]; rfl), map_cons, ih,
        filter_cons_of_pos (by simpa using hkey)]

def executions (mutations : List PreparedMutation) : List Execution :=
  mutations.filterMap (·.execution)

def armExecutions (mutations : List PreparedMutation) (arm : Q1ArmId) : List Execution :=
  (executions mutations).filter (·.fill.armId = arm)

def filledQuantity (mutations : List PreparedMutation) (arm : Q1ArmId)
    (symbol : String) : Decimal :=
  (((armExecutions mutations arm).filter (·.fill.symbol = symbol)).map (·.fill.quantity)).sum

def lastState (start : Q1ArmState) (taken : List Execution) : Q1ArmState :=
  (taken.getLast?.map (·.stateAfter)).getD start

def foldFills (start : Q1ArmState) (taken : List Execution) : Except Failure Q1ArmState :=
  taken.foldlM (fun state execution => stateAfter state execution.fill execution.settlementEvent)
    start

def Folds (start : Q1ArmState) (taken : List Execution) : Prop :=
  ∀ n, foldFills start (taken.take n) = .ok (lastState start (taken.take n))

theorem executions_append (mutations : List PreparedMutation) (m : PreparedMutation) :
    executions (mutations ++ [m]) = executions mutations ++ m.execution.toList := by
  unfold executions
  rw [filterMap_append]
  cases h : m.execution with
  | none => simp [h]
  | some e => simp [h]

variable {m : PreparedMutation}

theorem armExecutions_append_none (h : m.execution = none) (arm : Q1ArmId) :
    armExecutions (mutations ++ [m]) arm = armExecutions mutations arm := by
  rw [armExecutions, executions_append, h, Option.toList_none, append_nil]
  rfl

theorem armExecutions_append_some
    {execution : Execution} (h : m.execution = some execution) (arm : Q1ArmId) :
    armExecutions (mutations ++ [m]) arm =
      armExecutions mutations arm ++ if execution.fill.armId = arm then [execution] else [] := by
  rw [armExecutions, executions_append, h, Option.toList_some, filter_append]
  by_cases harm : execution.fill.armId = arm
  · simp [harm, armExecutions]
  · simp [harm, armExecutions]

theorem lastState_append (start : Q1ArmState) (taken : List Execution) (execution : Execution) :
    lastState start (taken ++ [execution]) = execution.stateAfter := by
  simp [lastState]

theorem Folds.append {start : Q1ArmState} {taken : List Execution} {execution : Execution}
    (h : Folds start taken) (step : stateAfter (lastState start taken) execution.fill
      execution.settlementEvent = .ok execution.stateAfter) :
    Folds start (taken ++ [execution]) := by
  intro n
  by_cases hn : n ≤ taken.length
  · rw [take_append_of_le_length hn]
    exact h n
  · have hall : (taken ++ [execution]).take n = taken ++ [execution] :=
      take_of_length_le (by rw [length_append, length_singleton]; omega)
    have hfold := h taken.length
    rw [take_length] at hfold
    rw [hall, lastState_append, foldFills, foldlM_concat_eq_ok]
    exact ⟨_, hfold, step⟩

structure FilledStep (ctx : ExecutionContext) (acc : FillLoop) (candidate : QuoteCandidate)
    (state : Q1ArmState) (execution : Execution) : Prop where
  working : acc.workingStates.get? candidate.arm = some state
  arm : execution.fill.armId = candidate.arm
  symbol : execution.fill.symbol = candidate.intent.val.symbol
  after : stateAfter state execution.fill execution.settlementEvent = .ok execution.stateAfter
  within : execution.fill.quantity ≤
    acc.remainingCap.getD (candidate.arm, candidate.intent.val.symbol)
      candidate.remainingAdvCapacity

def capWith (acc : FillLoop) (candidate : QuoteCandidate) :
    Dict (Q1ArmId × String) Decimal :=
  acc.remainingCap.set (candidate.arm, candidate.intent.val.symbol)
    (acc.remainingCap.getD (candidate.arm, candidate.intent.val.symbol)
      candidate.remainingAdvCapacity)

variable {acc acc' : FillLoop} {candidate : QuoteCandidate}

theorem blockWith_ok {reason : String} {eventType : OrderEventType}
    (h : blockWith hash ctx reads acc candidate reason eventType = .ok acc') :
    ∃ m, m.execution = none ∧ m.event.orderIntentId = idOf candidate.aggregate ∧
      m.event.eventType = eventType ∧ acc' = acc.add m := by
  simp only [blockWith, blockedCandidate, ok_iff] at h
  obtain ⟨_, ⟨event, hevent, rfl⟩, rfl⟩ := h
  exact ⟨_, rfl, append_id hevent, (append_fields hevent).1, rfl⟩

theorem q1Fill_ok {economics} {fill : Q1Fill} (h : q1Fill hash ctx candidate economics = .ok fill) :
    fill.armId = candidate.arm ∧ fill.symbol = candidate.intent.val.symbol ∧
      fill.side = candidate.intent.val.side ∧ FilledAs fill.toFill economics := by
  simp only [q1Fill, bind_eq_ok] at h
  obtain ⟨fiveBps, -, tenBps, -, -, -, h⟩ := h
  split at h
  · simp only [ok_iff] at h
    obtain ⟨-, -, rfl⟩ := h
    exact ⟨rfl, rfl, rfl, rfl, rfl, rfl⟩
  · cases h

inductive FillMoves (ctx : ExecutionContext) (acc : FillLoop) (candidate : QuoteCandidate) :
    FillLoop → Prop
  | blocked (cap : Dict (Q1ArmId × String) Decimal) (m : PreparedMutation)
      (kept : cap = acc.remainingCap ∨ cap = capWith acc candidate)
      (plain : m.execution = none) (kind : m.event.eventType.isFill = false)
      (id : m.event.orderIntentId = idOf candidate.aggregate) :
      FillMoves ctx acc candidate ⟨acc.workingStates, cap, acc.result ++ [m]⟩
  | filled (state : Q1ArmState) (execution : Execution) (m : PreparedMutation)
      (step : FilledStep ctx acc candidate state execution)
      (carries : m.execution = some execution) (kind : m.event.eventType.isFill = true)
      (id : m.event.orderIntentId = idOf candidate.aggregate) :
      FillMoves ctx acc candidate ⟨acc.workingStates.set candidate.arm execution.stateAfter,
        (capWith acc candidate).set (candidate.arm, candidate.intent.val.symbol)
          (acc.remainingCap.getD (candidate.arm, candidate.intent.val.symbol)
            candidate.remainingAdvCapacity - execution.fill.quantity),
        acc.result ++ [m]⟩

theorem fillCandidate_moves (h : fillCandidate hash ctx reads acc candidate = .ok acc') :
    FillMoves ctx acc candidate acc' := by
  unfold fillCandidate at h
  split at h
  · obtain ⟨m, hplain, hid, hkind, rfl⟩ := blockWith_ok h
    exact .blocked _ m (.inl rfl) hplain (by rw [hkind]; rfl) hid
  · rename_i state hstate
    simp only [bind_eq_ok] at h
    obtain ⟨executable, -, h⟩ := h
    split at h
    · obtain ⟨m, hplain, hid, hkind, rfl⟩ := blockWith_ok h
      exact .blocked _ m (.inr rfl) hplain (by rw [hkind]; rfl) hid
    · unfold priceCandidate at h
      split at h
      · rename_i economics heconomics
        simp only [fillWith, ok_iff] at h
        obtain ⟨execution, hexecution, event, hevent, rfl⟩ := h
        simp only [executeCandidate, ok_iff] at hexecution
        obtain ⟨-, fill, hfill, settled, -, after, hafter, rfl⟩ := hexecution
        obtain ⟨harm, hsymbol, -, hfilled⟩ := q1Fill_ok hfill
        have hwithin := (buildQ1FillEconomics_ok heconomics).within_adv
        rw [← hfilled.quantity] at hwithin ⊢
        refine .filled state _ _ ⟨hstate, harm, hsymbol, hafter, hwithin⟩ rfl ?_ (append_id hevent)
        rw [(append_fields hevent).1]
        unfold fillEvent
        dsimp only
        split <;> rfl
      · split at h
        · obtain ⟨m, hplain, hid, hkind, rfl⟩ := blockWith_ok h
          exact .blocked _ m (.inr rfl) hplain (by rw [hkind]; rfl) hid
        · obtain ⟨m, hplain, hid, hkind, rfl⟩ := blockWith_ok h
          exact .blocked _ m (.inr rfl) hplain (by rw [hkind]; rfl) hid
        · cases h

def CapacityLeft (ctx : ExecutionContext) (reads : ExecutionReads) (acc : FillLoop)
    (arm : Q1ArmId) (symbol : String) : Prop :=
  acc.remainingCap.get? (arm, symbol) = none ∧ filledQuantity acc.result arm symbol = 0 ∨
    ∃ left, acc.remainingCap.get? (arm, symbol) = some left ∧ 0 ≤ left ∧
      filledQuantity acc.result arm symbol + left = sessionCapacity ctx reads arm symbol

theorem sessionCapacity_nonneg (arm : Q1ArmId) (symbol : String) :
    0 ≤ sessionCapacity ctx reads arm symbol := le_max_left _ _

theorem CapacityLeft.filled_le {arm : Q1ArmId} {symbol : String}
    (h : CapacityLeft ctx reads acc arm symbol) :
    filledQuantity acc.result arm symbol ≤ sessionCapacity ctx reads arm symbol := by
  rcases h with ⟨-, hzero⟩ | ⟨left, -, hleft, hsum⟩
  · rw [hzero]
    exact sessionCapacity_nonneg arm symbol
  · linarith

theorem CapacityLeft.getD (h : CapacityLeft ctx reads acc candidate.arm candidate.intent.val.symbol)
    (capacity : candidate.remainingAdvCapacity =
      sessionCapacity ctx reads candidate.arm candidate.intent.val.symbol) :
    let left := acc.remainingCap.getD (candidate.arm, candidate.intent.val.symbol)
      candidate.remainingAdvCapacity
    0 ≤ left ∧ filledQuantity acc.result candidate.arm candidate.intent.val.symbol + left =
      sessionCapacity ctx reads candidate.arm candidate.intent.val.symbol := by
  rcases h with ⟨hnone, hzero⟩ | ⟨left, hsome, hleft, hsum⟩
  · dsimp only
    rw [Dict.getD, hnone, Option.getD_none, hzero, zero_add, capacity]
    exact ⟨sessionCapacity_nonneg _ _, rfl⟩
  · dsimp only
    rw [Dict.getD_of_get? hsome]
    exact ⟨hleft, hsum⟩

theorem filledQuantity_append_none (h : m.execution = none) (arm : Q1ArmId) (symbol : String) :
    filledQuantity (mutations ++ [m]) arm symbol = filledQuantity mutations arm symbol := by
  rw [filledQuantity, armExecutions_append_none h]
  rfl

theorem filledQuantity_append_some {execution : Execution} (h : m.execution = some execution)
    (arm : Q1ArmId) (symbol : String) :
    filledQuantity (mutations ++ [m]) arm symbol = filledQuantity mutations arm symbol +
      if (arm, symbol) = (execution.fill.armId, execution.fill.symbol) then execution.fill.quantity
      else 0 := by
  rw [filledQuantity, armExecutions_append_some h]
  by_cases harm : execution.fill.armId = arm
  · by_cases hsymbol : execution.fill.symbol = symbol
    · simp [harm, hsymbol, filledQuantity]
    · simp [harm, hsymbol, Ne.symm hsymbol, filledQuantity]
  · simp [harm, Ne.symm harm, filledQuantity]

theorem capWith_get? (acc : FillLoop) (candidate : QuoteCandidate) (key : Q1ArmId × String) :
    (capWith acc candidate).get? key =
      if key = (candidate.arm, candidate.intent.val.symbol) then
        some (acc.remainingCap.getD (candidate.arm, candidate.intent.val.symbol)
          candidate.remainingAdvCapacity)
      else acc.remainingCap.get? key := Dict.get?_set _ _ _ _

theorem FillMoves.capacityLeft (moves : FillMoves ctx acc candidate acc')
    (capacity : candidate.remainingAdvCapacity =
      sessionCapacity ctx reads candidate.arm candidate.intent.val.symbol)
    (h : ∀ arm symbol, CapacityLeft ctx reads acc arm symbol) (arm : Q1ArmId)
    (symbol : String) : CapacityLeft ctx reads acc' arm symbol := by
  obtain ⟨hleft, hsum⟩ := (h candidate.arm candidate.intent.val.symbol).getD capacity
  cases moves with
  | blocked cap m kept plain kind id =>
    unfold CapacityLeft
    rw [filledQuantity_append_none plain]
    rcases kept with rfl | rfl
    · exact h arm symbol
    · rw [capWith_get?]
      split
      · rename_i hkey
        obtain ⟨rfl, rfl⟩ := Prod.mk.inj hkey
        exact .inr ⟨_, rfl, hleft, hsum⟩
      · exact h arm symbol
  | filled state execution m step carries kind id =>
    have hwithin := step.within
    unfold CapacityLeft
    rw [filledQuantity_append_some carries, step.arm, step.symbol, Dict.get?_set, capWith_get?]
    split
    · rename_i hkey
      obtain ⟨rfl, rfl⟩ := Prod.mk.inj hkey
      exact .inr ⟨_, rfl, by linarith, by linarith⟩
    · rw [add_zero]
      exact h arm symbol

structure StatesFold (reads : ExecutionReads) (acc : FillLoop) : Prop where
  unheld : ∀ arm, reads.states.get? arm = none →
    acc.workingStates.get? arm = none ∧ armExecutions acc.result arm = []
  held : ∀ arm start, reads.states.get? arm = some start →
    acc.workingStates.get? arm = some (lastState start (armExecutions acc.result arm)) ∧
      Folds start (armExecutions acc.result arm)

theorem FillMoves.statesFold (moves : FillMoves ctx acc candidate acc') (h : StatesFold reads acc) :
    StatesFold reads acc' := by
  cases moves with
  | blocked cap m kept plain kind id =>
    refine ⟨fun arm hnone => ?_, fun arm start hstart => ?_⟩
    · rw [armExecutions_append_none plain]
      exact h.unheld arm hnone
    · rw [armExecutions_append_none plain]
      exact h.held arm start hstart
  | filled state execution m step carries kind id =>
    refine ⟨fun arm hnone => ?_, fun arm start hstart => ?_⟩
    · have hworking := (h.unheld arm hnone).1
      have hother : arm ≠ candidate.arm := by
        rintro rfl
        rw [step.working] at hworking
        cases hworking
      rw [armExecutions_append_some carries, if_neg (step.arm ▸ Ne.symm hother), append_nil,
        Dict.get?_set, if_neg hother]
      exact h.unheld arm hnone
    · obtain ⟨hworking, hfolds⟩ := h.held arm start hstart
      rw [armExecutions_append_some carries, step.arm, Dict.get?_set]
      by_cases hsame : arm = candidate.arm
      · subst hsame
        obtain rfl : state = lastState start (armExecutions acc.result candidate.arm) :=
          Option.some.inj (step.working.symm.trans hworking)
        rw [if_pos rfl, if_pos rfl, lastState_append]
        exact ⟨rfl, hfolds.append step.after⟩
      · rw [if_neg hsame, if_neg (Ne.symm hsame), append_nil]
        exact ⟨hworking, hfolds⟩

structure FillInv (ctx : ExecutionContext) (reads : ExecutionReads) (seen : List QuoteCandidate)
    (acc : FillLoop) : Prop where
  ids : acc.result.map (·.event.orderIntentId) = seen.map fun c => idOf c.aggregate
  kinds : ∀ m ∈ acc.result, m.event.eventType.isFill = m.execution.isSome
  capacity : (∀ c ∈ seen, c.remainingAdvCapacity =
    sessionCapacity ctx reads c.arm c.intent.val.symbol) →
      ∀ arm symbol, CapacityLeft ctx reads acc arm symbol
  states : StatesFold reads acc

theorem fill_inv {candidates}
    (h : candidates.foldlM (fillCandidate hash ctx reads) ⟨reads.states, .empty, []⟩ = .ok acc) :
    FillInv ctx reads candidates acc := by
  refine foldlM_induction h (FillInv ctx reads) ?_ ?_
  · refine ⟨rfl, by simp, fun _ arm symbol => .inl ⟨rfl, rfl⟩, fun arm hnone => ⟨hnone, rfl⟩,
      fun arm start hstart => ⟨hstart, fun n => ?_⟩⟩
    show foldFills start (List.take n []) = .ok (lastState start (List.take n []))
    rw [take_nil]
    rfl
  · intro seen candidate acc acc' inv hstep
    have moves := fillCandidate_moves hstep
    refine
      { ids := ?_
        kinds := ?_
        capacity := fun hall arm symbol => ?_
        states := moves.statesFold inv.states }
    · cases moves with
      | blocked cap m kept plain kind id => simp [inv.ids, id]
      | filled state execution m step carries kind id => simp [inv.ids, id]
    · cases moves with
      | blocked cap m kept plain kind id =>
        refine fun other hother => (mem_append.mp hother).elim (inv.kinds other) fun hlast => ?_
        rw [mem_singleton.mp hlast, kind, plain]
        rfl
      | filled state execution m step carries kind id =>
        refine fun other hother => (mem_append.mp hother).elim (inv.kinds other) fun hlast => ?_
        rw [mem_singleton.mp hlast, kind, carries]
        rfl
    · have hseen := inv.capacity fun c hc => hall c (mem_append_left _ hc)
      exact moves.capacityLeft (hall candidate (by simp)) hseen arm symbol

theorem position_nonneg (state : Q1ArmState) (symbol : String) :
    0 ≤ state.val.positions.getD symbol 0 := by
  have h := state.valid
  simp only [Q1ArmStateFields.check, ok_iff, not_exists, not_and, not_lt] at h
  cases hget : state.val.positions.get? symbol with
  | none => rw [Dict.getD, hget, Option.getD_none]
  | some quantity =>
    rw [Dict.getD_of_get? hget]
    exact h.2.1 quantity (Dict.mem_values_of_get? hget)

/-- What one execution cycle does to the pending orders. -/
structure CycleSound (ctx : ExecutionContext) (reads : ExecutionReads)
    (pending : List OrderAggregate) (mutations : List PreparedMutation) : Prop where
  once : (mutations.map (·.event.orderIntentId)).Nodup
  ofPending : ∀ m ∈ mutations, m.event.orderIntentId ∈ pending.map idOf
  kinds : ∀ m ∈ mutations, m.event.eventType.isFill = m.execution.isSome
  withinCapacity : ∀ arm symbol,
    filledQuantity mutations arm symbol ≤ sessionCapacity ctx reads arm symbol
  nonneg : ∀ execution ∈ executions mutations, 0 ≤ execution.stateAfter.val.settledCashUsd ∧
    ∀ symbol, 0 ≤ execution.stateAfter.val.positions.getD symbol 0
  unheld : ∀ arm, reads.states.get? arm = none → armExecutions mutations arm = []
  folds : ∀ arm start, reads.states.get? arm = some start →
    Folds start (armExecutions mutations arm)

theorem plain_mapM {α : Type} {f : α → Except Failure PreparedMutation} {xs : List α}
    (plain : ∀ x m, f x = .ok m → m.execution = none ∧ m.event.eventType.isFill = false)
    (h : xs.mapM f = .ok mutations) :
    executions mutations = [] ∧
      ∀ m ∈ mutations, m.event.eventType.isFill = m.execution.isSome := by
  have hall : ∀ m ∈ mutations, m.execution = none ∧ m.event.eventType.isFill = false := by
    intro m hm
    obtain ⟨x, -, hx⟩ := mem_of_mapM_eq_ok h m hm
    exact plain x m hx
  refine ⟨filterMap_eq_nil_iff.mpr fun m hm => (hall m hm).1, fun m hm => ?_⟩
  rw [(hall m hm).1, (hall m hm).2]
  rfl

theorem prepareExpiryMutations_plain {expired : List OrderEvent}
    (h : prepareExpiryMutations hash ctx reads expired = .ok mutations) :
    executions mutations = [] ∧
      ∀ m ∈ mutations, m.event.eventType.isFill = m.execution.isSome := by
  refine plain_mapM (fun provisional m hstep => ?_) h
  simp only [ok_iff] at hstep
  obtain ⟨order, -, event, hevent, aggregate, -, rfl⟩ := hstep
  exact ⟨rfl, by rw [(append_fields hevent).1]; rfl⟩

theorem prepareBlockedMutations_plain
    (h : prepareBlockedMutations hash ctx reads pending blockedReasons = .ok mutations) :
    executions mutations = [] ∧
      ∀ m ∈ mutations, m.event.eventType.isFill = m.execution.isSome := by
  refine plain_mapM (fun blocked m hstep => ?_) h
  simp only [ok_iff] at hstep
  obtain ⟨order, -, event, hevent, rfl⟩ := hstep
  exact ⟨rfl, by rw [(append_fields hevent).1]; rfl⟩

theorem executions_of_plain {plain fills} (h : executions plain = []) :
    executions (plain ++ fills) = executions fills := by
  unfold executions at h ⊢
  rw [filterMap_append, h, nil_append]

theorem GatherInv.apart_ids {kept : Gathered} (inv : GatherInv ctx reads expiredIds pending kept)
    (hnodup : (pending.map idOf).Nodup) (hexpired : expiredIds.Sublist (pending.map idOf)) :
    let blocked := (pending.filter fun a => decide (idOf a ∈ kept.blockedReasons.keys)).map idOf
    let filled := (orderedCandidates kept.candidates).map fun c => idOf c.aggregate
    (expiredIds ++ blocked ++ filled).Nodup ∧
      ∀ id ∈ expiredIds ++ blocked ++ filled, id ∈ pending.map idOf := by
  intro blocked filled
  have hblocked : blocked.Sublist (pending.map idOf) := filter_sublist.map _
  have hkeys : ∀ id ∈ blocked, id ∈ kept.blockedReasons.keys := by
    intro id hid
    obtain ⟨a, ha, rfl⟩ := mem_map.mp hid
    exact of_decide_eq_true (mem_filter.mp ha).2
  have hcandidates : (kept.candidates.map fun c => idOf c.aggregate).Sublist
    (pending.map idOf) := by
    have hsub := inv.sublist.map idOf
    rwa [map_map] at hsub
  have hperm : filled.Perm (kept.candidates.map fun c => idOf c.aggregate) :=
    (sortedBy_perm _ _).map _
  have hfilled : ∀ id ∈ filled, ∃ c ∈ kept.candidates, idOf c.aggregate = id :=
    fun id hid => mem_map.mp (hperm.mem_iff.mp hid)
  constructor
  · rw [nodup_append, nodup_append]
    refine ⟨⟨hnodup.sublist hexpired, hnodup.sublist hblocked, ?_⟩,
      hperm.nodup_iff.mpr (hnodup.sublist hcandidates), ?_⟩
    · rintro id hid other hother rfl
      exact inv.blockedLive id (hkeys id hother) hid
    · rintro id hid other hother rfl
      obtain ⟨c, hc, rfl⟩ := hfilled id hother
      rcases mem_append.mp hid with hid | hid
      · exact inv.live c hc hid
      · exact inv.apart hnodup c hc (hkeys _ hid)
  · intro id hid
    rcases mem_append.mp hid with hid | hid
    · exact (mem_append.mp hid).elim (hexpired.subset ·) (hblocked.subset ·)
    · exact hcandidates.subset (hperm.mem_iff.mp hid)

/-- One execution cycle: each pending order gets at most one event, an arm fills no more of a symbol
than its share of the day's volume, no fill leaves cash or a position below zero, and the states of
an arm are the fold of its fills. -/
theorem execution_cycle (hash : Hashing) (ctx : ExecutionContext) (reads : ExecutionReads)
    (mutations : List PreparedMutation) (h : prepareMutations hash ctx reads = .ok mutations) :
    ∃ pending, pendingOrders reads.book.descriptors reads.book.events (some ctx.now) = .ok pending ∧
      CycleSound ctx reads pending mutations := by
  simp only [prepareMutations, ok_iff] at h
  obtain ⟨pending, hpending, expired, hexpired, gathered, hgathered, expiries, hexpiries, blocked,
    hblocked, fills, hfills, rfl⟩ := h
  refine ⟨pending, hpending, ?_⟩
  simp only [prepareFillMutations, ok_iff] at hfills
  obtain ⟨last, hlast, rfl⟩ := hfills
  have hnodup := pendingOrders_nodup hpending reads.book.descriptors_nodup
  have hgather := dropSkewed_inv (gather_inv hgathered)
  have hfill := fill_inv hlast
  simp only [expireOrders, hpending, ok_bind] at hexpired
  have hsub : (expired.map (·.orderIntentId)).Sublist (pending.map idOf) := by
    rw [appendForPending_ids hexpired]
    exact filter_sublist.map _
  have hids : (expiries ++ blocked ++ last.result).map (·.event.orderIntentId) =
      expired.map (·.orderIntentId) ++ (pending.filter fun a =>
        decide (idOf a ∈ (dropSkewed ctx gathered).blockedReasons.keys)).map idOf ++
      (orderedCandidates (dropSkewed ctx gathered).candidates).map fun c => idOf c.aggregate := by
    rw [map_append, map_append, hfill.ids, prepareExpiryMutations_ids hexpiries,
      prepareBlockedMutations_ids hblocked, ← blockedOrders_ids, map_map]
    rfl
  obtain ⟨honce, hpendingIds⟩ := hgather.apart_ids hnodup hsub
  have hexpiryPlain := prepareExpiryMutations_plain hexpiries
  have hblockedPlain := prepareBlockedMutations_plain hblocked
  have hexecutions : executions (expiries ++ blocked ++ last.result) = executions last.result := by
    rw [append_assoc, executions_of_plain hexpiryPlain.1, executions_of_plain hblockedPlain.1]
  have harms : ∀ arm, armExecutions (expiries ++ blocked ++ last.result) arm =
      armExecutions last.result arm := fun arm => by rw [armExecutions, hexecutions]; rfl
  have hcapacity : ∀ c ∈ orderedCandidates (dropSkewed ctx gathered).candidates,
      c.remainingAdvCapacity = sessionCapacity ctx reads c.arm c.intent.val.symbol := by
    intro c hc
    have hmem := (mem_sortedBy _).mp hc
    have hpendingMem := hgather.sublist.subset (mem_map_of_mem hmem)
    exact (hgather.made c hmem).capacity (mem_pendingOrders hpending hpendingMem).1
  exact
    { once := hids ▸ honce
      ofPending := fun m hm => hpendingIds _ (hids ▸ mem_map_of_mem hm)
      kinds := fun m hm => by
        rcases mem_append.mp hm with hm | hm
        · exact (mem_append.mp hm).elim (hexpiryPlain.2 m) (hblockedPlain.2 m)
        · exact hfill.kinds m hm
      withinCapacity := fun arm symbol => by
        rw [filledQuantity, harms]
        exact (hfill.capacity hcapacity arm symbol).filled_le
      nonneg := fun execution _ =>
        ⟨execution.stateAfter.settled_nonneg, position_nonneg execution.stateAfter⟩
      unheld := fun arm hnone => harms arm ▸ (hfill.states.unheld arm hnone).2
      folds := fun arm start hstart => harms arm ▸ (hfill.states.held arm start hstart).2 }

def twoShares (orderIntentId : String) (arm : Q1ArmId) (side : OrderSide) :
    Q1Cycle.Q1OrderIntentFields where
  orderIntentId
  runId := "r"
  armId := arm
  portfolioDecisionId := "decision"
  riskDecisionId := "risk"
  sourceCycleId := "cycle"
  inputStateSequence := 0
  symbol := "QQQ"
  side
  orderClass := .normal
  quantity := 2
  decisionQuoteId := "quote"
  decisionReferencePrice := 100
  decisionSpreadBps := 1
  createdAt := 0
  validUntil := 100
  idempotencyKey := "key"
  algorithmVersion := q1AlgorithmVersion
  versions := Q1Cycle.planVersions
  intentHash := "hash"

def detIntent : Q1Cycle.Q1OrderIntent := ⟨twoShares "a" .q1Det .sell, by decide +kernel⟩

def llmIntent : Q1Cycle.Q1OrderIntent := ⟨twoShares "b" .q1Llm .sell, by decide +kernel⟩

def buyIntent : Q1Cycle.Q1OrderIntent := ⟨twoShares "c" .q1Det .buy, by decide +kernel⟩

def detSell : BookOrder := ⟨detIntent, ⟨descriptorFields detIntent, by decide +kernel⟩, rfl⟩

def llmSell : BookOrder := ⟨llmIntent, ⟨descriptorFields llmIntent, by decide +kernel⟩, rfl⟩

def detBuy : BookOrder := ⟨buyIntent, ⟨descriptorFields buyIntent, by decide +kernel⟩, rfl⟩

def fiveShares (arm : Q1ArmId) : Q1ArmStateFields :=
  ⟨arm, 1000, 500, [], ⟨[("QQQ", 5)], nodup_singleton "QQQ"⟩, 0, none⟩

def fiveHeld (arm : Q1ArmId) : Q1ArmState := ⟨fiveShares arm, by cases arm <;> decide +kernel⟩

def sampleReads (orders : List BookOrder) (unique : (orders.map (·.intent.val.orderIntentId)).Nodup)
    (adv : Decimal) (events : List OrderEvent) : ExecutionReads where
  book := ⟨orders, events, unique⟩
  states := ⟨[(.q1Det, fiveHeld .q1Det), (.q1Llm, fiveHeld .q1Llm)], by decide⟩
  streamState := "CONNECTED"
  quotes := []
  firstExecutableQuote := fun _ _ _ => some ⟨"q", 2, 2, 100, 10, 100, 10⟩
  completedAdvShares := fun _ => some adv
  fills := []

def noonCycle : ExecutionContext where
  config := shippedExecutionConfig
  displayedSizeUnitShares := 100
  maximumQuoteSkewSeconds := 2
  runId := "r"
  openAt := 0
  closeAt := 50
  normalStart := 1
  sessionDate := sampleSession
  calendar := sampleCalendar
  entry := sampleContext 3
  expiryProvenance := sampleProvenance
  provenance := sampleProvenance

def sampleCycle (orders : List BookOrder) (reads : List OrderEvent → ExecutionReads) :
    Except Failure (ExecutionReads × List PreparedMutation) := do
  let events ← orders.mapM fun order =>
    appendOrderEvent .json order.descriptor [] (sampleRequest .created 1)
  let mutations ← prepareMutations .short noonCycle (reads events)
  return (reads events, mutations)

theorem sampleCycle_ok {orders reads p} (h : (sampleCycle orders reads).toOption.any p = true) :
    ∃ events mutations,
      prepareMutations .short noonCycle (reads events) = .ok mutations ∧
        p (reads events, mutations) = true := by
  obtain ⟨_, hok, hp⟩ := exists_of_any h
  simp only [sampleCycle, ok_iff] at hok
  obtain ⟨events, -, mutations, hmutations, rfl⟩ := hok
  exact ⟨events, mutations, hmutations, hp⟩

/-- Each arm may trade one share of QQQ, and together they trade two. -/
theorem two_arms_share_no_cap : ∃ reads mutations,
    prepareMutations .short noonCycle reads = .ok mutations ∧
    (∀ arm, sessionCapacity noonCycle reads arm "QQQ" = 1) ∧
    (((executions mutations).filter (·.fill.symbol = "QQQ")).map (·.fill.quantity)).sum = 2 := by
  have h :
    (sampleCycle [detSell, llmSell] (sampleReads [detSell, llmSell] (by decide) 40)).toOption.any
      (fun (_, mutations) => decide
        ((((executions mutations).filter (·.fill.symbol = "QQQ")).map (·.fill.quantity)).sum = 2)) =
        true := by
    decide +kernel
  obtain ⟨events, mutations, hmutations, htwo⟩ := sampleCycle_ok h
  refine ⟨_, mutations, hmutations, fun arm => ?_, of_decide_eq_true htwo⟩
  have hone : (max 0 (40 * (25 / 1000) - 0) : Decimal) = 1 := by decide +kernel
  exact hone

/-- A SELL of two shares and a BUY of two share a cap of three: the BUY gets one. -/
theorem two_orders_fold : ∃ reads mutations pending,
    prepareMutations .short noonCycle reads = .ok mutations ∧
    (armExecutions mutations .q1Det).map (fun execution => (execution.fill.side,
      execution.fill.quantity)) = [(.sell, 2), (.buy, 1)] ∧
    sessionCapacity noonCycle reads .q1Det "QQQ" = 3 ∧
    CycleSound noonCycle reads pending mutations := by
  have h :
    (sampleCycle [detSell, detBuy] (sampleReads [detSell, detBuy] (by decide) 120)).toOption.any
      (fun (_, mutations) => decide ((armExecutions mutations .q1Det).map (fun execution =>
        (execution.fill.side, execution.fill.quantity)) = [(.sell, 2), (.buy, 1)])) = true := by
    decide +kernel
  obtain ⟨events, mutations, hmutations, hfills⟩ := sampleCycle_ok h
  obtain ⟨pending, -, hsound⟩ := execution_cycle .short noonCycle _ mutations hmutations
  have hthree : (max 0 (120 * (25 / 1000) - 0) : Decimal) = 3 := by decide +kernel
  exact ⟨_, mutations, pending, hmutations, of_decide_eq_true hfills, hthree, hsound⟩

end AdaptiveQuant.Q1Execution
