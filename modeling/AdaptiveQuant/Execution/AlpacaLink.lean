import AdaptiveQuant.Execution.AlpacaClient

/-! What the requests of the client keep, and what a successful one tells. -/

namespace AdaptiveQuant

open Guard Effect

variable {τ α : Type}

def Holds (J : τ → Broker → Prop) (w : World τ) : Prop := J w.store w.broker

def Unmoved (J : τ → Broker → Prop) : Prop :=
  ∀ store broker move, J store broker → J store (Broker.move broker move)

variable {J : τ → Broker → Prop} {w w' : World τ}

theorem Unmoved.next (moves : Unmoved J) (h : Holds J w) : Holds J w.next := by
  show J w.store (w.exchange.moves.foldl Broker.move w.broker)
  generalize w.exchange.moves = list
  have hstart : J w.store w.broker := h
  revert hstart
  generalize w.broker = broker
  induction list generalizing broker with
  | nil => exact id
  | cons move rest ih =>
    intro hbroker
    exact ih _ (moves _ _ _ hbroker)

variable {f : World τ → Except CanaryFailure α × World τ}

theorem keeps_act (h : ∀ w, Holds J w → Holds J (f w).2) : Keeps (Holds J) (act f) := by
  intro w hw
  unfold act
  split
  · exact h w hw
  · exact hw
  · exact h _ hw

variable {a : α}

theorem act_ok (h : act f w = (.ok a, w')) :
    ∃ life, (w.life = none → life = none) ∧ f { w with life } = (.ok a, w') := by
  unfold act at h
  split at h
  · rename_i hlife
    exact ⟨none, fun _ => rfl, by rw [← hlife]; exact h⟩
  · cases h
  · rename_i n hlife
    exact ⟨some n, fun hnone => (Option.some_ne_none _ (hlife.symm.trans hnone)).elim, h⟩

theorem act_error {failure} (h : act f w = (.error failure, w')) :
    w' = w ∨ ∃ life, f { w with life } = (.error failure, w') := by
  unfold act at h
  split at h
  · rename_i hlife
    exact .inr ⟨none, by rw [← hlife]; exact h⟩
  · cases h
    exact .inl rfl
  · exact .inr ⟨_, h⟩

theorem act_alive (f : World τ → Except CanaryFailure α × World τ) (h : w.life = none) :
    act f w = f w := by
  simp only [act, h]

variable {message : Option BrokerMessage}
    {handle : Broker → Acceptance → Except AlpacaPaperTradingError α × Broker}

theorem keeps_request (moves : Unmoved J)
    (post : ∀ store broker, J store broker → J store (Broker.post broker message))
    (handled : ∀ store broker taken, J store broker → J store (handle broker taken).2) :
    Keeps (Holds J) (request message handle : Canary τ α) := by
  refine keeps_act fun w hw => ?_
  have hnext := moves.next hw
  unfold respond
  split
  · exact handled _ _ _ hnext
  · exact handled _ _ _ hnext
  · exact post _ _ hnext

@[simp] theorem Broker.post_none (broker : Broker) : broker.post none = broker := by
  simp [Broker.post]

variable {answer : Broker → Except AlpacaPaperTradingError α}

theorem keeps_query (moves : Unmoved J) :
    Keeps (Holds J) (query answer : Canary τ α) := by
  refine keeps_request moves (fun store broker h => ?_) fun _ _ _ h => h
  rwa [Broker.post_none]

theorem mapError_eq_ok {ε δ : Type} {x : Except ε α} {f : ε → δ} :
    x.mapError f = .ok a ↔ x = .ok a := by
  cases x with
  | error e => simp [Except.mapError]
  | ok b => simp [Except.mapError]

theorem request_ok (h : request message handle w = (.ok a, w')) :
    (handle w.next.broker w.exchange.taken).1 = .ok a ∧
      ∃ life, (w.life = none → life = none) ∧
        w' = { w.next with broker := (handle w.next.broker w.exchange.taken).2, life } := by
  rw [request] at h
  obtain ⟨life, hlife, h⟩ := act_ok h
  unfold respond at h
  split at h
  · obtain ⟨hanswer, rfl⟩ := Prod.mk.inj h
    exact ⟨mapError_eq_ok.mp hanswer, life, hlife, rfl⟩
  · cases h
  · cases h

theorem query_ok (h : query answer w = (.ok a, w')) :
    answer w.next.broker = .ok a ∧
      ∃ life, (w.life = none → life = none) ∧ w' = { w.next with life } := request_ok h

theorem request_answered (alive : w.life = none) (answered : w.exchange.fate = .answered) :
    request message handle w =
      ((handle w.next.broker w.exchange.taken).1.mapError .trading,
        { w.next with broker := (handle w.next.broker w.exchange.taken).2 }) := by
  rw [request, act_alive _ alive, respond, answered]

theorem keeps_getAccount (moves : Unmoved J) : Keeps (Holds J) (getAccount : Canary τ _) :=
  keeps_query moves

theorem keeps_listPositions (moves : Unmoved J) : Keeps (Holds J) (listPositions : Canary τ _) :=
  keeps_query moves

theorem keeps_listOrders (moves : Unmoved J) (limit : ℕ) :
    Keeps (Holds J) (listOrders limit : Canary τ _) :=
  (Keeps.ofExcept _).bind fun _ => keeps_query moves

theorem keeps_listFillActivities (moves : Unmoved J) (after : Instant) (pageSize : ℕ) :
    Keeps (Holds J) (listFillActivities after pageSize : Canary τ _) :=
  (Keeps.ofExcept _).bind fun _ => keeps_query moves

theorem keeps_missingOrder (answer : Except CanaryFailure AlpacaPaperOrder) :
    Keeps (Holds J) (missingOrder answer : Canary τ _) := by
  unfold missingOrder
  split
  · exact Keeps.pure _
  · split
    · exact Keeps.pure _
    · exact Keeps.fail _
  · exact Keeps.fail _

theorem keeps_getOrderByClientId (moves : Unmoved J) (clientOrderId : String) :
    Keeps (Holds J) (getOrderByClientId clientOrderId : Canary τ _) :=
  (keeps_query moves).attempt.bind fun answer => keeps_missingOrder answer

theorem keeps_cancelOrder (moves : Unmoved J) (brokerOrderId : String)
    (post : ∀ store broker, J store broker →
      J store (Broker.post broker (some (.cancel brokerOrderId))))
    (cancel : ∀ store broker, J store broker → J store (Broker.cancel broker brokerOrderId).2) :
    Keeps (Holds J) (cancelOrder brokerOrderId : Canary τ _) :=
  keeps_request moves post fun _ _ _ h => cancel _ _ h

theorem keeps_sameOrder (order : AlpacaPaperOrder) (request : AlpacaPaperOrderRequest) :
    Keeps (Holds J) (sameOrder order request : Canary τ _) :=
  (Keeps.ofExcept _).bind fun _ => Keeps.pure _

theorem keeps_recoverSubmitted (moves : Unmoved J) (request : AlpacaPaperOrderRequest)
    (error : AlpacaPaperTradingError) (attempts : ℕ) :
    Keeps (Holds J) (recoverSubmitted request error attempts : Canary τ _) := by
  induction attempts with
  | zero => exact Keeps.fail _
  | succ attempts ih =>
    refine (keeps_getOrderByClientId moves _).bind fun found => ?_
    cases found with
    | some order => exact keeps_sameOrder order request
    | none => exact ih

theorem keeps_ensureSubmitted (moves : Unmoved J) (request : AlpacaPaperOrderRequest)
    (post : ∀ store broker, J store broker → J store (Broker.post broker (some (.submit request))))
    (submit : ∀ store broker taken, J store broker →
      J store (Broker.submit broker request taken).2) (attempts : ℕ) :
    Keeps (Holds J) (ensureSubmitted attempts request : Canary τ _) := by
  refine (keeps_getOrderByClientId moves _).bind fun found => ?_
  cases found with
  | some order => exact keeps_sameOrder order request
  | none =>
    refine (keeps_request moves post submit).attempt.bind fun outcome => ?_
    unfold settleSubmitted
    split
    · exact keeps_sameOrder _ _
    · split
      · exact Keeps.fail _
      · exact keeps_recoverSubmitted moves _ _ _
    · exact Keeps.fail _

theorem sameOrder_ok {order result request} (h : sameOrder order request w = (.ok result, w')) :
    result = order ∧ w' = w ∧ requireSameOrder order request = .ok () := by
  obtain ⟨⟨⟩, s, hcheck, hpure⟩ := bind_run_eq_ok.mp h
  obtain ⟨hrequire, rfl⟩ := Prod.mk.inj hcheck
  cases hpure
  exact ⟨rfl, rfl, mapError_eq_ok.mp hrequire⟩

theorem parseOrder_ok {order result} (h : parseOrder order = .ok result) :
    result = order := by
  unfold parseOrder at h
  split at h
  · cases h
    rfl
  · cases h

theorem missingOrder_some {answer order} (h : missingOrder answer w = (.ok (some order), w')) :
    answer = .ok order ∧ w' = w := by
  unfold missingOrder at h
  split at h
  · cases h
    exact ⟨rfl, rfl⟩
  · split at h
    · cases h
    · cases h
  · cases h

theorem getOrderByClientId_some {clientOrderId : String} {order}
    (h : getOrderByClientId clientOrderId w = (.ok (some order), w')) :
    w'.broker.order? clientOrderId = some order := by
  obtain ⟨answer, s, hquery, hmissing⟩ := bind_run_eq_ok.mp h
  obtain ⟨rfl, rfl⟩ := missingOrder_some hmissing
  obtain ⟨hanswer, hs⟩ := Prod.mk.inj hquery
  have hrun : query (fun broker => broker.answerOrder clientOrderId) w = (.ok order, w') :=
    Prod.ext (Except.ok.inj hanswer) hs
  obtain ⟨hfound, life, -, rfl⟩ := query_ok hrun
  unfold Broker.answerOrder at hfound
  split at hfound
  · cases hfound
  · rename_i found hsome
    rw [parseOrder_ok hfound]
    exact hsome

theorem recoverSubmitted_ok {request order error} {attempts : ℕ}
    (h : recoverSubmitted request error attempts w = (.ok order, w')) :
    w'.broker.order? request.val.clientOrderId = some order := by
  induction attempts generalizing w with
  | zero => cases h
  | succ attempts ih =>
    obtain ⟨found, s, hfound, hrest⟩ := bind_run_eq_ok.mp h
    cases found with
    | none => exact ih hrest
    | some recovered =>
      obtain ⟨rfl, rfl, -⟩ := sameOrder_ok hrest
      exact getOrderByClientId_some hfound

theorem Broker.order?_submit {broker : Broker} {request} {taken : Acceptance}
    (h : broker.order? request.val.clientOrderId = none) :
    (broker.submit request taken).2.order? request.val.clientOrderId =
      some (taken.order request) := by
  simp only [Broker.submit, h]
  have hnone : broker.orders.find? (·.clientOrderId = request.val.clientOrderId) = none := h
  simp [Broker.order?, List.find?_append, hnone, Acceptance.order]

theorem Broker.submit_ok {broker : Broker} {request} {taken : Acceptance} {order}
    (h : (broker.submit request taken).1 = .ok order) :
    (broker.submit request taken).2.order? request.val.clientOrderId = some order := by
  cases hfree : broker.order? request.val.clientOrderId with
  | some existing =>
    simp only [Broker.submit, hfree] at h
    cases h
  | none =>
    rw [Broker.order?_submit hfree]
    simp only [Broker.submit, hfree] at h
    rw [parseOrder_ok h]

theorem submitOrder_ok {request order} (h : submitOrder request w = (.ok order, w')) :
    w'.broker.order? request.val.clientOrderId = some order := by
  obtain ⟨hanswer, life, -, rfl⟩ := request_ok h
  exact Broker.submit_ok hanswer

theorem ensureSubmitted_ok {request order} {attempts : ℕ}
    (h : ensureSubmitted attempts request w = (.ok order, w')) :
    w'.broker.order? request.val.clientOrderId = some order := by
  obtain ⟨found, s, hfound, hrest⟩ := bind_run_eq_ok.mp h
  cases found with
  | some existing =>
    obtain ⟨rfl, rfl, -⟩ := sameOrder_ok hrest
    exact getOrderByClientId_some hfound
  | none =>
    obtain ⟨outcome, s', hsubmit, hsettle⟩ := bind_run_eq_ok.mp hrest
    obtain ⟨houtcome, hs'⟩ := Prod.mk.inj hsubmit
    unfold settleSubmitted at hsettle
    split at hsettle
    · rename_i submitted
      obtain ⟨rfl, rfl, -⟩ := sameOrder_ok hsettle
      exact submitOrder_ok (Prod.ext (Except.ok.inj houtcome) hs')
    · split at hsettle
      · cases hsettle
      · exact recoverSubmitted_ok hsettle
    · cases hsettle

end AdaptiveQuant
