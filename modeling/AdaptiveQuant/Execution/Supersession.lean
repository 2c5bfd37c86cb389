import AdaptiveQuant.Execution.PendingOrders

/-! What a supersession leaves of the pending orders. -/

namespace AdaptiveQuant

open Guard Sequence List

variable {hash : Hashing}

def OrderAggregate.isNormalSell (a : OrderAggregate) (armId symbol : String) : Bool :=
  a.order.orderClass = .normal ∧ a.order.side = .sell ∧ a.order.armId = armId ∧
    a.order.symbol = symbol

def pendingSellQuantity (pending : List OrderAggregate) (armId symbol : String) : Decimal :=
  ((pending.filter (·.isNormalSell armId symbol)).map (·.remainingQuantity)).sum

/-- The orders of another class, arm or symbol than every normal replacement. -/
def OrderDescriptor.Unconcerned (order : OrderDescriptor)
    (replacementOrders : List OrderDescriptor) :
    Prop :=
  order.orderClass ≠ .normal ∨ ∀ r ∈ replacementOrders, r.orderClass = .normal →
    r.armId = order.armId → r.symbol ≠ order.symbol

/-- A supersession that appended `result` weakens no outstanding risk reduction and leaves the
orders of other arms, symbols and classes alone. -/
def KeepsReductions (orders : List OrderDescriptor) (events : List OrderEvent)
    (replacementOrders : List OrderDescriptor) (pending : List OrderAggregate)
    (result : List OrderEvent) : Prop :=
  (∃ after, pendingOrders orders (events ++ result) = .ok after ∧ ∀ armId symbol,
    pendingSellQuantity pending armId symbol ≤ pendingSellQuantity after armId symbol +
      replacementSellQuantity replacementOrders armId symbol) ∧
  ∀ order ∈ orders, order.Unconcerned replacementOrders →
    reduceOrderEvents order (events ++ result) = reduceOrderEvents order events

/-- Every pending BUY of an arm with replacements has a replacement of its own symbol. -/
def BuysReplaced (pending : List OrderAggregate)
    (replacementOrders : List OrderDescriptor) : Prop :=
  ∀ a ∈ pending, a.order.orderClass = .normal → a.order.side = .buy →
    ∀ r ∈ replacementOrders, r.orderClass = .normal → r.armId = a.order.armId →
      ∃ s ∈ replacementOrders, s.orderClass = .normal ∧ s.armId = a.order.armId ∧
        s.symbol = a.order.symbol

abbrev normalOrders (orders : List OrderDescriptor) : List OrderDescriptor :=
  orders.filter fun order => order.orderClass = .normal

/-- The pending SELLs that the replacement SELLs cover one at a time. -/
def coveredSellQuantity (pending : List OrderAggregate) (replacementOrders : List OrderDescriptor)
    (armId symbol : String) : Decimal :=
  ((pending.filter fun a => a.isNormalSell armId symbol ∧ a.remainingQuantity ≤
    replacementSellQuantity (normalOrders replacementOrders)
      armId symbol).map (·.remainingQuantity)).sum

section Reductions

variable {orders replacementOrders : List OrderDescriptor} {events result : List OrderEvent}
  {pending : List OrderAggregate} {occurredAt availableAt : Instant}
  {provenance : OrderEventProvenance} {sourceCycleId : String}

variable {replacements : List OrderDescriptor}

theorem exists_of_replacementSellQuantity_pos
    {armId symbol : String} (h : 0 < replacementSellQuantity replacements armId symbol) :
    ∃ r ∈ replacements, r.side = .sell ∧ r.armId = armId ∧ r.symbol = symbol := by
  by_contra hnone
  push Not at hnone
  have hempty : replacements.filter (fun order =>
      order.side = .sell ∧ order.armId = armId ∧ order.symbol = symbol) = [] := by
    rw [filter_eq_nil_iff]
    intro r hr
    simpa using hnone r hr
  rw [replacementSellQuantity, hempty] at h
  exact lt_irrefl _ h

theorem supersededBy_normalSell {a} {armId symbol : String} (sell : a.isNormalSell armId symbol)
    (live : a.isPending) :
    supersededBy replacements a = true ↔
      a.remainingQuantity ≤ replacementSellQuantity replacements armId symbol := by
  simp only [OrderAggregate.isNormalSell, decide_eq_true_eq] at sell
  obtain ⟨hclass, hside, rfl, rfl⟩ := sell
  have hpos : 0 < a.remainingQuantity := by
    simp only [OrderAggregate.isPending, Bool.and_eq_true, decide_eq_true_eq] at live
    exact live.2
  simp only [supersededBy, hclass, hside, true_and, not_lt, decide_eq_true_eq]
  constructor
  · exact fun h => h.2
  · intro h
    obtain ⟨r, hr, -, harm, -⟩ := exists_of_replacementSellQuantity_pos (hpos.trans_le h)
    exact ⟨mem_map.mpr ⟨r, hr, harm⟩, h⟩

theorem supersedeNormalOrders_pending (ids : (orders.map (·.orderIntentId)).Nodup)
    (hpending : pendingOrders orders events = .ok pending)
    (h : supersedeNormalOrders hash orders events replacementOrders occurredAt availableAt
      provenance
      sourceCycleId = .ok result) :
    (∃ after, pendingOrders orders (events ++ result) = .ok after ∧ after.Perm (pending.filter
      fun a => !supersededBy (normalOrders replacementOrders) a)) ∧
    ∀ order ∈ orders, (∀ a ∈ pending, a.order = order → supersededBy
        (normalOrders replacementOrders) a = false) →
      reduceOrderEvents order (events ++ result) = reduceOrderEvents order events := by
  simp only [supersedeNormalOrders] at h
  split at h
  · rename_i hempty
    have hnone : (normalOrders replacementOrders) = [] :=
      isEmpty_iff.mp hempty
    obtain rfl : [] = result := Except.ok.inj h
    rw [append_nil, hnone]
    refine ⟨⟨pending, hpending, ?_⟩, fun _ _ _ => rfl⟩
    rw [filter_eq_self.mpr fun a _ => by simp [supersededBy]]
  · rw [hpending, ok_bind] at h
    exact ⟨appendForPending_pending rfl ids hpending h, fun order mem kept =>
      appendForPending_frame rfl ids hpending h mem kept none⟩

theorem not_superseded_of_unconcerned {a} (mem : a ∈ pending)
    (buys : BuysReplaced pending replacementOrders) (h : a.order.Unconcerned replacementOrders)
    (live : a.isPending) :
    supersededBy (normalOrders replacementOrders) a = false := by
  by_contra hsuperseded
  rw [Bool.not_eq_false] at hsuperseded
  have hcases := hsuperseded
  simp only [supersededBy, decide_eq_true_eq] at hcases
  obtain ⟨hclass, harm, -⟩ := hcases
  have hsame : ∃ r ∈ replacementOrders, r.orderClass = .normal ∧ r.armId = a.order.armId ∧
      r.symbol = a.order.symbol := by
    cases hside : a.order.side with
    | buy =>
      obtain ⟨r, hr, heq⟩ := mem_map.mp harm
      obtain ⟨hr, hnormal⟩ := mem_filter.mp hr
      exact buys a mem hclass hside r hr (of_decide_eq_true hnormal) heq
    | sell =>
      have hsell : a.isNormalSell a.order.armId a.order.symbol := by
        simp [OrderAggregate.isNormalSell, hclass, hside]
      have hpos : 0 < a.remainingQuantity := by
        simp only [OrderAggregate.isPending, Bool.and_eq_true, decide_eq_true_eq] at live
        exact live.2
      obtain ⟨r, hr, -, hrarm, hrsymbol⟩ := exists_of_replacementSellQuantity_pos
        (hpos.trans_le ((supersededBy_normalSell hsell live).mp hsuperseded))
      obtain ⟨hr, hnormal⟩ := mem_filter.mp hr
      exact ⟨r, hr, of_decide_eq_true hnormal, hrarm, hrsymbol⟩
  obtain ⟨r, hr, hnormal, hrarm, hrsymbol⟩ := hsame
  rcases h with hother | hsymbols
  · exact hother hclass
  · exact hsymbols r hr hnormal hrarm hrsymbol

theorem superseded_buy {a : OrderAggregate} (hclass : a.order.orderClass = .normal)
    (hside : a.order.side = .buy) {r : OrderDescriptor} (hr : r ∈ replacementOrders)
    (hnormal : r.orderClass = .normal) (harm : r.armId = a.order.armId) :
    supersededBy (normalOrders replacementOrders) a = true := by
  have hmem : a.order.armId ∈
      (normalOrders replacementOrders).map (·.armId) :=
    mem_map.mpr ⟨r, mem_filter.mpr ⟨hr, decide_eq_true hnormal⟩, harm⟩
  simp [supersededBy, hclass, hside, hmem]

theorem pendingSellQuantity_split (live : ∀ a ∈ pending, a.isPending) {after}
    (kept : after.Perm (pending.filter fun a => !supersededBy (normalOrders replacementOrders) a))
    (armId symbol : String) : pendingSellQuantity pending armId symbol =
      coveredSellQuantity pending replacementOrders armId symbol +
        pendingSellQuantity after armId symbol := by
  have hafter : pendingSellQuantity after armId symbol = (((pending.filter
      (·.isNormalSell armId symbol)).filter fun a => ¬(a.remainingQuantity ≤ replacementSellQuantity
        (normalOrders replacementOrders) armId symbol)).map
          (·.remainingQuantity)).sum := by
    rw [pendingSellQuantity, ((kept.filter _).map _).sum_eq, filter_filter, filter_filter]
    congr 2
    refine filter_congr fun a ha => ?_
    cases hsell : a.isNormalSell armId symbol with
    | false => simp
    | true =>
      have hiff := @supersededBy_normalSell
        (normalOrders replacementOrders) _ _ _ hsell (live a ha)
      rw [Bool.true_and, Bool.and_true, Bool.eq_iff_iff]
      simp [← hiff]
  have hcovered : coveredSellQuantity pending replacementOrders armId symbol = (((pending.filter
      (·.isNormalSell armId symbol)).filter fun a => a.remainingQuantity ≤ replacementSellQuantity
        (normalOrders replacementOrders) armId symbol).map
          (·.remainingQuantity)).sum := by
    rw [coveredSellQuantity, filter_filter]
    congr 2
    refine filter_congr fun a _ => ?_
    rw [Bool.and_comm, Bool.decide_and, Bool.decide_eq_true]
  rw [hafter, hcovered, sum_map_filter_add_sum_map_filter_not, pendingSellQuantity]

/-- A supersession weakens no risk reduction exactly when, for each arm and symbol, the replacement
SELLs cover together the pending SELLs that they cover one at a time. It leaves the other orders
alone exactly when no pending BUY gives way to replacements of other symbols only. -/
theorem supersession_keeps_reductions_iff (ids : (orders.map (·.orderIntentId)).Nodup)
    (hpending : pendingOrders orders events = .ok pending)
    (h : supersedeNormalOrders hash orders events replacementOrders occurredAt availableAt
      provenance
      sourceCycleId = .ok result) :
    KeepsReductions orders events replacementOrders pending result ↔
      (∀ armId symbol, coveredSellQuantity pending replacementOrders armId symbol ≤
        replacementSellQuantity replacementOrders armId symbol) ∧
      BuysReplaced pending replacementOrders := by
  obtain ⟨⟨after, hafter, hperm⟩, hframe⟩ := supersedeNormalOrders_pending ids hpending h
  have hlive : ∀ a ∈ pending, a.isPending := fun a ha => (mem_pendingOrders hpending ha).2.2
  have hsplit := pendingSellQuantity_split hlive hperm
  constructor
  · rintro ⟨⟨after', hafter', htotal⟩, hkept⟩
    obtain rfl : after = after' := Except.ok.inj (hafter.symm.trans hafter')
    refine ⟨fun armId symbol => ?_, fun a ha hclass hside r hr hnormal harm => ?_⟩
    · have := htotal armId symbol
      rw [hsplit] at this
      linarith
    · obtain ⟨hmem, hreduce, hpend⟩ := mem_pendingOrders hpending ha
      by_contra hnone
      have hfar : a.order.Unconcerned replacementOrders :=
        .inr fun s hs hsnormal hsarm hsymbol => hnone ⟨s, hs, hsnormal, hsarm, hsymbol⟩
      -- the frame keeps the BUY pending, the rule superseded it
      have hstill : a ∈ after := mem_pendingOrders_of_reduce hafter hmem
        ((hkept a.order hmem hfar).trans hreduce) hpend
      have hspared := (mem_filter.mp (hperm.mem_iff.mp hstill)).2
      rw [superseded_buy hclass hside hr hnormal harm] at hspared
      cases hspared
  · refine fun ⟨hcovered, hbuys⟩ => ⟨⟨after, hafter, fun armId symbol => ?_⟩,
      fun order horder hfar => ?_⟩
    · rw [hsplit]
      linarith [hcovered armId symbol]
    · refine hframe order horder fun a ha heq => ?_
      exact not_superseded_of_unconcerned ha hbuys (heq ▸ hfar) (hlive a ha)

end Reductions

section Sample

def sampleSell (orderIntentId : String) (named : orderIntentId ≠ "") (quantity : Decimal)
    (positive : 0 < quantity) : OrderDescriptor where
  orderIntentId := orderIntentId
  armId := "CORE_ONLY"
  portfolioDecisionId := "decision"
  symbol := "QQQ"
  side := .sell
  quantity := quantity
  orderClass := .normal
  createdAt := 0
  validUntil := 100
  valid := by simp [OrderDescriptorFields.validate, named, positive.not_ge, raiseIf]

def sampleSells : List OrderDescriptor :=
  [sampleSell "a" (by decide) 10 (by norm_num), sampleSell "b" (by decide) 10 (by norm_num)]

def sampleSellEvents : Except Failure (List OrderEvent) :=
  sampleSells.mapM fun order => appendOrderEvent .json order [] (sampleRequest .created 1)

def sampleReplacement (quantity : Decimal) (positive : 0 < quantity) : List OrderDescriptor :=
  [sampleSell "c" (by decide) quantity positive]

def sampleSuperseded (replacementOrders : List OrderDescriptor) :
    Except Failure (List OrderEvent × List OrderAggregate × List OrderEvent) := do
  let events ← sampleSellEvents
  let pending ← pendingOrders sampleSells events
  let result ← supersedeNormalOrders .json sampleSells events replacementOrders 2 2 sampleProvenance
    "cycle"
  return (events, pending, result)

theorem sampleSuperseded_ok {replacementOrders events result pending}
    (h : sampleSuperseded replacementOrders = .ok (events, pending, result)) :
    pendingOrders sampleSells events = .ok pending ∧
      supersedeNormalOrders .json sampleSells events replacementOrders 2 2 sampleProvenance
        "cycle" =
        .ok result := by
  simp only [sampleSuperseded, ok_iff] at h
  obtain ⟨events', -, pending', hpending, result', hresult, heq⟩ := h
  cases heq
  exact ⟨hpending, hresult⟩

/-- Two pending SELLs of ten and a replacement of ten: both are superseded, and half of what was to
be sold is gone. -/
theorem sample_reduction_weakened : ∃ replacementOrders events pending result,
    pendingOrders sampleSells events = .ok pending ∧
    supersedeNormalOrders .json sampleSells events replacementOrders 2 2 sampleProvenance "cycle" =
      .ok result ∧
    replacementOrders.map (·.quantity) = [10] ∧
    ¬KeepsReductions sampleSells events replacementOrders pending result := by
  have h : (sampleSuperseded (sampleReplacement 10 (by norm_num))).toOption.any (fun
      (events, pending, result) => (pendingOrders sampleSells (events ++ result)).toOption.any
        fun after => decide (pendingSellQuantity after "CORE_ONLY" "QQQ" + replacementSellQuantity
          (sampleReplacement 10 (by norm_num)) "CORE_ONLY" "QQQ" <
            pendingSellQuantity pending "CORE_ONLY" "QQQ")) = true := by
    decide +kernel
  obtain ⟨⟨events, pending, result⟩, hok, hany⟩ := exists_of_any h
  obtain ⟨after, hafter, hless⟩ := exists_of_any hany
  obtain ⟨hpending, hresult⟩ := sampleSuperseded_ok hok
  refine ⟨_, events, pending, result, hpending, hresult, rfl, ?_⟩
  rintro ⟨⟨after', hafter', htotal⟩, -⟩
  obtain rfl : after = after' := Except.ok.inj (hafter.symm.trans hafter')
  exact absurd (htotal "CORE_ONLY" "QQQ") (not_le.mpr (of_decide_eq_true hless))

/-- The same SELLs and a replacement of twenty. -/
theorem sample_reduction_kept : ∃ replacementOrders events pending result,
    pendingOrders sampleSells events = .ok pending ∧
    supersedeNormalOrders .json sampleSells events replacementOrders 2 2 sampleProvenance "cycle" =
      .ok result ∧
    pending.map (·.remainingQuantity) = [10, 10] ∧ replacementOrders.map (·.quantity) = [20] ∧
    result.length = 2 ∧ KeepsReductions sampleSells events replacementOrders pending result := by
  have h : (sampleSuperseded (sampleReplacement 20 (by norm_num))).toOption.any (fun
      (_, pending, result) => decide (pending.map (·.remainingQuantity) = [10, 10] ∧
        result.length = 2 ∧ (∀ a ∈ pending, a.isNormalSell "CORE_ONLY" "QQQ") ∧
        coveredSellQuantity pending (sampleReplacement 20 (by norm_num)) "CORE_ONLY" "QQQ" ≤
          replacementSellQuantity (sampleReplacement 20 (by norm_num)) "CORE_ONLY" "QQQ")) =
            true := by
    decide +kernel
  obtain ⟨⟨events, pending, result⟩, hok, hfacts⟩ := exists_of_any h
  obtain ⟨hquantities, hlength, hsells, hcover⟩ := of_decide_eq_true hfacts
  obtain ⟨hpending, hresult⟩ := sampleSuperseded_ok hok
  refine ⟨sampleReplacement 20 (by norm_num), events, pending, result, hpending, hresult,
    hquantities,
    rfl, hlength, (supersession_keeps_reductions_iff (by decide) hpending hresult).mpr
      ⟨fun armId symbol => ?_, fun a ha _ hbuy => ?_⟩⟩
  · by_cases hsold : armId = "CORE_ONLY" ∧ symbol = "QQQ"
    · rw [hsold.1, hsold.2]
      exact hcover
    · have hnone :
        coveredSellQuantity pending (sampleReplacement 20 (by norm_num)) armId symbol = 0 := by
        rw [coveredSellQuantity, filter_eq_nil_iff.mpr, map_nil, sum_nil]
        intro a ha hcovered
        have hsell := hsells a ha
        simp only [OrderAggregate.isNormalSell, decide_eq_true_eq] at hsell hcovered
        exact hsold
          ⟨hcovered.1.2.2.1.symm.trans hsell.2.2.1, hcovered.1.2.2.2.symm.trans hsell.2.2.2⟩
      rw [hnone, replacementSellQuantity]
      refine sum_nonneg fun quantity hquantity => ?_
      obtain ⟨r, hr, rfl⟩ := mem_map.mp hquantity
      obtain rfl := mem_singleton.mp (mem_filter.mp hr).1
      exact (by norm_num : (0 : Decimal) ≤ 20)
  · have hsell := hsells a ha
    simp [OrderAggregate.isNormalSell, hbuy] at hsell

end Sample

end AdaptiveQuant
