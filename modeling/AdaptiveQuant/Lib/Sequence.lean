import Mathlib.Data.List.Sort
import Mathlib.Data.List.Range
import Mathlib.Data.List.Basic
import Mathlib.Algebra.Order.BigOperators.Group.List
import Mathlib.Data.List.Perm.Subperm

/-! Streams of records with sequence numbers. -/

namespace Sequence

open List

variable {α : Type*}

section Sorting

variable {κ : Type*} [LinearOrder κ] (key : α → κ)

/-- The records sorted by `key`; records with equal keys keep their order. -/
def sortedBy (xs : List α) : List α := xs.insertionSort fun a b => key a ≤ key b

theorem sortedBy_perm (xs : List α) : (sortedBy key xs).Perm xs := perm_insertionSort _ xs

theorem sortedBy_pairwise (xs : List α) : (sortedBy key xs).Pairwise fun a b => key a ≤ key b := by
  have total : Std.Total fun a b : α => key a ≤ key b := ⟨fun a b => le_total (key a) (key b)⟩
  have trans : IsTrans α fun a b : α => key a ≤ key b := ⟨fun _ _ _ => le_trans⟩
  exact pairwise_insertionSort _ xs

variable {xs : List α} {x : α}

@[simp] theorem mem_sortedBy : x ∈ sortedBy key xs ↔ x ∈ xs :=
  (sortedBy_perm key xs).mem_iff

theorem sortedBy_eq_self (h : xs.Pairwise fun a b => key a ≤ key b) :
    sortedBy key xs = xs := List.Pairwise.insertionSort_eq h

@[simp] theorem sortedBy_nil : sortedBy key ([] : List α) = [] := rfl

@[simp] theorem length_sortedBy (xs : List α) : (sortedBy key xs).length = xs.length :=
  (sortedBy_perm key xs).length_eq

@[simp] theorem sortedBy_eq_nil : sortedBy key xs = [] ↔ xs = [] := by
  rw [← length_eq_zero_iff, length_sortedBy, length_eq_zero_iff]

theorem sortedBy_eq_of_perm {ys : List α} (hp : xs.Perm ys) (hn : (xs.map key).Nodup) :
    sortedBy key xs = sortedBy key ys := by
  have hxy : (sortedBy key xs).Perm (sortedBy key ys) :=
    (sortedBy_perm key xs).trans (hp.trans (sortedBy_perm key ys).symm)
  refine hxy.eq_of_pairwise (fun a b ha hb hab hba => ?_) (sortedBy_pairwise key xs)
    (sortedBy_pairwise key ys)
  have ha' : a ∈ xs := (mem_sortedBy key).mp ha
  have hb' : b ∈ xs := hp.mem_iff.mpr ((mem_sortedBy key).mp hb)
  exact inj_on_of_nodup_map hn ha' hb' (le_antisymm hab hba)

theorem sortedBy_eq_of_perm_of_injective {ys : List α} (hp : xs.Perm ys)
    (injective : Function.Injective key) : sortedBy key xs = sortedBy key ys :=
  ((sortedBy_perm key xs).trans (hp.trans (sortedBy_perm key ys).symm)).eq_of_pairwise
    (fun _ _ _ _ hab hba => injective (le_antisymm hab hba)) (sortedBy_pairwise key xs)
    (sortedBy_pairwise key ys)

theorem sortedBy_filter (injective : Function.Injective key) (p : α → Bool) :
    sortedBy key (xs.filter p) = (sortedBy key xs).filter p := by
  have hsorted := (sortedBy_pairwise key xs).sublist (filter_sublist (p := p))
  rw [← sortedBy_eq_self key hsorted]
  exact sortedBy_eq_of_perm_of_injective key ((sortedBy_perm key xs).symm.filter p) injective

theorem filter_le_append_filter_lt (sorted : xs.Pairwise fun a b => key a ≤ key b)
    (cutoff : κ) : (xs.filter (key · ≤ cutoff)) ++ (xs.filter (cutoff < key ·)) = xs := by
  induction xs with
  | nil => rfl
  | cons a xs ih =>
    rw [pairwise_cons] at sorted
    by_cases ha : key a ≤ cutoff
    · rw [filter_cons_of_pos (by simpa using ha),
        filter_cons_of_neg (by simpa using ha), cons_append, ih sorted.2]
    · have hnone : xs.filter (key · ≤ cutoff) = [] := by
        refine filter_eq_nil_iff.mpr fun b hb => ?_
        have hab := sorted.1 b hb
        simpa using lt_of_lt_of_le (not_le.mp ha) hab
      have hall : xs.filter (cutoff < key ·) = xs := by
        have hrest := ih sorted.2
        rwa [hnone, nil_append] at hrest
      rw [filter_cons_of_neg (by simpa using ha), hnone,
        filter_cons_of_pos (by simpa using ha), hall, nil_append]

theorem sortedBy_eq_sortedBy {κ' : Type*} [LinearOrder κ'] (key' : α → κ')
    (hn : (xs.map key').Nodup) (h : (sortedBy key xs).Pairwise fun a b => key' a ≤ key' b) :
    sortedBy key' xs = sortedBy key xs := by
  rw [sortedBy_eq_of_perm key' (sortedBy_perm key xs).symm hn, sortedBy_eq_self key' h]

theorem map_sortedBy {β : Type*} (f : β → α) (xs : List β) :
    (sortedBy (fun x => key (f x)) xs).map f = sortedBy key (xs.map f) :=
  map_insertionSort _ _ f xs fun _ _ _ _ => Iff.rfl

theorem sortedBy_concat (h : ∀ y ∈ xs, key y ≤ key x) :
    sortedBy key (xs ++ [x]) = sortedBy key xs ++ [x] := by
  induction xs with
  | nil => rfl
  | cons y ys ih =>
    have hys := ih fun z hz => h z (mem_cons_of_mem y hz)
    have insert : ∀ zs : List α, key y ≤ key x →
        (zs ++ [x]).orderedInsert (fun a b => key a ≤ key b) y =
          zs.orderedInsert (fun a b => key a ≤ key b) y ++ [x] := by
      intro zs hyx
      induction zs with
      | nil => simp [hyx]
      | cons z zs ihz =>
        by_cases hz : key y ≤ key z
        · simp [hz]
        · simp only [cons_append, orderedInsert_cons, hz, if_false, ihz]
    show (sortedBy key (ys ++ [x])).orderedInsert _ y = _
    rw [hys]
    exact insert _ (h y mem_cons_self)

theorem getLast?_sortedBy (h : (sortedBy key xs).getLast? = some x) :
    x ∈ xs ∧ ∀ y ∈ xs, key y ≤ key x := by
  obtain ⟨front, hfront⟩ := List.getLast?_eq_some_iff.mp h
  refine ⟨(mem_sortedBy key).mp (mem_of_getLast? h), fun y hy => ?_⟩
  have hsorted := sortedBy_pairwise key xs
  rw [← mem_sortedBy key, hfront, mem_append, mem_singleton] at hy
  rw [hfront, pairwise_append] at hsorted
  rcases hy with hy | rfl
  · exact hsorted.2.2 y hy x (mem_singleton.mpr rfl)
  · exact le_refl _

theorem sortedBy_filter_eq_drop {log : List α} {k : ℕ} {cursor : κ}
    (sorted : log.Pairwise fun a b => key a ≤ key b) (read : ∀ a ∈ log.take k, key a ≤ cursor)
    (rest : ∀ a ∈ log.drop k, cursor < key a) :
    sortedBy key (log.filter fun a => cursor < key a) = log.drop k := by
  have hfilter : (log.filter fun a => cursor < key a) = log.drop k := by
    conv_lhs => rw [← take_append_drop k log]
    rw [filter_append, filter_eq_nil_iff.mpr fun a ha => by simpa using read a ha,
      filter_eq_self.mpr fun a ha => by simpa using rest a ha, nil_append]
  rw [hfilter]
  exact sortedBy_eq_self key (sorted.sublist (drop_sublist k log))

end Sorting

variable {xs : List α} {x : α}

theorem forall_split_concat {P : List α → α → Prop} :
    (∀ pre a post, xs ++ [x] = pre ++ a :: post → P pre a) ↔
      (∀ pre a post, xs = pre ++ a :: post → P pre a) ∧ P xs x := by
  constructor
  · intro h
    refine ⟨fun pre a post hsplit => h pre a (post ++ [x]) (by simp [hsplit]), ?_⟩
    exact h xs x [] rfl
  · rintro ⟨hxs, hlast⟩ pre a post hsplit
    rcases eq_nil_or_concat' post with rfl | ⟨front, b, rfl⟩
    · obtain ⟨rfl, hx⟩ := append_inj' hsplit rfl
      obtain rfl : x = a := by simpa using hx
      exact hlast
    · rw [← cons_append, ← append_assoc] at hsplit
      obtain ⟨rfl, -⟩ := append_inj' hsplit rfl
      exact hxs pre a front rfl

theorem isChain_of_forall_mem_zip_tail {r : α → α → Prop}
    (h : ∀ pair ∈ xs.zip xs.tail, r pair.1 pair.2) : xs.IsChain r := by
  induction xs with
  | nil => exact .nil
  | cons x xs ih =>
    cases xs with
    | nil => exact .singleton x
    | cons y ys =>
      rw [tail_cons, zip_cons_cons, forall_mem_cons] at h
      exact .cons_cons h.1 (ih h.2)

theorem exists_of_forall₂ {β : Type*} {r : α → β → Prop} {ys : List β} (h : List.Forall₂ r xs ys) :
    (∀ x ∈ xs, ∃ y ∈ ys, r x y) ∧ ∀ y ∈ ys, ∃ x ∈ xs, r x y := by
  induction h with
  | nil => simp
  | cons hr _ ih => exact ⟨by grind, by grind⟩

theorem sum_map_le_of_subset {κ M : Type*} [AddCommMonoid M] [PartialOrder M] [IsOrderedAddMonoid M]
    {items all : List κ} {weight : κ → M} (nodup : items.Nodup) (sub : items ⊆ all)
    (nonneg : ∀ item ∈ all, 0 ≤ weight item) : (items.map weight).sum ≤ (all.map weight).sum := by
  obtain ⟨chosen, hperm, hsub⟩ := nodup.subperm sub
  rw [← (hperm.map weight).sum_eq]
  refine List.Sublist.sum_le_sum (hsub.map weight) fun x hx => ?_
  obtain ⟨item, hitem, rfl⟩ := mem_map.mp hx
  exact nonneg item hitem

theorem nodup_snoc (h : xs.Nodup) (hx : x ∉ xs) : (xs ++ [x]).Nodup := by
  rw [← concat_eq_append]
  exact (nodup_concat xs x).mpr ⟨hx, h⟩

theorem pairwise_concat {r : α → α → Prop} (trans : ∀ {a b c}, r a b → r b c → r a c)
    (h : xs.Pairwise r) (hlast : ∀ last ∈ xs.getLast?, r last x) :
    (xs ++ [x]).Pairwise r := by
  rw [pairwise_append]
  refine ⟨h, pairwise_singleton _ _, fun a ha b hb => ?_⟩
  obtain rfl := mem_singleton.mp hb
  rcases eq_nil_or_concat' xs with rfl | ⟨front, last, rfl⟩
  · cases ha
  · have hb := hlast last (by simp)
    rcases mem_append.mp ha with ha | ha
    · exact trans ((pairwise_append.mp h).2.2 a ha last (by simp)) hb
    · obtain rfl := mem_singleton.mp ha
      exact hb

theorem prefix_of_monotone {p : α → Bool}
    (h : xs.Pairwise fun a b => p b = true → p a = true) : xs.filter p <+: xs := by
  induction xs with
  | nil => simp
  | cons x xs ih =>
    rw [pairwise_cons] at h
    cases hx : p x with
    | true =>
      rw [filter_cons_of_pos hx]
      exact (prefix_cons_inj x).mpr (ih h.2)
    | false =>
      have hnone : (x :: xs).filter p = [] := by
        rw [filter_eq_nil_iff]
        intro a ha hpa
        rcases mem_cons.mp ha with rfl | ha
        · rw [hx] at hpa
          cases hpa
        · have := h.1 a ha hpa
          rw [hx] at this
          cases this
      rw [hnone]
      exact nil_prefix

section Numbered

variable (seq : α → ℕ)

/-- The sequence numbers are 1, 2, 3, and so on, in order. -/
def Numbered (xs : List α) : Prop := xs.map seq = List.range' 1 xs.length

instance (xs : List α) : Decidable (Numbered seq xs) := by unfold Numbered; infer_instance

variable {seq}

theorem Numbered.nil : Numbered seq ([] : List α) := rfl

variable {xs : List α}

theorem Numbered.nodup (h : Numbered seq xs) : (xs.map seq).Nodup := by
  rw [h]
  exact nodup_range'

theorem Numbered.pairwise (h : Numbered seq xs) : xs.Pairwise fun a b => seq a < seq b := by
  have : (xs.map seq).Pairwise (· < ·) := by
    rw [h]
    exact pairwise_lt_range'
  exact pairwise_map.mp this

theorem Numbered.sortedBy_eq (h : Numbered seq xs) : sortedBy seq xs = xs :=
  sortedBy_eq_self seq (h.pairwise.imp fun hlt => le_of_lt hlt)

variable {x : α}

theorem numbered_concat : Numbered seq (xs ++ [x]) ↔ Numbered seq xs ∧ seq x = xs.length + 1 := by
  unfold Numbered
  rw [map_append, length_append, length_singleton, List.range'_concat]
  simp only [map_cons, map_nil, Nat.one_mul]
  constructor
  · intro h
    obtain ⟨h1, h2⟩ := append_inj h (by simp)
    exact ⟨h1, by simpa [Nat.add_comm] using h2⟩
  · rintro ⟨h1, h2⟩
    rw [h1, h2, Nat.add_comm]

theorem Numbered.elim_getLast? (h : Numbered seq xs) : xs.getLast?.elim 0 seq = xs.length := by
  induction xs using List.reverseRecOn with
  | nil => rfl
  | append_singleton ys y =>
    rw [List.getLast?_concat, Option.elim_some, (numbered_concat.mp h).2, length_append,
      length_singleton]

theorem Numbered.take (h : Numbered seq xs) (n : ℕ) : Numbered seq (xs.take n) := by
  unfold Numbered at *
  rw [map_take, h, length_take]
  refine ext_getElem (by simp) fun i h1 h2 => ?_
  simp

theorem Numbered.le_length (h : Numbered seq xs) (hx : x ∈ xs) : seq x ≤ xs.length := by
  have : seq x ∈ List.range' 1 xs.length := h ▸ mem_map_of_mem hx
  rw [mem_range'_1] at this
  omega

theorem Numbered.exists_of_lt (h : Numbered seq xs) {n : ℕ} (hn : n < xs.length) :
    ∃ x ∈ xs, seq x = n + 1 := by
  have hmem : n + 1 ∈ xs.map seq := by
    rw [h, mem_range'_1]
    omega
  exact mem_map.mp hmem

theorem Numbered.eq_of_perm {ys : List α} (hx : Numbered seq xs) (hp : ys.Perm xs) :
    sortedBy seq ys = xs := by
  rw [sortedBy_eq_of_perm seq hp ((hp.map seq).nodup_iff.mpr hx.nodup), hx.sortedBy_eq]

theorem Numbered.filter_eq_take (h : Numbered seq xs) (p : α → Bool)
    (hf : Numbered seq (xs.filter p)) : xs.filter p = xs.take (xs.filter p).length := by
  have hle : (xs.filter p).length ≤ xs.length := length_filter_le p xs
  have hmap : (xs.filter p).map seq = (xs.take (xs.filter p).length).map seq := by
    rw [hf, h.take, length_take, min_eq_left hle]
  have hsub : ∀ x ∈ xs.filter p, x ∈ xs := fun x hx => (mem_filter.mp hx).1
  have hsub' : ∀ x ∈ xs.take (xs.filter p).length, x ∈ xs := fun x hx => mem_of_mem_take hx
  refine ext_getElem (by simp [hle]) fun i h1 h2 => ?_
  have hi : seq (xs.filter p)[i] = seq (xs.take (xs.filter p).length)[i] := by
    have hget := congrArg (fun l => l[i]?) hmap
    simpa only [List.getElem?_map, List.getElem?_eq_getElem h1, List.getElem?_eq_getElem h2,
      Option.map_some, Option.some.injEq] using hget
  exact inj_on_of_nodup_map h.nodup (hsub _ (getElem_mem h1))
    (hsub' _ (getElem_mem h2)) hi

theorem Numbered.seq_of_sorted_concat {ys : List α} (h : Numbered seq xs)
    (hp : ys.Perm xs) (hnew : Numbered seq (sortedBy seq (ys ++ [x]))) :
    seq x = xs.length + 1 := by
  have hlen : (sortedBy seq (ys ++ [x])).length = xs.length + 1 := by simp [hp.length_eq]
  have hmem : seq x ≤ xs.length + 1 := hlen ▸ hnew.le_length (by simp)
  have hfresh : seq x ∉ xs.map seq := by
    have hnodup : ((ys ++ [x]).map seq).Nodup :=
      ((sortedBy_perm seq (ys ++ [x])).map seq).nodup_iff.mp hnew.nodup
    rw [map_append, nodup_append] at hnodup
    intro hx
    have hy : seq x ∈ ys.map seq := (hp.map seq).mem_iff.mpr hx
    exact hnodup.2.2 (seq x) hy (seq x) (by simp) rfl
  have hpos : 1 ≤ seq x := by
    have : seq x ∈ List.range' 1 (sortedBy seq (ys ++ [x])).length :=
      hnew ▸ mem_map_of_mem (by simp)
    exact (mem_range'_1.mp this).1
  rw [h, mem_range'_1] at hfresh
  omega

end Numbered

theorem filter_le_prefix_iff {κ : Type*} [LinearOrder κ] (key : α → κ) (start : κ) :
    (∀ cutoff, start ≤ cutoff → (xs.filter (key · ≤ cutoff)) <+: xs) ↔
      xs.Pairwise fun a b => key a ≤ max start (key b) := by
  induction xs with
  | nil => simp
  | cons a xs ih =>
    rw [pairwise_cons, ← ih]
    constructor
    · intro h
      refine ⟨fun b hb => ?_, fun cutoff hc => ?_⟩
      · -- at the cutoff where `b` is read, `a` must be read before it
        by_contra hlt
        have hpre := h (max start (key b)) (le_max_left _ _)
        rw [filter_cons_of_neg (by simpa using hlt)] at hpre
        have hbf : b ∈ xs.filter (key · ≤ max start (key b)) := mem_filter.mpr ⟨hb, by simp⟩
        cases hf : xs.filter (key · ≤ max start (key b)) with
        | nil => rw [hf] at hbf; cases hbf
        | cons c cs =>
          rw [hf, cons_prefix_cons] at hpre
          have hc : c ∈ xs.filter (key · ≤ max start (key b)) := by rw [hf]; exact mem_cons_self
          have hle := (mem_filter.mp hc).2
          rw [hpre.1] at hle
          exact hlt (by simpa using hle)
      · have hpre := h cutoff hc
        by_cases ha : key a ≤ cutoff
        · rw [filter_cons_of_pos (by simpa using ha), cons_prefix_cons] at hpre
          exact hpre.2
        · rw [filter_cons_of_neg (by simpa using ha)] at hpre
          cases hf : xs.filter (key · ≤ cutoff) with
          | nil => exact nil_prefix
          | cons c cs =>
            rw [hf, cons_prefix_cons] at hpre
            have hmem : c ∈ xs.filter (key · ≤ cutoff) := by rw [hf]; exact mem_cons_self
            have hle := (mem_filter.mp hmem).2
            rw [hpre.1] at hle
            exact absurd (by simpa using hle) ha
    · rintro ⟨hhead, htail⟩ cutoff hc
      by_cases ha : key a ≤ cutoff
      · rw [filter_cons_of_pos (by simpa using ha), cons_prefix_cons]
        exact ⟨rfl, htail cutoff hc⟩
      · have hnone : (a :: xs).filter (key · ≤ cutoff) = [] := by
          refine filter_eq_nil_iff.mpr fun b hb => ?_
          rcases mem_cons.mp hb with rfl | hb
          · simpa using ha
          · have := hhead b hb
            intro hle
            exact ha (this.trans (max_le hc (by simpa using hle)))
        rw [hnone]
        exact nil_prefix

end Sequence
