import AdaptiveQuant.Lib.Dict
import Mathlib.Data.List.MinMax

/-! Choosing records from a list. -/

namespace Selection

open List

/-- The first record of the highest key. -/
def maximumBy {α κ : Type*} [LinearOrder κ] (key : α → κ) (items : List α) : Option α :=
  items.argmax key

/-- The first record of the lowest key. -/
def minimumBy {α κ : Type*} [LinearOrder κ] (key : α → κ) (items : List α) : Option α :=
  items.argmin key

section Minimum

variable {α κ : Type*} [LinearOrder κ] {key : α → κ} {items : List α} {a : α}

theorem minimumBy_cons_of_le (h : ∀ b ∈ items, key a ≤ key b) :
    minimumBy key (a :: items) = some a := by
  rw [minimumBy, argmin_cons]
  cases hmin : items.argmin key with
  | none => rfl
  | some b => simp only [if_neg (h b (argmin_mem hmin)).not_gt]

theorem minimumBy_map {β : Type*} (f : β → α) (items : List β) :
    minimumBy key (items.map f) = (minimumBy (fun b => key (f b)) items).map f := by
  induction items with
  | nil => rfl
  | cons b items ih =>
    unfold minimumBy at ih ⊢
    rw [map_cons, argmin_cons, argmin_cons, ih]
    cases items.argmin fun b => key (f b) with
    | none => rfl
    | some c =>
      simp only [Option.map_some]
      split <;> rfl

theorem minimumBy_spec (h : minimumBy key items = some a) :
    a ∈ items ∧ ∀ b ∈ items, key a ≤ key b :=
  ⟨argmin_mem h, fun _ hb => le_of_mem_argmin hb h⟩

theorem exists_minimumBy (h : items ≠ []) : ∃ a, minimumBy key items = some a := by
  cases hmin : minimumBy key items with
  | none => exact absurd (argmin_eq_none.mp hmin) h
  | some a => exact ⟨a, rfl⟩

end Minimum

section Newest

variable {α κ ρ : Type*} [DecidableEq κ] [LinearOrder ρ] (key : α → κ) (rank : α → ρ)

/-- One step of the scan: the record replaces the one of its key that has a lower rank. -/
def keepNewest (d : Dict κ α) (a : α) : Dict κ α :=
  if (d.get? (key a)).all (rank · < rank a) then d.set (key a) a else d

def Newest (items : List α) (a : α) : Prop :=
  a ∈ items ∧ ∀ b ∈ items, key b = key a → rank b ≤ rank a

/-- What a scan knows of a key. -/
def Scanned (items : List α) (k : κ) : Option α → Prop
  | none => ∀ b ∈ items, key b ≠ k
  | some a => key a = k ∧ Newest key rank items a

theorem scanned_foldl_keepNewest (items : List α) (k : κ) :
    Scanned key rank items k ((items.foldl (keepNewest key rank) .empty).get? k) := by
  induction items using List.reverseRecOn with
  | nil => simp [Scanned]
  | append_singleton items a ih =>
    rw [foldl_append, foldl_cons, foldl_nil]
    generalize items.foldl (keepNewest key rank) .empty = d at ih
    unfold keepNewest
    by_cases hkey : key a = k
    · subst hkey
      cases hold : d.get? (key a) with
      | none =>
        rw [hold] at ih
        simp only [Option.all_none, if_true, Dict.get?_set]
        refine ⟨rfl, by simp, fun b hb hsame => ?_⟩
        rcases mem_append.mp hb with hb | hb
        · exact (ih b hb hsame).elim
        · rw [mem_singleton.mp hb]
      | some old =>
        rw [hold] at ih
        obtain ⟨holdKey, hmem, hmax⟩ := ih
        by_cases hlt : rank old < rank a
        · simp only [Option.all_some, hlt, decide_true, if_true, Dict.get?_set]
          refine ⟨rfl, by simp, fun b hb hsame => ?_⟩
          rcases mem_append.mp hb with hb | hb
          · exact (hmax b hb (hsame.trans holdKey.symm)).trans hlt.le
          · rw [mem_singleton.mp hb]
        · simp only [Option.all_some, hlt, decide_false, Bool.false_eq_true, if_false, hold]
          refine ⟨holdKey, mem_append_left _ hmem, fun b hb hsame => ?_⟩
          rcases mem_append.mp hb with hb | hb
          · exact hmax b hb hsame
          · rw [mem_singleton.mp hb]
            exact not_lt.mp hlt
    · have hget : ∀ p : Prop, [Decidable p] →
          (if p then d.set (key a) a else d).get? k = d.get? k := by
        intro p _
        split
        · rw [Dict.get?_set, if_neg (Ne.symm hkey)]
        · rfl
      rw [hget]
      cases hold : d.get? k with
      | none =>
        rw [hold] at ih
        intro b hb
        rcases mem_append.mp hb with hb | hb
        · exact ih b hb
        · rwa [mem_singleton.mp hb]
      | some old =>
        rw [hold] at ih
        obtain ⟨holdKey, hmem, hmax⟩ := ih
        refine ⟨holdKey, mem_append_left _ hmem, fun b hb hsame => ?_⟩
        rcases mem_append.mp hb with hb | hb
        · exact hmax b hb hsame
        · rw [mem_singleton.mp hb] at hsame
          exact (hkey (hsame.trans holdKey)).elim

theorem mem_values_foldl_keepNewest {items : List α} {a : α}
    (apart : ∀ a ∈ items, ∀ b ∈ items, key a = key b → rank a = rank b → a = b) :
    a ∈ (items.foldl (keepNewest key rank) .empty).values ↔ Newest key rank items a := by
  constructor
  · intro h
    obtain ⟨⟨k, b⟩, hentry, rfl⟩ := mem_map.mp h
    have hscan := scanned_foldl_keepNewest key rank items k
    rw [Dict.get?_eq_some.mpr hentry] at hscan
    exact hscan.2
  · intro h
    have hscan := scanned_foldl_keepNewest key rank items (key a)
    cases hfound : (items.foldl (keepNewest key rank) .empty).get? (key a) with
    | none =>
      rw [hfound] at hscan
      exact (hscan a h.1 rfl).elim
    | some b =>
      rw [hfound] at hscan
      obtain ⟨hkey, hmem, hmax⟩ := hscan
      have hrank : rank a = rank b :=
        le_antisymm (hmax a h.1 hkey.symm) (h.2 b hmem hkey)
      rw [apart a h.1 b hmem hkey.symm hrank]
      exact Dict.mem_values_of_get? hfound

end Newest

section Firsts

variable {α κ : Type*} [DecidableEq κ] (key : α → κ)

/-- One step of the scan: a record whose key is there already is passed over. -/
def addFirst (kept : List α) (a : α) : List α :=
  if key a ∈ kept.map key then kept else kept ++ [a]

def firsts (items : List α) : List α := items.foldl (addFirst key) []

theorem firsts_concat (items : List α) (a : α) :
    firsts key (items ++ [a]) = addFirst key (firsts key items) a := by
  rw [firsts, foldl_append]
  rfl

theorem nodup_firsts (items : List α) : ((firsts key items).map key).Nodup := by
  induction items using List.reverseRecOn with
  | nil => exact nodup_nil
  | append_singleton items a ih =>
    rw [firsts_concat, addFirst]
    split
    · exact ih
    · rename_i hnew
      rw [map_append, map_singleton, ← concat_eq_append]
      exact List.Nodup.concat hnew ih

theorem mem_keys_firsts {items : List α} {k : κ} :
    k ∈ (firsts key items).map key ↔ k ∈ items.map key := by
  induction items using List.reverseRecOn with
  | nil => rfl
  | append_singleton items a ih =>
    rw [firsts_concat, addFirst, map_append, mem_append, ← ih, map_singleton,
      mem_singleton]
    split
    · rename_i hold
      exact ⟨.inl, fun h => h.elim id (fun heq => heq ▸ hold)⟩
    · rw [map_append, mem_append, map_singleton, mem_singleton]

theorem firsts_append (front rest : List α) :
    ∃ added, firsts key (front ++ rest) = firsts key front ++ added ∧ added ⊆ rest := by
  induction rest using List.reverseRecOn with
  | nil => exact ⟨[], by simp, List.Subset.refl _⟩
  | append_singleton rest a ih =>
    obtain ⟨added, hadded, hsub⟩ := ih
    rw [← append_assoc, firsts_concat, hadded, addFirst]
    split
    · exact ⟨added, rfl, List.Subset.trans hsub (subset_append_left _ _)⟩
    · refine ⟨added ++ [a], by rw [append_assoc], ?_⟩
      exact append_subset.mpr ⟨List.Subset.trans hsub (subset_append_left _ _),
        subset_append_right _ _⟩

theorem firsts_subset (items : List α) : firsts key items ⊆ items := by
  obtain ⟨added, hadded, hsub⟩ := firsts_append key [] items
  rw [nil_append] at hadded
  rw [hadded]
  exact hsub

theorem values_foldl_setdefault (items : List α) :
    (items.foldl (fun d a => if (d.get? (key a)).isSome then d else d.set (key a) a)
      (.empty : Dict κ α)).values = firsts key items := by
  have hentries : (items.foldl (fun d a => if (d.get? (key a)).isSome then d
      else d.set (key a) a) (.empty : Dict κ α)).entries =
        (firsts key items).map fun a => (key a, a) := by
    induction items using List.reverseRecOn with
    | nil => rfl
    | append_singleton items a ih =>
      rw [foldl_append, foldl_cons, foldl_nil, firsts_concat]
      generalize items.foldl _ _ = d at ih
      have hkeys : d.keys = (firsts key items).map key := by
        rw [Dict.keys, ih, map_map]
        rfl
      unfold addFirst
      by_cases hold : key a ∈ (firsts key items).map key
      · rw [if_pos hold]
        rw [← hkeys, Dict.mem_keys] at hold
        obtain ⟨value, hvalue⟩ := hold
        rw [hvalue, Option.isSome_some, if_pos rfl]
        exact ih
      · rw [if_neg hold, map_append, map_singleton, ← ih]
        rw [← hkeys] at hold
        rw [Dict.get?_eq_none.mpr hold, Option.isSome_none, if_neg (by simp)]
        exact Dict.setEntries_of_notMem hold
  rw [Dict.values, hentries, map_map]
  exact map_id' _

end Firsts

section Batches

variable {α : Type*} (size : ℕ)

/-- The batches of `size` elements; a rest that is shorter makes none. -/
def batches (items : List α) : List (List α) :=
  (List.range (items.length / size)).map fun k => (items.drop (k * size)).take size

theorem mem_batches {items batch : List α} :
    batch ∈ batches size items ↔
      ∃ k < items.length / size, batch = (items.drop (k * size)).take size := by
  simp only [batches, mem_map, mem_range]
  exact exists_congr fun k => and_congr_right fun _ => eq_comm

theorem batch_end_le {items : List α} {k : ℕ} (h : k < items.length / size) :
    k * size + size ≤ items.length :=
  calc k * size + size = (k + 1) * size := (Nat.succ_mul k size).symm
    _ ≤ items.length / size * size := Nat.mul_le_mul_right size h
    _ ≤ items.length := Nat.div_mul_le_self _ _

theorem length_of_mem_batches {items batch : List α} (h : batch ∈ batches size items) :
    batch.length = size := by
  obtain ⟨k, hk, rfl⟩ := (mem_batches size).mp h
  have hend := batch_end_le size hk
  rw [length_take, length_drop]
  omega

theorem subset_of_mem_batches {items batch : List α} (h : batch ∈ batches size items) :
    batch ⊆ items := by
  obtain ⟨k, -, rfl⟩ := (mem_batches size).mp h
  exact List.Subset.trans (take_subset _ _) (drop_subset _ _)

theorem flatten_batches_eq (items : List α) (n : ℕ) :
    ((List.range n).map fun k => (items.drop (k * size)).take size).flatten =
      items.take (n * size) := by
  induction n with
  | zero => simp
  | succ n ih =>
    rw [range_succ, map_append, flatten_append, ih, map_singleton,
      flatten_singleton, Nat.succ_mul, take_add]

theorem flatten_batches (items : List α) :
    (batches size items).flatten = items.take (items.length / size * size) :=
  flatten_batches_eq size items _

theorem batches_disjoint {κ : Type*} {key : α → κ} {items : List α} (nodup : (items.map key).Nodup)
    {a b : List α} (ha : a ∈ batches size items) (hb : b ∈ batches size items) {x y : α}
    (hx : x ∈ a) (hy : y ∈ b) (same : key x = key y) : a = b := by
  have hitems : items.Nodup := List.Nodup.of_map key nodup
  have hflat : (batches size items).flatten.Nodup := by
    rw [flatten_batches]
    exact hitems.sublist (take_sublist _ _)
  obtain rfl := inj_on_of_nodup_map nodup (subset_of_mem_batches size ha hx)
    (subset_of_mem_batches size hb hy) same
  by_contra hne
  have hsymm : Std.Symm (List.Disjoint (α := α)) := ⟨fun _ _ h _ hy hx => h hx hy⟩
  have hdisjoint := (nodup_flatten.mp hflat).2.forall ha hb hne
  exact hdisjoint hx hy

theorem mem_batches_of_append {front rest batch : List α} (positive : 0 < size)
    (h : batch ∈ batches size (front ++ rest)) (outside : ∀ x ∈ batch, x ∉ rest) :
    batch ∈ batches size front := by
  obtain ⟨k, hk, rfl⟩ := (mem_batches size).mp h
  have hend := batch_end_le size hk
  have hwithin : k * size + size ≤ front.length := by
    by_contra hlt
    -- The last element of the batch would come from the rest.
    have hindex : k * size + (size - 1) < (front ++ rest).length := by omega
    have hlast : (front ++ rest)[k * size + (size - 1)] ∈
        ((front ++ rest).drop (k * size)).take size := by
      rw [mem_iff_getElem]
      refine ⟨size - 1, ?_, ?_⟩
      · rw [length_take, length_drop]
        omega
      · rw [getElem_take, getElem_drop]
    refine outside _ hlast ?_
    rw [getElem_append_right (by omega)]
    exact getElem_mem _
  refine (mem_batches size).mpr ⟨k, ?_, ?_⟩
  · rw [Nat.lt_div_iff_mul_lt positive]
    omega
  · rw [drop_append_of_le_length (by omega), take_append_of_le_length]
    rw [length_drop]
    omega

theorem length_drop_batches_lt (items : List α) (positive : 0 < size) :
    (items.drop (items.length / size * size)).length < size := by
  rw [length_drop]
  have hmod := Nat.mod_lt items.length positive
  have hdiv := Nat.div_add_mod' items.length size
  omega

end Batches

end Selection
