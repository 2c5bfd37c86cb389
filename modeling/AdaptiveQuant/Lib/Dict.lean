import AdaptiveQuant.Lib.Sequence
import Mathlib.Tactic.Abel

/-! Dictionaries that keep the order of insertion. -/

/-- Entries in the order of insertion, with distinct keys. -/
structure Dict (κ : Type*) (α : Type*) where
  entries : List (κ × α)
  nodup : (entries.map (·.1)).Nodup

namespace Dict

open List

variable {κ : Type*} {α β : Type*} [DecidableEq κ]

instance [DecidableEq α] : DecidableEq (Dict κ α) := fun a b =>
  decidable_of_iff (a.entries = b.entries) (by cases a; cases b; simp)

def empty : Dict κ α := ⟨[], nodup_nil⟩

def keys (d : Dict κ α) : List κ := d.entries.map (·.1)

def values (d : Dict κ α) : List α := d.entries.map (·.2)

def get? (d : Dict κ α) (key : κ) : Option α := (d.entries.find? (·.1 = key)).map (·.2)

def getD (d : Dict κ α) (key : κ) (fallback : α) : α := (d.get? key).getD fallback

/-- The entries that pass `p`, in their order. -/
def filter (d : Dict κ α) (p : κ → α → Bool) : Dict κ α where
  entries := d.entries.filter fun entry => p entry.1 entry.2
  nodup := d.nodup.sublist (filter_sublist.map _)

def mapVal (d : Dict κ α) (f : κ → α → β) : Dict κ β where
  entries := d.entries.map fun entry => (entry.1, f entry.1 entry.2)
  nodup := by
    rw [map_map]
    exact d.nodup

/-- The entry of `key` gets a new value in its place, or is added at the end. -/
def setEntries (key : κ) (value : α) : List (κ × α) → List (κ × α)
  | [] => [(key, value)]
  | entry :: rest =>
    if entry.1 = key then (key, value) :: rest else entry :: setEntries key value rest

theorem mem_keys_setEntries {key other : κ} {value : α} {entries : List (κ × α)} :
    other ∈ (setEntries key value entries).map (·.1) ↔ other = key ∨ other ∈ entries.map (·.1) := by
  induction entries with
  | nil => simp [setEntries]
  | cons entry rest ih =>
    unfold setEntries
    split
    · rename_i h
      simp [h]
    · rw [map_cons, mem_cons, ih, map_cons, mem_cons]
      tauto

theorem setEntries_of_notMem {key : κ} {value : α} {entries : List (κ × α)}
    (new : key ∉ entries.map (·.1)) : setEntries key value entries = entries ++ [(key, value)] := by
  induction entries with
  | nil => rfl
  | cons entry rest ih =>
    rw [map_cons, mem_cons, not_or] at new
    rw [setEntries, if_neg (Ne.symm new.1), ih new.2, cons_append]

def set (d : Dict κ α) (key : κ) (value : α) : Dict κ α where
  entries := setEntries key value d.entries
  nodup := by
    obtain ⟨entries, nodup⟩ := d
    induction entries with
    | nil => simp [setEntries]
    | cons entry rest ih =>
      rw [map_cons, nodup_cons] at nodup
      unfold setEntries
      split
      · rename_i h
        rw [map_cons, nodup_cons]
        exact h ▸ nodup
      · rename_i h
        rw [map_cons, nodup_cons, mem_keys_setEntries]
        refine ⟨?_, ih nodup.2⟩
        rintro (heq | hmem)
        · exact h heq
        · exact nodup.1 hmem

def sortedItems [LinearOrder κ] (d : Dict κ α) : List (κ × α) := Sequence.sortedBy (·.1) d.entries

def sorted [LinearOrder κ] (d : Dict κ α) : Dict κ α where
  entries := d.sortedItems
  nodup := ((Sequence.sortedBy_perm _ d.entries).map (·.1)).nodup_iff.mpr d.nodup

variable {d : Dict κ α}

omit [DecidableEq κ] in
theorem mem_values_sorted [LinearOrder κ] {value : α} :
    value ∈ d.sorted.values ↔ value ∈ d.values :=
  ((Sequence.sortedBy_perm (fun entry : κ × α => entry.1) d.entries).map
    fun entry : κ × α => entry.2).mem_iff

theorem get?_eq_some {key : κ} {value : α} :
    d.get? key = some value ↔ (key, value) ∈ d.entries := by
  unfold get?
  constructor
  · intro h
    obtain ⟨entry, hfind, rfl⟩ := Option.map_eq_some_iff.mp h
    have hkey : entry.1 = key := by simpa using List.find?_some hfind
    rw [← hkey]
    exact mem_of_find?_eq_some hfind
  · intro h
    cases hfind : d.entries.find? (·.1 = key) with
    | none => exact False.elim (List.find?_eq_none.mp hfind _ h (by simp))
    | some entry =>
      have hkey : entry.1 = key := by simpa using List.find?_some hfind
      have hentry : entry = (key, value) :=
        inj_on_of_nodup_map d.nodup (mem_of_find?_eq_some hfind) h hkey
      rw [hentry]
      rfl

theorem filter_key_eq (d : Dict κ α) (key : κ) :
    d.entries.filter (·.1 = key) = ((d.get? key).map fun value => (key, value)).toList := by
  obtain ⟨entries, nodup⟩ := d
  show _ = (((entries.find? (·.1 = key)).map (·.2)).map fun value => (key, value)).toList
  induction entries with
  | nil => rfl
  | cons entry rest ih =>
    rw [map_cons, nodup_cons] at nodup
    by_cases h : entry.1 = key
    · subst h
      have hrest : rest.filter (fun other => decide (other.1 = entry.1)) = [] := by
        rw [filter_eq_nil_iff]
        intro other hother
        have hne : other.1 ≠ entry.1 := fun heq => nodup.1 (heq ▸ mem_map_of_mem hother)
        simpa using hne
      simp [hrest]
    · rw [filter_cons_of_neg (by simpa using h), List.find?_cons_of_neg (by simpa using h)]
      exact ih nodup.2

theorem mem_keys {key : κ} : key ∈ d.keys ↔ ∃ value, d.get? key = some value := by
  simp only [get?_eq_some, keys, mem_map, Prod.exists, exists_and_right, exists_eq_right]

theorem mem_values_of_get? {key : κ} {value : α} (h : d.get? key = some value) :
    value ∈ d.values := mem_map_of_mem (get?_eq_some.mp h)

theorem get?_eq_none {key : κ} : d.get? key = none ↔ key ∉ d.keys := by
  rw [mem_keys, Option.eq_none_iff_forall_ne_some, not_exists]

theorem getD_of_get? {key : κ} {value fallback : α} (h : d.get? key = some value) :
    d.getD key fallback = value := by
  rw [getD, h, Option.getD_some]

@[simp] theorem get?_empty (key : κ) : (empty : Dict κ α).get? key = none := rfl

theorem get?_mapVal (d : Dict κ α) (f : κ → α → β) (key : κ) :
    (d.mapVal f).get? key = (d.get? key).map (f key) := by
  unfold get? mapVal
  rw [List.find?_map]
  cases hfind : d.entries.find? (·.1 = key) with
  | none =>
    have hnone : d.entries.find? ((fun entry : κ × β => decide (entry.1 = key)) ∘
        fun entry => (entry.1, f entry.1 entry.2)) = none := hfind
    rw [hnone]
    rfl
  | some entry =>
    have hsome : d.entries.find? ((fun entry : κ × β => decide (entry.1 = key)) ∘
        fun entry => (entry.1, f entry.1 entry.2)) = some entry := hfind
    have hkey : entry.1 = key := by simpa using List.find?_some hfind
    rw [hsome, Option.map_some, Option.map_some, Option.map_some, hkey]
    rfl

theorem get?_filter_eq_some {p : κ → α → Bool} {key : κ} {value : α} :
    (d.filter p).get? key = some value ↔ d.get? key = some value ∧ p key value = true := by
  simp [get?_eq_some, filter]

theorem get?_filter (d : Dict κ α) (p : κ → α → Bool) (key : κ) :
    (d.filter p).get? key = (d.get? key).filter (p key) := by
  refine Option.ext fun value => ?_
  rw [get?_filter_eq_some, Option.filter_eq_some_iff]

omit [DecidableEq κ] in
@[simp] theorem keys_mapVal (d : Dict κ α) (f : κ → α → β) : (d.mapVal f).keys = d.keys := by
  simp [keys, mapVal]

omit [DecidableEq κ] in
theorem mapVal_mapVal {γ : Type*} (d : Dict κ α) (f : κ → α → β) (g : κ → β → γ) :
    (d.mapVal f).mapVal g = d.mapVal fun key value => g key (f key value) := by
  unfold mapVal
  congr 1
  rw [map_map]
  rfl

omit [DecidableEq κ] in
theorem mapVal_eq_self {f : κ → α → α}
    (h : ∀ entry ∈ d.entries, f entry.1 entry.2 = entry.2) : d.mapVal f = d := by
  obtain ⟨entries, nodup⟩ := d
  have hmap : entries.map (fun entry => (entry.1, f entry.1 entry.2)) = entries := by
    conv_rhs => rw [← map_id entries]
    exact map_congr_left fun entry hentry => Prod.ext rfl (h entry hentry)
  unfold mapVal
  congr 1

omit [DecidableEq κ] in
theorem sorted_sorted [LinearOrder κ] (d : Dict κ α) : d.sorted.sorted = d.sorted := by
  have hsorted : Sequence.sortedBy (·.1) d.sorted.entries = d.sorted.entries :=
    Sequence.sortedBy_eq_self _ (Sequence.sortedBy_pairwise _ d.entries)
  conv_lhs => unfold sorted sortedItems
  congr 1

theorem mem_setEntries {key : κ} {value : α} {entries : List (κ × α)} {entry : κ × α}
    (nodup : (entries.map (·.1)).Nodup) :
    entry ∈ setEntries key value entries ↔
      entry = (key, value) ∨ (entry ∈ entries ∧ entry.1 ≠ key) := by
  induction entries with
  | nil => simp [setEntries]
  | cons first rest ih =>
    rw [map_cons, nodup_cons] at nodup
    unfold setEntries
    split
    · rename_i h
      rw [mem_cons, mem_cons]
      constructor
      · rintro (rfl | hmem)
        · exact .inl rfl
        · refine .inr ⟨.inr hmem, fun heq => nodup.1 ?_⟩
          rw [h, ← heq]
          exact mem_map_of_mem hmem
      · rintro (rfl | ⟨rfl | hmem, hne⟩)
        · exact .inl rfl
        · exact absurd h hne
        · exact .inr hmem
    · rename_i h
      rw [mem_cons, mem_cons, ih nodup.2]
      constructor
      · rintro (rfl | rfl | ⟨hmem, hne⟩)
        · exact .inr ⟨.inl rfl, h⟩
        · exact .inl rfl
        · exact .inr ⟨.inr hmem, hne⟩
      · rintro (rfl | ⟨rfl | hmem, hne⟩)
        · exact .inr (.inl rfl)
        · exact .inl rfl
        · exact .inr (.inr ⟨hmem, hne⟩)

theorem get?_set (d : Dict κ α) (key other : κ) (value : α) :
    (d.set key value).get? other = if other = key then some value else d.get? other := by
  refine Option.ext fun v => ?_
  rw [get?_eq_some]
  show (other, v) ∈ setEntries key value d.entries ↔ _
  rw [mem_setEntries d.nodup]
  split
  · rename_i h
    simp [h, eq_comm]
  · rename_i h
    simp [h, get?_eq_some]

theorem set_eq_self {key : κ} {value : α} (h : d.get? key = some value) : d.set key value = d := by
  have hentries : ∀ entries : List (κ × α), (entries.map (·.1)).Nodup → (key, value) ∈ entries →
      setEntries key value entries = entries := by
    intro entries nodup hmem
    induction entries with
    | nil => cases hmem
    | cons entry rest ih =>
      rw [map_cons, nodup_cons] at nodup
      unfold setEntries
      split
      · rename_i hkey
        rcases mem_cons.mp hmem with rfl | hrest
        · rfl
        · exact absurd (hkey ▸ mem_map_of_mem hrest) nodup.1
      · rename_i hkey
        rcases mem_cons.mp hmem with rfl | hrest
        · exact absurd rfl hkey
        · rw [ih nodup.2 hrest]
  obtain ⟨entries, nodup⟩ := d
  unfold set
  congr 1
  exact hentries entries nodup (get?_eq_some.mp h)

theorem mem_keys_set {key other : κ} {value : α} :
    other ∈ (d.set key value).keys ↔ other = key ∨ other ∈ d.keys := mem_keys_setEntries

theorem get?_sorted [LinearOrder κ] (d : Dict κ α) (key : κ) : d.sorted.get? key = d.get? key := by
  refine Option.ext fun value => ?_
  rw [get?_eq_some, get?_eq_some]
  exact Sequence.mem_sortedBy _

theorem sum_entries_set {M : Type*} [AddCommGroup M] (f : κ × α → M) (d : Dict κ α) (key : κ)
    (value : α) : ((d.set key value).entries.map f).sum =
      (d.entries.map f).sum - ((d.get? key).map fun old => f (key, old)).getD 0 + f
        (key, value) := by
  obtain ⟨entries, nodup⟩ := d
  show ((setEntries key value entries).map f).sum = _
  unfold get?
  induction entries with
  | nil => simp [setEntries]
  | cons entry rest ih =>
    rw [map_cons, nodup_cons] at nodup
    unfold setEntries
    split
    · rename_i h
      subst h
      simp only [map_cons, sum_cons, List.find?_cons_of_pos, decide_true, Option.map_some,
        Option.getD_some]
      abel
    · rename_i h
      have hfind : (entry :: rest).find? (·.1 = key) = rest.find? (·.1 = key) :=
        List.find?_cons_of_neg (by simpa using h)
      simp only [map_cons, sum_cons, ih nodup.2, hfind]
      abel

theorem sum_entries_filter_ne {M : Type*} [AddCommGroup M] (f : κ × α → M) (d : Dict κ α)
    (key : κ) :
    ((d.filter fun other _ => other ≠ key).entries.map f).sum =
      (d.entries.map f).sum - ((d.get? key).map fun old => f (key, old)).getD 0 := by
  obtain ⟨entries, nodup⟩ := d
  show ((entries.filter fun entry => entry.1 ≠ key).map f).sum = _
  unfold get?
  induction entries with
  | nil => simp
  | cons entry rest ih =>
    rw [map_cons, nodup_cons] at nodup
    by_cases h : entry.1 = key
    · subst h
      have hrest : rest.filter (fun other => other.1 ≠ entry.1) = rest := by
        refine filter_eq_self.mpr fun other hother => ?_
        have hne : other.1 ≠ entry.1 := fun heq => nodup.1 (heq ▸ mem_map_of_mem hother)
        simpa using hne
      rw [filter_cons_of_neg (by simp), hrest]
      simp
    · have hfind : (entry :: rest).find? (·.1 = key) = rest.find? (·.1 = key) :=
        List.find?_cons_of_neg (by simpa using h)
      rw [filter_cons_of_pos (by simpa using h)]
      simp only [map_cons, sum_cons, ih nodup.2, hfind]
      abel

section Fill

variable {ι : Type*} (key : ι → κ) (value : ι → α)
variable {d : Dict κ α}

theorem mem_keys_foldl_set {items : List ι} {other : κ} :
    other ∈ (items.foldl (fun d item => d.set (key item) (value item)) d).keys ↔
      (∃ item ∈ items, key item = other) ∨ other ∈ d.keys := by
  induction items generalizing d with
  | nil => simp
  | cons item rest ih =>
    rw [foldl_cons, ih, mem_keys_set]
    simp only [mem_cons, exists_eq_or_imp]
    grind

theorem get?_foldl_set {items : List ι} {other : κ} (h : ∀ item ∈ items, key item ≠ other) :
    (items.foldl (fun d item => d.set (key item) (value item)) d).get? other = d.get? other := by
  induction items generalizing d with
  | nil => rfl
  | cons item rest ih =>
    rw [foldl_cons, ih fun i hi => h i (mem_cons_of_mem _ hi), get?_set,
      if_neg fun heq => h item mem_cons_self heq.symm]

theorem entries_foldl_set {items : List ι} (nodup : (items.map key).Nodup)
    (new : ∀ item ∈ items, key item ∉ d.keys) :
    (items.foldl (fun d item => d.set (key item) (value item)) d).entries =
      d.entries ++ items.map fun item => (key item, value item) := by
  induction items generalizing d with
  | nil => simp
  | cons item rest ih =>
    rw [map_cons, nodup_cons] at nodup
    rw [forall_mem_cons] at new
    have hentries : (d.set (key item) (value item)).entries = d.entries ++
      [(key item, value item)] :=
      setEntries_of_notMem new.1
    rw [foldl_cons, ih nodup.2, hentries, append_assoc]
    · rfl
    · intro other hother
      rw [mem_keys_set, not_or]
      exact ⟨fun heq => nodup.1 (heq ▸ mem_map_of_mem hother), new.2 other hother⟩

theorem exists_of_get?_foldl_set {items : List ι} {other : κ} {v : α}
    (h : (items.foldl (fun d item => d.set (key item) (value item)) d).get? other = some v) :
    (∃ item ∈ items, key item = other ∧ value item = v) ∨ d.get? other = some v := by
  induction items generalizing d with
  | nil => exact .inr h
  | cons item rest ih =>
    rcases ih h with ⟨i, hi, hkey, hval⟩ | hset
    · exact .inl ⟨i, mem_cons_of_mem _ hi, hkey, hval⟩
    · rw [get?_set] at hset
      split at hset
      · rename_i heq
        exact .inl ⟨item, mem_cons_self, heq.symm, Option.some.inj hset⟩
      · exact .inr hset

end Fill

end Dict
