import AdaptiveQuant.Lib.Sequence
import Mathlib.Data.List.MinMax

/-! Items that expire, some of which reset. -/

namespace Expiry

open List

variable {α κ : Type*}

section Resets

variable (resets : α → Prop) [DecidablePred resets]

def sinceReset (items : List α) : List α :=
  items.foldl (fun kept a => if resets a then [a] else kept ++ [a]) []

@[simp] theorem sinceReset_nil : sinceReset resets [] = [] := rfl

theorem sinceReset_concat (items : List α) (a : α) :
    sinceReset resets (items ++ [a]) =
      if resets a then [a] else sinceReset resets items ++ [a] := by
  rw [sinceReset, foldl_append]
  rfl

theorem mem_sinceReset {items : List α} {a : α} :
    a ∈ sinceReset resets items ↔
      ∃ pre post, items = pre ++ a :: post ∧ ∀ b ∈ post, ¬resets b := by
  induction items using List.reverseRecOn with
  | nil =>
    constructor
    · intro h
      exact absurd h not_mem_nil
    · rintro ⟨pre, post, h, -⟩
      exact absurd h.symm (by simp)
  | append_singleton items last ih =>
    rw [sinceReset_concat]
    constructor
    · intro h
      by_cases hreset : resets last
      · rw [if_pos hreset, mem_singleton] at h
        exact ⟨items, [], by rw [h], fun b hb => absurd hb not_mem_nil⟩
      · rw [if_neg hreset, mem_append, mem_singleton] at h
        rcases h with h | rfl
        · obtain ⟨pre, post, rfl, hpost⟩ := ih.mp h
          refine ⟨pre, post ++ [last], by simp, fun b hb => ?_⟩
          rcases mem_append.mp hb with hb | hb
          · exact hpost b hb
          · rwa [mem_singleton.mp hb]
        · exact ⟨items, [], rfl, fun b hb => absurd hb not_mem_nil⟩
    · rintro ⟨pre, post, hsplit, hpost⟩
      rcases eq_nil_or_concat' post with rfl | ⟨front, b, rfl⟩
      · obtain ⟨-, hlast⟩ := append_inj' hsplit rfl
        obtain rfl : last = a := by simpa using hlast
        split <;> simp
      · rw [← cons_append, ← append_assoc] at hsplit
        obtain ⟨rfl, hlast⟩ := append_inj' hsplit rfl
        obtain rfl : last = b := by simpa using hlast
        rw [if_neg (hpost last (by simp)), mem_append]
        exact .inl (ih.mpr ⟨pre, front, rfl, fun b hb => hpost b (mem_append_left _ hb)⟩)

end Resets

section Windows

variable [LinearOrder κ] (created expires : α → κ)

/-- Whether an item is active: it was created, and has not expired. -/
def ActiveAt (instant : κ) (a : α) : Prop := created a ≤ instant ∧ instant < expires a

instance (instant : κ) (a : α) : Decidable (ActiveAt created expires instant a) :=
  inferInstanceAs (Decidable (_ ∧ _))

def activeAt (items : List α) (instant : κ) : List α :=
  items.filter fun a => ActiveAt created expires instant a

theorem mem_activeAt {items : List α} {instant : κ} {a : α} :
    a ∈ activeAt created expires items instant ↔
      a ∈ items ∧ ActiveAt created expires instant a := by
  rw [activeAt, mem_filter, decide_eq_true_eq]

variable (resets : α → Prop) [DecidablePred resets]

def liveAt (items : List α) (instant : κ) : List α :=
  sinceReset resets (activeAt created expires items instant)

variable {created expires resets} {items pre post : List α} {a r : α} {now later : κ}

theorem mem_liveAt (sorted : items.Pairwise fun a b => created a < created b) :
    a ∈ liveAt created expires resets items now ↔
      (a ∈ items ∧ ActiveAt created expires now a) ∧
      ∀ r ∈ items, resets r → created a < created r → ¬ActiveAt created expires now r := by
  have hsorted : (activeAt created expires items now).Pairwise fun a b => created a < created b :=
    sorted.sublist filter_sublist
  rw [liveAt, mem_sinceReset, ← mem_activeAt created expires]
  constructor
  · rintro ⟨front, back, hsplit, hback⟩
    rw [hsplit] at hsorted ⊢
    obtain ⟨-, hcons, hfront⟩ := pairwise_append.mp hsorted
    refine ⟨by simp, fun r hr hreset hafter hactive => ?_⟩
    have hmem := (mem_activeAt created expires).mpr ⟨hr, hactive⟩
    rw [hsplit, mem_append, mem_cons] at hmem
    rcases hmem with hmem | rfl | hmem
    · exact lt_asymm hafter (hfront r hmem a mem_cons_self)
    · exact lt_irrefl _ hafter
    · exact hback r hmem hreset
  · rintro ⟨hmem, hnone⟩
    obtain ⟨front, back, hsplit⟩ := append_of_mem hmem
    refine ⟨front, back, hsplit, fun b hb hreset => ?_⟩
    rw [hsplit] at hsorted
    obtain ⟨-, hcons, -⟩ := pairwise_append.mp hsorted
    have hafter := (pairwise_cons.mp hcons).1 b hb
    have hin : b ∈ activeAt created expires items now := by
      rw [hsplit]
      exact mem_append_right _ (mem_cons_of_mem _ hb)
    obtain ⟨hitem, hactive⟩ := (mem_activeAt created expires).mp hin
    exact hnone b hitem hreset hafter hactive

variable (created expires resets) (counts : α → Prop)

def OutlivesStopped (pre : List α) (r : α) : Prop :=
  resets r → ∀ a ∈ liveAt created expires resets pre (created r), counts a → expires a ≤ expires r

def Outlives (items : List α) : Prop :=
  ∀ pre r post, items = pre ++ r :: post → OutlivesStopped created expires resets counts pre r

variable {created expires resets counts}

theorem outlives_concat :
    Outlives created expires resets counts (items ++ [r]) ↔
      Outlives created expires resets counts items ∧
      OutlivesStopped created expires resets counts items r :=
  Sequence.forall_split_concat

theorem mem_liveAt_of_later (sorted : items.Pairwise fun a b => created a < created b)
    (outlives : Outlives created expires resets counts items)
    (before : ∀ b ∈ items, created b ≤ now) (le : now ≤ later) (ha : counts a)
    (h : a ∈ liveAt created expires resets items later) :
    a ∈ liveAt created expires resets items now := by
  obtain ⟨⟨hmem, -, hexpires⟩, hnone⟩ := (mem_liveAt sorted).mp h
  refine (mem_liveAt sorted).mpr ⟨⟨hmem, before a hmem, lt_of_le_of_lt le hexpires⟩, ?_⟩
  intro r hr hreset hafter _
  -- The first reset after the item met it while it counted.
  obtain ⟨first, hfirst⟩ : ∃ first, first ∈ (items.filter fun r => resets r ∧ created a < created r
      ).argmin created := by
    refine Option.ne_none_iff_exists'.mp fun hnil => ?_
    rw [argmin_eq_none, filter_eq_nil_iff] at hnil
    exact hnil r hr (decide_eq_true ⟨hreset, hafter⟩)
  obtain ⟨hfirstMem, hsel⟩ := mem_filter.mp (argmin_mem hfirst)
  obtain ⟨hfirstReset, hfirstAfter⟩ := of_decide_eq_true hsel
  obtain ⟨pre, post, rfl⟩ := append_of_mem hfirstMem
  obtain ⟨hpre, hcons, hacross⟩ := pairwise_append.mp sorted
  have hin : a ∈ pre := by
    rcases mem_append.mp hmem with hin | hin
    · exact hin
    · rcases mem_cons.mp hin with rfl | hin
      · exact absurd hfirstAfter (lt_irrefl _)
      · exact absurd hfirstAfter (lt_asymm ((pairwise_cons.mp hcons).1 a hin))
  have hcame := before first hfirstMem
  have hlive : a ∈ liveAt created expires resets pre (created first) := by
    refine (mem_liveAt hpre).mpr ⟨⟨hin, hfirstAfter.le, ?_⟩, fun r' hr' hreset' hafter' _ => ?_⟩
    · exact lt_of_le_of_lt (hcame.trans le) hexpires
    · have hmin := le_of_mem_argmin (mem_filter.mpr
        ⟨mem_append_left _ hr', decide_eq_true ⟨hreset', hafter'⟩⟩) hfirst
      exact absurd (hacross r' hr' first mem_cons_self) (not_lt.mpr hmin)
  have hlong := outlives pre first post rfl hfirstReset a hlive ha
  exact hnone first hfirstMem hfirstReset hfirstAfter
    ⟨hcame.trans le, lt_of_lt_of_le hexpires hlong⟩

theorem live_again (sorted : (pre ++ [r]).Pairwise fun a b => created a < created b)
    (lasts : created r < expires r) (hlive : a ∈ liveAt created expires resets pre (created r))
    (lt : expires r < expires a) :
    a ∈ liveAt created expires resets (pre ++ [r]) (expires r) := by
  have hpre := (pairwise_append.mp sorted).1
  obtain ⟨⟨hmem, hcreated, -⟩, hnone⟩ := (mem_liveAt hpre).mp hlive
  refine (mem_liveAt sorted).mpr ⟨⟨mem_append_left _ hmem, (hcreated.trans lasts.le), lt⟩, ?_⟩
  intro r' hr' hreset hafter hactive
  rcases mem_append.mp hr' with hr' | hr'
  · have hcame := (pairwise_append.mp sorted).2.2 r' hr' r mem_cons_self
    exact hnone r' hr' hreset hafter ⟨hcame.le, lasts.trans hactive.2⟩
  · rw [mem_singleton.mp hr'] at hactive
    exact lt_irrefl _ hactive.2

end Windows

end Expiry
