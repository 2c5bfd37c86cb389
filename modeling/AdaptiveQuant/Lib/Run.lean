import AdaptiveQuant.Lib.Guard
import Mathlib.Data.List.Basic

/-! Runs of a checked step function. -/

universe u v

variable {ε : Type u} {σ ι : Type v}

/-- The runs of `step` from `init`: the accepted inputs with the states they met, and the state
reached. -/
inductive Run (step : σ → ι → Except ε σ) (init : σ) : List (σ × ι) → σ → Prop
  | start : Run step init [] init
  | next {taken : List (σ × ι)} {s s' : σ} {i : ι} (run : Run step init taken s)
      (ok : step s i = .ok s') : Run step init (taken ++ [(s, i)]) s'

namespace Run

open List

variable {step : σ → ι → Except ε σ} {init s : σ} {taken : List (σ × ι)}

theorem inv {I : σ → Prop} (run : Run step init taken s) (start : I init)
    (keep : ∀ s i s', I s → step s i = .ok s' → I s') : I s := by
  induction run with
  | start => exact start
  | next _ ok ih => exact keep _ _ _ ih ok

theorem inv_when {I : σ → Prop} {Q : σ → ι → Prop} (run : Run step init taken s) (start : I init)
    (keep : ∀ s i s', I s → Q s i → step s i = .ok s' → I s') (met : ∀ x ∈ taken, Q x.1 x.2) :
    I s := by
  induction run with
  | start => exact start
  | @next taken s s' i _ ok ih =>
    have hbefore := ih fun x hx => met x (mem_append_left _ hx)
    exact keep s i s' hbefore (met (s, i) (by simp)) ok

theorem inv_taken {I : σ → Prop} (run : Run step init taken s) (start : I init)
    (keep : ∀ s i s', I s → step s i = .ok s' → I s') :
    ∀ x ∈ taken, I x.1 ∧ ∃ s', step x.1 x.2 = .ok s' := by
  induction run with
  | start => simp
  | next run ok ih =>
    intro x hx
    rcases mem_append.mp hx with hx | hx
    · exact ih x hx
    · rw [mem_singleton.mp hx]
      exact ⟨run.inv start keep, _, ok⟩

theorem holds_iff {I P : σ → Prop} {Q : σ → ι → Prop} (run : Run step init taken s)
    (start : I init) (keep : ∀ s i s', I s → step s i = .ok s' → I s') (base : P init)
    (extend : ∀ s i s', I s → step s i = .ok s' → (P s' ↔ P s ∧ Q s i)) :
    P s ↔ ∀ x ∈ taken, Q x.1 x.2 := by
  induction run with
  | start => simpa using base
  | next run ok ih =>
    rw [extend _ _ _ (run.inv start keep) ok, ih]
    simp only [mem_append, mem_singleton, or_imp, forall_and, forall_eq]

theorem after {I P : σ → Prop} {K : σ → ι → Prop} (run : Run step init taken s)
    (start : I init) (keep : ∀ s i s', I s → step s i = .ok s' → I s')
    (persist : ∀ s i s', I s → P s → K s i → step s i = .ok s' → P s')
    {pre post : List (σ × ι)} {x : σ × ι} (split : taken = pre ++ x :: post)
    (establish : ∀ s', I x.1 → step x.1 x.2 = .ok s' → P s') (rest : ∀ y ∈ post, K y.1 y.2) :
    P s := by
  induction run generalizing post with
  | start => simp at split
  | @next taken s s' i run ok ih =>
    rcases eq_nil_or_concat' post with rfl | ⟨front, last, rfl⟩
    · obtain ⟨-, hx⟩ := append_inj' split rfl
      obtain rfl : (s, i) = x := by simpa using hx
      exact establish _ (run.inv start keep) ok
    · rw [← cons_append, ← append_assoc] at split
      obtain ⟨hfront, hlast⟩ := append_inj' split rfl
      obtain rfl : (s, i) = last := by simpa using hlast
      have hs := ih hfront fun y hy => rest y (mem_append_left _ hy)
      exact persist _ _ _ (run.inv start keep) hs (rest (s, i) (by simp)) ok

theorem split {pre post : List (σ × ι)} (run : Run step init taken s) (h : taken = pre ++ post) :
    ∃ m, Run step init pre m ∧ Run step m post s := by
  induction run generalizing post with
  | start =>
    obtain ⟨rfl, rfl⟩ := append_eq_nil_iff.mp h.symm
    exact ⟨init, .start, .start⟩
  | @next taken s s' i run ok ih =>
    rcases eq_nil_or_concat' post with rfl | ⟨front, last, rfl⟩
    · rw [append_nil] at h
      subst h
      exact ⟨s', .next run ok, .start⟩
    · rw [← append_assoc] at h
      obtain ⟨hfront, hlast⟩ := append_inj' h rfl
      obtain rfl : (s, i) = last := by simpa using hlast
      obtain ⟨m, hpre, hpost⟩ := ih hfront
      exact ⟨m, hpre, .next hpost ok⟩

theorem eq_init (run : Run step init taken s) (h : taken = []) : s = init := by
  cases run with
  | start => rfl
  | next => simp at h

theorem first {x : σ × ι} {rest : List (σ × ι)} (run : Run step init taken s)
    (h : taken = x :: rest) :
    x.1 = init ∧ ∃ s', step init x.2 = .ok s' ∧ Run step s' rest s := by
  have hone : taken = [x] ++ rest := h
  obtain ⟨m, hfirst, hrest⟩ := run.split hone
  generalize hlist : [x] = one at hfirst
  cases hfirst with
  | start => simp at hlist
  | @next before s1 s2 i hrun ok =>
    have hsplit : [] ++ [x] = before ++ [(s1, i)] := hlist
    obtain ⟨hbefore, hx⟩ := append_inj' hsplit rfl
    obtain rfl : x = (s1, i) := by simpa using hx
    obtain rfl := hrun.eq_init hbefore.symm
    exact ⟨rfl, m, ok, hrest⟩

theorem of_foldlM {inputs : List ι} (h : inputs.foldlM step init = .ok s) :
    ∃ taken, taken.map (·.2) = inputs ∧ Run step init taken s := by
  refine Guard.foldlM_induction h (fun pre s => ∃ taken, taken.map (·.2) = pre ∧
    Run step init taken s) ⟨[], rfl, .start⟩ ?_
  rintro pre i s s' ⟨taken, hmap, run⟩ ok
  exact ⟨taken ++ [(s, i)], by simp [hmap], .next run ok⟩

theorem of_script {script : List (σ → ι)}
    (h : script.foldlM (fun s choose => step s (choose s)) init = .ok s) :
    ∃ taken, Run step init taken s := by
  refine Guard.foldlM_induction h (fun _ s => ∃ taken, Run step init taken s) ⟨[], .start⟩ ?_
  rintro pre choose s s' ⟨taken, run⟩ ok
  exact ⟨taken ++ [(s, choose s)], .next run ok⟩

theorem of_guarded {Q : σ → ι → Prop} [∀ s i, Decidable (Q s i)] {e : ε} {inputs : List ι}
    (h : inputs.foldlM (fun s i => if Q s i then step s i else .error e) init = .ok s) :
    ∃ taken, taken.map (·.2) = inputs ∧ Run step init taken s ∧ ∀ x ∈ taken, Q x.1 x.2 := by
  refine Guard.foldlM_induction h (fun pre s => ∃ taken, taken.map (·.2) = pre ∧
    Run step init taken s ∧ ∀ x ∈ taken, Q x.1 x.2) ⟨[], rfl, .start, by simp⟩ ?_
  rintro pre i s s' ⟨taken, hmap, run, hmet⟩ ok
  by_cases hq : Q s i
  · rw [if_pos hq] at ok
    refine ⟨taken ++ [(s, i)], by simp [hmap], .next run ok, fun x hx => ?_⟩
    rcases mem_append.mp hx with hx | hx
    · exact hmet x hx
    · rw [mem_singleton.mp hx]
      exact hq
  · rw [if_neg hq] at ok
    cases ok

end Run
