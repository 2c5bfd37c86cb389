import Mathlib.Data.List.Induction
import Mathlib.Order.Basic

/-! Logs of moves. -/

namespace Trail

variable {α σ : Type*} (source target : α → σ) (allowed : σ → σ → Prop)

/-- The status after the moves of a log. -/
def final (s : σ) : List α → σ
  | [] => s
  | x :: xs => final (target x) xs

def Follows (s : σ) : List α → Prop
  | [] => True
  | x :: xs => source x = s ∧ allowed s (target x) ∧ Follows (target x) xs

variable {source target allowed} {s : σ} {x : α} {xs : List α}

@[simp] theorem final_nil : final target s [] = s := rfl

@[simp] theorem final_concat : final target s (xs ++ [x]) = target x := by
  induction xs generalizing s with
  | nil => rfl
  | cons y ys ih => exact ih

theorem final_eq_getLast? : final target s xs = (xs.getLast?.map target).getD s := by
  induction xs using List.reverseRecOn with
  | nil => rfl
  | append_singleton ys y => simp

theorem follows_concat : Follows source target allowed s (xs ++ [x]) ↔
    Follows source target allowed s xs ∧ source x = final target s xs ∧
      allowed (final target s xs) (target x) := by
  induction xs generalizing s with
  | nil => simp [Follows]
  | cons y ys ih =>
    rw [List.cons_append, Follows, ih, Follows, final]
    tauto

theorem Follows.eq_nil (h : Follows source target allowed s xs) (terminal : ∀ t, ¬allowed s t) :
    xs = [] := by
  cases xs with
  | nil => rfl
  | cons y ys => exact absurd h.2.1 (terminal _)

section Rank

variable {rank : σ → ℕ} (increasing : ∀ s t, allowed s t → rank s < rank t)

include increasing

theorem Follows.rank_le (h : Follows source target allowed s xs) :
    rank s ≤ rank (final target s xs) := by
  induction xs generalizing s with
  | nil => exact Nat.le_refl _
  | cons y ys ih =>
    obtain ⟨-, hmove, hrest⟩ := h
    have hlt := increasing _ _ hmove
    have hle := ih hrest
    simp only [final]
    omega

theorem Follows.rank_le_of_mem (h : Follows source target allowed s xs) (hx : x ∈ xs) :
    rank (target x) ≤ rank (final target s xs) := by
  induction xs generalizing s with
  | nil => cases hx
  | cons y ys ih =>
    obtain ⟨-, -, hrest⟩ := h
    rcases List.mem_cons.mp hx with rfl | hx
    · exact hrest.rank_le increasing
    · exact ih hrest hx

end Rank

end Trail
