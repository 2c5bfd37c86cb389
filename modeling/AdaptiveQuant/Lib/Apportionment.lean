import Mathlib.Tactic.Linarith
import Mathlib.Data.List.Basic

/-! A total that is divided over the first places of a ranking. -/

namespace Apportionment

open List

def share (total places i : ℕ) : ℕ :=
  if i < places then total / places + (if i < total % places then 1 else 0) else 0

variable {total places i j : ℕ}

theorem share_of_lt (h : i < places) :
    share total places i = total / places + (if i < total % places then 1 else 0) := if_pos h

theorem share_of_le (h : places ≤ i) : share total places i = 0 := if_neg (not_lt.mpr h)

theorem share_pos (hplaces : places ≤ total) (h : i < places) : 0 < share total places i := by
  have hbase : 0 < total / places := Nat.div_pos hplaces (by omega)
  rw [share_of_lt h]
  omega

theorem share_antitone (h : i ≤ j) : share total places j ≤ share total places i := by
  by_cases hj : j < places
  · rw [share_of_lt hj, share_of_lt (by omega)]
    split <;> split <;> omega
  · rw [share_of_le (by omega)]
    exact Nat.zero_le _

theorem share_le_succ (hi : i < places) (hj : j < places) :
    share total places i ≤ share total places j + 1 := by
  rw [share_of_lt hi, share_of_lt hj]
  split <;> split <;> omega

theorem sum_range_share (n : ℕ) : ((List.range n).map (share total places)).sum =
    min n places * (total / places) + min n (min places (total % places)) := by
  induction n with
  | zero => simp
  | succ n ih =>
    rw [range_succ, map_append, sum_append, ih, map_singleton,
      sum_singleton]
    by_cases hn : n < places
    · rw [share_of_lt hn, Nat.min_eq_left hn.le, Nat.min_eq_left (show n + 1 ≤ places by omega),
        Nat.succ_mul]
      split <;> omega
    · rw [share_of_le (by omega), Nat.min_eq_right (show places ≤ n by omega),
        Nat.min_eq_right (show places ≤ n + 1 by omega)]
      omega

theorem sum_share {n : ℕ} (hpos : 0 < places) (hn : places ≤ n) :
    ((List.range n).map (share total places)).sum = total := by
  have hmod := Nat.mod_lt total hpos
  rw [sum_range_share, Nat.min_eq_right hn,
    show min n (min places (total % places)) = total % places by omega]
  exact Nat.div_add_mod total places

theorem countP_share_le (n : ℕ) :
    (List.range n).countP (fun i => 0 < share total places i) ≤ min n places := by
  induction n with
  | zero => simp
  | succ n ih =>
    rw [range_succ, countP_append, countP_singleton]
    by_cases hn : n < places
    · split <;> omega
    · rw [share_of_le (by omega), if_neg (by simp)]
      omega

end Apportionment
