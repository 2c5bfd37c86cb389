import Mathlib.Algebra.Order.Floor.Ring
import Mathlib.Algebra.Order.Field.Basic
import Mathlib.Data.Int.ConditionallyCompleteOrder
import Mathlib.Data.List.GetD
import Mathlib.Data.List.Sort
import Mathlib.Tactic.LinearCombination
import Mathlib.Tactic.Linarith
import Mathlib.Tactic.Ring

/-! Linear interpolation between the values of a function at integers, and between the entries of a
list in increasing order. -/

namespace Interpolation

open List

section Floor

variable {α : Type*} [Field α] [LinearOrder α] [FloorRing α]

/-- The value at `x`, between the values at the integers around it. -/
def interpolate (f : ℤ → α) (x : α) : α := f ⌊x⌋ * (1 - Int.fract x) + f ⌈x⌉ * Int.fract x

theorem fract_eq_zero_of_floor_eq_ceil {x : α} (h : ⌊x⌋ = ⌈x⌉) : Int.fract x = 0 := by
  have hle : x ≤ ⌊x⌋ := h ▸ Int.le_ceil x
  exact sub_eq_zero.mpr (le_antisymm hle (Int.floor_le x))

theorem interpolate_of_floor_eq_ceil (f : ℤ → α) {x : α} (h : ⌊x⌋ = ⌈x⌉) :
    interpolate f x = f ⌊x⌋ := by
  rw [interpolate, fract_eq_zero_of_floor_eq_ceil h, sub_zero, mul_one, mul_zero, add_zero]

variable [IsStrictOrderedRing α]

theorem ceil_eq_floor_add_one {x : α} (h : ⌊x⌋ ≠ ⌈x⌉) : ⌈x⌉ = ⌊x⌋ + 1 := by
  have hlow : ⌊x⌋ ≤ ⌈x⌉ := Int.floor_le_ceil x
  have hhigh : ⌈x⌉ ≤ ⌊x⌋ + 1 := Int.ceil_le_floor_add_one x
  omega

theorem interpolate_eq (f : ℤ → α) (x : α) :
    interpolate f x = f ⌊x⌋ + (f (⌊x⌋ + 1) - f ⌊x⌋) * Int.fract x := by
  by_cases h : ⌊x⌋ = ⌈x⌉
  · rw [interpolate_of_floor_eq_ceil f h, fract_eq_zero_of_floor_eq_ceil h, mul_zero, add_zero]
  · rw [interpolate, ceil_eq_floor_add_one h]
    ring

@[simp] theorem interpolate_intCast (f : ℤ → α) (n : ℤ) : interpolate f n = f n := by
  rw [interpolate_of_floor_eq_ceil f (by simp), Int.floor_intCast]

section Monotone

variable {f : ℤ → α} (mono : Monotone f)
include mono

theorem le_interpolate (x : α) : f ⌊x⌋ ≤ interpolate f x := by
  rw [interpolate_eq]
  have hstep : 0 ≤ f (⌊x⌋ + 1) - f ⌊x⌋ := sub_nonneg.mpr (mono (by omega))
  exact le_add_of_nonneg_right (mul_nonneg hstep (Int.fract_nonneg x))

theorem interpolate_le (x : α) : interpolate f x ≤ f (⌊x⌋ + 1) := by
  rw [interpolate_eq]
  have hstep : 0 ≤ f (⌊x⌋ + 1) - f ⌊x⌋ := sub_nonneg.mpr (mono (by omega))
  have hpart := mul_le_of_le_one_right hstep (Int.fract_lt_one x).le
  linarith

theorem interpolate_mono {x y : α} (h : x ≤ y) : interpolate f x ≤ interpolate f y := by
  rcases (Int.floor_mono h).eq_or_lt with heq | hlt
  · have hstep : 0 ≤ f (⌊x⌋ + 1) - f ⌊x⌋ := sub_nonneg.mpr (mono (by omega))
    have hfract : Int.fract x ≤ Int.fract y := by
      unfold Int.fract
      rw [heq]
      exact sub_le_sub_right h _
    rw [interpolate_eq, interpolate_eq, ← heq]
    have hpart := mul_le_mul_of_nonneg_left hfract hstep
    linarith
  · calc interpolate f x ≤ f (⌊x⌋ + 1) := interpolate_le mono x
      _ ≤ f ⌊y⌋ := mono (by omega)
      _ ≤ interpolate f y := le_interpolate mono y

end Monotone

theorem interpolate_reflect (f : ℤ → α) (n : ℤ) (x : α) :
    interpolate (fun i => -f (n - i)) x = -interpolate f (n - x) := by
  have hfloor : ⌊(n : α) - x⌋ = n - ⌈x⌉ := by
    rw [sub_eq_neg_add, Int.floor_add_intCast, Int.floor_neg, neg_add_eq_sub]
  have hceil : ⌈(n : α) - x⌉ = n - ⌊x⌋ := by
    rw [sub_eq_neg_add, Int.ceil_add_intCast, Int.ceil_neg, neg_add_eq_sub]
  by_cases h : ⌊x⌋ = ⌈x⌉
  · rw [interpolate_of_floor_eq_ceil _ h, interpolate_of_floor_eq_ceil f (by omega), hfloor, h]
  · have hfract : Int.fract ((n : α) - x) = 1 - Int.fract x := by
      unfold Int.fract
      rw [hfloor, ceil_eq_floor_add_one h]
      push_cast
      ring
    rw [interpolate, interpolate, hfloor, hceil, hfract]
    ring

end Floor

section Entries

variable {α : Type*} [Zero α]

/-- The entry at a position, or the one at the nearer end. -/
def entry (values : List α) (i : ℤ) : α := values.getD (min i.toNat (values.length - 1)) 0

theorem entry_mem {values : List α} (h : values ≠ []) (i : ℤ) : entry values i ∈ values := by
  have hpos := length_pos_iff.mpr h
  have hlt : min i.toNat (values.length - 1) < values.length := by omega
  rw [entry, getD_eq_getElem values 0 hlt]
  exact getElem_mem hlt

theorem entry_of_lt {values : List α} {i : ℤ} (h0 : 0 ≤ i) (h : i < values.length) :
    values[i.toNat]? = some (entry values i) := by
  have hlt : i.toNat < values.length := by omega
  rw [entry, Nat.min_eq_left (by omega), getD_eq_getElem values 0 hlt,
    List.getElem?_eq_getElem hlt]

theorem entry_mono [LinearOrder α] {values : List α} (h : values.Pairwise (· ≤ ·)) :
    Monotone (entry values) := by
  intro i j hij
  by_cases hnil : values = []
  · rw [hnil]
    exact le_rfl
  have hpos := length_pos_iff.mpr hnil
  have hi : min i.toNat (values.length - 1) < values.length := by omega
  have hj : min j.toNat (values.length - 1) < values.length := by omega
  rw [entry, entry, getD_eq_getElem values 0 hi, getD_eq_getElem values 0 hj]
  rcases (show min i.toNat (values.length - 1) ≤ min j.toNat (values.length - 1) by
    omega).eq_or_lt with heq | hlt
  · exact le_of_eq (by simp only [heq])
  · exact pairwise_iff_getElem.mp h _ _ hi hj hlt

theorem entry_bounds [LinearOrder α] {values : List α} (h : values.Pairwise (· ≤ ·)) {value : α}
    (mem : value ∈ values) :
    entry values 0 ≤ value ∧ value ≤ entry values (values.length - 1) := by
  obtain ⟨k, hk, rfl⟩ := getElem_of_mem mem
  have hentry : values[k] = entry values k := by
    have hget := entry_of_lt (Int.natCast_nonneg k) (Int.ofNat_lt.mpr hk)
    rw [Int.toNat_natCast, List.getElem?_eq_getElem hk] at hget
    exact Option.some.inj hget
  rw [hentry]
  exact ⟨entry_mono h (by omega), entry_mono h (by omega)⟩

end Entries

section Mirror

variable {α : Type*} [AddCommGroup α]

/-- The negated entries in the opposite order. -/
def mirror (values : List α) : List α := (values.map Neg.neg).reverse

@[simp] theorem length_mirror (values : List α) : (mirror values).length = values.length := by
  simp [mirror]

theorem entry_mirror {values : List α} (h : values ≠ []) (i : ℤ) :
    entry (mirror values) i = -entry values (values.length - 1 - i) := by
  have hpos := length_pos_iff.mpr h
  have hi : min i.toNat (values.length - 1) < (mirror values).length := by
    rw [length_mirror]
    omega
  have hj : min ((values.length : ℤ) - 1 - i).toNat (values.length - 1) < values.length := by omega
  rw [entry, entry, length_mirror, getD_eq_getElem _ 0 hi, getD_eq_getElem values 0 hj]
  simp only [mirror, getElem_reverse, getElem_map, length_map]
  congr 2
  omega

theorem mirror_pairwise [LinearOrder α] [IsOrderedAddMonoid α] {values : List α}
    (h : values.Pairwise (· ≤ ·)) : (mirror values).Pairwise (· ≤ ·) := by
  rw [mirror, pairwise_reverse, pairwise_map]
  exact h.imp fun hab => neg_le_neg hab

end Mirror

end Interpolation
