import Mathlib.Data.Int.Log
import Mathlib.Data.Rat.Floor
import Mathlib.Tactic.Linarith
import Mathlib.Tactic.NormNum
import Mathlib.Tactic.Ring

/-! Binary64 numbers as rationals, without overflow. -/

namespace Binary64

open List

def nearestEven (x : ℚ) : ℤ :=
  let below := ⌊x⌋
  if x - below > 1 / 2 ∨ (x - below = 1 / 2 ∧ below % 2 = 1) then below + 1 else below

/-- The exponent of the last bit of the numbers as large as `x`. -/
def lastBit (x : ℚ) : ℤ := max (Int.log 2 |x| - 52) (-1074)

/-- The nearest binary64 number, ties to even. -/
def round (x : ℚ) : ℚ := nearestEven (x / 2 ^ lastBit x) * 2 ^ lastBit x

/-- The decimals of a number of significant digits next to `x`, the nearest one first. -/
def decimalsNear (x : ℚ) (digits : ℕ) : List ℚ :=
  let step : ℚ := 10 ^ (Int.log 10 |x| + 1 - digits)
  [nearestEven (x / step) * step, ⌊x / step⌋ * step, ⌈x / step⌉ * step]

/-- The decimal with the fewest digits that rounds to the binary64 number `x`, and the nearest one
of these. -/
def shortest (x : ℚ) : ℚ :=
  (((List.range 17).flatMap fun n => decimalsNear x (n + 1)).find? (round · = x)).getD x

theorem abs_nearestEven_sub_le (x : ℚ) : |nearestEven x - x| ≤ 1 / 2 := by
  have hlow := Int.floor_le x
  have hhigh := Int.lt_floor_add_one x
  rw [abs_le]
  simp only [nearestEven]
  split
  · rename_i h
    push_cast
    rcases h with h | ⟨h, -⟩ <;> constructor <;> linarith
  · rename_i h
    rw [not_or] at h
    constructor <;> linarith [not_lt.mp h.1]

theorem nearestEven_le (x : ℚ) : (nearestEven x : ℚ) ≤ x + 1 / 2 := by
  linarith [(abs_le.mp (abs_nearestEven_sub_le x)).2]

theorem nearestEven_le_of_le {x : ℚ} {n : ℤ} (h : x ≤ n) : nearestEven x ≤ n := by
  have hle := nearestEven_le x
  have hlt : (nearestEven x : ℚ) < n + 1 := by linarith
  exact Int.lt_add_one_iff.mp (by exact_mod_cast hlt)

theorem nearestEven_le_of_even {x : ℚ} {n : ℤ} (even : n % 2 = 0) (h : x ≤ n + 1 / 2) :
    nearestEven x ≤ n := by
  rcases lt_or_ge x n with hlt | hge
  · exact nearestEven_le_of_le hlt.le
  have hfloor : ⌊x⌋ = n := Int.floor_eq_iff.mpr ⟨hge, by linarith⟩
  simp only [nearestEven, hfloor]
  split
  · rename_i hup
    rcases hup with hup | ⟨-, hodd⟩
    · linarith
    · omega
  · exact le_rfl

theorem nearestEven_nonneg {x : ℚ} (h : 0 ≤ x) : 0 ≤ nearestEven x := by
  have hfloor : 0 ≤ ⌊x⌋ := Int.floor_nonneg.mpr h
  simp only [nearestEven]
  split <;> omega

theorem two_zpow_pos (e : ℤ) : (0 : ℚ) < 2 ^ e := zpow_pos (by norm_num) e

@[simp] theorem round_zero : round 0 = 0 := by decide +kernel

theorem round_nonneg {x : ℚ} (h : 0 ≤ x) : 0 ≤ round x :=
  mul_nonneg (Int.cast_nonneg (nearestEven_nonneg (div_nonneg h (two_zpow_pos _).le)))
    (two_zpow_pos _).le

variable {k : ℤ}

theorem log_lt {x : ℚ} (pos : 0 < x) (h : x < 2 ^ k) : Int.log 2 |x| < k := by
  rw [abs_of_pos pos]
  have hlog := Int.zpow_log_le_self (b := 2) (by norm_num) pos
  push_cast at hlog
  exact (zpow_lt_zpow_iff_right₀ (by norm_num)).mp (hlog.trans_lt h)

theorem le_log {x : ℚ} (pos : 0 < x) (h : 2 ^ k ≤ x) : k ≤ Int.log 2 |x| := by
  rw [abs_of_pos pos]
  have hlog := Int.lt_zpow_succ_log_self (b := 2) (by norm_num) x
  push_cast at hlog
  exact Int.lt_add_one_iff.mp ((zpow_lt_zpow_iff_right₀ (by norm_num)).mp (h.trans_lt hlog))

theorem round_le_add {x : ℚ} (normal : -1021 ≤ k) (nonneg : 0 ≤ x) (h : x < 2 ^ k) :
    round x ≤ x + 2 ^ (k - 54) := by
  rcases nonneg.eq_or_lt with rfl | pos
  · simp [(two_zpow_pos _).le]
  have hlog := log_lt pos h
  have hbit : lastBit x ≤ k - 53 := by
    unfold lastBit
    omega
  have hstep := two_zpow_pos (lastBit x)
  have hscale : x / 2 ^ lastBit x * 2 ^ lastBit x = x := div_mul_cancel₀ x hstep.ne'
  calc round x ≤ (x / 2 ^ lastBit x + 1 / 2) * 2 ^ lastBit x :=
        mul_le_mul_of_nonneg_right (nearestEven_le _) hstep.le
    _ = x + 2 ^ lastBit x / 2 := by
        rw [add_mul, hscale]
        ring
    _ ≤ x + 2 ^ (k - 53) / 2 := by
        have hmono : (2 : ℚ) ^ lastBit x ≤ 2 ^ (k - 53) := zpow_le_zpow_right₀ (by norm_num) hbit
        linarith
    _ = x + 2 ^ (k - 54) := by
        rw [show k - 53 = k - 54 + 1 by ring, zpow_add_one₀ (by norm_num)]
        ring

theorem round_le_two_zpow {x : ℚ} (normal : -1021 ≤ k) (nonneg : 0 ≤ x)
    (h : x ≤ 2 ^ k + 2 ^ (k - 53)) : round x ≤ 2 ^ k := by
  rcases nonneg.eq_or_lt with rfl | pos
  · simp [(two_zpow_pos _).le]
  have hstep := two_zpow_pos (lastBit x)
  rcases lt_or_ge x (2 ^ k) with hlt | hge
  · have hlog := log_lt pos hlt
    have hbit : lastBit x ≤ k := by
      unfold lastBit
      omega
    obtain ⟨n, hn⟩ := Int.eq_ofNat_of_zero_le (sub_nonneg.mpr hbit)
    have hsplit : (2 : ℚ) ^ k = ((2 ^ n : ℤ) : ℚ) * 2 ^ lastBit x := by
      push_cast
      rw [← zpow_natCast, ← zpow_add₀ (by norm_num)]
      congr 1
      omega
    rw [round, hsplit]
    refine mul_le_mul_of_nonneg_right (Int.cast_le.mpr (nearestEven_le_of_le ?_)) hstep.le
    rw [div_le_iff₀ hstep, ← hsplit]
    exact hlt.le
  · have htop : x < 2 ^ (k + 1) := by
      have hsmall : (2 : ℚ) ^ (k - 53) < 2 ^ k := zpow_lt_zpow_right₀ (by norm_num) (by omega)
      rw [zpow_add_one₀ (by norm_num)]
      linarith
    have hbelow := le_log pos hge
    have habove := log_lt pos htop
    have hbit : lastBit x = k - 52 := by
      unfold lastBit
      omega
    -- One unit is `2 ^ 52` steps, which is even.
    have hunit : (2 : ℚ) ^ k = ((2 ^ 52 : ℤ) : ℚ) * 2 ^ (k - 52) := by
      rw [show ((2 ^ 52 : ℤ) : ℚ) = 2 ^ (52 : ℤ) by norm_num, ← zpow_add₀ (by norm_num)]
      congr 1
      ring
    have hhalf : (2 : ℚ) ^ (k - 53) = 1 / 2 * 2 ^ (k - 52) := by
      rw [show k - 52 = k - 53 + 1 by ring, zpow_add_one₀ (by norm_num)]
      ring
    rw [round, hbit, hunit]
    refine mul_le_mul_of_nonneg_right (Int.cast_le.mpr (nearestEven_le_of_even (by norm_num) ?_))
      (two_zpow_pos _).le
    rw [div_le_iff₀ (two_zpow_pos _), add_mul, ← hunit, ← hhalf]
    exact h

theorem round_add_le_one {a b : ℚ} (ha : 0 ≤ a) (hb : 0 ≤ b) (h : a + b ≤ 1 + 2 ^ (-58 : ℤ)) :
    round (round a + round b) ≤ 1 := by
  wlog hle : b ≤ a generalizing a b
  · rw [add_comm]
    exact this hb ha (by rwa [add_comm]) (le_of_not_ge hle)
  have hsum : round a + round b ≤ 1 + 2 ^ (-53 : ℤ) := by
    rcases lt_or_ge b (2 ^ (-1 : ℤ)) with hsmall | hlarge
    · have hroundB := round_le_add (by norm_num) hb hsmall
      rcases lt_or_ge a (2 ^ (0 : ℤ)) with hbelow | habove
      · have hroundA := round_le_add (by norm_num) ha hbelow
        norm_num at *
        linarith
      · have hroundA : round a ≤ 2 ^ (0 : ℤ) := by
          refine round_le_two_zpow (by norm_num) ha ?_
          norm_num at *
          linarith
        norm_num at *
        linarith
    · have hroundA : round a ≤ 2 ^ (-1 : ℤ) := by
        refine round_le_two_zpow (by norm_num) ha ?_
        norm_num at *
        linarith
      have hroundB : round b ≤ 2 ^ (-1 : ℤ) := by
        refine round_le_two_zpow (by norm_num) hb ?_
        norm_num at *
        linarith
      norm_num at *
      linarith
  have hone := round_le_two_zpow (k := 0) (by norm_num)
    (add_nonneg (round_nonneg ha) (round_nonneg hb)) (by simpa using hsum)
  simpa using hone

theorem shortest_cases (x : ℚ) :
    shortest x = x ∨ ∃ n : ℕ, shortest x ∈ decimalsNear x (n + 1) := by
  unfold shortest
  cases hfind : ((List.range 17).flatMap fun n => decimalsNear x (n + 1)).find? (round · = x) with
  | none => exact Or.inl rfl
  | some d =>
    obtain ⟨n, -, hd⟩ := mem_flatMap.mp (mem_of_find?_eq_some hfind)
    exact Or.inr ⟨n, hd⟩

theorem shortest_nonneg {x : ℚ} (h : 0 ≤ x) : 0 ≤ shortest x := by
  rcases shortest_cases x with heq | ⟨n, hn⟩
  · rwa [heq]
  · have hstep : (0 : ℚ) < 10 ^ (Int.log 10 |x| + 1 - (n + 1 : ℕ)) := zpow_pos (by norm_num) _
    have hquotient := div_nonneg h hstep.le
    simp only [decimalsNear, mem_cons, not_mem_nil, or_false] at hn
    rcases hn with hn | hn | hn
    · rw [hn]
      exact mul_nonneg (Int.cast_nonneg (nearestEven_nonneg hquotient)) hstep.le
    · rw [hn]
      exact mul_nonneg (Int.cast_nonneg (Int.floor_nonneg.mpr hquotient)) hstep.le
    · rw [hn]
      exact mul_nonneg (Int.cast_nonneg (Int.ceil_nonneg hquotient)) hstep.le

theorem shortest_le_one {x : ℚ} (nonneg : 0 ≤ x) (h : x ≤ 1) : shortest x ≤ 1 := by
  rcases shortest_cases x with heq | ⟨n, hn⟩
  · rwa [heq]
  have hlog : Int.log 10 |x| ≤ 0 := by
    rw [abs_of_nonneg nonneg]
    calc Int.log 10 x ≤ Int.log 10 (1 : ℚ) := by
          rcases nonneg.eq_or_lt with rfl | pos
          · simp
          · exact Int.log_mono_right pos h
      _ = 0 := Int.log_one_right 10
  obtain ⟨m, hm⟩ : ∃ m : ℕ, Int.log 10 |x| + 1 - ((n + 1 : ℕ) : ℤ) = -(m : ℤ) :=
    ⟨(n - Int.log 10 |x|).toNat, by omega⟩
  -- One is a whole number of steps, so that nothing next to `x` is above it.
  have hpow : (0 : ℚ) < 10 ^ m := by positivity
  have hstep : (10 : ℚ) ^ (Int.log 10 |x| + 1 - ((n + 1 : ℕ) : ℤ)) = (10 ^ m)⁻¹ := by
    rw [hm, zpow_neg, zpow_natCast]
  have hquotient : x / (10 ^ m)⁻¹ ≤ ((10 ^ m : ℤ) : ℚ) := by
    rw [div_inv_eq_mul]
    push_cast
    nlinarith
  have hbound : ∀ z : ℤ, z ≤ 10 ^ m → (z : ℚ) * (10 ^ m)⁻¹ ≤ 1 := by
    intro z hz
    rw [← div_eq_mul_inv, div_le_one hpow]
    exact_mod_cast hz
  simp only [decimalsNear, hstep, mem_cons, not_mem_nil, or_false] at hn
  rcases hn with hn | hn | hn
  · rw [hn]
    exact hbound _ (nearestEven_le_of_le hquotient)
  · rw [hn]
    exact hbound _ (Int.cast_le.mp ((Int.floor_le _).trans hquotient))
  · rw [hn]
    exact hbound _ (Int.ceil_le.mpr hquotient)

example : shortest (round (1 / 10)) = 1 / 10 := by decide +kernel

/-- The last place of a number of significant digits of the decimals as large as `x`. -/
def decimalStep (digits : ℕ) (x : ℚ) : ℚ := 10 ^ (Int.log 10 |x| + 1 - digits)

def significant (digits : ℕ) (x : ℚ) : ℚ :=
  nearestEven (x / decimalStep digits x) * decimalStep digits x

theorem nearestEven_eq {x : ℚ} {n : ℤ} (h : |x - n| < 1 / 2) : nearestEven x = n := by
  obtain ⟨hlow, hhigh⟩ := abs_lt.mp h
  rcases lt_or_ge x n with hlt | hge
  · have hfloor : ⌊x⌋ = n - 1 :=
      Int.floor_eq_iff.mpr ⟨by push_cast; linarith, by push_cast; linarith⟩
    simp only [nearestEven, hfloor]
    rw [if_pos (.inl (by push_cast; linarith))]
    omega
  · have hfloor : ⌊x⌋ = n := Int.floor_eq_iff.mpr ⟨hge, by linarith⟩
    simp only [nearestEven, hfloor]
    rw [if_neg (by rintro (h | ⟨h, -⟩) <;> linarith)]

theorem le_nearestEven_of_le {x : ℚ} {n : ℤ} (h : n ≤ x) : n ≤ nearestEven x := by
  have hlow := (abs_le.mp (abs_nearestEven_sub_le x)).1
  have hlt : (n : ℚ) < nearestEven x + 1 := by linarith
  exact Int.lt_add_one_iff.mp (by exact_mod_cast hlt)

theorem nearestEven_mul_eq {y step : ℚ} {n : ℤ} (pos : 0 < step) (h : |y - n * step| < step / 2) :
    nearestEven (y / step) * step = n * step := by
  rw [nearestEven_eq]
  rw [div_sub' pos.ne', abs_div, abs_of_pos pos, div_lt_iff₀ pos]
  rw [mul_comm step]
  linarith

theorem abs_nearestEven_mul_sub_le {y step : ℚ} (pos : 0 < step) :
    |nearestEven (y / step) * step - y| ≤ step / 2 := by
  have h := abs_nearestEven_sub_le (y / step)
  have heq : nearestEven (y / step) * step - y = (nearestEven (y / step) - y / step) * step := by
    rw [sub_mul, div_mul_cancel₀ _ pos.ne']
  rw [heq, abs_mul, abs_of_pos pos]
  nlinarith

section Significant

variable {digits : ℕ} {x d f : ℚ}

theorem decimalStep_pos (digits : ℕ) (x : ℚ) : 0 < decimalStep digits x := zpow_pos (by norm_num) _

theorem significant_nonneg (h : 0 ≤ x) : 0 ≤ significant digits x :=
  mul_nonneg (Int.cast_nonneg (nearestEven_nonneg (div_nonneg h (decimalStep_pos digits x).le)))
    (decimalStep_pos digits x).le

theorem log_eq {b : ℕ} {t : ℤ} (hb : 1 < b) (pos : 0 < x) (low : (b : ℚ) ^ t ≤ x)
    (high : x < (b : ℚ) ^ (t + 1)) : Int.log b |x| = t := by
  rw [abs_of_pos pos]
  have hle := (Int.zpow_le_iff_le_log hb pos).mp low
  have hlt := (Int.lt_zpow_iff_log_lt hb pos).mp high
  omega

theorem decimalStep_eq {t : ℤ} (pos : 0 < x) (low : (10 : ℚ) ^ t ≤ x) (high : x < 10 ^ (t + 1)) :
    decimalStep digits x = 10 ^ (t + 1 - digits) := by
  rw [decimalStep, log_eq (by norm_num) pos (by exact_mod_cast low) (by exact_mod_cast high)]

theorem exists_decade (pos : 0 < x) : ∃ t : ℤ, (10 : ℚ) ^ t ≤ x ∧ x < 10 ^ (t + 1) :=
  ⟨Int.log 10 x, by exact_mod_cast Int.zpow_log_le_self (b := 10) (by norm_num) pos,
    by exact_mod_cast Int.lt_zpow_succ_log_self (b := 10) (by norm_num) x⟩

theorem exists_steps {a b : ℤ} (h : a ≤ b) : ∃ n : ℤ, (10 : ℚ) ^ b = n * 10 ^ a := by
  refine ⟨10 ^ (b - a).toNat, ?_⟩
  push_cast
  rw [← zpow_natCast, Int.toNat_of_nonneg (by omega), ← zpow_add₀ (by norm_num)]
  congr 1
  omega

theorem significant_grid (one : 1 ≤ digits) (pos : 0 < x) : 0 < significant digits x ∧
    ∃ n : ℤ, significant digits x = n * decimalStep digits (significant digits x) := by
  obtain ⟨t, hlow, hhigh⟩ := exists_decade pos
  have hstep : decimalStep digits x = 10 ^ (t + 1 - digits) := decimalStep_eq pos hlow hhigh
  have hpos := decimalStep_pos digits x
  obtain ⟨n, hn⟩ : ∃ n : ℤ, (10 : ℚ) ^ t = n * decimalStep digits x :=
    hstep ▸ exists_steps (by omega)
  obtain ⟨m, hm⟩ : ∃ m : ℤ, (10 : ℚ) ^ (t + 1) = m * decimalStep digits x :=
    hstep ▸ exists_steps (by omega)
  have hge : (10 : ℚ) ^ t ≤ significant digits x := by
    have hn' : n ≤ nearestEven (x / decimalStep digits x) :=
      le_nearestEven_of_le ((le_div_iff₀ hpos).mpr (hn ▸ hlow))
    rw [hn, significant]
    exact mul_le_mul_of_nonneg_right (Int.cast_le.mpr hn') hpos.le
  have hle : significant digits x ≤ 10 ^ (t + 1) := by
    have hm' : nearestEven (x / decimalStep digits x) ≤ m :=
      nearestEven_le_of_le ((div_le_iff₀ hpos).mpr (hm ▸ hhigh.le))
    rw [hm, significant]
    exact mul_le_mul_of_nonneg_right (Int.cast_le.mpr hm') hpos.le
  have hpos' : 0 < significant digits x := (zpow_pos (by norm_num) _).trans_le hge
  refine ⟨hpos', ?_⟩
  rcases hle.lt_or_eq with hlt | heq
  · rw [decimalStep_eq hpos' hge hlt, ← hstep]
    exact ⟨_, rfl⟩
  · rw [decimalStep_eq hpos' heq.ge (heq ▸ zpow_lt_zpow_right₀ (by norm_num) (by omega)), heq]
    exact exists_steps (by omega)

theorem significant_near (one : 1 ≤ digits) (hf : 0 < f) (hd : 0 < d)
    (grid : ∃ n : ℤ, d = n * decimalStep digits d) (near : |f - d| < decimalStep digits f / 2) :
    significant digits f = d ∨ |significant digits f - f| < |f - d| := by
  obtain ⟨t, hlow, hhigh⟩ := exists_decade hf
  have hstep : decimalStep digits f = 10 ^ (t + 1 - digits) := decimalStep_eq hf hlow hhigh
  obtain ⟨n, hn⟩ : ∃ n : ℤ, (10 : ℚ) ^ t = n * decimalStep digits f :=
    hstep ▸ exists_steps (by omega)
  obtain ⟨m, hm⟩ : ∃ m : ℤ, (10 : ℚ) ^ (t + 1) = m * decimalStep digits f :=
    hstep ▸ exists_steps (by omega)
  have hround : ∀ z : ℤ, |f - z * decimalStep digits f| < decimalStep digits f / 2 →
      significant digits f = z * decimalStep digits f :=
    fun z => nearestEven_mul_eq (decimalStep_pos digits f)
  rcases lt_or_ge d (10 ^ t) with hless | hmore
  · -- The decade of `f` begins between the two.
    have habs : |f - d| = f - d := abs_of_nonneg (by linarith)
    have hten : |f - 10 ^ t| = f - 10 ^ t := abs_of_nonneg (by linarith)
    have heq := hround n (by rw [← hn, hten]; linarith)
    right
    rw [heq, ← hn, abs_sub_comm, hten, habs]
    linarith
  rcases lt_or_ge d (10 ^ (t + 1)) with hless | hmore'
  · obtain ⟨z, hz⟩ := grid
    rw [decimalStep_eq hd hmore hless, ← hstep] at hz
    left
    rw [hz]
    exact hround z (hz ▸ near)
  · have habs : |f - d| = d - f := by
      rw [abs_sub_comm]
      exact abs_of_nonneg (by linarith)
    have hten : |f - 10 ^ (t + 1)| = 10 ^ (t + 1) - f := by
      rw [abs_sub_comm]
      exact abs_of_nonneg (by linarith)
    have heq := hround m (by rw [← hm, hten]; linarith)
    rw [heq, ← hm]
    rcases hmore'.eq_or_lt with heq' | hlt
    · exact .inl heq'
    · right
      rw [abs_sub_comm, hten, habs]
      linarith

theorem significant_eq_of_close (one : 1 ≤ digits) (few : digits ≤ 15) (hd : 0 < d)
    (grid : ∃ n : ℤ, d = n * decimalStep digits d) (close : |f - d| ≤ d / 2 ^ 53) :
    significant digits f = d := by
  obtain ⟨e, hlow, hhigh⟩ := exists_decade hd
  have hstep : decimalStep digits d = 10 ^ (e + 1 - digits) := decimalStep_eq hd hlow hhigh
  obtain ⟨n, hn⟩ := grid
  have hpos := decimalStep_pos digits d
  obtain ⟨hsub, hadd⟩ := abs_le.mp close
  have hten : (10 : ℚ) ^ (e + 1) = 10 * 10 ^ e := by
    rw [zpow_add_one₀ (by norm_num), mul_comm]
  -- The decade has at most as many steps as `10 ^ 15`, and `d` is at least one step below its end.
  have hwide : (10 : ℚ) ^ (e + 1) ≤ 10 ^ 15 * decimalStep digits d := by
    rw [hstep, ← zpow_natCast, ← zpow_add₀ (by norm_num)]
    exact zpow_le_zpow_right₀ (by norm_num) (by push_cast; omega)
  have hbelow : d + decimalStep digits d ≤ 10 ^ (e + 1) := by
    obtain ⟨m, hm⟩ : ∃ m : ℤ, (10 : ℚ) ^ (e + 1) = m * decimalStep digits d :=
      hstep ▸ exists_steps (by omega)
    have hlt : n < m := by
      rw [hn, hm] at hhigh
      exact_mod_cast lt_of_mul_lt_mul_right hhigh hpos.le
    have hle : ((n + 1 : ℤ) : ℚ) ≤ m := Int.cast_le.mpr hlt
    calc d + decimalStep digits d = (n + 1 : ℤ) * decimalStep digits d := by
          push_cast
          rw [add_mul, one_mul, ← hn]
      _ ≤ m * decimalStep digits d := mul_le_mul_of_nonneg_right hle hpos.le
      _ = 10 ^ (e + 1) := hm.symm
  have hd' : d / 2 ^ 53 ≤ decimalStep digits d / 8 := by
    norm_num
    linarith only [hpos, hwide, hhigh]
  have hf : 0 < f := by linarith only [hsub, hadd, hd, hd', hbelow, hpos]
  rw [significant]
  rcases le_or_gt (10 ^ e) f with hge | hlt
  · have hsame : decimalStep digits f = decimalStep digits d := by
      rw [hstep, decimalStep_eq hf hge (by linarith only [hadd, hd', hbelow, hpos])]
    rw [hsame]
    refine (nearestEven_mul_eq hpos ?_).trans hn.symm
    rw [← hn]
    exact close.trans_lt (by linarith only [hd', hpos])
  · have hfiner : decimalStep digits f * 10 = decimalStep digits d := by
      have hprevious : (10 : ℚ) ^ e = 10 * 10 ^ (e - 1) := by
        rw [← zpow_one_add₀ (by norm_num)]
        congr 1
        ring
      have hlow' : (10 : ℚ) ^ (e - 1) ≤ f := by
        linarith only [hprevious, hsub, hlow, hd', hten, hpos, hbelow, hwide, hd]
      rw [hstep, decimalStep_eq hf (t := e - 1) hlow' (by simpa using hlt),
        ← zpow_add_one₀ (by norm_num)]
      congr 1
      ring
    have hmultiple : d = ((10 * n : ℤ) : ℚ) * decimalStep digits f := by
      rw [← hfiner] at hn
      rw [Int.cast_mul, mul_right_comm, mul_comm, hn]
      push_cast
      ring
    refine (nearestEven_mul_eq (decimalStep_pos digits f) ?_).trans hmultiple.symm
    rw [← hmultiple]
    refine close.trans_lt ?_
    norm_num
    linarith only [hlt, hsub, hd', hten, hwide, hfiner, hpos]

theorem round_eq_of_subnormal {y : ℚ} {n : ℤ} (n_pos : 0 < n) (small : y < 2 ^ (-1021 : ℤ))
    (near : |y - n * 2 ^ (-1074 : ℤ)| < 2 ^ (-1074 : ℤ) / 2) : round y = n * 2 ^ (-1074 : ℤ) := by
  have hbit := two_zpow_pos (-1074)
  have hone : (1 : ℚ) ≤ n := by exact_mod_cast n_pos
  have hmul : (2 : ℚ) ^ (-1074 : ℤ) ≤ n * 2 ^ (-1074 : ℤ) := le_mul_of_one_le_left hbit.le hone
  have hpos : 0 < y := by linarith only [(abs_lt.mp near).1, hmul, hbit]
  have hlog := log_lt hpos small
  have hlast : lastBit y = -1074 := max_eq_right (by omega)
  rw [round, hlast]
  exact nearestEven_mul_eq hbit near

theorem zpow_ten_lt_or_gt (j : ℤ) :
    (10 : ℚ) ^ j < 2 ^ (-1074 : ℤ) ∨ (2 : ℚ) ^ (-1074 : ℤ) < 10 ^ j := by
  rcases le_or_gt j (-324) with hle | hgt
  · left
    exact (zpow_le_zpow_right₀ (by norm_num) hle).trans_lt (by decide +kernel)
  · right
    have hge : (-323 : ℤ) ≤ j := by omega
    exact lt_of_lt_of_le (by decide +kernel) (zpow_le_zpow_right₀ (by norm_num) hge)

theorem round_significant_round (one : 1 ≤ digits) (few : digits ≤ 15) (hx : 0 ≤ x) :
    round (significant digits (round (significant digits x))) = round (significant digits x) := by
  have hzero : significant digits 0 = 0 := by simp [significant, nearestEven]
  rcases hx.eq_or_lt with rfl | hx
  · rw [hzero, round_zero, hzero, round_zero]
  obtain ⟨hd, grid⟩ := significant_grid one hx
  generalize significant digits x = d at hd grid
  have hnear : |round d - d| ≤ 2 ^ lastBit d / 2 := abs_nearestEven_mul_sub_le (two_zpow_pos _)
  rcases le_or_gt (-1022) (Int.log 2 |d|) with hnormal | hsubnormal
  · -- Fifteen digits are coarser than binary64, so the decimal comes back.
    rw [significant_eq_of_close one few hd grid]
    refine hnear.trans ?_
    have hlast : lastBit d = Int.log 2 |d| - 52 := max_eq_left (by omega)
    have hlog := Int.zpow_log_le_self (b := 2) (by norm_num) hd
    rw [hlast, abs_of_pos hd, zpow_sub₀ (by norm_num)]
    push_cast at hlog
    norm_num
    linarith only [hlog]
  · have hlast : lastBit d = -1074 := max_eq_right (by omega)
    have hbit := two_zpow_pos (-1074)
    have hsmall : d < 2 ^ (-1022 : ℤ) := by
      rw [abs_of_pos hd] at hsubnormal
      exact_mod_cast (Int.lt_zpow_iff_log_lt (b := 2) (by norm_num) hd).mpr hsubnormal
    have hround : round d = nearestEven (d / 2 ^ (-1074 : ℤ)) * 2 ^ (-1074 : ℤ) := by
      rw [round, hlast]
    rw [hlast] at hnear
    rcases (round_nonneg hd.le).eq_or_lt with heq | hf
    · rw [← heq, hzero, round_zero]
    have hn : 0 < nearestEven (d / 2 ^ (-1074 : ℤ)) := by
      rw [hround] at hf
      exact_mod_cast pos_of_mul_pos_left hf hbit.le
    have hback : ∀ y, |y - round d| < 2 ^ (-1074 : ℤ) / 2 → round y = round d := by
      intro y hy
      have hy' : y < 2 ^ (-1021 : ℤ) := by
        have hroom : (2 : ℚ) ^ (-1022 : ℤ) + 2 ^ (-1074 : ℤ) < 2 ^ (-1021 : ℤ) := by decide +kernel
        linarith only [hroom, (abs_lt.mp hy).2, (abs_le.mp hnear).2, hsmall]
      rw [hround] at hy ⊢
      exact round_eq_of_subnormal hn hy' hy
    -- The decimals are either finer or coarser than the last bit.
    rcases zpow_ten_lt_or_gt (Int.log 10 |round d| + 1 - digits) with hfine | hcoarse
    · refine hback _ (lt_of_le_of_lt (abs_nearestEven_mul_sub_le (decimalStep_pos _ _)) ?_)
      exact div_lt_div_of_pos_right hfine (by norm_num)
    · have hclose : |round d - d| < decimalStep digits (round d) / 2 :=
        hnear.trans_lt (div_lt_div_of_pos_right hcoarse (by norm_num))
      rcases significant_near one hf hd grid hclose with hsame | hnearer
      · rw [hsame]
      · exact hback _ (hnearer.trans_le hnear)

end Significant

end Binary64
