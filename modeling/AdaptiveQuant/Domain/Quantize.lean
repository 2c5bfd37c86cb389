import AdaptiveQuant.Domain.Basic

/-! Rounding to a quantum. -/

namespace AdaptiveQuant

/-- The unit that `quantize` rounds to: one of the last digit of the quantum. -/
def Quantum.unit (q : Quantum) : Decimal := 10 ^ q.exponent

theorem Quantum.unit_pos (q : Quantum) : 0 < q.unit := q.step_pos

variable {q : Quantum}

theorem Quantum.unit_le_value (h : 0 < q.value) : q.unit ≤ q.value := by
  have hcoefficient : (1 : Decimal) ≤ q.coefficient := by
    have hpos : 0 < (q.coefficient : Decimal) := pos_of_mul_pos_left h q.unit_pos.le
    exact_mod_cast hpos
  exact le_mul_of_one_le_left q.unit_pos.le hcoefficient

theorem quantizeDown_eq_multiple {value : Decimal} (q : Quantum) (h : 0 ≤ value) :
    ∃ n : ℕ, quantizeDown value q = n * q.unit := by
  have hsteps : 0 ≤ value / 10 ^ q.exponent := div_nonneg h q.step_pos.le
  refine ⟨⌊value / 10 ^ q.exponent⌋.toNat, ?_⟩
  have hfloor : ((⌊value / 10 ^ q.exponent⌋.toNat : ℤ) : Decimal) = ⌊value / 10 ^ q.exponent⌋ := by
    rw [Int.toNat_of_nonneg (Int.floor_nonneg.mpr hsteps)]
  simp only [quantizeDown, if_pos hsteps, Quantum.unit, ← hfloor, Int.cast_natCast]

theorem multiple_le_quantizeDown {value : Decimal} {n : ℕ}
    (h : n * q.unit ≤ value) : n * q.unit ≤ quantizeDown value q := by
  have hvalue : 0 ≤ value := (mul_nonneg (Nat.cast_nonneg n) q.unit_pos.le).trans h
  have hsteps : 0 ≤ value / 10 ^ q.exponent := div_nonneg hvalue q.step_pos.le
  have hfloor : (n : ℤ) ≤ ⌊value / 10 ^ q.exponent⌋ := by
    rw [Int.le_floor, le_div_iff₀ q.step_pos]
    exact_mod_cast h
  simp only [quantizeDown, if_pos hsteps]
  exact mul_le_mul_of_nonneg_right (by exact_mod_cast hfloor) q.step_pos.le

theorem lt_quantizeDown_add {value : Decimal} (h : 0 ≤ value) :
    value < quantizeDown value q + q.unit := by
  by_contra hnot
  obtain ⟨n, hn⟩ := quantizeDown_eq_multiple q h
  have hnext : ((n + 1 : ℕ) : Decimal) * q.unit ≤ value := by
    push_cast
    linarith
  have hle := multiple_le_quantizeDown hnext
  have hunit := q.unit_pos
  push_cast at hle
  linarith

theorem quantizeDown_idem {value : Decimal} (h : 0 ≤ value) :
    quantizeDown (quantizeDown value q) q = quantizeDown value q := by
  refine le_antisymm (quantizeDown_le (quantizeDown_nonneg h)) ?_
  obtain ⟨n, hn⟩ := quantizeDown_eq_multiple q h
  rw [hn]
  exact multiple_le_quantizeDown le_rfl

theorem quantizeDown_pos_value {value : Decimal} (h : 0 < quantizeDown value q) :
    0 ≤ value := by
  by_contra hnegative
  exact absurd h (not_lt.mpr (quantizeDown_nonpos (not_le.mp hnegative)))

theorem quantizeHalfEven_mono {a b : Decimal} (h : a ≤ b) :
    quantizeHalfEven a q ≤ quantizeHalfEven b q := by
  have hdiv : a / 10 ^ q.exponent ≤ b / 10 ^ q.exponent :=
    div_le_div_of_nonneg_right h q.step_pos.le
  simp only [quantizeHalfEven]
  generalize a / 10 ^ q.exponent = x at hdiv
  generalize b / 10 ^ q.exponent = y at hdiv
  refine mul_le_mul_of_nonneg_right (Int.cast_le.mpr ?_) q.step_pos.le
  have hfloor : ⌊x⌋ ≤ ⌊y⌋ := Int.floor_le_floor hdiv
  rcases hfloor.lt_or_eq with hlt | heq
  · split <;> split <;> omega
  · rw [heq]
    split
    · rename_i hup
      have hupper : y - ⌊y⌋ > 1 / 2 ∨ y - ⌊y⌋ = 1 / 2 ∧ ⌊y⌋ % 2 = 1 := by
        rcases hup with hup | ⟨hhalf, hodd⟩
        · exact .inl (lt_of_lt_of_le hup (sub_le_sub_right hdiv _))
        · have hge : 1 / 2 ≤ y - ⌊y⌋ := hhalf ▸ sub_le_sub_right hdiv _
          rcases hge.lt_or_eq with hgt | hsame
          · exact .inl hgt
          · exact .inr ⟨hsame.symm, hodd⟩
      rw [if_pos hupper]
    · split <;> omega

end AdaptiveQuant
