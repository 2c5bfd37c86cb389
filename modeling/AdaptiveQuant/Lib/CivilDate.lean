import Mathlib.Algebra.GroupWithZero.Nat
import Mathlib.Data.Prod.Lex
import Mathlib.Order.Basic

/-! Dates of the proleptic Gregorian calendar, years 1 to 9999. -/

def isLeapYear (year : ℕ) : Bool := year % 4 = 0 ∧ (year % 100 ≠ 0 ∨ year % 400 = 0)

def daysInMonth (year month : ℕ) : ℕ :=
  if month = 2 then (if isLeapYear year then 29 else 28)
  else if month = 4 ∨ month = 6 ∨ month = 9 ∨ month = 11 then 30
  else 31

theorem daysInMonth_pos (year month : ℕ) : 1 ≤ daysInMonth year month := by
  unfold daysInMonth
  repeat' split
  all_goals omega

theorem daysInMonth_le (year month : ℕ) : daysInMonth year month ≤ 31 := by
  unfold daysInMonth
  repeat' split
  all_goals omega

structure CivilDate where
  year : ℕ
  month : ℕ
  day : ℕ
  year_bounds : 1 ≤ year ∧ year ≤ 9999
  month_bounds : 1 ≤ month ∧ month ≤ 12
  day_bounds : 1 ≤ day ∧ day ≤ daysInMonth year month
deriving DecidableEq

namespace CivilDate

theorem ext_parts {a b : CivilDate} (hyear : a.year = b.year) (hmonth : a.month = b.month)
    (hday : a.day = b.day) : a = b := by
  cases a
  cases b
  simp_all

instance : LinearOrder CivilDate :=
  LinearOrder.lift' (fun d : CivilDate => toLex (d.year, toLex (d.month, d.day))) (by
    intro a b h
    simp only [EmbeddingLike.apply_eq_iff_eq, Prod.mk.injEq] at h
    exact ext_parts h.1 h.2.1 h.2.2)

def daysBeforeMonth (year month : ℕ) : ℕ :=
  ((List.range (month - 1)).map fun m => daysInMonth year (m + 1)).sum

/-- The number of the day, counted from the first of January of year 1. -/
def ordinal (d : CivilDate) : ℕ :=
  let years := d.year - 1
  years * 365 + years / 4 - years / 100 + years / 400 + daysBeforeMonth d.year d.month + d.day

def weekday (d : CivilDate) : ℕ := (d.ordinal + 6) % 7

/-- The next day, unless the calendar ends. -/
def next (d : CivilDate) : Option CivilDate :=
  if hday : d.day + 1 ≤ daysInMonth d.year d.month then
    some { d with day := d.day + 1, day_bounds := ⟨by omega, hday⟩ }
  else if hmonth : d.month + 1 ≤ 12 then
    some
      { d with
        month := d.month + 1
        day := 1
        month_bounds := ⟨by omega, hmonth⟩
        day_bounds := ⟨le_refl 1, daysInMonth_pos _ _⟩ }
  else if hyear : d.year + 1 ≤ 9999 then
    some
      { year := d.year + 1
        month := 1
        day := 1
        year_bounds := ⟨by omega, hyear⟩
        month_bounds := ⟨le_refl 1, by omega⟩
        day_bounds := ⟨le_refl 1, daysInMonth_pos _ _⟩ }
  else none

def daysFrom (last : CivilDate) : ℕ → CivilDate → List CivilDate
  | 0, _ => []
  | n + 1, cursor =>
    if cursor ≤ last then cursor :: (cursor.next.elim [] (daysFrom last n)) else []

def daysBetween (first last : CivilDate) : List CivilDate :=
  daysFrom last (last.ordinal + 1 - first.ordinal) first

def digitAt (n place : ℕ) : Char := Nat.digitChar (n / place % 10)

/-- The text `YYYY-MM-DD`. -/
def isoformat (d : CivilDate) : String :=
  String.ofList
    [digitAt d.year 1000, digitAt d.year 100, digitAt d.year 10, digitAt d.year 1, '-',
      digitAt d.month 10, digitAt d.month 1, '-', digitAt d.day 10, digitAt d.day 1]

theorem digitAt_inj {a b place : ℕ} (h : digitAt a place = digitAt b place) :
    a / place % 10 = b / place % 10 := by
  have hdigits : ∀ m < 10, ∀ n < 10, Nat.digitChar m = Nat.digitChar n → m = n := by decide
  exact hdigits _ (Nat.mod_lt _ (by decide)) _ (Nat.mod_lt _ (by decide)) h

theorem isoformat_injective {a b : CivilDate} (h : a.isoformat = b.isoformat) : a = b := by
  have hlist := String.ofList_injective h
  simp only [List.cons.injEq, true_and, and_true] at hlist
  obtain ⟨hy3, hy2, hy1, hy0, hm1, hm0, hd1, hd0⟩ := hlist
  have hya := a.year_bounds
  have hyb := b.year_bounds
  have hma := a.month_bounds
  have hmb := b.month_bounds
  have hda := a.day_bounds.2.trans (daysInMonth_le _ _)
  have hdb := b.day_bounds.2.trans (daysInMonth_le _ _)
  apply ext_parts
  · have h3 := digitAt_inj hy3
    have h2 := digitAt_inj hy2
    have h1 := digitAt_inj hy1
    have h0 := digitAt_inj hy0
    omega
  · have h1 := digitAt_inj hm1
    have h0 := digitAt_inj hm0
    omega
  · have h1 := digitAt_inj hd1
    have h0 := digitAt_inj hd0
    omega

theorem year_2026 : 1 ≤ 2026 ∧ 2026 ≤ 9999 := by decide

theorem january : 1 ≤ 1 ∧ 1 ≤ 12 := by decide

def monday : CivilDate := ⟨2026, 1, 5, year_2026, january, by decide⟩

end CivilDate
