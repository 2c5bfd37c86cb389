import AdaptiveQuant.Domain.CanonicalData
import AdaptiveQuant.Lib.Dict
import Mathlib.Data.Nat.Log

/-! The state of an arm as a payload (`runtime/q1_state.py`). -/

namespace AdaptiveQuant

open Guard Sequence List

namespace PyDecimal

/-- `coefficient / 10 ^ excess`, rounded half to even. -/
def nearest (coefficient excess : ℕ) : ℕ :=
  let quotient := coefficient / 10 ^ excess
  let twice := 2 * (coefficient % 10 ^ excess)
  if 10 ^ excess < twice ∨ twice = 10 ^ excess ∧ quotient % 2 = 1 then quotient + 1 else quotient

/-- A number in the default context, of 28 digits. -/
def rounded (negative : Bool) (coefficient : ℕ) (exponent : ℤ) : PyDecimal :=
  let excess := Nat.log 10 coefficient - 27
  if nearest coefficient excess = 10 ^ 28 then .finite negative (10 ^ 27) (exponent + excess + 1)
  else .finite negative (nearest coefficient excess) (exponent + excess)

def signed (negative : Bool) (coefficient : ℕ) : ℤ := if negative then -coefficient else coefficient

/-- `a + b`. The invalid operation of two infinities is `nan`: amounts are positive. -/
def add : PyDecimal → PyDecimal → PyDecimal
  | .finite n c e, .finite n' c' e' =>
    let least := min e e'
    let total := signed n (c * 10 ^ (e - least).toNat) + signed n' (c' * 10 ^ (e' - least).toNat)
    rounded (if total = 0 then n && n' else total < 0) total.natAbs least
  | .nan, _ | _, .nan => .nan
  | .infinite n, .infinite n' => if n = n' then .infinite n else .nan
  | .infinite n, .finite .. | .finite .., .infinite n => .infinite n

def sum (amounts : List PyDecimal) : PyDecimal := amounts.foldl add (.finite false 0 0)

/-- Python's order with zero: a NaN cannot be compared. -/
def compareZero : PyDecimal → Except Failure Ordering
  | .finite negative coefficient _ =>
    .ok (if coefficient = 0 then .eq else if negative then .lt else .gt)
  | .infinite negative => .ok (if negative then .lt else .gt)
  | .nan => .error ⟨.invalidOperation, "comparison involving NaN", []⟩

/-- Python's `==`: equal numbers, whatever their exponents. -/
def Same : PyDecimal → PyDecimal → Prop
  | .finite n c e, .finite n' c' e' => (signed n c : ℚ) * 10 ^ e = signed n' c' * 10 ^ e'
  | .infinite n, .infinite n' => n = n'
  | _, _ => False

/-- The same number without a positive exponent. -/
def plain : PyDecimal → PyDecimal
  | .finite negative coefficient exponent =>
    .finite negative (coefficient * 10 ^ exponent.toNat) (min exponent 0)
  | value => value

def ofTail (negative : Bool) (whole : List Char) : List Char → Option PyDecimal
  | [] => some (.finite negative (Nat.ofDigitChars 10 whole 0) 0)
  | '.' :: fraction =>
    if fraction.all Char.isDigit then
      some (.finite negative (Nat.ofDigitChars 10 (whole ++ fraction) 0) (-fraction.length))
    else none
  | _ => none

def ofBody (negative : Bool) (body : List Char) : Option PyDecimal :=
  let whole := body.takeWhile Char.isDigit
  if body = "Infinity".toList then some (.infinite negative)
  else if whole = [] then none
  else ofTail negative whole (body.dropWhile Char.isDigit)

/-- The decimal of a text in the form of `format(value, "f")`. -/
def ofChars : List Char → Option PyDecimal
  | '-' :: body => ofBody true body
  | body => ofBody false body

end PyDecimal

namespace Q1State

/-- A number of a fixed number of digits, and what follows it. -/
def readDigits (places : ℕ) (chars : List Char) : Option (ℕ × List Char) :=
  let field := chars.take places
  if field.length = places ∧ field.all Char.isDigit then
    some (Nat.ofDigitChars 10 field 0, chars.drop places)
  else none

def expect (c : Char) : List Char → Option (List Char)
  | first :: rest => if first = c then some rest else none
  | [] => none

def readDate (chars : List Char) : Option (CivilDate × List Char) := do
  let year ← readDigits 4 chars
  let month ← readDigits 2 (← expect '-' year.2)
  let day ← readDigits 2 (← expect '-' month.2)
  if h : (1 ≤ year.1 ∧ year.1 ≤ 9999) ∧ (1 ≤ month.1 ∧ month.1 ≤ 12) ∧
      1 ≤ day.1 ∧ day.1 ≤ daysInMonth year.1 month.1 then
    some (⟨year.1, month.1, day.1, h.1, h.2.1, h.2.2⟩, day.2)
  else none

def readFraction : List Char → Option (ℕ × List Char)
  | '.' :: rest => readDigits 6 rest
  | rest => some (0, rest)

def readTime (chars : List Char) : Option UtcTime := do
  let date ← readDate chars
  let hour ← readDigits 2 (← expect 'T' date.2)
  let minute ← readDigits 2 (← expect ':' hour.2)
  let second ← readDigits 2 (← expect ':' minute.2)
  let fraction ← readFraction second.2
  if h : (hour.1 * 3600 + minute.1 * 60 + second.1 < 86400 ∧ fraction.1 < 1000000) ∧
      minute.1 < 60 ∧ second.1 < 60 ∧ fraction.2 = "+00:00".toList then
    some ⟨date.1, hour.1 * 3600 + minute.1 * 60 + second.1, fraction.1, h.1.1, h.1.2⟩
  else none

def isoformat (t : UtcTime) : String :=
  let fraction := if t.microsecond = 0 then [] else '.' :: fixedDigits 6 t.microsecond
  String.ofList (t.clock ++ fraction ++ "+00:00".toList)

def algorithmVersion : String := "q1_math_core_v1"

/-- `created_at` is aware, and stands for the time in UTC that it means. -/
structure UnsettledReceivable where
  receivableId : String
  sourceFillId : String
  amountUsd : PyDecimal
  settlementDate : CivilDate
  createdAt : UtcTime

def UnsettledReceivable.check (receivable : UnsettledReceivable) : Except Failure Unit := do
  let sign ← receivable.amountUsd.compareZero
  raiseIf (sign ≠ .gt) (valueError "Unsettled receivable amount must be positive")

structure Q1ArmStateFields where
  armId : String
  initialNavUsd : PyDecimal
  settledCashUsd : PyDecimal
  unsettledReceivables : List (Validated UnsettledReceivable.check)
  positions : Dict String PyDecimal
  sequence : ℤ
  evaluationAnchorId : Option String
  algorithmVersion : String

/-- `Q1ArmState.__post_init__`. -/
def Q1ArmStateFields.check (s : Q1ArmStateFields) : Except Failure Unit := do
  raiseIf (s.algorithmVersion ≠ Q1State.algorithmVersion)
    (valueError "Q1 arm state algorithm version mismatch")
  let negativeCash := valueError "Q1 arm cash balances cannot be negative"
  raiseIf ((← s.initialNavUsd.compareZero) = .lt) negativeCash
  raiseIf ((← s.settledCashUsd.compareZero) = .lt) negativeCash
  raiseIf (s.sequence < 0) (valueError "Q1 arm state sequence cannot be negative")
  s.positions.values.forM fun quantity => do
    raiseIf ((← quantity.compareZero) = .lt)
      (valueError "Q1 arm state cannot contain short positions")
  raiseIf (¬(s.unsettledReceivables.map (·.val.receivableId)).Nodup)
    (valueError "Q1 arm state has duplicate receivable IDs")

abbrev Q1ArmState := Validated Q1ArmStateFields.check

def Q1ArmStateFields.unsettledCashUsd (s : Q1ArmStateFields) : PyDecimal :=
  PyDecimal.sum (s.unsettledReceivables.map (·.val.amountUsd))

abbrev Payload := List (String × CanonicalValue)

def UnsettledReceivable.asPayload (receivable : UnsettledReceivable) : Payload :=
  [("receivable_id", .str receivable.receivableId),
    ("source_fill_id", .str receivable.sourceFillId),
    ("amount_usd", .str receivable.amountUsd.text),
    ("settlement_date", .str receivable.settlementDate.isoformat),
    ("created_at", .str (isoformat receivable.createdAt))]

def Q1ArmStateFields.sortedReceivables (s : Q1ArmStateFields) :
    List (Validated UnsettledReceivable.check) :=
  sortedBy (·.val.receivableId) s.unsettledReceivables

def Q1ArmStateFields.asPayload (s : Q1ArmStateFields) : Payload :=
  [("schema_version", .str "q1_arm_state_v1"), ("algorithm_version", .str s.algorithmVersion),
    ("arm_id", .str s.armId), ("initial_nav_usd", .str s.initialNavUsd.text),
    ("settled_cash_usd", .str s.settledCashUsd.text),
    ("unsettled_cash_usd", .str s.unsettledCashUsd.text),
    ("unsettled_receivables", .list (s.sortedReceivables.map (.dict ·.val.asPayload))),
    ("positions", .dict (s.positions.sortedItems.map fun item => (item.1, .str item.2.text))),
    ("sequence", .int s.sequence),
    ("evaluation_anchor_id", s.evaluationAnchorId.elim .null .str)]

/-- What `str`, `int`, `Decimal` and the two `fromisoformat` make of what a payload of
`as_payload` does not hold: values that are not text, and texts in other forms. -/
structure Readers where
  str : CanonicalValue → String
  int : CanonicalValue → Except Failure ℤ
  decimal : String → Except Failure PyDecimal
  date : String → Except Failure CivilDate
  datetime : String → Except Failure PyDatetime

namespace Readers

variable (readers : Readers)

def text : CanonicalValue → String
  | .str value => value
  | value => readers.str value

def integer : CanonicalValue → Except Failure ℤ
  | .int value => .ok value
  | value => readers.int value

def amount (value : CanonicalValue) : Except Failure PyDecimal :=
  let text := readers.text value
  match PyDecimal.ofChars text.toList with
  | some amount => .ok amount
  | none => readers.decimal text

def day (value : CanonicalValue) : Except Failure CivilDate :=
  let text := readers.text value
  match readDate text.toList with
  | some (date, []) => .ok date
  | _ => readers.date text

def instant (value : CanonicalValue) : Except Failure PyDatetime :=
  let text := readers.text value
  match readTime text.toList with
  | some time => .ok (.aware time)
  | none => readers.datetime text

end Readers

def field (payload : Payload) (key : String) : Except Failure CanonicalValue :=
  match payload.lookup key with
  | some value => .ok value
  | none => .error ⟨.keyError, key, []⟩

def receivableFromPayload (readers : Readers) (payload : Payload) :
    Except Failure (Validated UnsettledReceivable.check) := do
  let receivableId := readers.text (← field payload "receivable_id")
  let sourceFillId := readers.text (← field payload "source_fill_id")
  let amountUsd ← readers.amount (← field payload "amount_usd")
  let settlementDate ← readers.day (← field payload "settlement_date")
  let createdAt ← readers.instant (← field payload "created_at")
  let sign ← amountUsd.compareZero
  raiseIf (sign ≠ .gt) (valueError "Unsettled receivable amount must be positive")
  match createdAt with
  | .naive => .error (valueError "Unsettled receivable created_at must be timezone-aware")
  | .aware createdAt =>
    validate _ ⟨receivableId, sourceFillId, amountUsd, settlementDate, createdAt⟩

def receivablesFromPayload (readers : Readers) (items : List CanonicalValue) :
    Except Failure (List (Validated UnsettledReceivable.check)) :=
  (items.filterMap fun item => match item with
    | .dict payload => some payload
    | _ => none).mapM (receivableFromPayload readers)

def positionsFromPayload (readers : Readers) (items : Payload) :
    Except Failure (Dict String PyDecimal) :=
  items.foldlM (fun positions item => do
    let quantity ← readers.amount item.2
    return positions.set item.1 quantity) .empty

def fromPayload (readers : Readers) (payload : Payload) : Except Failure Q1ArmState :=
  match payload.lookup "schema_version" with
  | some (.str "q1_arm_state_v1") =>
    match payload.lookup "positions", payload.lookup "unsettled_receivables" with
    | some (.dict rawPositions), some (.list rawReceivables) => do
      let armId := readers.text (← field payload "arm_id")
      let initialNavUsd ← readers.amount (← field payload "initial_nav_usd")
      let settledCashUsd ← readers.amount (← field payload "settled_cash_usd")
      let unsettledReceivables ← receivablesFromPayload readers rawReceivables
      let positions ← positionsFromPayload readers rawPositions
      let sequence ← readers.integer (← field payload "sequence")
      let evaluationAnchorId := match payload.lookup "evaluation_anchor_id" with
        | none | some .null => none
        | some value => some (readers.text value)
      let algorithmVersion := readers.text (← field payload "algorithm_version")
      validate Q1ArmStateFields.check ⟨armId, initialNavUsd, settledCashUsd, unsettledReceivables,
        positions, sequence, evaluationAnchorId, algorithmVersion⟩
    | _, _ => .error (valueError "Malformed Q1 arm state payload")
  | _ => .error (valueError "Not a q1_arm_state_v1 payload")

theorem length_fixedDigits (places n : ℕ) : (fixedDigits places n).length = places := by
  induction places generalizing n with
  | zero => rfl
  | succ places ih => rw [fixedDigits, length_append, ih, length_singleton]

theorem all_fixedDigits (places n : ℕ) : (fixedDigits places n).all Char.isDigit = true := by
  induction places generalizing n with
  | zero => rfl
  | succ places ih =>
    rw [fixedDigits, all_append, ih]
    simp [Nat.isDigit_digitChar, Nat.mod_lt]

theorem ofDigitChars_fixedDigits (places n init : ℕ) :
    Nat.ofDigitChars 10 (fixedDigits places n) init = 10 ^ places * init + n % 10 ^ places := by
  induction places generalizing n with
  | zero => simp [fixedDigits, Nat.mod_one]
  | succ places ih =>
    rw [fixedDigits, Nat.ofDigitChars_append, ih,
      Nat.ofDigitChars_cons_digitChar_of_lt_ten (Nat.mod_lt _ (by decide)), Nat.ofDigitChars_nil,
      pow_succ, Nat.mul_comm (10 ^ places) 10, Nat.mod_mul]
    ring

theorem readDigits_fixedDigits {places n : ℕ} (h : n < 10 ^ places) (rest : List Char) :
    readDigits places (fixedDigits places n ++ rest) = some (n, rest) := by
  have hlength := length_fixedDigits places n
  unfold readDigits
  rw [take_left' hlength, drop_left' hlength]
  dsimp only
  rw [ofDigitChars_fixedDigits, Nat.mod_eq_of_lt h]
  simp [hlength, all_fixedDigits]

theorem isoformat_toList (d : CivilDate) : d.isoformat.toList =
    fixedDigits 4 d.year ++ '-' :: (fixedDigits 2 d.month ++ '-' :: fixedDigits 2 d.day) := by
  simp [CivilDate.isoformat, CivilDate.digitAt, fixedDigits, Nat.div_div_eq_div_mul]

theorem readDate_isoformat (d : CivilDate) (rest : List Char) :
    readDate (d.isoformat.toList ++ rest) = some (d, rest) := by
  have hyear := d.year_bounds
  have hmonth := d.month_bounds
  have hday := d.day_bounds
  have hmost := hday.2.trans (daysInMonth_le _ _)
  rw [isoformat_toList, append_assoc, cons_append, append_assoc, cons_append]
  unfold readDate
  rw [readDigits_fixedDigits (by omega)]
  simp only [Option.bind_eq_bind, Option.bind_some, expect, if_true]
  rw [readDigits_fixedDigits (by omega)]
  simp only [Option.bind_some, if_true]
  rw [readDigits_fixedDigits (by omega)]
  simp only [Option.bind_some]
  rw [dif_pos ⟨hyear, hmonth, hday⟩]

theorem readTime_isoformat (t : UtcTime) : readTime (isoformat t).toList = some t := by
  have hsecond := t.second_lt
  have hmicrosecond := t.microsecond_lt
  have hhour : t.second / 3600 < 10 ^ 2 := by omega
  have hminute : t.second / 60 % 60 < 10 ^ 2 := by omega
  have hrest : t.second % 60 < 10 ^ 2 := by omega
  have hsum : t.second / 3600 * 3600 + t.second / 60 % 60 * 60 + t.second % 60 = t.second := by
    omega
  have hvalid : (t.second / 3600 * 3600 + t.second / 60 % 60 * 60 + t.second % 60 < 86400 ∧
      t.microsecond < 1000000) ∧ t.second / 60 % 60 < 60 ∧ t.second % 60 < 60 ∧
      True :=
    ⟨⟨by omega, hmicrosecond⟩, by omega, by omega, trivial⟩
  have hfraction : readFraction ((if t.microsecond = 0 then [] else
      '.' :: fixedDigits 6 t.microsecond) ++ "+00:00".toList) =
      some (t.microsecond, "+00:00".toList) := by
    split
    · rename_i hzero
      rw [hzero]
      rfl
    · exact readDigits_fixedDigits hmicrosecond _
  unfold isoformat readTime UtcTime.clock
  simp only [String.toList_ofList, append_assoc, cons_append]
  rw [readDate_isoformat]
  simp only [Option.bind_eq_bind, Option.bind_some, expect, if_true]
  rw [readDigits_fixedDigits hhour]
  simp only [Option.bind_some, if_true]
  rw [readDigits_fixedDigits hminute]
  simp only [Option.bind_some, if_true]
  rw [readDigits_fixedDigits hrest]
  simp only [Option.bind_some]
  rw [hfraction]
  simp only [Option.bind_some]
  rw [dif_pos hvalid]
  simp only [hsum]

end Q1State

namespace PyDecimal

open Q1State

variable {negative : Bool}

theorem ofChars_signed {body : List Char} (h : body.head? ≠ some '-') :
    ofChars (signChars negative ++ body) = ofBody negative body := by
  cases negative with
  | true => rfl
  | false =>
    unfold ofChars signChars
    split
    · rename_i heq
      rw [if_neg Bool.false_ne_true, nil_append] at heq
      rw [heq] at h
      simp at h
    · rfl

theorem ofBody_digits {whole tail : List Char} (hne : whole ≠ [])
    (hdigits : ∀ c ∈ whole, c.isDigit) (htail : tail.takeWhile Char.isDigit = []) :
    ofBody negative (whole ++ tail) = ofTail negative whole tail := by
  have hdrop : tail.dropWhile Char.isDigit = tail := by
    have hsplit := takeWhile_append_dropWhile (p := Char.isDigit) (l := tail)
    rwa [htail, nil_append] at hsplit
  have hword : whole ++ tail ≠ "Infinity".toList := by
    obtain ⟨c, cs, rfl⟩ := exists_cons_of_ne_nil hne
    intro heq
    have hhead : c = 'I' := (List.cons.inj heq).1
    rw [hhead] at hdigits
    exact absurd (hdigits 'I' mem_cons_self) (by decide)
  unfold ofBody
  rw [takeWhile_append_of_pos hdigits, dropWhile_append_of_pos hdigits, htail, hdrop,
    append_nil]
  dsimp only
  rw [if_neg hword, if_neg hne]

variable {d : PyDecimal}

theorem ofChars_chars (h : d ≠ .nan) : ofChars d.chars = some d.plain := by
  cases d with
  | nan => exact absurd rfl h
  | infinite negative => cases negative <;> rfl
  | finite negative coefficient exponent =>
    unfold chars plain
    dsimp only
    generalize hwhole : coefficient * 10 ^ exponent.toNat / 10 ^ (-exponent).toNat = whole
    have hdigits : ∀ c ∈ Nat.toDigits 10 whole, c.isDigit := fun c hc =>
      Nat.isDigit_of_mem_toDigits (by decide) (by decide) hc
    obtain ⟨first, rest, hcons⟩ := exists_cons_of_ne_nil
      (Nat.toDigits_ne_nil (n := whole) (b := 10))
    have hfirst : first ≠ '-' := fun heq =>
      absurd (heq ▸ hdigits first (hcons ▸ mem_cons_self)) (by decide)
    rw [append_assoc, ofChars_signed (by simp [hcons, hfirst])]
    split
    · rename_i hplaces
      have hexponent : min exponent 0 = 0 := by omega
      rw [ofBody_digits Nat.toDigits_ne_nil hdigits rfl, ofTail, Nat.ofDigitChars_ten_toDigits,
        hexponent, ← hwhole, hplaces, pow_zero, Nat.div_one]
    · rename_i hplaces
      have hexponent : min exponent 0 = -((-exponent).toNat : ℤ) := by omega
      have hzero : exponent.toNat = 0 := by omega
      rw [hzero, pow_zero, mul_one] at hwhole ⊢
      rw [ofBody_digits Nat.toDigits_ne_nil hdigits rfl, ofTail, if_pos (all_fixedDigits _ _),
        Nat.ofDigitChars_append, Nat.ofDigitChars_ten_toDigits, ofDigitChars_fixedDigits,
        length_fixedDigits, ← hwhole, Nat.div_add_mod, hexponent]

theorem chars_plain (d : PyDecimal) : d.plain.chars = d.chars := by
  cases d with
  | finite negative coefficient exponent =>
    unfold plain chars
    dsimp only
    have hplaces : (-min exponent 0).toNat = (-exponent).toNat := by omega
    have hpower : (min exponent 0).toNat = 0 := by omega
    rw [hplaces, hpower, pow_zero, mul_one]
    split
    · rfl
    · have hzero : exponent.toNat = 0 := by omega
      rw [hzero, pow_zero, mul_one]
  | _ => rfl

theorem compareZero_plain (d : PyDecimal) : d.plain.compareZero = d.compareZero := by
  cases d with
  | finite negative coefficient exponent => simp [plain, compareZero]
  | _ => rfl

theorem same_plain (h : d ≠ .nan) : d.plain.Same d := by
  cases d with
  | nan => exact absurd rfl h
  | infinite negative => exact rfl
  | finite negative coefficient exponent =>
    show (signed negative (coefficient * 10 ^ exponent.toNat) : ℚ) * 10 ^ min exponent 0 =
      signed negative coefficient * 10 ^ exponent
    have hsplit : (10 : ℚ) ^ exponent = 10 ^ exponent.toNat * 10 ^ min exponent 0 := by
      rw [← zpow_natCast, ← zpow_add₀ (by norm_num)]
      congr 1
      omega
    have hsigned : ∀ c : ℕ, (signed negative c : ℚ) = (if negative then -1 else 1) * c := by
      intro c
      cases negative <;> simp [signed]
    rw [hsplit, hsigned, hsigned]
    push_cast
    ring

theorem nearest_mul (c excess k : ℕ) : nearest (c * 10 ^ k) (excess + k) = nearest c excess := by
  have hpos : 0 < 10 ^ k := by positivity
  unfold nearest
  dsimp only
  rw [pow_add, Nat.mul_div_mul_right _ _ hpos, Nat.mul_mod_mul_right, ← Nat.mul_assoc]
  simp only [Nat.mul_lt_mul_right hpos, Nat.mul_left_inj hpos.ne']

theorem le_nearest (c excess : ℕ) : c / 10 ^ excess ≤ nearest c excess := by
  unfold nearest
  dsimp only
  split
  · exact Nat.le_succ _
  · exact le_rfl

theorem rounded_mul {c : ℕ} {e : ℤ} (h : 10 ^ 27 ≤ c) (k : ℕ) :
    rounded negative (c * 10 ^ k) e = rounded negative c (e + k) := by
  have hlog : 27 ≤ Nat.log 10 c := Nat.le_log_of_pow_le (by decide) h
  have hshift : Nat.log 10 (c * 10 ^ k) = Nat.log 10 c + k := by
    have hne : c ≠ 0 := by positivity
    induction k with
    | zero => simp
    | succ k ih =>
      rw [pow_succ, ← Nat.mul_assoc, Nat.log_mul_base (by decide) (by positivity), ih]
      rfl
  have hexcess : Nat.log 10 (c * 10 ^ k) - 27 = Nat.log 10 c - 27 + k := by omega
  unfold rounded
  dsimp only
  rw [hexcess, nearest_mul]
  push_cast
  rw [show e + ((Nat.log 10 c - 27 : ℕ) + k : ℤ) = e + k + (Nat.log 10 c - 27 : ℕ) by ring]

/-- A sum of positive amounts: its exponent is positive only where it has its 28 digits. -/
def Running : PyDecimal → Prop
  | .finite negative c e => negative = false ∧ (e ≤ 0 ∨ 10 ^ 27 ≤ c)
  | .infinite negative => negative = false
  | .nan => False

theorem rounded_running {c : ℕ} {e : ℤ} (h : e ≤ 0 ∨ 10 ^ 27 ≤ c) :
    (rounded false c e).Running := by
  have hnearest : e + (Nat.log 10 c - 27 : ℕ) ≤ 0 ∨ 10 ^ 27 ≤ nearest c (Nat.log 10 c - 27) := by
    have hle := le_nearest c (Nat.log 10 c - 27)
    by_cases hfits : Nat.log 10 c ≤ 27
    · have hexcess : Nat.log 10 c - 27 = 0 := by omega
      rw [hexcess] at hle ⊢
      rw [pow_zero, Nat.div_one] at hle
      exact h.imp (by simp) fun hlarge => hlarge.trans hle
    · have hne : c ≠ 0 := by
        rintro rfl
        simp at hfits
      have hpower : 10 ^ 27 * 10 ^ (Nat.log 10 c - 27) ≤ c := by
        rw [← pow_add, show 27 + (Nat.log 10 c - 27) = Nat.log 10 c by omega]
        exact Nat.pow_log_le_self 10 hne
      exact .inr (((Nat.le_div_iff_mul_le (by positivity)).mpr hpower).trans hle)
  unfold rounded
  dsimp only
  split
  · exact ⟨rfl, .inr le_rfl⟩
  · exact ⟨rfl, hnearest⟩

theorem add_finite (c c' : ℕ) (e e' : ℤ) :
    add (.finite false c e) (.finite false c' e') =
      rounded false (c * 10 ^ (e - min e e').toNat + c' * 10 ^ (e' - min e e').toNat)
        (min e e') := by
  unfold add
  dsimp only
  generalize hleft : c * 10 ^ (e - min e e').toNat = left
  generalize hright : c' * 10 ^ (e' - min e e').toNat = right
  have htotal : signed false left + signed false right = ((left + right : ℕ) : ℤ) := by
    simp [signed]
  have hsign : ¬((left + right : ℕ) : ℤ) < 0 := by omega
  rw [htotal, Int.natAbs_natCast]
  simp only [hsign, decide_false, ite_self, Bool.and_self]

/-- An amount added with or without a positive exponent gives the same sum. -/
theorem add_plain {total amount : PyDecimal} (running : total.Running)
    (positive : amount.compareZero = .ok .gt) :
    total.add amount.plain = total.add amount ∧ (total.add amount).Running := by
  cases total with
  | nan => exact running.elim
  | infinite negative =>
    cases amount with
    | nan => cases positive
    | finite _ _ _ => exact ⟨rfl, running⟩
    | infinite negative' =>
      cases negative' with
      | true => cases positive
      | false =>
        obtain rfl := running
        exact ⟨rfl, rfl⟩
  | finite negative c e =>
    cases amount with
    | nan => cases positive
    | infinite negative' =>
      cases negative' with
      | true => cases positive
      | false => exact ⟨rfl, rfl⟩
    | finite negative' c' e' =>
      obtain ⟨rfl, hrunning⟩ := running
      have hnegative : negative' = false := by
        cases negative' with
        | false => rfl
        | true => by_cases hzero : c' = 0 <;> simp [compareZero, hzero] at positive
      subst hnegative
      unfold plain
      dsimp only
      rw [add_finite, add_finite]
      have hlarge : 0 < e → 10 ^ 27 ≤ c * 10 ^ (e - min e e').toNat +
          c' * 10 ^ (e' - min e e').toNat := by
        intro hpos
        have hc : 10 ^ 27 ≤ c := hrunning.resolve_left (not_le.mpr hpos)
        exact (hc.trans (Nat.le_mul_of_pos_right _ (by positivity))).trans (Nat.le_add_right _ _)
      refine ⟨?_, rounded_running ?_⟩
      · by_cases hfraction : e' ≤ 0
        · rw [Int.toNat_of_nonpos hfraction, min_eq_left hfraction, pow_zero, mul_one]
        rw [min_eq_right (by omega : (0 : ℤ) ≤ e')]
        by_cases hpos : 0 < e
        · -- The running sum has its 28 digits, and what comes after them is only zeros.
          have hmin : min e e' = ((min e e').toNat : ℤ) := by omega
          have hscale :
              c * 10 ^ (e - min e 0).toNat + c' * 10 ^ e'.toNat * 10 ^ (0 - min e 0).toNat =
              (c * 10 ^ (e - min e e').toNat + c' * 10 ^ (e' - min e e').toNat) *
                10 ^ (min e e').toNat := by
            have hleft : (e - min e 0).toNat = (e - min e e').toNat + (min e e').toNat := by omega
            have hright : e'.toNat = (e' - min e e').toNat + (min e e').toNat := by omega
            have hnone : (0 - min e 0).toNat = 0 := by omega
            rw [hleft, hnone, pow_zero, mul_one, hright, pow_add, pow_add]
            ring
          rw [hscale, rounded_mul (hlarge hpos), ← hmin, min_eq_right hpos.le, zero_add]
        · have hleast : min e 0 = min e e' := by omega
          have hexponent : (e' - min e e').toNat = e'.toNat + (0 - min e e').toNat := by omega
          rw [hleast, hexponent, pow_add, Nat.mul_assoc]
      · by_cases hpos : 0 < e
        · exact .inr (hlarge hpos)
        · left
          omega

theorem sum_plain {amounts} (positive : ∀ a ∈ amounts, a.compareZero = .ok .gt) :
    sum (amounts.map plain) = sum amounts := by
  unfold sum
  have hstart : (finite false 0 0).Running := ⟨rfl, .inl le_rfl⟩
  generalize finite false 0 0 = total at hstart ⊢
  induction amounts generalizing total with
  | nil => rfl
  | cons amount rest ih =>
    obtain ⟨hadd, hrunning⟩ := add_plain hstart (positive amount mem_cons_self)
    rw [map_cons, foldl_cons, foldl_cons, hadd]
    exact ih (fun a ha => positive a (mem_cons_of_mem _ ha)) _ hrunning

/-- The number is not below zero, and no NaN. -/
def Nonneg (d : PyDecimal) : Prop := ∃ sign, d.compareZero = .ok sign ∧ sign ≠ .lt

theorem Nonneg.ne_nan (h : d.Nonneg) : d ≠ .nan := by
  rintro rfl
  obtain ⟨sign, hsign, -⟩ := h
  cases hsign

theorem Nonneg.plain (h : d.Nonneg) : d.plain.Nonneg := by
  rwa [Nonneg, compareZero_plain]

end PyDecimal

namespace Q1State

theorem UnsettledReceivable.check_eq_ok {receivable : UnsettledReceivable} :
    receivable.check = .ok () ↔ receivable.amountUsd.compareZero = .ok .gt := by
  unfold check
  cases receivable.amountUsd.compareZero with
  | error failure => simp
  | ok sign => cases sign <;> simp

theorem Q1ArmStateFields.check_eq_ok {s : Q1ArmStateFields} :
    s.check = .ok () ↔ s.algorithmVersion = Q1State.algorithmVersion ∧ s.initialNavUsd.Nonneg ∧
      s.settledCashUsd.Nonneg ∧ 0 ≤ s.sequence ∧ (∀ q ∈ s.positions.values, q.Nonneg) ∧
      (s.unsettledReceivables.map (·.val.receivableId)).Nodup := by
  simp only [check, ok_iff, forM_eq_ok, PyDecimal.Nonneg, not_not, not_lt, ne_eq]
  constructor
  · rintro ⟨hversion, initial, hinitial, hcash, settled, hsettled, hpositive, hsequence, hpositions,
      hids⟩
    exact ⟨hversion, ⟨initial, hinitial, hcash⟩, ⟨settled, hsettled, hpositive⟩, hsequence,
      hpositions, hids⟩
  · rintro ⟨hversion, ⟨initial, hinitial, hcash⟩, ⟨settled, hsettled, hpositive⟩, hsequence,
      hpositions, hids⟩
    exact ⟨hversion, initial, hinitial, hcash, settled, hsettled, hpositive, hsequence, hpositions,
      hids⟩

def plainReceivable (receivable : Validated UnsettledReceivable.check) :
    Validated UnsettledReceivable.check where
  val := { receivable.val with amountUsd := receivable.val.amountUsd.plain }
  valid := by
    rw [UnsettledReceivable.check_eq_ok, PyDecimal.compareZero_plain]
    exact UnsettledReceivable.check_eq_ok.mp receivable.valid

variable (s : Q1ArmStateFields)

def Q1ArmStateFields.decoded : Q1ArmStateFields :=
  { s with
    initialNavUsd := s.initialNavUsd.plain
    settledCashUsd := s.settledCashUsd.plain
    unsettledReceivables := s.sortedReceivables.map plainReceivable
    positions := s.positions.sorted.mapVal fun _ quantity => quantity.plain }

theorem sortedIds : (s.decoded.unsettledReceivables.map
    (·.val.receivableId)) = s.sortedReceivables.map (·.val.receivableId) := by
  unfold Q1ArmStateFields.decoded
  rw [map_map]
  rfl

theorem decoded_valid (s : Q1ArmState) : s.val.decoded.check = .ok () := by
  obtain ⟨hversion, hinitial, hsettled, hsequence, hpositions, hids⟩ :=
    Q1ArmStateFields.check_eq_ok.mp s.valid
  refine Q1ArmStateFields.check_eq_ok.mpr ⟨hversion, hinitial.plain, hsettled.plain, hsequence,
    fun q hq => ?_, ?_⟩
  · obtain ⟨entry, hentry, rfl⟩ := mem_map.mp hq
    obtain ⟨found, hfound, rfl⟩ := mem_map.mp hentry
    exact (hpositions _ (Dict.mem_values_sorted.mp (mem_map_of_mem hfound))).plain
  · rw [sortedIds]
    exact ((sortedBy_perm _ _).map _).nodup_iff.mpr hids

section Decoding

variable {readers : Readers}

theorem amount_text {d : PyDecimal} (h : d ≠ .nan) :
    readers.amount (.str d.text) = .ok d.plain := by
  unfold Readers.amount Readers.text PyDecimal.text
  dsimp only
  rw [String.toList_ofList, PyDecimal.ofChars_chars h]

theorem day_isoformat (d : CivilDate) : readers.day (.str d.isoformat) = .ok d := by
  have hread := readDate_isoformat d []
  rw [append_nil] at hread
  unfold Readers.day Readers.text
  dsimp only
  rw [hread]

theorem instant_isoformat (t : UtcTime) :
    readers.instant (.str (isoformat t)) = .ok (.aware t) := by
  unfold Readers.instant Readers.text
  dsimp only
  rw [readTime_isoformat]

theorem receivableFromPayload_asPayload (receivable : Validated UnsettledReceivable.check) :
    receivableFromPayload readers receivable.val.asPayload = .ok (plainReceivable receivable) := by
  have hpositive := UnsettledReceivable.check_eq_ok.mp receivable.valid
  have hne : receivable.val.amountUsd ≠ .nan := by
    intro hnan
    rw [hnan] at hpositive
    cases hpositive
  simp [receivableFromPayload, UnsettledReceivable.asPayload, field, List.lookup_cons, Readers.text,
    amount_text hne, day_isoformat, instant_isoformat, PyDecimal.compareZero_plain,
    hpositive, plainReceivable]

theorem receivablesFromPayload_asPayload
    (receivables : List (Validated UnsettledReceivable.check)) :
    receivablesFromPayload readers (receivables.map (.dict ·.val.asPayload)) =
      .ok (receivables.map plainReceivable) := by
  unfold receivablesFromPayload
  rw [filterMap_map]
  have hfields := congrFun (filterMap_eq_map (f := fun receivable :
    Validated UnsettledReceivable.check => receivable.val.asPayload)) receivables
  exact (congrArg (List.mapM _) hfields).trans (mapM_map.trans
    (mapM_eq_ok fun receivable _ => receivableFromPayload_asPayload receivable))

theorem positionsFromPayload_asPayload {positions : Dict String PyDecimal}
    (h : ∀ q ∈ positions.values, q.Nonneg) :
    positionsFromPayload readers
        (positions.sortedItems.map fun item => (item.1, .str item.2.text)) =
      .ok (positions.sorted.mapVal fun _ quantity => quantity.plain) := by
  have hread : ∀ (items : List (String × PyDecimal)) (found : Dict String PyDecimal),
      (∀ item ∈ items, item.2.Nonneg) →
      (items.map fun item => (item.1, CanonicalValue.str item.2.text)).foldlM
        (fun positions item => do
          let quantity ← readers.amount item.2
          return positions.set item.1 quantity) found =
        .ok (items.foldl (fun d item => d.set item.1 item.2.plain) found) := by
    intro items
    induction items with
    | nil => exact fun _ _ => rfl
    | cons item rest ih =>
      intro found hitems
      rw [forall_mem_cons] at hitems
      rw [map_cons, foldlM_cons, amount_text hitems.1.ne_nan, foldl_cons]
      exact ih _ hitems.2
  have hsorted : ∀ item ∈ positions.sortedItems, item.2.Nonneg := fun item hitem =>
    h _ (mem_map_of_mem ((sortedBy_perm _ _).mem_iff.mp hitem))
  unfold positionsFromPayload
  rw [hread _ _ hsorted]
  have hentries := (Dict.entries_foldl_set (fun item : String × PyDecimal => item.1)
    (fun item => item.2.plain) positions.sorted.nodup
    (d := .empty) fun _ _ => not_mem_nil).trans (nil_append _)
  have hext : ∀ a b : Dict String PyDecimal, a.entries = b.entries → a = b := by
    rintro ⟨_, _⟩ ⟨_, _⟩ rfl
    rfl
  exact congrArg Except.ok (hext _ _ hentries)

/-- Decoding never fails, and does not depend on how other payloads are read. -/
theorem fromPayload_asPayload (s : Q1ArmState) :
    fromPayload readers s.val.asPayload = .ok ⟨s.val.decoded, decoded_valid s⟩ := by
  obtain ⟨hversion, hinitial, hsettled, hsequence, hpositions, hids⟩ :=
    Q1ArmStateFields.check_eq_ok.mp s.valid
  simp [fromPayload, Q1ArmStateFields.asPayload, field, List.lookup_cons, Readers.text,
    Readers.integer,
    amount_text hinitial.ne_nan, amount_text hsettled.ne_nan, receivablesFromPayload_asPayload,
    positionsFromPayload_asPayload hpositions]
  unfold Q1ArmStateFields.decoded
  cases s.val.evaluationAnchorId with
  | none => rfl
  | some anchor => rfl

end Decoding

def UnsettledReceivable.Same (r r' : UnsettledReceivable) : Prop :=
  r.amountUsd.Same r'.amountUsd ∧ { r with amountUsd := r'.amountUsd } = r'

/-- The same state: equal amounts, receivables in some order. -/
structure Q1ArmStateFields.SameUpToOrder (t s : Q1ArmStateFields) : Prop where
  initialNavUsd : t.initialNavUsd.Same s.initialNavUsd
  settledCashUsd : t.settledCashUsd.Same s.settledCashUsd
  receivables : ∃ reordered, reordered.Perm s.unsettledReceivables ∧
    t.unsettledReceivables.Forall₂ (fun r r' => r.val.Same r'.val) reordered
  positions : ∀ symbol, (t.positions.get? symbol).Rel PyDecimal.Same (s.positions.get? symbol)
  others : (t.armId, t.sequence, t.evaluationAnchorId, t.algorithmVersion) =
    (s.armId, s.sequence, s.evaluationAnchorId, s.algorithmVersion)

theorem decoded_same (s : Q1ArmState) : s.val.decoded.SameUpToOrder s.val := by
  obtain ⟨-, hinitial, hsettled, -, hpositions, -⟩ := Q1ArmStateFields.check_eq_ok.mp s.valid
  refine ⟨PyDecimal.same_plain hinitial.ne_nan, PyDecimal.same_plain hsettled.ne_nan,
    ⟨s.val.sortedReceivables, sortedBy_perm _ _, ?_⟩, fun symbol => ?_, rfl⟩
  · refine forall₂_map_left_iff.mpr (forall₂_same.mpr fun receivable _ => ⟨?_, rfl⟩)
    refine PyDecimal.same_plain fun hnan => ?_
    have hpositive := UnsettledReceivable.check_eq_ok.mp receivable.valid
    rw [hnan] at hpositive
    cases hpositive
  · have hget : s.val.decoded.positions.get? symbol =
        (s.val.positions.get? symbol).map PyDecimal.plain := by
      unfold Q1ArmStateFields.decoded
      rw [Dict.get?_mapVal, Dict.get?_sorted]
    rw [hget]
    cases hfound : s.val.positions.get? symbol with
    | none => exact .none
    | some quantity =>
      exact .some (PyDecimal.same_plain (hpositions _ (Dict.mem_values_of_get? hfound)).ne_nan)

theorem sortedReceivables_decoded :
    s.decoded.sortedReceivables = s.sortedReceivables.map plainReceivable :=
  sortedBy_eq_self (fun receivable : Validated UnsettledReceivable.check =>
    receivable.val.receivableId) (pairwise_map.mpr (sortedBy_pairwise _ _))

theorem text_plain (d : PyDecimal) : d.plain.text = d.text :=
  congrArg String.ofList d.chars_plain

theorem sortedItems_decoded :
    s.decoded.positions.sortedItems.map (fun item => (item.1, CanonicalValue.str item.2.text)) =
      s.positions.sortedItems.map fun item => (item.1, .str item.2.text) := by
  have hsorted : s.decoded.positions.sortedItems =
      s.positions.sortedItems.map fun item => (item.1, item.2.plain) :=
    sortedBy_eq_self (fun item : String × PyDecimal => item.1)
      (pairwise_map.mpr (sortedBy_pairwise _ _))
  rw [hsorted, map_map]
  refine map_congr_left fun item _ => ?_
  simp only [Function.comp_apply, text_plain]

def Q1ArmStateFields.sortedCashUsd : PyDecimal :=
  PyDecimal.sum (s.sortedReceivables.map (·.val.amountUsd))

theorem unsettledCash_decoded :
    s.decoded.unsettledCashUsd = s.sortedCashUsd := by
  unfold Q1ArmStateFields.unsettledCashUsd Q1ArmStateFields.sortedCashUsd
  have hplain : s.decoded.unsettledReceivables.map (·.val.amountUsd) =
      (s.sortedReceivables.map (·.val.amountUsd)).map PyDecimal.plain := by
    unfold Q1ArmStateFields.decoded
    rw [map_map, map_map]
    rfl
  rw [hplain, PyDecimal.sum_plain]
  intro amount hamount
  obtain ⟨receivable, -, rfl⟩ := mem_map.mp hamount
  exact UnsettledReceivable.check_eq_ok.mp receivable.valid

/-- The payloads differ at most in the sum of the receivables. -/
theorem asPayload_decoded : s.decoded.asPayload =
    s.asPayload.map fun entry =>
      if entry.1 = "unsettled_cash_usd" then (entry.1, .str s.sortedCashUsd.text) else entry := by
  have hreceivables : s.decoded.sortedReceivables.map (CanonicalValue.dict ·.val.asPayload) =
      s.sortedReceivables.map (.dict ·.val.asPayload) := by
    rw [sortedReceivables_decoded, map_map]
    refine map_congr_left fun receivable _ => ?_
    simp [plainReceivable, UnsettledReceivable.asPayload, text_plain]
  have hinitial : s.decoded.initialNavUsd.text = s.initialNavUsd.text := text_plain _
  have hsettled : s.decoded.settledCashUsd.text = s.settledCashUsd.text := text_plain _
  unfold Q1ArmStateFields.asPayload
  rw [hreceivables, hinitial, hsettled, unsettledCash_decoded, sortedItems_decoded]
  simp [Q1ArmStateFields.decoded]

/-- What `as_payload` and `from_payload` preserve: all but the order in which the receivables are
added up, which shows in the payload where a sum does not fit the 28 digits. -/
theorem payload_decoded (readers : Readers) (s : Q1ArmState) :
    ∃ t, fromPayload readers s.val.asPayload = .ok t ∧ t.val.SameUpToOrder s.val ∧
      (t.val.asPayload = s.val.asPayload.map fun entry =>
        if entry.1 = "unsettled_cash_usd" then (entry.1, .str s.val.sortedCashUsd.text)
        else entry) ∧
      (t.val.asPayload = s.val.asPayload ↔
        s.val.sortedCashUsd.text = s.val.unsettledCashUsd.text) := by
  refine ⟨_, fromPayload_asPayload s, decoded_same s, asPayload_decoded s.val, ?_⟩
  show s.val.decoded.asPayload = _ ↔ _
  rw [asPayload_decoded]
  simp [Q1ArmStateFields.asPayload]

/-- A state that is owed an amount of 29 digits and then two small ones, which sort before it. -/
def largeFirst : Q1ArmStateFields where
  armId := "q1_baseline"
  initialNavUsd := .finite false 0 0
  settledCashUsd := .finite false 0 0
  unsettledReceivables :=
    let day := CivilDate.monday
    let owed (receivableId : String) (dollars : ℕ) (h : dollars ≠ 0) :
        Validated UnsettledReceivable.check :=
      ⟨⟨receivableId, "fill-" ++ receivableId, .finite false dollars 0, day,
          ⟨day, 0, 0, by decide, by decide⟩⟩,
        UnsettledReceivable.check_eq_ok.mpr (by simp [PyDecimal.compareZero, h])⟩
    [owed "c" (10 ^ 28) (by decide), owed "a" 4 (by decide), owed "b" 4 (by decide)]
  positions := .empty
  sequence := 0
  evaluationAnchorId := none
  algorithmVersion := algorithmVersion

theorem largeFirst_valid : largeFirst.check = .ok () := by decide +kernel

theorem largeFirst_drifts : ¬∀ (readers : Readers) (s : Q1ArmState),
    ∃ t, fromPayload readers s.val.asPayload = .ok t ∧ t.val.SameUpToOrder s.val ∧
      t.val.asPayload = s.val.asPayload := by
  intro h
  obtain ⟨t, hdecoded, -, hpayload⟩ := h ⟨fun _ => "", fun _ => .ok 0, fun _ => .ok .nan,
    fun _ => .ok .monday, fun _ => .ok .naive⟩
    ⟨largeFirst, largeFirst_valid⟩
  rw [fromPayload_asPayload] at hdecoded
  cases hdecoded
  rw [asPayload_decoded] at hpayload
  have htexts : largeFirst.sortedCashUsd.text = largeFirst.unsettledCashUsd.text := by
    simpa [Q1ArmStateFields.asPayload] using hpayload
  exact absurd htexts (by decide +kernel)

theorem plain_plain (d : PyDecimal) : d.plain.plain = d.plain := by
  cases d with
  | finite negative coefficient exponent =>
    have hpower : (min exponent 0).toNat = 0 := by omega
    simp [PyDecimal.plain, hpower]
  | _ => rfl

theorem decoded_decoded : s.decoded.decoded = s.decoded := by
  have hreceivables : s.decoded.sortedReceivables.map plainReceivable =
      s.decoded.unsettledReceivables := by
    rw [sortedReceivables_decoded, map_map]
    exact map_congr_left fun receivable _ => by simp [plainReceivable, plain_plain]
  have hpositions : (s.decoded.positions.sorted.mapVal fun _ quantity => quantity.plain) =
      s.decoded.positions := by
    have hsorted : s.decoded.positions.sorted = s.decoded.positions := by
      unfold Q1ArmStateFields.decoded Dict.mapVal Dict.sorted
      congr 1
      exact sortedBy_eq_self _ (pairwise_map.mpr (sortedBy_pairwise _ _))
    rw [hsorted]
    exact Dict.mapVal_eq_self fun entry hentry => by
      obtain ⟨item, -, rfl⟩ := mem_map.mp hentry
      exact plain_plain _
  rw [Q1ArmStateFields.decoded, hreceivables, hpositions]
  simp [Q1ArmStateFields.decoded, plain_plain]

/-- However often a state is stored and loaded, it is the one that was loaded first. -/
theorem reloads_settle (readers : Readers) (s : Q1ArmState) :
    ∃ t, t.val.SameUpToOrder s.val ∧ ∀ n,
      (· >>= fun t => fromPayload readers t.val.asPayload)^[n + 1] (.ok s) = .ok t := by
  refine ⟨⟨_, decoded_valid s⟩, decoded_same s, fun n => ?_⟩
  induction n with
  | zero => exact fromPayload_asPayload s
  | succ n ih =>
    rw [Function.iterate_succ_apply', ih, ok_bind, fromPayload_asPayload]
    congr 2
    exact decoded_decoded s.val

end Q1State

end AdaptiveQuant
