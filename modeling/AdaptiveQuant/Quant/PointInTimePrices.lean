import AdaptiveQuant.Lib.Selection
import AdaptiveQuant.Quant.Covariance
import Mathlib.Data.Prod.Lex

/-! `_select_point_in_time_prices` of `quant/signals.py`: the adjusted closes that a signal
reads. -/

namespace AdaptiveQuant.Quant

open Guard Selection List

inductive WrittenDecimal
  | finite (coefficient exponent : ℤ)
  | infinite (negative : Bool)
  | nan
deriving DecidableEq

namespace WrittenDecimal

def value : WrittenDecimal → Decimal
  | .finite coefficient exponent => coefficient * 10 ^ exponent
  | _ => 0

def zeroFilled (width n : ℕ) : String :=
  let digits := toString n
  String.ofList (List.replicate (width - digits.length) '0') ++ digits

/-- `format(value, "f")`, which `canonical_data` puts in the place of a `Decimal`. -/
def text : WrittenDecimal → String
  | .finite coefficient exponent =>
    let sign := if coefficient < 0 then "-" else ""
    if 0 ≤ exponent then
      sign ++ toString (coefficient.natAbs * 10 ^ exponent.toNat)
    else
      let places := (-exponent).toNat
      sign ++ toString (coefficient.natAbs / 10 ^ places) ++ "." ++
        zeroFilled places (coefficient.natAbs % 10 ^ places)
  | .infinite negative => if negative then "-Infinity" else "Infinity"
  | .nan => "NaN"

/-- `adjusted_close <= 0 or not adjusted_close.is_finite()` raises; a NaN cannot be compared. -/
def checkPrice : WrittenDecimal → Except Failure Unit
  | .finite coefficient _ =>
    raiseIf (coefficient ≤ 0) (q1MathError "adjusted closes must be positive and finite")
  | .infinite _ => .error (q1MathError "adjusted closes must be positive and finite")
  | .nan => .error ⟨.invalidOperation, "[<class 'decimal.InvalidOperation'>]", []⟩

/-- The exact product with `coefficient * 10 ^ exponent`. -/
def times (coefficient exponent : ℤ) : WrittenDecimal → WrittenDecimal
  | .finite c e => .finite (c * coefficient) (e + exponent)
  | price => price

theorem value_times (coefficient exponent : ℤ) (price : WrittenDecimal) :
    (price.times coefficient exponent).value =
      (WrittenDecimal.finite coefficient exponent).value * price.value := by
  cases price with
  | finite c e =>
    simp only [times, value, Int.cast_mul, zpow_add₀ (by norm_num : (10 : Decimal) ≠ 0)]
    ring
  | infinite negative => simp [times, value]
  | nan => simp [times, value]

theorem checkPrice_times {coefficient : ℤ} (positive : 0 < coefficient) (exponent : ℤ)
    (price : WrittenDecimal) :
    (price.times coefficient exponent).checkPrice = price.checkPrice := by
  cases price with
  | finite c e =>
    have hsign : c * coefficient ≤ 0 ↔ c ≤ 0 :=
      ⟨fun h => le_of_mul_le_mul_right (by rwa [zero_mul]) positive,
        fun h => mul_nonpos_of_nonpos_of_nonneg h positive.le⟩
    simp only [times, checkPrice, hsign]
  | infinite negative => rfl
  | nan => rfl

end WrittenDecimal

structure AdjustedCloseObservation where
  barId : String
  symbol : String
  sessionId : String
  sessionCloseAt : Instant
  adjustedClose : WrittenDecimal
  availableAt : Instant
deriving DecidableEq

/-- The order in which `min` compares the bars of one symbol and session. -/
def AdjustedCloseObservation.rank (o : AdjustedCloseObservation) : String ×ₗ Instant :=
  toLex (o.barId, o.availableAt)

/-- The keyword arguments of `_select_point_in_time_prices`. -/
structure PriceWindow where
  symbols : List String
  completedSessionIds : List String
  currentSessionOpenAt : Instant
  cutoff : Instant

structure SelectedPrices where
  prices : List (String × List WrittenDecimal)
  sourceIds : List String

def SelectedPrices.values (selected : SelectedPrices) : List (String × List Decimal) :=
  selected.prices.map fun item => (item.1, item.2.map (·.value))

def SelectedPrices.texts (selected : SelectedPrices) : List (String × List String) :=
  selected.prices.map fun item => (item.1, item.2.map (·.text))

section Selection

-- `symbol.strip().upper()`.
variable (normalize : String → String) (w : PriceWindow)

def PriceWindow.Reads (o : AdjustedCloseObservation) : Prop :=
  (normalize o.symbol ∈ w.symbols ∧ o.sessionId ∈ w.completedSessionIds) ∧ o.availableAt ≤ w.cutoff

instance : DecidablePred (w.Reads normalize) := fun _ => inferInstanceAs (Decidable (_ ∧ _))

def PriceWindow.checkBar (o : AdjustedCloseObservation) : Except Failure Unit := do
  raiseIf (w.currentSessionOpenAt ≤ o.sessionCloseAt)
    (q1MathError "current-session or future daily bar is not completed")
  raiseIf (o.availableAt < o.sessionCloseAt)
    (q1MathError "adjusted close cannot be available before its session close")
  o.adjustedClose.checkPrice
  raiseIf (o.barId = "") (q1MathError "source bar ID is required")

variable (grouped : List AdjustedCloseObservation)

/-- One step of the loop that fills `grouped`. -/
def PriceWindow.group (o : AdjustedCloseObservation) :
    Except Failure (List AdjustedCloseObservation) :=
  if w.Reads normalize o then do
    w.checkBar o
    return grouped ++ [o]
  else return grouped

def candidates (symbol sessionId : String) :
    List AdjustedCloseObservation :=
  grouped.filter fun o => o.sessionId = sessionId ∧ normalize o.symbol = symbol

def distinctCloses (sessionId symbol : String) :
    Except Failure (List Instant) := do
  let bars := candidates normalize grouped symbol sessionId
  raiseIf (bars = [])
    (q1MathError s!"missing point-in-time adjusted close for {symbol}/{sessionId}")
  let prices := (bars.map (·.adjustedClose.value)).dedup
  let closes := (bars.map (·.sessionCloseAt)).dedup
  raiseIf (prices.length ≠ 1 ∨ closes.length ≠ 1)
    (q1MathError s!"inconsistent duplicate adjusted close for {symbol}/{sessionId}")
  return closes

def PriceWindow.checkSession (previous : Option Instant)
    (sessionId : String) : Except Failure (Option Instant) := do
  let closes ← w.symbols.mapM (distinctCloses normalize grouped sessionId)
  match closes.flatten.dedup with
  | [closeAt] => do
    raiseIf (∃ before ∈ previous, closeAt ≤ before)
      (q1MathError "completed sessions must be strictly chronological")
    return some closeAt
  | _ => .error (q1MathError s!"aligned symbols disagree on session close for {sessionId}")

def canonicalPrice (symbol sessionId : String) :
    WrittenDecimal :=
  match minimumBy (·.rank) (candidates normalize grouped symbol sessionId) with
  | some canonical => canonical.adjustedClose
  | none => .nan

def barIds (symbol sessionId : String) : List String :=
  Sequence.sortedBy id ((candidates normalize grouped symbol sessionId).map (·.barId))

/-- The last loop of `_select_point_in_time_prices`. -/
def PriceWindow.collect : SelectedPrices where
  prices := w.symbols.map fun symbol =>
    (symbol, w.completedSessionIds.map (canonicalPrice normalize grouped symbol))
  sourceIds := w.symbols.flatMap fun symbol =>
    w.completedSessionIds.flatMap (barIds normalize grouped symbol)

def PriceWindow.selectPrices (observations : List AdjustedCloseObservation) :
    Except Failure SelectedPrices := do
  let grouped ← observations.foldlM (w.group normalize) []
  let _ ← w.completedSessionIds.foldlM (w.checkSession normalize grouped) none
  return w.collect normalize grouped

end Selection

section Selected

variable {normalize : String → String} {w : PriceWindow}
  {observations others grouped : List AdjustedCloseObservation}

theorem foldlM_group (acc : List AdjustedCloseObservation) :
    observations.foldlM (w.group normalize) acc =
      (observations.filter (w.Reads normalize)).foldlM (fun grouped o => do
        w.checkBar o
        return grouped ++ [o]) acc := by
  rw [foldlM_filter]
  simp only [decide_eq_true_eq]
  rfl

theorem foldlM_group_eq_ok :
    observations.foldlM (w.group normalize) [] = .ok grouped ↔
      (∀ o ∈ observations.filter (w.Reads normalize), w.checkBar o = .ok ()) ∧
        grouped = observations.filter (w.Reads normalize) := by
  rw [foldlM_group]
  generalize observations.filter (w.Reads normalize) = read
  induction read using List.reverseRecOn generalizing grouped with
  | nil =>
    simp only [foldlM_nil, pure_eq_ok, not_mem_nil, false_imp_iff, implies_true, true_and]
    exact eq_comm
  | append_singleton read o ih =>
    simp only [foldlM_append, foldlM_cons, foldlM_nil, bind_pure, ok_iff, ih,
      forall_mem_append, forall_mem_singleton]
    constructor
    · rintro ⟨_, ⟨hsound, rfl⟩, _, hcheck, rfl⟩
      exact ⟨⟨hsound, hcheck⟩, rfl⟩
    · rintro ⟨⟨hsound, hcheck⟩, rfl⟩
      exact ⟨read, ⟨hsound, rfl⟩, (), hcheck, rfl⟩

theorem PriceWindow.select_eq_of_filter
    (same : others.filter (w.Reads normalize) = observations.filter (w.Reads normalize)) :
    w.selectPrices normalize others = w.selectPrices normalize observations := by
  unfold PriceWindow.selectPrices
  rw [foldlM_group, foldlM_group, same]

section

variable (h : others.Perm grouped)

include h

theorem candidates_perm (symbol sessionId : String) :
    (candidates normalize others symbol sessionId).Perm
      (candidates normalize grouped symbol sessionId) :=
  h.filter _

theorem distinctCloses_of_perm (sessionId symbol : String) :
    distinctCloses normalize others sessionId symbol =
      distinctCloses normalize grouped sessionId symbol := by
  have hbars : (candidates normalize others symbol sessionId).Perm
      (candidates normalize grouped symbol sessionId) := candidates_perm h symbol sessionId
  unfold distinctCloses
  generalize candidates normalize others symbol sessionId = bars' at hbars
  generalize candidates normalize grouped symbol sessionId = bars at hbars
  have hnil : bars' = [] ↔ bars = [] := by
    constructor
    · rintro rfl
      exact hbars.nil_eq.symm
    · rintro rfl
      exact hbars.eq_nil
  have hprices := (hbars.map (·.adjustedClose.value)).dedup
  have hcloses := (hbars.map (·.sessionCloseAt)).dedup
  simp only [hnil, hprices.length_eq, hcloses.length_eq]
  -- Past the check there is one close, and a list of one element has no other order.
  by_cases hone : (bars.map (·.sessionCloseAt)).dedup.length = 1
  · obtain ⟨close, hclose⟩ := length_eq_one_iff.mp hone
    rw [hclose] at hcloses ⊢
    rw [perm_singleton.mp hcloses]
  · simp only [raiseIf_pos _ (Or.inr hone), error_bind]

theorem PriceWindow.checkSession_of_perm :
    w.checkSession normalize others = w.checkSession normalize grouped := by
  funext previous sessionId
  have hcloses : distinctCloses normalize others sessionId =
      distinctCloses normalize grouped sessionId :=
    funext fun symbol => distinctCloses_of_perm h sessionId symbol
  simp only [PriceWindow.checkSession, hcloses]

theorem barIds_of_perm (symbol sessionId : String) :
    barIds normalize others symbol sessionId = barIds normalize grouped symbol sessionId :=
  Sequence.sortedBy_eq_of_perm_of_injective id ((candidates_perm h symbol sessionId).map _)
    Function.injective_id

end

/-- A bar that `min` may choose: none of the same symbol and session ranks below it. -/
def IsLowest (bars : List AdjustedCloseObservation) (o : AdjustedCloseObservation) : Prop :=
  o ∈ bars ∧ ∀ other ∈ bars, o.rank ≤ other.rank

instance (bars : List AdjustedCloseObservation) (o : AdjustedCloseObservation) :
    Decidable (IsLowest bars o) :=
  inferInstanceAs (Decidable (_ ∧ _))

/-- Bars that the choice cannot tell apart spell the same price. -/
def PriceWindow.TiesAgree (normalize : String → String) (w : PriceWindow)
    (observations : List AdjustedCloseObservation) : Prop :=
  ∀ symbol ∈ w.symbols, ∀ sessionId ∈ w.completedSessionIds, ∀ o p,
    let bars := candidates normalize (observations.filter (w.Reads normalize)) symbol sessionId
    IsLowest bars o → IsLowest bars p → o.adjustedClose.text = p.adjustedClose.text

def Priced (bars : List AdjustedCloseObservation) : Prop :=
  bars ≠ [] ∧ ∃ price, ∀ o ∈ bars, o.adjustedClose.value = price

theorem priced_of_distinctCloses {sessionId symbol : String} {closes}
    (h : distinctCloses normalize grouped sessionId symbol = .ok closes) :
    Priced (candidates normalize grouped symbol sessionId) := by
  simp only [distinctCloses, ok_iff, not_or, not_not] at h
  obtain ⟨hnonempty, ⟨hprices, -⟩, -⟩ := h
  obtain ⟨price, hprice⟩ := length_eq_one_iff.mp hprices
  refine ⟨hnonempty, price, fun o ho => ?_⟩
  have hmem := mem_dedup.mpr (mem_map_of_mem (f := (·.adjustedClose.value)) ho)
  rwa [hprice, mem_singleton] at hmem

theorem PriceWindow.priced_of_checked {sessions : List String} {start last : Option Instant}
    (h : sessions.foldlM (w.checkSession normalize grouped) start = .ok last) :
    ∀ symbol ∈ w.symbols, ∀ sessionId ∈ sessions,
      Priced (candidates normalize grouped symbol sessionId) := by
  intro symbol hsymbol
  refine foldlM_induction h (fun sessions _ => ∀ sessionId ∈ sessions,
    Priced (candidates normalize grouped symbol sessionId)) (by simp) ?_
  intro pre sessionId _ _ hpre hpass other hother
  rcases mem_append.mp hother with hother | hother
  · exact hpre other hother
  · obtain rfl := mem_singleton.mp hother
    simp only [PriceWindow.checkSession, bind_eq_ok] at hpass
    obtain ⟨closes, hcloses, -⟩ := hpass
    obtain ⟨_, -, hok⟩ := exists_of_mapM_eq_ok hcloses symbol hsymbol
    exact priced_of_distinctCloses hok

theorem exists_canonical {symbol sessionId : String}
    (h : candidates normalize grouped symbol sessionId ≠ []) :
    ∃ o, IsLowest (candidates normalize grouped symbol sessionId) o ∧
      canonicalPrice normalize grouped symbol sessionId = o.adjustedClose := by
  have hmin : ∃ o, minimumBy (·.rank) (candidates normalize grouped symbol sessionId) = some o :=
    exists_minimumBy h
  obtain ⟨o, ho⟩ := hmin
  exact ⟨o, minimumBy_spec ho, by rw [canonicalPrice, ho]⟩

variable {o : AdjustedCloseObservation}

theorem isLowest_of_perm {bars bars'} (h : bars'.Perm bars) (ho : IsLowest bars' o) :
    IsLowest bars o :=
  ⟨h.subset ho.1, fun other hother => ho.2 other (h.symm.subset hother)⟩

theorem canonicalPrice_of_perm (h : others.Perm grouped) {symbol sessionId : String}
    (nonempty : candidates normalize grouped symbol sessionId ≠ []) :
    ∃ o p, IsLowest (candidates normalize grouped symbol sessionId) o ∧
      IsLowest (candidates normalize grouped symbol sessionId) p ∧
      canonicalPrice normalize others symbol sessionId = o.adjustedClose ∧
      canonicalPrice normalize grouped symbol sessionId = p.adjustedClose := by
  have hperm : (candidates normalize others symbol sessionId).Perm
      (candidates normalize grouped symbol sessionId) := candidates_perm h symbol sessionId
  have hothers : candidates normalize others symbol sessionId ≠ [] := by
    intro hnil
    rw [hnil] at hperm
    exact nonempty hperm.nil_eq.symm
  obtain ⟨o, ho, hoPrice⟩ := exists_canonical hothers
  obtain ⟨p, hp, hpPrice⟩ := exists_canonical nonempty
  exact ⟨o, p, isLowest_of_perm hperm ho, hp, hoPrice, hpPrice⟩

theorem PriceWindow.checkBar_of_perm (h : others.Perm observations) :
    (∀ o ∈ others.filter (w.Reads normalize), w.checkBar o = .ok ()) ↔
      ∀ o ∈ observations.filter (w.Reads normalize), w.checkBar o = .ok () := by
  have hfilter := h.filter (w.Reads normalize)
  exact ⟨fun hsound o ho => hsound o (hfilter.symm.subset ho),
    fun hsound o ho => hsound o (hfilter.subset ho)⟩

variable {selected : SelectedPrices}

theorem PriceWindow.selectPrices_eq_ok :
    w.selectPrices normalize observations = .ok selected ↔
      (∀ o ∈ observations.filter (w.Reads normalize), w.checkBar o = .ok ()) ∧
        (∃ last, w.completedSessionIds.foldlM
          (w.checkSession normalize (observations.filter (w.Reads normalize))) none = .ok last) ∧
        selected = w.collect normalize (observations.filter (w.Reads normalize)) := by
  simp only [PriceWindow.selectPrices, ok_iff, foldlM_group_eq_ok]
  constructor
  · rintro ⟨_, ⟨hsound, rfl⟩, last, hlast, rfl⟩
    exact ⟨hsound, ⟨last, hlast⟩, rfl⟩
  · rintro ⟨hsound, ⟨last, hlast⟩, rfl⟩
    exact ⟨_, ⟨hsound, rfl⟩, last, hlast, rfl⟩

theorem PriceWindow.price_of_perm (h : others.Perm observations) {last : Option Instant}
    (checked : w.completedSessionIds.foldlM
      (w.checkSession normalize (observations.filter (w.Reads normalize))) none = .ok last) :
    ∀ symbol ∈ w.symbols, ∀ sessionId ∈ w.completedSessionIds,
      let price := canonicalPrice normalize (others.filter (w.Reads normalize)) symbol sessionId
      let price' := canonicalPrice normalize (observations.filter (w.Reads normalize)) symbol
        sessionId
      price.value = price'.value ∧
        (w.TiesAgree normalize observations → price.text = price'.text) := by
  intro symbol hsymbol sessionId hsession
  obtain ⟨hnonempty, value, hvalue⟩ := priced_of_checked checked symbol hsymbol sessionId hsession
  obtain ⟨o, p, ho, hp, hoPrice, hpPrice⟩ :=
    canonicalPrice_of_perm (h.filter (w.Reads normalize)) hnonempty
  simp only [hoPrice, hpPrice]
  exact ⟨(hvalue o ho.1).trans (hvalue p hp.1).symm,
    fun ties => ties symbol hsymbol sessionId hsession o p ho hp⟩

theorem PriceWindow.select_of_perm (h : others.Perm observations)
    (ok : w.selectPrices normalize observations = .ok selected) :
    ∃ selected', w.selectPrices normalize others = .ok selected' ∧
      selected'.values = selected.values ∧ selected'.sourceIds = selected.sourceIds ∧
      (w.TiesAgree normalize observations → selected'.texts = selected.texts) := by
  rw [selectPrices_eq_ok] at ok
  obtain ⟨hsound, ⟨last, hlast⟩, rfl⟩ := ok
  have hgrouped := h.filter (w.Reads normalize)
  have hprice := price_of_perm h hlast
  refine ⟨_, selectPrices_eq_ok.mpr ⟨(checkBar_of_perm h).mpr hsound, ⟨last, ?_⟩, rfl⟩, ?_, ?_, ?_⟩
  · rw [checkSession_of_perm hgrouped]
    exact hlast
  · simp only [SelectedPrices.values, PriceWindow.collect, map_map]
    refine map_congr_left fun symbol hsymbol => Prod.ext rfl ?_
    simp only [Function.comp_def, map_map]
    exact map_congr_left fun sessionId hsession => (hprice symbol hsymbol sessionId hsession).1
  · have hids : ∀ symbol, barIds normalize (others.filter (w.Reads normalize)) symbol =
        barIds normalize (observations.filter (w.Reads normalize)) symbol :=
      fun symbol => funext fun sessionId => barIds_of_perm hgrouped symbol sessionId
    simp only [PriceWindow.collect, hids]
  · intro ties
    simp only [SelectedPrices.texts, PriceWindow.collect, map_map]
    refine map_congr_left fun symbol hsymbol => Prod.ext rfl ?_
    simp only [Function.comp_def, map_map]
    exact map_congr_left fun sessionId hsession =>
      (hprice symbol hsymbol sessionId hsession).2 ties

theorem texts_collect_inj {grouped'}
    (h : (w.collect normalize grouped).texts = (w.collect normalize grouped').texts) :
    ∀ symbol ∈ w.symbols, ∀ sessionId ∈ w.completedSessionIds,
      (canonicalPrice normalize grouped symbol sessionId).text =
        (canonicalPrice normalize grouped' symbol sessionId).text := by
  intro symbol hsymbol sessionId hsession
  simp only [SelectedPrices.texts, PriceWindow.collect, map_map] at h
  have hprices := congrArg Prod.snd (map_inj_left.mp h symbol hsymbol)
  simp only [Function.comp_def, map_map] at hprices
  exact map_inj_left.mp hprices sessionId hsession

theorem canonicalPrice_of_first {symbol sessionId : String} (lowest : IsLowest
      (candidates normalize (observations.filter (w.Reads normalize)) symbol sessionId) o) :
    (o :: observations.erase o).Perm observations ∧
      canonicalPrice normalize ((o :: observations.erase o).filter (w.Reads normalize)) symbol
        sessionId = o.adjustedClose := by
  obtain ⟨hread, hbar⟩ := mem_filter.mp lowest.1
  obtain ⟨hmem, hreads⟩ := mem_filter.mp hread
  have hperm : (o :: observations.erase o).Perm observations := (perm_cons_erase hmem).symm
  refine ⟨hperm, ?_⟩
  have hbars := @candidates_perm normalize _ _ (hperm.filter (w.Reads normalize)) symbol sessionId
  have hfirst : ∀ rest, candidates normalize (o :: rest) symbol sessionId =
      o :: candidates normalize rest symbol sessionId := fun _ => filter_cons_of_pos hbar
  rw [filter_cons_of_pos (p := fun b => decide (w.Reads normalize b)) hreads] at hbars ⊢
  unfold canonicalPrice
  rw [hfirst] at hbars ⊢
  rw [minimumBy_cons_of_le fun other hother =>
    lowest.2 other (hbars.subset (mem_cons_of_mem o hother))]

theorem PriceWindow.ties_of_select_perm
    (same : ∀ others : List AdjustedCloseObservation, others.Perm observations → ∃ selected',
      w.selectPrices normalize others = .ok selected' ∧ selected'.texts = selected.texts) :
    w.TiesAgree normalize observations := by
  intro symbol hsymbol sessionId hsession o p bars ho hp
  have hfirst : ∀ q, IsLowest bars q → ∃ others : List AdjustedCloseObservation,
    canonicalPrice normalize
      (others.filter (w.Reads normalize)) symbol sessionId = q.adjustedClose ∧
      (w.collect normalize (others.filter (w.Reads normalize))).texts = selected.texts := by
    intro q hq
    obtain ⟨hperm, hprice⟩ := canonicalPrice_of_first hq
    obtain ⟨_, hok, htexts⟩ := same _ hperm
    obtain ⟨-, -, rfl⟩ := selectPrices_eq_ok.mp hok
    exact ⟨_, hprice, htexts⟩
  obtain ⟨others, hoPrice, hoTexts⟩ := hfirst o ho
  obtain ⟨others', hpPrice, hpTexts⟩ := hfirst p hp
  rw [← hoPrice, ← hpPrice]
  exact texts_collect_inj (hoTexts.trans hpTexts.symm) symbol hsymbol sessionId hsession

end Selected

section Rescale

variable {normalize : String → String} {w : PriceWindow} {unit : String} {coefficient exponent : ℤ}
  {observations grouped : List AdjustedCloseObservation}

def scaledFor (unit : String) (coefficient exponent : ℤ) (symbol : String)
    (price : WrittenDecimal) :
    WrittenDecimal :=
  if symbol = unit then price.times coefficient exponent else price

def AdjustedCloseObservation.rescale (normalize : String → String) (unit : String)
    (coefficient exponent : ℤ) (o : AdjustedCloseObservation) : AdjustedCloseObservation :=
  { o with
    adjustedClose := scaledFor unit coefficient exponent (normalize o.symbol) o.adjustedClose }

def unitFactor (unit : String) (coefficient exponent : ℤ) (symbol : String) : Decimal :=
  if symbol = unit then (WrittenDecimal.finite coefficient exponent).value else 1

theorem unitFactor_ne_zero (positive : 0 < coefficient) (symbol : String) :
    unitFactor unit coefficient exponent symbol ≠ 0 := by
  unfold unitFactor
  split
  · exact mul_ne_zero (by exact_mod_cast positive.ne') (zpow_ne_zero _ (by norm_num))
  · exact one_ne_zero

theorem value_scaledFor (symbol : String) (price : WrittenDecimal) :
    (scaledFor unit coefficient exponent symbol price).value =
      unitFactor unit coefficient exponent symbol * price.value := by
  unfold scaledFor unitFactor
  split
  · exact price.value_times coefficient exponent
  · rw [one_mul]

theorem checkBar_rescale (positive : 0 < coefficient) (o : AdjustedCloseObservation) :
    w.checkBar (o.rescale normalize unit coefficient exponent) = w.checkBar o := by
  have hprice :
    (scaledFor unit coefficient exponent (normalize o.symbol) o.adjustedClose).checkPrice =
      o.adjustedClose.checkPrice := by
    unfold scaledFor
    split
    · exact WrittenDecimal.checkPrice_times positive exponent _
    · rfl
  simp only [PriceWindow.checkBar, AdjustedCloseObservation.rescale, hprice]
  rfl

theorem candidates_rescale (symbol sessionId : String) :
    candidates normalize (grouped.map (·.rescale normalize unit coefficient exponent)) symbol
        sessionId =
      (candidates normalize grouped symbol sessionId).map
        (·.rescale normalize unit coefficient exponent) := by
  unfold candidates
  rw [filter_map]
  rfl

theorem distinctCloses_rescale (positive : 0 < coefficient) (sessionId symbol : String) :
    distinctCloses normalize (grouped.map (·.rescale normalize unit coefficient exponent)) sessionId
        symbol =
      distinctCloses normalize grouped sessionId symbol := by
  have hprices : ((candidates normalize grouped symbol sessionId).map fun o =>
        (o.rescale normalize unit coefficient exponent).adjustedClose.value) =
      ((candidates normalize grouped symbol sessionId).map (·.adjustedClose.value)).map
        (unitFactor unit coefficient exponent symbol * ·) := by
    rw [map_map]
    refine map_congr_left fun o ho => ?_
    have hsymbol : normalize o.symbol = symbol := (of_decide_eq_true (mem_filter.mp ho).2).2
    simp only [AdjustedCloseObservation.rescale, value_scaledFor, hsymbol, Function.comp_apply]
  have hinjective : Function.Injective (unitFactor unit coefficient exponent symbol * ·) :=
    mul_right_injective₀ (unitFactor_ne_zero positive symbol)
  unfold distinctCloses
  simp only [candidates_rescale, map_eq_nil_iff, map_map, Function.comp_def]
  simp only [hprices, dedup_map_of_injective hinjective, length_map]
  rfl

theorem checkSession_rescale (positive : 0 < coefficient) :
    w.checkSession normalize (grouped.map (·.rescale normalize unit coefficient exponent)) =
      w.checkSession normalize grouped := by
  funext previous sessionId
  have hcloses : distinctCloses normalize
      (grouped.map (·.rescale normalize unit coefficient exponent)) sessionId =
      distinctCloses normalize grouped sessionId :=
    funext fun symbol => distinctCloses_rescale positive sessionId symbol
  simp only [PriceWindow.checkSession, hcloses]

theorem canonicalPrice_rescale (symbol sessionId : String) :
    canonicalPrice normalize (grouped.map (·.rescale normalize unit coefficient exponent)) symbol
        sessionId =
      scaledFor unit coefficient exponent symbol
        (canonicalPrice normalize grouped symbol sessionId) := by
  have hmap : minimumBy (·.rank) (candidates normalize
      (grouped.map (·.rescale normalize unit coefficient exponent)) symbol sessionId) =
      (minimumBy (·.rank) (candidates normalize grouped symbol sessionId)).map
        (·.rescale normalize unit coefficient exponent) := by
    rw [candidates_rescale, minimumBy_map]
    rfl
  unfold canonicalPrice
  rw [hmap]
  cases hmin : minimumBy (·.rank) (candidates normalize grouped symbol sessionId) with
  | none =>
    simp only [Option.map_none, scaledFor]
    split <;> rfl
  | some o =>
    have hsymbol : normalize o.symbol = symbol :=
      (of_decide_eq_true (mem_filter.mp (minimumBy_spec hmin).1).2).2
    simp only [Option.map_some, AdjustedCloseObservation.rescale, hsymbol]

def SelectedPrices.rescale (unit : String) (coefficient exponent : ℤ) (selected : SelectedPrices) :
    SelectedPrices :=
  { selected with
    prices := selected.prices.map fun item =>
      (item.1, item.2.map (scaledFor unit coefficient exponent item.1)) }

theorem collect_rescale :
    w.collect normalize (grouped.map (·.rescale normalize unit coefficient exponent)) =
      (w.collect normalize grouped).rescale unit coefficient exponent := by
  have hids : ∀ symbol, barIds normalize
      (grouped.map (·.rescale normalize unit coefficient exponent)) symbol =
      barIds normalize grouped symbol := by
    intro symbol
    funext sessionId
    unfold barIds
    rw [candidates_rescale, map_map]
    rfl
  have hprices : ∀ symbol, canonicalPrice normalize
      (grouped.map (·.rescale normalize unit coefficient exponent)) symbol =
      fun sessionId => scaledFor unit coefficient exponent symbol
        (canonicalPrice normalize grouped symbol sessionId) :=
    fun symbol => funext fun sessionId => canonicalPrice_rescale symbol sessionId
  simp only [PriceWindow.collect, SelectedPrices.rescale, hids, hprices, map_map,
    Function.comp_def]

theorem PriceWindow.select_rescale (positive : 0 < coefficient) :
    w.selectPrices normalize (observations.map (·.rescale normalize unit coefficient exponent)) =
      (w.selectPrices normalize observations).map (·.rescale unit coefficient exponent) := by
  have hloop : ∀ (list acc : List AdjustedCloseObservation),
      (list.map (·.rescale normalize unit coefficient exponent)).foldlM (w.group normalize)
          (acc.map (·.rescale normalize unit coefficient exponent)) =
        (list.foldlM (w.group normalize) acc).map
          (List.map (·.rescale normalize unit coefficient exponent)) := by
    intro list
    induction list with
    | nil => exact fun _ => rfl
    | cons o list ih =>
      intro acc
      have hstep : w.group normalize (acc.map (·.rescale normalize unit coefficient exponent))
          (o.rescale normalize unit coefficient exponent) =
          (w.group normalize acc o).map
            (List.map (·.rescale normalize unit coefficient exponent)) := by
        have hreads : w.Reads normalize (o.rescale normalize unit coefficient exponent) ↔
            w.Reads normalize o := Iff.rfl
        simp only [PriceWindow.group, hreads, checkBar_rescale positive]
        by_cases hin : w.Reads normalize o
        · simp only [if_pos hin]
          cases w.checkBar o with
          | error e => rfl
          | ok _ => simp [Except.map, pure, Except.pure]
        · simp only [if_neg hin]
          rfl
      rw [map_cons, foldlM_cons, foldlM_cons, hstep]
      cases w.group normalize acc o with
      | error e => rfl
      | ok acc' => exact ih acc'
  unfold PriceWindow.selectPrices
  have hgroup := hloop observations []
  rw [map_nil] at hgroup
  rw [hgroup]
  cases observations.foldlM (w.group normalize) [] with
  | error e => rfl
  | ok grouped =>
    simp only [Except.map, ok_bind, checkSession_rescale positive, collect_rescale]
    cases w.completedSessionIds.foldlM (w.checkSession normalize grouped) none with
    | error e => rfl
    | ok last => rfl

theorem SelectedPrices.values_rescale (selected : SelectedPrices) :
    (selected.rescale unit coefficient exponent).values =
      selected.values.map fun item =>
        (item.1, item.2.map (unitFactor unit coefficient exponent item.1 * ·)) := by
  simp only [SelectedPrices.values, SelectedPrices.rescale, map_map, Function.comp_def,
    value_scaledFor]

end Rescale

end AdaptiveQuant.Quant
