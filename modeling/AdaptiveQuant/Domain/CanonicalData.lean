import AdaptiveQuant.Domain.Basic
import AdaptiveQuant.Lib.Binary64
import AdaptiveQuant.Lib.CivilDate
import AdaptiveQuant.Lib.Sequence
import Mathlib.Data.String.Basic

/-! `canonical_data` and `canonical_json` of `domain/hashing.py`: numbers and times with what their
text needs, and mappings and sequences of them at any depth. -/

namespace AdaptiveQuant

open Guard Sequence List

def fixedDigits : ℕ → ℕ → List Char
  | 0, _ => []
  | places + 1, n => fixedDigits places (n / 10) ++ [Nat.digitChar (n % 10)]

/-- A `Decimal`: equal numbers may differ in their exponent, and zero has a sign. -/
inductive PyDecimal
  | finite (negative : Bool) (coefficient : ℕ) (exponent : ℤ)
  | infinite (negative : Bool)
  | nan
deriving DecidableEq

def signChars (negative : Bool) : List Char := if negative then ['-'] else []

/-- `format(value, "f")`. -/
def PyDecimal.chars : PyDecimal → List Char
  | .finite negative coefficient exponent =>
    let places := (-exponent).toNat
    let whole := coefficient * 10 ^ exponent.toNat / 10 ^ places
    signChars negative ++ Nat.toDigits 10 whole ++
      if places = 0 then [] else '.' :: fixedDigits places coefficient
  | .infinite negative => signChars negative ++ "Infinity".toList
  | .nan => "NaN".toList

def PyDecimal.text (value : PyDecimal) : String := String.ofList value.chars

/-- A finite float: zero has a sign too. -/
structure PyFloat where
  negative : Bool
  magnitude : ℚ
  nonneg : 0 ≤ magnitude
deriving DecidableEq

/-- `float(format(value, ".12g"))`. -/
def PyFloat.canonical (x : PyFloat) : PyFloat where
  negative := x.negative
  magnitude := Binary64.round (Binary64.significant 12 x.magnitude)
  nonneg := Binary64.round_nonneg (Binary64.significant_nonneg x.nonneg)

def PyFloat.ofRat (value : ℚ) : PyFloat := ⟨value < 0, |value|, abs_nonneg value⟩

def PyFloat.value (x : PyFloat) : ℚ := if x.negative then -x.magnitude else x.magnitude

/-- `float.__repr__`. -/
def PyFloat.repr (x : PyFloat) : String :=
  let value := Binary64.shortest x.magnitude
  let top := Int.log 10 value
  let digits := ((Nat.toDigits 10 (value / 10 ^ (top - 16)).num.natAbs).reverse.dropWhile
    (· = '0')).reverse
  let orZero (chars : List Char) := if chars = [] then ['0'] else chars
  let shifted := digits ++ List.replicate (top.toNat + 1 - digits.length) '0'
  String.ofList <| signChars x.negative ++
    if x.magnitude = 0 then "0.0".toList
    else if 0 ≤ top ∧ top < 16 then
      shifted.take (top.toNat + 1) ++ '.' :: orZero (shifted.drop (top.toNat + 1))
    else if -4 ≤ top ∧ top < 0 then
      "0.".toList ++ List.replicate (-top - 1).toNat '0' ++ digits
    else
      let exponent := Nat.toDigits 10 top.natAbs
      digits.take 1 ++ (if digits.length = 1 then [] else '.' :: digits.drop 1) ++
        (if top < 0 then "e-".toList else "e+".toList) ++
        (if exponent.length = 1 then '0' :: exponent else exponent)

/-- A time in UTC, by its date, the second of the day and the microsecond of the second. -/
structure UtcTime where
  date : CivilDate
  second : ℕ
  microsecond : ℕ
  second_lt : second < 86400
  microsecond_lt : microsecond < 1000000
deriving DecidableEq

/-- `YYYY-MM-DDTHH:MM:SS`. -/
def UtcTime.clock (t : UtcTime) : List Char :=
  t.date.isoformat.toList ++ 'T' :: fixedDigits 2 (t.second / 3600) ++
    ':' :: fixedDigits 2 (t.second / 60 % 60) ++ ':' :: fixedDigits 2 (t.second % 60)

inductive PyDatetime
  | naive
  | aware (utc : UtcTime)
deriving DecidableEq

/-- A value of the source, as `canonical_data` tells them apart. -/
inductive PyValue
  | none
  | bool (value : Bool)
  | int (value : ℤ)
  | str (value : String)
  | float (value : PyFloat)
  | nonFinite
  | decimal (value : PyDecimal)
  | datetime (value : PyDatetime)
  | date (value : CivilDate)
  | path (posix : String)
  | enum (value : PyValue)
  | model (fields : List (String × PyValue))
  | mapping (entries : List (String × PyValue))
  | sequence (items : List PyValue)
  | other (typeName : String)

/-- `CanonicalValue`: what JSON can write. -/
inductive CanonicalValue
  | null
  | bool (value : Bool)
  | int (value : ℤ)
  | float (value : PyFloat)
  | str (value : String)
  | list (items : List CanonicalValue)
  | dict (entries : List (String × CanonicalValue))

def canonicalizationError (message : String) : Failure := ⟨.canonicalizationError, message, []⟩

def PyDatetime.canonical : PyDatetime → Except Failure CanonicalValue
  | .naive => .error (canonicalizationError "Naive datetime cannot be canonicalized")
  | .aware utc =>
    .ok (.str (String.ofList (utc.clock ++ '.' :: fixedDigits 6 utc.microsecond ++ ['Z'])))

def inKeyOrder (entries : List (String × Except Failure CanonicalValue)) :
    Except Failure CanonicalValue :=
  CanonicalValue.dict <$> (sortedBy (·.1) entries).mapM fun entry => (entry.1, ·) <$> entry.2

mutual

def canonicalData : PyValue → Except Failure CanonicalValue
  | .none => .ok .null
  | .bool value => .ok (.bool value)
  | .int value => .ok (.int value)
  | .str value => .ok (.str value)
  | .float value => .ok (.float value.canonical)
  | .nonFinite => .error (canonicalizationError "Non-finite float cannot be canonicalized")
  | .decimal value => .ok (.str value.text)
  | .datetime value => value.canonical
  | .date value => .ok (.str value.isoformat)
  | .path posix => .ok (.str posix)
  | .enum value => canonicalData value
  | .model fields => inKeyOrder (canonicalEntries fields)
  | .mapping entries => inKeyOrder (canonicalEntries entries)
  | .sequence items => CanonicalValue.list <$> (canonicalItems items).mapM id
  | .other typeName => .error (canonicalizationError ("Unsupported canonical type: " ++ typeName))

def canonicalEntries :
    List (String × PyValue) → List (String × Except Failure CanonicalValue)
  | [] => []
  | (key, value) :: rest => (key, canonicalData value) :: canonicalEntries rest

def canonicalItems : List PyValue → List (Except Failure CanonicalValue)
  | [] => []
  | value :: rest => canonicalData value :: canonicalItems rest

end

/-- The escapes of `json.dumps(ensure_ascii=False)`. -/
def escapedChar (c : Char) : List Char :=
  if c = '"' then ['\\', '"']
  else if c = '\\' then ['\\', '\\']
  else if c = '\n' then ['\\', 'n']
  else if c = '\r' then ['\\', 'r']
  else if c = '\t' then ['\\', 't']
  else if c.toNat = 8 then ['\\', 'b']
  else if c.toNat = 12 then ['\\', 'f']
  else if c.toNat < 32 then
    ['\\', 'u', '0', '0', Nat.digitChar (c.toNat / 16), Nat.digitChar (c.toNat % 16)]
  else [c]

def jsonString (text : String) : String :=
  "\"" ++ String.ofList (text.toList.flatMap escapedChar) ++ "\""

mutual

/-- `json.dumps` with `sort_keys` and without blanks. -/
def CanonicalValue.json : CanonicalValue → String
  | .null => "null"
  | .bool value => if value then "true" else "false"
  | .int value => toString value
  | .float value => value.repr
  | .str value => jsonString value
  | .list items => "[" ++ ",".intercalate (jsonItems items) ++ "]"
  | .dict entries => "\x7b" ++ ",".intercalate ((sortedBy (·.1) (jsonEntries entries)).map
      fun entry => jsonString entry.1 ++ ":" ++ entry.2) ++ "\x7d"

def jsonItems : List CanonicalValue → List String
  | [] => []
  | value :: rest => value.json :: jsonItems rest

def jsonEntries : List (String × CanonicalValue) → List (String × String)
  | [] => []
  | (key, value) :: rest => (key, value.json) :: jsonEntries rest

end

def canonicalJson (value : PyValue) : Except Failure String :=
  CanonicalValue.json <$> canonicalData value

/-- `digest` is the hexadecimal SHA-256 of the UTF-8 text. -/
def canonicalHash (digest : String → String) (value : PyValue) : Except Failure String :=
  digest <$> canonicalJson value

mutual

/-- The Python value of stored JSON: dictionaries, lists and scalars. -/
def CanonicalValue.loaded : CanonicalValue → PyValue
  | .null => .none
  | .bool value => .bool value
  | .int value => .int value
  | .float value => .float value
  | .str value => .str value
  | .list items => .sequence (loadedItems items)
  | .dict entries => .mapping (loadedEntries entries)

def loadedItems : List CanonicalValue → List PyValue
  | [] => []
  | value :: rest => value.loaded :: loadedItems rest

def loadedEntries : List (String × CanonicalValue) → List (String × PyValue)
  | [] => []
  | (key, value) :: rest => (key, value.loaded) :: loadedEntries rest

end

example : canonicalJson (.mapping [("b", .sequence [.none, .decimal (.finite true 150 (-2))]),
    ("a", .float ⟨false, 1 / 2, by norm_num⟩)]) =
      .ok "\x7b\"a\":0.5,\"b\":[null,\"-1.50\"]\x7d" := by
  decide +kernel

theorem canonicalEntries_eq (entries : List (String × PyValue)) :
    canonicalEntries entries = entries.map fun entry => (entry.1, canonicalData entry.2) := by
  induction entries with
  | nil => rfl
  | cons entry rest ih => rw [canonicalEntries, ih, map_cons]

theorem canonicalItems_eq (items : List PyValue) :
    canonicalItems items = items.map canonicalData := by
  induction items with
  | nil => rfl
  | cons value rest ih => rw [canonicalItems, ih, map_cons]

/-- The same value with the entries of its mappings, at any depth, in another order. -/
inductive Reordered : PyValue → PyValue → Prop
  | refl (v : PyValue) : Reordered v v
  | trans {u v w : PyValue} : Reordered u v → Reordered v w → Reordered u w
  | entries {xs ys : List (String × PyValue)} (perm : xs.Perm ys)
      (distinct : (xs.map (·.1)).Nodup) : Reordered (.mapping xs) (.mapping ys)
  | value {v w : PyValue} {key : String} {before after : List (String × PyValue)} :
      Reordered v w → Reordered (.mapping (before ++ (key, v) :: after))
        (.mapping (before ++ (key, w) :: after))
  | field {v w : PyValue} {key : String} {before after : List (String × PyValue)} :
      Reordered v w → Reordered (.model (before ++ (key, v) :: after))
        (.model (before ++ (key, w) :: after))
  | item {v w : PyValue} {before after : List PyValue} :
      Reordered v w → Reordered (.sequence (before ++ v :: after))
        (.sequence (before ++ w :: after))
  | member {v w : PyValue} : Reordered v w → Reordered (.enum v) (.enum w)

theorem inKeyOrder_perm {xs ys} (perm : xs.Perm ys) (distinct : (xs.map (·.1)).Nodup) :
    inKeyOrder xs = inKeyOrder ys := by
  rw [inKeyOrder, inKeyOrder, sortedBy_eq_of_perm _ perm distinct]

theorem canonicalData_reordered {v w : PyValue} (h : Reordered v w) :
    canonicalData v = canonicalData w := by
  induction h with
  | refl => rfl
  | trans _ _ ih ih' => rw [ih, ih']
  | entries perm distinct =>
    rw [canonicalData, canonicalData, canonicalEntries_eq, canonicalEntries_eq]
    refine inKeyOrder_perm (perm.map _) ?_
    rw [map_map]
    exact distinct
  | value _ ih => simp only [canonicalData, canonicalEntries_eq, map_append, map_cons, ih]
  | field _ ih => simp only [canonicalData, canonicalEntries_eq, map_append, map_cons, ih]
  | item _ ih => simp only [canonicalData, canonicalItems_eq, map_append, map_cons, ih]
  | member _ ih => rw [canonicalData, canonicalData, ih]

theorem PyFloat.canonical_canonical (x : PyFloat) : x.canonical.canonical = x.canonical := by
  rw [PyFloat.canonical, PyFloat.mk.injEq]
  exact ⟨rfl, Binary64.round_significant_round (by norm_num) (by norm_num) x.nonneg⟩

theorem loadedEntries_eq (entries : List (String × CanonicalValue)) :
    loadedEntries entries = entries.map fun entry => (entry.1, entry.2.loaded) := by
  induction entries with
  | nil => rfl
  | cons entry rest ih => rw [loadedEntries, ih, map_cons]

theorem loadedItems_eq (items : List CanonicalValue) :
    loadedItems items = items.map CanonicalValue.loaded := by
  induction items with
  | nil => rfl
  | cons value rest ih => rw [loadedItems, ih, map_cons]

theorem inKeyOrder_eq_ok {entries c} (h : inKeyOrder (canonicalEntries entries) = .ok c) :
    ∃ canonical, c = .dict canonical ∧
      (canonical.Pairwise fun a b => a.1 ≤ b.1) ∧
      ∀ entry ∈ canonical, ∃ source ∈ entries, canonicalData source.2 = .ok entry.2 := by
  rw [canonicalEntries_eq, inKeyOrder, map_eq_ok] at h
  obtain ⟨canonical, hmap, rfl⟩ := h
  refine ⟨canonical, rfl, ?_, fun entry hentry => ?_⟩
  · have hkeys : canonical.map (·.1) = (sortedBy (·.1)
        (entries.map fun entry => (entry.1, canonicalData entry.2))).map (·.1) := by
      refine map_of_mapM_eq_ok (fun item entry hitem => ?_) hmap
      obtain ⟨_, -, rfl⟩ := map_eq_ok.mp hitem
      rfl
    have hsorted := sortedBy_pairwise (·.1)
      (entries.map fun entry => (entry.1, canonicalData entry.2))
    have hordered : (canonical.map (·.1)).Pairwise (· ≤ ·) := by
      rw [hkeys]
      exact pairwise_map.mpr hsorted
    exact pairwise_map.mp hordered
  · obtain ⟨item, hitem, hvalue⟩ := mem_of_mapM_eq_ok hmap entry hentry
    obtain ⟨value, hdata, rfl⟩ := map_eq_ok.mp hvalue
    obtain ⟨source, hsource, rfl⟩ := mem_map.mp ((mem_sortedBy _).mp hitem)
    exact ⟨source, hsource, hdata⟩

theorem inKeyOrder_loaded {canonical} (sorted : canonical.Pairwise fun a b => a.1 ≤ b.1)
    (fixed : ∀ entry ∈ canonical, canonicalData entry.2.loaded = .ok entry.2) :
    inKeyOrder (canonicalEntries (loadedEntries canonical)) = .ok (.dict canonical) := by
  have hentries : canonicalEntries (loadedEntries canonical) =
      canonical.map fun entry => (entry.1, .ok entry.2) := by
    rw [canonicalEntries_eq, loadedEntries_eq, map_map]
    exact map_congr_left fun entry hentry => Prod.ext rfl (fixed entry hentry)
  have hkeys : (canonical.map fun entry =>
      (entry.1, (.ok entry.2 : Except Failure CanonicalValue))).Pairwise fun a b => a.1 ≤ b.1 :=
    pairwise_map.mpr sorted
  rw [hentries, inKeyOrder, sortedBy_eq_self _ hkeys, mapM_map, map_eq_ok]
  exact ⟨_, mapM_eq_ok fun _ _ => rfl, by rw [map_id']⟩

mutual

theorem canonicalData_loaded : (v : PyValue) → ∀ c, canonicalData v = .ok c →
    canonicalData c.loaded = .ok c
  | .none, c, h => by cases h; rfl
  | .bool value, c, h => by cases h; rfl
  | .int value, c, h => by cases h; rfl
  | .str value, c, h => by cases h; rfl
  | .float value, c, h => by
    cases h
    exact congrArg (fun x => Except.ok (CanonicalValue.float x)) value.canonical_canonical
  | .nonFinite, c, h => by cases h
  | .decimal value, c, h => by cases h; rfl
  | .datetime value, c, h => by
    cases value with
    | naive => cases h
    | aware utc => cases h; rfl
  | .date value, c, h => by cases h; rfl
  | .path posix, c, h => by cases h; rfl
  | .enum value, c, h => canonicalData_loaded value c h
  | .model fields, c, h => by
    obtain ⟨canonical, rfl, hsorted, hsource⟩ := inKeyOrder_eq_ok h
    refine inKeyOrder_loaded hsorted fun entry hentry => ?_
    obtain ⟨source, hmem, hvalue⟩ := hsource entry hentry
    exact entries_loaded fields source hmem _ hvalue
  | .mapping entries, c, h => by
    obtain ⟨canonical, rfl, hsorted, hsource⟩ := inKeyOrder_eq_ok h
    refine inKeyOrder_loaded hsorted fun entry hentry => ?_
    obtain ⟨source, hmem, hvalue⟩ := hsource entry hentry
    exact entries_loaded entries source hmem _ hvalue
  | .sequence items, c, h => by
    rw [canonicalData, canonicalItems_eq, mapM_map, map_eq_ok] at h
    obtain ⟨canonical, hmap, rfl⟩ := h
    rw [CanonicalValue.loaded, canonicalData, canonicalItems_eq, loadedItems_eq, map_map,
      mapM_map, map_eq_ok]
    refine ⟨canonical, (mapM_eq_ok fun value hvalue => ?_).trans (by rw [map_id']), rfl⟩
    obtain ⟨source, hmem, hsource⟩ := mem_of_mapM_eq_ok hmap value hvalue
    exact items_loaded items source hmem _ hsource
  | .other typeName, c, h => by cases h

theorem entries_loaded : (entries : List (String × PyValue)) → ∀ entry ∈ entries, ∀ c,
    canonicalData entry.2 = .ok c → canonicalData c.loaded = .ok c
  | (key, value) :: rest, entry, hentry, c, h => by
    rcases mem_cons.mp hentry with heq | hrest
    · rw [heq] at h
      exact canonicalData_loaded value c h
    · exact entries_loaded rest entry hrest c h

theorem items_loaded : (items : List PyValue) → ∀ value ∈ items, ∀ c,
    canonicalData value = .ok c → canonicalData c.loaded = .ok c
  | item :: rest, value, hvalue, c, h => by
    rcases mem_cons.mp hvalue with heq | hrest
    · rw [heq] at h
      exact canonicalData_loaded item c h
    · exact items_loaded rest value hrest c h

end

/-- Values that differ in the order of their mappings have one canonical form, text and hash, and
the canonical form, read back, keeps all three. -/
theorem canonical_form (digest : String → String) :
    (∀ v w, Reordered v w → canonicalData v = canonicalData w ∧ canonicalJson v = canonicalJson w ∧
      canonicalHash digest v = canonicalHash digest w) ∧
    ∀ v c, canonicalData v = .ok c → canonicalData c.loaded = .ok c ∧
      canonicalJson c.loaded = canonicalJson v ∧
      canonicalHash digest c.loaded = canonicalHash digest v := by
  refine ⟨fun v w h => ?_, fun v c h => ?_⟩
  · have hdata := canonicalData_reordered h
    simp only [canonicalHash, canonicalJson, hdata, and_self]
  · have hdata := canonicalData_loaded v c h
    simp only [canonicalHash, canonicalJson, hdata, h, and_self]

/-- A mapping of two entries within a sequence. -/
def nestedPair (first second : String × PyValue) : PyValue := .sequence [.mapping [first, second]]

theorem swapped_same : ∃ c,
    canonicalData (nestedPair ("b", .enum (.int 2)) ("a", .str "x")) = .ok c ∧
    canonicalData c.loaded = .ok c ∧
    canonicalHash id (nestedPair ("b", .enum (.int 2)) ("a", .str "x")) =
      canonicalHash id (nestedPair ("a", .str "x") ("b", .enum (.int 2))) := by
  have hswap : Reordered (nestedPair ("b", .enum (.int 2)) ("a", .str "x"))
      (nestedPair ("a", .str "x") ("b", .enum (.int 2))) :=
    @Reordered.item _ _ [] [] (.entries (.swap _ _ _) (by decide))
  have hdata : canonicalData (nestedPair ("b", .enum (.int 2)) ("a", .str "x")) =
      .ok (.list [.dict [("a", .str "x"), ("b", .int 2)]]) := rfl
  exact ⟨_, hdata, ((canonical_form id).2 _ _ hdata).1, ((canonical_form id).1 _ _ hswap).2.2⟩

end AdaptiveQuant
