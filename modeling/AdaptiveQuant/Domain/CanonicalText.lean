import AdaptiveQuant.Domain.Basic

/-! Names without a digest, for trying results on concrete records. -/

namespace AdaptiveQuant

open List

def Canonical.json : Canonical → String
  | .null => "null"
  | .bool value => toString value
  | .int value => toString value
  | .str value => value
  | .decimal value => toString value.num ++ "/" ++ toString value.den
  | .instant value => toString value
  | .nil => ""
  | .item value rest => value.json ++ "," ++ rest.json
  | .entry key value rest => key ++ ":" ++ value.json ++ "," ++ rest.json

def Hashing.json : Hashing where
  canonicalHash value := value.json
  stableId tag parts := tag ++ "_" ++ (Canonical.list parts).json

def checksum (text : String) : ℕ :=
  text.toByteArray.data.toList.foldl (fun sum byte => (sum * 257 + byte.toNat) % 2 ^ 256) 0

def hexDigits : ℕ → ℕ → List Char
  | 0, _ => []
  | count + 1, value => hexDigits count (value / 16) ++ [Nat.digitChar (value % 16)]

/-- Digests of 64 digits and names of 24, of a checksum in the place of SHA-256. -/
def Hashing.hex : Hashing where
  canonicalHash value := String.ofList (hexDigits 64 (checksum value.json))
  stableId tag parts :=
    tag ++ "_" ++ String.ofList (hexDigits 24 (checksum (Canonical.list parts).json))

def Canonical.checksum : Canonical → ℕ
  | .null => 1
  | .bool value => if value then 2 else 3
  | .int value => mix 5 value.natAbs (if 0 ≤ value then 0 else 1)
  | .str value => mix 7 (AdaptiveQuant.checksum value) 0
  | .decimal value => mix 11 value.num.natAbs (2 * value.den + if 0 ≤ value.num then 0 else 1)
  | .instant value => mix 13 value.natAbs (if 0 ≤ value then 0 else 1)
  | .nil => 17
  | .item value rest => mix 19 value.checksum rest.checksum
  | .entry key value rest =>
    mix 23 (mix 29 (AdaptiveQuant.checksum key) value.checksum) rest.checksum
where
  mix (tag a b : ℕ) : ℕ := (tag * 1000003 + a * 65599 + b * 31 + a * b) % 2 ^ 64

def Hashing.short : Hashing where
  canonicalHash value := String.ofList (hexDigits 8 value.checksum)
  stableId tag parts := tag ++ "_" ++ String.ofList (hexDigits 8 (Canonical.list parts).checksum)

/-- Digests of 64 digits of that checksum. -/
def Hashing.long : Hashing where
  canonicalHash value := String.ofList (hexDigits 64 value.checksum)
  stableId := Hashing.short.stableId

/-- The end of a text is marked by a dot, and a dot or colon inside it by a colon. -/
def markedText : List Char → List Char
  | [] => ['.']
  | c :: cs => if c = '.' ∨ c = ':' then ':' :: c :: markedText cs else c :: markedText cs

theorem markedText_append_inj {a b r s : List Char} (h : markedText a ++ r = markedText b ++ s) :
    a = b ∧ r = s := by
  induction a generalizing b with
  | nil =>
    cases b with
    | nil => simpa [markedText] using h
    | cons d ds =>
      unfold markedText at h
      split at h <;> grind
  | cons c cs ih =>
    cases b with
    | nil =>
      unfold markedText at h
      split at h <;> grind
    | cons d ds =>
      have hcons : c = d ∧ markedText cs ++ r = markedText ds ++ s := by
        unfold markedText at h
        split at h <;> split at h <;> grind
      obtain ⟨rfl, hrest⟩ := hcons
      obtain ⟨rfl, hrs⟩ := ih hrest
      exact ⟨rfl, hrs⟩

def natText (n : ℕ) : List Char := List.replicate n '1' ++ ['.']

variable {r s : List Char}

theorem natText_append_inj {a b : ℕ} (h : natText a ++ r = natText b ++ s) :
    a = b ∧ r = s := by
  induction a generalizing b with
  | zero =>
    cases b with
    | zero => simpa [natText] using h
    | succ b => simp [natText, replicate_succ] at h
  | succ a ih =>
    cases b with
    | zero => simp [natText, replicate_succ] at h
    | succ b =>
      simp only [natText, replicate_succ, cons_append, List.cons.injEq, true_and] at h
      obtain ⟨rfl, hrs⟩ := ih h
      exact ⟨rfl, hrs⟩

def intText : ℤ → List Char
  | .ofNat n => '+' :: natText n
  | .negSucc n => '-' :: natText n

theorem intText_append_inj {a b : ℤ} (h : intText a ++ r = intText b ++ s) :
    a = b ∧ r = s := by
  cases a <;> cases b <;> simp only [intText, cons_append, List.cons.injEq, true_and,
    Char.reduceEq, false_and] at h
  all_goals
    obtain ⟨rfl, hrs⟩ := natText_append_inj h
    exact ⟨rfl, hrs⟩

def Canonical.text : Canonical → List Char
  | .null => ['n']
  | .bool value => ['b', if value then 't' else 'f']
  | .int value => 'i' :: intText value
  | .str value => 's' :: markedText value.toList
  | .decimal value => 'd' :: (intText value.num ++ natText value.den)
  | .instant value => 'u' :: intText value
  | .nil => ['e']
  | .item value rest => 'l' :: (value.text ++ rest.text)
  | .entry key value rest => 'm' :: (markedText key.toList ++ (value.text ++ rest.text))

theorem Canonical.text_append_inj {a b : Canonical}
    (h : a.text ++ r = b.text ++ s) : a = b ∧ r = s := by
  induction a generalizing b r s <;> cases b <;> simp only [Canonical.text, cons_append, nil_append,
    append_assoc, List.cons.injEq, Char.reduceEq, false_and, true_and] at h
  case null.null | nil.nil => exact ⟨rfl, h⟩
  case bool.bool v w => cases v <;> cases w <;> simp_all
  case int.int | instant.instant =>
    obtain ⟨rfl, hrs⟩ := intText_append_inj h
    exact ⟨rfl, hrs⟩
  case str.str =>
    obtain ⟨hv, hrs⟩ := markedText_append_inj h
    exact ⟨by rw [String.toList_injective hv], hrs⟩
  case decimal.decimal =>
    obtain ⟨hnum, hrest⟩ := intText_append_inj h
    obtain ⟨hden, hrs⟩ := natText_append_inj hrest
    exact ⟨by rw [Rat.ext hnum hden], hrs⟩
  case item.item ihv ihr _ _ =>
    obtain ⟨rfl, hrest⟩ := ihv h
    obtain ⟨rfl, hrs⟩ := ihr hrest
    exact ⟨rfl, hrs⟩
  case entry.entry ihv ihr _ _ _ =>
    obtain ⟨hkey, hmid⟩ := markedText_append_inj h
    obtain ⟨rfl, hrest⟩ := ihv hmid
    obtain ⟨rfl, hrs⟩ := ihr hrest
    exact ⟨by rw [String.toList_injective hkey], hrs⟩

theorem Canonical.list_injective {a b : List Canonical} (h : Canonical.list a = Canonical.list b) :
    a = b := by
  induction a generalizing b with
  | nil => cases b <;> simp_all [Canonical.list]
  | cons x xs ih =>
    cases b with
    | nil => simp [Canonical.list] at h
    | cons y ys =>
      simp only [Canonical.list, Canonical.item.injEq] at h
      rw [h.1, ih h.2]

theorem Canonical.dict_injective : Function.Injective Canonical.dict := by
  intro a
  induction a with
  | nil =>
    intro b h
    cases b with
    | nil => rfl
    | cons entry rest => exact absurd h nofun
  | cons entry rest ih =>
    intro b h
    cases b with
    | nil => exact absurd h nofun
    | cons entry' rest' =>
      simp only [Canonical.dict, Canonical.entry.injEq] at h
      obtain ⟨hkey, hvalue, hrest⟩ := h
      rw [ih hrest, Prod.ext hkey hvalue]

def Hashing.plain : Hashing where
  canonicalHash value := String.ofList value.text
  stableId tag parts := String.ofList (tag.toList ++ '_' :: (Canonical.list parts).text)

theorem Hashing.plain_noCollision : Hashing.plain.NoCollision := by
  intro tag parts parts' h
  have htext := append_cancel_left (String.ofList_injective h)
  rw [List.cons.injEq] at htext
  refine Canonical.list_injective (Canonical.text_append_inj (r := []) (s := []) ?_).1
  simpa using htext.2

theorem Hashing.plain_injective : Function.Injective Hashing.plain.canonicalHash := by
  intro a b h
  refine (Canonical.text_append_inj (r := []) (s := []) ?_).1
  simpa using String.ofList_injective h

def Hashing.readable : Hashing := ⟨Hashing.json.canonicalHash, Hashing.plain.stableId⟩

theorem Hashing.readable_noCollision : Hashing.readable.NoCollision :=
  fun tag parts parts' h => Hashing.plain_noCollision tag parts parts' h

def Hashing.nested : Hashing where
  canonicalHash := Hashing.short.canonicalHash
  stableId tag parts :=
    match parts with
    | [.str name] => tag ++ ("=" ++ name)
    | parts => Hashing.plain.stableId tag parts

theorem Hashing.plain_ne_nested (tag name : String) (parts : List Canonical) :
    Hashing.plain.stableId tag parts ≠ tag ++ ("=" ++ name) := by
  intro h
  have htext := congrArg String.toList h
  simp [Hashing.plain, String.toList_append] at htext

theorem Hashing.nested_noCollision : Hashing.nested.NoCollision := by
  intro tag parts parts' h
  simp only [Hashing.nested] at h
  split at h <;> split at h
  · rename_i name _ name'
    have htext := congrArg String.toList h
    simp only [String.toList_append, append_cancel_left_eq] at htext
    rw [String.toList_injective htext]
  · exact absurd h.symm (Hashing.plain_ne_nested _ _ _)
  · exact absurd h (Hashing.plain_ne_nested _ _ _)
  · exact Hashing.plain_noCollision tag _ _ h

/-- Neither names nor digests collide, whatever their prefixes. -/
structure Hashing.Injective (hash : Hashing) : Prop where
  names : ∀ {tag tag' parts parts'}, hash.stableId tag parts = hash.stableId tag' parts' →
    tag = tag' ∧ parts = parts'
  digests : Function.Injective hash.canonicalHash

def Hashing.marked : Hashing where
  canonicalHash := Hashing.plain.canonicalHash
  stableId tag parts := String.ofList (markedText tag.toList ++ (Canonical.list parts).text)

theorem Hashing.marked_injective : Hashing.marked.Injective where
  names h := by
    obtain ⟨htag, hparts⟩ := markedText_append_inj (String.ofList_injective h)
    refine ⟨String.toList_injective htag, Canonical.list_injective ?_⟩
    exact (Canonical.text_append_inj (congrArg (· ++ []) hparts)).1
  digests := Hashing.plain_injective

end AdaptiveQuant
