import ScanRoster.Document.JsonText
import ScanRoster.Json.Value

/-!
# Texts of JSON values

A value can be written in many ways: with blanks between its parts, and with escapes in its strings.
`IsText` says which texts these are.
-/

namespace ScanRoster.Json

open Document

/-! ## Values as documents -/

mutual

/-- A value as a document. -/
def document : Json → Document
  | .null => .null
  | .bool b => .flag b
  | .num n => .number n
  | .str s => .text s
  | .arr items => .list (documents items) .closed
  | .obj fields => .object (documentFields fields) .closed

/-- The items of a list as documents. -/
def documents : List Json → List Document
  | [] => []
  | v :: rest => document v :: documents rest

/-- The fields of an object as fields of a document. -/
def documentFields : List (String × Json) → List (Document × Document)
  | [] => []
  | (k, v) :: rest => (.text k, document v) :: documentFields rest

end

theorem documents_eq_map (items : List Json) : documents items = items.map document := by
  induction items with
  | nil => rfl
  | cons v items ih => rw [documents, ih, List.map_cons]

/-! ## How values are written -/

open JsonText

/-- Nothing but blanks. -/
def IsGap (s : List Char) : Prop :=
  ∀ c ∈ s, isBlank c = true

/-- What stands between the quotation marks of a string, and the string. -/
inductive SpelledText : List Char → List Char → Prop
  | nil : SpelledText [] []
  | plain {c : Char} {body text : List Char} (hquote : c ≠ '"') (hescape : c ≠ '\\')
      (hcontrol : 0x20 ≤ c.toNat) (h : SpelledText body text) :
      SpelledText (c :: body) (c :: text)
  | escape {e c : Char} {body text : List Char} (he : escaped? e = some c)
      (h : SpelledText body text) : SpelledText ('\\' :: e :: body) (c :: text)
  | unit {a b c d : Char} {n : Nat} {body text : List Char} (hn : unit? a b c d = some n)
      (hwhole : n < 0xD800 ∨ 0xDFFF < n) (h : SpelledText body text) :
      SpelledText ('\\' :: 'u' :: a :: b :: c :: d :: body) (Char.ofNat n :: text)
  | pair {a b c d a' b' c' d' : Char} {n m : Nat} {body text : List Char}
      (hn : unit? a b c d = some n) (hleading : 0xD800 ≤ n ∧ n ≤ 0xDBFF)
      (hm : unit? a' b' c' d' = some m) (htrailing : 0xDC00 ≤ m ∧ m ≤ 0xDFFF)
      (h : SpelledText body text) :
      SpelledText
        ('\\' :: 'u' :: a :: b :: c :: d :: '\\' :: 'u' :: a' :: b' :: c' :: d' :: body)
        (Char.ofNat (0x10000 + (n - 0xD800) * 0x400 + (m - 0xDC00)) :: text)

/-- A number as it is written. The exponent has its letter, its sign and its digits. -/
structure NumberForm where
  negative : Bool
  whole : List Char
  fraction : Option (List Char)
  exponent : Option (Char × List Char × List Char)

namespace NumberForm

/-- The text of the exponent. -/
def exponentText (f : NumberForm) : List Char :=
  f.exponent.elim [] fun e => e.1 :: (e.2.1 ++ e.2.2)

/-- The text of the fraction. -/
def fractionText (f : NumberForm) : List Char :=
  f.fraction.elim [] ('.' :: ·)

/-- The text of a number. -/
def text (f : NumberForm) : List Char :=
  (if f.negative then ['-'] else []) ++ (f.whole ++ (f.fractionText ++ f.exponentText))

/-- The parts of a number. -/
def numeral (f : NumberForm) : Numeral :=
  ⟨f.negative, f.whole, f.fraction, f.exponent.map fun e =>
    if e.2.1 = ['-'] then -(natural e.2.2 : Int) else natural e.2.2⟩

/-- There are digits in each part, and no zero stands before other digits. -/
structure IsValid (f : NumberForm) : Prop where
  whole : f.whole ≠ [] ∧ ∀ c ∈ f.whole, c.isDigit = true
  noLeadingZero : ∀ rest, f.whole = '0' :: rest → rest = []
  fraction : ∀ digits, f.fraction = some digits → digits ≠ [] ∧ ∀ c ∈ digits, c.isDigit = true
  exponent : ∀ e sign digits, f.exponent = some (e, sign, digits) →
    (e = 'e' ∨ e = 'E') ∧ (sign = [] ∨ sign = ['+'] ∨ sign = ['-']) ∧ digits ≠ [] ∧
      ∀ c ∈ digits, c.isDigit = true

end NumberForm

/-- A part of a text: a value, the items of a list, a field or the fields of an object. -/
inductive Part
  | value (v : Json)
  | items (vs : List Json)
  | field (k : String) (v : Json)
  | fields (fs : List (String × Json))

/-- How a part may be written. The items of a list and the fields of an object are written with what
closes them. -/
inductive Spelled : Part → List Char → Prop
  | null : Spelled (.value .null) ['n', 'u', 'l', 'l']
  | yes : Spelled (.value (.bool true)) ['t', 'r', 'u', 'e']
  | no : Spelled (.value (.bool false)) ['f', 'a', 'l', 's', 'e']
  | number {f : NumberForm} {x : Number} (hf : f.IsValid)
      (hvalue : f.numeral.value = .number x) : Spelled (.value (.num x)) f.text
  | text {body text : List Char} (h : SpelledText body text) :
      Spelled (.value (.str (String.ofList text))) ('"' :: (body ++ ['"']))
  | emptyList {gap : List Char} (hgap : IsGap gap) :
      Spelled (.value (.arr [])) ('[' :: (gap ++ [']']))
  | list {vs : List Json} {gap s : List Char} (hgap : IsGap gap) (h : Spelled (.items vs) s) :
      Spelled (.value (.arr vs)) ('[' :: (gap ++ s))
  | emptyObject {gap : List Char} (hgap : IsGap gap) :
      Spelled (.value (.obj [])) ('\x7b' :: (gap ++ ['\x7d']))
  | object {fs : List (String × Json)} {gap s : List Char} (hgap : IsGap gap)
      (h : Spelled (.fields fs) s) : Spelled (.value (.obj fs)) ('\x7b' :: (gap ++ s))
  | lastItem {v : Json} {s gap : List Char} (h : Spelled (.value v) s) (hgap : IsGap gap) :
      Spelled (.items [v]) (s ++ (gap ++ [']']))
  | moreItems {v : Json} {vs : List Json} {s gap gap' t : List Char} (h : Spelled (.value v) s)
      (hgap : IsGap gap) (hgap' : IsGap gap') (ht : Spelled (.items vs) t) :
      Spelled (.items (v :: vs)) (s ++ (gap ++ ',' :: (gap' ++ t)))
  | field {body text gap gap' s : List Char} {v : Json} (hk : SpelledText body text)
      (hgap : IsGap gap) (hgap' : IsGap gap') (h : Spelled (.value v) s) :
      Spelled (.field (String.ofList text) v)
        ('"' :: (body ++ '"' :: (gap ++ ':' :: (gap' ++ s))))
  | lastField {k : String} {v : Json} {s gap : List Char} (h : Spelled (.field k v) s)
      (hgap : IsGap gap) : Spelled (.fields [(k, v)]) (s ++ (gap ++ ['\x7d']))
  | moreFields {k : String} {v : Json} {fs : List (String × Json)} {s gap gap' t : List Char}
      (h : Spelled (.field k v) s) (hgap : IsGap gap) (hgap' : IsGap gap')
      (ht : Spelled (.fields fs) t) :
      Spelled (.fields ((k, v) :: fs)) (s ++ (gap ++ ',' :: (gap' ++ t)))

/-- A text is a value with blanks around it. -/
def IsText (v : Json) (text : String) : Prop :=
  ∃ before s after, IsGap before ∧ IsGap after ∧ Spelled (.value v) s ∧
    text.toList = before ++ (s ++ after)

end ScanRoster.Json
