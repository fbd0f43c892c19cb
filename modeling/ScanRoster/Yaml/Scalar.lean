/-!
# YAML scalars

A scalar is its text, the style it was written in and its tag. An untagged plain scalar may
stand for nothing, a flag or a number; these are the spellings of the core schema.
-/

namespace ScanRoster.Yaml

/-- How a scalar is written. -/
inductive ScalarStyle
  | plain
  | singleQuoted
  | doubleQuoted
  | literal
  | folded
  deriving DecidableEq, Repr

/-- A scalar of a YAML document. -/
structure Scalar where
  text : String
  style : ScalarStyle
  tag : Option String
  deriving DecidableEq, Repr

/-- The tag of the core schema with the given short name. -/
def coreTag (name : String) : String :=
  "tag:yaml.org,2002:" ++ name

/-- The spellings of nothing, the empty text apart. -/
def isNullWord (s : String) : Bool :=
  s == "null" || s == "Null" || s == "NULL" || s == "~"

/-- The flag that a text spells. -/
def flagWord? (s : String) : Option Bool :=
  if s == "true" || s == "True" || s == "TRUE" then some true
  else if s == "false" || s == "False" || s == "FALSE" then some false
  else none

/-- The value of a digit of a base up to sixteen. -/
def digitValue? (base : Nat) (c : Char) : Option Nat :=
  let n := c.toNat
  let v :=
    if '0'.toNat ≤ n && n ≤ '9'.toNat then n - '0'.toNat
    else if 'a'.toNat ≤ n && n ≤ 'f'.toNat then n - 'a'.toNat + 10
    else if 'A'.toNat ≤ n && n ≤ 'F'.toNat then n - 'A'.toNat + 10
    else 16
  if v < base then some v else none

/-- The number that a non-empty run of digits stands for. -/
def digits? (base : Nat) (s : List Char) : Option Nat :=
  if s.isEmpty then none
  else s.foldlM (fun acc c => (digitValue? base c).map (acc * base + ·)) 0

/-- Digits after an optional minus. -/
def signedDigits? (base : Nat) : List Char → Option Int
  | '-' :: rest => (digits? base rest).map fun n => -(n : Int)
  | s => (digits? base s).map fun n => (n : Int)

/-- Whether a text starts with a sign. -/
def startsWithSign : List Char → Bool
  | '+' :: _ | '-' :: _ => true
  | _ => false

/-- The text without a sign at its start. -/
def dropSign : List Char → List Char
  | '+' :: rest | '-' :: rest => rest
  | s => s

/-- Several digits of which the first is zero are a text and no number. -/
def isZeroLed (s : List Char) : Bool :=
  match dropSign s with
  | '0' :: rest => !rest.isEmpty && rest.all Char.isDigit
  | _ => false

/-- The base that a two-letter start announces, with what follows it. -/
def basePrefix? : List Char → Option (Nat × List Char)
  | '0' :: 'x' :: rest => some (16, rest)
  | '0' :: 'o' :: rest => some (8, rest)
  | '0' :: 'b' :: rest => some (2, rest)
  | _ => none

/-- The number that a text spells, of either sign. -/
def integer? (text : String) : Option Int :=
  let s := text.toList
  let positive :=
    match s with
    | '+' :: rest => if startsWithSign rest then none else some rest
    | _ => some s
  match positive with
  | none => none
  | some t =>
    let based :=
      match t with
      | '-' :: u =>
        match basePrefix? u with
        | some (base, digits) => (digits? base digits).map fun n => -(n : Int)
        | none => none
      | _ =>
        match basePrefix? t with
        | some (base, digits) => (digits? base digits).map fun n => (n : Int)
        | none => none
    match based with
    | some n => some n
    | none => if isZeroLed s then none else signedDigits? 10 t

end ScanRoster.Yaml
