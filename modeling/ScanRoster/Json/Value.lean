import ScanRoster.Decimal.Shortest
import ScanRoster.Text.Quoted

/-!
# JSON values

JSON values with the fields of an object in their order, and their two texts: compact, and
indented by two spaces.
-/

namespace ScanRoster

/-- A number: a whole one, or a floating-point number by its bits. -/
inductive Number
  | whole (n : Int)
  | real (bits : UInt64)
  deriving DecidableEq, Repr

/-- A JSON value. -/
inductive Json
  | null
  | bool (b : Bool)
  | num (n : Number)
  | str (s : String)
  | arr (items : List Json)
  | obj (fields : List (String × Json))

namespace Number

/-- Floating-point numbers are positional from 1e-5 up to sixteen digits before the point. -/
def layout : Decimal.Layout :=
  ⟨-5, 15, true, true⟩

/-- The text of a number. -/
def text : Number → List Char
  | .whole n => (toString n).toList
  | .real bits => layout.ofBits bits

end Number

namespace Json

/-- A whole number. -/
def int (n : Int) : Json :=
  .num (.whole n)

/-- A value that may be missing. -/
def ofOption {α : Type} (f : α → Json) : Option α → Json
  | none => .null
  | some a => f a

/-- A character inside a JSON string. Quotation marks, backslashes and controls are escaped. -/
def encodeChar (c : Char) : List Char :=
  if c == '"' then ['\\', '"']
  else if c == '\\' then ['\\', '\\']
  else if 0x20 ≤ c.toNat then [c]
  else if c == '\n' then ['\\', 'n']
  else if c == '\t' then ['\\', 't']
  else if c == '\r' then ['\\', 'r']
  else if c.toNat == 8 then ['\\', 'b']
  else if c.toNat == 12 then ['\\', 'f']
  else ['\\', 'u', '0', '0', Nat.digitChar (c.toNat / 16), Nat.digitChar (c.toNat % 16)]

/-- A JSON string. -/
def encodeString (s : String) : List Char :=
  '"' :: s.toList.flatMap encodeChar ++ ['"']

mutual

/-- The text of a value without spaces between its parts. -/
def compact : Json → List Char
  | .null => ['n', 'u', 'l', 'l']
  | .bool true => ['t', 'r', 'u', 'e']
  | .bool false => ['f', 'a', 'l', 's', 'e']
  | .num n => n.text
  | .str s => encodeString s
  | .arr [] => ['[', ']']
  | .arr (v :: rest) => '[' :: (compact v ++ compactItems rest)
  | .obj [] => ['\x7b', '\x7d']
  | .obj ((k, v) :: rest) => '\x7b' :: (encodeString k ++ ':' :: (compact v ++ compactFields rest))

/-- Further items of a list, up to its end. -/
def compactItems : List Json → List Char
  | [] => [']']
  | v :: rest => ',' :: (compact v ++ compactItems rest)

/-- Further fields of an object, up to its end. -/
def compactFields : List (String × Json) → List Char
  | [] => ['\x7d']
  | (k, v) :: rest => ',' :: (encodeString k ++ ':' :: (compact v ++ compactFields rest))

end

/-- A line break and the spaces of an indentation level. -/
def newline (level : Nat) : List Char :=
  '\n' :: List.replicate (2 * level) ' '

mutual

/-- The text of a value with each part on a line of its own. -/
def pretty (level : Nat) : Json → List Char
  | .arr (v :: rest) =>
    '[' :: newline (level + 1) ++ (pretty (level + 1) v ++ prettyItems level rest)
  | .obj ((k, v) :: rest) =>
    '\x7b' :: newline (level + 1) ++
      (encodeString k ++ [':', ' '] ++ pretty (level + 1) v ++ prettyFields level rest)
  | .arr [] => ['[', ']']
  | .obj [] => ['\x7b', '\x7d']
  | .null => compact .null
  | .bool b => compact (.bool b)
  | .num n => n.text
  | .str s => encodeString s

/-- Further items of an indented list, up to its end. -/
def prettyItems (level : Nat) : List Json → List Char
  | [] => newline level ++ [']']
  | v :: rest => ',' :: newline (level + 1) ++ (pretty (level + 1) v ++ prettyItems level rest)

/-- Further fields of an indented object, up to its end. -/
def prettyFields (level : Nat) : List (String × Json) → List Char
  | [] => newline level ++ ['\x7d']
  | (k, v) :: rest =>
    ',' :: newline (level + 1) ++
      (encodeString k ++ [':', ' '] ++ pretty (level + 1) v ++ prettyFields level rest)

end

/-- The compact text of a value. -/
def compactText (v : Json) : String :=
  String.ofList v.compact

/-- The indented text of a value. -/
def prettyText (v : Json) : String :=
  String.ofList (v.pretty 0)

end Json

end ScanRoster
