import ScanRoster.Decimal.Reading
import ScanRoster.Json.Value
import ScanRoster.Yaml.Cursor
import ScanRoster.Yaml.Scalar

/-!
# YAML texts

Values written in the block style of YAML. A text is written plainly where it reads back as this
text, and is quoted or written as a block of lines where it would not.
-/

namespace ScanRoster.Yaml

/-- Whether a character may stand in a text without being escaped. -/
def isPrintable (c : Char) : Bool :=
  let n := c.toNat
  n == 0xA || (0x20 ≤ n && n ≤ 0x7E) ||
    (0xA0 ≤ n && n != 0xFEFF && n != 0xFFFE && n != 0xFFFF)

/-- Whether a text spells a finite number, an infinity or the number that is none. -/
def isFloatWord (s : String) : Bool :=
  let unsigned := if s.toList.head? == some '+' then String.ofList (s.toList.drop 1) else s
  [".inf", ".Inf", ".INF"].contains unsigned ||
    ["-.inf", "-.Inf", "-.INF", ".nan", ".NaN", ".NAN"].contains s ||
    match Decimal.ofText? s.toList with
    | some (_, d) =>
      match Decimal.Binary.ofBits (d.toBits false) with
      | .finite _ _ _ => true
      | _ => false
    | none => false

/-- Whether a text spells a whole number of at most 128 bits. -/
def isIntegerWord (s : String) : Bool :=
  match integer? s with
  | some n => -0x80000000000000000000000000000000 ≤ n ∧ n < 0x100000000000000000000000000000000
  | none => false

/-- Whether a text, written plainly, would not be read as this text. -/
def isReserved (s : String) : Bool :=
  s.isEmpty || isNullWord s || (flagWord? s).isSome || isIntegerWord s || isFloatWord s ||
    isZeroLed s.toList

/-- Whether two neighbours somewhere in a text satisfy a condition. -/
def hasNeighbours (p : Char → Char → Bool) : List Char → Bool
  | a :: b :: rest => p a b || hasNeighbours p (b :: rest)
  | _ => false

/-- Whether a text starts with a mark of the notation. -/
def startsWithMark : List Char → Bool
  | '-' :: '-' :: '-' :: _ | '.' :: '.' :: '.' :: _ => true
  | c :: rest =>
    "#,[]\x7b\x7d&*!|>'\"%@".toList.contains c || c.toNat == 0x60 ||
      ((c == '?' || c == ':' || c == '-') && gapAhead rest)
  | [] => false

/-- Whether a colon before a gap or a number sign after a gap stands inside a text. -/
def hasInnerMark : List Char → Bool
  | a :: b :: rest =>
    (b == ':' && gapAhead rest) || (isGap a && b == '#') || hasInnerMark (b :: rest)
  | _ => false

/-- Whether a text may be written plainly, as far as its characters go. -/
def allowsPlain (s : List Char) : Bool :=
  let edge (c : Option Char) : Bool := c.any fun c => c == ' ' || isBreak c
  !(edge s.head? || edge s.getLast? || s.any isBreak || startsWithMark s || hasInnerMark s)

/-- Whether every character can be written as it is, and no line ends with a space. -/
def allowsVerbatim (s : List Char) : Bool :=
  s.all isPrintable && !hasNeighbours (fun a b => a == ' ' && isBreak b) s

/-- Whether a text may be written between single quotes. -/
def allowsSingleQuotes (s : List Char) : Bool :=
  allowsVerbatim s && !hasNeighbours (fun a b => isBreak a && b == ' ') s

/-- Whether a text may be written as a block of lines. -/
def allowsLiteral (s : List Char) : Bool :=
  allowsVerbatim s && s.getLast? != some ' '

/-- The style in which a text is written. -/
def styleOf (s : String) : ScalarStyle :=
  let cs := s.toList
  if cs.contains '\n' then
    if allowsLiteral cs then .literal else .doubleQuoted
  else if !isReserved s && allowsVerbatim cs && allowsPlain cs then .plain
  else if allowsSingleQuotes cs then .singleQuoted
  else .doubleQuoted

/-- Lines of a text, each line but an empty one indented. `fresh` tells whether a line starts
here. -/
def indented (indent : Nat) (fresh : Bool) : List Char → List Char
  | [] => []
  | c :: rest =>
    if isBreak c then c :: indented indent true rest
    else
      (if fresh then List.replicate indent ' ' else []) ++ c :: indented indent false rest

/-- A digit of a hexadecimal number. -/
def hexDigit (n : Nat) : Char :=
  (Nat.digitChar (n % 16)).toUpper

/-- So many hexadecimal digits of a number. -/
def hexDigits (count n : Nat) : List Char :=
  (List.range count).reverse.map fun i => hexDigit (n / Nat.pow 16 i)

/-- A character between double quotes. -/
def encodeChar (c : Char) : List Char :=
  let n := c.toNat
  if n == 0x22 || n == 0x5C then ['\\', c]
  else if isPrintable c && !isBreak c then [c]
  else if n == 0 then ['\\', '0']
  else if 7 ≤ n && n ≤ 0xD then ['\\', "abtnvfr".toList.getD (n - 7) 'a']
  else if n == 0x1B then ['\\', 'e']
  else if n == 0x85 then ['\\', 'N']
  else if n == 0x2028 then ['\\', 'L']
  else if n == 0x2029 then ['\\', 'P']
  else if n ≤ 0xFF then '\\' :: 'x' :: hexDigits 2 n
  else if n ≤ 0xFFFF then '\\' :: 'u' :: hexDigits 4 n
  else '\\' :: 'U' :: hexDigits 8 n

/-- What stands after the bar of a block of lines: the indentation where the first line does not
show it, and a sign where the text does not end with exactly one line break. -/
def literalHints (s : List Char) : List Char :=
  let indentation := if s.head?.any fun c => c == ' ' || isBreak c then ['2'] else []
  let ending :=
    match s.reverse with
    | a :: before =>
      if !isBreak a then ['-']
      else if before.head?.all isBreak then ['+']
      else []
    | [] => ['-']
  indentation ++ ending

/-- A text with the line break after it. Further lines are indented. -/
def textLine (indent : Nat) (s : String) : List Char :=
  let cs := s.toList
  match styleOf s with
  | .literal =>
    '|' :: literalHints cs ++ '\n' :: indented indent true cs ++
      (if cs.getLast?.any isBreak then [] else ['\n'])
  | .doubleQuoted => '"' :: cs.flatMap encodeChar ++ ['"', '\n']
  | .singleQuoted =>
    let body := indented indent false cs
    let ending := if cs.getLast?.any isBreak then List.replicate indent ' ' else []
    '\'' :: (body ++ ending).flatMap (fun c => if c == '\'' then [c, c] else [c]) ++ ['\'', '\n']
  | _ => cs ++ ['\n']

mutual

/-- A value that starts on the current line. Its further lines are indented. -/
def node (indent : Nat) : Json → List Char
  | .arr (v :: rest) => '-' :: ' ' :: (node (indent + 2) v ++ furtherItems indent rest)
  | .obj ((k, v) :: rest) => field indent k v ++ furtherFields indent rest
  | .str s => textLine (max indent 2) s
  | .arr [] => ['[', ']', '\n']
  | .obj [] => ['\x7b', '\x7d', '\n']
  | .null => Json.compact .null ++ ['\n']
  | .bool b => Json.compact (.bool b) ++ ['\n']
  | .num n => n.text ++ ['\n']

/-- A field. A list stands at the indentation of its name, and a value with fields further in. -/
def field (indent : Nat) (name : String) : Json → List Char
  | .arr (v :: rest) =>
    name.toList ++ ':' :: '\n' :: List.replicate indent ' ' ++
      '-' :: ' ' :: (node (indent + 2) v ++ furtherItems indent rest)
  | .obj ((k, v) :: rest) =>
    name.toList ++ ':' :: '\n' :: List.replicate (indent + 2) ' ' ++
      (field (indent + 2) k v ++ furtherFields (indent + 2) rest)
  | .str s => name.toList ++ ':' :: ' ' :: textLine (indent + 2) s
  | .arr [] => name.toList ++ [':', ' ', '[', ']', '\n']
  | .obj [] => name.toList ++ [':', ' ', '\x7b', '\x7d', '\n']
  | .null => name.toList ++ ':' :: ' ' :: Json.compact .null ++ ['\n']
  | .bool b => name.toList ++ ':' :: ' ' :: Json.compact (.bool b) ++ ['\n']
  | .num n => name.toList ++ ':' :: ' ' :: n.text ++ ['\n']

/-- Further items of a list. -/
def furtherItems (indent : Nat) : List Json → List Char
  | [] => []
  | v :: rest =>
    List.replicate indent ' ' ++ '-' :: ' ' :: (node (indent + 2) v ++ furtherItems indent rest)

/-- Further fields of a value. -/
def furtherFields (indent : Nat) : List (String × Json) → List Char
  | [] => []
  | (k, v) :: rest => List.replicate indent ' ' ++ (field indent k v ++ furtherFields indent rest)

end

/-- The YAML text of a value. The names of its fields are written plainly. -/
def write (v : Json) : String :=
  String.ofList (node 0 v)

end ScanRoster.Yaml
