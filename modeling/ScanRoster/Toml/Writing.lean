import ScanRoster.Toml.Value

/-!
# TOML texts written

A text is written in the plainest of the four forms that can hold it: between quotation marks,
between apostrophes, and the same for several lines; where none can, with escapes.
-/

namespace ScanRoster.Toml

/-- Characters that only an escape can stand for. -/
def needsCode (c : Char) : Bool :=
  (c.toNat < 0x20 && c != '\t' && c != '\n') || c.toNat == 0x7F

/-- The longest run of a character. `here` is the length of the run at hand. -/
def longestRun (x : Char) (here : Nat) : List Char → Nat
  | [] => here
  | c :: rest => if c = x then longestRun x (here + 1) rest else max here (longestRun x 0 rest)

/-- An escape for a character. -/
def encodeEscape (c : Char) : List Char :=
  if c == '\x08' then ['\\', 'b']
  else if c == '\t' then ['\\', 't']
  else if c == '\n' then ['\\', 'n']
  else if c == '\x0c' then ['\\', 'f']
  else if c == '\r' then ['\\', 'r']
  else if c == '"' then ['\\', '"']
  else if c == '\\' then ['\\', '\\']
  else
    let digits := (Nat.toDigits 16 c.toNat).map Char.toUpper
    ['\\', 'u'] ++ List.replicate (4 - digits.length) '0' ++ digits

/-- The inside of a text between quotation marks. In a text of several lines a line end stands
for itself, and so do quotation marks, but not a third one in a row. `quotes` counts those
directly before. -/
def encodeBasic (many : Bool) (quotes : Nat) : List Char → List Char
  | [] => []
  | c :: rest =>
    if c = '"' then
      if many && quotes < 2 then '"' :: encodeBasic many (quotes + 1) rest
      else encodeEscape c ++ encodeBasic many 0 rest
    else if c = '\\' || c = '\t' || needsCode c || (c = '\n' && !many) then
      encodeEscape c ++ encodeBasic many 0 rest
    else c :: encodeBasic many 0 rest

/-- A text between marks, on lines of its own if it has several lines. -/
def between (mark : List Char) (many : Bool) (inside : List Char) : List Char :=
  mark ++ (if many then ['\n'] else []) ++ inside ++ mark

/-- A text as a TOML value. -/
def encodeText (s : List Char) : List Char :=
  let codes := s.any needsCode
  let escape := s.any (· == '\\')
  let newline := s.any (· == '\n')
  let quotes := longestRun '"' 0 s
  let apostrophes := longestRun '\'' 0 s
  if !escape && !codes && quotes = 0 && !newline then
    between ['"'] false (encodeBasic false 0 s)
  else if !codes && apostrophes = 0 && !newline then between ['\''] false s
  else if !escape && !codes && quotes ≤ 2 then
    between ['"', '"', '"'] newline (encodeBasic true 0 s)
  else if !codes && apostrophes ≤ 2 then between ['\'', '\'', '\''] newline s
  else if newline then between ['"', '"', '"'] true (encodeBasic true 0 s)
  else between ['"'] false (encodeBasic false 0 s)

/-- A line that gives a key its value. -/
def encodeField (key : String) (value : List Char) : List Char :=
  key.toList ++ [' ', '=', ' '] ++ value ++ ['\n']

/-- A table: its header and its fields. -/
def encodeTable (name : String) (fields : List (String × List Char)) : List Char :=
  '[' :: name.toList ++ [']', '\n'] ++ fields.flatMap fun (k, v) => encodeField k v

/-- A flag. -/
def encodeFlag (b : Bool) : List Char :=
  (if b then "true" else "false").toList

end ScanRoster.Toml
