/-!
# Places in a YAML text

A cursor is the rest of a text with the place where it starts. Lines end with the breaks of YAML
1.1, which include three characters beyond ASCII.
-/

namespace ScanRoster.Yaml

/-- Whether a character ends a line. -/
def isBreak (c : Char) : Bool :=
  c == '\n' || c == '\r' || c.toNat == 0x85 || c.toNat == 0x2028 || c.toNat == 0x2029

/-- A space or a tab. -/
def isBlank (c : Char) : Bool :=
  c == ' ' || c == '\t'

/-- A blank or the end of a line. -/
def isGap (c : Char) : Bool :=
  isBlank c || isBreak c

/-- Characters of anchors and of the names in tags and directives. -/
def isNameChar (c : Char) : Bool :=
  c.isAlphanum || c == '_' || c == '-'

/-- Whether a text may be part of a YAML stream at all. -/
def isAllowed (c : Char) : Bool :=
  let n := c.toNat
  n == 0x9 || n == 0xA || n == 0xD || (0x20 ≤ n && n ≤ 0x7E) || n == 0x85 ||
    (0xA0 ≤ n && n ≤ 0xD7FF) || (0xE000 ≤ n && n ≤ 0xFFFD) || 0x10000 ≤ n

/-- Whether a text starts with a gap or has ended. -/
def gapAhead : List Char → Bool
  | [] => true
  | c :: _ => isGap c

/-- Whether a text starts with a blank. -/
def blankAhead : List Char → Bool
  | [] => false
  | c :: _ => isBlank c

/-- Whether a line starts with a mark between documents. -/
def documentMark (mark : Char) : List Char → Bool
  | a :: b :: c :: rest => a == mark && b == mark && c == mark && gapAhead rest
  | _ => false

/-- The rest of a text and the place where it starts. -/
structure Cursor where
  rest : List Char
  index : Nat
  line : Nat
  column : Nat

namespace Cursor

/-- The start of a text. -/
def start (text : List Char) : Cursor :=
  ⟨text, 0, 0, 0⟩

/-- Moves on within a line. -/
def skip (c : Cursor) (n : Nat) : Cursor :=
  ⟨c.rest.drop n, c.index + n, c.line, c.column + n⟩

/-- Moves on over the characters of a class, which holds no line ends. -/
def span (c : Cursor) (p : Char → Bool) : List Char × Cursor :=
  let taken := c.rest.takeWhile p
  (taken, c.skip taken.length)

/-- Moves on over the characters of a class. -/
def dropWhile (c : Cursor) (p : Char → Bool) : Cursor :=
  (c.span p).2

/-- Takes the end of a line. What it is read as comes with the next line. -/
def lineEnd? (c : Cursor) : Option (List Char × Cursor) :=
  match c.rest with
  | '\r' :: '\n' :: rest => some (['\n'], ⟨rest, c.index + 2, c.line + 1, 0⟩)
  | b :: rest =>
    if b.toNat == 0x2028 || b.toNat == 0x2029 then some ([b], ⟨rest, c.index + 1, c.line + 1, 0⟩)
    else if isBreak b then some (['\n'], ⟨rest, c.index + 1, c.line + 1, 0⟩)
    else none
  | [] => none

/-- Whether the line starts with a mark between documents. -/
def atDocumentMark (c : Cursor) : Bool :=
  c.column == 0 && (documentMark '-' c.rest || documentMark '.' c.rest)

/-- Takes the blanks and a comment up to the end of a line, which must come then. -/
def finishLine? (c : Cursor) : Option Cursor :=
  let c := c.dropWhile isBlank
  let c := if c.rest.head? = some '#' then c.dropWhile (!isBreak ·) else c
  if c.rest.isEmpty then some c else (c.lineEnd?).map (·.2)

end Cursor

end ScanRoster.Yaml
