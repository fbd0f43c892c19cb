import ScanRoster.Text.Lowercase.Table

/-!
# Lower case

Full lower-casing of a text: each letter by its mapping, `İ` as two characters, and a capital
sigma at the end of a word as the final small sigma.
-/

namespace ScanRoster.Text

/-- Whether a code point lies in one of the runs. -/
def inRuns (runs : List (Nat × Nat)) (c : Char) : Bool :=
  runs.any fun (first, last) => first ≤ c.toNat && c.toNat ≤ last

namespace Lowercase

/-- Whether a character is a letter with case. -/
def isCased (c : Char) : Bool :=
  inRuns casedRuns c

/-- Whether a character does not count when neighbours of a letter are looked for. -/
def isIgnorable (c : Char) : Bool :=
  inRuns ignorableRuns c

/-- The lower-case form of one character on its own. -/
def single (c : Char) : Char :=
  let n := c.toNat
  match shifts.find? fun (first, last, step, _) =>
      first ≤ n && n ≤ last && (n - first) % step == 0 with
  | some (_, _, _, shift) => Char.ofNat (n + shift).toNat
  | none => c

/-- Whether the nearest character that counts is a letter with case. -/
def meetsCased (neighbours : List Char) : Bool :=
  match neighbours.dropWhile isIgnorable with
  | [] => false
  | c :: _ => isCased c

/-- Lower-cases a text whose beginning, read backwards, is `before`. A sigma ends a word when a
letter with case comes before it and none comes after it. -/
def go (before : List Char) : List Char → List Char
  | [] => []
  | c :: rest =>
    let low :=
      if c.toNat < 0x80 then [c.toLower]
      else if c == 'Σ' then
        [if meetsCased before && !meetsCased rest then 'ς' else 'σ']
      else if c == 'İ' then ['i', '\u0307']
      else [single c]
    low ++ go (c :: before) rest

end Lowercase

/-- A text in lower case. -/
def lowercase (s : List Char) : List Char :=
  Lowercase.go [] s

end ScanRoster.Text
