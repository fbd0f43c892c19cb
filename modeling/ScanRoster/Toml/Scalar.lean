import ScanRoster.Toml.Value

/-!
# TOML scalars

Texts, numbers and times as they are written in a TOML document. Each reader takes what it reads
from the start of a text and returns the rest, or nothing where the text is malformed.
-/

namespace ScanRoster.Toml

/-- A space or a tab. -/
def isBlank (c : Char) : Bool :=
  c == ' ' || c == '\t'

/-- Characters of comments and literal texts: no controls but the tab. -/
def isPlain (c : Char) : Bool :=
  c == '\t' || (0x20 ≤ c.toNat && c.toNat ≠ 0x7F)

/-- The end of a line. -/
def lineEnd? : List Char → Option (List Char)
  | '\n' :: rest => some rest
  | '\r' :: '\n' :: rest => some rest
  | _ => none

/-- The value of a hexadecimal digit. -/
def hexDigit? (c : Char) : Option Nat :=
  if c.isDigit then some (c.toNat - '0'.toNat)
  else if 'a' ≤ c && c ≤ 'f' then some (c.toNat - 'a'.toNat + 10)
  else if 'A' ≤ c && c ≤ 'F' then some (c.toNat - 'A'.toNat + 10)
  else none

/-- The number that digits of a base stand for. -/
def number? (base : Nat) (digits : List Char) : Option Nat :=
  digits.foldlM
    (fun n c => do
      let d ← hexDigit? c
      if d < base then some (base * n + d) else none)
    0

/-- The character that so many hexadecimal digits give. -/
def codeEscape? (digits : Nat) (s : List Char) : Option (Char × List Char) :=
  if s.length < digits then none
  else
    match number? 16 (s.take digits) with
    | none => none
    | some n =>
      if h : n.isValidChar then some (Char.ofNatAux n h, s.drop digits) else none

/-- The character of an escape, the backslash apart. -/
def escape? : List Char → Option (Char × List Char)
  | 'b' :: rest => some ('\x08', rest)
  | 't' :: rest => some ('\t', rest)
  | 'n' :: rest => some ('\n', rest)
  | 'f' :: rest => some ('\x0c', rest)
  | 'r' :: rest => some ('\r', rest)
  | '"' :: rest => some ('"', rest)
  | '\\' :: rest => some ('\\', rest)
  | 'u' :: rest => codeEscape? 4 rest
  | 'U' :: rest => codeEscape? 8 rest
  | _ => none

/-- Blanks and line ends. -/
def skipSpace : List Char → List Char
  | '\r' :: '\n' :: rest => skipSpace rest
  | c :: rest => if isBlank c || c == '\n' then skipSpace rest else c :: rest
  | [] => []

/-- The quotation marks at the end of a text of several lines: up to two belong to the text. -/
def closing (quote : Char) (s : List Char) : Option (List Char × List Char) :=
  let n := (s.takeWhile (· == quote)).length
  if n < 3 then none
  else if n ≤ 5 then some (List.replicate (n - 3) quote, s.drop n)
  else none

/-- A text between quotation marks, on from its first character. `many` is for several lines. -/
def basicText (many : Bool) (fuel : Nat) (s : List Char) : Option (List Char × List Char) :=
  match fuel with
  | 0 => none
  | fuel + 1 =>
    match s with
    | [] => none
    | '"' :: rest =>
      if !many then some ([], rest)
      else if rest.take 2 = ['"', '"'] then closing '"' s
      else (basicText many fuel rest).map fun (t, r) => ('"' :: t, r)
    | '\\' :: rest =>
      match escape? rest with
      | some (c, rest) => (basicText many fuel rest).map fun (t, r) => (c :: t, r)
      | none =>
        if many then
          match lineEnd? (rest.dropWhile isBlank) with
          | some rest => basicText many fuel (skipSpace rest)
          | none => none
        else none
    | c :: rest =>
      if isPlain c then (basicText many fuel rest).map fun (t, r) => (c :: t, r)
      else if many then
        match lineEnd? s with
        | some rest => (basicText many fuel rest).map fun (t, r) => ('\n' :: t, r)
        | none => none
      else none

/-- A text between apostrophes, on from its first character. -/
def literalText (many : Bool) (fuel : Nat) (s : List Char) : Option (List Char × List Char) :=
  match fuel with
  | 0 => none
  | fuel + 1 =>
    match s with
    | [] => none
    | '\'' :: rest =>
      if !many then some ([], rest)
      else if rest.take 2 = ['\'', '\''] then closing '\'' s
      else (literalText many fuel rest).map fun (t, r) => ('\'' :: t, r)
    | c :: rest =>
      if isPlain c then (literalText many fuel rest).map fun (t, r) => (c :: t, r)
      else if many then
        match lineEnd? s with
        | some rest => (literalText many fuel rest).map fun (t, r) => ('\n' :: t, r)
        | none => none
      else none

/-- A text of several lines may start with a line end that does not count. -/
def dropFirstLineEnd (s : List Char) : List Char :=
  (lineEnd? s).getD s

/-- A text in any of its four forms. -/
def text? (s : List Char) : Option (List Char × List Char) :=
  match s with
  | '"' :: '"' :: '"' :: rest => basicText true (rest.length + 1) (dropFirstLineEnd rest)
  | '"' :: rest => basicText false (rest.length + 1) rest
  | '\'' :: '\'' :: '\'' :: rest => literalText true (rest.length + 1) (dropFirstLineEnd rest)
  | '\'' :: rest => literalText false (rest.length + 1) rest
  | _ => none

/-- Digits of a base, of which single underscores may stand between two. -/
def digitRun (isDigit : Char → Bool) : List Char → List Char × List Char
  | c :: rest =>
    if isDigit c then
      match rest with
      | '_' :: d :: more =>
        if isDigit d then
          let (run, rest) := digitRun isDigit (d :: more)
          (c :: run, rest)
        else ([c], rest)
      | rest =>
        let (run, rest) := digitRun isDigit rest
        (c :: run, rest)
    else ([], c :: rest)
  | [] => ([], [])

/-- Whether a character is a digit of a base. -/
def isDigitOf (base : Nat) (c : Char) : Bool :=
  match hexDigit? c with
  | some d => d < base
  | none => false

/-- A sign, whether it is a minus, and the rest. -/
def sign : List Char → Bool × Bool × List Char
  | '-' :: rest => (true, true, rest)
  | '+' :: rest => (true, false, rest)
  | rest => (false, false, rest)

/-- The whole part of a decimal number: a zero alone, or digits that start with no zero. -/
def wholePart? (s : List Char) : Option (List Char × List Char) :=
  match s with
  | '0' :: rest => some (['0'], rest)
  | _ =>
    match digitRun Char.isDigit s with
    | ([], _) => none
    | run => some run

/-- The exponent of a number, if one starts here. -/
def exponent? : List Char → Option (Option Int × List Char)
  | e :: rest =>
    if e == 'e' || e == 'E' then
      let (_, minus, rest) := sign rest
      match digitRun Char.isDigit rest with
      | ([], _) => none
      | (run, rest) => do
        let n ← number? 10 run
        return (some (if minus then -(n : Int) else n), rest)
    else some (none, e :: rest)
  | [] => some (none, [])

/-- A floating-point number: one with a point, an exponent or both. A positive one that is too
large is refused. -/
def float? (s : List Char) : Option (Value × List Char) := do
  let (_, minus, rest) := sign s
  match rest with
  | 'i' :: 'n' :: 'f' :: rest =>
    return (.float (Decimal.toBits ⟨1, 500⟩ minus), rest)
  | 'n' :: 'a' :: 'n' :: rest => return (.float 0x7FF8000000000000, rest)
  | _ =>
    let (whole, rest) ← wholePart? rest
    let (fraction, rest) ←
      match rest with
      | '.' :: rest =>
        match digitRun Char.isDigit rest with
        | ([], _) => none
        | (run, rest) => some (some run, rest)
      | rest => some (none, rest)
    let (exponent, rest) ← exponent? rest
    if fraction.isNone && exponent.isNone then none
    let digits := whole ++ fraction.getD []
    let n ← number? 10 digits
    let bits := Decimal.toBits ⟨n, exponent.getD 0 - ((fraction.getD []).length : Int)⟩ minus
    if bits = 0x7FF0000000000000 then none
    return (.float bits, rest)

/-- A whole number of 64 bits. -/
def integer? (s : List Char) : Option (Value × List Char) := do
  let based (base : Nat) (rest : List Char) : Option (Nat × List Char) :=
    match digitRun (isDigitOf base) rest with
    | ([], _) => none
    | (run, rest) => (number? base run).map fun n => (n, rest)
  let (n, rest) ←
    match s with
    | '0' :: 'x' :: rest => (based 16 rest).map fun (n, rest) => ((n : Int), rest)
    | '0' :: 'o' :: rest => (based 8 rest).map fun (n, rest) => ((n : Int), rest)
    | '0' :: 'b' :: rest => (based 2 rest).map fun (n, rest) => ((n : Int), rest)
    | _ => do
      let (_, minus, rest) := sign s
      let (run, rest) ← wholePart? rest
      let n ← number? 10 run
      pure (if minus then -(n : Int) else n, rest)
  if -0x8000000000000000 ≤ n ∧ n < 0x8000000000000000 then return (.integer n, rest) else none

/-- Exactly so many digits, as a number. -/
def fixed? (count : Nat) (s : List Char) : Option (Nat × List Char) :=
  let digits := s.take count
  if digits.length = count && digits.all Char.isDigit then
    (number? 10 digits).map fun n => (n, s.drop count)
  else none

/-- The days of a month. -/
def daysIn (year month : Nat) : Nat :=
  if month = 2 then
    if year % 4 = 0 ∧ (year % 100 ≠ 0 ∨ year % 400 = 0) then 29 else 28
  else if month ∈ [4, 6, 9, 11] then 30
  else 31

/-- A date. -/
def date? (s : List Char) : Option (List Char) := do
  let (year, s) ← fixed? 4 s
  if s.head? ≠ some '-' then none
  let (month, s) ← fixed? 2 s.tail
  if month < 1 ∨ 12 < month ∨ s.head? ≠ some '-' then none
  let (day, s) ← fixed? 2 s.tail
  if day < 1 ∨ daysIn year month < day then none
  return s

/-- Hours and minutes with a colon between them. -/
def hourMinute? (s : List Char) : Option (List Char) := do
  let (hour, s) ← fixed? 2 s
  if 23 < hour ∨ s.head? ≠ some ':' then none
  let (minute, s) ← fixed? 2 s.tail
  if 59 < minute then none
  return s

/-- A time of the day. -/
def clockTime? (s : List Char) : Option (List Char) := do
  let s ← hourMinute? s
  if s.head? ≠ some ':' then none
  let (second, s) ← fixed? 2 s.tail
  if 60 < second then none
  match s with
  | '.' :: rest =>
    let digits := rest.takeWhile Char.isDigit
    return if digits.isEmpty then s else rest.drop digits.length
  | _ => return s

/-- The distance to universal time, if it stands here. -/
def offset? (s : List Char) : Option (List Char) :=
  match s with
  | 'Z' :: rest | 'z' :: rest => some rest
  | '+' :: rest | '-' :: rest => hourMinute? rest
  | _ => some s

/-- A date, a time, or both. -/
def time? (s : List Char) : Option (Value × List Char) :=
  match date? s with
  | some rest =>
    match rest with
    | d :: more =>
      if d == 'T' || d == 't' || (d == ' ' && (clockTime? more).isSome) then do
        let rest ← clockTime? more
        return (.time, ← offset? rest)
      else some (.time, rest)
    | [] => some (.time, [])
  | none => (clockTime? s).map fun rest => (.time, rest)

end ScanRoster.Toml
