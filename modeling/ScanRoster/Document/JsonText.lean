import ScanRoster.Document.Basic

/-!
# Documents from JSON text

A JSON text read as a document. Strings are first cut into pieces, a piece being a character or
a unit given in hexadecimal, and then put together, since two units can be one character.
Numbers are whole where they fit 64 bits and floating-point otherwise.
-/

namespace ScanRoster.Document

namespace JsonText

/-- The blanks of JSON. -/
def isBlank (c : Char) : Bool :=
  c == ' ' || c == '\n' || c == '\t' || c == '\r'

/-- A part of a string between its quotation marks. -/
inductive Piece
  | plain (c : Char)
  | unit (n : Nat)

/-- Why a string has no end. -/
inductive Stop
  | ended
  | badUnit
  | badEscape
  | control

/-- The fault of a string that has no end. -/
def Stop.fault : Stop → Fault
  | .ended => .endInText
  | .badUnit => .badEscape
  | .badEscape => .badEscape
  | .control => .bareControl

/-- The character that a one-letter escape stands for. -/
def escaped? : Char → Option Char
  | '"' => some '"'
  | '\\' => some '\\'
  | '/' => some '/'
  | 'b' => some '\x08'
  | 'f' => some '\x0c'
  | 'n' => some '\n'
  | 'r' => some '\r'
  | 't' => some '\t'
  | _ => none

/-- Why the four digits of a unit cannot be taken: there are fewer than four bytes left, or one
of them is no digit. -/
def unitStop (s : List Char) : Stop :=
  if (String.ofList s).utf8ByteSize < 4 then .ended else .badUnit

/-- The number that four hexadecimal digits stand for. -/
def unit? (a b c d : Char) : Option Nat :=
  Yaml.digits? 16 [a, b, c, d]

/-- The pieces of a string up to its closing quotation mark, with what follows it, or why there
is no such mark. -/
def pieces : List Char → List Piece × Except Stop (List Char)
  | [] => ([], .error .ended)
  | '"' :: rest => ([], .ok rest)
  | '\\' :: 'u' :: a :: b :: c :: d :: rest =>
    match unit? a b c d with
    | some n =>
      let (more, stop) := pieces rest
      (.unit n :: more, stop)
    | none => ([], .error (unitStop (a :: b :: c :: d :: rest)))
  | '\\' :: 'u' :: rest => ([], .error (unitStop rest))
  | '\\' :: e :: rest =>
    match escaped? e with
    | some c =>
      let (more, stop) := pieces rest
      (.plain c :: more, stop)
    | none => ([], .error .badEscape)
  | ['\\'] => ([], .error .ended)
  | c :: rest =>
    if c.toNat < 0x20 then ([], .error .control)
    else
      let (more, stop) := pieces rest
      (.plain c :: more, stop)

/-- What the pieces of a string amount to. -/
inductive Assembled
  | text (cs : List Char)
  | flaw (fault : Fault)
  | pending

/-- One more character in front. -/
def Assembled.cons (c : Char) : Assembled → Assembled
  | .text cs => .text (c :: cs)
  | a => a

/-- Puts pieces together. A leading half of a character needs its trailing half next to it;
`pending` is a string that ends with a leading half. -/
def assemble : List Piece → Assembled
  | [] => .text []
  | .plain c :: rest => (assemble rest).cons c
  | .unit n :: rest =>
    if 0xDC00 ≤ n ∧ n ≤ 0xDFFF then .flaw .loneSurrogate
    else if n < 0xD800 ∨ 0xDBFF < n then (assemble rest).cons (Char.ofNat n)
    else
      match rest with
      | [] => .pending
      | .plain _ :: _ => .flaw .escapeCutShort
      | .unit m :: rest =>
        if m < 0xDC00 ∨ 0xDFFF < m then .flaw .loneSurrogate
        else (assemble rest).cons (Char.ofNat (0x10000 + (n - 0xD800) * 0x400 + (m - 0xDC00)))

/-- A string whose opening quotation mark has been taken. -/
def string (s : List Char) : Document × List Char :=
  let (parts, stop) := pieces s
  match stop, assemble parts with
  | .ok rest, .text cs => (.text (String.ofList cs), rest)
  | .ok rest, .flaw fault => (.flawed .text fault, rest)
  | .ok rest, .pending => (.flawed .text .escapeCutShort, rest)
  | .error stop, .flaw fault => (.broken .text fault stop.fault, [])
  | .error stop, .text _ => (.broken .text stop.fault stop.fault, [])
  | .error stop, .pending =>
    let read :=
      match stop with
      | .ended | .badUnit => stop.fault
      | .badEscape | .control => Fault.escapeCutShort
    (.broken .text read stop.fault, [])

/-- A fixed word of which the first letter has been seen. -/
def word (value : Document) (letters : List Char) (s : List Char) : Document × List Char :=
  if letters.isPrefixOf s then (value, s.drop letters.length)
  else
    let fault := if s.isPrefixOf letters then Fault.endInValue else .expectedWord
    (.broken .other fault fault, [])

/-- The text of a number: sign, digits, digits after the point, exponent. -/
structure Numeral where
  negative : Bool
  whole : List Char
  fraction : Option (List Char)
  exponent : Option Int

/-- The number that digits stand for. -/
def natural (digits : List Char) : Nat :=
  digits.foldl (fun n c => 10 * n + (c.toNat - '0'.toNat)) 0

/-- Digits are gathered while the number fits 64 bits. Returns the number, how many digits were
gathered and how many were not. -/
def gather (start : Nat) : List Char → Nat × Nat × Nat
  | [] => (start, 0, 0)
  | c :: rest =>
    let n := 10 * start + (c.toNat - '0'.toNat)
    if UInt64.size ≤ n then (start, 0, rest.length + 1)
    else
      let (m, taken, left) := gather n rest
      (m, taken + 1, left)

/-- `x` times a power of ten, in steps that stay within the range of floating-point numbers;
nothing where the product is too large. -/
def scale (fuel : Nat) (x : Float) (power : Int) : Option Float :=
  match fuel with
  | 0 => some x
  | fuel + 1 =>
    if 308 < power.natAbs then
      if x == 0 then some x
      else if 0 ≤ power then none
      else scale fuel (x / Float.ofScientific 1 false 308) (power + 308)
    else if 0 ≤ power then
      let y := x * Float.ofScientific 1 false power.natAbs
      if y.isInf then none else some y
    else some (x / Float.ofScientific 1 false power.natAbs)

/-- The number that a numeral stands for. -/
def Numeral.value (n : Numeral) : Document :=
  let signed (x : Float) : Document :=
    .number (.real (if n.negative then -x else x).toBits)
  let (significand, _, dropped) := gather 0 n.whole
  match n.fraction, n.exponent with
  | none, none =>
    if dropped = 0 then
      if !n.negative then .number (.whole significand)
      else if significand = 0 ∨ 0x8000000000000000 < significand then
        signed (UInt64.ofNat significand).toFloat
      else .number (.whole (-(significand : Int)))
    else
      match scale 20 (UInt64.ofNat significand).toFloat dropped with
      | some x => signed x
      | none => .flawed .other .numberTooLarge
  | fraction, exponent =>
    let (significand, taken, _) := gather significand (fraction.getD [])
    let power := (exponent.getD 0) + dropped - taken
    let big : Bool := 0x80000000 ≤ (exponent.getD 0).natAbs
    if big ∧ (significand = 0 ∨ exponent.getD 0 < 0) then signed 0
    else if big then .flawed .other .numberTooLarge
    else
      match scale (power.natAbs / 308 + 2) (UInt64.ofNat significand).toFloat power with
      | some x => signed x
      | none => .flawed .other .numberTooLarge

/-- A place where a number breaks off: the end of the text is told apart by readers of values. -/
def brokenNumber (rest : List Char) : Document × List Char :=
  (.broken .other (if rest.isEmpty then .endInValue else .badNumber) .badNumber, [])

/-- The rest of a number after its whole part and its fraction: the exponent, if there is one. -/
def afterFraction (negative : Bool) (whole : List Char) (fraction : Option (List Char)) :
    List Char → Document × List Char
  | e :: rest =>
    if e == 'e' || e == 'E' then
      let (down, rest) :=
        match rest with
        | '-' :: rest => (true, rest)
        | '+' :: rest => (false, rest)
        | rest => (false, rest)
      let (digits, rest) := rest.span Char.isDigit
      if digits.isEmpty then brokenNumber rest
      else
        let power : Int := natural digits
        (Numeral.value ⟨negative, whole, fraction, some (if down then -power else power)⟩, rest)
    else (Numeral.value ⟨negative, whole, fraction, none⟩, e :: rest)
  | [] => (Numeral.value ⟨negative, whole, fraction, none⟩, [])

/-- The rest of a number after its whole part. -/
def afterWhole (negative : Bool) (whole : List Char) : List Char → Document × List Char
  | '.' :: rest =>
    let (digits, rest) := rest.span Char.isDigit
    if digits.isEmpty then brokenNumber rest
    else afterFraction negative whole (some digits) rest
  | s => afterFraction negative whole none s

/-- The rest of a number after its sign. -/
def afterSign (negative : Bool) (s : List Char) : Document × List Char :=
  let (whole, s) := s.span Char.isDigit
  match whole with
  | [] => brokenNumber s
  | '0' :: _ :: _ => (.broken .other .badNumber .badNumber, [])
  | _ => afterWhole negative whole s

/-- A number. -/
def number : List Char → Document × List Char
  | '-' :: rest => afterSign true rest
  | s => afterSign false s

mutual

/-- A value. The first argument bounds the depth of recursion. -/
def value (fuel : Nat) (s : List Char) : Document × List Char :=
  match fuel with
  | 0 => (.broken .ended .endInValue .endInValue, [])
  | fuel + 1 =>
    match s.dropWhile isBlank with
    | [] => (.broken .ended .endInValue .endInValue, [])
    | '"' :: rest => string rest
    | '[' :: rest =>
      match rest.dropWhile isBlank with
      | ']' :: rest => (.list [] .closed, rest)
      | [] => (.list [] .ended, [])
      | rest =>
        let (items, ending, rest) := items fuel rest
        (.list items ending, rest)
    | '\x7b' :: rest =>
      match rest.dropWhile isBlank with
      | '\x7d' :: rest => (.object [] .closed, rest)
      | [] => (.object [] .ended, [])
      | rest =>
        let (fields, ending, rest) := fields fuel rest
        (.object fields ending, rest)
    | 'n' :: rest => word .null ['u', 'l', 'l'] rest
    | 't' :: rest => word (.flag true) ['r', 'u', 'e'] rest
    | 'f' :: rest => word (.flag false) ['a', 'l', 's', 'e'] rest
    | c :: rest =>
      if c == '-' || c.isDigit then number (c :: rest)
      else (.broken .other .expectedValue .expectedValue, [])

/-- The items of a list, of which there is at least one. -/
def items (fuel : Nat) (s : List Char) : List Document × Ending × List Char :=
  match fuel with
  | 0 => ([], .ended, [])
  | fuel + 1 =>
    let (item, rest) := value fuel s
    match item with
    | .broken .. => ([item], .ended, [])
    | _ =>
      match rest.dropWhile isBlank with
      | [] => ([item], .ended, [])
      | ']' :: rest => ([item], .closed, rest)
      | ',' :: rest =>
        match rest.dropWhile isBlank with
        | [] => ([item], .commaThenEnd, [])
        | ']' :: _ => ([item], .trailingComma, [])
        | rest =>
          let (more, ending, rest) := items fuel rest
          (item :: more, ending, rest)
      | _ => ([item], .noComma, [])

/-- The fields of an object, of which there is at least one. -/
def fields (fuel : Nat) (s : List Char) :
    List (Document × Document) × Ending × List Char :=
  match fuel with
  | 0 => ([], .ended, [])
  | fuel + 1 =>
    let (key, rest) := value fuel s
    match key with
    | .text _ | .flawed .text _ =>
      match rest.dropWhile isBlank with
      | ':' :: rest =>
        let (item, rest) := value fuel rest
        match item with
        | .broken .. => ([(key, item)], .ended, [])
        | _ =>
          match rest.dropWhile isBlank with
          | [] => ([(key, item)], .ended, [])
          | '\x7d' :: rest => ([(key, item)], .closed, rest)
          | ',' :: rest =>
            match rest.dropWhile isBlank with
            | [] => ([(key, item)], .commaThenEnd, [])
            | '\x7d' :: _ => ([(key, item)], .trailingComma, [])
            | rest =>
              let (more, ending, rest) := fields fuel rest
              ((key, item) :: more, ending, rest)
          | _ => ([(key, item)], .noComma, [])
      | [] => ([(key, .broken .ended .endInObject .endInObject)], .ended, [])
      | _ => ([(key, .broken .other .expectedColon .expectedColon)], .ended, [])
    | _ => ([(key, .null)], .ended, [])

end

end JsonText

/-- A JSON text as a document, and whether characters follow it that do not belong to it. -/
def ofJsonText (text : String) : Document × Bool :=
  let s := text.toList
  let (d, rest) := JsonText.value (2 * s.length + 2) s
  (d, !(rest.dropWhile JsonText.isBlank).isEmpty)

end ScanRoster.Document
