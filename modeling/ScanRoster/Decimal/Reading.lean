import ScanRoster.Decimal.Shortest

/-!
# Decimal numbers from texts

Reading a decimal number with an optional sign, at most one point and an optional exponent. There
must be a digit before the point or after it.
-/

namespace ScanRoster.Decimal

/-- The number that a run of decimal digits stands for. -/
def ofDigits (digits : List Char) : Nat :=
  digits.foldl (fun n c => 10 * n + (c.toNat - '0'.toNat)) 0

/-- Whether a sign is a minus, and what follows the sign, if there is one. -/
def sign : List Char → Bool × List Char
  | '-' :: rest => (true, rest)
  | '+' :: rest => (false, rest)
  | rest => (false, rest)

/-- A power of ten after its mark, or nothing at all. -/
def exponent? : List Char → Option Int
  | [] => some 0
  | e :: rest =>
    let (down, digits) := sign rest
    if (e != 'e' && e != 'E') || digits.isEmpty || !digits.all Char.isDigit then none
    else some (if down then -(ofDigits digits : Int) else ofDigits digits)

/-- Whether a number is negative, and its value without the sign. -/
def ofText? (s : List Char) : Option (Bool × Decimal) := do
  let (minus, s) := sign s
  let (whole, s) := s.span Char.isDigit
  let (fraction, s) :=
    match s with
    | '.' :: rest => rest.span Char.isDigit
    | s => ([], s)
  if whole.isEmpty && fraction.isEmpty then none
  let exponent ← exponent? s
  return (minus, ⟨ofDigits (whole ++ fraction), exponent - (fraction.length : Int)⟩)

end ScanRoster.Decimal
