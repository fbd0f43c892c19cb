/-!
# Shortest decimal texts

The shortest decimal number that reads back as a given binary floating-point number, found by
exact arithmetic: on the decimal grids with 1, 2, … 17 digits the two neighbours of the value
are tested, the first grid with a hit wins, and of two hits the nearer.
-/

namespace ScanRoster

/-- A finite decimal number: `digits` times ten to the power `exponent`. -/
structure Decimal where
  digits : Nat
  exponent : Int
  deriving DecidableEq, Repr

namespace Decimal

/-- What the bits of a 64-bit floating-point number stand for: `m` times two to the power `q`,
with a sign, or no finite number. -/
inductive Binary
  | finite (negative : Bool) (m : Nat) (q : Int)
  | infinite (negative : Bool)
  | notANumber

/-- The number that the bits stand for. -/
def Binary.ofBits (bits : UInt64) : Binary :=
  let n : Nat := bits.toNat
  let negative : Bool := 0x8000000000000000 ≤ n
  let e : Nat := n / 0x10000000000000 % 0x800
  let f : Nat := n % 0x10000000000000
  if e = 2047 then (if f = 0 then .infinite negative else .notANumber)
  else if e = 0 then .finite negative f (-1074)
  else .finite negative (f + 0x10000000000000) ((e : Int) - 1075)

/-- The power of ten of the first digit of the positive number `num / den`. -/
def leadingPower (num den : Nat) : Int :=
  if den ≤ num then ((Nat.toDigits 10 (num / den)).length : Int) - 1
  else
    let t := (Nat.toDigits 10 (den / num)).length
    if num * Nat.pow 10 (t - 1) = den then 1 - (t : Int) else -(t : Int)

/-- The point `c` of the decimal grid `10 ^ k` as a fraction over `den`, both sides scaled so
that the comparison stays within natural numbers. -/
def scaled (k : Int) (c den : Nat) : Nat × Nat :=
  if 0 ≤ k then (c * Nat.pow 10 k.toNat * den, 1) else (c * den, Nat.pow 10 (-k).toNat)

/-- The hit on the grid of numbers with `n` digits, if the interval has one. The value is
`4 * m / den` in units of a quarter step, and the interval reaches from `low` to `high`. -/
def onGrid (low value high den : Nat) (closed : Bool) (power : Int) (n : Nat) : Option Decimal :=
  let k := power - (n - 1)
  let (one, scale) := scaled k 1 den
  let c := value * scale / one
  let inside (x : Nat) : Bool :=
    let x := x * one
    if closed then low * scale ≤ x && x ≤ high * scale else low * scale < x && x < high * scale
  let below := value * scale - c * one
  let above := (c + 1) * one - value * scale
  if inside c && (!inside (c + 1) || below < above || (below == above && c % 2 == 0)) then
    some ⟨c, k⟩
  else if inside (c + 1) then some ⟨c + 1, k⟩
  else none

/-- The decimal number without zeros at its end. -/
def stripZeros (fuel : Nat) (d : Decimal) : Decimal :=
  match fuel with
  | 0 => d
  | fuel + 1 =>
    if d.digits ≠ 0 ∧ d.digits % 10 = 0 then stripZeros fuel ⟨d.digits / 10, d.exponent + 1⟩
    else d

/-- The shortest decimal number that reads back as `m * 2 ^ q`. -/
def shortest (m : Nat) (q : Int) : Decimal :=
  if m = 0 then ⟨0, 0⟩
  else
    let up : Nat := Nat.pow 2 (q - 2).toNat
    let den : Nat := Nat.pow 2 (2 - q).toNat
    let atEdge := m = 0x10000000000000 ∧ -1074 < q
    let low := (4 * m - if atEdge then 1 else 2) * up
    let value := 4 * m * up
    let high := (4 * m + 2) * up
    let power := leadingPower value den
    let hit := (List.range 17).findSome? fun n =>
      onGrid low value high den (m % 2 == 0) power (n + 1)
    (hit.getD ⟨value / den, 0⟩).stripZeros 20

/-- How a decimal number is laid out. Numbers whose leading power of ten lies from `least` to
`most` are written positionally, others with an exponent. -/
structure Layout where
  least : Int
  most : Int
  keepsPointZero : Bool
  signsExponent : Bool

/-- The digits with a point after the first `whole` ones, filled up with zeros. -/
def positional (keepsPointZero : Bool) (digits : List Char) (whole : Int) : List Char :=
  if whole ≤ 0 then ['0', '.'] ++ List.replicate (-whole).toNat '0' ++ digits
  else if digits.length ≤ whole.toNat then
    digits ++ List.replicate (whole.toNat - digits.length) '0' ++
      (if keepsPointZero then ['.', '0'] else [])
  else digits.take whole.toNat ++ '.' :: digits.drop whole.toNat

/-- The text of a decimal number in a layout. -/
def Layout.text (l : Layout) (d : Decimal) : List Char :=
  let digits := Nat.toDigits 10 d.digits
  let power : Int := if d.digits = 0 then 0 else digits.length + d.exponent - 1
  if l.least ≤ power ∧ power ≤ l.most then positional l.keepsPointZero digits (power + 1)
  else
    let mantissa :=
      match digits with
      | [] => []
      | [c] => [c]
      | c :: rest => c :: '.' :: rest
    let sign := if power < 0 then ['-'] else if l.signsExponent then ['+'] else []
    mantissa ++ 'e' :: sign ++ Nat.toDigits 10 power.natAbs

/-- The text of the floating-point number with the given bits. -/
def Layout.ofBits (l : Layout) (bits : UInt64) : List Char :=
  match Binary.ofBits bits with
  | .finite negative m q => (if negative then ['-'] else []) ++ l.text (shortest m q)
  | .infinite negative => (if negative then ['-'] else []) ++ ['i', 'n', 'f']
  | .notANumber => ['N', 'a', 'N']

/-- The bits of the number `digits * 10 ^ exponent`, rounded to nearest. -/
def toBits (d : Decimal) (negative : Bool) : UInt64 :=
  let size : Int := (Nat.toDigits 10 d.digits).length + d.exponent
  let x : Float :=
    if d.digits = 0 ∨ size < -400 then 0
    else if 400 < size then Float.ofScientific 1 false 400
    else Float.ofScientific d.digits (decide (d.exponent < 0)) d.exponent.natAbs
  (if negative then -x else x).toBits

end Decimal

end ScanRoster
