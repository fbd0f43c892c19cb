import ScanRoster.Duration
import ScanRoster.Text.Blank

/-!
# Durations as text

A duration is written as numbers with units, such as `1h 30m`. Reading goes through the text
one character at a time and is in one of four phases; offsets in messages count bytes. Writing
uses each unit once, from years to nanoseconds.
-/

namespace ScanRoster.Duration

/-- What is wrong with the text of a duration. -/
inductive TextFault
  | empty
  | numberExpected (offset : Nat)
  | badCharacter (offset : Nat)
  | unitNeeded (number : Nat)
  | unknownUnit (unit : String)
  | overflow
  deriving DecidableEq, Repr

/-- The message of a text fault. -/
def TextFault.message : TextFault → String
  | .empty => "value was empty"
  | .numberExpected offset => "expected number at " ++ toString offset
  | .badCharacter offset => "invalid character at " ++ toString offset
  | .unitNeeded n =>
    "time unit needed, for example " ++ toString n ++ "sec or " ++ toString n ++ "ms"
  | .unknownUnit unit =>
    "unknown time unit \"" ++ unit ++ "\", supported units: ns, us/µs, ms, sec, min, hours, " ++
      "days, weeks, months, years (and few variations)"
  | .overflow =>
    "number is too large or cannot be represented without a lack of precision " ++
      "(values below 1ns are not supported)"

/-- A unit: the seconds and nanoseconds of one of it, and those by which a fraction of it is
counted. -/
structure TimeUnit where
  seconds : Nat
  nanos : Nat
  fractionSeconds : Nat
  fractionNanos : Nat

/-- A unit that is counted in nanoseconds. -/
def TimeUnit.short (nanos fractionNanos : Nat) : TimeUnit :=
  ⟨0, nanos, 0, fractionNanos⟩

/-- A unit that is counted in seconds. -/
def TimeUnit.long (seconds : Nat) : TimeUnit :=
  ⟨seconds, 0, seconds, 0⟩

/-- Seconds in a month, a twelfth of a year. -/
def monthSeconds : Nat := 2630016

/-- Seconds in a year of 365.25 days. -/
def yearSeconds : Nat := 31557600

/-- The unit of a name. A nanosecond has no fractions, and fractions of seconds and minutes are
counted in nanoseconds. -/
def unit? (name : String) : Option TimeUnit :=
  if name ∈ ["nanos", "nsec", "ns"] then some (.short 1 0)
  else if name ∈ ["usec", "us", "µs"] then some (.short 1000 1000)
  else if name ∈ ["millis", "msec", "ms"] then some (.short 1000000 1000000)
  else if name ∈ ["seconds", "second", "secs", "sec", "s"] then some ⟨1, 0, 0, 1000000000⟩
  else if name ∈ ["minutes", "minute", "min", "mins", "m"] then some ⟨60, 0, 0, 60000000000⟩
  else if name ∈ ["hours", "hour", "hrs", "hr", "h"] then some (.long 3600)
  else if name ∈ ["days", "day", "d"] then some (.long 86400)
  else if name ∈ ["weeks", "week", "wks", "wk", "w"] then some (.long 604800)
  else if name ∈ ["months", "month", "M"] then some (.long monthSeconds)
  else if name ∈ ["years", "year", "yrs", "yr", "y"] then some (.long yearSeconds)
  else none

/-- A sum in nanoseconds, if its parts fit 64 bits each and the whole is a duration. -/
def addPart (total seconds nanos : Nat) : Except TextFault Nat :=
  let sum := total + seconds * 1000000000 + nanos
  if seconds < UInt64.size ∧ total % 1000000000 + nanos < UInt64.size ∧ sum < UInt64.size * 1000000000 then .ok sum
  else .error .overflow

/-- Exactly `per * numerator / denominator`, within 64 bits. -/
def fractionOf (per numerator denominator : Nat) : Except TextFault Nat :=
  if per * numerator < UInt64.size ∧ per * numerator % denominator = 0 then
    .ok (per * numerator / denominator)
  else .error .overflow

/-- A number as far as it has been read: the whole part, and the fraction after a point. -/
structure Amount where
  whole : Nat
  fraction : Option (Nat × Nat)

/-- The total after an amount of a unit was added. -/
def addAmount (total : Nat) (a : Amount) (unit : List Char) : Except TextFault Nat :=
  if unit.isEmpty then .error (.unitNeeded a.whole)
  else
    match unit? (String.ofList unit) with
    | none => .error (.unknownUnit (String.ofList unit))
    | some u => do
      let total ← addPart total (u.seconds * a.whole) (u.nanos * a.whole)
      match a.fraction with
      | none => return total
      | some (numerator, denominator) =>
        if u.fractionSeconds = 0 ∧ u.fractionNanos = 0 then throw .overflow
        let seconds ← fractionOf u.fractionSeconds numerator denominator
        let nanos ← fractionOf u.fractionNanos numerator denominator
        addPart total seconds nanos

/-- What is being read: the start of a number, from offset `since` on; a whole part; a fraction,
of which the last character that counts ended at offset `last`; or a unit, whose letters stand
in reverse. -/
inductive Phase
  | start (first : Bool) (since : Nat)
  | whole (n : Nat)
  | fraction (n numerator denominator last : Nat)
  | unit (a : Amount) (letters : List Char)

/-- A digit added at the end of a 64-bit number. -/
def addDigit (n : Nat) (c : Char) : Except TextFault Nat :=
  let n := 10 * n + (c.toNat - '0'.toNat)
  if n < UInt64.size then .ok n else .error .overflow

/-- Letters that a unit is made of. -/
def isUnitLetter (c : Char) : Bool :=
  c.isAlpha || c == 'µ'

/-- One more character, at the given offset. -/
def step (phase : Phase) (total offset : Nat) (c : Char) : Except TextFault (Phase × Nat) :=
  match phase with
  | .start first since =>
    if c.isDigit then .ok (.whole (c.toNat - '0'.toNat), total)
    else if Text.isBlank c then .ok (.start first since, total)
    else .error (.numberExpected since)
  | .whole n =>
    if c.isDigit then do return (.whole (← addDigit n c), total)
    else if Text.isBlank c then .ok (.whole n, total)
    else if isUnitLetter c then .ok (.unit ⟨n, none⟩ [c], total)
    else if c == '.' then .ok (.fraction n 0 1 offset, total)
    else .error (.badCharacter offset)
  | .fraction n numerator denominator last =>
    if c.isDigit then
      if 10 * denominator < UInt64.size then do
        return (.fraction n (← addDigit numerator c) (10 * denominator) (offset + 1), total)
      else .error .overflow
    else if Text.isBlank c then
      .ok (.fraction n numerator denominator (offset + c.utf8Size), total)
    else if isUnitLetter c ∧ denominator ≠ 1 then
      .ok (.unit ⟨n, some (numerator, denominator)⟩ [c], total)
    else .error (.badCharacter last)
  | .unit a letters =>
    if c.isDigit then do
      return (.whole (c.toNat - '0'.toNat), ← addAmount total a letters.reverse)
    else if Text.isBlank c then do
      return (.start false (offset + c.utf8Size), ← addAmount total a letters.reverse)
    else if isUnitLetter c then .ok (.unit a (c :: letters), total)
    else .error (.badCharacter offset)

/-- What a text amounts to that ends in the given phase. -/
def finish (phase : Phase) (total : Nat) : Except TextFault Nat :=
  match phase with
  | .start first _ => if first then .error .empty else .ok total
  | .whole n => .error (.unitNeeded n)
  | .fraction n _ denominator last =>
    if denominator = 1 then .error (.badCharacter last) else .error (.unitNeeded n)
  | .unit a letters => addAmount total a letters.reverse

/-- Reads on from a phase. -/
def readFrom (phase : Phase) (total offset : Nat) : List Char → Except TextFault Nat
  | [] => finish phase total
  | c :: rest => do
    let (phase, total) ← step phase total offset c
    readFrom phase total (offset + c.utf8Size) rest

/-- The duration that a text stands for. A zero needs no unit. -/
def ofText (s : List Char) : Except TextFault Duration :=
  if s = ['0'] then .ok zero
  else (readFrom (.start true 0) 0 0 s).map ofNanos

/-- A count with its unit, if there is anything to count. -/
def part (count : Nat) (unit : String) : List String :=
  if count = 0 then [] else [toString count ++ unit]

/-- A count with a unit that has a plural. -/
def pluralPart (count : Nat) (unit : String) : List String :=
  part count (if count = 1 then unit else unit ++ "s")

/-- The duration in words, each unit at most once. -/
def words (d : Duration) : String :=
  let years := d.seconds / yearSeconds
  let withinYear := d.seconds % yearSeconds
  let months := withinYear / monthSeconds
  let withinMonth := withinYear % monthSeconds
  let withinDay := withinMonth % 86400
  let parts :=
    pluralPart years "year" ++ pluralPart months "month" ++
      pluralPart (withinMonth / 86400) "day" ++ part (withinDay / 3600) "h" ++
      part (withinDay % 3600 / 60) "m" ++ part (withinDay % 60) "s" ++
      part (d.subsecNanos / 1000000) "ms" ++ part (d.subsecNanos / 1000 % 1000) "us" ++
      part (d.subsecNanos % 1000) "ns"
  if parts.isEmpty then "0s" else " ".intercalate parts

end ScanRoster.Duration
