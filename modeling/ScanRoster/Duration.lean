/-!
# Durations

Lengths of time in whole nanoseconds, up to 2^64 - 1 seconds and 999999999 nanoseconds.
Sums stop at that bound.
-/

namespace ScanRoster

/-- A length of time in whole nanoseconds. -/
structure Duration where
  nanos : Nat
  nanos_lt : nanos < 18446744073709551616000000000
  deriving DecidableEq

namespace Duration

/-- No time at all. -/
def zero : Duration :=
  ⟨0, by decide⟩

/-- The longest duration. -/
def longest : Duration :=
  ⟨18446744073709551615999999999, by decide⟩

instance : Inhabited Duration := ⟨zero⟩

/-- The duration of so many nanoseconds, or the longest one where that is too long. -/
def ofNanos (n : Nat) : Duration :=
  ⟨min n 18446744073709551615999999999, by omega⟩

/-- The duration of so many milliseconds. -/
def ofMillis (ms : UInt64) : Duration :=
  ⟨ms.toNat * 1000000, by have := ms.toNat_lt; omega⟩

/-- The duration of so many seconds. -/
def ofSeconds (s : UInt64) : Duration :=
  ⟨s.toNat * 1000000000, by have := s.toNat_lt; omega⟩

/-- Whole seconds. -/
def seconds (d : Duration) : Nat :=
  d.nanos / 1000000000

/-- The nanoseconds beyond whole seconds. -/
def subsecNanos (d : Duration) : Nat :=
  d.nanos % 1000000000

/-- Whole milliseconds; a rest below one millisecond is dropped. -/
def millis (d : Duration) : Nat :=
  d.nanos / 1000000

/-- Milliseconds, a rest below one millisecond counted as one more. -/
def millisRoundedUp (d : Duration) : Nat :=
  (d.nanos + 999999) / 1000000

/-- Whether no time at all is meant. -/
def isZero (d : Duration) : Bool :=
  d.nanos == 0

/-- The sum, or the longest duration where the sum is too long. -/
def add (a b : Duration) : Duration :=
  ofNanos (a.nanos + b.nanos)

instance : Add Duration := ⟨add⟩

theorem nanos_add (a b : Duration) : (a + b).nanos = min (a.nanos + b.nanos) longest.nanos := rfl

end Duration

end ScanRoster
