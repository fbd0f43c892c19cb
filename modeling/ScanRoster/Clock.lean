import ScanRoster.Duration

/-!
# Clock times

Times are signed 64-bit counts of milliseconds. Time that passes between two of them is
clamped to the same range, and a clock that is moved on past the last time starts again at
the first.
-/

namespace ScanRoster.Clock

/-- The last time there is. -/
def lastMillis : Int :=
  0x7fffffffffffffff

/-- The first time there is. -/
def firstMillis : Int :=
  -0x8000000000000000

/-- The milliseconds from `earlier` to `now`, clamped to the range of times. -/
def since (now earlier : Int64) : Int :=
  max firstMillis (min lastMillis (now.toInt - earlier.toInt))

/-- The clock moved on by the whole milliseconds of a duration, of which at most
`lastMillis` count. -/
def advance (now : Int64) (d : Duration) : Int64 :=
  now + Int64.ofInt (min (d.millis : Int) lastMillis)

end ScanRoster.Clock
