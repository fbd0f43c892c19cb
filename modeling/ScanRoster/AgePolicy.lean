import ScanRoster.Clock

/-!
# Age policy

Decides, cycle by cycle, how old an entry may get. A failed cycle widens the window by one
scan interval. The extension does not add up: only the flag of the cycle at hand counts.
-/

namespace ScanRoster

/-- How long an entry may go unseen, and the expected time between two scans. -/
structure AgePolicy where
  maxEntryAge : Duration
  scanInterval : Duration
  deriving DecidableEq

namespace AgePolicy

/-- The age that a cycle allows. -/
def effectiveMaxAge (p : AgePolicy) (succeeded : Bool) : Duration :=
  if succeeded then p.maxEntryAge else p.maxEntryAge + p.scanInterval

end AgePolicy

/-- Whether strictly more than `maxAge` has passed since `lastSeen`. An entry of exactly that
age is kept, and an observation from after `now` is not old. -/
def isExpired (now lastSeen : Int64) (maxAge : Duration) : Bool :=
  decide ((maxAge.millis : Int) < Clock.since now lastSeen)

end ScanRoster
