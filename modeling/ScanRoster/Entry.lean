import ScanRoster.Clock
import ScanRoster.Record

/-!
# Entries

An entry is the deduplicated view of one network: its key, and the freshest observation of
it as representative.
-/

namespace ScanRoster

/-- The deduplicated view of one network. -/
structure Entry where
  key : NetworkKey
  lastSeenMillis : Int64
  representative : Observation
  deriving DecidableEq, Inhabited

namespace Entry

/-- The entry of a network that is represented by the given observation. -/
def ofObservation (key : NetworkKey) (o : Observation) : Entry :=
  ⟨key, o.observedAtMillis, o⟩

/-- Milliseconds since the entry was last seen; an observation from after `now` has age zero. -/
def ageMillis (e : Entry) (now : Int64) : UInt64 :=
  let age := Clock.since now e.lastSeenMillis
  if age < 0 then 0 else UInt64.ofNat age.toNat

end Entry

/-- An entry list that has been handed to readers. -/
abbrev Snapshot := List Entry

end ScanRoster
