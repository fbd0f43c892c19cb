import ScanRoster.AgePolicy
import ScanRoster.Aggregation
import ScanRoster.Feed
import ScanRoster.Json.Value

/-!
# The roster

The entries of one tracker in the order in which their networks were first met, and what one
scan cycle does to them: the cycle's observations are aggregated, each group is placed, old
entries are evicted by the cycle's own time, and the outcome is counted in a report. A `Store`
is a roster with the feed to which it publishes.
-/

namespace ScanRoster

/-- One scan list on its way into the roster. `succeeded` is false where the scan behind it
failed and the list is what the radio still remembered. -/
structure Cycle where
  observations : List Observation
  succeeded : Bool
  nowMillis : Int64
  deriving DecidableEq

/-- The cycle of a scan list; sightings without a name are dropped. -/
def Cycle.ofSightings (sightings : List Sighting) (succeeded : Bool) (nowMillis : Int64) : Cycle :=
  ⟨Sighting.observeAll sightings, succeeded, nowMillis⟩

/-- What one cycle did. -/
structure CycleReport where
  inserted : Nat
  updated : Nat
  ignoredOlder : Nat
  evicted : Nat
  retained : Nat
  effectiveMaxAge : Duration
  deriving DecidableEq

/-- The JSON form of a report, with the age in whole milliseconds. -/
def CycleReport.toJson (r : CycleReport) : Json :=
  .obj [
    ("inserted", .int r.inserted),
    ("updated", .int r.updated),
    ("ignored_older", .int r.ignoredOlder),
    ("evicted", .int r.evicted),
    ("retained", .int r.retained),
    ("effective_max_age", .int r.effectiveMaxAge.millis)]

/-- What becomes of a group: its network is new, its entry is replaced, or its entry is newer
and stays. -/
inductive Fate
  | inserted
  | updated
  | ignoredOlder
  deriving DecidableEq, Repr

/-- Entries in the order in which their networks were first met. -/
structure Roster where
  policy : AgePolicy
  entries : List Entry
  deriving DecidableEq

namespace Roster

/-- A roster without entries. -/
def empty (policy : AgePolicy) : Roster :=
  ⟨policy, []⟩

/-- Takes a group into a list of entries. An entry keeps its place when it is replaced. -/
def place (g : Group) : List Entry → Fate × List Entry
  | [] => (.inserted, [.ofObservation g.1 g.2])
  | e :: rest =>
    if e.key = g.1 then
      if g.2.observedAtMillis < e.lastSeenMillis then (.ignoredOlder, e :: rest)
      else (.updated, .ofObservation g.1 g.2 :: rest)
    else
      let (fate, rest') := place g rest
      (fate, e :: rest')

/-- Takes the groups of a cycle in one by one. The fates stand in the order of the groups. -/
def placeAll : List Group → List Entry → List Fate × List Entry
  | [], entries => ([], entries)
  | g :: groups, entries =>
    let (fate, entries) := place g entries
    let (fates, entries) := placeAll groups entries
    (fate :: fates, entries)

/-- One cycle: aggregate, place, evict, count. -/
def apply (r : Roster) (c : Cycle) : Roster × CycleReport :=
  let maxAge := r.policy.effectiveMaxAge c.succeeded
  let (fates, placed) := placeAll (aggregate c.observations) r.entries
  let kept := placed.filter fun e => !isExpired c.nowMillis e.lastSeenMillis maxAge
  ({ r with entries := kept },
    { inserted := fates.count .inserted
      updated := fates.count .updated
      ignoredOlder := fates.count .ignoredOlder
      evicted := placed.length - kept.length
      retained := kept.length
      effectiveMaxAge := maxAge })

end Roster

/-- A roster together with the feed to which it publishes. -/
structure Store where
  roster : Roster
  feed : Feed
  deriving DecidableEq

namespace Store

/-- A store without entries, to which nothing was published. -/
def empty (policy : AgePolicy) : Store :=
  ⟨.empty policy, .empty⟩

/-- Applies one cycle and publishes the entries that are left. -/
def ingest (s : Store) (c : Cycle) : Store × CycleReport :=
  let (roster, report) := s.roster.apply c
  (⟨roster, s.feed.publish roster.entries⟩, report)

/-- Number of entries. -/
def size (s : Store) : Nat :=
  s.roster.entries.length

end Store

end ScanRoster
