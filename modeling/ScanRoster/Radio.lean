import ScanRoster.RadioState
import ScanRoster.Record

/-!
# The radio

The radio as a tracker sees it: it answers for its power state, for its scan list, and to
requests for new scans. Everything that it answers is set from outside.
-/

namespace ScanRoster

/-- Why there is no scan list. -/
inductive SourceError
  | unavailable (reason : String)
  | faulty (detail : String)
  deriving DecidableEq

/-- The message of a source error. -/
def SourceError.message : SourceError → String
  | .unavailable reason => "scan source unavailable: " ++ reason
  | .faulty detail => "scan source I/O error: " ++ detail

/-- What happens when a scan list is asked for. -/
inductive ScanHealth
  | working
  | faulty (detail : String)
  | crashing
  deriving DecidableEq

/-- What comes back when a scan list is asked for. -/
inductive ScanReply
  | found (sightings : List Sighting)
  | failed (e : SourceError)
  | crashed
  deriving DecidableEq

/-- The radio's answers, and how often a scan was requested and how often that was refused.
`stateCrashing` tells whether asking for the power state crashes, and `reason` why there is no
scan list, where there is none. -/
structure Radio where
  state : RadioState
  stateCrashing : Bool
  sightings : List Sighting
  reason : Option String
  health : ScanHealth
  refusing : Bool
  requested : Nat
  refused : Nat
  deriving DecidableEq

namespace Radio

/-- A radio that has found nothing yet. -/
def new (state : RadioState) : Radio :=
  ⟨state, false, [], none, .working, false, 0, 0⟩

/-- The radio with another power state. -/
def setState (r : Radio) (state : RadioState) : Radio :=
  { r with state }

/-- The radio with another scan list. -/
def setScan (r : Radio) (sightings : List Sighting) : Radio :=
  { r with sightings, reason := none }

/-- The radio without a scan list, until one is set again. -/
def failScan (r : Radio) (reason : String) : Radio :=
  { r with sightings := [], reason := some reason }

/-- What comes back when the scan list is asked for. -/
def reply (r : Radio) : ScanReply :=
  match r.health, r.reason with
  | .crashing, _ => .crashed
  | .faulty detail, _ => .failed (.faulty detail)
  | .working, some reason => .failed (.unavailable reason)
  | .working, none => .found r.sightings

/-- The radio after so many requests for a scan. -/
def request (r : Radio) (times : Nat) : Radio :=
  if r.refusing then { r with refused := r.refused + times }
  else { r with requested := r.requested + times }

end Radio

end ScanRoster
