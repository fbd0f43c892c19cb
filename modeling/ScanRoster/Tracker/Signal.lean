import ScanRoster.Radio
import ScanRoster.Roster

/-!
# Signals and notices

A signal tells the tracker that something about the radio has changed. A notice tells observers
what the tracker made of it.
-/

namespace ScanRoster

/-- What has changed. `updated` is false where the scan failed and the list is an old one. -/
inductive Signal
  | radioState
  | scanResults (updated : Bool)
  deriving DecidableEq

/-- What became of a signal. -/
inductive SignalOutcome
  | ingested (report : CycleReport)
  | sourceUnavailable
  | radioState (state : RadioState) (changed : Bool)
  deriving DecidableEq

/-- What observers are told. -/
inductive Notice
  | entriesChanged (snapshot : Snapshot)
  | stateChanged (state : RadioState)
  deriving DecidableEq

end ScanRoster
