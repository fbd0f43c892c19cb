import ScanRoster.EntryFilter
import ScanRoster.Replay.Script
import ScanRoster.Replay.View
import ScanRoster.Tracker.Session

/-!
# Replays

A script is played to a tracker step by step, and after each step the entries that are asked for
are looked at.
-/

namespace ScanRoster.Replay

/-- Which entries of a replay are shown. -/
structure Selection where
  security : Option SecurityClass
  ssid : Option String
  secured : Bool
  seenWithin : Option Duration
  deriving DecidableEq

/-- The filters of a selection at some time. A time span too long for 64 bits of milliseconds is
cut off. -/
def Selection.filters (s : Selection) (now : Int64) : List EntryFilter :=
  (s.security.map EntryFilter.ofSecurity).toList ++
    (s.ssid.map EntryFilter.ssidContains).toList ++
    (if s.secured then [.secured] else []) ++
    (s.seenWithin.map fun d =>
      EntryFilter.seenWithin now (UInt64.ofNat (min d.millis (UInt64.size - 1)))).toList

/-- Hands a signal to a tracker and waits for its outcome. -/
def deliver (t : Tracker) (s : Signal) : Except TrackerError Tracker :=
  match t.signal s with
  | (.failed e, _) => .error e
  | (_, t) => .ok t

/-- Plays one step. Of a source error and a scan only the error is played. -/
def applyStep (t : Tracker) (step : Step) : Except TrackerError Tracker := do
  let t := t.step (.setClock step.atMillis)
  let t ←
    match step.radioState with
    | some state => deliver (t.step (.setRadio (·.setState state))) .radioState
    | none => pure t
  match step.sourceError, step.scan with
  | some reason, _ => deliver (t.step (.setRadio (·.failScan reason))) (.scanResults true)
  | none, some scan =>
    deliver (t.step (.setRadio (·.setScan scan.records))) (.scanResults scan.succeeded)
  | none, none => pure t

/-- What is seen of a tracker after a step. -/
def look (s : Selection) (number : Nat) (step : Step) (t : Tracker) : Moment where
  number := number
  atMillis := step.atMillis
  radioState := t.recorded
  entries :=
    (t.entries.filter (EntryFilter.allAccept (s.filters step.atMillis))).map
      (EntryView.ofEntry step.atMillis)

/-- Plays steps, the first of which has the given number. -/
def play (s : Selection) (number : Nat) : List Step → Tracker → Except TrackerError (List Moment)
  | [], _ => .ok []
  | step :: rest, t => do
    let t ← applyStep t step
    let later ← play s (number + 1) rest t
    return look s number step t :: later

/-- Every moment of a replay. The tracker is started at the time of the first step, and requests
no scans. -/
def moments (config : TrackerConfig) (s : Selection) (script : Script) :
    Except TrackerError (List Moment) :=
  let start := (script.steps.head?.map (·.atMillis)).getD 0
  let t := Tracker.new { config with activeScanning := false } (.new .unknown) start
  match t.start with
  | (.failed e, _) => .error e
  | (_, t) => play s 1 script.steps t

end ScanRoster.Replay
