import ScanRoster.Duration.Text
import ScanRoster.Entry
import ScanRoster.Output.Color
import ScanRoster.Output.Format
import ScanRoster.Record.Json

/-!
# Moments of a replay

What is shown of a replay: entries with their ages, and the moments at which they were looked at.
-/

namespace ScanRoster.Replay

/-- An entry as it is shown at some time. -/
structure EntryView where
  ssid : String
  security : SecurityClass
  bssid : String
  lastSeenMillis : Int64
  ageMillis : UInt64
  rssiDbm : Option Int32
  frequencyMhz : Option UInt32
  deriving DecidableEq

namespace EntryView

/-- An entry as it is shown at the given time. -/
def ofEntry (now : Int64) (e : Entry) : EntryView where
  ssid := e.key.ssid
  security := e.key.security
  bssid := e.representative.bssid
  lastSeenMillis := e.lastSeenMillis
  ageMillis := e.ageMillis now
  rssiDbm := e.representative.rssiDbm
  frequencyMhz := e.representative.frequencyMhz

/-- The name and the class, a comma between them. -/
def key (v : EntryView) : String :=
  v.ssid ++ "," ++ v.security.code

/-- The JSON form of an entry that is shown. -/
def toJson (v : EntryView) : Json :=
  .obj ([
    ("ssid", .str v.ssid),
    ("security", .str v.security.code),
    ("bssid", .str v.bssid),
    ("last_seen_millis", .int v.lastSeenMillis.toInt),
    ("age_millis", .int v.ageMillis.toNat)] ++
    Json.measurements v.rssiDbm v.frequencyMhz)

/-- A row of a table. -/
def row (color : Bool) (v : EntryView) : List String :=
  [v.ssid,
    Output.paintedSecurity color v.security,
    v.bssid,
    (Duration.ofMillis v.ageMillis).words ++ " ago",
    match v.rssiDbm with
    | some dbm => toString dbm.toInt ++ " dBm"
    | none => "-"]

/-- How entries are printed. -/
def listing (color : Bool) : Output.Listing EntryView where
  columns := ["SSID", "Security", "BSSID", "Last Seen", "RSSI"]
  row := row color
  json := toJson
  identifier := key

end EntryView

/-- What is seen after a step of a replay. Steps are numbered from one. -/
structure Moment where
  number : Nat
  atMillis : Int64
  radioState : RadioState
  entries : List EntryView
  deriving DecidableEq

namespace Moment

/-- The JSON form of a moment. -/
def toJson (m : Moment) : Json :=
  .obj [
    ("step", .int m.number),
    ("at_millis", .int m.atMillis.toInt),
    ("radio_state", .str m.radioState.code),
    ("entries", .arr (m.entries.map EntryView.toJson))]

/-- The line above the entries of a moment. -/
def heading (m : Moment) : String :=
  "step " ++ toString m.number ++ " @ " ++ toString m.atMillis.toInt ++ " (" ++
    m.radioState.code ++ ")"

/-- A moment for people to read: its heading, and its entries below. -/
def text (color : Bool) (format : Output.Format) (m : Moment) : String :=
  Output.paintedHeading color m.heading ++ "\n" ++
    (EntryView.listing color).text format m.entries

/-- A list of moments in a format. -/
def listText (color : Bool) (format : Output.Format) (moments : List Moment) : String :=
  match format with
  | .table | .plain => "\n\n".intercalate (moments.map (text color format))
  | .json => (Json.arr (moments.map toJson)).prettyText
  | .jsonCompact => (Json.arr (moments.map toJson)).compactText
  | .yaml => Yaml.write (.arr (moments.map toJson))

end Moment

end ScanRoster.Replay
