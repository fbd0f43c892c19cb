import ScanRoster.Entry
import ScanRoster.Json.Value
import ScanRoster.RadioState

/-!
# Records as JSON

The JSON form of sightings, observations, keys and entries. Fields stand in declaration order;
a missing measurement is left out, and a missing name of a sighting is written as null.
-/

namespace ScanRoster

namespace Json

/-- The fields of the two measurements of a record, where present. -/
def measurements (rssiDbm : Option Int32) (frequencyMhz : Option UInt32) :
    List (String × Json) :=
  (rssiDbm.map fun n => ("rssi_dbm", Json.int n.toInt)).toList ++
    (frequencyMhz.map fun n => ("frequency_mhz", Json.int n.toNat)).toList

end Json

/-- The JSON form of a sighting. -/
def Sighting.toJson (s : Sighting) : Json :=
  .obj ([
    ("ssid", .ofOption .str s.ssid),
    ("bssid", .str s.bssid),
    ("capabilities", .str s.capabilities),
    ("timestamp_millis", .int s.timestampMillis.toInt)] ++
    Json.measurements s.rssiDbm s.frequencyMhz)

/-- The JSON form of an observation. -/
def Observation.toJson (o : Observation) : Json :=
  .obj ([
    ("ssid", .str o.ssid),
    ("bssid", .str o.bssid),
    ("capabilities", .str o.capabilities),
    ("security", .str o.security.code),
    ("observed_at_millis", .int o.observedAtMillis.toInt)] ++
    Json.measurements o.rssiDbm o.frequencyMhz)

/-- The JSON form of a key. -/
def NetworkKey.toJson (k : NetworkKey) : Json :=
  .obj [("ssid", .str k.ssid), ("security", .str k.security.code)]

/-- The JSON form of an entry. -/
def Entry.toJson (e : Entry) : Json :=
  .obj [
    ("key", e.key.toJson),
    ("last_seen_millis", .int e.lastSeenMillis.toInt),
    ("representative", e.representative.toJson)]

end ScanRoster
