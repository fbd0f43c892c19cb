import ScanRoster.Document.Reading
import ScanRoster.Entry
import ScanRoster.RadioState

/-!
# Records from documents

Sightings, observations, keys and entries read from JSON text, JSON values or YAML. Fields that
are not known are passed over.
-/

namespace ScanRoster

open Document

namespace Document

/-- A time. -/
def readTime (d : Document) : Except Fault Int64 :=
  Int64.ofInt <$> d.readInteger .signed64

/-- A signal strength. -/
def readStrength (d : Document) : Except Fault Int32 :=
  Int32.ofInt <$> d.readInteger .signed32

/-- A frequency. -/
def readFrequency (d : Document) : Except Fault UInt32 :=
  (fun n => UInt32.ofNat n.toNat) <$> d.readInteger .unsigned32

end Document

namespace SecurityClass

/-- The codes of the classes. -/
def codes : List (String × SecurityClass) :=
  all.map fun c => (c.code, c)

/-- A class from its code. -/
def read (medium : Medium) (d : Document) : Except Fault SecurityClass :=
  d.readCode medium codes

end SecurityClass

namespace RadioState

/-- The codes of the states. -/
def codes : List (String × RadioState) :=
  all.map fun s => (s.code, s)

/-- A state from its code. -/
def read (medium : Medium) (d : Document) : Except Fault RadioState :=
  d.readCode medium codes

end RadioState

namespace Sighting

/-- The fields of a sighting met so far. -/
structure Draft where
  ssid : Option (Option String)
  bssid : Option String
  capabilities : Option String
  timestampMillis : Option Int64
  rssiDbm : Option (Option Int32)
  frequencyMhz : Option (Option UInt32)

/-- How a sighting is read. The name, the capability text and the measurements may be missing. -/
def shape : RecordShape Draft Sighting where
  name := "NativeScanRecord"
  fields := ["ssid", "bssid", "capabilities", "timestamp_millis", "rssi_dbm", "frequency_mhz"]
  lenient := true
  blank := ⟨none, none, none, none, none, none⟩
  take draft name d :=
    match name with
    | "ssid" => return { draft with ssid := some (← d.readOptional readText) }
    | "bssid" => return { draft with bssid := some (← d.readText) }
    | "capabilities" => return { draft with capabilities := some (← d.readText) }
    | "timestamp_millis" => return { draft with timestampMillis := some (← d.readTime) }
    | "rssi_dbm" => return { draft with rssiDbm := some (← d.readOptional readStrength) }
    | _ => return { draft with frequencyMhz := some (← d.readOptional readFrequency) }
  finish draft := do
    let bssid ← required "bssid" draft.bssid
    let timestampMillis ← required "timestamp_millis" draft.timestampMillis
    return {
      ssid := draft.ssid.getD none
      bssid
      capabilities := draft.capabilities.getD ""
      timestampMillis
      rssiDbm := draft.rssiDbm.getD none
      frequencyMhz := draft.frequencyMhz.getD none }

/-- A sighting from a document. -/
def read (medium : Medium) (d : Document) : Except Fault Sighting :=
  d.readRecord medium shape

end Sighting

namespace Observation

/-- The fields of an observation met so far. -/
structure Draft where
  ssid : Option String
  bssid : Option String
  capabilities : Option String
  security : Option SecurityClass
  observedAtMillis : Option Int64
  rssiDbm : Option (Option Int32)
  frequencyMhz : Option (Option UInt32)

/-- How an observation is read. Only the measurements may be missing. -/
def shape (medium : Medium) : RecordShape Draft Observation where
  name := "RawScanRecord"
  fields := ["ssid", "bssid", "capabilities", "security", "observed_at_millis", "rssi_dbm",
    "frequency_mhz"]
  lenient := true
  blank := ⟨none, none, none, none, none, none, none⟩
  take draft name d :=
    match name with
    | "ssid" => return { draft with ssid := some (← d.readText) }
    | "bssid" => return { draft with bssid := some (← d.readText) }
    | "capabilities" => return { draft with capabilities := some (← d.readText) }
    | "security" => return { draft with security := some (← SecurityClass.read medium d) }
    | "observed_at_millis" => return { draft with observedAtMillis := some (← d.readTime) }
    | "rssi_dbm" => return { draft with rssiDbm := some (← d.readOptional readStrength) }
    | _ => return { draft with frequencyMhz := some (← d.readOptional readFrequency) }
  finish draft := do
    return {
      ssid := ← required "ssid" draft.ssid
      bssid := ← required "bssid" draft.bssid
      capabilities := ← required "capabilities" draft.capabilities
      security := ← required "security" draft.security
      observedAtMillis := ← required "observed_at_millis" draft.observedAtMillis
      rssiDbm := draft.rssiDbm.getD none
      frequencyMhz := draft.frequencyMhz.getD none }

/-- An observation from a document. -/
def read (medium : Medium) (d : Document) : Except Fault Observation :=
  d.readRecord medium (shape medium)

end Observation

namespace NetworkKey

/-- The fields of a key met so far. -/
structure Draft where
  ssid : Option String
  security : Option SecurityClass

/-- How a key is read. -/
def shape (medium : Medium) : RecordShape Draft NetworkKey where
  name := "CanonicalKey"
  fields := ["ssid", "security"]
  lenient := true
  blank := ⟨none, none⟩
  take draft name d :=
    match name with
    | "ssid" => return { draft with ssid := some (← d.readText) }
    | _ => return { draft with security := some (← SecurityClass.read medium d) }
  finish draft :=
    return ⟨← required "ssid" draft.ssid, ← required "security" draft.security⟩

/-- A key from a document. -/
def read (medium : Medium) (d : Document) : Except Fault NetworkKey :=
  d.readRecord medium (shape medium)

end NetworkKey

namespace Entry

/-- The fields of an entry met so far. -/
structure Draft where
  key : Option NetworkKey
  lastSeenMillis : Option Int64
  representative : Option Observation

/-- How an entry is read. -/
def shape (medium : Medium) : RecordShape Draft Entry where
  name := "WifiEntry"
  fields := ["key", "last_seen_millis", "representative"]
  lenient := true
  blank := ⟨none, none, none⟩
  take draft name d :=
    match name with
    | "key" => return { draft with key := some (← NetworkKey.read medium d) }
    | "last_seen_millis" => return { draft with lastSeenMillis := some (← d.readTime) }
    | _ => return { draft with representative := some (← Observation.read medium d) }
  finish draft :=
    return ⟨← required "key" draft.key, ← required "last_seen_millis" draft.lastSeenMillis,
      ← required "representative" draft.representative⟩

/-- An entry from a document. -/
def read (medium : Medium) (d : Document) : Except Fault Entry :=
  d.readRecord medium (shape medium)

end Entry

end ScanRoster
