import ScanRoster.SecurityClass

/-!
# Scan records

A `Sighting` is one observation of a nearby network as the radio reports it; its name may be
missing. An `Observation` is a sighting that has a name, together with the security class of
its capability text. `NetworkKey` is the part that decides which network is meant.
-/

namespace ScanRoster

/-- One observation of a nearby network, as the radio reports it. -/
structure Sighting where
  ssid : Option String
  bssid : String
  capabilities : String
  timestampMillis : Int64
  rssiDbm : Option Int32
  frequencyMhz : Option UInt32
  deriving DecidableEq, Inhabited

/-- What makes access points one network: the same name and the same security class. -/
structure NetworkKey where
  ssid : String
  security : SecurityClass
  deriving DecidableEq, Inhabited

/-- A sighting with a name, classified. -/
structure Observation where
  ssid : String
  bssid : String
  capabilities : String
  security : SecurityClass
  observedAtMillis : Int64
  rssiDbm : Option Int32
  frequencyMhz : Option UInt32
  deriving DecidableEq, Inhabited

namespace NetworkKey

/-- The text a key is shown as: the name, a comma and the code of the class. -/
def display (k : NetworkKey) : String :=
  k.ssid ++ "," ++ k.security.code

/-- Keys are ordered by name, then by class in declaration order. Code points compare as the
bytes of UTF-8 do. -/
def le (a b : NetworkKey) : Bool :=
  if a.ssid = b.ssid then decide (a.security.index ≤ b.security.index)
  else decide (a.ssid.toList < b.ssid.toList)

/-- The keys in their order. -/
def sort (keys : List NetworkKey) : List NetworkKey :=
  keys.mergeSort le

end NetworkKey

namespace Observation

/-- The network an observation belongs to. -/
def key (o : Observation) : NetworkKey :=
  ⟨o.ssid, o.security⟩

end Observation

namespace Sighting

/-- The observation a sighting stands for; a sighting whose name is missing or empty is
dropped. -/
def observation? (s : Sighting) : Option Observation :=
  match s.ssid with
  | none => none
  | some ssid =>
    if ssid = "" then none
    else some {
      ssid
      bssid := s.bssid
      capabilities := s.capabilities
      security := .ofCapabilities s.capabilities
      observedAtMillis := s.timestampMillis
      rssiDbm := s.rssiDbm
      frequencyMhz := s.frequencyMhz }

/-- The observations of a scan list, in its order. -/
def observeAll (sightings : List Sighting) : List Observation :=
  sightings.filterMap observation?

end Sighting

end ScanRoster
