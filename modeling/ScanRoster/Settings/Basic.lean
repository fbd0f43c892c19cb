import ScanRoster.Duration.Text
import ScanRoster.TrackerConfig

/-!
# Settings

What a user can set, in two sections. The durations are kept as texts and read when a tracker is
configured.
-/

namespace ScanRoster

/-- How output is written where the command line does not say. -/
structure OutputSection where
  output : String
  color : String
  deriving DecidableEq

/-- How trackers are configured, the durations as texts. -/
structure TrackerSection where
  maxEntryAge : String
  scanInterval : String
  activeScanning : Bool
  deriving DecidableEq

/-- Everything a user can set. -/
structure Settings where
  defaults : OutputSection
  tracker : TrackerSection
  deriving DecidableEq

namespace Settings

/-- Tables, colours where they are seen, and the standard tracker. -/
def standard : Settings where
  defaults := ⟨"table", "auto"⟩
  tracker := ⟨TrackerConfig.standard.maxEntryAge.words, TrackerConfig.standard.scanInterval.words,
    TrackerConfig.standard.activeScanning⟩

/-- What keeps settings from being used. -/
inductive Invalid
  | notDuration (field raw : String) (cause : Duration.TextFault)
  | tracker (cause : TrackerConfig.Invalid)
  | unknownOutput (raw : String)
  | unknownColor (raw : String)
  deriving DecidableEq

/-- The setting that cannot be used. -/
def Invalid.field : Invalid → String
  | .notDuration field _ _ => field
  | .tracker _ => "tracker"
  | .unknownOutput _ => "defaults.output"
  | .unknownColor _ => "defaults.color"

/-- Why a setting cannot be used. -/
def Invalid.reason : Invalid → String
  | .notDuration _ raw cause => "'" ++ raw ++ "' is not a duration (" ++ cause.message ++ ")"
  | .tracker cause => (TrackerError.invalidConfig cause).message
  | .unknownOutput raw | .unknownColor raw => "invalid variant: " ++ raw

/-- The message for a setting that cannot be used. -/
def Invalid.message (i : Invalid) : String :=
  "invalid " ++ i.field ++ ": " ++ i.reason

/-- A duration setting, blanks around it apart. -/
def readDuration (field raw : String) : Except Invalid Duration :=
  (Duration.ofText (Text.trim raw.toList)).mapError (.notDuration field raw)

/-- The tracker that the settings ask for. -/
def trackerConfig (s : Settings) : Except Invalid TrackerConfig := do
  let maxEntryAge ← readDuration "tracker.max_entry_age" s.tracker.maxEntryAge
  let scanInterval ← readDuration "tracker.scan_interval" s.tracker.scanInterval
  let config : TrackerConfig := ⟨maxEntryAge, scanInterval, s.tracker.activeScanning⟩
  config.validate.mapError .tracker
  return config

end Settings

end ScanRoster
