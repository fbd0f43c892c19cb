import ScanRoster.AgePolicy

/-!
# Tracker configuration

The durations and the flag that are fixed for the life of a tracker, and when they are valid.
-/

namespace ScanRoster

/-- What a tracker is given when it is made. -/
structure TrackerConfig where
  maxEntryAge : Duration
  scanInterval : Duration
  activeScanning : Bool
  deriving DecidableEq

namespace TrackerConfig

/-- Fifteen seconds, ten seconds, and scans on request. -/
def standard : TrackerConfig :=
  ⟨.ofSeconds 15, .ofSeconds 10, true⟩

/-- The age policy of a tracker. -/
def policy (c : TrackerConfig) : AgePolicy :=
  ⟨c.maxEntryAge, c.scanInterval⟩

/-- What keeps a configuration from being used. -/
inductive Invalid
  | noEntryAge
  | noScanInterval
  deriving DecidableEq, Repr

/-- The message for an unusable configuration. -/
def Invalid.message : Invalid → String
  | .noEntryAge => "max_entry_age must be greater than zero"
  | .noScanInterval => "scan_interval must be greater than zero"

/-- Both durations must be longer than nothing; the age is looked at first. -/
def validate (c : TrackerConfig) : Except Invalid Unit :=
  if c.maxEntryAge.isZero then .error .noEntryAge
  else if c.scanInterval.isZero then .error .noScanInterval
  else .ok ()

end TrackerConfig

/-- Misuse of a tracker. -/
inductive TrackerError
  | stopped
  | queueFull (capacity : Nat)
  | invalidConfig (cause : TrackerConfig.Invalid)
  deriving DecidableEq, Repr

/-- The message of a tracker error. -/
def TrackerError.message : TrackerError → String
  | .stopped => "Wifi tracker is not running"
  | .queueFull capacity => "Signal queue is full (" ++ toString capacity ++ " signals pending)"
  | .invalidConfig cause => "Configuration error: " ++ cause.message

end ScanRoster
