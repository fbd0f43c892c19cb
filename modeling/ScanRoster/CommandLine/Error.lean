import ScanRoster.CommandLine.Host
import ScanRoster.Document.Fault
import ScanRoster.Settings.Loading

/-!
# Failures of commands

Why a command fails, with the exit code, the code of the diagnosis, the message and the help for
each cause.
-/

namespace ScanRoster.CommandLine

/-- Why settings cannot be used or saved. -/
inductive SettingsFailure
  | notLoaded (fault : Settings.LoadFault)
  | invalid (cause : Settings.Invalid)
  | notSaved (fault : FileFault)

/-- The message for settings that cannot be used or saved. -/
def SettingsFailure.message : SettingsFailure → String
  | .notLoaded fault => "config loading failed: " ++ fault.message?.getD "malformed file"
  | .invalid cause => cause.message
  | .notSaved fault => "IO error: " ++ fault.message

/-- Why a command fails. -/
inductive Failure
  | scriptNotFound (path : String)
  | invalidScript (path : String) (fault : Document.Fault)
  | invalidTracker (cause : TrackerConfig.Invalid)
  | settingsExist (path : String)
  | settings (failure : SettingsFailure)
  | tracker (e : TrackerError)
  | file (fault : FileFault)

namespace Failure

/-- The failure that an error of a tracker is. -/
def ofTracker : TrackerError → Failure
  | .invalidConfig cause => .invalidTracker cause
  | e => .tracker e

/-- The exit code: 4 for what is not found, 2 for wrong use, 9 for settings, else 1. -/
def exitCode : Failure → Nat
  | .scriptNotFound _ => 4
  | .invalidScript _ _ | .invalidTracker _ => 2
  | .settingsExist _ | .settings _ => 9
  | .tracker _ | .file _ => 1

/-- The code of the diagnosis. -/
def code : Failure → String
  | .scriptNotFound _ => "wifitrack::script_not_found"
  | .invalidScript _ _ => "wifitrack::invalid_script"
  | .invalidTracker _ => "wifitrack::validation"
  | .settingsExist _ => "wifitrack::config_exists"
  | .settings _ => "wifitrack::config"
  | .tracker _ => "wifitrack::tracker"
  | .file _ => "wifitrack::io"

/-- What may be done about a failure. -/
def help? : Failure → Option String
  | .scriptNotFound _ => some "Pass the path to a .json, .yaml or .yml replay script."
  | .invalidScript _ _ =>
    some ("A replay script is an object with a `steps` list. Each step has\n" ++
      "`at_millis` and optionally `radio_state`, `scan` or `source_error`.")
  | .settingsExist _ => some "Use `wifitrack config init --force` to overwrite it."
  | .settings _ =>
    some "Check the config file (`wifitrack config path`) and WIFITRACK_* variables."
  | _ => none

/-- The message of a failure. -/
def message : Failure → String
  | .scriptNotFound path => "Replay script not found: " ++ path
  | .invalidScript path fault => "Invalid replay script " ++ path ++ ": " ++ fault.message
  | .invalidTracker cause => "Invalid value for tracker: " ++ cause.message
  | .settingsExist path => "Config file already exists at " ++ path
  | .settings failure => failure.message
  | .tracker e => e.message
  | .file fault => fault.message

end Failure

end ScanRoster.CommandLine
