import ScanRoster.Classification
import ScanRoster.CommandLine.Error
import ScanRoster.CommandLine.Help
import ScanRoster.CommandLine.Reading
import ScanRoster.Settings.Preferences

/-!
# Carrying out commands

What each command does on a host, in an environment of variables.
-/

namespace ScanRoster.CommandLine

/-- The variables of the environment, and whether what is printed is seen on a terminal that shows
colours. -/
structure Surroundings where
  environment : List (String × String)
  terminal : Bool

namespace Surroundings

/-- The value of a variable. -/
def value? (s : Surroundings) (name : String) : Option String :=
  (s.environment.find? (·.1 == name)).map (·.2)

/-- The folder for settings: the one that is set, if it is a full path, else one at home. -/
def settingsFolder (s : Surroundings) : String :=
  match (s.value? "XDG_CONFIG_HOME").filter Path.isAbsolute, s.value? "HOME" with
  | some folder, _ => folder
  | none, home => Path.join (home.getD ".") ".config"

/-- The settings file where the command line names none. -/
def settingsPath (s : Surroundings) : String :=
  Path.join (Path.join s.settingsFolder "wifitrack") "config.toml"

end Surroundings

/-- What is done on a host, and may fail. -/
abbrev Doing (m : Type → Type) := ExceptT Failure m

variable {m : Type → Type} [Monad m]

/-- Goes on with what an operation on files has given. -/
def orFail {α : Type} (wrap : FileFault → Failure) (x : m (Except FileFault α)) : Doing m α := do
  match ← x with
  | .ok a => return a
  | .error e => throw (wrap e)

/-- Goes on with a value, or fails. -/
def orElse {ε α : Type} (wrap : ε → Failure) (r : Except ε α) : Doing m α :=
  match r with
  | .ok a => pure a
  | .error e => throw (wrap e)

namespace Invocation

/-- The settings file. -/
def settingsPath (i : Invocation) (s : Surroundings) : String :=
  i.config.getD s.settingsPath

/-- What stands in the place of the settings file, by what reading it has given. A path that leads to
no file counts as one to nothing; a file that cannot be read is no settings file. -/
def settingsText : Except FileFault String → Settings.FileText
  | .ok text => .text text
  | .error .missing | .error .isFolder | .error .notFolder => .absent
  | .error _ => .garbled

/-- The settings. The file is looked for under its path alone: in the folders above the working
folder a path that does not start at the root is not tried. -/
def loadSettings (i : Invocation) (host : Host m) (s : Surroundings) : Doing m Settings := do
  let file := settingsText (← host.read (i.settingsPath s))
  orElse (.settings ∘ .notLoaded) (Settings.load file s.environment)

/-- The tracker that settings and command line ask for. -/
def trackerConfig (i : Invocation) (host : Host m) (s : Surroundings)
    (maxEntryAge scanInterval : Option Duration) : Doing m TrackerConfig := do
  let settings ← i.loadSettings host s
  let config ← orElse (.settings ∘ .invalid) settings.trackerConfig
  let config : TrackerConfig :=
    { config with
      maxEntryAge := maxEntryAge.getD config.maxEntryAge
      scanInterval := scanInterval.getD config.scanInterval }
  orElse .invalidTracker config.validate
  return config

/-- The format of output, and whether it is coloured. The settings count where the command line
does not say. -/
def preferences (i : Invocation) (host : Host m) (s : Surroundings) :
    Doing m (Output.Format × Bool) := do
  let defaults ←
    match i.output, i.color with
    | some _, some _ => pure Settings.standard.defaults
    | _, _ => do pure (← i.loadSettings host s).defaults
  let format ←
    match i.output with
    | some format => pure format
    | none => orElse (.settings ∘ .invalid) defaults.format
  let mode ←
    match i.color with
    | some mode => pure mode
    | none => orElse (.settings ∘ .invalid) defaults.colorMode
  return (format, mode.wants s.terminal)

/-- Prints a text and a line break, but nothing for an empty text and in quiet. -/
def print (i : Invocation) (host : Host m) (text : String) : Doing m Unit :=
  if i.quiet || text.isEmpty then pure () else host.print (text ++ "\n")

/-- Reads a replay script. -/
def readScript (host : Host m) (path : String) : Doing m Replay.Script := do
  match ← host.read path with
  | .ok text => orElse (.invalidScript path) (Replay.Script.ofText path text)
  | .error .missing => throw (.scriptNotFound path)
  | .error e => throw (.file e)

/-- What a replay prints: every moment, or only the entries of the last one. -/
def replayText (each : Bool) (format : Output.Format) (color : Bool)
    (moments : List Replay.Moment) : String :=
  if each then Replay.Moment.listText color format moments
  else
    (Replay.EntryView.listing color).text format ((moments.getLast?.map (·.entries)).getD [])

/-- Replays a script. -/
def replay (i : Invocation) (host : Host m) (s : Surroundings) (path : String) (each : Bool)
    (maxEntryAge scanInterval : Option Duration) (selection : Replay.Selection) :
    Doing m Unit := do
  let script ← readScript host path
  let config ← i.trackerConfig host s maxEntryAge scanInterval
  let (format, color) ← i.preferences host s
  let moments ← orElse .ofTracker (Replay.moments config selection script)
  i.print host (replayText each format color moments)

/-- Classifies capability texts. -/
def classify (i : Invocation) (host : Host m) (s : Surroundings) (capabilities : List String) :
    Doing m Unit := do
  let (format, color) ← i.preferences host s
  i.print host
    ((Classification.listing color).text format (capabilities.map .ofCapabilities))

/-- Prints the settings, if a tracker can be configured by them. -/
def showSettings (i : Invocation) (host : Host m) (s : Surroundings) : Doing m Unit := do
  let settings ← i.loadSettings host s
  let _ ← orElse (.settings ∘ .invalid) settings.trackerConfig
  i.print host (String.ofList (Text.trimEnd settings.toToml.toList))

/-- Writes the standard settings, over other settings only if that is forced. -/
def writeSettings (i : Invocation) (host : Host m) (s : Surroundings) (force : Bool) :
    Doing m Unit := do
  let path := i.settingsPath s
  if (← host.isThere path) && !force then throw (.settingsExist path)
  orFail (.settings ∘ .notSaved) (host.createFolders (Path.parent path))
  orFail (.settings ∘ .notSaved) (host.write path Settings.standard.toToml)
  i.print host ("Wrote default config to " ++ path)

/-- Writes a manual page for each command, and prints where. -/
def writeManual (i : Invocation) (host : Host m) (folder : String) : Doing m Unit := do
  orFail .file (host.createFolders folder)
  let paths ← Command.withManualPages.mapM fun c => do
    let path := Path.join folder (c.fullName ++ ".1")
    orFail .file (host.write path c.manualPage)
    return path
  i.print host ("\n".intercalate paths)

/-- Does what a command line asks for. -/
def run (i : Invocation) (host : Host m) (s : Surroundings) : Doing m Unit :=
  match i.action with
  | .replay path each maxEntryAge scanInterval selection =>
    i.replay host s path each maxEntryAge scanInterval selection
  | .classify capabilities => i.classify host s capabilities
  | .configInit force => i.writeSettings host s force
  | .configShow => i.showSettings host s
  | .configPath => i.print host (i.settingsPath s)
  | .completions shell => host.print shell.completions
  | .man folder => i.writeManual host folder

end Invocation

end ScanRoster.CommandLine
