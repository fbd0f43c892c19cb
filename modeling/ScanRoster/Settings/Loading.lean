import ScanRoster.Settings.Basic
import ScanRoster.Settings.Layer
import ScanRoster.Toml.Writing

/-!
# Settings loaded and saved

Settings are loaded from the standard values, a file and the environment, the later ones laid
over the earlier ones, and are saved as a TOML file.
-/

namespace ScanRoster.Settings

/-- What a value of a setting must be. -/
inductive Kind
  | text
  | flag
  | section (name : String)
  deriving DecidableEq

/-- The words for what a value of a setting must be. -/
def Kind.words : Kind → String
  | .text => "a string"
  | .flag => "a boolean"
  | .section name => "struct " ++ name

/-- Why settings cannot be loaded. -/
inductive LoadFault
  | malformedFile
  | wrongKind (path : List String) (found : Layer) (wanted : Kind)

/-- The place that a fault is about, dots between its parts. -/
def LoadFault.key : LoadFault → String
  | .malformedFile => ""
  | .wrongKind path _ _ => ".".intercalate path

/-- The message of a fault, if it is not about the file as a whole. -/
def LoadFault.message? : LoadFault → Option String
  | .malformedFile => none
  | .wrongKind _ found wanted =>
    some ("invalid type: found " ++ found.words ++ ", expected " ++ wanted.words)

/-- A text setting. -/
def textAt (path : List String) : Layer → Except LoadFault String
  | .text s => .ok s
  | found => .error (.wrongKind path found .text)

/-- A flag setting. -/
def flagAt (path : List String) : Layer → Except LoadFault Bool
  | .flag b => .ok b
  | found => .error (.wrongKind path found .flag)

/-- A section as its fields: in a list, the values stand in the order of the fields. -/
def sectionAt (name record : String) (order : List String) :
    Layer → Except LoadFault (List (String × String × Layer))
  | .fields fs => .ok (fs.map fun (k, v) => (k, k, v))
  | .list items =>
    .ok ((order.zip items).zipIdx.map fun ((k, v), i) => (k, toString i, v))
  | found => .error (.wrongKind [name] found (.section record))

/-- A setting of a section, which keeps its standard value where nothing is given. The key in
messages may be a position. -/
def settingAt {α : Type} (name key : String) (standard : α)
    (read : List String → Layer → Except LoadFault α)
    (fields : List (String × String × Layer)) : Except LoadFault α :=
  match fields.find? (·.1 == key) with
  | some (_, shown, v) => read [name, shown] v
  | none => .ok standard

/-- The output section. Of two faults the one in the earlier key, by the alphabet, is told. -/
def outputSection (v : Layer) : Except LoadFault OutputSection := do
  let fields ← sectionAt "defaults" "Defaults" ["output", "color"] v
  let standard := Settings.standard.defaults
  match v with
  | .list _ => do
    let output ← settingAt "defaults" "output" standard.output textAt fields
    let color ← settingAt "defaults" "color" standard.color textAt fields
    return ⟨output, color⟩
  | _ => do
    let color ← settingAt "defaults" "color" standard.color textAt fields
    let output ← settingAt "defaults" "output" standard.output textAt fields
    return ⟨output, color⟩

/-- The tracker section. Of two faults the one in the earlier key, by the alphabet, is told. -/
def trackerSection (v : Layer) : Except LoadFault TrackerSection := do
  let fields ←
    sectionAt "tracker" "TrackerSection" ["max_entry_age", "scan_interval", "active_scanning"] v
  let standard := Settings.standard.tracker
  let active := settingAt "tracker" "active_scanning" standard.activeScanning flagAt fields
  let age := settingAt "tracker" "max_entry_age" standard.maxEntryAge textAt fields
  let interval := settingAt "tracker" "scan_interval" standard.scanInterval textAt fields
  match v with
  | .list _ => do
    let maxEntryAge ← age
    let scanInterval ← interval
    return ⟨maxEntryAge, scanInterval, ← active⟩
  | _ => do
    let activeScanning ← active
    let maxEntryAge ← age
    return ⟨maxEntryAge, ← interval, activeScanning⟩

/-- Settings as a layer. -/
def toLayer (s : Settings) : Layer :=
  .fields [
    ("defaults", .fields [
      ("output", .text s.defaults.output),
      ("color", .text s.defaults.color)]),
    ("tracker", .fields [
      ("max_entry_age", .text s.tracker.maxEntryAge),
      ("scan_interval", .text s.tracker.scanInterval),
      ("active_scanning", .flag s.tracker.activeScanning)])]

/-- Settings from a layer. -/
def ofLayer (v : Layer) : Except LoadFault Settings :=
  match v with
  | .fields fs => do
    let defaults ←
      match Layer.lookUp "defaults" fs with
      | some v => outputSection v
      | none => pure Settings.standard.defaults
    let tracker ←
      match Layer.lookUp "tracker" fs with
      | some v => trackerSection v
      | none => pure Settings.standard.tracker
    return ⟨defaults, tracker⟩
  | found => .error (.wrongKind [] found (.section "Config"))

/-- What stands where a settings file may be: nothing, a text, or bytes that are no text. -/
inductive FileText
  | absent
  | text (s : String)
  | garbled

/-- The layer of a settings file. -/
def fileLayer : FileText → Except LoadFault Layer
  | .absent => .ok (.fields [])
  | .text s =>
    match Toml.read? s with
    | some fields => .ok (.fields (Layer.ofTomlFields fields))
    | none => .error .malformedFile
  | .garbled => .error .malformedFile

/-- The settings of a file and an environment, whose variables are given in the order of their
names. -/
def load (file : FileText) (env : List (String × String)) : Except LoadFault Settings := do
  let fileValues ← fileLayer file
  ofLayer ((Settings.standard.toLayer.under fileValues).under (Variable.layer env))

/-- The settings file. -/
def toToml (s : Settings) : String :=
  String.ofList
    (Toml.encodeTable "defaults" [
        ("output", Toml.encodeText s.defaults.output.toList),
        ("color", Toml.encodeText s.defaults.color.toList)] ++
      '\n' ::
      Toml.encodeTable "tracker" [
        ("max_entry_age", Toml.encodeText s.tracker.maxEntryAge.toList),
        ("scan_interval", Toml.encodeText s.tracker.scanInterval.toList),
        ("active_scanning", Toml.encodeFlag s.tracker.activeScanning)])

end ScanRoster.Settings
