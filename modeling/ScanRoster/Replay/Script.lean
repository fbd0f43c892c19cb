import ScanRoster.Document.JsonText
import ScanRoster.Document.YamlText
import ScanRoster.Path
import ScanRoster.Record.Reading

/-!
# Replay scripts

A script is a list of steps, each with a time and optionally a radio state, a scan and a failure
of the scan source. Scripts, steps and scans refuse fields that they do not know.
-/

namespace ScanRoster.Replay

open Document

/-- A scan list as it is replayed, and whether the scan behind it succeeded. -/
structure Scan where
  succeeded : Bool
  records : List Sighting
  deriving DecidableEq

/-- One moment of a replay. A source error wins over a scan. -/
structure Step where
  atMillis : Int64
  radioState : Option RadioState
  scan : Option Scan
  sourceError : Option String
  deriving DecidableEq

/-- A scripted sequence of moments. -/
structure Script where
  steps : List Step
  deriving DecidableEq

/-- How a scan is read. It has succeeded, and it found nothing, where nothing else is said. -/
def Scan.shape (medium : Medium) : RecordShape Scan Scan where
  name := "ScanStep"
  fields := ["succeeded", "records"]
  lenient := false
  blank := ⟨true, []⟩
  take draft name d :=
    match name with
    | "succeeded" => return { draft with succeeded := ← d.readFlag }
    | _ => return { draft with records := ← d.readList (Sighting.read medium) }
  finish := .ok

namespace Step

/-- The fields of a step met so far. -/
structure Draft where
  atMillis : Option Int64
  radioState : Option RadioState
  scan : Option Scan
  sourceError : Option String

/-- How a step is read. Only its time must be there. -/
def shape (medium : Medium) : RecordShape Draft Step where
  name := "ReplayStep"
  fields := ["at_millis", "radio_state", "scan", "source_error"]
  lenient := false
  blank := ⟨none, none, none, none⟩
  take draft name d :=
    match name with
    | "at_millis" => return { draft with atMillis := some (← d.readTime) }
    | "radio_state" =>
      return { draft with radioState := ← d.readOptional (RadioState.read medium) }
    | "scan" =>
      return { draft with scan := ← d.readOptional fun v => v.readRecord medium (Scan.shape medium) }
    | _ => return { draft with sourceError := ← d.readOptional readText }
  finish draft :=
    return ⟨← required "at_millis" draft.atMillis, draft.radioState, draft.scan,
      draft.sourceError⟩

end Step

namespace Script

/-- How a script is read. -/
def shape (medium : Medium) : RecordShape Script Script where
  name := "ReplayScript"
  fields := ["steps"]
  lenient := false
  blank := ⟨[]⟩
  take _ _ d :=
    return ⟨← d.readList fun v => v.readRecord medium (Step.shape medium)⟩
  finish := .ok

/-- A script from a document. -/
def read (medium : Medium) (d : Document) : Except Fault Script :=
  d.readRecord medium (shape medium)

/-- A script from JSON text. -/
def ofJsonText (text : String) : Except Fault Script := do
  let (d, trailing) := Document.ofJsonText text
  let script ← read .jsonText d
  if trailing then throw .trailingCharacters
  return script

/-- A script from YAML text. -/
def ofYamlText (text : String) : Except Fault Script :=
  match Document.ofYamlText? text with
  | some d => read .yaml d
  | none => .error .malformed

/-- Whether a path names a YAML file, by its extension in either case. -/
def isYamlPath (path : String) : Bool :=
  match Path.extension? path with
  | some e => e.toLower == "yaml" || e.toLower == "yml"
  | none => false

/-- A script from the text of the file with the given path. -/
def ofText (path text : String) : Except Fault Script :=
  if isYamlPath path then ofYamlText text else ofJsonText text

end Script

end ScanRoster.Replay
