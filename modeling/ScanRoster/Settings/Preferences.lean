import ScanRoster.Output.Color
import ScanRoster.Output.Format
import ScanRoster.Settings.Basic

/-!
# Output preferences in settings

The output format and the use of colours that settings name, in either case and with blanks
around the names.
-/

namespace ScanRoster.OutputSection

/-- The name that a setting holds, without the blanks around it. -/
def bareName (raw : String) : String :=
  String.ofList (Text.trim raw.toList)

/-- Whether a setting names something, in either case. -/
def isNamed (raw name : String) : Bool :=
  (bareName raw).toList.map Char.toLower == name.toList

/-- The output format. -/
def format (s : OutputSection) : Except Settings.Invalid Output.Format :=
  match Output.Format.all.find? fun f => isNamed s.output f.name with
  | some f => .ok f
  | none => .error (.unknownOutput (bareName s.output))

/-- The use of colours. -/
def colorMode (s : OutputSection) : Except Settings.Invalid Output.ColorMode :=
  match Output.ColorMode.all.find? fun m => isNamed s.color m.name with
  | some m => .ok m
  | none => .error (.unknownColor (bareName s.color))

end ScanRoster.OutputSection
