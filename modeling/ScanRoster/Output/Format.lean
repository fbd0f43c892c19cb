import ScanRoster.Table
import ScanRoster.Yaml.Writing

/-!
# Output formats

The formats in which lists are printed: as a table for people, as JSON or YAML for programs, or
plainly with one identifier a line.
-/

namespace ScanRoster.Output

/-- A format of output. -/
inductive Format
  | table
  | json
  | jsonCompact
  | yaml
  | plain
  deriving DecidableEq, Repr

namespace Format

/-- Every format, in declaration order. -/
def all : List Format :=
  [.table, .json, .jsonCompact, .yaml, .plain]

/-- The name of a format. -/
def name : Format → String
  | .table => "table"
  | .json => "json"
  | .jsonCompact => "json-compact"
  | .yaml => "yaml"
  | .plain => "plain"

/-- The format with exactly this name. -/
def ofName? (s : String) : Option Format :=
  all.find? (·.name == s)

end Format

/-- How items are printed: as rows under the names of the columns, as values, or by an
identifier. -/
structure Listing (α : Type) where
  columns : List String
  row : α → List String
  json : α → Json
  identifier : α → String

/-- A list of items in a format. -/
def Listing.text {α : Type} (l : Listing α) (format : Format) (items : List α) : String :=
  match format with
  | .table => (Table.mk l.columns (items.map l.row)).text
  | .json => (Json.arr (items.map l.json)).prettyText
  | .jsonCompact => (Json.arr (items.map l.json)).compactText
  | .yaml => Yaml.write (.arr (items.map l.json))
  | .plain => "\n".intercalate (items.map l.identifier)

end ScanRoster.Output
