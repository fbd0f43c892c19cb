import ScanRoster.Yaml.Scalar

/-!
# YAML tokens

The tokens of a YAML stream. Indentation has become tokens of its own, which open and close
blocks.
-/

namespace ScanRoster.Yaml

/-- A token of a YAML stream. -/
inductive Token
  | version (major minor : Nat)
  | tagHandle (handle start : String)
  | documentStart
  | documentEnd
  | blockListStart
  | blockMapStart
  | blockEnd
  | flowListStart
  | flowListEnd
  | flowMapStart
  | flowMapEnd
  | blockEntry
  | flowEntry
  | key
  | value
  | alias (name : String)
  | anchor (name : String)
  | tag (handle rest : String)
  | scalar (text : String) (style : ScalarStyle)
  deriving DecidableEq

end ScanRoster.Yaml
