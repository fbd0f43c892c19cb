import ScanRoster.Output.Color
import ScanRoster.Output.Format

/-!
# Classified capability texts

Capability texts with their classes, and how they are printed.
-/

namespace ScanRoster

/-- A capability text and its class. -/
structure Classification where
  capabilities : String
  security : SecurityClass
  requiresCredentials : Bool
  deriving DecidableEq

namespace Classification

/-- The class of a text, and whether joining such a network needs a credential. -/
def ofCapabilities (capabilities : String) : Classification :=
  let security := SecurityClass.ofCapabilities capabilities
  ⟨capabilities, security, security.requiresCredentials⟩

/-- The JSON form of a classification. -/
def toJson (c : Classification) : Json :=
  .obj [
    ("capabilities", .str c.capabilities),
    ("security", .str c.security.code),
    ("requires_credentials", .bool c.requiresCredentials)]

/-- A row of a table. The empty text is shown by a word. -/
def row (color : Bool) (c : Classification) : List String :=
  [if c.capabilities.isEmpty then "(empty)" else c.capabilities,
    Output.paintedSecurity color c.security,
    if c.requiresCredentials then "yes" else "no"]

/-- How classifications are printed. -/
def listing (color : Bool) : Output.Listing Classification where
  columns := ["Capabilities", "Security", "Credentials"]
  row := row color
  json := toJson
  identifier c := c.security.code

end Classification

end ScanRoster
