import ScanRoster.SecurityClass

/-!
# Colours of a terminal

When output is coloured, and the marks around a coloured text.
-/

namespace ScanRoster.Output

/-- When colours are used. -/
inductive ColorMode
  | auto
  | always
  | never
  deriving DecidableEq, Repr

namespace ColorMode

/-- Every mode, in declaration order. -/
def all : List ColorMode :=
  [.auto, .always, .never]

/-- The name of a mode. -/
def name : ColorMode → String
  | .auto => "auto"
  | .always => "always"
  | .never => "never"

/-- The mode with exactly this name. -/
def ofName? (s : String) : Option ColorMode :=
  all.find? (·.name == s)

/-- Whether a mode asks for colours, on a terminal that shows them or elsewhere. -/
def wants (terminal : Bool) : ColorMode → Bool
  | .auto => terminal
  | .always => true
  | .never => false

end ColorMode

/-- The mark that switches the rendition of what follows. -/
def escape (rendition : Nat) : String :=
  "\x1b[" ++ toString rendition ++ "m"

/-- A text in the colour with the given number. -/
def colored (color : Nat) (s : String) : String :=
  escape color ++ s ++ escape 39

/-- The colour of a class, by how much the network protects traffic: red, yellow, cyan or
green. -/
def securityColor : SecurityClass → Nat
  | .openAccess => 31
  | .wep => 33
  | .owe => 36
  | .psk | .eap | .eapSuiteB | .sae => 32

/-- The code of a class, perhaps in its colour. -/
def paintedSecurity (color : Bool) (c : SecurityClass) : String :=
  if color then colored (securityColor c) c.code else c.code

/-- A heading, perhaps bold and in magenta. -/
def paintedHeading (color : Bool) (s : String) : String :=
  if color then colored 35 (escape 1 ++ s ++ escape 0) else s

end ScanRoster.Output
