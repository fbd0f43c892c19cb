/-!
# Radio states

The power state of the wireless radio, and the codes the states are written with.
-/

namespace ScanRoster

/-- Power state of the radio, in declaration order. -/
inductive RadioState
  | disabling
  | disabled
  | enabling
  | enabled
  | unknown
  deriving DecidableEq, Repr

instance : Inhabited RadioState := ⟨.unknown⟩

namespace RadioState

/-- Every state, in declaration order. -/
def all : List RadioState :=
  [.disabling, .disabled, .enabling, .enabled, .unknown]

/-- The code a state is written with. -/
def code : RadioState → String
  | .disabling => "disabling"
  | .disabled => "disabled"
  | .enabling => "enabling"
  | .enabled => "enabled"
  | .unknown => "unknown"

/-- Position in declaration order. -/
def index : RadioState → Nat
  | .disabling => 0
  | .disabled => 1
  | .enabling => 2
  | .enabled => 3
  | .unknown => 4

/-- Only a radio that is fully on counts as enabled. -/
def isEnabled (s : RadioState) : Bool :=
  s == .enabled

/-- The state with exactly this code. -/
def ofCode? (s : String) : Option RadioState :=
  all.find? (·.code == s)

/-- The state with this code, ASCII letters of either case. -/
def ofCodeIgnoringCase? (s : String) : Option RadioState :=
  ofCode? (String.ofList (s.toList.map Char.toLower))

theorem ofCode?_code (s : RadioState) : ofCode? s.code = some s := by
  cases s <;> decide

end RadioState

end ScanRoster
