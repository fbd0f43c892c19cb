import ScanRoster.Text.Blank

/-!
# Security classes

A closed set of security classes, the codes they are written with, and the class of a
free-form capability text: the text is cut into tokens, each token names at most one
class, and the class of highest rank wins.
-/

namespace ScanRoster

/-- Security class of a wireless network, in declaration order. -/
inductive SecurityClass
  | openAccess
  | wep
  | psk
  | eap
  | eapSuiteB
  | owe
  | sae
  deriving DecidableEq, Repr, Inhabited

namespace SecurityClass

/-- Every class, in declaration order. -/
def all : List SecurityClass :=
  [.openAccess, .wep, .psk, .eap, .eapSuiteB, .owe, .sae]

/-- The code a class is written with. -/
def code : SecurityClass → String
  | .openAccess => "open"
  | .wep => "wep"
  | .psk => "psk"
  | .eap => "eap"
  | .eapSuiteB => "eap-suite-b"
  | .owe => "owe"
  | .sae => "sae"

/-- Position in declaration order. -/
def index : SecurityClass → Nat
  | .openAccess => 0
  | .wep => 1
  | .psk => 2
  | .eap => 3
  | .eapSuiteB => 4
  | .owe => 5
  | .sae => 6

/-- Which class a capability text with several key-management schemes is given. -/
def rank : SecurityClass → Nat
  | .openAccess => 0
  | .owe => 1
  | .eap => 2
  | .eapSuiteB => 3
  | .psk => 4
  | .sae => 5
  | .wep => 6

/-- Whether joining a network of this class needs a credential. -/
def requiresCredentials : SecurityClass → Bool
  | .openAccess | .owe => false
  | _ => true

/-- The class with exactly this code. -/
def ofCode? (s : String) : Option SecurityClass :=
  all.find? (·.code == s)

/-- The class with this code, ASCII letters of either case. -/
def ofCodeIgnoringCase? (s : String) : Option SecurityClass :=
  ofCode? (String.ofList (s.toList.map Char.toLower))

/-- Characters that end a capability token: brackets, dash, plus, slash, comma and blanks. -/
def isSeparator (c : Char) : Bool :=
  c == '[' || c == ']' || c == '-' || c == '+' || c == '/' || c == ',' || Text.isBlank c

/-- The class that one capability token names, ASCII letters of either case. -/
def ofToken? (token : List Char) : Option SecurityClass :=
  match String.ofList (token.map Char.toUpper) with
  | "WEP" => some .wep
  | "SAE" => some .sae
  | "PSK" => some .psk
  | "EAP_SUITE_B_192" => some .eapSuiteB
  | "EAP" => some .eap
  | "OWE" => some .owe
  | "OWE_TRANSITION" => some .owe
  | _ => none

/-- The class of higher rank. -/
def join (a b : SecurityClass) : SecurityClass :=
  if a.rank ≤ b.rank then b else a

/-- The class of a capability text: the highest-ranking class that one of its tokens names,
and `openAccess` where no token names one. -/
def ofCapabilities (s : String) : SecurityClass :=
  ((s.toList.splitOnP isSeparator).filterMap ofToken?).foldl join .openAccess

theorem ofCode?_code (c : SecurityClass) : ofCode? c.code = some c := by
  cases c <;> decide

theorem code_injective {a b : SecurityClass} (h : a.code = b.code) : a = b := by
  cases a <;> cases b <;> simp_all [code]

theorem rank_injective {a b : SecurityClass} (h : a.rank = b.rank) : a = b := by
  cases a <;> cases b <;> simp_all [rank]

end SecurityClass

end ScanRoster
