import ScanRoster.Entry
import ScanRoster.Text.Lowercase

/-!
# Entry filters

Conditions on entries, applied by readers; the roster itself holds back nothing.
-/

namespace ScanRoster

/-- A condition on an entry. -/
inductive EntryFilter
  | ofSecurity (wanted : SecurityClass)
  | ssidContains (needle : String)
  | secured
  | seenWithin (now : Int64) (maxAgeMillis : UInt64)

namespace EntryFilter

/-- Whether one text occurs in another without a gap. -/
def occursIn (needle : List Char) : List Char → Bool
  | [] => needle.isEmpty
  | text@(_ :: rest) => needle.isPrefixOf text || occursIn needle rest

/-- Whether the filter lets an entry through. Names are compared in lower case. -/
def accepts (e : Entry) : EntryFilter → Bool
  | .ofSecurity wanted => e.key.security == wanted
  | .ssidContains needle =>
    occursIn (Text.lowercase needle.toList) (Text.lowercase e.key.ssid.toList)
  | .secured => e.key.security.requiresCredentials
  | .seenWithin now maxAgeMillis => e.ageMillis now ≤ maxAgeMillis

/-- Whether every filter of a list lets an entry through. -/
def allAccept (filters : List EntryFilter) (e : Entry) : Bool :=
  filters.all fun f => f.accepts e

end EntryFilter

end ScanRoster
