import ScanRoster.Decimal.Shortest

/-!
# TOML values

The values of a TOML document. Dates and times only count as such: nothing reads them.
-/

namespace ScanRoster.Toml

/-- A TOML value. A floating-point number is given by its bits. -/
inductive Value
  | text (s : String)
  | integer (n : Int)
  | float (bits : UInt64)
  | flag (b : Bool)
  | time
  | list (items : List Value)
  | table (fields : List (String × Value))

end ScanRoster.Toml
