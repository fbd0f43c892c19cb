import ScanRoster.Toml.Value

/-!
# TOML tables under construction

A document defines its tables piece by piece, by headers and by dotted keys, and no piece may
define again what an earlier one has defined. So a table remembers how it came about until the
document is complete.
-/

namespace ScanRoster.Toml

/-- Part of a document under construction. A table is `implicit` while no header has named it,
and `dotted` if a dotted key made it. Of an array of tables, the last is open for more. -/
inductive Item
  | value (v : Value)
  | table (implicit dotted : Bool) (fields : List (String × Item))
  | tables (done : List (List (String × Item))) (last : List (String × Item))

/-- The fields of a table under construction. -/
abbrev Fields := List (String × Item)

mutual

/-- The value of a complete item. -/
def Item.complete : Item → Value
  | .value v => v
  | .table _ _ fields => .table (completeFields fields)
  | .tables done last => .list (completeTables done ++ [.table (completeFields last)])

/-- The values of complete fields. -/
def completeFields : List (String × Item) → List (String × Value)
  | [] => []
  | (k, i) :: rest => (k, i.complete) :: completeFields rest

/-- The values of complete tables. -/
def completeTables : List (List (String × Item)) → List Value
  | [] => []
  | t :: rest => .table (completeFields t) :: completeTables rest

end

namespace Fields

/-- The item under a key. -/
def lookup? (fields : Fields) (key : String) : Option Item :=
  (List.find? (fun f => f.1 == key) fields).map (·.2)

/-- Another item under a key that is there. -/
def replace (fields : Fields) (key : String) (i : Item) : Fields :=
  fields.map fun (k, j) => if k = key then (k, i) else (k, j)

/-- Changes the table at the end of a path, whose tables are made where they are missing. A
dotted path does not enter tables that a header has named. The change is told whether the table
was made by a dotted key. -/
def change (byDots : Bool) (act : Bool → Fields → Option Fields) (dotted : Bool) :
    List String → Fields → Option Fields
  | [], fields => act dotted fields
  | key :: path, fields =>
    match fields.lookup? key with
    | none => do
      let made ← change byDots act byDots path []
      return fields ++ [(key, .table true byDots made)]
    | some (.value _) => none
    | some (.tables done last) => do
      let last ← change byDots act false path last
      return fields.replace key (.tables done last)
    | some (.table implicit dotted inner) =>
      if byDots && !implicit then none
      else do
        let inner ← change byDots act dotted path inner
        return fields.replace key (.table implicit dotted inner)

/-- Defines a key. Dots may lead only to tables that dots have made. -/
def define (path : List String) (key : String) (v : Value) (fields : Fields) : Option Fields :=
  change true
    (fun dotted fields =>
      if dotted == path.isEmpty then none
      else
        match fields.lookup? key with
        | none => some (fields ++ [(key, .value v)])
        | some _ => none)
    false path fields

/-- Opens the table that a header names. -/
def openTable (path : List String) (key : String) (fields : Fields) : Option Fields :=
  change false
    (fun _ fields =>
      match fields.lookup? key with
      | none => some (fields ++ [(key, .table false false [])])
      | some (.table true false inner) => some (fields.replace key (.table false false inner))
      | some _ => none)
    false path fields

/-- Opens one more table of the array that a header names. -/
def openTables (path : List String) (key : String) (fields : Fields) : Option Fields :=
  change false
    (fun _ fields =>
      match fields.lookup? key with
      | none => some (fields ++ [(key, .tables [] [])])
      | some (.tables done last) => some (fields.replace key (.tables (done ++ [last]) []))
      | some _ => none)
    false path fields

/-- Defines a key in the table that the last header has opened. -/
def defineIn (header path : List String) (key : String) (v : Value) (fields : Fields) :
    Option Fields :=
  change false (fun _ fields => fields.define path key v) false header fields

end Fields

end ScanRoster.Toml
