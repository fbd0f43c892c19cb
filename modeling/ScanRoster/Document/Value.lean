import ScanRoster.Document.Basic

/-!
# Documents as values

The form that an object takes once it is a value in memory: its fields stand in the order of
their names, and of several fields with one name the last counts.
-/

namespace ScanRoster.Document

/-- A field put into fields that are ordered by name. A field of that name gives way. -/
def insertField (k : String) (v : Document) :
    List (Document × Document) → List (Document × Document)
  | [] => [(.text k, v)]
  | (.text k', v') :: rest =>
    if k = k' then (.text k, v) :: rest
    else if k.toList < k'.toList then (.text k, v) :: (.text k', v') :: rest
    else (.text k', v') :: insertField k v rest
  | f :: rest => f :: insertField k v rest

mutual

/-- The value with all its objects ordered. -/
def ordered : Document → Document
  | .list items ending => .list (orderedItems items) ending
  | .object fields ending => .object (orderedFields [] fields) ending
  | d => d

/-- The items of a list with all their objects ordered. -/
def orderedItems : List Document → List Document
  | [] => []
  | d :: rest => ordered d :: orderedItems rest

/-- Fields added one by one to fields that are ordered already. -/
def orderedFields (done : List (Document × Document)) :
    List (Document × Document) → List (Document × Document)
  | [] => done
  | (.text k, v) :: rest => orderedFields (insertField k (ordered v) done) rest
  | _ :: rest => orderedFields done rest

end

/-- The value of a field of an object. -/
def field? (name : String) : Document → Option Document
  | .object fields _ =>
    (fields.find? fun (k, _) =>
      match k with
      | .text s => s == name
      | _ => false).map (·.2)
  | _ => none

end ScanRoster.Document
