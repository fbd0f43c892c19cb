import ScanRoster.Document.Basic

/-!
# Reading typed values from documents

Readers for texts, flags, whole numbers, optional values, lists, codes and records. They work
on three media, which differ in what they take for a code, for an empty value and for a record:
JSON text, JSON values that are already in memory, and YAML.
-/

namespace ScanRoster.Document

/-- Where a document comes from. -/
inductive Medium
  | jsonText
  | jsonValue
  | yaml
  deriving DecidableEq, Repr

/-- The fault of a value that is not what is wanted. -/
def wrong {α : Type} (d : Document) (wanted : Wanted) : Except Fault α := do
  let found ← d.found
  throw (.wrongType found wanted)

/-- Whether an untagged plain scalar without text stands here. -/
def isEmptyScalar : Document → Bool
  | .scalar s => s.text.isEmpty && s.style == .plain
  | _ => false

/-- Whether a scalar stands for nothing. -/
def scalarIsNull (s : Yaml.Scalar) : Except Fault Bool :=
  if s.style ≠ .plain then .ok false
  else
    match s.tag with
    | none => .ok (s.text.isEmpty || Yaml.isNullWord s.text)
    | some tag =>
      if tag ≠ Yaml.coreTag "null" then .ok false
      else if Yaml.isNullWord s.text then .ok true
      else .error .malformed

/-- Whether a scalar may be read as a value of the core type with the given name. -/
def mayBe (s : Yaml.Scalar) (type : String) : Bool :=
  s.style == .plain || (s.style == .literal && s.tag == some (Yaml.coreTag type))

/-- A text. -/
def readText : Document → Except Fault String
  | .text s => .ok s
  | .scalar s => .ok s.text
  | d => d.wrong .text

/-- A flag. -/
def readFlag : Document → Except Fault Bool
  | .flag b => .ok b
  | .scalar s =>
    match Yaml.flagWord? s.text with
    | some b => if mayBe s "bool" then .ok b else .error .malformed
    | none => .error .malformed
  | d => d.wrong .flag

/-- A whole number of a range. -/
def readInteger (range : IntRange) (d : Document) : Except Fault Int :=
  let inRange (n : Int) : Except Fault Int :=
    if range.least ≤ n ∧ n ≤ range.most then .ok n else .error (.outOfRange (.whole n) range)
  match d with
  | .number (.whole n) => inRange n
  | .scalar s =>
    match Yaml.integer? s.text with
    | some n => if mayBe s "int" then inRange n else .error .malformed
    | none => .error .malformed
  | d => d.wrong (.integer range)

/-- A value that may be missing. -/
def readOptional {α : Type} (read : Document → Except Fault α) (d : Document) :
    Except Fault (Option α) :=
  match d with
  | .null => .ok none
  | .scalar s => do
    if ← scalarIsNull s then return none
    return some (← read d)
  | _ => some <$> read d

/-- A list of values. -/
def readList {α : Type} (read : Document → Except Fault α) (d : Document) :
    Except Fault (List α) :=
  match d with
  | .list items ending => do
    let values ← items.mapM read
    ending.afterItem
    return values
  | d => if d.isEmptyScalar then .ok [] else d.wrong .list

/-- The value that a code stands for. -/
def lookUp {α : Type} (codes : List (String × α)) (name : String) : Except Fault α :=
  match codes.find? (·.1 == name) with
  | some (_, value) => .ok value
  | none => .error (.unknownCode name (codes.map (·.1)))

/-- The null that may stand beside a code. -/
def readNothing : Document → Except Fault Unit
  | .null => .ok ()
  | d => d.wrong .nothing

/-- A code that stands as the only key of an object in JSON text. -/
def readCodeField {α : Type} (codes : List (String × α)) (fields : List (Document × Document))
    (ending : Ending) : Except Fault α :=
  match fields with
  | [] => .error (if ending = .ended then .endInValue else .expectedValue)
  | (k, v) :: rest => do
    let name ←
      match k with
      | .text s => pure s
      | k => k.wrong .codeName
    let value ← lookUp codes name
    readNothing v
    if rest ≠ [] ∨ ending ≠ .closed then
      throw (if rest = [] ∧ ending = .ended then .endInObject else .expectedValue)
    return value

/-- A code: its text, or an object with the code as its only key and nothing as value; in YAML,
also the code as a tag of nothing. -/
def readCode {α : Type} (medium : Medium) (codes : List (String × α)) (d : Document) :
    Except Fault α :=
  match medium, d with
  | _, .text s => lookUp codes s
  | .jsonText, .object fields ending => readCodeField codes fields ending
  | .jsonText, .flawed .text fault => .error fault
  | .jsonText, .broken .text read _ => .error read
  | .jsonText, .broken .ended read _ => .error read
  | .jsonText, _ => .error .expectedValue
  | .jsonValue, .object [(.text s, v)] _ => do
    let value ← lookUp codes s
    readNothing v
    return value
  | .jsonValue, .object _ _ => .error .severalKeys
  | .yaml, .scalar s =>
    match s.tag.map String.toList with
    | some ('!' :: rest) => do
      let value ← lookUp codes (String.ofList (if rest.isEmpty then ['!'] else rest))
      if s.style = .plain ∧ (s.text.isEmpty ∨ Yaml.isNullWord s.text) then return value
      throw .malformed
    | _ => lookUp codes s.text
  | _, d => d.wrong .code

/-- How a record is read. The values of its fields are gathered in a draft, and `finish` looks
for what is missing, in the order of the fields. A lenient record passes over fields that it
does not know. -/
structure RecordShape (δ α : Type) where
  name : String
  fields : List String
  lenient : Bool
  blank : δ
  take : δ → String → Document → Except Fault δ
  finish : δ → Except Fault α

/-- The name of a field. -/
def readKey : Document → Except Fault String
  | .text s => .ok s
  | .scalar s => .ok s.text
  | .flawed .text fault => .error fault
  | .broken .text read _ => .error read
  | _ => .error .keyNotText

/-- The fields of an object, gathered in a draft. `seen` holds the names met so far. -/
def readFields {δ α : Type} (medium : Medium) (shape : RecordShape δ α) :
    List String → δ → List (Document × Document) → Except Fault δ
  | _, draft, [] => .ok draft
  | seen, draft, (k, v) :: rest => do
    let name ← readKey k
    if name ∈ shape.fields then
      if name ∈ seen then throw (.duplicateField name)
      let draft ← shape.take draft name v
      readFields medium shape (name :: seen) draft rest
    else if shape.lenient then
      if medium ≠ .yaml then v.skip
      readFields medium shape seen draft rest
    else throw (.unknownField name shape.fields)

/-- The items of a list taken as the values of the fields in order, and the items left over. -/
def readPositions {δ α : Type} (shape : RecordShape δ α) (ending : Ending) :
    List String → δ → List Document → Except Fault (δ × List Document)
  | [], draft, items => .ok (draft, items)
  | _ :: _, draft, [] => do
    ending.afterItem
    return (draft, [])
  | name :: names, draft, d :: items => do
    let draft ← shape.take draft name d
    readPositions shape ending names draft items

/-- A missing field of a record that was given as a list is told by its position. -/
def Fault.atPosition (record : String) (fields : List String) : Fault → Fault
  | .missingField name => .tooShort (fields.idxOf name) record fields.length
  | fault => fault

/-- A record: an object, or, except in YAML, the list of its values. -/
def readRecord {δ α : Type} (medium : Medium) (shape : RecordShape δ α) (d : Document) :
    Except Fault α :=
  match d with
  | .object fields ending => do
    let draft ← readFields medium shape [] shape.blank fields
    ending.afterField
    shape.finish draft
  | .list items ending =>
    if medium = .yaml then d.wrong (.record shape.name)
    else do
      let (draft, rest) ← readPositions shape ending shape.fields shape.blank items
      let value ← (shape.finish draft).mapError (Fault.atPosition shape.name shape.fields)
      match medium, rest with
      | .jsonValue, _ :: _ => throw (.tooLong items.length)
      | _, _ :: _ => throw .trailingCharacters
      | _, [] =>
        if shape.fields.length ≤ items.length then ending.afterLastItem
        return value
  | d =>
    if d.isEmptyScalar then shape.finish shape.blank else d.wrong (.record shape.name)

/-- The value of a field that must be present. -/
def required {α : Type} (name : String) : Option α → Except Fault α
  | some a => .ok a
  | none => .error (.missingField name)

end ScanRoster.Document
