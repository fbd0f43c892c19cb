import ScanRoster.Document.Fault
import ScanRoster.Yaml.Scalar

/-!
# Documents

A document is a text read as a tree, broken places included: where the text breaks the grammar,
the tree holds the faults that a reader meets there. Readers of typed values walk the tree in
the order of the text, so the first fault they meet is the first one of the text. A fault can
look different to a reader that wants the value and to one that passes over it.
-/

namespace ScanRoster

namespace Document

/-- With what a broken or flawed value starts. -/
inductive Opening
  | ended
  | text
  | other
  deriving DecidableEq, Repr

/-- What stands after the last item of a list or the last field of an object. -/
inductive Ending
  | closed
  | trailingComma
  | commaThenEnd
  | noComma
  | ended
  deriving DecidableEq, Repr

end Document

open Document in
/-- A text read as a tree. `flawed` is a value that breaks off nothing but cannot be taken, and
`broken` a place where reading stops, once for a reader of the value and once for one that
passes over it. `endless` is a value that contains itself. -/
inductive Document
  | null
  | flag (b : Bool)
  | number (n : Number)
  | text (s : String)
  | scalar (s : Yaml.Scalar)
  | list (items : List Document) (ending : Ending)
  | object (fields : List (Document × Document)) (ending : Ending)
  | flawed (opening : Opening) (fault : Fault)
  | broken (opening : Opening) (read skip : Fault)
  | endless

namespace Document

instance : Inhabited Document := ⟨.null⟩

/-- What a reader of items meets at the end of a list. -/
def Ending.afterItem : Ending → Except Fault Unit
  | .closed => .ok ()
  | .trailingComma => .error .trailingComma
  | .commaThenEnd => .error .endInValue
  | .noComma => .error .expectedListComma
  | .ended => .error .endInList

/-- What a reader that wants no further item meets at the end of a list. -/
def Ending.afterLastItem : Ending → Except Fault Unit
  | .closed => .ok ()
  | .trailingComma => .error .trailingComma
  | .commaThenEnd => .error .trailingCharacters
  | .noComma => .error .trailingCharacters
  | .ended => .error .endInList

/-- What is met at the end of a list that is passed over. -/
def Ending.afterSkippedItem : Ending → Except Fault Unit
  | .closed => .ok ()
  | .trailingComma => .error .expectedValue
  | .commaThenEnd => .error .endInValue
  | .noComma => .error .expectedListComma
  | .ended => .error .endInList

/-- What a reader of fields meets at the end of an object. -/
def Ending.afterField : Ending → Except Fault Unit
  | .closed => .ok ()
  | .trailingComma => .error .trailingComma
  | .commaThenEnd => .error .endInValue
  | .noComma => .error .expectedObjectComma
  | .ended => .error .endInObject

/-- What is met at the end of an object that is passed over. -/
def Ending.afterSkippedField : Ending → Except Fault Unit
  | .closed => .ok ()
  | .trailingComma => .error .keyNotText
  | .commaThenEnd => .error .endInObject
  | .noComma => .error .expectedObjectComma
  | .ended => .error .endInObject

/-- Passing over the key of a field. -/
def skipKey : Document → Except Fault Unit
  | .text _ | .scalar _ | .flawed .text _ => .ok ()
  | .broken .text _ skip => .error skip
  | _ => .error .keyNotText

mutual

/-- Passing over a value. -/
def skip : Document → Except Fault Unit
  | .list items ending => do
    skipItems items
    ending.afterSkippedItem
  | .object fields ending => do
    skipFields fields
    ending.afterSkippedField
  | .broken _ _ skip => .error skip
  | _ => .ok ()

/-- Passing over the items of a list. -/
def skipItems : List Document → Except Fault Unit
  | [] => .ok ()
  | d :: rest => do
    skip d
    skipItems rest

/-- Passing over the fields of an object. -/
def skipFields : List (Document × Document) → Except Fault Unit
  | [] => .ok ()
  | (k, v) :: rest => do
    skipKey k
    skip v
    skipFields rest

end

/-- What a value is, for the message that something else was wanted. -/
def found : Document → Except Fault Found
  | .null => .ok .null
  | .flag b => .ok (.flag b)
  | .number n => .ok (.number n)
  | .text s => .ok (.text s)
  | .list _ _ => .ok .list
  | .object _ _ => .ok .object
  | .flawed _ fault => .error fault
  | .broken _ read _ => .error read
  | .scalar s => .ok (.text s.text)
  | .endless => .error .malformed

end Document

end ScanRoster
