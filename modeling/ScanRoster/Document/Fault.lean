import ScanRoster.Json.Value

/-!
# Faults of documents

What can be wrong with a document: its text breaks off or breaks the grammar, or a value in it
is not of the wanted shape. `Fault.message` words each of them.
-/

namespace ScanRoster.Document

/-- A range of whole numbers that a field accepts. -/
inductive IntRange
  | signed64
  | signed32
  | unsigned32
  | unsigned64
  deriving DecidableEq, Repr

namespace IntRange

/-- The least number of a range. -/
def least : IntRange → Int
  | signed64 => -0x8000000000000000
  | signed32 => -0x80000000
  | unsigned32 => 0
  | unsigned64 => 0

/-- The greatest number of a range. -/
def most : IntRange → Int
  | signed64 => 0x7fffffffffffffff
  | signed32 => 0x7fffffff
  | unsigned32 => 0xffffffff
  | unsigned64 => 0xffffffffffffffff

/-- The name of a range in messages. -/
def name : IntRange → String
  | signed64 => "i64"
  | signed32 => "i32"
  | unsigned32 => "u32"
  | unsigned64 => "u64"

end IntRange

/-- What stands where something else is wanted. -/
inductive Found
  | null
  | flag (b : Bool)
  | number (n : Number)
  | text (s : String)
  | list
  | object
  deriving DecidableEq, Repr

/-- What a place of a document wants. -/
inductive Wanted
  | text
  | flag
  | integer (range : IntRange)
  | list
  | record (name : String)
  | code
  | codeName
  | nothing
  deriving DecidableEq, Repr

/-- What is wrong with a document. -/
inductive Fault
  | endInValue
  | endInObject
  | endInList
  | endInText
  | expectedColon
  | expectedListComma
  | expectedObjectComma
  | expectedWord
  | expectedValue
  | badEscape
  | badNumber
  | numberTooLarge
  | badCodePoint
  | bareControl
  | keyNotText
  | loneSurrogate
  | escapeCutShort
  | trailingComma
  | trailingCharacters
  | wrongType (found : Found) (wanted : Wanted)
  | outOfRange (n : Number) (range : IntRange)
  | tooShort (count : Nat) (record : String) (size : Nat)
  | tooLong (count : Nat)
  | severalKeys
  | missingField (name : String)
  | duplicateField (name : String)
  | unknownField (name : String) (known : List String)
  | unknownCode (name : String) (known : List String)
  | malformed
  deriving DecidableEq, Repr

/-- The words for what was found. -/
def Found.words : Found → String
  | .null => "null"
  | .flag b => "boolean `" ++ (if b then "true" else "false") ++ "`"
  | .number (.whole n) => "integer `" ++ toString n ++ "`"
  | .number (.real bits) => "floating point `" ++ String.ofList (Number.real bits).text ++ "`"
  | .text s => "string " ++ Text.quoted s
  | .list => "sequence"
  | .object => "map"

/-- The words for what is wanted. -/
def Wanted.words : Wanted → String
  | .text => "a string"
  | .flag => "a boolean"
  | .integer range => range.name
  | .list => "a sequence"
  | .record name => "struct " ++ name
  | .code => "string or map"
  | .codeName => "variant identifier"
  | .nothing => "unit"

/-- A choice of names. -/
def oneOf : List String → String
  | [] => "there are no fields"
  | [a] => "expected `" ++ a ++ "`"
  | [a, b] => "expected `" ++ a ++ "` or `" ++ b ++ "`"
  | names => "expected one of " ++ ", ".intercalate (names.map fun n => "`" ++ n ++ "`")

/-- The message of a fault. -/
def Fault.message : Fault → String
  | .endInValue => "EOF while parsing a value"
  | .endInObject => "EOF while parsing an object"
  | .endInList => "EOF while parsing a list"
  | .endInText => "EOF while parsing a string"
  | .expectedColon => "expected `:`"
  | .expectedListComma => "expected `,` or `]`"
  | .expectedObjectComma => "expected `,` or `\x7d`"
  | .expectedWord => "expected ident"
  | .expectedValue => "expected value"
  | .badEscape => "invalid escape"
  | .badNumber => "invalid number"
  | .numberTooLarge => "number out of range"
  | .badCodePoint => "invalid unicode code point"
  | .bareControl => "control character (\\u0000-\\u001F) found while parsing a string"
  | .keyNotText => "key must be a string"
  | .loneSurrogate => "lone leading surrogate in hex escape"
  | .escapeCutShort => "unexpected end of hex escape"
  | .trailingComma => "trailing comma"
  | .trailingCharacters => "trailing characters"
  | .wrongType found wanted => "invalid type: " ++ found.words ++ ", expected " ++ wanted.words
  | .outOfRange n range =>
    "invalid value: " ++ (Found.number n).words ++ ", expected " ++ range.name
  | .tooShort count record size =>
    "invalid length " ++ toString count ++ ", expected struct " ++ record ++ " with " ++
      toString size ++ (if size = 1 then " element" else " elements")
  | .tooLong count =>
    "invalid length " ++ toString count ++ ", expected fewer elements in array"
  | .severalKeys => "invalid value: map, expected map with a single key"
  | .missingField name => "missing field `" ++ name ++ "`"
  | .duplicateField name => "duplicate field `" ++ name ++ "`"
  | .unknownField name known => "unknown field `" ++ name ++ "`, " ++ oneOf known
  | .unknownCode name known => "unknown variant `" ++ name ++ "`, " ++ oneOf known
  | .malformed => "malformed document"

end ScanRoster.Document
