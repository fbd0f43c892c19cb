import ScanRoster.Toml.Scalar
import ScanRoster.Toml.Table

/-!
# TOML documents

A document is read line by line: headers, keys with their values, comments. `Table.ofText?` gives
the fields of the whole document.
-/

namespace ScanRoster.Toml

/-- Characters of a key that is written without quotation marks. -/
def isBareKeyChar (c : Char) : Bool :=
  c.isAlphanum || c == '-' || c == '_'

/-- One part of a key. -/
def keyPart? (s : List Char) : Option (String × List Char) :=
  match s with
  | '"' :: rest =>
    (basicText false (rest.length + 1) rest).map fun (t, r) => (String.ofList t, r)
  | '\'' :: rest =>
    (literalText false (rest.length + 1) rest).map fun (t, r) => (String.ofList t, r)
  | _ =>
    let run := s.takeWhile isBareKeyChar
    if run.isEmpty then none else some (String.ofList run, s.drop run.length)

/-- How many levels a document may have: fewer parts in a key than this, and fewer lists and tables
inside each other in a value. -/
def levels : Nat :=
  80

/-- Parts of a key with dots between them: the parts before the last, and the last. -/
def keyParts? (fuel : Nat) (s : List Char) : Option (List String × String × List Char) :=
  match fuel with
  | 0 => none
  | fuel + 1 => do
    let (part, rest) ← keyPart? (s.dropWhile isBlank)
    match rest.dropWhile isBlank with
    | '.' :: rest => do
      let (path, last, rest) ← keyParts? fuel rest
      return (part :: path, last, rest)
    | rest => return ([], part, rest)

/-- A key. Returns the parts before the last, and the last. -/
def key? (s : List Char) : Option (List String × String × List Char) :=
  (keyParts? (s.length + 1) s).filter fun (path, _) => path.length + 1 < levels

/-- Blanks, line ends and comments between the items of a list. -/
def skipFiller (fuel : Nat) (s : List Char) : Option (List Char) :=
  match fuel with
  | 0 => none
  | fuel + 1 =>
    match s.dropWhile isBlank with
    | '#' :: rest =>
      match rest.dropWhile isPlain with
      | [] => some []
      | rest => (lineEnd? rest).bind (skipFiller fuel)
    | rest =>
      match lineEnd? rest with
      | some rest => skipFiller fuel rest
      | none => some rest

mutual

/-- A value in which lists and tables are at most `room` levels deep. -/
def value? (fuel room : Nat) (s : List Char) : Option (Value × List Char) :=
  match fuel with
  | 0 => none
  | fuel + 1 =>
    match s with
    | [] => none
    | '"' :: _ | '\'' :: _ => (text? s).map fun (t, r) => (.text (String.ofList t), r)
    | '[' :: rest =>
      match room with
      | 0 => none
      | room + 1 => items? fuel room [] rest
    | '\x7b' :: rest =>
      match room with
      | 0 => none
      | room + 1 =>
        match rest.dropWhile isBlank with
        | '\x7d' :: rest => some (.table [], rest)
        | rest => inline? fuel room [] rest
    | 't' :: 'r' :: 'u' :: 'e' :: rest => some (.flag true, rest)
    | 'f' :: 'a' :: 'l' :: 's' :: 'e' :: rest => some (.flag false, rest)
    | 'i' :: _ | 'n' :: _ => float? s
    | c :: _ =>
      if c == '+' || c == '-' || c.isDigit then
        ((time? s).or (float? s)).or (integer? s)
      else none

/-- The items of a list up to its end, which may follow a comma. -/
def items? (fuel room : Nat) (done : List Value) (s : List Char) : Option (Value × List Char) :=
  match fuel with
  | 0 => none
  | fuel + 1 => do
    let s ← skipFiller (s.length + 1) s
    match s with
    | ']' :: rest => return (.list done.reverse, rest)
    | _ => do
      let (v, rest) ← value? fuel room s
      let rest ← skipFiller (rest.length + 1) rest
      match rest with
      | ',' :: rest => items? fuel room (v :: done) rest
      | ']' :: rest => return (.list (v :: done).reverse, rest)
      | _ => none

/-- The fields of a table that is written on one line, of which there is at least one. -/
def inline? (fuel room : Nat) (fields : Fields) (s : List Char) : Option (Value × List Char) :=
  match fuel with
  | 0 => none
  | fuel + 1 => do
    let (path, last, rest) ← key? s
    match rest with
    | '=' :: rest => do
      let (v, rest) ← value? fuel room (rest.dropWhile isBlank)
      let fields ← fields.define path last v
      match rest.dropWhile isBlank with
      | ',' :: rest => inline? fuel room fields rest
      | '\x7d' :: rest => return (.table (completeFields fields), rest)
      | _ => none
    | _ => none

end

/-- The end of an expression: blanks, a comment and the end of the line. -/
def finishLine? (s : List Char) : Option (List Char) :=
  let s := s.dropWhile isBlank
  let s := if s.head? == some '#' then s.dropWhile isPlain else s
  if s.isEmpty then some [] else lineEnd? s

/-- The document read so far: its fields, and the path of the table that is open. -/
structure Progress where
  fields : Fields
  header : List String

/-- One line, of which the leading blanks are gone. -/
def line? (p : Progress) (s : List Char) : Option (Progress × List Char) :=
  match s with
  | [] => some (p, [])
  | '#' :: _ | '\n' :: _ | '\r' :: _ => (finishLine? s).map fun rest => (p, rest)
  | '[' :: '[' :: rest => do
    let (path, last, rest) ← key? rest
    match rest with
    | ']' :: ']' :: rest =>
      return (⟨← p.fields.openTables path last, path ++ [last]⟩, ← finishLine? rest)
    | _ => none
  | '[' :: rest => do
    let (path, last, rest) ← key? rest
    match rest with
    | ']' :: rest =>
      return (⟨← p.fields.openTable path last, path ++ [last]⟩, ← finishLine? rest)
    | _ => none
  | _ => do
    let (path, last, rest) ← key? s
    match rest with
    | '=' :: rest => do
      let (v, rest) ← value? (2 * rest.length + 2) (levels - 1) (rest.dropWhile isBlank)
      return ({ p with fields := ← p.fields.defineIn p.header path last v }, ← finishLine? rest)
    | _ => none

/-- All lines. -/
def lines? (fuel : Nat) (p : Progress) (s : List Char) : Option Progress :=
  match fuel with
  | 0 => none
  | fuel + 1 =>
    match s.dropWhile isBlank with
    | [] => some p
    | s => do
      let (p, rest) ← line? p s
      lines? fuel p rest

/-- The fields of a document, if it is well formed. -/
def read? (text : String) : Option (List (String × Value)) :=
  let s := text.toList
  let s := if s.head? == some '\ufeff' then s.tail else s
  (lines? (s.length + 1) ⟨[], []⟩ s).map fun p => completeFields p.fields

end ScanRoster.Toml
