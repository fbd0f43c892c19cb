import ScanRoster.Decimal.Reading
import ScanRoster.Text.Blank
import ScanRoster.Text.Quoted
import ScanRoster.Toml.Reading

/-!
# Layers of settings

Settings come in layers: the standard values, the file, the environment. Layers are laid over
each other field by field. A variable of the environment is named by its path and has a value in
a small notation of its own; a text that is not in this notation stands for itself.
-/

namespace ScanRoster.Settings

/-- What a layer has in one place. -/
inductive Layer
  | text (s : String)
  | flag (b : Bool)
  | signed (n : Int)
  | unsigned (n : Nat)
  | float (bits : UInt64)
  | list (items : List Layer)
  | fields (fields : List (String × Layer))

namespace Layer

/-- The words for what stands where something else is wanted. -/
def words : Layer → String
  | text s => "string " ++ Text.quoted s
  | flag b => "bool " ++ (if b then "true" else "false")
  | signed n => "signed int `" ++ toString n ++ "`"
  | unsigned n => "unsigned int `" ++ toString n ++ "`"
  | float bits =>
    let layout : Decimal.Layout := ⟨-400, 400, false, false⟩
    "float `" ++ String.ofList (layout.ofBits bits) ++ "`"
  | list _ => "sequence"
  | fields _ => "map"

/-- What stands under a key. -/
def lookUp (key : String) (fields : List (String × Layer)) : Option Layer :=
  (fields.find? (·.1 == key)).map (·.2)

/-- Fields with another value under a key. -/
def put (key : String) (v : Layer) : List (String × Layer) → List (String × Layer)
  | [] => [(key, v)]
  | (k, w) :: rest => if k = key then (k, v) :: rest else (k, w) :: put key v rest

mutual

/-- What is left of a place when a later layer is laid over it. -/
def under (earlier : Layer) : Layer → Layer
  | .fields later =>
    match earlier with
    | .fields fs => .fields (fieldsUnder fs later)
    | _ => .fields later
  | later => later

/-- Fields with later ones laid over them. -/
def fieldsUnder (earlier : List (String × Layer)) :
    List (String × Layer) → List (String × Layer)
  | [] => earlier
  | (k, v) :: rest =>
    let v :=
      match lookUp k earlier with
      | some w => under w v
      | none => v
    fieldsUnder (put k v earlier) rest

end

mutual

/-- The layer that a TOML value is. -/
def ofToml : Toml.Value → Layer
  | .text s => .text s
  | .integer n => .signed n
  | .float bits => .float bits
  | .flag b => .flag b
  | .time => .fields []
  | .list items => .list (ofTomlItems items)
  | .table fs => .fields (ofTomlFields fs)

/-- The layers that the items of a list are. -/
def ofTomlItems : List Toml.Value → List Layer
  | [] => []
  | v :: rest => ofToml v :: ofTomlItems rest

/-- The layers that the fields of a table are. -/
def ofTomlFields : List (String × Toml.Value) → List (String × Layer)
  | [] => []
  | (k, v) :: rest => (k, ofToml v) :: ofTomlFields rest

end

end Layer

namespace Variable

/-- Blanks of the notation: those of ASCII. -/
def isBlank (c : Char) : Bool :=
  c == ' ' || c == '\t' || c == '\n' || c == '\r' || c.toNat == 12

/-- The characters of a text between quotation marks, escapes resolved, and what follows it. -/
def string? (fuel : Nat) (s : List Char) : Option (List Char × List Char) :=
  match fuel with
  | 0 => none
  | fuel + 1 =>
    match s with
    | [] => none
    | '"' :: rest => some ([], rest)
    | '\\' :: rest => do
      let (c, rest) ← Toml.escape? rest
      let (text, rest) ← string? fuel rest
      return (c :: text, rest)
    | c :: rest => (string? fuel rest).map fun (t, r) => (c :: t, r)

/-- Digits after an optional plus, as a number of 64 bits. -/
def unsigned? (s : List Char) : Option Nat :=
  let digits :=
    match s with
    | '+' :: rest => rest
    | s => s
  if digits.isEmpty || !digits.all Char.isDigit then none
  else (Toml.number? 10 digits).filter (· < UInt64.size)

/-- Digits after an optional sign, as a signed number of 64 bits. -/
def signed? (s : List Char) : Option Int :=
  match s with
  | '-' :: rest =>
    if rest.isEmpty || !rest.all Char.isDigit then none
    else ((Toml.number? 10 rest).filter (· ≤ 0x8000000000000000)).map fun n => -(n : Int)
  | s => ((unsigned? s).filter (· < 0x8000000000000000)).map fun n => (n : Int)

/-- Whether a character ends a value without quotation marks. -/
def isSeparator (c : Char) : Bool :=
  c == ',' || c == '\x7b' || c == '\x7d' || c == '[' || c == ']'

/-- A value without quotation marks: a number if it reads as one, else a text. -/
def bare (s : List Char) : Layer :=
  let s := Text.trim s
  let asFloat := if s.contains '.' then Decimal.ofText? s else none
  match asFloat, unsigned? s, signed? s with
  | some (minus, d), _, _ => .float (d.toBits minus)
  | none, some n, _ => .unsigned n
  | none, none, some n => .signed n
  | none, none, none => .text (String.ofList s)

/-- Characters of a key without quotation marks. -/
def isKeyChar (c : Char) : Bool :=
  c.isAlphanum || c == '_' || c == '-'

/-- A key. -/
def key? (s : List Char) : Option (String × List Char) :=
  match s with
  | '"' :: rest => (string? (rest.length + 1) rest).map fun (t, r) => (String.ofList t, r)
  | _ =>
    let run := s.takeWhile isKeyChar
    if run.isEmpty then none else some (String.ofList run, s.drop run.length)

mutual

/-- A value of the notation, with the blanks around it. -/
def value? (fuel : Nat) (s : List Char) : Option (Layer × List Char) :=
  match fuel with
  | 0 => none
  | fuel + 1 => do
    let s := s.dropWhile isBlank
    let (v, rest) ←
      match s with
      | 't' :: 'r' :: 'u' :: 'e' :: rest => some (.flag true, rest)
      | 'f' :: 'a' :: 'l' :: 's' :: 'e' :: rest => some (.flag false, rest)
      | '\x7b' :: rest => (fields? fuel [] rest).map fun (f, r) => (.fields f, r)
      | '[' :: rest => (items? fuel [] rest).map fun (l, r) => (.list l, r)
      | '"' :: rest =>
        (string? (rest.length + 1) rest).map fun (t, r) => (.text (String.ofList t), r)
      | '\'' :: c :: '\'' :: rest => some (.text (String.singleton c), rest)
      | '\'' :: _ => none
      | s =>
        let run := s.takeWhile (!isSeparator ·)
        some (bare run, s.drop run.length)
    return (v, rest.dropWhile isBlank)

/-- The items of a list up to its end, which may follow a comma. -/
def items? (fuel : Nat) (done : List Layer) (s : List Char) :
    Option (List Layer × List Char) :=
  match fuel with
  | 0 => none
  | fuel + 1 =>
    match s with
    | ']' :: rest => some (done.reverse, rest)
    | _ => do
      let (v, rest) ← value? fuel s
      match rest with
      | ',' :: rest => items? fuel (v :: done) rest
      | ']' :: rest => return ((v :: done).reverse, rest)
      | _ => none

/-- The fields of a map up to its end, which may follow a comma. -/
def fields? (fuel : Nat) (done : List (String × Layer)) (s : List Char) :
    Option (List (String × Layer) × List Char) :=
  match fuel with
  | 0 => none
  | fuel + 1 =>
    match s with
    | '\x7d' :: rest => some (done, rest)
    | _ => do
      let (k, rest) ← key? (s.dropWhile isBlank)
      match rest.dropWhile isBlank with
      | '=' :: rest => do
        let (v, rest) ← value? fuel rest
        let done := Layer.put k v done
        match rest with
        | ',' :: rest => fields? fuel done rest
        | '\x7d' :: rest => return (done, rest)
        | _ => none
      | _ => none

end

/-- The value of a variable. A text that is not in the notation stands for itself. -/
def value (s : String) : Layer :=
  let cs := s.toList
  match value? (cs.length + 2) cs with
  | some (v, []) => v
  | _ => .text s

/-- The start of the names of variables that are settings. -/
def namesStart : List Char :=
  "wifitrack_".toList

/-- A key with double underscores turned into dots. -/
def dots : List Char → List Char
  | '_' :: '_' :: rest => '.' :: dots rest
  | c :: rest => c :: dots rest
  | [] => []

/-- The path that the name of a variable stands for, if it is a setting. Letters count without
case. -/
def path? (name : String) : Option (List String) :=
  let s := name.toList.map Char.toLower
  if namesStart.isPrefixOf s then
    let parts := (Text.trim (dots (s.drop namesStart.length))).splitOnP (· == '.')
    if parts.any List.isEmpty then none else some (parts.map String.ofList)
  else none

/-- A layer that has one value at the end of a path. -/
def nested : List String → Layer → Layer
  | [], v => v
  | k :: path, v => .fields [(k, nested path v)]

/-- The layer of an environment, whose variables are given in the order of their names. Of two
values in one place the later counts. -/
def layer (env : List (String × String)) : Layer :=
  env.foldl
    (fun acc (name, s) =>
      match path? name with
      | some path => acc.under (nested path (value s))
      | none => acc)
    (.fields [])

end Variable

end ScanRoster.Settings
