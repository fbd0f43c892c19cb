import ScanRoster.Yaml.Token
import ScanRoster.Yaml.Token.Scalars

/-!
# Tokens of a YAML text

A text is cut into tokens from left to right. A key is recognised late: when a colon is met, the
place where the key began is remembered, and the tokens that open a mapping are put in there.
-/

namespace ScanRoster.Yaml

/-- Where a key may have begun. A required key must turn out to be one. -/
structure KeyPlace where
  possible : Bool
  required : Bool
  token : Nat
  index : Nat
  line : Nat
  column : Nat

/-- No place for a key. -/
def KeyPlace.none : KeyPlace :=
  ⟨false, false, 0, 0, 0, 0⟩

/-- What is known while a text is cut into tokens. `depth` counts the open flow collections and
`keys` holds a place for a key of each of them, and one of the block outside. -/
structure Lexer where
  cursor : Cursor
  tokens : Array Token
  depth : Nat
  indent : Int
  indents : List Int
  keyAllowed : Bool
  key : KeyPlace
  keys : List KeyPlace

namespace Lexer

/-- The start of a text. -/
def start (text : List Char) : Lexer :=
  ⟨.start text, #[], 0, -1, [], true, .none, []⟩

/-- One more token. -/
def push (l : Lexer) (t : Token) : Lexer :=
  { l with tokens := l.tokens.push t }

/-- One more token for the next `n` characters. -/
def pushMark (l : Lexer) (t : Token) (n : Nat) : Lexer :=
  { l with tokens := l.tokens.push t, cursor := l.cursor.skip n }

/-- Forgets the place of a key. A required key cannot be forgotten. -/
def dropKey (l : Lexer) : Option Lexer :=
  if l.key.possible && l.key.required then none
  else some { l with key := { l.key with possible := false } }

/-- A place of a key that lies too far back is none any more. -/
def expireKey (c : Cursor) (k : KeyPlace) : Option KeyPlace :=
  if k.possible && (k.line < c.line || k.index + 1024 < c.index) then
    if k.required then none else some { k with possible := false }
  else some k

/-- All places of keys that lie too far back are none any more. -/
def expireKeys (l : Lexer) : Option Lexer := do
  let key ← expireKey l.cursor l.key
  let keys ← l.keys.mapM (expireKey l.cursor)
  return { l with key, keys }

/-- Remembers that a key may begin here. -/
def saveKey (l : Lexer) : Option Lexer :=
  if l.keyAllowed then do
    let l ← l.dropKey
    let required := l.depth == 0 && l.indent == (l.cursor.column : Int)
    return { l with
      key := ⟨true, required, l.tokens.size, l.cursor.index, l.cursor.line, l.cursor.column⟩ }
  else some l

/-- Opens a block at a column, where that is further in. The token goes to the given place. -/
def openBlock (l : Lexer) (column : Nat) (place : Nat) (t : Token) : Lexer :=
  if l.depth = 0 && l.indent < (column : Int) then
    { l with
      indents := l.indent :: l.indents
      indent := column
      tokens := l.tokens.insertIdxIfInBounds place t }
  else l

/-- Closes the blocks that lie further in than a column. -/
def closeBlocks (l : Lexer) (column : Int) : List Int → Lexer
  | [] => l
  | outer :: rest =>
    if column < l.indent then
      closeBlocks { l with tokens := l.tokens.push .blockEnd, indent := outer, indents := rest }
        column rest
    else l

/-- Closes the blocks that lie further in than a column. Flow collections hold blocks open. -/
def closeTo (l : Lexer) (column : Int) : Lexer :=
  if l.depth = 0 then l.closeBlocks column l.indents else l

/-- Passes over blanks, comments and line ends. A tab may not start a line of a block where a
key may come. -/
def skipGaps (fuel : Nat) (l : Lexer) : Lexer :=
  match fuel with
  | 0 => l
  | fuel + 1 =>
    let c := l.cursor
    let c := if c.index = 0 && c.rest.head? == some '\ufeff' then c.skip 1 else c
    let c := c.dropWhile fun x => x == ' ' || ((l.depth ≠ 0 || !l.keyAllowed) && x == '\t')
    let c := if c.rest.head? == some '#' then c.dropWhile (!isBreak ·) else c
    match c.lineEnd? with
    | some (_, c) =>
      skipGaps fuel { l with cursor := c, keyAllowed := l.keyAllowed || l.depth = 0 }
    | none => { l with cursor := c }

/-- Characters of a tag. Some are for whole tags only. -/
def isTagChar (whole : Bool) (c : Char) : Bool :=
  isNameChar c || (";/?:@&=+$.!~*'()".toList.contains c) ||
    (whole && (c == ',' || c == '[' || c == ']'))

/-- The octets given by percent signs at the start of a text, with what follows them. -/
def tagOctets : List Char → Option (List Nat × List Char)
  | '%' :: a :: b :: rest =>
    match digits? 16 [a, b] with
    | some n => (tagOctets rest).map fun (ns, rest) => (n :: ns, rest)
    | none => none
  | '%' :: _ => none
  | rest => some ([], rest)

/-- The rest of a tag. -/
def tagRest (whole : Bool) (fuel : Nat) (c : Cursor) : Option (List Char × Cursor) :=
  match fuel with
  | 0 => some ([], c)
  | fuel + 1 =>
    let (run, c) := c.span (isTagChar whole)
    if c.rest.head? == some '%' then
      match tagOctets c.rest with
      | none => none
      | some (octets, rest) =>
        match String.fromUTF8? (octets.map UInt8.ofNat).toByteArray with
        | none => none
        | some s =>
          let c := c.skip (c.rest.length - rest.length)
          (tagRest whole fuel c).map fun (more, c) => (run ++ s.toList ++ more, c)
    else some (run, c)

/-- The handle of a tag: an exclamation mark, a name and, where there is one, a second mark. -/
def tagHandle? (c : Cursor) : Option (List Char × Cursor) :=
  if c.rest.head? == some '!' then
    let (name, c) := (c.skip 1).span isNameChar
    if c.rest.head? == some '!' then some ('!' :: name ++ ['!'], c.skip 1)
    else some ('!' :: name, c)
  else none

/-- A tag. -/
def tag? (depth : Nat) (c : Cursor) : Option (Token × Cursor) := do
  let (handle, rest, c) ←
    match c.rest with
    | '!' :: '<' :: _ => do
      let (rest, c) ← tagRest true c.rest.length (c.skip 2)
      if rest.isEmpty || c.rest.head? ≠ some '>' then none
      pure ([], rest, c.skip 1)
    | _ => do
      let (handle, c) ← tagHandle? c
      if 1 < handle.length && handle.getLast? == some '!' then do
        let (rest, c) ← tagRest false c.rest.length c
        if rest.isEmpty then none
        pure (handle, rest, c)
      else do
        let (more, c) ← tagRest false c.rest.length c
        let rest := handle.tail ++ more
        pure (if rest.isEmpty then ([], ['!'], c) else (['!'], rest, c))
  if gapAhead c.rest || (depth ≠ 0 && c.rest.head? == some ',') then
    return (.tag (String.ofList handle) (String.ofList rest), c)
  else none

/-- An anchor or an alias. -/
def anchor? (make : String → Token) (c : Cursor) : Option (Token × Cursor) :=
  let (name, c) := (c.skip 1).span isNameChar
  let ended :=
    match c.rest with
    | [] => true
    | x :: _ => isGap x || "?:,]\x7d%@`".toList.contains x
  if name.isEmpty || !ended then none else some (make (String.ofList name), c)

/-- The number of a version: up to nine digits. -/
def versionNumber? (c : Cursor) : Option (Nat × Cursor) :=
  let (digits, c) := c.span Char.isDigit
  if digits.length ≤ 9 then (digits? 10 digits).map fun n => (n, c) else none

/-- A directive: the version of YAML, or a handle for tags. -/
def directive? (c : Cursor) : Option (Token × Cursor) := do
  let (name, c) := (c.skip 1).span isNameChar
  if name.isEmpty || !gapAhead c.rest then none
  let c := c.dropWhile isBlank
  let (token, c) ←
    if name = "YAML".toList then do
      let (major, c) ← versionNumber? c
      if c.rest.head? ≠ some '.' then none
      let (minor, c) ← versionNumber? (c.skip 1)
      pure (Token.version major minor, c)
    else if name = "TAG".toList then do
      let (handle, c) ← tagHandle? c
      if handle ≠ ['!'] && (handle.length < 2 || handle.getLast? ≠ some '!') then none
      if !blankAhead c.rest then none
      let (start, c) ← tagRest true c.rest.length (c.dropWhile isBlank)
      if start.isEmpty || !gapAhead c.rest then none
      pure (Token.tagHandle (String.ofList handle) (String.ofList start), c)
    else none
  return (token, ← c.finishLine?)

/-- A flow collection is opened. -/
def openFlow (l : Lexer) (t : Token) : Option Lexer := do
  let l ← l.saveKey
  return { l.pushMark t 1 with
    depth := l.depth + 1, keys := l.key :: l.keys, key := .none, keyAllowed := true }

/-- A flow collection is closed. -/
def closeFlow (l : Lexer) (t : Token) : Option Lexer := do
  let l ← l.dropKey
  let l := { l.pushMark t 1 with keyAllowed := false }
  match l.keys with
  | key :: keys => return { l with depth := l.depth - 1, key, keys }
  | [] => return l

/-- A dash of a block list. -/
def blockEntry (l : Lexer) : Option Lexer := do
  if l.depth = 0 && !l.keyAllowed then none
  let l := l.openBlock l.cursor.column l.tokens.size .blockListStart
  let l ← l.dropKey
  return { l.pushMark .blockEntry 1 with keyAllowed := true }

/-- A question mark in front of a key. -/
def explicitKey (l : Lexer) : Option Lexer := do
  if l.depth = 0 && !l.keyAllowed then none
  let l := l.openBlock l.cursor.column l.tokens.size .blockMapStart
  let l ← l.dropKey
  return { l.pushMark .key 1 with keyAllowed := l.depth = 0 }

/-- A colon in front of a value. -/
def colon (l : Lexer) : Option Lexer :=
  if l.key.possible then
    let place := l.key.token
    let l := { l with tokens := l.tokens.insertIdxIfInBounds place .key }
    let l := l.openBlock l.key.column place .blockMapStart
    some { l.pushMark .value 1 with key := .none, keyAllowed := false }
  else do
    if l.depth = 0 && !l.keyAllowed then none
    let l := l.openBlock l.cursor.column l.tokens.size .blockMapStart
    return { l.pushMark .value 1 with keyAllowed := l.depth = 0 }

/-- A node that may be a key: its token, after the place was remembered. -/
def node (l : Lexer) (read : Lexer → Option (Token × Bool × Cursor)) : Option Lexer := do
  let l ← l.saveKey
  let (t, allowed, cursor) ← read l
  return { l.push t with cursor, keyAllowed := allowed }

/-- A mark between documents, or a directive: it closes everything. -/
def outermost (l : Lexer) : Option Lexer := do
  let l ← (l.closeTo (-1)).dropKey
  return { l with keyAllowed := false }

/-- The next token. Returns nothing at the end of the text. -/
def step (l : Lexer) : Option (Lexer × Bool) := do
  let l ← (l.skipGaps (l.cursor.rest.length + 1)).expireKeys
  let l := l.closeTo l.cursor.column
  let c := l.cursor
  match c.rest with
  | [] => do
    let l ← (l.closeTo (-1)).dropKey
    return (l, false)
  | x :: rest =>
    let next : Option Lexer :=
      if c.column = 0 && x == '%' then do
        let l ← l.outermost
        let (t, cursor) ← directive? l.cursor
        return { l.push t with cursor }
      else if c.column = 0 && documentMark '-' c.rest then
        l.outermost.map (·.pushMark .documentStart 3)
      else if c.column = 0 && documentMark '.' c.rest then
        l.outermost.map (·.pushMark .documentEnd 3)
      else if x == '[' then l.openFlow .flowListStart
      else if x == '\x7b' then l.openFlow .flowMapStart
      else if x == ']' then l.closeFlow .flowListEnd
      else if x == '\x7d' then l.closeFlow .flowMapEnd
      else if x == ',' then do
        let l ← l.dropKey
        return { l.pushMark .flowEntry 1 with keyAllowed := true }
      else if x == '-' && gapAhead rest then l.blockEntry
      else if x == '?' && (l.depth ≠ 0 || gapAhead rest) then l.explicitKey
      else if x == ':' && (l.depth ≠ 0 || gapAhead rest) then l.colon
      else if x == '*' then
        l.node fun l => (anchor? .alias l.cursor).map fun (t, c) => (t, false, c)
      else if x == '&' then
        l.node fun l => (anchor? .anchor l.cursor).map fun (t, c) => (t, false, c)
      else if x == '!' then
        l.node fun l => (tag? l.depth l.cursor).map fun (t, c) => (t, false, c)
      else if (x == '|' || x == '>') && l.depth = 0 then do
        let l ← l.dropKey
        let (text, cursor) ← blockScalar? (x == '|') l.indent (c.skip 1)
        let style := if x == '|' then ScalarStyle.literal else .folded
        return { l.push (.scalar (String.ofList text) style) with cursor, keyAllowed := true }
      else if x == '\'' || x == '"' then
        l.node fun l =>
          (quotedFrom (x == '"') (rest.length + 2) [] (l.cursor.skip 1)).map fun (text, c) =>
            let style := if x == '"' then ScalarStyle.doubleQuoted else .singleQuoted
            (.scalar (String.ofList text) style, false, c)
      else
        let indicator := "-?:,[]\x7b\x7d#&*!|>'\"%@`".toList.contains x
        let plain :=
          (!isGap x && !indicator) || (x == '-' && !blankAhead rest) ||
            (l.depth = 0 && (x == '?' || x == ':') && !gapAhead rest)
        if plain then
          l.node fun l =>
            let indent := (l.indent + 1).toNat
            (plainFrom (l.depth ≠ 0) indent (c.rest.length + 2) [] .none l.cursor).map
              fun (text, broken, c) => (.scalar (String.ofList text) .plain, broken, c)
        else none
    (·, true) <$> next

/-- All tokens up to the end of the text. -/
def run (fuel : Nat) (l : Lexer) : Option (List Token) :=
  match fuel with
  | 0 => none
  | fuel + 1 =>
    match l.step with
    | none => none
    | some (l, more) => if more then run fuel l else some l.tokens.toList

end Lexer

/-- The tokens of a text, if it can be cut into tokens. -/
def tokens? (text : String) : Option (List Token) :=
  let s := text.toList
  if s.all isAllowed then (Lexer.start s).run (s.length + 2) else none

end ScanRoster.Yaml
