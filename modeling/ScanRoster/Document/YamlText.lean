import ScanRoster.Document.Basic
import ScanRoster.Yaml.Token.Lexer

/-!
# Documents from YAML text

A YAML text read as a document. Anchors and aliases are resolved on the way: an alias stands for
the value last anchored under its name, and inside that value for a value that contains itself.
A stream of no document is an empty value, and one of several documents is refused.
-/

namespace ScanRoster.Document

namespace YamlText

open Yaml

/-- What is known while nodes are put together: the handles of tags, and what the anchors stand
for, the latest first. -/
structure Names where
  handles : List (String × String)
  anchors : List (String × Document)

/-- An untagged plain scalar without text. -/
def emptyScalar (tag : Option String) : Document :=
  .scalar ⟨"", .plain, tag⟩

/-- The full form of a tag. The tag that is only an exclamation mark counts as none. -/
def resolveTag (names : Names) (handle rest : String) : Option (Option String) :=
  if handle = "" then some (if rest = "!" then none else some rest)
  else
    match names.handles.find? (·.1 == handle) with
    | some (_, start) =>
      let full := start ++ rest
      some (if full = "!" then none else some full)
    | none => none

/-- The anchor and the tag in front of a node, in either order. -/
def properties (names : Names) (tokens : List Token) :
    Option (Option String × Option (Option String) × List Token) :=
  match tokens with
  | .anchor a :: .tag h r :: rest => do return (some a, some (← resolveTag names h r), rest)
  | .tag h r :: .anchor a :: rest => do return (some a, some (← resolveTag names h r), rest)
  | .anchor a :: rest => some (some a, none, rest)
  | .tag h r :: rest => do return (none, some (← resolveTag names h r), rest)
  | rest => some (none, none, rest)

/-- A value put under its anchor, if it has one. -/
def bind (names : Names) (anchor : Option String) (d : Document) : Names :=
  match anchor with
  | some a => { names with anchors := (a, d) :: names.anchors }
  | none => names

/-- A value with what is known after it and the tokens that are left. -/
abbrev Parsed := Document × Names × List Token

/-- Whether a value is left out in front of this token of a block. -/
def endsBlockValue : List Token → Bool
  | .key :: _ | .value :: _ | .blockEnd :: _ => true
  | _ => false

mutual

/-- A node. `block` tells whether block collections may stand here, and `indentless` whether a
list may stand at the indentation of the mapping around it. -/
def node (fuel : Nat) (block indentless : Bool) (names : Names) (tokens : List Token) :
    Option Parsed :=
  match fuel with
  | 0 => none
  | fuel + 1 =>
    match tokens with
    | .alias a :: rest =>
      match names.anchors.find? (·.1 == a) with
      | some (_, d) => some (d, names, rest)
      | none => none
    | _ => do
      let (anchor, tag, rest) ← properties names tokens
      let inside := bind names anchor .endless
      let finish (part : Option Parsed) : Option Parsed :=
        part.map fun (d, names, rest) => (d, bind names anchor d, rest)
      match rest with
      | .scalar s style :: rest =>
        finish (some (.scalar ⟨s, style, tag.join⟩, names, rest))
      | .flowListStart :: rest => finish (flowItems fuel true inside [] rest)
      | .flowMapStart :: rest => finish (flowFields fuel true inside [] rest)
      | _ =>
        match rest, block, indentless with
        | .blockListStart :: rest, true, _ => finish (blockItems fuel inside [] rest)
        | .blockMapStart :: rest, true, _ => finish (blockFields fuel inside [] rest)
        | .blockEntry :: _, _, true => finish (indentlessItems fuel inside [] rest)
        | _, _, _ =>
          if tag.isSome || anchor.isSome then
            finish (some (emptyScalar tag.join, names, rest))
          else none

/-- The items of a block list. -/
def blockItems (fuel : Nat) (names : Names) (done : List Document) (tokens : List Token) :
    Option Parsed :=
  match fuel with
  | 0 => none
  | fuel + 1 =>
    match tokens with
    | .blockEntry :: rest =>
      match rest with
      | .blockEntry :: _ | .blockEnd :: _ =>
        blockItems fuel names (emptyScalar none :: done) rest
      | _ => do
        let (d, names, rest) ← node fuel true false names rest
        blockItems fuel names (d :: done) rest
    | .blockEnd :: rest => some (.list done.reverse .closed, names, rest)
    | _ => none

/-- The items of a list that stands at the indentation of the mapping around it. -/
def indentlessItems (fuel : Nat) (names : Names) (done : List Document) (tokens : List Token) :
    Option Parsed :=
  match fuel with
  | 0 => none
  | fuel + 1 =>
    match tokens with
    | .blockEntry :: rest =>
      match rest with
      | .blockEntry :: _ | .key :: _ | .value :: _ | .blockEnd :: _ =>
        indentlessItems fuel names (emptyScalar none :: done) rest
      | _ => do
        let (d, names, rest) ← node fuel true false names rest
        indentlessItems fuel names (d :: done) rest
    | rest => some (.list done.reverse .closed, names, rest)

/-- The fields of a block mapping. -/
def blockFields (fuel : Nat) (names : Names) (done : List (Document × Document))
    (tokens : List Token) : Option Parsed :=
  match fuel with
  | 0 => none
  | fuel + 1 =>
    match tokens with
    | .key :: rest => do
      let (k, names, rest) ←
        if endsBlockValue rest then some (emptyScalar none, names, rest)
        else node fuel true true names rest
      let (v, names, rest) ←
        match rest with
        | .value :: rest =>
          if endsBlockValue rest then some (emptyScalar none, names, rest)
          else node fuel true true names rest
        | rest => some (emptyScalar none, names, rest)
      blockFields fuel names ((k, v) :: done) rest
    | .blockEnd :: rest => some (.object done.reverse .closed, names, rest)
    | _ => none

/-- The items of a flow list. -/
def flowItems (fuel : Nat) (first : Bool) (names : Names) (done : List Document)
    (tokens : List Token) : Option Parsed :=
  match fuel with
  | 0 => none
  | fuel + 1 =>
    match tokens with
    | .flowListEnd :: rest => some (.list done.reverse .closed, names, rest)
    | _ => do
      let rest ←
        if first then some tokens
        else
          match tokens with
          | .flowEntry :: rest => some rest
          | _ => none
      match rest with
      | .key :: rest => do
        let (pair, names, rest) ← flowPair fuel names rest
        flowItems fuel false names (pair :: done) rest
      | .flowListEnd :: rest => some (.list done.reverse .closed, names, rest)
      | rest => do
        let (d, names, rest) ← node fuel false false names rest
        flowItems fuel false names (d :: done) rest

/-- A mapping of one field that stands as an item of a flow list, without braces. Where its key
is left out, the token in the place of the key is passed over. -/
def flowPair (fuel : Nat) (names : Names) (tokens : List Token) : Option Parsed :=
  match fuel with
  | 0 => none
  | fuel + 1 => do
    let (k, names, rest) ←
      match tokens with
      | .value :: rest | .flowEntry :: rest | .flowListEnd :: rest =>
        some (emptyScalar none, names, rest)
      | rest => node fuel false false names rest
    let (v, names, rest) ←
      match rest with
      | .value :: rest =>
        match rest with
        | .flowEntry :: _ | .flowListEnd :: _ => some (emptyScalar none, names, rest)
        | rest => node fuel false false names rest
      | rest => some (emptyScalar none, names, rest)
    return (.object [(k, v)] .closed, names, rest)

/-- The fields of a flow mapping. -/
def flowFields (fuel : Nat) (first : Bool) (names : Names) (done : List (Document × Document))
    (tokens : List Token) : Option Parsed :=
  match fuel with
  | 0 => none
  | fuel + 1 =>
    match tokens with
    | .flowMapEnd :: rest => some (.object done.reverse .closed, names, rest)
    | _ => do
      let rest ←
        if first then some tokens
        else
          match tokens with
          | .flowEntry :: rest => some rest
          | _ => none
      match rest with
      | .key :: rest => do
        let (k, names, rest) ←
          match rest with
          | .value :: _ | .flowEntry :: _ | .flowMapEnd :: _ =>
            some (emptyScalar none, names, rest)
          | rest => node fuel false false names rest
        let (v, names, rest) ←
          match rest with
          | .value :: rest =>
            match rest with
            | .flowEntry :: _ | .flowMapEnd :: _ => some (emptyScalar none, names, rest)
            | rest => node fuel false false names rest
          | rest => some (emptyScalar none, names, rest)
        flowFields fuel false names ((k, v) :: done) rest
      | .flowMapEnd :: rest => some (.object done.reverse .closed, names, rest)
      | rest => do
        let (k, names, rest) ← node fuel false false names rest
        flowFields fuel false names ((k, emptyScalar none) :: done) rest

end

/-- The handles that need no directive. -/
def standardHandles : List (String × String) :=
  [("!", "!"), ("!!", coreTag "")]

/-- The directives in front of a document: at most one version, 1.1 or 1.2, and no handle twice.
Directives come before the standard handles, which they may redefine. -/
def directives (version : Bool) (handles : List (String × String)) :
    List Token → Option (Bool × List (String × String) × List Token)
  | .version major minor :: rest =>
    if version || major ≠ 1 || (minor ≠ 1 && minor ≠ 2) then none
    else directives true handles rest
  | .tagHandle handle start :: rest =>
    if handles.any (·.1 == handle) then none
    else directives version (handles ++ [(handle, start)]) rest
  | rest => some (version || !handles.isEmpty, handles ++ standardHandles, rest)

/-- The content of a document whose start is explicit. -/
def content (names : Names) (tokens : List Token) : Option Parsed :=
  match tokens with
  | [] | .version .. :: _ | .tagHandle .. :: _ | .documentStart :: _ | .documentEnd :: _ =>
    some (emptyScalar none, names, tokens)
  | _ => node (4 * tokens.length + 4) true false names tokens

/-- The only document of a stream. -/
def single? (tokens : List Token) : Option Document :=
  match tokens with
  | [] => some (emptyScalar none)
  | _ => do
    let (any, handles, rest) ← directives false [] tokens
    let names : Names := ⟨handles, []⟩
    let (d, _, rest) ←
      match rest with
      | .documentStart :: rest => content names rest
      | [] => if any then none else content names rest
      | _ => if any then none else node (4 * rest.length + 4) true false names rest
    let rest :=
      match rest with
      | .documentEnd :: rest => rest
      | rest => rest
    if (rest.dropWhile (· == .documentEnd)).isEmpty then some d else none

end YamlText

/-- A YAML text as a document, if it is well formed and holds no more than one. -/
def ofYamlText? (text : String) : Option Document :=
  (Yaml.tokens? text).bind YamlText.single?

end ScanRoster.Document
