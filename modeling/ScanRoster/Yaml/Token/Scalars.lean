import ScanRoster.Yaml.Cursor
import ScanRoster.Yaml.Scalar

/-!
# Scalars in a YAML text

The three ways in which the text of a scalar is written down: block scalars, quoted scalars and
plain scalars. Line ends within a scalar are folded as the standard has it. A reader returns
nothing where the text is malformed.
-/

namespace ScanRoster.Yaml

/-- Line ends and blanks between two parts of a scalar: the first line end, the further ones,
and the blanks where there is no line end. -/
structure Gap where
  broken : Bool
  firstBreak : List Char
  moreBreaks : List Char
  blanks : List Char

namespace Gap

/-- No gap at all. -/
def none : Gap :=
  ⟨false, [], [], []⟩

/-- What a gap amounts to: a single line end is a space, and of several the first is dropped. -/
def folded (g : Gap) : List Char :=
  if g.broken then
    if g.firstBreak = ['\n'] then (if g.moreBreaks.isEmpty then [' '] else g.moreBreaks)
    else g.firstBreak ++ g.moreBreaks
  else g.blanks

/-- Reads a gap on. In a block, a tab may not stand within the indentation of a continued plain
scalar, which `indent` gives. -/
def read (indent : Option Nat) (fuel : Nat) (g : Gap) (c : Cursor) : Option (Gap × Cursor) :=
  match fuel with
  | 0 => some (g, c)
  | fuel + 1 =>
    match c.rest with
    | [] => some (g, c)
    | x :: _ =>
      if isBlank x then
        let bad :=
          match indent with
          | some n => g.broken && x == '\t' && c.column < n
          | Option.none => false
        if bad then Option.none
        else read indent fuel (if g.broken then g else { g with blanks := g.blanks ++ [x] }) (c.skip 1)
      else
        match c.lineEnd? with
        | Option.none => some (g, c)
        | some (b, c) =>
          let g :=
            if g.broken then { g with moreBreaks := g.moreBreaks ++ b }
            else { g with broken := true, firstBreak := b, blanks := [] }
          read indent fuel g c

end Gap

/-- Whether a character ends a plain scalar that stands in a flow collection. -/
def isFlowMark (c : Char) : Bool :=
  c == ',' || c == '[' || c == ']' || c == '\x7b' || c == '\x7d'

/-- How many characters a plain scalar has up to the next gap or mark. -/
def plainRun (inFlow : Bool) : List Char → Option Nat
  | [] => some 0
  | c :: rest =>
    if isGap c then some 0
    else
      let colonMark :=
        match rest with
        | d :: _ => isFlowMark d || d == '?'
        | [] => false
      if inFlow && c == ':' && colonMark then none
      else if c == ':' && gapAhead rest then some 0
      else if inFlow && isFlowMark c then some 0
      else (plainRun inFlow rest).map (· + 1)

/-- A plain scalar on from its text so far and the gap after it. Also tells whether the scalar
ended after a line end. -/
def plainFrom (inFlow : Bool) (indent : Nat) (fuel : Nat) (text : List Char) (gap : Gap)
    (c : Cursor) : Option (List Char × Bool × Cursor) :=
  match fuel with
  | 0 => none
  | fuel + 1 =>
    if c.atDocumentMark || c.rest.head? == some '#' then some (text, gap.broken, c)
    else
      match plainRun inFlow c.rest with
      | none => none
      | some n =>
        let run := c.rest.take n
        let c := c.skip n
        let (text, gap) := if n = 0 then (text, gap) else (text ++ gap.folded ++ run, Gap.none)
        match c.rest with
        | x :: _ =>
          if isGap x then
            match gap.read (some indent) (c.rest.length + 1) c with
            | none => none
            | some (gap, c) =>
              if !inFlow && c.column < indent then some (text, gap.broken, c)
              else plainFrom inFlow indent fuel text gap c
          else some (text, gap.broken, c)
        | [] => some (text, gap.broken, c)

/-- What follows a backslash in a double-quoted scalar: a character, or how many hexadecimal
digits give it. -/
inductive Escape
  | character (c : Char)
  | digits (n : Nat)

/-- The meaning of the character after a backslash. -/
def escape? (c : Char) : Option Escape :=
  match c with
  | '0' => some (.character '\x00')
  | 'a' => some (.character '\x07')
  | 'b' => some (.character '\x08')
  | 't' | '\t' => some (.character '\t')
  | 'n' => some (.character '\n')
  | 'v' => some (.character '\x0b')
  | 'f' => some (.character '\x0c')
  | 'r' => some (.character '\r')
  | 'e' => some (.character '\x1b')
  | ' ' => some (.character ' ')
  | '"' => some (.character '"')
  | '/' => some (.character '/')
  | '\\' => some (.character '\\')
  | 'N' => some (.character '\u0085')
  | '_' => some (.character '\u00a0')
  | 'L' => some (.character '\u2028')
  | 'P' => some (.character '\u2029')
  | 'x' => some (.digits 2)
  | 'u' => some (.digits 4)
  | 'U' => some (.digits 8)
  | _ => none

/-- The character with a code given by hexadecimal digits. -/
def charOfDigits? (digits : List Char) : Option Char :=
  match digits? 16 digits with
  | none => none
  | some n => if h : n.isValidChar then some (Char.ofNatAux n h) else none

/-- The characters of a quoted scalar up to the next gap or the closing quote. Also tells whether
an escaped line end was met, which starts a gap. -/
def quotedRun (double : Bool) (fuel : Nat) (text : List Char) (c : Cursor) :
    Option (List Char × Bool × Cursor) :=
  match fuel with
  | 0 => none
  | fuel + 1 =>
    match c.rest with
    | [] => some (text, false, c)
    | x :: rest =>
      if isGap x then some (text, false, c)
      else if !double && x == '\'' then
        match rest with
        | '\'' :: _ => quotedRun double fuel (text ++ ['\'']) (c.skip 2)
        | _ => some (text, false, c)
      else if double && x == '"' then some (text, false, c)
      else if double && x == '\\' then
        match rest with
        | [] => none
        | y :: more =>
          if isBreak y then
            match (c.skip 1).lineEnd? with
            | some (_, c) => some (text, true, c)
            | none => none
          else
            match escape? y with
            | none => none
            | some (.character z) => quotedRun double fuel (text ++ [z]) (c.skip 2)
            | some (.digits n) =>
              if more.length < n then none
              else
                match charOfDigits? (more.take n) with
                | some z => quotedRun double fuel (text ++ [z]) (c.skip (2 + n))
                | none => none
      else quotedRun double fuel (text ++ [x]) (c.skip 1)

/-- A quoted scalar whose opening quote has been taken. -/
def quotedFrom (double : Bool) (fuel : Nat) (text : List Char) (c : Cursor) :
    Option (List Char × Cursor) :=
  match fuel with
  | 0 => none
  | fuel + 1 =>
    if c.atDocumentMark || c.rest.isEmpty then none
    else
      match quotedRun double (c.rest.length + 1) text c with
      | none => none
      | some (text, escapedEnd, c) =>
        if c.rest.head? == some (if double then '"' else '\'') then some (text, c.skip 1)
        else
          let gap : Gap := if escapedEnd then { Gap.none with broken := true } else Gap.none
          match gap.read none (c.rest.length + 1) c with
          | none => none
          | some (gap, c) => quotedFrom double fuel (text ++ gap.folded) c

/-- What a block scalar does with the line ends at its end. -/
inductive Chomping
  | strip
  | clip
  | keep
  deriving DecidableEq

/-- The header of a block scalar: its chomping and the indentation that it states, if any. -/
def blockHeader? (c : Cursor) : Option (Chomping × Nat × Cursor) :=
  let chomping? (x : Char) : Option Chomping :=
    if x == '+' then some .keep else if x == '-' then some .strip else none
  let digit? (x : Char) : Option Nat :=
    if x.isDigit then some (x.toNat - '0'.toNat) else none
  match c.rest with
  | x :: rest =>
    match chomping? x, digit? x with
    | some k, _ =>
      match rest.head?.bind digit? with
      | some 0 => none
      | some n => some (k, n, c.skip 2)
      | none => some (k, 0, c.skip 1)
    | none, some 0 => none
    | none, some n =>
      match rest.head?.bind chomping? with
      | some k => some (k, n, c.skip 2)
      | none => some (.clip, n, c.skip 1)
    | none, none => some (.clip, 0, c)
  | [] => some (.clip, 0, c)

/-- Takes indentation and empty lines. `indent` is zero where the first line with text decides
it; `widest` is the widest column met so far. -/
def blockGap (indent : Nat) (fuel : Nat) (widest : Nat) (breaks : List Char) (c : Cursor) :
    Option (Nat × List Char × Cursor) :=
  match fuel with
  | 0 => none
  | fuel + 1 =>
    let n := (c.rest.takeWhile (· == ' ')).length
    let c := c.skip (if indent = 0 then n else min n (indent - c.column))
    let widest := max widest c.column
    if (indent = 0 || c.column < indent) && c.rest.head? == some '\t' then none
    else
      match c.lineEnd? with
      | some (b, c) => blockGap indent fuel widest (breaks ++ b) c
      | none => some (widest, breaks, c)

/-- The lines of a block scalar. `first` is the line end before the line at hand, and `breaks`
those of the empty lines after it. -/
def blockLines (literal : Bool) (indent : Nat) (fuel : Nat) (text first breaks : List Char)
    (blankBefore : Bool) (c : Cursor) : Option (List Char × List Char × List Char × Cursor) :=
  match fuel with
  | 0 => none
  | fuel + 1 =>
    if c.column ≠ indent || c.rest.isEmpty then some (text, first, breaks, c)
    else
      let blank := blankAhead c.rest
      let joint :=
        if !literal && first == ['\n'] && !blankBefore && !blank then
          if breaks.isEmpty then [' '] else []
        else first
      let (line, c) := c.span (!isBreak ·)
      let text := text ++ joint ++ breaks ++ line
      let (first, c) := (c.lineEnd?).getD ([], c)
      match blockGap indent (c.rest.length + 1) 0 [] c with
      | none => none
      | some (_, breaks, c) => blockLines literal indent fuel text first breaks blank c

/-- A block scalar after its mark. `outer` is the indentation of the block around it. -/
def blockScalar? (literal : Bool) (outer : Int) (c : Cursor) : Option (List Char × Cursor) := do
  let (chomping, stated, c) ← blockHeader? c
  let c ← c.finishLine?
  let given : Nat := if stated = 0 then 0 else (max outer 0).toNat + stated
  let (widest, breaks, c) ← blockGap given (c.rest.length + 1) 0 [] c
  let indent := if given = 0 then max (max widest (outer + 1).toNat) 1 else given
  let (text, first, breaks, c) ←
    blockLines literal indent (c.rest.length + 1) [] [] breaks false c
  let text := if chomping = .strip then text else text ++ first
  let text := if chomping = .keep then text ++ breaks else text
  return (text, c)

end ScanRoster.Yaml
