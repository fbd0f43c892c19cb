import ScanRoster.CommandLine.Options
import ScanRoster.Replay.Run

/-!
# Reading a command line

The words of a command line are read level by level: options and operands of the program, then
those of the command that a word names. A value is checked when the next option or operand of its
level comes, or when everything below its level has been read. A value that is given further in
counts more, and a variable of the environment counts where no value is given.
-/

namespace ScanRoster.CommandLine

/-- What is given on one level, or on all of them. -/
structure Given where
  output : Option Output.Format
  color : Option Output.ColorMode
  quiet : Bool
  config : Option String
  each : Bool
  maxEntryAge : Option Duration
  scanInterval : Option Duration
  security : Option SecurityClass
  ssid : Option String
  secured : Bool
  seenWithin : Option Duration
  force : Bool
  shell : Option Shell
  operands : List String

namespace Given

/-- Nothing is given. -/
def nothing : Given :=
  ⟨none, none, false, none, false, none, none, none, none, false, none, false, none, []⟩

/-- What is given on a level and above it. -/
def within (inner outer : Given) : Given :=
  { inner with
    output := inner.output <|> outer.output
    color := inner.color <|> outer.color
    quiet := inner.quiet || outer.quiet
    config := inner.config <|> outer.config }

/-- A path, which is not empty. -/
def path (value : String) : Except Refusal String :=
  if value.isEmpty then .error (.unsuitable value) else .ok value

/-- A name of something. -/
def named {α : Type} (ofName? : String → Option α) (value : String) : Except Refusal α :=
  match ofName? value with
  | some a => .ok a
  | none => .error (.unsuitable value)

/-- A duration, of which no blank is cut off. -/
def duration (value : String) : Except Refusal Duration :=
  (Duration.ofText value.toList).mapError .notDuration

/-- A security class, in either case. -/
def security? (value : String) : Except Refusal SecurityClass :=
  match SecurityClass.ofCodeIgnoringCase? value with
  | some c => .ok c
  | none => .error (.notSecurity value)

/-- The value of an option is checked and kept. -/
def setValue (g : Given) (o : Opt) (value : String) : Except Refusal Given := do
  match o with
  | .output => return { g with output := some (← named Output.Format.ofName? value) }
  | .color => return { g with color := some (← named Output.ColorMode.ofName? value) }
  | .config => return { g with config := some (← path value) }
  | .maxEntryAge => return { g with maxEntryAge := some (← duration value) }
  | .scanInterval => return { g with scanInterval := some (← duration value) }
  | .security => return { g with security := some (← security? value) }
  | .ssid => return { g with ssid := some value }
  | .seenWithin => return { g with seenWithin := some (← duration value) }
  | _ => return g

/-- An option without a value is kept. -/
def setFlag (g : Given) : Opt → Given
  | .quiet => { g with quiet := true }
  | .each => { g with each := true }
  | .secured => { g with secured := true }
  | .force => { g with force := true }
  | _ => g

/-- A word is checked as an operand and kept. -/
def addOperand (g : Given) (operand : Operand) (word : String) : Except Refusal Given := do
  let g := { g with operands := g.operands ++ [word] }
  match operand with
  | .script | .folder => do
    let _ ← path word
    return g
  | .capabilities => return g
  | .shell => return { g with shell := some (← named Shell.ofName? word) }

end Given

/-- What was read and is not yet checked. -/
inductive Pending
  | option (o : Opt) (value : Option String)
  | operands (words : List String)

/-- A level as far as it is read. `seen` holds the options that are checked, `placed` counts the
operands, and `literal` tells whether only operands may follow. -/
structure Level where
  command : Command
  given : Given
  seen : List Opt
  pending : Option Pending
  placed : Nat
  literal : Bool

namespace Level

/-- A level of which nothing is read. -/
def start (c : Command) : Level :=
  ⟨c, .nothing, [], none, 0, false⟩

/-- An option with its value is checked and kept. Only once may it be given. -/
def store (l : Level) (o : Opt) (value : String) : Except Refusal Level := do
  if l.seen.contains o then throw (.repeated o)
  return { l with given := ← l.given.setValue o value, seen := o :: l.seen }

/-- What was read is checked. -/
def settle (l : Level) : Except Refusal Level := do
  let rest := { l with pending := none }
  match l.pending with
  | none => return rest
  | some (.option o none) => throw (.missingValue o)
  | some (.option o (some value)) => rest.store o value
  | some (.operands words) =>
    match l.command.operand? with
    | none => return rest
    | some operand =>
      return { rest with
        given := ← words.foldlM (fun g w => g.addOperand operand w) rest.given }

/-- An option is read, perhaps with a value attached to it. -/
def takeOption (l : Level) (o : Opt) (attached : Option String) : Except Refusal Level := do
  if o.takesValue then
    let l ← l.settle
    match attached with
    | some value => l.store o value
    | none => return { l with pending := some (.option o none) }
  else if attached.isSome then throw (.valueNotAllowed o)
  else
    let l ← l.settle
    match o with
    | .help => throw (.help l.command)
    | .version => throw (.version l.command)
    | _ =>
      if l.seen.contains o && o != .verbose then throw (.repeated o)
      return { l with given := l.given.setFlag o, seen := o :: l.seen }

/-- An option by its long name, with what follows an equals sign as its value. -/
def takeLong (l : Level) (word : String) (text : List Char) : Except Refusal Level :=
  let name := text.takeWhile (· != '=')
  let attached := (text.drop name.length).tail?.map String.ofList
  match l.command.options.find? (·.long.toList == name) with
  | some o => l.takeOption o attached
  | none => .error (.unknownArgument word)

/-- Options by their letters. What follows the letter of an option that takes a value is its
value. -/
def takeShort (l : Level) (word : String) : List Char → Except Refusal Level
  | [] => .ok l
  | c :: rest => do
    match l.command.options.find? (·.short? == some c) with
    | none => throw (.unknownArgument word)
    | some o =>
      if o.takesValue then
        let value :=
          match rest with
          | '=' :: value => some (String.ofList value)
          | [] => none
          | value => some (String.ofList value)
        l.takeOption o value
      else (← l.takeOption o none).takeShort word rest

/-- A word that is no option. -/
def takeOperand (l : Level) (word : String) : Except Refusal Level := do
  match l.command.operand?, l.pending with
  | some .capabilities, some (.operands words) =>
    return { l with pending := some (.operands (words ++ [word])) }
  | some operand, _ =>
    if operand = .capabilities ∨ l.placed = 0 then
      return { ← l.settle with pending := some (.operands [word]), placed := l.placed + 1 }
    else throw (.unknownArgument word)
  | none, _ =>
    if l.command.children.isEmpty || (l.literal && (l.command.child? word).isSome) then
      throw (.unknownArgument word)
    else throw (.unknownCommand word)

/-- A word that names no command. -/
def take (l : Level) (word : String) : Except Refusal Level :=
  if l.literal then l.takeOperand word
  else
    match word.toList with
    | ['-', '-'] => .ok { l with literal := true }
    | '-' :: '-' :: text => l.takeLong word text
    | '-' :: c :: text => l.takeShort word (c :: text)
    | _ =>
      match l.pending with
      | some (.option o none) => .ok { l with pending := some (.option o (some word)) }
      | _ => l.takeOperand word

/-- Whether a word may name a command here: not after the end of the options, and not where an
option waits for its value. -/
def expectsCommand (l : Level) : Bool :=
  match l.literal, l.pending with
  | true, _ | _, some (.option _ none) => false
  | _, _ => true

/-- The options that are not given on a level but by a variable, with its value. -/
def standIns (l : Level) (env : List (String × String)) : List (Opt × String) :=
  Opt.everywhere.filterMap fun o =>
    if l.seen.contains o then none
    else
      match o.envName? with
      | some name => (env.find? (·.1 == name)).map fun (_, value) => (o, value)
      | none => none

/-- Everything below a level has been read: what is left is checked, and so are the variables. -/
def close (l : Level) (env : List (String × String)) : Except Refusal Level := do
  let l ← l.settle
  for (o, value) in l.standIns env do
    let _ ← l.given.setValue o value
  return l

/-- The end of a command line has come on a level: it must name a command, and have its
operand. -/
def finish (l : Level) (env : List (String × String)) : Except Refusal Given := do
  let l ← l.close env
  if !l.command.children.isEmpty then
    if l.seen.isEmpty && (l.standIns env).isEmpty then throw (.helpInstead l.command)
    else throw .missingCommand
  match l.command.operand? with
  | some operand => if l.given.operands.isEmpty then throw (.missingOperand operand)
  | none => pure ()
  return l.given

end Level

/-- The help that some words ask for, below a command. -/
def helpOn (c : Command) : List String → Refusal
  | [] => .help c
  | word :: rest =>
    match c.child? word with
    | some child => helpOn child rest
    | none =>
      if word == "help" && rest.isEmpty && !c.children.isEmpty then .help c
      else .unknownCommand word

/-- The words of a command line from some level on: the command that they name, and everything
that is given. -/
def readLevel (env : List (String × String)) (l : Level) :
    List String → Except Refusal (Command × Given)
  | [] => do return (l.command, ← l.finish env)
  | word :: rest => do
    if l.expectsCommand then
      match l.command.child? word with
      | some child =>
        let (command, inner) ← readLevel env (.start child) rest
        let l ← l.close env
        return (command, inner.within l.given)
      | none =>
        if word == "help" && !l.command.children.isEmpty then throw (helpOn l.command rest)
        else readLevel env (← l.take word) rest
    else readLevel env (← l.take word) rest

/-- What a command line asks for. -/
inductive Action
  | replay (script : String) (each : Bool) (maxEntryAge scanInterval : Option Duration)
      (selection : Replay.Selection)
  | classify (capabilities : List String)
  | configInit (force : Bool)
  | configShow
  | configPath
  | completions (shell : Shell)
  | man (folder : String)

/-- A command line that has been read: how to print, which settings file to use, and what to
do. -/
structure Invocation where
  output : Option Output.Format
  color : Option Output.ColorMode
  quiet : Bool
  config : Option String
  action : Action

/-- What is asked for by a command and everything that is given. -/
def action? (c : Command) (g : Given) : Except Refusal Action :=
  match c, g.operands with
  | .replay, script :: _ =>
    .ok (.replay script g.each g.maxEntryAge g.scanInterval
      ⟨g.security, g.ssid, g.secured, g.seenWithin⟩)
  | .classify, capabilities => .ok (.classify capabilities)
  | .configInit, _ => .ok (.configInit g.force)
  | .configShow, _ => .ok .configShow
  | .configPath, _ => .ok .configPath
  | .completions, _ =>
    match g.shell with
    | some shell => .ok (.completions shell)
    | none => .error (.missingOperand .shell)
  | .man, folder :: _ => .ok (.man folder)
  | _, _ => .error .missingCommand

/-- Values from variables, where none are given. -/
def withVariables (env : List (String × String)) (g : Given) : Except Refusal Given :=
  let value (o : Opt) : Option String :=
    o.envName?.bind fun name => (env.find? (·.1 == name)).map (·.2)
  let fill (g : Given) (missing : Bool) (o : Opt) : Except Refusal Given :=
    match missing, value o with
    | true, some v => g.setValue o v
    | _, _ => .ok g
  do fill (← fill g g.output.isNone .output) g.config.isNone .config

/-- Reads the words of a command line in an environment. -/
def read (env : List (String × String)) (args : List String) : Except Refusal Invocation := do
  let (command, given) ← readLevel env (.start .program) args
  let given ← withVariables env given
  return ⟨given.output, given.color, given.quiet, given.config, ← action? command given⟩

end ScanRoster.CommandLine
