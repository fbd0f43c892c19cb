import ScanRoster.Duration.Text
import ScanRoster.Output.Color
import ScanRoster.Output.Format

/-!
# Commands and options

The commands of the program, the options and the operands that each of them takes, and what the
values of options are checked against.
-/

namespace ScanRoster.CommandLine

/-- The shells for which completions are written. -/
inductive Shell
  | bash
  | elvish
  | fish
  | powershell
  | zsh
  deriving DecidableEq, Repr

namespace Shell

/-- Every shell. -/
def all : List Shell :=
  [.bash, .elvish, .fish, .powershell, .zsh]

/-- The name of a shell. -/
def name : Shell → String
  | .bash => "bash"
  | .elvish => "elvish"
  | .fish => "fish"
  | .powershell => "powershell"
  | .zsh => "zsh"

/-- The shell with exactly this name. -/
def ofName? (s : String) : Option Shell :=
  all.find? (·.name == s)

end Shell

/-- An option. -/
inductive Opt
  | output
  | color
  | verbose
  | quiet
  | config
  | each
  | maxEntryAge
  | scanInterval
  | security
  | ssid
  | secured
  | seenWithin
  | force
  | help
  | version
  deriving DecidableEq, Repr

namespace Opt

/-- The long name of an option. -/
def long : Opt → String
  | .output => "output"
  | .color => "color"
  | .verbose => "verbose"
  | .quiet => "quiet"
  | .config => "config"
  | .each => "each"
  | .maxEntryAge => "max-entry-age"
  | .scanInterval => "scan-interval"
  | .security => "security"
  | .ssid => "ssid"
  | .secured => "secured"
  | .seenWithin => "seen-within"
  | .force => "force"
  | .help => "help"
  | .version => "version"

/-- The letter of an option, if it has one. -/
def short? : Opt → Option Char
  | .output => some 'o'
  | .verbose => some 'v'
  | .quiet => some 'q'
  | .help => some 'h'
  | .version => some 'V'
  | _ => none

/-- Whether an option has a value. -/
def takesValue : Opt → Bool
  | .output | .color | .config | .maxEntryAge | .scanInterval | .security | .ssid
  | .seenWithin => true
  | _ => false

/-- The environment variable that stands in for an option, if there is one. -/
def envName? : Opt → Option String
  | .output => some "WIFITRACK_OUTPUT"
  | .config => some "WIFITRACK_CONFIG"
  | _ => none

/-- The options that every command takes. -/
def everywhere : List Opt :=
  [.output, .color, .verbose, .quiet, .config, .help, .version]

/-- What an option is for. -/
def about : Opt → String
  | .output => "Output format: table, json, json-compact, yaml or plain"
  | .color => "When to use color output: auto, always or never"
  | .verbose => "Increase verbosity"
  | .quiet => "Suppress non-error output"
  | .config => "Config file to use instead of the platform default"
  | .each => "Print the entry list after every step, not just the last"
  | .maxEntryAge => "Override the configured max entry age"
  | .scanInterval => "Override the configured scan interval"
  | .security => "Only show entries of this security class"
  | .ssid => "Only show entries whose SSID contains this text"
  | .secured => "Only show networks that need a credential to join"
  | .seenWithin => "Only show entries seen within this long of the step time"
  | .force => "Overwrite an existing file"
  | .help => "Print help"
  | .version => "Print version"

end Opt

/-- What the words of a command line that belong to no option stand for. -/
inductive Operand
  | script
  | capabilities
  | shell
  | folder
  deriving DecidableEq, Repr

/-- The name of an operand. -/
def Operand.name : Operand → String
  | .script => "SCRIPT"
  | .capabilities => "CAPABILITIES"
  | .shell => "SHELL"
  | .folder => "DIR"

/-- A command, the program as a whole among them. -/
inductive Command
  | program
  | replay
  | classify
  | config
  | configInit
  | configShow
  | configPath
  | completions
  | man
  deriving DecidableEq, Repr

namespace Command

/-- The words of a command. -/
def words : Command → List String
  | .program => ["wifitrack"]
  | .replay => ["wifitrack", "replay"]
  | .classify => ["wifitrack", "classify"]
  | .config => ["wifitrack", "config"]
  | .configInit => ["wifitrack", "config", "init"]
  | .configShow => ["wifitrack", "config", "show"]
  | .configPath => ["wifitrack", "config", "path"]
  | .completions => ["wifitrack", "completions"]
  | .man => ["wifitrack", "man"]

/-- The commands below a command. -/
def children : Command → List Command
  | .program => [.replay, .classify, .config, .completions, .man]
  | .config => [.configInit, .configShow, .configPath]
  | _ => []

/-- The last word of a command and its short forms. -/
def names : Command → List String
  | .replay => ["replay", "r"]
  | .classify => ["classify", "c"]
  | c => c.words.getLast?.toList

/-- The command below a command that a word names. -/
def child? (c : Command) (word : String) : Option Command :=
  c.children.find? (·.names.contains word)

/-- Whether a command is left out of lists of commands. -/
def isHidden : Command → Bool
  | .man => true
  | _ => false

/-- The options that only this command takes. -/
def ownOptions : Command → List Opt
  | .replay =>
    [.each, .maxEntryAge, .scanInterval, .security, .ssid, .secured, .seenWithin]
  | .configInit => [.force]
  | _ => []

/-- The options that a command takes. -/
def options (c : Command) : List Opt :=
  c.ownOptions ++ Opt.everywhere

/-- What a command takes beside options. -/
def operand? : Command → Option Operand
  | .replay => some .script
  | .classify => some .capabilities
  | .completions => some .shell
  | .man => some .folder
  | _ => none

/-- What a command does. -/
def about : Command → String
  | .program => "Turn noisy WiFi scan results into a stable list of networks"
  | .replay => "Feed a scripted scan sequence through the tracker and print the entries"
  | .classify => "Classify capability strings into security classes"
  | .config => "Manage CLI configuration"
  | .configInit => "Write a config file with default values"
  | .configShow => "Display current resolved configuration"
  | .configPath => "Print the config file path"
  | .completions => "Generate shell completions"
  | .man => "Write roff man pages for every command"

/-- The name of a command in one word. -/
def fullName (c : Command) : String :=
  "-".intercalate c.words

/-- The line that tells the version of the program. -/
def versionLine (c : Command) : String :=
  c.fullName ++ " 0.1.0\n"

end Command

/-- Why a command line is not carried out. -/
inductive Refusal
  | help (c : Command)
  | helpInstead (c : Command)
  | version (c : Command)
  | unknownArgument (word : String)
  | unknownCommand (word : String)
  | missingCommand
  | missingOperand (operand : Operand)
  | missingValue (option : Opt)
  | valueNotAllowed (option : Opt)
  | repeated (option : Opt)
  | unsuitable (value : String)
  | notDuration (cause : Duration.TextFault)
  | notSecurity (value : String)
  deriving DecidableEq

namespace Refusal

/-- Help and the version are answers, everything else is a failure. -/
def exitCode : Refusal → Nat
  | .help _ | .version _ => 0
  | _ => 2

/-- The message for a value that a check of its own has refused, and the line of the version. -/
def message? : Refusal → Option String
  | .version c => some c.versionLine
  | .notDuration cause => some cause.message
  | .notSecurity value =>
    some ("unknown security class '" ++ value ++ "' (expected one of: " ++
      ", ".intercalate (SecurityClass.all.map SecurityClass.code) ++ ")")
  | _ => none

end Refusal

end ScanRoster.CommandLine
