import ScanRoster.CommandLine.Options

/-!
# Help

What commands and options are for, as a help text, as a manual page, and as words that shells
complete.
-/

namespace ScanRoster.CommandLine

/-- An option as it is typed. -/
def Opt.usage (o : Opt) : String :=
  (o.short?.map fun c => "-" ++ String.singleton c ++ ", ").getD "" ++ "--" ++ o.long ++
    (if o.takesValue then " <VALUE>" else "")

namespace Command

/-- A command as it is typed. -/
def usage (c : Command) : String :=
  " ".intercalate (c.words ++ ["[OPTIONS]"] ++
    (if c.children.isEmpty then [] else ["<COMMAND>"]) ++
    (c.operand?.map fun o => "<" ++ o.name ++ ">").toList)

/-- The commands that are shown below a command. -/
def shownChildren (c : Command) : List Command :=
  c.children.filter fun d => !d.isHidden

/-- The help text of a command. -/
def helpText (c : Command) : String :=
  let line (what about : String) := "  " ++ what ++ "  " ++ about ++ "\n"
  let below := c.shownChildren.map fun d => line (" ".intercalate d.names) d.about
  let options := c.options.map fun o => line o.usage o.about
  c.about ++ "\n\nUsage: " ++ c.usage ++ "\n" ++
    (if below.isEmpty then "" else "\nCommands:\n" ++ String.join below) ++
    "\nOptions:\n" ++ String.join options

/-- The manual page of a command. -/
def manualPage (c : Command) : String :=
  let options := c.options.map fun o => ".TP\n" ++ o.usage ++ "\n" ++ o.about ++ "\n"
  ".TH " ++ c.fullName ++ " 1\n.SH NAME\n" ++ c.fullName ++ " - " ++ c.about ++
    "\n.SH SYNOPSIS\n" ++ c.usage ++ "\n.SH OPTIONS\n" ++ String.join options

/-- The commands with manual pages: each is followed by those below it. -/
def withManualPages : List Command :=
  .program :: program.shownChildren.flatMap fun c => c :: c.shownChildren

end Command

/-- The words that shells complete. -/
def completedWords : String :=
  " ".intercalate
    (Command.program.shownChildren.map (fun c => c.words.getLast?.getD "") ++
      (Opt.everywhere.map fun o => "--" ++ o.long))

/-- The completion script for a shell. -/
def Shell.completions : Shell → String
  | .bash => "complete -W \"" ++ completedWords ++ "\" wifitrack\n"
  | .elvish =>
    "set edit:completion:arg-completer[wifitrack] = \x7b|@words| put " ++ completedWords ++
      " \x7d\n"
  | .fish => "complete -c wifitrack -f -a \"" ++ completedWords ++ "\"\n"
  | .powershell =>
    "Register-ArgumentCompleter -Native -CommandName wifitrack -ScriptBlock \x7b \"" ++
      completedWords ++ "\".Split(\" \") \x7d\n"
  | .zsh => "#compdef wifitrack\ncompadd " ++ completedWords ++ "\n"

/-- What is told about a command line that is not carried out. -/
def Refusal.report : Refusal → String
  | .help c | .helpInstead c => c.helpText
  | .version c => c.versionLine
  | .unknownArgument word => "error: unexpected argument '" ++ word ++ "' found\n"
  | .unknownCommand word => "error: unrecognized subcommand '" ++ word ++ "'\n"
  | .missingCommand => "error: a subcommand is required but one was not provided\n"
  | .missingOperand operand => "error: <" ++ operand.name ++ "> was not provided\n"
  | .missingValue option => "error: a value is required for '" ++ option.usage ++ "'\n"
  | .valueNotAllowed option => "error: unexpected value for '" ++ option.usage ++ "'\n"
  | .repeated option => "error: '" ++ option.usage ++ "' cannot be used multiple times\n"
  | .unsuitable value => "error: invalid value '" ++ value ++ "'\n"
  | .notDuration cause => "error: " ++ cause.message ++ "\n"
  | refusal@(.notSecurity _) => "error: " ++ refusal.message?.getD "" ++ "\n"

end ScanRoster.CommandLine
