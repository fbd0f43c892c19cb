/-!
# Hosts

What a command needs of the machine that it runs on: to read and write files, to create folders,
and to print.
-/

namespace ScanRoster.CommandLine

/-- Why something cannot be done with a file. -/
inductive FileFault
  | missing
  | isFolder
  | notFolder
  | taken
  | notText
  | other (message : String)
  deriving DecidableEq

/-- The message for a failure. -/
def FileFault.message : FileFault → String
  | .missing => "No such file or directory (os error 2)"
  | .isFolder => "Is a directory (os error 21)"
  | .notFolder => "Not a directory (os error 20)"
  | .taken => "File exists (os error 17)"
  | .notText => "stream did not contain valid UTF-8"
  | .other message => message

/-- A machine, by what can be done on it. Folders are created with those that they stand in. -/
structure Host (m : Type → Type) where
  read : String → m (Except FileFault String)
  isThere : String → m Bool
  createFolders : String → m (Except FileFault Unit)
  write : String → String → m (Except FileFault Unit)
  print : String → m Unit

end ScanRoster.CommandLine
