import ScanRoster.CommandLine.Run

/-!
# The program

Runs a command line on the machine's own files, environment and output.
-/

namespace ScanRoster

open CommandLine

/-- The failure that an error of the system is. -/
def fileFault : IO.Error → FileFault
  | .noFileOrDirectory _ _ _ => .missing
  | .alreadyExists _ _ _ => .taken
  | .inappropriateType _ _ _ => .isFolder
  | e => .other (toString e)

/-- What an operation gives, or how it fails. -/
def attempt {α : Type} (x : IO α) : IO (Except FileFault α) := do
  try
    return .ok (← x)
  catch e =>
    return .error (fileFault e)

/-- The files and the output of the machine. -/
def machine : Host IO where
  read path := do
    match ← attempt (IO.FS.readBinFile path) with
    | .ok bytes =>
      match String.fromUTF8? bytes with
      | some s => return .ok s
      | none => return .error .notText
    | .error e => return .error e
  isThere path := do
    match ← attempt (IO.FS.Handle.mk path .read) with
    | .ok _ => return true
    | .error _ => return false
  createFolders path := if path.isEmpty then return .ok () else attempt (IO.FS.createDirAll path)
  write path s := attempt (IO.FS.writeFile path s)
  print s := do (← IO.getStdout).putStr s

/-- The variables of the environment in the order of their names. -/
def environment : IO (List (String × String)) := do
  match ← machine.read "/proc/self/environ" with
  | .error _ => return []
  | .ok s =>
    let pairs := (s.toList.splitOnP (· == '\x00')).map fun line =>
      let name := line.takeWhile (· != '=')
      (String.ofList name, String.ofList (line.drop (name.length + 1)))
    return pairs.mergeSort fun a b => a.1 ≤ b.1

/-- Tells why nothing was done. -/
def refuse (refusal : Refusal) : IO UInt32 := do
  let out ← if refusal.exitCode = 0 then IO.getStdout else IO.getStderr
  out.putStr refusal.report
  return UInt32.ofNat refusal.exitCode

/-- Tells why a command has failed. -/
def fail (f : Failure) : IO UInt32 := do
  let err ← IO.getStderr
  err.putStrLn (f.code ++ ": " ++ f.message)
  match f.help? with
  | some help => err.putStrLn ("help: " ++ help)
  | none => pure ()
  return UInt32.ofNat f.exitCode

end ScanRoster

open ScanRoster in
/-- Reads the command line and does what it asks for. -/
def main (args : List String) : IO UInt32 := do
  let env ← environment
  match CommandLine.read env args with
  | .error refusal => refuse refusal
  | .ok invocation =>
    let colors := env.all fun (name, _) => name != "NO_COLOR"
    let terminal := colors && (← (← IO.getStdout).isTty)
    match ← (invocation.run machine ⟨env, terminal⟩).run with
    | .ok () => return 0
    | .error f => fail f
