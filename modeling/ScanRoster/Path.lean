/-!
# Paths

File paths as texts: their parts, the name of the file that they lead to, and its extension.
-/

namespace ScanRoster.Path

/-- The parts of a path between its slashes. Empty parts and single dots do not count. -/
def parts (path : String) : List (List Char) :=
  (path.toList.splitOnP (· == '/')).filter fun p => !p.isEmpty && p != ['.']

/-- Whether a path starts at the root. -/
def isAbsolute (path : String) : Bool :=
  path.toList.head? == some '/'

/-- The name of the file that a path leads to, if its last part is a name. -/
def fileName? (path : String) : Option (List Char) :=
  (parts path).getLast?.filter (· != ['.', '.'])

/-- What follows the last dot of a file name that does not start with this dot. -/
def extension? (path : String) : Option String := do
  let name ← fileName? path
  let after := name.reverse.takeWhile (· != '.')
  let before := (name.reverse.drop after.length).drop 1
  if before.isEmpty then none else some (String.ofList after.reverse)

/-- A path with a further part. -/
def join (path part : String) : String :=
  if isAbsolute part || path.isEmpty then part
  else if path.toList.getLast? == some '/' then path ++ part
  else path ++ "/" ++ part

/-- A path without its last part. -/
def parent (path : String) : String :=
  String.ofList
    ((if isAbsolute path then ['/'] else []) ++ ['/'].intercalate (parts path).dropLast)

end ScanRoster.Path
