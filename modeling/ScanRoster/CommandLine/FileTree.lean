import ScanRoster.CommandLine.Host
import ScanRoster.Path

/-!
# Files in memory

A tree of files and folders held as a value, and the host that works on it and keeps what is
printed.
-/

namespace ScanRoster.CommandLine

/-- What stands under a path. -/
inductive FileNode
  | text (s : String)
  | garbled
  | folder
  deriving DecidableEq

/-- Files and folders by the parts of their full paths. Paths that do not start at the root start
`here`. -/
structure FileTree where
  here : List String
  nodes : List (List String × FileNode)
  deriving DecidableEq

namespace FileTree

/-- Only the folders that lead to the working folder. -/
def empty (here : List String) : FileTree :=
  ⟨here, (List.range (here.length + 1)).map fun n => (here.take n, .folder)⟩

/-- What stands under a full path. -/
def node? (t : FileTree) (parts : List String) : Option FileNode :=
  (t.nodes.find? (·.1 == parts)).map (·.2)

/-- The tree with something else under a full path. -/
def put (t : FileTree) (parts : List String) (n : FileNode) : FileTree :=
  if t.nodes.any (·.1 == parts) then
    { t with nodes := t.nodes.map fun (p, old) => if p = parts then (p, n) else (p, old) }
  else { t with nodes := t.nodes ++ [(parts, n)] }

/-- Where a path starts. -/
def origin (t : FileTree) (path : String) : List String :=
  if Path.isAbsolute path then [] else t.here

/-- The parts of a path as it is followed. A slash at the end asks for a folder. -/
def steps (path : String) : List String :=
  let parts := (Path.parts path).map String.ofList
  if path.toList.getLast? == some '/' then parts ++ ["."] else parts

/-- Follows the parts of a path from a full path on. Everything but the last must be a folder. -/
def follow (t : FileTree) (done : List String) : List String → Except FileFault (List String)
  | [] => .ok done
  | part :: rest =>
    match t.node? done with
    | some .folder =>
      if part = "." then follow t done rest
      else if part = ".." then follow t done.dropLast rest
      else follow t (done ++ [part]) rest
    | some _ => .error .notFolder
    | none => .error .missing

/-- The full path that a path leads to, and what stands there. -/
def locate (t : FileTree) (path : String) : Except FileFault (List String × Option FileNode) :=
  (t.follow (t.origin path) (steps path)).map fun parts => (parts, t.node? parts)

/-- The text of a file. -/
def read (t : FileTree) (path : String) : Except FileFault String :=
  match t.locate path with
  | .error e => .error e
  | .ok (_, none) => .error .missing
  | .ok (_, some .folder) => .error .isFolder
  | .ok (_, some .garbled) => .error .notText
  | .ok (_, some (.text s)) => .ok s

/-- Whether something stands under a path. -/
def isThere (t : FileTree) (path : String) : Bool :=
  match t.locate path with
  | .ok (_, some _) => true
  | _ => false

/-- The tree with a text in a file, which may be new. -/
def write (t : FileTree) (path s : String) : Except FileFault FileTree :=
  match t.locate path with
  | .error e => .error e
  | .ok (_, some .folder) => .error .isFolder
  | .ok (parts, _) => .ok (t.put parts (.text s))

/-- The tree with the folders along some parts, from a full path on. -/
def addFolders (t : FileTree) (done : List String) : List String → Except FileFault FileTree
  | [] => .ok t
  | part :: rest =>
    let next :=
      if part = "." then done
      else if part = ".." then done.dropLast
      else done ++ [part]
    match t.node? next with
    | some .folder => addFolders t next rest
    | some _ => .error (if rest.isEmpty then .taken else .notFolder)
    | none => addFolders (t.put next .folder) next rest

/-- The tree with a folder, and those that it stands in. -/
def createFolders (t : FileTree) (path : String) : Except FileFault FileTree :=
  t.addFolders (t.origin path) ((Path.parts path).map String.ofList)

end FileTree

/-- A tree of files, and what was printed. -/
structure Desk where
  files : FileTree
  printed : String
  deriving DecidableEq

namespace Desk

/-- The tree is exchanged for another, unless there is none. -/
def exchange (change : FileTree → Except FileFault FileTree) :
    StateM Desk (Except FileFault Unit) :=
  fun d =>
    match change d.files with
    | .ok files => (.ok (), { d with files })
    | .error e => (.error e, d)

/-- The host that works on a tree of files. -/
def host : Host (StateM Desk) where
  read path := fun d => (d.files.read path, d)
  isThere path := fun d => (d.files.isThere path, d)
  createFolders path := exchange (·.createFolders path)
  write path s := exchange (·.write path s)
  print s := fun d => ((), { d with printed := d.printed ++ s })

end Desk

end ScanRoster.CommandLine
