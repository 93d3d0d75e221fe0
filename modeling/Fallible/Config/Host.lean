/-!
# The host

What a configuration is looked for in: the variables of the environment and the files. A path is a
text whose parts are separated by slashes; it is followed part by part, from the root or from the
working directory, and only a directory has anything beneath it.

## Main definitions

* `Files`, `Files.walk`: files and directories, and following a path
* `Host`, `Host.find?`: the environment and the files, and what stands at a path
-/

namespace Fallible

/-- What stands at a path. -/
inductive Node where
  | file (bytes : ByteArray)
  | directory
  /-- Something whose contents the host does not give, with what it says then. -/
  | closed (reason : String)

/-- Files and directories by the parts of their paths; of two for one path the first counts. -/
abbrev Files := List (List String × Node)

namespace Path

/-- Whether a path starts at the root. -/
def isAbsolute (path : String) : Bool :=
  path.toList.head? == some '/'

/-- A path with one more part. -/
def join (path part : String) : String :=
  if path.isEmpty || path.toList.getLast? == some '/' then path ++ part else path ++ "/" ++ part

/-- The parts of a text between slashes. -/
def split : List Char → List (List Char)
  | [] => [[]]
  | c :: cs =>
    if c == '/' then [] :: split cs
    else match split cs with
      | [] => [[c]]
      | part :: parts => (c :: part) :: parts

/-- The parts of a path; an empty part asks for a directory, like a dot. -/
def parts (path : String) : List String :=
  (split path.toList).map String.ofList

end Path

namespace Files

/-- What stands at a path given by its parts. The root is a directory. -/
def node? (files : Files) : List String → Option Node
  | [] => some .directory
  | path => files.lookup path

/-- Whether a directory stands at a path. -/
def isDirectory (files : Files) (path : List String) : Bool :=
  match files.node? path with
  | some .directory => true
  | _ => false

/-- Goes from a place along the parts of a path. -/
def walk (files : Files) : (place : List String) → List String → Option (List String)
  | place, [] => some place
  | place, part :: parts =>
    if !files.isDirectory place then none
    else if part.isEmpty || part == "." then walk files place parts
    else if part == ".." then walk files place.dropLast parts
    else
      let next := place ++ [part]
      if (files.node? next).isSome then walk files next parts else none

/-- Goes from a place along the parts of a path, and makes the directories that are missing. -/
def reach (files : Files) : (place : List String) → List String → Files × List String
  | place, [] => (files, place)
  | place, part :: parts =>
    if part == ".." then reach files place.dropLast parts
    else
      let next := place ++ [part]
      let files := if (files.node? next).isSome then files else (next, .directory) :: files
      reach files next parts

/-- The files with the directories on the way to a path, and with `node` at its end. A directory
that is there stays as it is. -/
def put (files : Files) (path : String) (node : Node) : Files :=
  let parts := (Path.parts path).filter fun part => !part.isEmpty && part != "."
  match node with
  | .directory => (files.reach [] parts).1
  | .file _ | .closed _ =>
    let (files, place) := files.reach [] parts.dropLast
    (place ++ parts.getLast?.toList, node) :: files

end Files

/-- The variables of the environment and the files. -/
structure Host where
  lookup : String → Option String
  files : Files
  /-- The working directory, where paths start that do not start at the root. -/
  directory : List String
  /-- The home directory of the account, for when the environment names none. -/
  home : Option String := none

namespace Host

/-- What stands at a path, if anything does. Nothing stands at the empty path. -/
def find? (h : Host) (path : String) : Option Node :=
  if path.isEmpty then none
  else
    let start := if Path.isAbsolute path then [] else h.directory
    (h.files.walk start (Path.parts path)).bind h.files.node?

/-- The host with a variable set, or unset. -/
def setVariable (h : Host) (name : String) (value : Option String) : Host :=
  { h with lookup := fun other => if other = name then value else h.lookup other }

end Host

end Fallible
