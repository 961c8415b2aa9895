import NestedStore.Bytes
import NestedStore.Error
import NestedStore.Store.Path

/-!
The files and directories that databases use. Each has a number for good, and a directory knows the
numbers of what it holds, so that a walk costs one look-up a name. The working directory, the one
around it and the root are always there. No file may grow past the limit, if one is set: a write
that starts below it is cut short there and fails, and one that starts above it fails.
-/

namespace NestedStore

/-- The number of a file or directory on a disk. -/
abbrev NodeId := Nat

/-- A file or directory. -/
inductive Node where
  /-- A directory, with the one around it and what it holds, by name. -/
  | directory (outer : NodeId) (entries : List (String × NodeId))
  | file (content : Bytes)
  deriving DecidableEq

namespace Node

/-- A directory that holds one entry more. -/
def addEntry (name : String) (id : NodeId) : Node → Node
  | directory outer entries => directory outer ((name, id) :: entries)
  | file content => file content

/-- What a file holds. -/
def content? : Node → Option Bytes
  | directory _ _ => none
  | file content => some content

end Node

/-- Files and directories by their numbers, and the largest length of a file. -/
structure Disk where
  nodes : Array Node
  limit : Option Nat

namespace Disk

/-- The file of a directory that holds the log. -/
def logName : String := "data.log"

/-- The file of a directory that whoever has the database open keeps locked. -/
def lockName : String := "LOCK"

/-- The number of bytes that a name may have. -/
def longestName : Nat := 255

/-- The number of bytes that a path may have. -/
def longestPath : Nat := 4095

/-- The root of all directories, which is around itself. -/
def root : NodeId := 0

/-- The directory that relative paths begin at. -/
def workingDirectory : NodeId := 2

/-- A disk without files: the root, the directory around the working directory, and that one. -/
def empty : Disk := ⟨#[.directory root [], .directory root [], .directory 1 []], none⟩

/-- What a directory holds, by name. -/
def entries? (disk : Disk) (id : NodeId) : Option (List (String × NodeId)) :=
  match disk.nodes[id]? with
  | some (.directory _ entries) => some entries
  | _ => none

/-- What a file holds. -/
def content? (disk : Disk) (id : NodeId) : Option Bytes := disk.nodes[id]?.bind Node.content?

/-- Puts something new into a directory. Its number is the next one, `disk.nodes.size`. -/
def add (outer : NodeId) (name : String) (node : Node) (disk : Disk) : Disk :=
  { disk with nodes := (disk.nodes.modify outer (Node.addEntry name disk.nodes.size)).push node }

/-- Puts another content into a file. -/
def rewrite (id : NodeId) (content : Bytes) (disk : Disk) : Disk :=
  { disk with nodes := disk.nodes.setIfInBounds id (.file content) }

/-! ## Walking -/

/-- Where a path begins. -/
def start (path : Path) : NodeId := if path.isAbsolute then root else workingDirectory

/-- Where a name leads. -/
def step (disk : Disk) (id : NodeId) (name : String) : Except SystemError NodeId :=
  match disk.nodes[id]? with
  | none => .error .notFound
  | some (.file _) => .error .notADirectory
  | some (.directory outer entries) =>
    if name = "" ∨ name = "." then .ok id
    else if name = ".." then .ok outer
    else if longestName < name.utf8ByteSize then .error .nameTooLong
    else
      match entries.lookup name with
      | some id => .ok id
      | none => .error .notFound

/-- Refuses a path that no walk is begun on. -/
def checkPath (path : Path) : Except IoError Unit :=
  if path.hasZero then .error .zeroInPath
  else if longestPath < path.size then .error (.system .nameTooLong)
  else .ok ()

/-- Where the names of a path lead. -/
def follow (disk : Disk) (path : Path) : Except IoError NodeId :=
  (path.names.foldlM disk.step (start path)).mapError .system

/-- Where a path leads. An empty one leads nowhere. -/
def walk (disk : Disk) (path : Path) : Except IoError NodeId := do
  checkPath path
  if path.isEmpty then throw (.system .notFound) else disk.follow path

/-- Whether a path leads anywhere. -/
def leads (disk : Disk) (path : Path) : Bool := (disk.walk path).isOk

/-- The file at a path, and what it holds. -/
def read (disk : Disk) (path : Path) : Except IoError (NodeId × Bytes) := do
  let id ← disk.walk path
  match disk.content? id with
  | some content => return (id, content)
  | none => throw (.system .isADirectory)

/-! ## Making files and directories -/

/-- Makes the directories that are missing on a way. What was made before a failure stays. Behind a
way that ends in `.` there has to be a directory already. A file in the way is no directory to go
through; at the end, or once a directory was made (`made`), it has the name of the next one. -/
def makeWay (outer : NodeId) (made : Bool) : List String → Disk → Except SystemError Unit × Disk
  | [], disk => (.ok (), disk)
  | name :: rest, disk =>
    if rest = ["."] then (([name, "."].foldlM disk.step outer).map fun _ => (), disk)
    else
      match disk.step outer name with
      | .ok id =>
        if (disk.entries? id).isSome then makeWay id made rest disk
        else (.error (if made ∨ rest = [] then .alreadyExists else .notADirectory), disk)
      | .error .notFound =>
        makeWay disk.nodes.size true rest (disk.add outer name (.directory outer []))
      | .error error => (.error error, disk)

/-- Makes a directory, and those on the way to it, where they are missing. -/
def create (path : Path) (disk : Disk) : Except IoError Unit × Disk :=
  match checkPath path with
  | .error error => (.error error, disk)
  | .ok () =>
    let (result, disk) := disk.makeWay (start path) false path.moves
    (result.mapError .system, disk)

/-- Opens the file of a name in a directory, making it if it is missing: the directory, the file and
the disk with it. -/
def openFile (directory : Path) (name : String) (disk : Disk) :
    Except IoError (NodeId × NodeId × Disk) := do
  checkPath (directory.inside name)
  let outer ← disk.follow directory
  let some entries := disk.entries? outer | throw (.system .notADirectory)
  match entries.lookup name with
  | none => return (outer, disk.nodes.size, disk.add outer name (.file []))
  | some id =>
    if (disk.content? id).isNone then throw (.system .isADirectory)
    return (outer, id, disk)

/-! ## Writing -/

/-- Writes a whole file under a limit: what it holds then, and its length. -/
def fit (limit : Option Nat) (content : Bytes) : Bytes × Except IoError Nat :=
  match limit with
  | none => (content, .ok content.length)
  | some limit =>
    if content.length ≤ limit then (content, .ok content.length)
    else (content.take limit, .error (.system .fileTooLarge))

end Disk

end NestedStore
