/-!
Paths. A path is taken apart at its slashes and walked name by name, from the working directory or
from the root. Names are not cancelled against each other beforehand: `a/../b` leads nowhere when
there is no `a`.
-/

namespace NestedStore

/-- A path, taken apart at its slashes. Empty names come from slashes at either end or in a row. -/
structure Path where
  isAbsolute : Bool
  names : List String
  deriving DecidableEq

namespace Path

/-- The path that a text spells. -/
def ofText (text : String) : Path := ⟨text.startsWith "/", text.splitOn "/"⟩

/-- Whether nothing is spelled out, not even the root. -/
def isEmpty (path : Path) : Bool := !path.isAbsolute && path.names.all (· = "")

/-- The path to what has a name in the directory at the path. A slash at its end is not doubled. -/
def inside (path : Path) (name : String) : Path :=
  let outer := if path.names.getLast? = some "" then path.names.dropLast else path.names
  { path with names := outer ++ [name] }

/-- Whether a zero character makes the path unusable. -/
def hasZero (path : Path) : Bool := path.names.any fun name => name.toList.contains '\x00'

/-- The number of bytes that the path takes, one for each slash. -/
def size (path : Path) : Nat :=
  (path.names.map String.utf8ByteSize).foldr (· + ·) (path.names.length - 1)

/-- Whether the last name stands for the directory that the path has reached already. -/
def endsInPlace (path : Path) : Bool := (path.names.filter (· ≠ "")).getLast? = some "."

/-- The names that take the walk elsewhere, and a `.` at the end. -/
def moves (path : Path) : List String :=
  (path.names.filter fun name => name ≠ "" ∧ name ≠ ".") ++ if path.endsInPlace then ["."] else []

end Path

end NestedStore
