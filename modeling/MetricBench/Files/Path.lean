/-!
# Paths

A path names a file or a directory by the names on the way to it, with slashes between them.  Paths
are ordered name by name, not by their texts.
-/

namespace MetricBench.Files

/-- A part of a path.  In the order of paths, parts are ordered as they are listed here, and names
by their characters. -/
inductive PathPart where
  | root
  | current
  | parent
  | name (text : String)
  deriving DecidableEq, Repr, Ord

/-- Whether a path starts at the root. -/
def isAbsolute (path : String) : Bool := path.startsWith "/"

/-- The names in a path, with the empty ones that slashes at its ends and repeated slashes make. -/
def names (path : String) : List String := path.splitOn "/"

/-- The part that a name makes after the first one. -/
def partOf? (name : String) : Option PathPart :=
  if name = "" ∨ name = "." then none
  else if name = ".." then some .parent
  else some (.name name)

/-- The parts of a path.  The current directory counts only where the path starts with it. -/
def parts (path : String) : List PathPart :=
  let start := if isAbsolute path then [.root]
    else if (names path).head? = some "." then [.current]
    else []
  start ++ (names path).filterMap partOf?

/-- Whether the first path is not after the second one. -/
def pathLe (left right : String) : Bool := (compare (parts left) (parts right)).isLE

/-- The path of a name in a directory. -/
def join (directory name : String) : String :=
  if directory.endsWith "/" then directory ++ name else directory ++ "/" ++ name

/-- The last name in a path. -/
def lastName (path : String) : String := (names path).getLastD ""

/-- What follows the last dot of a name, if anything stands before that dot. -/
def extension? (name : String) : Option String :=
  let reversed := name.toList.reverse
  match reversed.dropWhile (· != '.') with
  | _ :: _ :: _ => some (.ofList (reversed.takeWhile (· != '.')).reverse)
  | _ => none

end MetricBench.Files
