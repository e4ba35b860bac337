import MetricBench.Files.Path
import MetricBench.SortedMap

/-!
# File trees

The files and directories that a session can see.  A place in a tree is the list of names from the
root to it; the root itself is a directory.
-/

namespace MetricBench.Files

/-- What stands at a place.  The content of a file is known if it is a text. -/
inductive Entry where
  | directory
  | file (text : Option String)
  deriving DecidableEq, Repr

/-- The entries of a tree by their places, and the place of the current directory. -/
structure FileTree where
  current : List String
  entries : SortedMap (List String) Entry

namespace FileTree

/-- The entry at a place. -/
def entryAt? (tree : FileTree) (place : List String) : Option Entry :=
  if place.isEmpty then some .directory else tree.entries.find? place

def isDirectoryAt (tree : FileTree) (place : List String) : Bool :=
  tree.entryAt? place == some .directory

/-- The place that names lead to from a place.  Every name but the last has to be that of a
directory. -/
def walk? (tree : FileTree) (place : List String) : List String → Option (List String)
  | [] => some place
  | name :: rest =>
    if !tree.isDirectoryAt place then none
    else if name = "" ∨ name = "." then tree.walk? place rest
    else if name = ".." then tree.walk? place.dropLast rest
    else if (tree.entryAt? (place ++ [name])).isSome then tree.walk? (place ++ [name]) rest
    else none

/-- The place that a path starts from. -/
def base (tree : FileTree) (path : String) : List String :=
  if isAbsolute path then [] else tree.current

/-- The place that a path leads to.  The empty path leads nowhere. -/
def locate? (tree : FileTree) (path : String) : Option (List String) :=
  if path = "" then none else tree.walk? (tree.base path) (names path)

/-- The entry that a path leads to. -/
def entry? (tree : FileTree) (path : String) : Option Entry :=
  (tree.locate? path).bind tree.entryAt?

def hasEntry (tree : FileTree) (path : String) : Bool := (tree.entry? path).isSome

def isDirectory (tree : FileTree) (path : String) : Bool := tree.entry? path == some .directory

def isFile (tree : FileTree) (path : String) : Bool := tree.hasEntry path && !tree.isDirectory path

/-- The text of the file that a path leads to. -/
def text? (tree : FileTree) (path : String) : Option String :=
  match tree.entry? path with
  | some (.file text) => text
  | _ => none

/-- The names in the directory that a path leads to, in order. -/
def children (tree : FileTree) (path : String) : List String :=
  match tree.locate? path with
  | none => []
  | some place =>
    tree.entries.keys.filterMap fun key =>
      if key.dropLast = place then key.getLast? else none

/-- Puts an entry at a place, and directories on the way to it. -/
def put (tree : FileTree) (place : List String) (entry : Entry) : FileTree :=
  let directories := (List.range place.length).filterMap fun count =>
    if count = 0 then none else some (place.take count)
  let entries := directories.foldl (fun entries key => entries.insert key .directory) tree.entries
  { tree with entries := entries.insert place entry }

/-- Whether a file may be called by a name. -/
def isFileName (name : String) : Bool :=
  name != "" && name != "." && name != ".." && !name.toList.contains '\x00' &&
    name.utf8ByteSize ≤ 255

/-- Writes a text to the file at a path.  Its directory has to be there, and there must be no
directory in its place. -/
def write? (tree : FileTree) (path text : String) : Option FileTree := do
  let name := lastName path
  let directory ← tree.walk? (tree.base path) (names path).dropLast
  let place := directory ++ [name]
  if isFileName name && tree.isDirectoryAt directory && !tree.isDirectoryAt place then
    some { tree with entries := tree.entries.insert place (.file (some text)) }
  else none

end FileTree

end MetricBench.Files
