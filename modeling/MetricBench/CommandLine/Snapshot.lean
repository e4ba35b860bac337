import MetricBench.Prompt.Command
import MetricBench.Rules.Source

/-!
# Looking at files

Commands work on a tree of files.  Before a command is carried out, what it may read is looked at,
and afterwards what it has written is put into files.
-/

namespace MetricBench.CommandLine

open Files (Entry FileTree PathPattern)
open Prompt (Command)

/-- How far a pattern of any number of directories is followed down. -/
def greatestDepth : Nat := 64

/-- The place that a path names, whether or not anything stands there. -/
def placeOf (tree : FileTree) (path : String) : List String :=
  (Files.names path).foldl
    (fun place name =>
      if name = "" ∨ name = "." then place
      else if name = ".." then place.dropLast
      else place ++ [name])
    (tree.base path)

/-- The text of a file, if it can be read as one. -/
def readText? (path : String) : IO (Option String) :=
  try
    return some (← IO.FS.readFile path)
  catch _ => return none

/-- What stands at a path.  The text of a file is read only if it is wanted. -/
def look (wantsText : Bool) (path : String) : IO (Option Entry) := do
  let place := (← IO.currentDir) / path
  if ← place.isDir then return some .directory
  else if ← place.pathExists then
    return some (.file (← if wantsText then readText? path else pure none))
  else return none

/-- The names in a directory. -/
def namesIn (path : String) : IO (List String) :=
  try
    let entries ← ((← IO.currentDir) / path).readDir
    return (entries.map (·.fileName)).toList
  catch _ => return []

/-- The tree with what stands at a path and, down to a depth, below it. -/
def lookBelow (wantsText : Bool) (depth : Nat) (tree : FileTree) (path : String) :
    IO FileTree := do
  match ← look wantsText path with
  | none => return tree
  | some entry =>
    let tree := if path = "/" then tree else tree.put (placeOf tree path) entry
    match depth, entry with
    | depth + 1, .directory =>
      (← namesIn path).foldlM
        (fun tree name => lookBelow wantsText depth tree (Files.join path name)) tree
    | _, _ => return tree

/-- The tree with the file that stands at a path. -/
def lookAt (tree : FileTree) (path : String) : IO FileTree := lookBelow true 0 tree path

/-- The tree with what a source of rules may name, but without the texts of files. -/
def searchSource (tree : FileTree) (source : String) : IO FileTree :=
  if Files.isPattern source then
    match PathPattern.read? source with
    | none => return tree
    | some pattern =>
      let depth := if pattern.steps.contains .anyDepth then greatestDepth else pattern.steps.length
      lookBelow false depth tree pattern.start
  else lookBelow false 1 tree source

/-- The tree with the files that a source of rules names. -/
def lookAtSource (tree : FileTree) (source : String) : IO FileTree := do
  let tree ← searchSource tree source
  match Rules.resolve tree source with
  | .ok paths => paths.foldlM lookAt tree
  | .error _ => return tree

/-- The tree with the directory of a path and what stands in it. -/
def lookAround (tree : FileTree) (path : String) : IO FileTree := do
  let directory := "/".intercalate (Files.names path).dropLast
  let start := if directory = "" then (if Files.isAbsolute path then "/" else ".") else directory
  lookAt (← lookAt tree start) path

/-- A tree of nothing but the current directory. -/
def emptyTree : IO FileTree := do
  let names := Files.names (← IO.currentDir).toString
  let current := names.filter (· != "")
  let tree : FileTree := ⟨current, .empty⟩
  return if current.isEmpty then tree else tree.put current .directory

/-- The files that a command may read or write. -/
def filesFor (command : Command) : IO FileTree := do
  let tree ← emptyTree
  match command with
  | .load path _ | .importResponse path _ => lookAt tree path
  | .save (some path) _ => lookAround tree path
  | .rules (some source) => lookAtSource tree source
  | _ => return tree

/-- Writes the files in which two trees differ.  Tells whether all could be written. -/
def writeChanges (before after : FileTree) : IO Bool :=
  after.entries.entries.allM fun (place, entry) => do
    match entry with
    | .file (some text) =>
      if before.entryAt? place == some entry then return true
      else
        try
          IO.FS.writeFile ("/" ++ "/".intercalate place) text
          return true
        catch _ => return false
    | _ => return true

end MetricBench.CommandLine
