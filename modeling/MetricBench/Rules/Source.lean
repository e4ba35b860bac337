import MetricBench.Error
import MetricBench.Files.Glob
import MetricBench.Rules.RuleSet

/-!
# Where rules come from

The rules of a session come from a file, from the rule files of a directory, or from the files that
match a pattern.
-/

namespace MetricBench.Rules

open Files (FileTree)

/-- Whether a name is that of a rule file. -/
def isRuleFileName (name : String) : Bool :=
  match Files.extension? name with
  | some ending => ending == "yml" || ending == "yaml"
  | none => false

/-- The paths of the files that a source names, in no special order. -/
def sourcePaths (tree : FileTree) (source : String) : Except Error (List String) :=
  if Files.isPattern source then
    match Files.PathPattern.read? source with
    | some pattern => .ok ((pattern.paths tree).filter tree.isFile)
    | none => .error .pathPattern
  else
    match tree.entry? source with
    | none => .error .io
    | some (.file _) => .ok [source]
    | some .directory =>
      let paths := ((tree.children source).filter isRuleFileName).map (Files.join source)
      .ok (paths.filter tree.isFile)

/-- The paths of the files that a source names, in order.  A directory may hold no rule files and a
pattern may match no path; a single file has to be there. -/
def resolve (tree : FileTree) (source : String) : Except Error (List String) :=
  (sourcePaths tree source).map fun paths => paths.mergeSort Files.pathLe

/-- Reads the rule file at a path. -/
def readFile (tree : FileTree) (path : String) : Except Error RuleFile :=
  match tree.text? path with
  | none => .error .io
  | some text =>
    match RuleFile.read? text with
    | some file => .ok file
    | none => .error .yaml

/-- The rules of the files that a source names. -/
def RuleSet.ofSource (tree : FileTree) (source : String) : Except Error RuleSet := do
  let paths ← resolve tree source
  let files ← paths.mapM fun path => return (path, ← readFile tree path)
  Error.lift .usage (RuleSet.ofFiles files)

end MetricBench.Rules
