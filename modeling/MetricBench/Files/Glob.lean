import MetricBench.Files.Tree
import MetricBench.Text.Blank

/-!
# Path patterns

A pattern stands for the paths that match it name by name.  In a name, a question mark stands for
any character, an asterisk for any text, and brackets for one of the characters in them or, after an
exclamation mark, for any other one.  Two asterisks in the place of a name stand for any number of
directories.
-/

namespace MetricBench.Files

/-- A part of the pattern of a name. -/
inductive NamePart where
  | char (c : Char)
  | anyChar
  | anyText
  | oneOf (ranges : List (Char × Char))
  | noneOf (ranges : List (Char × Char))
  deriving DecidableEq, Repr

/-- The only character that a part stands for, if it is written as itself. -/
def NamePart.literal? : NamePart → Option Char
  | .char c => some c
  | _ => none

/-- What a pattern says about a name on the way. -/
inductive NamePattern where
  | anyDepth
  | name (parts : List NamePart)
  deriving DecidableEq, Repr

/-! ### Reading patterns -/

/-- The ranges that are written between brackets. -/
def rangesOf : List Char → List (Char × Char)
  | low :: '-' :: high :: rest => (low, high) :: rangesOf rest
  | c :: rest => (c, c) :: rangesOf rest
  | [] => []

/-- Reads what is written between brackets, at least one character, and the closing one. -/
def readRanges? : List Char → Option (List (Char × Char) × List Char)
  | [] => none
  | first :: rest =>
    (Text.cutAt? (· == ']') rest).map fun (inside, rest) => (rangesOf (first :: inside), rest)

/-- Reads the parts of a name.  Every step reads a character, so the length of the text is enough
`fuel`. -/
def readNameParts? : Nat → List Char → Option (List NamePart)
  | _, [] => some []
  | 0, _ => none
  | fuel + 1, c :: rest =>
    let continueWith (part : NamePart) (rest : List Char) : Option (List NamePart) :=
      (readNameParts? fuel rest).map (part :: ·)
    match c, rest with
    | '?', rest => continueWith .anyChar rest
    | '*', '*' :: _ => none
    | '*', rest => continueWith .anyText rest
    | '[', '!' :: rest =>
      (readRanges? rest).bind fun (ranges, rest) => continueWith (.noneOf ranges) rest
    | '[', rest => (readRanges? rest).bind fun (ranges, rest) => continueWith (.oneOf ranges) rest
    | c, rest => continueWith (.char c) rest

/-- Reads the pattern of a name. -/
def NamePattern.read? (text : String) : Option NamePattern :=
  if text = "**" then some .anyDepth
  else (readNameParts? text.length text.toList).map .name

/-- Whether a path is written with signs of patterns. -/
def isPattern (path : String) : Bool := path.toList.any ['*', '?', '['].contains

/-- A pattern of paths: the directory it starts from, what it says about the names on the way, and
whether only directories match. -/
structure PathPattern where
  start : String
  steps : List NamePattern
  onlyDirectories : Bool

/-- Reads a pattern of paths. -/
def PathPattern.read? (text : String) : Option PathPattern := do
  let written := if isAbsolute text then (names text).drop 1 else names text
  let onlyDirectories := text.endsWith "/"
  let written := if onlyDirectories then written.dropLast else written
  let patterns ← written.mapM NamePattern.read?
  some ⟨if isAbsolute text then "/" else ".", patterns, onlyDirectories⟩

/-! ### Matching names -/

/-- Whether a condition holds of the rest of a text after some of its characters. -/
def holdsOfRest (condition : List Char → Bool) : List Char → Bool
  | [] => condition []
  | c :: rest => condition (c :: rest) || holdsOfRest condition rest

def inRanges (ranges : List (Char × Char)) (c : Char) : Bool :=
  ranges.any fun (low, high) => low ≤ c && c ≤ high

/-- Whether a text matches the parts of a name. -/
def matchesParts : List NamePart → List Char → Bool
  | [], text => text.isEmpty
  | .anyText :: parts, text => holdsOfRest (matchesParts parts) text
  | .char wanted :: parts, c :: rest => c == wanted && matchesParts parts rest
  | .anyChar :: parts, _ :: rest => matchesParts parts rest
  | .oneOf ranges :: parts, c :: rest => inRanges ranges c && matchesParts parts rest
  | .noneOf ranges :: parts, c :: rest => !inRanges ranges c && matchesParts parts rest
  | _ :: _, [] => false

namespace NamePattern

/-- Whether a name matches.  A pattern of any number of directories matches no single name. -/
def holds (pattern : NamePattern) (name : String) : Bool :=
  match pattern with
  | .anyDepth => false
  | .name parts => matchesParts parts name.toList

/-- The only name that matches, if the pattern is written without signs. -/
def literal? : NamePattern → Option String
  | .anyDepth => none
  | .name parts =>
    (parts.mapM NamePart.literal?).map String.ofList

/-- The special names that match a pattern with signs; it has to start with a dot. -/
def specialNames : NamePattern → List String
  | .name (.char '.' :: parts) => [".", ".."].filter (holds (.name (.char '.' :: parts)))
  | _ => []

end NamePattern

/-! ### Finding paths -/

/-- The path of a name in a directory; the current directory is not written. -/
def extend (directory name : String) : String :=
  if parts directory = [.current] then name else join directory name

mutual

/-- The paths under a directory that match patterns for the names on the way to them.  Every step
takes a pattern or goes down in the tree, which bounds the `fuel`. -/
def pathsUnder (tree : FileTree) : Nat → List NamePattern → String → List String
  | 0, _, _ | _, [], _ => []
  | fuel + 1, pattern :: later, directory =>
    let reach (path : String) : List String :=
      if later.isEmpty then [path] else pathsUnder tree fuel later path
    match pattern.literal? with
    | some name =>
      let path := extend directory name
      let isThere := if name = "." ∨ name = ".." then tree.isDirectory directory
        else tree.hasEntry path
      if isThere then reach path else []
    | none =>
      if tree.isDirectory directory then
        let found := (tree.children directory).flatMap fun name =>
          pathsFrom tree fuel (pattern :: later) (extend directory name) name
        found ++ pattern.specialNames.flatMap fun name => reach (join directory name)
      else []

/-- The paths from an entry of a directory on whose name the first pattern is for. -/
def pathsFrom (tree : FileTree) : Nat → List NamePattern → String → String → List String
  | 0, _, _, _ | _, [], _, _ => []
  | fuel + 1, .anyDepth :: later, path, name =>
    let later := later.dropWhile (· == .anyDepth)
    let deeper :=
      if tree.isDirectory path then pathsUnder tree fuel (.anyDepth :: later) path else []
    let here := if later.isEmpty then (if tree.isDirectory path then [path] else [])
      else pathsFrom tree fuel later path name
    deeper ++ here
  | fuel + 1, pattern :: later, path, name =>
    if !pattern.holds name then []
    else if later.isEmpty then [path]
    else pathsUnder tree fuel later path

end

/-- The paths in a tree that match a pattern. -/
def PathPattern.paths (pattern : PathPattern) (tree : FileTree) : List String :=
  let fuel := 2 * (tree.entries.size + 2) * (pattern.steps.length + 1)
  let found := pathsUnder tree fuel pattern.steps pattern.start
  if pattern.onlyDirectories then found.filter tree.isDirectory else found

end MetricBench.Files
