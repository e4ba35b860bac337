import MetricBench.Regex.Class

/-!
# Reading patterns

A pattern is a choice of sequences of repeated parts.  Flags set by themselves hold to the end of
the group that they stand in, across its bars.  A pattern is refused when it breaks the syntax, when
it is nested too deeply, or when the engine that would match it has no room for it.  How much room an
engine has is its own affair, so patterns are read for any engine; the program reads its patterns for
one with room for all of them.
-/

namespace MetricBench.Regex

/-- A part of a sequence, the depth of its nesting, and whether a repetition may apply to it. -/
structure Part where
  node : Node
  depth : Nat
  repeatable : Bool

/-- What has been read of a group: the finished branches and the parts of the last one, both from
the last to the first. -/
structure GroupBody where
  branches : List Part
  parts : List Part

/-- The names of the groups read so far. -/
abbrev GroupNames := List (List Char)

namespace GroupBody

def start : GroupBody := ⟨[], []⟩

def push (body : GroupBody) (part : Part) : GroupBody :=
  { body with parts := part :: body.parts }

/-- The depth of a list of parts, which counts as a level when there are several of them. -/
def joinedDepth (parts : List Part) : Nat :=
  match parts with
  | [] => 0
  | [part] => part.depth
  | parts => 1 + (parts.map (·.depth)).foldl max 0

/-- The sequence of the parts of the last branch. -/
def branch (body : GroupBody) : Part :=
  ⟨body.parts.foldl (fun later part => .sequence part.node later) .empty, joinedDepth body.parts,
    true⟩

/-- The body after a bar. -/
def nextBranch (body : GroupBody) : GroupBody := ⟨body.branch :: body.branches, []⟩

/-- The part that a whole body makes. -/
def finish (body : GroupBody) : Part :=
  let last := body.branch
  ⟨body.branches.foldl (fun later branch => .choice branch.node later) last.node,
    joinedDepth (last :: body.branches), true⟩

/-- Repeats the last part, if there is one that may be repeated. -/
def repeatLast? (body : GroupBody) (least : Nat) (most : Option Nat) : Option GroupBody :=
  match body.parts with
  | [] => none
  | part :: earlier =>
    if part.repeatable then
      let repeated : Part := ⟨.repetition part.node least most, part.depth + 1, true⟩
      some { body with parts := repeated :: earlier }
    else none

end GroupBody

/-- Skips the mark of a lazy repetition. -/
def skipLazy : List Char → List Char
  | '?' :: rest => rest
  | rest => rest

/-- Reads a count with blanks around it: nothing when there are no digits. -/
def readCount? (flags : Flags) (text : List Char) : Option (Option Nat × List Char) :=
  let (digits, rest) := flags.takeSpaced Char.isDigit text.length (Text.trimStart text)
  let (_, rest) := flags.takeSpaced Text.isBlank rest.length rest
  if digits.isEmpty then some (none, rest)
  else
    let count := digits.foldl (fun value c => 10 * value + (c.toNat - '0'.toNat)) 0
    if count < 1 <<< 32 then some (some count, rest) else none

/-- Reads the counts of a repetition after the opening brace. -/
def readCounts? (flags : Flags) (text : List Char) :
    Option (Nat × Option Nat × List Char) := do
  let (least, rest) ← readCount? flags (flags.skip text)
  match least, rest with
  | some count, '\x7d' :: rest => some (count, some count, skipLazy (flags.skip rest))
  | some least, ',' :: rest =>
    match flags.skip rest with
    | '\x7d' :: rest => some (least, none, skipLazy (flags.skip rest))
    | rest => do
      let (most, rest) ← readCount? flags rest
      match most, rest with
      | some most, '\x7d' :: rest =>
        if most < least then none else some (least, some most, skipLazy (flags.skip rest))
      | _, _ => none
  | _, _ => none

/-- Whether a group name may go on with the character. -/
def isNameChar (c : Char) : Bool :=
  c == '_' || c == '.' || c == '[' || c == ']' || Unicode.alphabetic.contains c ||
    (Unicode.Category.of c).isNumber

/-- Reads the name of a group up to its closing bracket; no two groups share a name. -/
def readGroupName? (names : GroupNames) (text : List Char) : Option (GroupNames × List Char) :=
  match Text.cutBefore (· == '>') text with
  | (c :: name, _ :: rest) =>
    if (c == '_' || Unicode.alphabetic.contains c) && name.all isNameChar &&
        !names.contains (c :: name)
    then some ((c :: name) :: names, rest)
    else none
  | _ => none

/-- How a parenthesis opens: as flags for the rest of the group that it stands in, or as a group
with flags of its own. -/
inductive Opening where
  | setFlags (flags : Flags)
  | group (flags : Flags) (names : GroupNames)

/-- Reads what follows an opening parenthesis. -/
def readOpening? (flags : Flags) (names : GroupNames) (text : List Char) :
    Option (Opening × List Char) :=
  match flags.skip text with
  | '?' :: 'P' :: '<' :: rest =>
    (readGroupName? names rest).map fun (names, rest) => (.group flags names, rest)
  | '?' :: '<' :: '=' :: _ | '?' :: '<' :: '!' :: _ => none
  | '?' :: '<' :: rest =>
    (readGroupName? names rest).map fun (names, rest) => (.group flags names, rest)
  | '?' :: ')' :: _ => none
  | '?' :: rest =>
    match flags.readLetters? [] true false rest with
    | some (inner, ':' :: rest) => some (.group inner names, rest)
    | some (after, _ :: rest) => some (.setFlags after, rest)
    | _ => none
  | rest => some (.group flags names, rest)

/-- The set of the characters that a point matches. -/
def dotSet (flags : Flags) : CharSet :=
  if flags.dotMatchesNewline then .all
  else if flags.carriageReturns then .complement (.union (.single '\r') (.single '\n'))
  else .complement (.single '\n')

/-- The part that an atom makes. -/
def atomPart? (flags : Flags) : Atom → Option Part
  | .literal c => some ⟨.chars (flags.fold (.single c)), 0, true⟩
  | .set set => (flags.finishSet? set).map fun set => ⟨.chars set, 0, true⟩
  | .assertion condition => some ⟨.assertion condition, 0, true⟩

/-- Reads a single part that starts with the given character. -/
def readPart? (flags : Flags) (c : Char) (rest : List Char) : Option (Part × List Char) :=
  let lineAssertion (single multi returns : Assertion) : Part :=
    let condition := if !flags.multiLine then single else if flags.carriageReturns then returns
      else multi
    ⟨.assertion condition, 0, true⟩
  match c with
  | '\\' => do
    let (atom, rest) ← readEscape? flags rest
    let part ← atomPart? flags atom
    some (part, rest)
  | '[' => do
    let (set, depth, rest) ← readClass? flags rest
    some (⟨.chars set, depth, true⟩, rest)
  | '.' => (atomPart? flags (.set (dotSet flags))).map fun part => (part, rest)
  | '^' => some (lineAssertion .textStart .lineStart .returnLineStart, rest)
  | '$' => some (lineAssertion .textEnd .lineEnd .returnLineEnd, rest)
  | c => (atomPart? flags (.literal c)).map fun part => (part, rest)

/-- Reads a group up to its closing parenthesis or the end of the text.  Every step reads a
character, so a little more than the length of the text is enough `fuel`. -/
def readGroup? (fuel : Nat) (flags : Flags) (names : GroupNames) (body : GroupBody)
    (text : List Char) : Option (Part × GroupNames × List Char) :=
  match fuel with
  | 0 => none
  | fuel + 1 =>
    match flags.skip text with
    | [] => some (body.finish, names, [])
    | ')' :: rest => some (body.finish, names, ')' :: rest)
    | '|' :: rest => readGroup? fuel flags names body.nextBranch rest
    | '?' :: rest => do
      let body ← body.repeatLast? 0 (some 1)
      readGroup? fuel flags names body (skipLazy rest)
    | '*' :: rest => do
      let body ← body.repeatLast? 0 none
      readGroup? fuel flags names body (skipLazy rest)
    | '+' :: rest => do
      let body ← body.repeatLast? 1 none
      readGroup? fuel flags names body (skipLazy rest)
    | '\x7b' :: rest => do
      let (least, most, rest) ← readCounts? flags rest
      let body ← body.repeatLast? least most
      readGroup? fuel flags names body rest
    | '(' :: rest => do
      match ← readOpening? flags names rest with
      | (.setFlags flags, rest) =>
        readGroup? fuel flags names (body.push ⟨.empty, 0, false⟩) rest
      | (.group inner names, rest) =>
        match ← readGroup? fuel inner names .start rest with
        | (part, names, _ :: rest) =>
          readGroup? fuel flags names (body.push { part with depth := part.depth + 1 }) rest
        | (_, _, []) => none
    | c :: rest => do
      let (part, rest) ← readPart? flags c rest
      readGroup? fuel flags names (body.push part) rest

/-- The deepest nesting that a pattern may have. -/
def deepestNesting : Nat := 250

/-- A pattern with the text that it was read from. -/
structure Pattern where
  source : String
  node : Node
  deriving DecidableEq

namespace Pattern

/-- Reads a pattern for an engine that has room for the patterns that fit. -/
def readWithin? (fits : Node → Bool) (source : String) : Option Pattern :=
  match readGroup? (source.length + 1) .initial [] .start source.toList with
  | some (part, _, []) =>
    if part.depth ≤ deepestNesting && fits part.node then some ⟨source, part.node⟩ else none
  | _ => none

/-- Reads a pattern for whole texts: the pattern between assertions of both ends. -/
def readWholeWithin? (fits : Node → Bool) (source : String) : Option Pattern :=
  readWithin? fits ("^(?:" ++ source ++ ")$")

/-- Reads a pattern for an engine with room for all patterns. -/
def read? (source : String) : Option Pattern := readWithin? (fun _ => true) source

/-- Reads a pattern for whole texts for an engine with room for all patterns. -/
def readWhole? (source : String) : Option Pattern := readWholeWithin? (fun _ => true) source

/-- Whether a pattern matches somewhere in a text. -/
def isMatch (pattern : Pattern) (text : String) : Bool := pattern.node.occursIn text.toList

end Pattern

end MetricBench.Regex
