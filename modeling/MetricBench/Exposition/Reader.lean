import MetricBench.Exposition.SampleLine

/-!
# Reading exposition text

Every line of an exposition document is read for itself: blank lines and comments hold nothing, a
help comment holds the help text of a metric, every other line is a sample line.  The first line
that cannot be read decides the error.
-/

namespace MetricBench.Exposition

/-- Reads the escapes of a help text; a lone backslash at its end stands for itself. -/
def unescapeHelp : List Char → List Char
  | [] => []
  | ['\\'] => ['\\']
  | '\\' :: c :: rest => unescapeChar c :: unescapeHelp rest
  | c :: rest => c :: unescapeHelp rest

/-- Reads a comment after its hash sign: a help text, or nothing. -/
def readComment (comment : List Char) : Document :=
  match Text.stripStart? "HELP ".toList (Text.trimStart comment) with
  | none => .empty
  | some rest =>
    let rest := Text.trimStart rest
    let (name, text) := (Text.cutAt? Text.isBlank rest).getD (rest, [])
    ⟨[], [(.ofList name, .ofList (unescapeHelp (Text.trimStart text)))]⟩

/-- Reads one line. -/
def readLine (line : List Char) : Except InputFault Document :=
  match Text.trimChars line with
  | [] => .ok .empty
  | '#' :: comment => .ok (readComment comment)
  | sample => (readSampleLine sample).map fun observation => ⟨[observation], []⟩

/-- Reads lines, the first of which has the given number. -/
def readLines (number : Nat) : List (List Char) → Except InputError Document
  | [] => .ok .empty
  | line :: rest =>
    match readLine line with
    | .error fault => .error ⟨number, fault⟩
    | .ok document => (readLines (number + 1) rest).map document.append

/-- Reads an exposition document. -/
def read (text : String) : Except InputError Document := readLines 1 (Text.lines text.toList)

end MetricBench.Exposition
