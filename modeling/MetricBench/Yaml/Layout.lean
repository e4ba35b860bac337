/-!
# Lines and columns

The structure of a YAML document depends on where its characters stand.  A document is laid out into
characters with their lines and columns; every line break becomes a single character.
-/

namespace MetricBench.Yaml

/-- A character of a document with its line and column, both counted from zero. -/
structure Spot where
  char : Char
  line : Nat
  column : Nat
  deriving DecidableEq, Repr

/-- What is left of a document. -/
abbrev Spots := List Spot

/-- The characters that a document may hold. -/
def isAllowed (c : Char) : Bool :=
  let code := c.toNat
  code == 0x09 || code == 0x0A || code == 0x0D || (0x20 ≤ code && code ≤ 0x7E) || code == 0x85 ||
    (0xA0 ≤ code && code ≤ 0xD7FF) || (0xE000 ≤ code && code ≤ 0xFFFD) || 0x10000 ≤ code

/-- The line breaks of a document that is laid out. -/
def isBreak (c : Char) : Bool := c == '\n' || c == '\u2028' || c == '\u2029'

/-- Spaces and tabs. -/
def isGap (c : Char) : Bool := c == ' ' || c == '\t'

/-- The character that a character is laid out as: carriage returns and next-line characters become
newlines. -/
def laidOutAs (c : Char) : Char := if c = '\r' ∨ c = '\u0085' then '\n' else c

/-- Lays out the rest of a text from the given line and column.  A carriage return with its newline
is one break. -/
def layoutFrom (line column : Nat) : List Char → Spots
  | [] => []
  | '\r' :: '\n' :: rest => ⟨'\n', line, column⟩ :: layoutFrom (line + 1) 0 rest
  | c :: rest =>
    let shown := laidOutAs c
    if isBreak shown then ⟨shown, line, column⟩ :: layoutFrom (line + 1) 0 rest
    else ⟨shown, line, column⟩ :: layoutFrom line (column + 1) rest

/-- Lays out a text. -/
def layout? (text : String) : Option Spots :=
  let chars := text.toList
  if chars.all isAllowed then some (layoutFrom 0 0 chars) else none

namespace Spot

def isBreak (spot : Spot) : Bool := Yaml.isBreak spot.char

def isGap (spot : Spot) : Bool := Yaml.isGap spot.char

/-- Whether a character is a byte order mark that starts a line. -/
def isByteOrderMark (spot : Spot) : Bool := spot.column == 0 && spot.char == '\uFEFF'

/-- Whether a character is a blank or a line break. -/
def isBlank (spot : Spot) : Bool := spot.isGap || spot.isBreak

end Spot

/-- Whether a document ends here, or goes on with a blank or a line break. -/
def atBlank (spots : Spots) : Bool := spots.head?.all Spot.isBlank

/-- Whether the next character is one of the given ones. -/
def startsWithAny (chars : List Char) (spots : Spots) : Bool :=
  spots.head?.any fun spot => chars.contains spot.char

/-- The rest of a line from here, and what is left from its break on. -/
def takeLine (spots : Spots) : List Char × Spots :=
  ((spots.takeWhile fun spot => !spot.isBreak).map Spot.char,
    spots.dropWhile fun spot => !spot.isBreak)

/-- What is left after blanks on the same line. -/
def skipGaps (spots : Spots) : Spots := spots.dropWhile Spot.isGap

/-- What is left after the end of a line, where only blanks and a comment may stand. -/
def skipLineEnd? (spots : Spots) : Option Spots :=
  let rest := skipGaps spots
  let rest := if startsWithAny ['#'] rest then (takeLine rest).2 else rest
  match rest with
  | [] => some []
  | spot :: rest => if spot.isBreak then some rest else none

/-- Whether a line starts here with three times the given character and nothing attached to it. -/
def startsDocumentMark (mark : Char) : Spots → Bool
  | first :: second :: third :: rest =>
    first.column == 0 && first.char == mark && second.char == mark && third.char == mark &&
      atBlank rest
  | _ => false

/-- Whether a mark of the start or of the end of a document stands here. -/
def atDocumentMark (spots : Spots) : Bool :=
  startsDocumentMark '-' spots || startsDocumentMark '.' spots

end MetricBench.Yaml
