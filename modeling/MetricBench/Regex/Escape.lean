import MetricBench.Regex.Flags
import MetricBench.Regex.Node
import MetricBench.Regex.PropertyName
import MetricBench.Text.Hex

/-!
# Escapes

What may follow a backslash in a pattern: a character that would else have a meaning, the code or
the name of a character, a class of characters, or an assertion.
-/

namespace MetricBench.Regex

open Text (charOfCode? hexNumber isHexDigit)

/-- A part of a pattern that is written without parentheses or brackets. -/
inductive Atom where
  | literal (c : Char)
  | set (set : CharSet)
  | assertion (condition : Assertion)

/-- Whether a character stands for itself after a backslash: every ASCII character but letters,
digits and angle brackets. -/
def isEscapable (c : Char) : Bool :=
  c.toNat < 128 && !c.isAlphanum && c != '<' && c != '>'

/-- Reads the code of a character, either `width` digits or any number of digits in braces.  Without
Unicode a code of two digits stands for a byte. -/
def readCode? (flags : Flags) (width : Nat) (text : List Char) : Option (Atom × List Char) :=
  let check (digits rest : List Char) (short : Bool) : Option (Atom × List Char) :=
    (charOfCode? (hexNumber digits)).bind fun c =>
      if short && !flags.unicode && 127 < c.toNat then none
      else some (.literal c, flags.skip rest)
  match flags.skip text with
  | '\x7b' :: rest =>
    match flags.takeSpaced isHexDigit rest.length (flags.skip rest) with
    | (digits, '\x7d' :: after) => if digits.isEmpty then none else check digits after false
    | _ => none
  | rest =>
    let (digits, after) := flags.takeSpaced isHexDigit width rest
    if digits.length = width then check digits after (width == 2) else none

/-- Reads the name of a property, a letter or a description in braces; `negated` asks for all other
characters. -/
def readProperty? (flags : Flags) (negated : Bool) (text : List Char) :
    Option (CharSet × List Char) :=
  let finish (set : CharSet) (outside : Bool) : CharSet :=
    if outside != negated then .complement (flags.fold set) else flags.fold set
  match flags.skip text with
  | [] => none
  | '\x7b' :: rest =>
    match flags.takeSpaced (· != '\x7d') rest.length (flags.skip rest) with
    | (description, _ :: after) =>
      (describedSet? description).map fun (set, outside) => (finish set outside, after)
    | (_, []) => none
  | c :: rest =>
    if c = '\\' then none
    else (propertySet? [c]).map fun set => (finish set false, flags.skip rest)

/-- The special word boundaries by their names. -/
def namedEdge? (name : String) : Option WordEdge :=
  match name with
  | "start" => some .start
  | "end" => some .stop
  | "start-half" => some .startHalf
  | "end-half" => some .stopHalf
  | _ => none

/-- Reads what follows the letter of a word boundary: a name in braces, if its first character may
stand in one. -/
def readEdge? (flags : Flags) (text : List Char) : Option (WordEdge × List Char) :=
  let isNameChar (c : Char) : Bool := c.isAlpha || c == '-'
  match text with
  | '\x7b' :: rest =>
    match flags.skip rest with
    | [] => none
    | c :: name =>
      if !isNameChar c then some (.boundary, text)
      else
        match flags.takeSpaced isNameChar rest.length (c :: name) with
        | (name, '\x7d' :: after) => (namedEdge? (.ofList name)).map fun edge => (edge, after)
        | _ => none
  | _ => some (.boundary, text)

/-- The class of a one-letter escape: digits, blanks or word characters. -/
def letterSet? (flags : Flags) (letter : Char) : Option CharSet :=
  match letter with
  | 'd' => some (if flags.unicode then .property (.among Unicode.digits) else .asciiDigit)
  | 's' => some (if flags.unicode then .property .blank else .asciiBlank)
  | 'w' => some (if flags.unicode then .property (.among Unicode.wordCharacters) else .asciiWord)
  | _ => none

/-- The control character that a letter names. -/
def controlChar? (letter : Char) : Option Char :=
  match letter with
  | 'a' => some '\x07'
  | 'f' => some '\x0c'
  | 't' => some '\t'
  | 'n' => some '\n'
  | 'r' => some '\r'
  | 'v' => some '\x0b'
  | _ => none

/-- Reads an escape after its backslash. -/
def readEscape? (flags : Flags) (text : List Char) : Option (Atom × List Char) :=
  let ascii := !flags.unicode
  match text with
  | [] => none
  | 'x' :: rest => readCode? flags 2 rest
  | 'u' :: rest => readCode? flags 4 rest
  | 'U' :: rest => readCode? flags 8 rest
  | 'p' :: rest =>
    if ascii then none
    else (readProperty? flags false rest).map fun (set, after) => (.set set, after)
  | 'P' :: rest =>
    if ascii then none
    else (readProperty? flags true rest).map fun (set, after) => (.set set, after)
  | 'A' :: rest => some (.assertion .textStart, rest)
  | 'z' :: rest => some (.assertion .textEnd, rest)
  | 'B' :: rest => some (.assertion (.word ascii .noBoundary), rest)
  | '<' :: rest => some (.assertion (.word ascii .start), rest)
  | '>' :: rest => some (.assertion (.word ascii .stop), rest)
  | 'b' :: rest =>
    (readEdge? flags rest).map fun (edge, after) => (.assertion (.word ascii edge), after)
  | c :: rest =>
    match letterSet? flags c, letterSet? flags c.toLower, controlChar? c with
    | some set, _, _ => some (.set set, rest)
    | none, some set, _ => some (.set (.complement set), rest)
    | none, none, some control => some (.literal control, rest)
    | none, none, none => if isEscapable c then some (.literal c, rest) else none

end MetricBench.Regex
