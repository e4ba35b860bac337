import MetricBench.Json.Number
import MetricBench.Json.Value
import MetricBench.Text.Blank
import MetricBench.Text.Hex

/-!
# Reading JSON

The grammar of JSON, with no leeway.  Arrays and objects may be nested to a limited depth only.
-/

namespace MetricBench.Json

/-- The blanks of JSON. -/
def isJsonBlank (c : Char) : Bool := c == ' ' || c == '\n' || c == '\t' || c == '\r'

def skipBlanks (text : List Char) : List Char := text.dropWhile isJsonBlank

/-- Reads the four digits of a code unit. -/
def readUnit? : List Char → Option (Nat × List Char)
  | a :: b :: c :: d :: rest =>
    (Text.hexNumber? 4 [a, b, c, d]).map fun value => (value, rest)
  | _ => none

/-- Reads the character of a numeric escape after its letter.  A high surrogate has to be followed
by the escape of a low one. -/
def readCodeEscape? (text : List Char) : Option (Char × List Char) := do
  let (unit, rest) ← readUnit? text
  if 0xD800 ≤ unit ∧ unit ≤ 0xDBFF then
    match rest with
    | '\\' :: 'u' :: rest => do
      let (low, rest) ← readUnit? rest
      if 0xDC00 ≤ low ∧ low ≤ 0xDFFF then
        some (Char.ofNat (0x10000 + 0x400 * (unit - 0xD800) + (low - 0xDC00)), rest)
      else none
    | _ => none
  else if 0xDC00 ≤ unit ∧ unit ≤ 0xDFFF then none
  else some (Char.ofNat unit, rest)

/-- The character that a letter stands for after a backslash. -/
def letterEscape? (c : Char) : Option Char :=
  match c with
  | '"' => some '"'
  | '\\' => some '\\'
  | '/' => some '/'
  | 'b' => some '\x08'
  | 'f' => some '\x0c'
  | 'n' => some '\n'
  | 'r' => some '\r'
  | 't' => some '\t'
  | _ => none

/-- Reads a string after its opening quote.  Every step reads a character, so a little more than the
length of the text is enough `fuel`. -/
def readString? (fuel : Nat) (text : List Char) : Option (List Char × List Char) :=
  match fuel, text with
  | _ + 1, '"' :: rest => some ([], rest)
  | fuel + 1, '\\' :: 'u' :: rest => do
    let (c, rest) ← readCodeEscape? rest
    let (value, rest) ← readString? fuel rest
    some (c :: value, rest)
  | fuel + 1, '\\' :: c :: rest => do
    let c ← letterEscape? c
    let (value, rest) ← readString? fuel rest
    some (c :: value, rest)
  | fuel + 1, c :: rest =>
    if c.toNat < 0x20 ∨ c = '\\' then none
    else do
      let (value, rest) ← readString? fuel rest
      some (c :: value, rest)
  | _, _ => none

/-- The number of arrays and objects that may be open at one place. -/
def deepestNesting : Nat := 127

mutual

/-- Reads a value inside of `depth` open arrays and objects.  Every step reads a character, so a
little more than the length of the text is enough `fuel`. -/
def readValue? (fuel depth : Nat) (text : List Char) : Option (Value × List Char) :=
  match fuel with
  | 0 => none
  | fuel + 1 =>
    match skipBlanks text with
    | 'n' :: 'u' :: 'l' :: 'l' :: rest => some (.null, rest)
    | 't' :: 'r' :: 'u' :: 'e' :: rest => some (.bool true, rest)
    | 'f' :: 'a' :: 'l' :: 's' :: 'e' :: rest => some (.bool false, rest)
    | '"' :: rest => do
      let (value, rest) ← readString? (rest.length + 1) rest
      some (.string (.ofList value), rest)
    | '[' :: rest =>
      if deepestNesting ≤ depth then none
      else
        match skipBlanks rest with
        | ']' :: rest => some (.array [], rest)
        | rest => do
          let (elements, rest) ← readElements? fuel (depth + 1) rest
          some (.array elements, rest)
    | '\x7b' :: rest =>
      if deepestNesting ≤ depth then none
      else
        match skipBlanks rest with
        | '\x7d' :: rest => some (.object [], rest)
        | rest => do
          let (members, rest) ← readMembers? fuel (depth + 1) rest
          some (.object (lastMembers members), rest)
    | rest => do
      let (value, rest) ← readNumber? rest
      some (.number value, rest)

/-- Reads the elements of an array, at least one, up to its closing bracket. -/
def readElements? (fuel depth : Nat) (text : List Char) : Option (List Value × List Char) :=
  match fuel with
  | 0 => none
  | fuel + 1 => do
    let (element, rest) ← readValue? fuel depth text
    match skipBlanks rest with
    | ']' :: rest => some ([element], rest)
    | ',' :: rest => do
      let (elements, rest) ← readElements? fuel depth rest
      some (element :: elements, rest)
    | _ => none

/-- Reads the members of an object, at least one, up to its closing brace. -/
def readMembers? (fuel depth : Nat) (text : List Char) :
    Option (List (String × Value) × List Char) :=
  match fuel with
  | 0 => none
  | fuel + 1 =>
    match skipBlanks text with
    | '"' :: rest => do
      let (key, rest) ← readString? (rest.length + 1) rest
      match skipBlanks rest with
      | ':' :: rest => do
        let (value, rest) ← readValue? fuel depth rest
        match skipBlanks rest with
        | '\x7d' :: rest => some ([(.ofList key, value)], rest)
        | ',' :: rest => do
          let (members, rest) ← readMembers? fuel depth rest
          some ((.ofList key, value) :: members, rest)
        | _ => none
      | _ => none
    | _ => none

end

/-- Reads a document that is one value. -/
def Value.read? (text : String) : Option Value :=
  let text := text.toList
  match readValue? (2 * text.length + 2) 0 text with
  | some (value, rest) => if (skipBlanks rest).isEmpty then some value else none
  | none => none

end MetricBench.Json
