import MetricBench.Query.Literal
import MetricBench.Query.Token

/-!
# Cutting queries into tokens

Between braces there are names, strings and the signs of label matches; between brackets there are
spans and one colon at most; all else is read by the common rules.  Blanks and comments, which go
from a hash sign to the end of the line, stand between tokens anywhere but in brackets, where there
are no comments.
-/

namespace MetricBench.Query

/-- Which rules hold at a place, and how many parentheses are open there. -/
inductive Zone where
  | common
  | braces
  | brackets (colonSeen : Bool)
  deriving DecidableEq

structure LexState where
  zone : Zone
  parens : Nat

/-- The blanks of queries. -/
def isQueryBlank (c : Char) : Bool :=
  c == ' ' || c == '\t' || c == '\n' || c == '\x0c' || c == '\r'

/-- Drops a comment after its hash sign. -/
def dropComment (text : List Char) : List Char :=
  text.dropWhile fun c => c != '\n' && c != '\r'

/-- Whether a character may follow a backslash in a string with the given quotes. -/
def isStringEscape (quote c : Char) : Bool :=
  c == quote || "abfnrtv\\01234567xuU".toList.contains c

/-- Takes a string up to its closing quote.  Escapes are checked and kept as they are written. -/
def takeString? (quote : Char) : List Char → Option (List Char × List Char)
  | [] => none
  | '\\' :: c :: rest =>
    if isStringEscape quote c then
      (takeString? quote rest).map fun (text, rest) => ('\\' :: c :: text, rest)
    else none
  | c :: rest =>
    if c = quote then some ([], rest)
    else if c = '\\' then none
    else (takeString? quote rest).map fun (text, rest) => (c :: text, rest)

/-- Takes a raw string up to its closing backtick. -/
def takeRawString? (text : List Char) : Option (List Char × List Char) :=
  Text.cutAt? (· == '\x60') text

/-- Reads a string that starts with the given character, if that is a quote. -/
def readString? (c : Char) (rest : List Char) : Option (Token × List Char) :=
  if c = '"' ∨ c = '\'' then
    (takeString? c rest).map fun (text, rest) => (.string (.ofList text), rest)
  else if c = '\x60' then
    (takeRawString? rest).map fun (text, rest) => (.string (.ofList text), rest)
  else none

/-- Reads a number or a span. -/
def readQuantity? (text : List Char) : Option (Token × List Char) :=
  let (number, rest) := takeNumber text
  if rest.head?.any isWordChar then
    let unit := rest.takeWhile isWordChar
    (spanValue? (number ++ unit)).map fun millis => (.span millis, rest.dropWhile isWordChar)
  else (numberValue? number).map fun value => (.number value, rest)

/-- The token that a word is: a keyword, a special number or a name. -/
def wordToken (word : List Char) : Token :=
  let text := String.ofList word
  let lower := String.ofList (word.map Char.toLower)
  if word.contains ':' then .metricName text
  else if lower = "inf" then .number (1.0 / 0.0)
  else if lower = "nan" then .number .nan
  else
    match Keyword.ofWord? lower with
    | some keyword => .keyword keyword text
    | none => .name text

/-- A step of the lexer: the token it has read, if any, the state after it and the rest. -/
abbrev Step := Option Token × LexState × List Char

/-- Reads between braces. -/
def stepInBraces? (state : LexState) (c : Char) (rest : List Char) : Option Step :=
  let token (token : Token) (rest : List Char) : Option Step := some (some token, state, rest)
  if c = '#' then some (none, state, dropComment rest)
  else if isQueryBlank c then some (none, state, rest)
  else if c.isAlpha ∨ c = '_' then
    let word := (c :: rest).takeWhile isWordChar
    let after := (c :: rest).dropWhile isWordChar
    let isOr := (word == ['o', 'r'] || word == ['O', 'R']) && after.head? == some ' '
    token (if isOr then .keyword (.set .or) (.ofList word) else .name (.ofList word)) after
  else
    match c, rest with
    | ',', rest => token .comma rest
    | '=', '~' :: rest => token .matches rest
    | '=', rest => token .equals rest
    | '!', '~' :: rest => token .notMatches rest
    | '!', '=' :: rest => token (.operator (.comparison .notEqual)) rest
    | '\x7d', rest => some (some .rightBrace, { state with zone := .common }, rest)
    | c, rest => (readString? c rest).map fun (token, rest) => (some token, state, rest)

/-- Reads between brackets. -/
def stepInBrackets? (state : LexState) (colonSeen : Bool) (c : Char) (rest : List Char) :
    Option Step :=
  if isQueryBlank c then some (none, state, rest)
  else if c.isDigit then
    match readQuantity? (c :: rest) with
    | some (.span millis, rest) => some (some (.span millis), state, rest)
    | _ => none
  else if c = ':' ∧ !colonSeen then
    some (some .colon, { state with zone := .brackets true }, rest)
  else if c = ']' then some (some .rightBracket, { state with zone := .common }, rest)
  else none

/-- Reads outside of braces and brackets. -/
def stepOutside? (state : LexState) (c : Char) (rest : List Char) : Option Step :=
  let token (token : Token) (rest : List Char) : Option Step := some (some token, state, rest)
  let arithmetic (op : ArithmeticOp) : Option Step := token (.operator (.arithmetic op)) rest
  let comparison (op : ComparisonOp) (rest : List Char) : Option Step :=
    token (.operator (.comparison op)) rest
  let startsNumber := c.isDigit || (c == '.' && rest.head?.any Char.isDigit)
  if c = '#' then some (none, state, dropComment rest)
  else if isQueryBlank c then some (none, state, rest)
  else if startsNumber then
    (readQuantity? (c :: rest)).map fun (token, rest) => (some token, state, rest)
  else if c.isAlpha ∨ c = '_' ∨ c = ':' then
    let isNameChar (c : Char) : Bool := isWordChar c || c == ':'
    token (wordToken ((c :: rest).takeWhile isNameChar)) ((c :: rest).dropWhile isNameChar)
  else
    match c, rest with
    | '(', rest => some (some .leftParen, { state with parens := state.parens + 1 }, rest)
    | ')', rest =>
      if state.parens = 0 then none
      else some (some .rightParen, { state with parens := state.parens - 1 }, rest)
    | '\x7b', rest => some (some .leftBrace, { state with zone := .braces }, rest)
    | '[', rest => some (some .leftBracket, { state with zone := .brackets false }, rest)
    | ',', rest => token .comma rest
    | '@', rest => token .atSign rest
    | '+', _ => arithmetic .add
    | '-', _ => arithmetic .subtract
    | '*', _ => arithmetic .multiply
    | '/', _ => arithmetic .divide
    | '%', _ => arithmetic .remainder
    | '^', _ => arithmetic .power
    | '=', '=' :: rest => comparison .equal rest
    | '=', '~' :: _ => none
    | '=', rest => token .equals rest
    | '!', '=' :: rest => comparison .notEqual rest
    | '<', '=' :: rest => comparison .lessOrEqual rest
    | '<', rest => comparison .less rest
    | '>', '=' :: rest => comparison .greaterOrEqual rest
    | '>', rest => comparison .greater rest
    | c, rest => (readString? c rest).map fun (token, rest) => (some token, state, rest)

/-- Reads the next token, or drops what stands between tokens. -/
def lexStep? (state : LexState) (c : Char) (rest : List Char) : Option Step :=
  match state.zone with
  | .common => stepOutside? state c rest
  | .braces => stepInBraces? state c rest
  | .brackets colonSeen => stepInBrackets? state colonSeen c rest

/-- Cuts the rest of a query into tokens.  Every step drops a character, so the length of the text
is enough `fuel`. -/
def lexFrom? (fuel : Nat) (state : LexState) (text : List Char) : Option (List Token) :=
  match fuel, text with
  | _, [] => if state.zone = .common ∧ state.parens = 0 then some [] else none
  | 0, _ :: _ => none
  | fuel + 1, c :: rest => do
    let (token, state, rest) ← lexStep? state c rest
    let tokens ← lexFrom? fuel state rest
    some (token.toList ++ tokens)

/-- Cuts a query into tokens. -/
def tokens? (query : String) : Option (List Token) :=
  lexFrom? query.length ⟨.common, 0⟩ query.toList

end MetricBench.Query
