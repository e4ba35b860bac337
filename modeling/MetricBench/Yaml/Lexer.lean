import MetricBench.Yaml.BlockScalar
import MetricBench.Yaml.FlowScalar
import MetricBench.Yaml.Tag

/-!
# Cutting YAML into tokens

Only a colon tells that what stood before it was a key.  So the lexer remembers, at every level of
flow collections, where a key may have started, and puts a token there when it meets the colon.  A
key ends on the line it starts on and is not longer than 1024 characters.
-/

namespace MetricBench.Yaml

/-- A place where a key may have started: its line and column, whether there has to be a key, and
the number of tokens before it. -/
structure KeyPlace where
  line : Nat
  column : Nat
  required : Bool
  position : Nat

/-- What the lexer knows.  `keyPlace` is that of the innermost level, `outer` holds those of the
levels around it; there is one for every flow collection that is open.  `indents` holds the columns
of the block collections that are open, innermost first.  A key may start at the next token if
`keyAllowed` holds. -/
structure LexState where
  tokens : Array Token
  rest : Spots
  keyPlace : Option KeyPlace
  outer : List (Option KeyPlace)
  indents : List Nat
  keyAllowed : Bool

namespace LexState

def start (spots : Spots) : LexState := ⟨#[], spots, none, [], [], true⟩

def inFlow (state : LexState) : Bool := !state.outer.isEmpty

/-- The first column inside of the innermost block collection. -/
def innerColumn (state : LexState) : Nat :=
  match state.indents with
  | [] => 0
  | column :: _ => column + 1

def add (state : LexState) (token : Token) : LexState :=
  { state with tokens := state.tokens.push token }

/-- Adds a token and goes on after it. -/
def take (state : LexState) (token : Token) (rest : Spots) : LexState :=
  { state.add token with rest := rest }

/-! ### Keys -/

/-- Forgets the place of a key, which must not be required. -/
def dropKeyPlace? (state : LexState) : Option LexState :=
  if state.keyPlace.any KeyPlace.required then none else some { state with keyPlace := none }

/-- Remembers that a key may start here. -/
def saveKeyPlace? (state : LexState) (spot : Spot) : Option LexState :=
  if state.keyAllowed then do
    let required := !state.inFlow && state.indents.head? == some spot.column
    let place : KeyPlace := ⟨spot.line, spot.column, required, state.tokens.size⟩
    some { ← state.dropKeyPlace? with keyPlace := some place }
  else some state

/-- A place of a key, unless the key would end too far from it here. -/
def currentPlace? (spot : Spot) (place : Option KeyPlace) : Option (Option KeyPlace) :=
  match place with
  | none => some none
  | some place =>
    if place.line < spot.line ∨ place.column + 1024 < spot.column then
      if place.required then none else some none
    else some (some place)

/-- Forgets the places of keys that would end too far from them here. -/
def dropStalePlaces? (state : LexState) (spot : Spot) : Option LexState := do
  let keyPlace ← currentPlace? spot state.keyPlace
  let outer ← state.outer.mapM (currentPlace? spot)
  some { state with keyPlace, outer }

/-! ### Block collections -/

/-- Opens a block collection at a column, if none is open there, with its token at a position. -/
def openBlock (state : LexState) (column : Nat) (token : Token) (position : Nat) : LexState :=
  if !state.inFlow && state.indents.head?.all (· < column) then
    { state with
      indents := column :: state.indents
      tokens := state.tokens.insertIdxIfInBounds position token }
  else state

/-- Closes the block collections whose columns satisfy a condition, from the innermost on. -/
def closeBlocks (state : LexState) (closes : Nat → Bool) : LexState :=
  if state.inFlow then state
  else
    let ends := (state.indents.takeWhile closes).map fun _ => Token.blockEnd
    { state with
      indents := state.indents.dropWhile closes
      tokens := state.tokens ++ ends }

/-! ### Tokens -/

/-- Takes a token that ends all collections. -/
def takeOutermost? (state : LexState) (token : Token) (rest : Spots) : Option LexState := do
  let state ← (state.closeBlocks fun _ => true).dropKeyPlace?
  some { state.take token rest with keyAllowed := false }

/-- Opens a flow collection. -/
def openFlow? (state : LexState) (spot : Spot) (token : Token) (rest : Spots) :
    Option LexState := do
  let state ← state.saveKeyPlace? spot
  some { state.take token rest with
    outer := state.keyPlace :: state.outer
    keyPlace := none
    keyAllowed := true }

/-- Closes a flow collection. -/
def closeFlow? (state : LexState) (token : Token) (rest : Spots) : Option LexState := do
  let state ← state.dropKeyPlace?
  let state := { state.take token rest with keyAllowed := false }
  match state.outer with
  | [] => some state
  | place :: outer => some { state with keyPlace := place, outer := outer }

/-- Takes the indicator of an element or of a key that is marked as one. -/
def takeIndicator? (state : LexState) (spot : Spot) (collection token : Token) (keyAllowed : Bool)
    (rest : Spots) : Option LexState :=
  if !state.inFlow && !state.keyAllowed then none
  else do
    let state ← (state.openBlock spot.column collection state.tokens.size).dropKeyPlace?
    some { state.take token rest with keyAllowed := keyAllowed }

/-- Takes the comma of a flow collection. -/
def takeComma? (state : LexState) (rest : Spots) : Option LexState := do
  let state ← state.dropKeyPlace?
  some { state.take .flowEntry rest with keyAllowed := true }

/-- Takes the indicator of a value.  What may have been a key is one now. -/
def takeValue? (state : LexState) (spot : Spot) (rest : Spots) : Option LexState :=
  match state.keyPlace with
  | some place =>
    let tokens := state.tokens.insertIdxIfInBounds place.position .key
    let state := { state with tokens, keyPlace := none, keyAllowed := false }
    some ((state.openBlock place.column .blockMappingStart place.position).take .value rest)
  | none =>
    if !state.inFlow && !state.keyAllowed then none
    else
      let state := state.openBlock spot.column .blockMappingStart state.tokens.size
      some { state.take .value rest with keyAllowed := !state.inFlow }

/-- Takes a token that may be a key or stand before one. -/
def takeNode? (state : LexState) (spot : Spot) (read : Option (Token × Spots)) :
    Option LexState := do
  let state ← state.saveKeyPlace? spot
  let (token, rest) ← read
  some { state.take token rest with keyAllowed := false }

/-- Takes a block scalar after its indicator. -/
def takeBlockScalar? (state : LexState) (isFolded : Bool) (rest : Spots) : Option LexState := do
  let state ← state.dropKeyPlace?
  let (text, rest) ← takeBlock? isFolded state.innerColumn rest
  some { state.take (.scalar false (.ofList text)) rest with keyAllowed := true }

/-- Takes a quoted scalar after its quote. -/
def takeQuotedScalar? (state : LexState) (spot : Spot) (rest : Spots) : Option LexState :=
  state.takeNode? spot <|
    (takeQuoted? spot.char (rest.length + 1) rest).map fun (text, rest) =>
      (.scalar false (.ofList text), rest)

/-- Takes a plain scalar.  If it has been left by a line break, a key may start after it. -/
def takePlainScalar? (state : LexState) (spot : Spot) (rest : Spots) : Option LexState := do
  let state ← state.saveKeyPlace? spot
  let (text, broken, rest) ← takePlain? state.inFlow state.innerColumn (spot :: rest)
  some { state.take (.scalar true (.ofList text)) rest with keyAllowed := broken }

end LexState

/-- The characters that no plain scalar starts with, some of them unless more follows. -/
def indicators : List Char :=
  flowIndicators ++ ['-', '?', ':', '#', '&', '*', '!', '|', '>', '\'', '"', '%', '@', '\x60']

/-- Whether a plain scalar starts with a character.  `inFlow` tells whether it is in a flow
collection and `rest` is what follows. -/
def startsPlain (inFlow : Bool) (spot : Spot) (rest : Spots) : Bool :=
  if spot.char = '-' then !rest.head?.any Spot.isGap
  else if spot.char = '?' ∨ spot.char = ':' then !inFlow && !atBlank rest
  else !spot.isBlank && !indicators.contains spot.char

/-- What is left after blanks, comments and line breaks, and whether a key may start there.  Tabs do
not count as blanks where a key may start in a block collection.  A byte order mark at the start of
a line takes up a column and is passed over. -/
def skipToToken (inFlow : Bool) : Bool → Bool → Spots → Bool × Spots
  | keyAllowed, _, [] => (keyAllowed, [])
  | keyAllowed, inComment, spot :: rest =>
    if spot.isBreak then skipToToken inFlow (keyAllowed || !inFlow) false rest
    else if inComment || spot.char == '#' then skipToToken inFlow keyAllowed true rest
    else if spot.char = ' ' || (spot.char = '\t' && (inFlow || !keyAllowed)) ||
        spot.isByteOrderMark then
      skipToToken inFlow keyAllowed false rest
    else (keyAllowed, spot :: rest)

namespace LexState

/-- Reads the token that starts here. -/
def readToken? (state : LexState) (spot : Spot) (rest : Spots) : Option LexState :=
  let here := spot :: rest
  if spot.column = 0 ∧ spot.char = '%' then
    (readDirective? rest).bind fun (token, rest) => state.takeOutermost? token rest
  else if startsDocumentMark '-' here then state.takeOutermost? .documentStart (rest.drop 2)
  else if startsDocumentMark '.' here then state.takeOutermost? .documentEnd (rest.drop 2)
  else if spot.char = '[' then state.openFlow? spot .flowSequenceStart rest
  else if spot.char = '\x7b' then state.openFlow? spot .flowMappingStart rest
  else if spot.char = ']' then state.closeFlow? .flowSequenceEnd rest
  else if spot.char = '\x7d' then state.closeFlow? .flowMappingEnd rest
  else if spot.char = ',' then state.takeComma? rest
  else if spot.char = '-' ∧ atBlank rest then
    state.takeIndicator? spot .blockSequenceStart .blockEntry true rest
  else if spot.char = '?' ∧ (state.inFlow ∨ atBlank rest) then
    state.takeIndicator? spot .blockMappingStart .key (!state.inFlow) rest
  else if spot.char = ':' ∧ (state.inFlow ∨ atBlank rest) then state.takeValue? spot rest
  else if spot.char = '*' then
    state.takeNode? spot ((readAnchorName? rest).map fun (name, rest) => (.alias name, rest))
  else if spot.char = '&' then
    state.takeNode? spot ((readAnchorName? rest).map fun (name, rest) => (.anchor name, rest))
  else if spot.char = '!' then state.takeNode? spot (readTag? state.inFlow here)
  else if spot.char = '|' ∧ !state.inFlow then state.takeBlockScalar? false rest
  else if spot.char = '>' ∧ !state.inFlow then state.takeBlockScalar? true rest
  else if spot.char = '\'' ∨ spot.char = '"' then state.takeQuotedScalar? spot rest
  else if startsPlain state.inFlow spot rest then state.takePlainScalar? spot rest
  else none

/-- Reads on to the end of the document stream.  Every step reads a character, so a little more than
the number of characters is enough `fuel`. -/
def finish? : Nat → LexState → Option (List Token)
  | 0, _ => none
  | fuel + 1, state =>
    let (keyAllowed, rest) := skipToToken state.inFlow state.keyAllowed false state.rest
    let state := { state with keyAllowed, rest }
    match rest with
    | [] => do
      let state ← (state.closeBlocks fun _ => true).dropKeyPlace?
      some state.tokens.toList
    | spot :: rest => do
      let state ← state.dropStalePlaces? spot
      let state ← (state.closeBlocks (spot.column < ·)).readToken? spot rest
      finish? fuel state

end LexState

/-- The tokens of a text. -/
def tokenize? (text : String) : Option (List Token) := do
  let spots ← layout? text
  (LexState.start spots).finish? (spots.length + 1)

end MetricBench.Yaml
