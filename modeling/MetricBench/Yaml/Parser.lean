import MetricBench.SortedMap
import MetricBench.Yaml.Lexer
import MetricBench.Yaml.Node

/-!
# Reading YAML documents

A text is read if it holds one document or none.  Where a key, a value or an element is missing,
nothing is read in its place.
-/

namespace MetricBench.Yaml

/-- What is left of the tokens and the numbers of the anchors that have been set.  An anchor's
number is the number of names that had been used for anchors before it. -/
structure ReadState where
  tokens : List Token
  anchors : SortedMap String Nat

abbrev Reading := StateT ReadState Option

namespace Reading

/-- The next token, which stays. -/
def peek : Reading (Option Token) := return (← get).tokens.head?

/-- The next token, which is taken. -/
def next : Reading (Option Token) := do
  let state ← get
  set { state with tokens := state.tokens.tail }
  return state.tokens.head?

/-- Leaves out the next token. -/
def skip : Reading Unit := modify fun state => { state with tokens := state.tokens.tail }

/-- Whether the next token is one of the given ones. -/
def sees (tokens : List Token) : Reading Bool := return (← peek).any tokens.contains

/-- Takes a token that has to come next. -/
def expect (token : Token) : Reading Unit := do
  if ← sees [token] then skip else failure

/-- Takes a token if it comes next. -/
def takes (token : Token) : Reading Bool := do
  if ← sees [token] then
    skip
    return true
  else return false

/-- Sets an anchor and gives its number. -/
def setAnchor (name : String) : Reading Nat := do
  let state ← get
  let number := state.anchors.size
  set { state with anchors := state.anchors.insert name number }
  return number

/-- The reference to an anchor that has been set. -/
def referenceTo (name : String) : Reading Node := do
  match (← get).anchors.find? name with
  | some number => return .reference number
  | none => failure

end Reading

open Reading

/-! ### Properties of nodes -/

/-- What the handles of tags stand for. -/
abbrev Handles := List (String × String)

def standardHandles : Handles := [("!", "!"), ("!!", "tag:yaml.org,2002:")]

/-- The tag that a handle and a suffix stand for. -/
def resolveTag? (handles : Handles) (handle suffix : String) : Option String :=
  if handle = "" then some suffix else (handles.lookup handle).map (· ++ suffix)

/-- The anchor and the tag of a node. -/
structure Properties where
  anchor : Option Nat
  tag : Option String

def readAnchor : Reading (Option Nat) := do
  match ← peek with
  | some (.anchor name) =>
    skip
    return some (← setAnchor name)
  | _ => return none

def readTag (handles : Handles) : Reading (Option String) := do
  match ← peek with
  | some (.tag handle suffix) =>
    skip
    match resolveTag? handles handle suffix with
    | some tag => return some tag
    | none => failure
  | _ => return none

/-- Reads an anchor and a tag in any order. -/
def readProperties (handles : Handles) : Reading Properties := do
  match ← readAnchor with
  | some anchor => return ⟨some anchor, ← readTag handles⟩
  | none =>
    let tag ← readTag handles
    let anchor ← if tag.isSome then readAnchor else pure none
    return ⟨anchor, tag⟩

/-- A scalar with its tag.  The tag of a lone exclamation mark says nothing. -/
def scalarNode (isPlain : Bool) (tag : Option String) (text : String) : Node :=
  .scalar isPlain (if tag = some "!" then none else tag) text

/-! ### Nodes -/

mutual

/-- Reads a node.  `isBlock` tells whether a block collection may stand here, and `isCompact`
whether the elements of a sequence may stand in the columns of the mapping around it.  There are at
most four calls to a token, so a little more than four times the number of tokens is enough
`fuel`. -/
def readNode (handles : Handles) : Nat → Bool → Bool → Reading Node
  | 0, _, _ => failure
  | fuel + 1, isBlock, isCompact => do
    match ← peek with
    | some (.alias name) =>
      skip
      referenceTo name
    | _ =>
      let properties ← readProperties handles
      let node ← readContent handles fuel isBlock isCompact properties
      return match properties.anchor with
        | some number => .anchored number node
        | none => node

/-- Reads what follows the properties of a node. -/
def readContent (handles : Handles) : Nat → Bool → Bool → Properties → Reading Node
  | 0, _, _, _ => failure
  | fuel + 1, isBlock, isCompact, properties => do
    match ← peek, isBlock, isCompact with
    | some .blockEntry, _, true => return .sequence (← readCompactItems handles fuel)
    | some (.scalar isPlain text), _, _ =>
      skip
      return scalarNode isPlain properties.tag text
    | some .flowSequenceStart, _, _ =>
      skip
      return .sequence (← readFlowItems handles fuel true)
    | some .flowMappingStart, _, _ =>
      skip
      return .mapping (← readFlowEntries handles fuel true)
    | some .blockSequenceStart, true, _ =>
      skip
      return .sequence (← readBlockItems handles fuel)
    | some .blockMappingStart, true, _ =>
      skip
      return .mapping (← readBlockEntries handles fuel)
    | _, _, _ =>
      if properties.anchor.isSome || properties.tag.isSome then
        return .scalar true properties.tag ""
      else failure

/-- Reads a node, or nothing before one of the given tokens. -/
def readNodeBefore (handles : Handles) : Nat → List Token → Bool → Bool → Reading Node
  | 0, _, _, _ => failure
  | fuel + 1, stops, isBlock, isCompact => do
    if ← sees stops then return .nothing
    else readNode handles fuel isBlock isCompact

/-- Reads the elements of a block sequence up to its end. -/
def readBlockItems (handles : Handles) : Nat → Reading (List Node)
  | 0 => failure
  | fuel + 1 => do
    match ← next with
    | some .blockEntry =>
      let item ← readNodeBefore handles fuel [.blockEntry, .blockEnd] true false
      return item :: (← readBlockItems handles fuel)
    | some .blockEnd => return []
    | _ => failure

/-- Reads the elements of a sequence that stands in the columns of a mapping, as long as there are
any. -/
def readCompactItems (handles : Handles) : Nat → Reading (List Node)
  | 0 => failure
  | fuel + 1 => do
    if ← takes .blockEntry then
      let item ← readNodeBefore handles fuel [.blockEntry, .key, .value, .blockEnd] true false
      return item :: (← readCompactItems handles fuel)
    else return []

/-- Reads the entries of a block mapping up to its end. -/
def readBlockEntries (handles : Handles) : Nat → Reading (List (Node × Node))
  | 0 => failure
  | fuel + 1 => do
    match ← next with
    | some .key =>
      let stops := [.key, .value, .blockEnd]
      let key ← readNodeBefore handles fuel stops true true
      let value ←
        if ← takes .value then readNodeBefore handles fuel stops true true else pure .nothing
      return (key, value) :: (← readBlockEntries handles fuel)
    | some .blockEnd => return []
    | _ => failure

/-- Reads the value of an entry of a flow collection, if there is one. -/
def readFlowValue (handles : Handles) : Nat → List Token → Reading Node
  | 0, _ => failure
  | fuel + 1, stops => do
    if ← takes .value then readNodeBefore handles fuel stops false false
    else return .nothing

/-- Reads the elements of a flow sequence up to its end.  An entry with a key is a mapping of its
own; where its key is missing, the token in its place is left out. -/
def readFlowItems (handles : Handles) : Nat → Bool → Reading (List Node)
  | 0, _ => failure
  | fuel + 1, isFirst => do
    if ← takes .flowSequenceEnd then return []
    else
      if !isFirst then expect .flowEntry
      if ← takes .flowSequenceEnd then return []
      else
        let stops := [.flowEntry, .flowSequenceEnd]
        let item ←
          if ← takes .key then
            let key ←
              if ← sees (.value :: stops) then
                skip
                pure .nothing
              else readNode handles fuel false false
            pure (.mapping [(key, ← readFlowValue handles fuel stops)])
          else readNode handles fuel false false
        return item :: (← readFlowItems handles fuel false)

/-- Reads the entries of a flow mapping up to its end. -/
def readFlowEntries (handles : Handles) : Nat → Bool → Reading (List (Node × Node))
  | 0, _ => failure
  | fuel + 1, isFirst => do
    if ← takes .flowMappingEnd then return []
    else
      if !isFirst then expect .flowEntry
      if ← takes .flowMappingEnd then return []
      else
        let stops := [.flowEntry, .flowMappingEnd]
        let entry ←
          if ← takes .key then
            let key ← readNodeBefore handles fuel (.value :: stops) false false
            pure (key, ← readFlowValue handles fuel stops)
          else pure (← readNode handles fuel false false, .nothing)
        return entry :: (← readFlowEntries handles fuel false)

end

/-! ### Documents -/

/-- Reads the directives of a document.  The version is told once, and every handle is given a
meaning once. -/
def readDirectives (versionSeen : Bool) (handles : Handles) : List Token →
    Option (Handles × List Token)
  | .versionDirective :: rest => if versionSeen then none else readDirectives true handles rest
  | .tagDirective handle start :: rest =>
    if (handles.lookup handle).isSome then none
    else readDirectives versionSeen (handles ++ [(handle, start)]) rest
  | tokens => some (handles, tokens)

/-- Whether a document that starts after its mark has no content before a token. -/
def endsEmpty : Option Token → Bool
  | some .versionDirective | some (.tagDirective _ _) | some .documentStart
  | some .documentEnd | none => true
  | _ => false

/-- Reads the content of a document and its end, after which nothing may follow. -/
def readDocument? (handles : Handles) (hasMark : Bool) (tokens : List Token) : Option Node := do
  let content : Reading Node :=
    if hasMark && endsEmpty tokens.head? then return .nothing
    else readNode (handles ++ standardHandles) (4 * tokens.length + 4) true false
  let (node, state) ← content.run ⟨tokens, .empty⟩
  if state.tokens.all (· == .documentEnd) then some node else none

/-- Reads a stream of tokens with one document or none.  A document without directives needs no mark
at its start. -/
def readTokens? (tokens : List Token) : Option (Option Node) := do
  if tokens.isEmpty then return none
  let (handles, rest) ← readDirectives false [] tokens
  match rest with
  | .documentStart :: rest => (readDocument? handles true rest).map some
  | _ =>
    if rest.length = tokens.length then (readDocument? handles false tokens).map some else none

/-- Reads a text with one document or none. -/
def Node.read? (text : String) : Option (Option Node) := (tokenize? text).bind readTokens?

end MetricBench.Yaml
