import MetricBench.SortedMap
import MetricBench.Yaml.Parser

/-!
# Values of YAML documents

What a document says is taken from it by the type that is wanted: every scalar is a text, whatever
it looks like, and where nothing is written a collection is empty.  References are followed a
limited number of times, so that a small document cannot stand for a huge one.
-/

namespace MetricBench.Yaml

/-- Takes a value from a document whose references may be followed so many times more. -/
abbrev Decoding := ReaderT Node (StateT Nat Option)

/-- The tag of what is nothing. -/
def nullTag : String := "tag:yaml.org,2002:null"

/-- Whether a plain scalar says that there is nothing. -/
def isNull (text : String) : Bool := ["null", "Null", "NULL", "~"].contains text

namespace Decoding

/-- The node that a reference stands for. -/
def follow (number : Nat) : Decoding Node := do
  match ← get, (← read).find? number with
  | left + 1, some node =>
    set left
    return node
  | _, _ => failure

/-- A node without its anchor, or the node that it refers to. -/
def resolve : Node → Decoding Node
  | .anchored _ node => pure node
  | .reference number => follow number
  | node => pure node

/-- The text of a scalar. -/
def text (node : Node) : Decoding String := do
  match ← resolve node with
  | .scalar _ _ text => return text
  | _ => failure

/-- The text of a scalar that may say that there is nothing. -/
def optionalText (node : Node) : Decoding (Option String) := do
  match ← resolve node with
  | .scalar false _ text => return some text
  | .scalar true none text => return if text = "" ∨ isNull text then none else some text
  | .scalar true (some tag) text =>
    if tag ≠ nullTag then return some text
    else if isNull text then return none
    else failure
  | _ => failure

/-- The elements of a sequence. -/
def list {α : Type} (element : Node → Decoding α) (node : Node) : Decoding (List α) := do
  match ← resolve node with
  | .sequence items => items.mapM element
  | .scalar true _ "" => return []
  | _ => failure

/-- The entries of a mapping with their keys. -/
def fields (node : Node) : Decoding (List (String × Node)) := do
  match ← resolve node with
  | .mapping entries => entries.mapM fun (key, value) => return (← text key, value)
  | .scalar true _ "" => return []
  | _ => failure

/-- The texts of a mapping by their keys.  Of entries with one key the last counts. -/
def textMap (node : Node) : Decoding (SortedMap String String) := do
  let entries ← fields node
  return .ofList (← entries.mapM fun (key, value) => return (key, ← text value))

/-- The value of a field that may be missing, but is not given twice. -/
def field {α : Type} (fields : List (String × Node)) (name : String) (missing : α)
    (value : Node → Decoding α) : Decoding α :=
  match fields.filter fun entry => entry.1 == name with
  | [] => return missing
  | [entry] => value entry.2
  | _ => failure

/-- The value of a field that is given once. -/
def requiredField {α : Type} (fields : List (String × Node)) (name : String)
    (value : Node → Decoding α) : Decoding α := do
  match ← field fields name none fun node => return some (← value node) with
  | some value => return value
  | none => failure

/-- Takes a value from a document.  For each of its events, a reference may be followed a hundred
times. -/
def run? {α : Type} (value : Node → Decoding α) (document : Option Node) : Option α :=
  let root := document.getD .nothing
  ((value root).run root |>.run (100 * root.events)).map (·.1)

end Decoding

end MetricBench.Yaml
