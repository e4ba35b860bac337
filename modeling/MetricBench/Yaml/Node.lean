import MetricBench.Yaml.Token

/-!
# YAML documents

A document is a tree of scalars, sequences and mappings.  A node may be anchored, and a reference
stands for an anchored node of the same document.
-/

namespace MetricBench.Yaml

/-- A node of a document.  Anchors and references are told apart by numbers. -/
inductive Node where
  | scalar (isPlain : Bool) (tag : Option String) (text : String)
  | sequence (items : List Node)
  | mapping (entries : List (Node × Node))
  | anchored (number : Nat) (node : Node)
  | reference (number : Nat)

namespace Node

/-- What is read where nothing is written. -/
def nothing : Node := scalar true none ""

mutual

/-- The number of events that a node is made of: two for a collection, one for anything else. -/
def events : Node → Nat
  | scalar _ _ _ | reference _ => 1
  | sequence items => 2 + eventsOfItems items
  | mapping entries => 2 + eventsOfEntries entries
  | anchored _ node => node.events

def eventsOfItems : List Node → Nat
  | [] => 0
  | item :: rest => item.events + eventsOfItems rest

def eventsOfEntries : List (Node × Node) → Nat
  | [] => 0
  | (key, value) :: rest => key.events + value.events + eventsOfEntries rest

end

mutual

/-- The node that a number stands for: the last that is anchored by it. -/
def find? (number : Nat) : Node → Option Node
  | scalar _ _ _ | reference _ => none
  | sequence items => findInItems? number items
  | mapping entries => findInEntries? number entries
  | anchored own node =>
    (node.find? number).or (if own = number then some node else none)

def findInItems? (number : Nat) : List Node → Option Node
  | [] => none
  | item :: rest => (findInItems? number rest).or (item.find? number)

def findInEntries? (number : Nat) : List (Node × Node) → Option Node
  | [] => none
  | (key, value) :: rest =>
    (findInEntries? number rest).or ((value.find? number).or (key.find? number))

end

end Node

end MetricBench.Yaml
