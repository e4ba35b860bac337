import MetricBench.Regex.CharSet

/-!
# Patterns and the places they lead to

A pattern is matched by following sets of places in a text.  A place is the number of characters
before it, and a set of places is a number whose bits say which places are in it.  A node leads from
a set of places to all places at which a match of the node that starts in the set may end; so
alternatives are unions, a sequence is a composition, and a repetition is iterated until nothing new
is reached.
-/

namespace MetricBench.Regex

/-- What an assertion about word boundaries asks for. -/
inductive WordEdge where
  | boundary
  | noBoundary
  | start
  | stop
  | startHalf
  | stopHalf
  deriving DecidableEq, Repr

/-- Conditions on a place that take no character. -/
inductive Assertion where
  | textStart
  | textEnd
  | lineStart
  | lineEnd
  | returnLineStart
  | returnLineEnd
  | word (ascii : Bool) (edge : WordEdge)
  deriving DecidableEq, Repr

/-- A pattern. -/
inductive Node where
  | empty
  | chars (set : CharSet)
  | assertion (condition : Assertion)
  | sequence (first second : Node)
  | choice (left right : Node)
  | repetition (node : Node) (least : Nat) (most : Option Nat)
  deriving DecidableEq, Repr

namespace WordEdge

/-- Whether the edge lies between two sides, each of which is inside a word or not. -/
def holds (edge : WordEdge) (before after : Bool) : Bool :=
  match edge with
  | boundary => before != after
  | noBoundary => before == after
  | start => !before && after
  | stop => before && !after
  | startHalf => !before
  | stopHalf => !after

end WordEdge

namespace Assertion

/-- Whether an assertion holds between two characters, either of which may be missing at an end of
the text. -/
def holds (assertion : Assertion) (before after : Option Char) : Bool :=
  match assertion with
  | textStart => before.isNone
  | textEnd => after.isNone
  | lineStart => before.isNone || before == some '\n'
  | lineEnd => after.isNone || after == some '\n'
  | returnLineStart =>
    before.isNone || before == some '\n' || (before == some '\r' && after != some '\n')
  | returnLineEnd =>
    after.isNone || after == some '\r' || (after == some '\n' && before != some '\r')
  | word ascii edge =>
    let isWord := fun c =>
      if ascii then CharSet.asciiWord.contains c else Unicode.wordCharacters.contains c
    edge.holds (before.any isWord) (after.any isWord)

/-- The places of a text, after the character `before`, at which an assertion holds. -/
def places (assertion : Assertion) (before : Option Char) : List Char → Nat
  | [] => (assertion.holds before none).toNat
  | c :: rest => (assertion.holds before (some c)).toNat + 2 * assertion.places (some c) rest

end Assertion

/-- The places of a text that stand before a character of the set. -/
def CharSet.places (set : CharSet) : List Char → Nat
  | [] => 0
  | c :: rest => (set.contains c).toNat + 2 * set.places rest

/-- Applies a step the given number of times, or until no place is left. -/
def iterate (step : Nat → Nat) : Nat → Nat → Nat
  | 0, places => places
  | count + 1, places => if places = 0 then 0 else iterate step count (step places)

/-- Adds what a step reaches, the given number of times, or until nothing new is reached. -/
def saturate (step : Nat → Nat) : Nat → Nat → Nat
  | 0, places => places
  | count + 1, places =>
    let reached := places ||| step places
    if reached = places then places else saturate step count reached

namespace Node

/-- The places at which a match that starts in `places` may end. -/
def advance (text : List Char) : Node → Nat → Nat
  | empty, places => places
  | chars set, places => (places &&& set.places text) <<< 1
  | assertion condition, places => places &&& condition.places none text
  | sequence first second, places => second.advance text (first.advance text places)
  | choice left right, places => left.advance text places ||| right.advance text places
  | repetition node least most, places =>
    let required := iterate (node.advance text) least places
    let optional := match most with
      | some most => most - least
      | none => text.length + 1
    saturate (node.advance text) optional required

/-- Whether a pattern matches somewhere in a text. -/
def occursIn (node : Node) (text : List Char) : Bool :=
  node.advance text ((1 <<< (text.length + 1)) - 1) ≠ 0

end Node

end MetricBench.Regex
