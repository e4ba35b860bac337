import MetricBench.Labels
import MetricBench.Text.Blank
import MetricBench.Yaml.Decode

/-!
# Rule files

A rule file holds groups of rules.  An entry says what it is called, as a recording or as an alert,
what is evaluated and what is attached to the results.  The interval of a group and the waiting time
of an alert are read, but rules are evaluated when the user asks for it.
-/

namespace MetricBench.Rules

open Yaml (Decoding)
open Yaml.Decoding (field fields list optionalText requiredField text textMap)

/-- A rule as it stands in a file. -/
structure RuleEntry where
  record : Option String
  alert : Option String
  expr : String
  waiting : Option String
  labels : Labels
  annotations : SortedMap String String

/-- A group as it stands in a file. -/
structure GroupEntry where
  name : String
  interval : Option String
  rules : List RuleEntry

/-- The groups of a file. -/
structure RuleFile where
  groups : List GroupEntry

namespace RuleEntry

def decode (node : Yaml.Node) : Decoding RuleEntry := do
  let entries ← fields node
  return {
    record := ← field entries "record" none optionalText
    alert := ← field entries "alert" none optionalText
    expr := ← field entries "expr" "" text
    waiting := ← field entries "for" none optionalText
    labels := ← field entries "labels" .empty textMap
    annotations := ← field entries "annotations" .empty textMap }

end RuleEntry

namespace GroupEntry

def decode (node : Yaml.Node) : Decoding GroupEntry := do
  let entries ← fields node
  return {
    name := ← requiredField entries "name" text
    interval := ← field entries "interval" none optionalText
    rules := ← field entries "rules" [] (list RuleEntry.decode) }

end GroupEntry

namespace RuleFile

def decode (node : Yaml.Node) : Decoding RuleFile := do
  return ⟨← field (← fields node) "groups" [] (list GroupEntry.decode)⟩

/-- Reads a rule file.  A file of blanks holds no groups. -/
def read? (text : String) : Option RuleFile :=
  if text.toList.all Text.isBlank then some ⟨[]⟩
  else (Yaml.Node.read? text).bind (Yaml.Decoding.run? decode)

end RuleFile

end MetricBench.Rules
