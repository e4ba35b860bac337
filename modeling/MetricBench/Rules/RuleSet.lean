import MetricBench.Rules.File
import MetricBench.UsageError

/-!
# Rule sets

The rules of one or more files, checked and in the order in which they are evaluated.
-/

namespace MetricBench.Rules

/-- What a rule makes of the results of its expression: samples under its name, or alerts. -/
inductive RuleKind where
  | recording
  | alerting
  deriving DecidableEq, Repr

/-- A rule that has been checked. -/
structure Rule where
  kind : RuleKind
  name : String
  expr : String
  labels : Labels
  annotations : SortedMap String String

namespace Rule

/-- What an entry is called and which kind of rule that makes it. -/
def title (entry : RuleEntry) : Except RuleFault (RuleKind × String) :=
  match entry.record, entry.alert with
  | some name, none => .ok (.recording, name)
  | none, some name => .ok (.alerting, name)
  | some _, some _ => .error .twoKinds
  | none, none => .error .noKind

/-- Checks an entry. -/
def ofEntry (entry : RuleEntry) : Except RuleFault Rule := do
  let (kind, name) ← title entry
  if name.toList.all Text.isBlank then .error .emptyName
  else if entry.expr.toList.all Text.isBlank then .error (.emptyExpression name)
  else .ok ⟨kind, name, entry.expr, entry.labels, entry.annotations⟩

end Rule

/-- The rules of one group. -/
structure Group where
  file : String
  name : String
  rules : List Rule

/-- The groups of some files. -/
structure RuleSet where
  files : List String
  groups : List Group

namespace RuleSet

/-- All rules in the order of files, groups and entries. -/
def rules (set : RuleSet) : List Rule := set.groups.flatMap (·.rules)

/-- The number of rules, counted by groups. -/
def size (set : RuleSet) : Nat :=
  set.groups.foldl (fun count group => count + group.rules.length) 0

def rulesOf (set : RuleSet) (kind : RuleKind) : List Rule :=
  set.rules.filter fun rule => rule.kind == kind

/-- The names that samples are recorded under. -/
def recordingNames (set : RuleSet) : List String :=
  SortedMap.distinct ((set.rulesOf .recording).map (·.name))

/-- The alerts with their expressions. -/
def alerts (set : RuleSet) : List (String × String) :=
  (set.rulesOf .alerting).map fun rule => (rule.name, rule.expr)

end RuleSet

/-- A rule set while it is put together, with what has been noted of its rules so far: the names
that samples are recorded under, and the alerts with their expressions. -/
structure Roster extends RuleSet where
  recordingNames : SortedMap String Unit
  alerts : List (String × String)

namespace Roster

def empty : Roster := ⟨⟨[], []⟩, .empty, []⟩

/-- Notes what a rule is called. -/
def note (roster : Roster) (rule : Rule) : Roster :=
  match rule.kind with
  | .recording => { roster with recordingNames := roster.recordingNames.insert rule.name () }
  | .alerting => { roster with alerts := roster.alerts ++ [(rule.name, rule.expr)] }

/-- Checks an entry of a group, notes its rule and puts it behind the rules of the group so far. -/
def addRule (file group : String) (state : Roster × List Rule) (entry : RuleEntry) :
    Except UsageError (Roster × List Rule) := do
  let rule ← (Rule.ofEntry entry).mapError (UsageError.badRule file group)
  .ok (state.1.note rule, state.2 ++ [rule])

/-- Checks the entries of a group and adds the group. -/
def addGroup (file : String) (roster : Roster) (entry : GroupEntry) : Except UsageError Roster := do
  let (noted, rules) ← entry.rules.foldlM (addRule file entry.name) (roster, [])
  .ok { noted with groups := noted.groups ++ [⟨file, entry.name, rules⟩] }

/-- Adds a file, which is given with its path. -/
def addFile (roster : Roster) (file : String × RuleFile) : Except UsageError Roster := do
  let grown ← file.2.groups.foldlM (addGroup file.1) roster
  .ok { grown with files := grown.files ++ [file.1] }

def ofFiles (files : List (String × RuleFile)) : Except UsageError Roster :=
  files.foldlM addFile empty

end Roster

/-- Checks the groups of files, which are given with their paths. -/
def RuleSet.ofFiles (files : List (String × RuleFile)) : Except UsageError RuleSet :=
  (Roster.ofFiles files).map (·.toRuleSet)

end MetricBench.Rules
