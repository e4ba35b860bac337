import MetricBench.Session

/-!
# What the prompt shows

The lines that answer commands.
-/

namespace MetricBench.Prompt

/-- A text as a line. -/
def line (text : String) : String := text ++ "\n"

/-- The list of commands. -/
def helpText : String := line <| "\n".intercalate [
  "<expr>                                  evaluate a PromQL expression at the session clock",
  ".at <instant> <expr>                    evaluate at a given instant",
  ".range <start> <end> <step> <expr>      evaluate over a range",
  ".load <file> [filter=RE] [ts=MODE]      load exposition text",
  ".import <file> [filter=RE] [ts=MODE]    import a query API JSON response",
  ".scrape <url> [count=N] [delay=DUR] [filter=RE] [ts=MODE]",
  "                                        fetch and load an exposition endpoint",
  ".save <file|-> [filter=RE] [ts=MODE]    write the store as exposition text",
  ".drop <regex>                           remove series whose signature matches",
  ".keep <regex>                           remove series whose signature does not match",
  ".rename <old> <new>                     rename a metric",
  ".seed <metric> [steps=N] [step=DUR]     backfill synthetic history",
  ".rules [spec]                           activate rule files, or list the active rules",
  ".eval [instant]                         run one rule pass",
  ".pin <instant>  .unpin  .now            control the evaluation clock",
  ".metrics  .labels [name]  .clear        inspect or empty the store",
  ".help  .quit",
  "MODE is keep, remove or an instant (RFC3339, unix seconds, now, now-<dur>)."]

def emptyResult : String := line "(empty result)"

def seriesText (series : List Series) : String :=
  if series.isEmpty then emptyResult else (Query.Value.matrix series).text

def valueText : Query.Value → String
  | .vector [] => emptyResult
  | .matrix series => seriesText series
  | value => value.text

def passText (report : Rules.PassReport) : String :=
  line ("rules: " ++ toString report.rules ++ " evaluated, " ++ toString report.samplesAdded ++
    " samples added, " ++ toString report.alertsFired ++ " alerts fired")

def failedPassText (failure : Rules.PassFailure) : String :=
  line ("rule pass aborted at " ++ failure.message ++ " (" ++ toString failure.finished.rules ++
    " rules evaluated, " ++ toString failure.finished.samplesAdded ++ " samples added)")

def ingestText (report : IngestReport) : String :=
  let load := line ("loaded " ++ toString report.load.loaded ++ " samples into " ++
    toString report.load.metrics ++ " metrics (" ++ toString report.load.filteredOut ++
    " filtered out)")
  load ++ match report.pass with
    | none => ""
    | some (.ok report) => passText report
    | some (.error failure) => failedPassText failure

def savedText (snapshot : Edit.Snapshot) (path : String) : String :=
  line ("saved " ++ toString snapshot.samples ++ " samples from " ++ toString snapshot.metrics ++
    " metrics to " ++ path)

def retainText (report : RetainReport) : String :=
  line ("removed " ++ toString report.removed ++ " samples, " ++ toString report.remaining ++
    " remain")

def renamedText (old new : String) (count : Nat) : String :=
  line ("renamed " ++ old ++ " to " ++ new ++ " (" ++ toString count ++ " samples)")

def seededText (report : Edit.SeedReport) : String :=
  line ("seeded " ++ toString report.samples ++ " samples across " ++ toString report.series ++
    " series")

def activatedText (rules : Rules.RuleSet) : String :=
  line ("activated " ++ toString rules.size ++ " rules from " ++ toString rules.files.length ++
    " files")

def ruleText (rule : Rules.Rule) : String :=
  let kind := match rule.kind with
    | .recording => "Recording"
    | .alerting => "Alerting"
  line ("  " ++ kind ++ " " ++ rule.name ++ ": " ++ rule.expr)

def groupText (group : Rules.Group) : String :=
  line (group.name ++ " (" ++ group.file ++ ")") ++ String.join (group.rules.map ruleText)

def rulesText : Option Rules.RuleSet → String
  | none => line "no rules are active"
  | some rules => String.join (rules.groups.map groupText)

def pinnedText (instant : Int) : String := line ("pinned at " ++ Time.formatInstant instant)

def nowText (session : Session) (wall : Int) : String :=
  let state := if session.clock.pinned.isSome then "pinned" else "wall clock"
  line (Time.formatInstant (session.now wall) ++ " (" ++ state ++ ")")

def metricText (store : Store) (name : String) : String :=
  line (name ++ " (" ++ toString (store.seriesLabels name).length ++ " series, " ++
    toString (store.bucket name).length ++ " samples)")

def metricsText (store : Store) : String := String.join (store.metricNames.map (metricText store))

def namesText (names : List String) : String := line (" ".intercalate names)

end MetricBench.Prompt
