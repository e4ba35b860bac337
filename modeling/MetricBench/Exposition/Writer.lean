import MetricBench.Number.SampleValue
import MetricBench.Series

/-!
# Writing exposition text

A metric family is written as an optional help comment and one line for every sample, each with its
instant.
-/

namespace MetricBench.Exposition

/-- How a character of a help text is written. -/
def escapeHelpChar (c : Char) : List Char :=
  match c with
  | '\\' => ['\\', '\\']
  | '\n' => ['\\', 'n']
  | c => [c]

/-- The help comment of a metric. -/
def helpLine (name help : String) : String :=
  "# HELP " ++ name ++ " " ++ .ofList (help.toList.flatMap escapeHelpChar) ++ "\n"

/-- The line of a sample, filed under the given metric name. -/
def sampleLine (name : String) (sample : Sample) : String :=
  name ++ sample.labels.braces ++ " " ++ Number.formatValue sample.value ++ " " ++
    toString sample.timestamp ++ "\n"

/-- The text of a metric family. -/
def familyText (name : String) (help : Option String) (samples : List Sample) : String :=
  let comment := match help with
    | some help => helpLine name help
    | none => ""
  comment ++ String.join (samples.map (sampleLine name))

end MetricBench.Exposition
