import MetricBench.Labels
import MetricBench.Number.SampleValue
import MetricBench.Text.Quoted
import MetricBench.Time.Rfc3339

/-!
# Alerts

An alert tells that a rule has fired for one element of its results.
-/

namespace MetricBench.Rules

structure Alert where
  name : String
  labels : Labels
  value : Double
  annotations : SortedMap String String
  instant : Int

/-- The line that shows an alert. -/
def Alert.text (alert : Alert) : String :=
  let annotations := alert.annotations.entries.map fun (name, text) =>
    " " ++ name ++ "=" ++ Text.quote text
  "[FIRING] " ++ alert.name ++ " " ++ alert.labels.text ++ " value=" ++
    Number.formatValue alert.value ++ " at " ++ Time.formatInstant alert.instant ++
    String.join annotations

end MetricBench.Rules
