import MetricBench.Labels
import MetricBench.Regex.Pattern
import MetricBench.UsageError

/-!
# Series filters

A series filter is a pattern that is looked for anywhere in the signature of a series.
-/

namespace MetricBench.Edit

open Regex (Pattern)

/-- A pattern for signatures. -/
structure SeriesFilter where
  pattern : Pattern
  deriving DecidableEq

namespace SeriesFilter

/-- Reads the pattern of a filter. -/
def read (source : String) : Except UsageError SeriesFilter :=
  match Pattern.read? source with
  | some pattern => .ok ⟨pattern⟩
  | none => .error (.invalidFilter source)

/-- Whether the signature of a label set passes. -/
def accepts (filter : SeriesFilter) (labels : Labels) : Bool :=
  filter.pattern.isMatch labels.signature

end SeriesFilter

/-- Whether a label set passes an optional filter. -/
def acceptedBy (filter : Option SeriesFilter) (labels : Labels) : Bool :=
  filter.all (·.accepts labels)

end MetricBench.Edit
