import MetricBench.SortedMap

/-!
# Label sets

A series is identified by its label set: names bound to values, in name order.  The metric name is
the value of a reserved label.  Label sets are compared by their bindings; their written forms are
the signature, which starts with the metric name, and the braces that hold the other labels.
-/

namespace MetricBench

/-- The label that holds the metric name. -/
def nameLabel : String := "__name__"

/-- The metric name of samples that come without one. -/
def defaultName : String := "query_result"

/-- A set of labels, each name bound to one value. -/
abbrev Labels := SortedMap String String

namespace Labels

/-- The value of a label; a missing label has the empty value. -/
def valueOf (labels : Labels) (name : String) : String := (labels.find? name).getD ""

/-- The metric name, when there is one. -/
def metricName? (labels : Labels) : Option String := labels.find? nameLabel

/-- The label set without the metric name. -/
def withoutName (labels : Labels) : Labels := labels.erase nameLabel

/-- The label set with the given metric name. -/
def named (labels : Labels) (name : String) : Labels := labels.insert nameLabel name

/-- The labels whose names `keep` holds of. -/
def restrict (labels : Labels) (keep : String → Bool) : Labels :=
  labels.filter fun name _ => keep name

/-- The name under which a sample with these labels is filed. -/
def filedName (labels : Labels) : String :=
  match labels.metricName? with
  | some name => if name = "" then defaultName else name
  | none => defaultName

/-- The label set with the name under which its samples are filed. -/
def withFiledName (labels : Labels) : Labels :=
  if labels.metricName? = some labels.filedName then labels else labels.named defaultName

/-- A sample is never filed under the empty name. -/
theorem filedName_ne_empty (labels : Labels) : labels.filedName ≠ "" := by
  unfold filedName
  split
  · split
    · simp [defaultName]
    · assumption
  · simp [defaultName]

/-- A filed label set holds the name that it is filed under. -/
@[simp]
theorem metricName?_withFiledName (labels : Labels) :
    labels.withFiledName.metricName? = some labels.filedName := by
  unfold withFiledName
  split
  · assumption
  · rename_i h
    have hname : labels.filedName = defaultName := by
      unfold filedName at h ⊢
      grind
    simp [metricName?, named, hname]

/-- How a character is written inside a quoted label value. -/
def escapeChar (c : Char) : List Char :=
  match c with
  | '\\' => ['\\', '\\']
  | '"' => ['\\', '"']
  | '\n' => ['\\', 'n']
  | c => [c]

/-- The text of a label value between its quotes. -/
def escapeValue (value : String) : String := .ofList (value.toList.flatMap escapeChar)

/-- A label as it stands between the braces. -/
def bindingText (binding : String × String) : String :=
  binding.1 ++ "=\"" ++ escapeValue binding.2 ++ "\""

/-- The labels other than the metric name between braces; nothing when there are none. -/
def braces (labels : Labels) : String :=
  match labels.withoutName.entries with
  | [] => ""
  | entries => "\x7b" ++ String.intercalate "," (entries.map bindingText) ++ "\x7d"

/-- The metric name followed by the other labels. -/
def signature (labels : Labels) : String := labels.valueOf nameLabel ++ labels.braces

/-- The signature, or a pair of braces for the set without labels. -/
def text (labels : Labels) : String :=
  if labels.isEmpty then "\x7b\x7d" else labels.signature

end Labels

end MetricBench
