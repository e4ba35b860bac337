/-!
# Tables of changes

A property whose value is the same for long runs of code points is kept as a table: in increasing
order, each code point at which the value changes, with the value that starts there.
-/

namespace MetricBench.Unicode

/-- The code points at which a value changes, with the values. -/
abbrev ChangeTable (α : Type) := Array (Nat × α)

namespace ChangeTable

variable {α : Type}

/-- The value of the last entry whose code point is at most `code`, among the entries from `low` up
to, and without, `high`; `found` when there is none. -/
def lastAtMost (table : ChangeTable α) (code low high : Nat) (found : α) : α :=
  if _h : low < high then
    let middle := (low + high) / 2
    match table[middle]? with
    | none => found
    | some (start, value) =>
      if start ≤ code then lastAtMost table code (middle + 1) high value
      else lastAtMost table code low middle found
  else found
termination_by high - low
decreasing_by all_goals omega

/-- The value for a code point; `standard` before the first change. -/
def valueFor (table : ChangeTable α) (code : Nat) (standard : α) : α :=
  table.lastAtMost code 0 table.size standard

end ChangeTable

end MetricBench.Unicode
