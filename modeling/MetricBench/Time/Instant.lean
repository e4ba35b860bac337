import MetricBench.Number.Conversion
import MetricBench.Number.SampleValue
import MetricBench.Time.Duration
import MetricBench.Time.Rfc3339
import MetricBench.UsageError

/-!
# Instants and spans as users write them

An instant is given relative to now, as calendar text or as seconds since the start of 1970.  A span
is given as a duration.  Both are read into milliseconds.
-/

namespace MetricBench.Time

open Number (greatestSigned roundAway parseFloat?)

/-- The nanoseconds of a millisecond. -/
def milliSpan : Nat := 1000000

/-- Reads a span in milliseconds, parts of a millisecond dropped. -/
def readSpan (text : String) : Except UsageError Int :=
  match parseDuration? (Text.trimChars text.toList) with
  | none => .error (.invalidDuration text)
  | some nanos =>
    let millis : Int := (nanos / milliSpan : Nat)
    if millis ≤ greatestSigned then .ok millis else .error (.durationOutOfRange text)

/-- Reads seconds since the start of 1970, written with digits, points and minus signs only. -/
def readSeconds? (text : List Char) : Option Int :=
  if text.all fun c => c.isDigit || c == '.' || c == '-' then
    (parseFloat? text).map fun seconds => roundAway (seconds * 1000.0)
  else none

/-- Reads an instant; `now` is what instants relative to now refer to. -/
def readInstant (text : String) (now : Int) : Except UsageError Int :=
  let trimmed := Text.trimChars text.toList
  match trimmed with
  | ['n', 'o', 'w'] => .ok now
  | 'n' :: 'o' :: 'w' :: '-' :: span => (readSpan (.ofList span)).map (now - ·)
  | 'n' :: 'o' :: 'w' :: '+' :: span => (readSpan (.ofList span)).map (now + ·)
  | _ =>
    match parseCalendar? trimmed, readSeconds? trimmed with
    | some instant, _ => .ok instant
    | none, some instant => .ok instant
    | none, none => .error (.invalidTime (.ofList trimmed))

end MetricBench.Time
