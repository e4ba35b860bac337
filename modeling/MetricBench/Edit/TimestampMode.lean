import MetricBench.Series
import MetricBench.Time.Instant

/-!
# Timestamp modes

Samples that enter or leave the store keep their timestamps, get the present instant, or are all
shifted by the one distance that brings the newest of them to a given instant.
-/

namespace MetricBench.Edit

open Number (signedWord?)

/-- How timestamps are treated. -/
inductive TimestampMode where
  | keep
  | remove
  | set (target : Int)
  deriving DecidableEq, Repr

namespace TimestampMode

/-- Reads a mode: its name, or the instant for the newest sample. -/
def read (text : String) (now : Int) : Except UsageError TimestampMode :=
  match Text.trim text with
  | "keep" => .ok keep
  | "remove" => .ok remove
  | instant => (Time.readInstant instant now).map set

/-- The text of a mode. -/
def text : TimestampMode → String
  | keep => "keep"
  | remove => "remove"
  | set target => "set(" ++ Time.formatInstant target ++ ")"

/-- The timestamps with one distance added to each, unless one of them leaves the range of signed
words. -/
def shiftAll? (timestamps : List Int) (distance : Int) : Option (List Int) :=
  timestamps.mapM fun timestamp => signedWord? (timestamp + distance)

/-- The timestamps of a transfer, rewritten in their order.  It is refused when the shift itself or a
shifted timestamp leaves the range of signed words. -/
def rewrite (mode : TimestampMode) (now : Int) (timestamps : List Int) :
    Except UsageError (List Int) :=
  match mode with
  | keep => .ok timestamps
  | remove => .ok (timestamps.map fun _ => now)
  | set target =>
    match timestamps.max? with
    | none => .ok timestamps
    | some newest =>
      match (signedWord? (target - newest)).bind (shiftAll? timestamps) with
      | some shifted => .ok shifted
      | none => .error (.shiftOutOfRange target newest)

end TimestampMode

/-- The samples with other timestamps, the first with the first, the second with the second and so
on. -/
def stampAll (samples : List Sample) (timestamps : List Int) : List Sample :=
  samples.zipWith (fun sample timestamp => { sample with timestamp := timestamp }) timestamps

end MetricBench.Edit
