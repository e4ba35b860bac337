import MetricBench.Series
import MetricBench.Text.Quoted

/-!
# Documents

What is read from a document, whatever its format: observations that may lack an instant, and help
texts.  A malformed document is reported by the line it fails on and the fault found there.
-/

namespace MetricBench

open Text (quote)

/-- One observation as a document gives it. -/
structure Observation where
  labels : Labels
  value : Double
  timestamp : Option Int

/-- What a document holds, in its order. -/
structure Document where
  observations : List Observation
  help : List (String × String)

namespace Document

def empty : Document := ⟨[], []⟩

/-- The document that holds what the first one holds and then what the second one holds. -/
def append (first second : Document) : Document :=
  ⟨first.observations ++ second.observations, first.help ++ second.help⟩

end Document

/-- What is wrong with a line of a document. -/
inductive InputFault where
  | invalidMetricName (text : String)
  | unterminatedLabels
  | invalidLabelName (offset : Nat)
  | missingEquals (label : String)
  | missingQuote (label : String)
  | unterminatedValue (label : String)
  | missingValue
  | invalidValue (text : String)
  | invalidTimestamp (text : String)
  | trailingField (text : String)
  | invalidSampleValue (text : String)
  | failedResponse (reason : String)
  | missingData
  deriving DecidableEq, Repr

namespace InputFault

def message : InputFault → String
  | invalidMetricName text => "invalid metric name " ++ quote text
  | unterminatedLabels => "unterminated label set"
  | invalidLabelName offset => "invalid label name at offset " ++ toString offset
  | missingEquals label => "expected '=' after label " ++ quote label
  | missingQuote label => "expected quoted value for label " ++ quote label
  | unterminatedValue label => "unterminated value for label " ++ quote label
  | missingValue => "missing sample value"
  | invalidValue text => "invalid value " ++ quote text
  | invalidTimestamp text => "invalid timestamp " ++ quote text
  | trailingField text => "unexpected trailing field " ++ quote text
  | invalidSampleValue text => "invalid sample value " ++ quote text
  | failedResponse reason => "query response is an error: " ++ reason
  | missingData => "query response has no data"

end InputFault

/-- A fault with the number of its line, counted from one. -/
structure InputError where
  line : Nat
  fault : InputFault
  deriving DecidableEq, Repr

def InputError.message (error : InputError) : String :=
  "line " ++ toString error.line ++ ": " ++ error.fault.message

end MetricBench
