import MetricBench.Error
import MetricBench.Json.Reader
import MetricBench.Number.SampleValue

/-!
# Query responses

The answer of a metrics server to a query is a JSON object: an envelope with a status around the
data, or the data alone.  Data is a type and a result, and results are vectors, matrices or scalars.
A structure may also be written as the array of its parts.
-/

namespace MetricBench.QueryResponse

open Json (Value)

/-- Seconds since the start of 1970 and the text of a value. -/
structure TextPoint where
  seconds : Double
  value : String

/-- A series of a result with its points. -/
structure TextSeries where
  labels : Labels
  points : List TextPoint

/-- A response without its envelope. -/
structure Envelope where
  status : String
  data : Option (List TextSeries)
  error : Option String

/-- Reads a point, an array of seconds and a text. -/
def readPoint? : Value → Option TextPoint
  | .array [seconds, value] => do some ⟨← seconds.number?, ← value.string?⟩
  | _ => none

/-- Reads labels, an object whose values are strings. -/
def readLabels? (value : Value) : Option Labels := do
  let members ← value.object?
  let bindings ← members.mapM fun member => member.2.string?.map fun text => (member.1, text)
  some (.ofList bindings)

/-- The two parts of a structure that is written as an object with the given keys or as an array. -/
def parts? (first second : String) : Value → Option (Value × Value)
  | .array [left, right] => some (left, right)
  | value => do some (← value.member? first, ← value.member? second)

/-- Reads an element of a vector, labels and a point. -/
def readVectorItem? (value : Value) : Option TextSeries := do
  let (labels, point) ← parts? "metric" "value" value
  some ⟨← readLabels? labels, [← readPoint? point]⟩

/-- Reads an element of a matrix, labels and points. -/
def readMatrixItem? (value : Value) : Option TextSeries := do
  let (labels, points) ← parts? "metric" "values" value
  some ⟨← readLabels? labels, ← (← points.array?).mapM readPoint?⟩

/-- The name of a type, alone or as the key of a null. -/
def typeName? : Value → Option String
  | .string name => some name
  | .object [(name, .null)] => some name
  | _ => none

/-- Reads data, a type and a result. -/
def readData? (value : Value) : Option (List TextSeries) := do
  let (type, result) ← parts? "resultType" "result" value
  match ← typeName? type with
  | "vector" => (← result.array?).mapM readVectorItem?
  | "matrix" => (← result.array?).mapM readMatrixItem?
  | "scalar" => do some [⟨.empty, [← readPoint? result]⟩]
  | _ => none

/-- Reads a part of an envelope that may be missing or null. -/
def readOptional? {α : Type} (read : Value → Option α) : Option Value → Option (Option α)
  | none | some .null => some none
  | some value => (read value).map some

/-- Reads an envelope. -/
def readEnvelope? (value : Value) : Option Envelope := do
  let status ← (← value.member? "status").string?
  let data ← readOptional? readData? (value.member? "data")
  let error ← readOptional? Value.string? (value.member? "error")
  some ⟨status, data, error⟩

/-- The data of a response, taken out of its envelope if it has one. -/
def dataOf (value : Value) : Except Error (List TextSeries) :=
  let refuse (fault : InputFault) : Except Error (List TextSeries) := .error (.input ⟨1, fault⟩)
  if (value.member? "status").isSome then
    match readEnvelope? value with
    | none => .error .json
    | some envelope =>
      if envelope.status ≠ "success" then
        refuse (.failedResponse (envelope.error.getD envelope.status))
      else
        match envelope.data with
        | some data => .ok data
        | none => refuse .missingData
  else
    match readData? value with
    | some data => .ok data
    | none => .error .json

/-- The observation that a point makes. -/
def observationOf (labels : Labels) (point : TextPoint) : Except Error Observation :=
  match Number.parseValue? point.value with
  | none => .error (.input ⟨1, .invalidSampleValue point.value⟩)
  | some value => .ok ⟨labels, value, some (Number.roundAway (point.seconds * 1000.0))⟩

/-- Reads the observations of a response. -/
def read (text : String) : Except Error Document :=
  match Value.read? text with
  | none => .error .json
  | some value => do
    let data ← dataOf value
    let observations ← data.mapM fun series => series.points.mapM (observationOf series.labels)
    .ok ⟨observations.flatten, []⟩

end MetricBench.QueryResponse
