import MetricBench.Document
import MetricBench.Exposition.MetricName
import MetricBench.Number.SampleValue
import MetricBench.Text.Blank

/-!
# Sample lines

A sample line is a metric name, an optional block of labels between braces, a value and an optional
instant.  In a block any run of blanks and commas separates labels, and a later label overrides an
earlier one of the same name.
-/

namespace MetricBench.Exposition

open Text (isBlank)

/-- The character that a backslash before `c` stands for. -/
def unescapeChar (c : Char) : Char := if c = 'n' then '\n' else c

/-- Reads a quoted value after its opening quote up to its closing one. -/
def readQuoted : List Char → Option (List Char × List Char)
  | [] => none
  | '"' :: rest => some ([], rest)
  | ['\\'] => none
  | '\\' :: c :: rest =>
    (readQuoted rest).map fun (value, after) => (unescapeChar c :: value, after)
  | c :: rest => (readQuoted rest).map fun (value, after) => (c :: value, after)

theorem length_lt_of_readQuoted {text value rest : List Char}
    (h : readQuoted text = some (value, rest)) : rest.length < text.length := by
  fun_induction readQuoted text generalizing value with
  | case1 => simp at h
  | case2 after => simp_all
  | case3 => simp at h
  | case4 c after ih =>
    obtain ⟨⟨inner, final⟩, hpair, heq⟩ := Option.map_eq_some_iff.mp h
    obtain ⟨-, rfl⟩ := Prod.mk.inj heq
    have hlt := ih hpair
    simp only [List.length_cons]
    omega
  | case5 c after _ _ _ ih =>
    obtain ⟨⟨inner, final⟩, hpair, heq⟩ := Option.map_eq_some_iff.mp h
    obtain ⟨-, rfl⟩ := Prod.mk.inj heq
    have hlt := ih hpair
    simp only [List.length_cons]
    omega

/-- What separates labels in a block. -/
def isSeparator (c : Char) : Bool := c == ',' || isBlank c

/-- Reads a label after its name: an equals sign and a quoted value, with blanks around the sign. -/
def readLabelValue (name : String) (text : List Char) :
    Except InputFault { result : List Char × List Char // result.2.length < text.length } :=
  match hequals : Text.trimStart text with
  | '=' :: afterEquals =>
    match hquote : Text.trimStart afterEquals with
    | '"' :: quoted =>
      match hread : readQuoted quoted with
      | some (value, rest) => .ok ⟨(value, rest), by
          have hrest := length_lt_of_readQuoted hread
          have hquoted := (List.dropWhile_suffix isBlank (l := afterEquals)).length_le
          have hafter := (List.dropWhile_suffix isBlank (l := text)).length_le
          simp only [Text.trimStart] at hequals hquote
          simp only [hequals, hquote, List.length_cons] at hafter hquoted
          simp only
          omega⟩
      | none => .error (.unterminatedValue name)
    | _ => .error (.missingQuote name)
  | _ => .error (.missingEquals name)

/-- Reads the labels of a block after its opening brace up to its closing one, adding them to
`labels`.  `size` is the length of the whole block in bytes, so that offsets can be told. -/
def readLabels (size : Nat) (text : List Char) (labels : Labels) :
    Except InputFault (Labels × List Char) :=
  match hstart : text.dropWhile isSeparator with
  | [] => .error .unterminatedLabels
  | c :: after =>
    if c = '}' then .ok (labels, after)
    else
      let name := (c :: after).takeWhile isLabelChar
      if name.isEmpty then .error (.invalidLabelName (size - Text.byteLength (c :: after)))
      else
        match readLabelValue (.ofList name) ((c :: after).dropWhile isLabelChar) with
        | .error fault => .error fault
        | .ok ⟨(value, rest), hrest⟩ =>
          have hlength : rest.length < text.length := by
            have hdrop := (List.dropWhile_suffix isLabelChar (l := c :: after)).length_le
            have hblank := (List.dropWhile_suffix isSeparator (l := text)).length_le
            rw [hstart] at hblank
            simp only at hrest
            omega
          readLabels size rest (labels.insert (.ofList name) (.ofList value))
termination_by text.length

/-- Reads the fields after the labels: a value and at most one instant. -/
def readFields (text : List Char) : Except InputFault (Double × Option Int) :=
  match Text.words text with
  | [] => .error .missingValue
  | value :: fields =>
    match Number.parseFloat? value with
    | none => .error (.invalidValue (.ofList value))
    | some number =>
      match fields with
      | [] => .ok (number, none)
      | timestamp :: extra =>
        match Number.signed? timestamp with
        | none => .error (.invalidTimestamp (.ofList timestamp))
        | some instant =>
          match extra with
          | [] => .ok (number, some instant)
          | field :: _ => .error (.trailingField (.ofList field))

/-- Reads a sample line without blanks at its ends. -/
def readSampleLine (line : List Char) : Except InputFault Observation :=
  let (name, rest) := Text.cutBefore (fun c => c == '\x7b' || isBlank c) line
  if !isMetricName name then .error (.invalidMetricName (.ofList name))
  else do
    let labels := Labels.named .empty (.ofList name)
    let (labels, rest) ← match rest with
      | '\x7b' :: block => readLabels (Text.byteLength rest) block labels
      | rest => .ok (labels, rest)
    let (value, timestamp) ← readFields rest
    .ok ⟨labels, value, timestamp⟩

end MetricBench.Exposition
