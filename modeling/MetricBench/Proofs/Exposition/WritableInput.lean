import MetricBench.Exposition.Reader
import MetricBench.Proofs.Edit.Reload
import MetricBench.Proofs.Exposition.LineGrammar
import MetricBench.Proofs.Labels
import MetricBench.QueryResponse

/-!
# Labels that are read

The reader checks the metric name that stands before the braces of a sample line and the names of
the labels between them, but a label block may give another metric name as the value of its label,
and a query response may give any names.  Labels that a snapshot can hold come of a text whose
blocks give metric names, and of a response with names.
-/

namespace MetricBench

open Exposition (IsLabelName isMetricName)
open Number (fitsSigned)

/-- Whether labels may stand in a snapshot: they are filed under a metric name, and all of them have
names. -/
structure Labels.Writable (labels : Labels) : Prop where
  metric : isMetricName labels.filedName.toList = true
  names : labels.EachName IsLabelName

/-- Whether an observation makes a sample that may stand in a snapshot. -/
structure Observation.Writable (observation : Observation) : Prop where
  labels : observation.labels.Writable
  timed : ∀ instant ∈ observation.timestamp, fitsSigned instant = true

/-- Whether all observations of a document make such samples. -/
def Document.Writable (document : Document) : Prop :=
  ∀ observation ∈ document.observations, observation.Writable

theorem Document.writable_empty : Document.Writable .empty := fun _ h => nomatch h

theorem Document.Writable.append {first second : Document} (hfirst : first.Writable)
    (hsecond : second.Writable) : (first.append second).Writable := by
  intro observation hobservation
  rcases List.mem_append.mp hobservation with hmem | hmem
  · exact hfirst observation hmem
  · exact hsecond observation hmem

theorem isLabelName_nameLabel : IsLabelName nameLabel :=
  ⟨by decide, List.all_eq_true.mp (by decide)⟩

namespace Labels

theorem filedName_congr {labels others : Labels} (h : labels.metricName? = others.metricName?) :
    labels.filedName = others.filedName := by
  unfold filedName
  rw [h]

end Labels

namespace Exposition

open Text (isBlank)

/-! ### Label blocks -/

/-- A block holds a fault or bindings of names, whatever labels come before it. -/
theorem readLabels_bindings_or_fault (size : Nat) (text : List Char) :
    (∃ fault, ∀ labels, readLabels size text labels = .error fault) ∨
      ∃ (bindings : List (String × String)) (rest : List Char),
        (∀ binding ∈ bindings, IsLabelName binding.1) ∧
        ∀ labels, readLabels size text labels =
          .ok (bindings.foldl (fun map binding => map.insert binding.1 binding.2) labels, rest) := by
  rcases readLabels_block_or_fault size text with
    hfault | ⟨block, bindings, rest, hblock, rfl⟩
  · exact .inl hfault
  · exact .inr ⟨bindings, rest, hblock.isLabelName, readLabels_complete hblock size rest⟩

/-! ### Sample lines -/

/-- Whether the metric name that the label block of a line gives, if there is one, is a name. -/
def BlockLegible (line : List Char) : Prop :=
  ∀ block, (Text.cutBefore (fun c => c == '\x7b' || isBlank c) line).2 = '\x7b' :: block →
    ∀ size found rest, readLabels size block .empty = .ok (found, rest) →
      isMetricName found.filedName.toList = true

/-- The metric name of bound labels is the one that is bound, or else the one from before. -/
theorem filedName_foldl_insert {name : String} (bindings : List (String × String)) :
    let bound := bindings.foldl (fun map binding => map.insert binding.1 binding.2)
      (Labels.named .empty name)
    bound.metricName? = some name ∨
      bound.filedName = Labels.filedName (.ofList bindings) := by
  dsimp only
  have hfind := SortedMap.find?_foldl_insert bindings (Labels.named .empty name) nameLabel
  cases hbound : SortedMap.find? (.ofList bindings) nameLabel with
  | none =>
    rw [hbound, Option.none_or, Labels.named, SortedMap.find?_insert_self] at hfind
    exact .inl hfind
  | some found =>
    rw [hbound, Option.some_or] at hfind
    exact .inr (Labels.filedName_congr (hfind.trans hbound.symm))

/-- Labels that are read onto a metric name have that name or the name that their block gives. -/
theorem yields_readLabels {size : Nat} {block : List Char}
    (h : ∀ found rest, readLabels size block .empty = .ok (found, rest) →
      isMetricName found.filedName.toList = true)
    {name : String} (hname : isMetricName name.toList = true) :
    Yields (fun read : Labels × List Char => read.1.Writable)
      (readLabels size block (Labels.named .empty name)) := by
  rcases readLabels_bindings_or_fault size block with
    ⟨fault, hfault⟩ | ⟨bindings, rest, hnames, hread⟩
  · rw [hfault]
    exact yields_error _ _
  · rw [hread]
    have hnamed := Labels.eachName_empty.insert isLabelName_nameLabel name
    refine yields_ok ⟨?_, hnamed.foldl_insert hnames⟩
    rcases filedName_foldl_insert bindings with hbefore | hbound
    · rw [Labels.filedName_eq hbefore (Edit.ne_empty_of_isMetricName hname)]
      exact hname
    · rw [hbound]
      exact h _ rest (hread .empty)

/-- The instant of a line is a signed word. -/
theorem yields_readFields (text : List Char) :
    Yields (fun fields : Double × Option Int => ∀ instant ∈ fields.2, fitsSigned instant = true)
      (readFields text) := by
  unfold readFields
  split
  · exact yields_error _ _
  split
  · exact yields_error _ _
  split
  · exact yields_ok fun _ hinstant => nomatch hinstant
  split
  · exact yields_error _ _
  rename_i instant hinstant
  split
  · refine yields_ok fun other hother => ?_
    cases hother
    exact (Option.filter_eq_some_iff.mp hinstant).2
  · exact yields_error _ _

theorem yields_readSampleLine {line : List Char} (h : BlockLegible line) :
    Yields Observation.Writable (readSampleLine line) := by
  have hfields (labels : Labels) (hlabels : labels.Writable) (rest : List Char) :
      Yields Observation.Writable (readFields rest >>= fun fields =>
        (.ok ⟨labels, fields.1, fields.2⟩ : Except InputFault Observation)) :=
    (yields_readFields rest).bind fun fields hfields => yields_ok ⟨hlabels, hfields⟩
  unfold BlockLegible at h
  unfold readSampleLine
  dsimp only
  split_ifs with hname
  · exact yields_error _ _
  have hmetric : isMetricName (String.ofList (Text.cutBefore
      (fun c => c == '\x7b' || isBlank c) line).1).toList = true := by
    rw [String.toList_ofList]
    simpa using hname
  split
  case h_1 block hblock =>
    exact (yields_readLabels (h block hblock _) hmetric).bind fun read hread =>
      hfields read.1 hread read.2
  case h_2 =>
    refine hfields _ ⟨?_, Labels.eachName_empty.insert isLabelName_nameLabel _⟩ _
    rw [Labels.filedName_eq (SortedMap.find?_insert_self _ _ _)
      (Edit.ne_empty_of_isMetricName hmetric)]
    exact hmetric

/-! ### Documents -/

/-- Whether the label blocks of a text give metric names only.  Comments have no label blocks. -/
def LegibleText (text : String) : Prop :=
  ∀ line ∈ Text.lines text.toList,
    (Text.trimChars line).head? ≠ some '#' → BlockLegible (Text.trimChars line)

theorem yields_readLine {line : List Char}
    (h : (Text.trimChars line).head? ≠ some '#' → BlockLegible (Text.trimChars line)) :
    Yields Document.Writable (readLine line) := by
  unfold readLine
  split
  case h_1 => exact yields_ok Document.writable_empty
  case h_2 comment hcomment =>
    refine yields_ok ?_
    unfold readComment
    split
    · exact Document.writable_empty
    · exact fun _ hobservation => nomatch hobservation
  case h_3 sample hnil hcomment =>
    have hlegible := h fun hhash => by
      obtain ⟨comment, hsample⟩ := List.head?_eq_some_iff.mp hhash
      exact hcomment comment hsample
    exact (yields_readSampleLine hlegible).map fun observation hobservation other hother => by
      rw [List.mem_singleton.mp hother]
      exact hobservation

theorem yields_readLines {lines : List (List Char)}
    (h : ∀ line ∈ lines, (Text.trimChars line).head? ≠ some '#' →
      BlockLegible (Text.trimChars line)) (number : Nat) :
    Yields Document.Writable (readLines number lines) := by
  induction lines generalizing number with
  | nil => exact yields_ok Document.writable_empty
  | cons line rest ih =>
    obtain ⟨hline, hrest⟩ := List.forall_mem_cons.mp h
    unfold readLines
    split
    · exact yields_error _ _
    · exact (ih hrest (number + 1)).map fun later hlater =>
        Document.Writable.append (yields_readLine hline _ (by assumption)) hlater

/-- Documents that are read from a legible text can be written. -/
theorem yields_read {text : String} (h : LegibleText text) :
    Yields Document.Writable (read text) :=
  yields_readLines h 1

end Exposition

/-! ### Query responses -/

namespace Number

theorem fitsSigned_clampSigned (value : Int) : fitsSigned (clampSigned value) = true := by
  rw [fitsSigned_iff]
  unfold clampSigned leastSigned greatestSigned
  omega

theorem fitsSigned_roundAway (x : Double) : fitsSigned (roundAway x) = true := by
  unfold roundAway toSignedBy
  split
  · decide
  · split <;> decide
  · exact fitsSigned_clampSigned _

end Number

namespace QueryResponse

/-- Whether a response, if it can be read, has metric names and label names only. -/
def LegibleResponse (text : String) : Prop :=
  ∀ document, read text = .ok document →
    ∀ observation ∈ document.observations, observation.labels.Writable

theorem yields_observationOf (labels : Labels) (point : TextPoint) :
    Yields (fun observation : Observation => ∀ instant ∈ observation.timestamp,
      fitsSigned instant = true) (observationOf labels point) := by
  unfold observationOf
  split
  · exact yields_error _ _
  · refine yields_ok fun instant hinstant => ?_
    cases hinstant
    exact Number.fitsSigned_roundAway _

/-- The instants of a response are signed words, whatever seconds it gives. -/
theorem yields_timed (text : String) :
    Yields (fun document : Document => ∀ observation ∈ document.observations,
      ∀ instant ∈ observation.timestamp, fitsSigned instant = true) (read text) := by
  unfold read
  split
  · exact yields_error _ _
  refine yields_bind _ fun data => ?_
  have hdata := Yields.mapM data fun series =>
    Yields.mapM series.points fun point => yields_observationOf series.labels point
  refine hdata.bind fun found hfound => yields_ok fun observation hobservation => ?_
  obtain ⟨points, hpoints, hmem⟩ := List.mem_flatten.mp hobservation
  exact hfound points hpoints observation hmem

/-- Documents that are read from a legible response can be written. -/
theorem yields_read {text : String} (h : LegibleResponse text) :
    Yields Document.Writable (read text) := fun document hdocument observation hobservation =>
  ⟨h document hdocument observation hobservation,
    yields_timed text document hdocument observation hobservation⟩

end QueryResponse

end MetricBench
