import MetricBench.Exposition.Reader
import MetricBench.Proofs.Edit.Reload
import MetricBench.Proofs.Text.Cut

/-!
# Joined texts

Exposition text is read line by line, so two texts with a newline between them read as the document
of the first and then that of the second, and the first line that cannot be read decides the error.
Loading the joined text leaves the same buckets as loading one text after the other.
-/

namespace MetricBench

/-! ### Lines -/

namespace Text

/-- A newline ends one line and starts another. -/
theorem length_lines (text : List Char) : (lines text).length = text.count '\n' + 1 := by
  induction text with
  | nil => rfl
  | cons c rest ih =>
    rw [lines]
    split_ifs with hc
    · rw [List.length_cons, ih, hc, List.count_cons_self]
    · rw [List.count_cons_of_ne hc, ← ih]
      cases hlines : lines rest with
      | nil => exact absurd hlines (lines_ne_nil rest)
      | cons line others => rfl

/-- A line without the carriage return that may stand at its end. -/
def withoutReturn (line : List Char) : List Char :=
  if line.getLast? = some '\r' then line.dropLast else line

/-- The lines of a text in which a newline ends a line, together with a carriage return before it.
Behind the last newline there is a line only if there is text. -/
def endedLines (text : List Char) : List (List Char) :=
  let pieces := lines text
  pieces.dropLast.map withoutReturn ++ pieces.getLast?.toList.filter (!·.isEmpty)

theorem trimChars_append_blank (text : List Char) {c : Char} (h : isBlank c = true) :
    trimChars (text ++ [c]) = trimChars text := by
  rw [trimChars, trimChars, trimStart, trimStart, List.dropWhile_append]
  split_ifs with hblank
  · rw [List.isEmpty_iff.mp hblank, List.dropWhile_cons_of_pos h, List.dropWhile_nil]
  · exact trimEnd_append_blank h

theorem trimChars_withoutReturn (line : List Char) :
    trimChars (withoutReturn line) = trimChars line := by
  rw [withoutReturn]
  split_ifs with hreturn
  · have hline : line.dropLast ++ ['\r'] = line :=
      List.dropLast_append_getLast? '\r' hreturn
    rw [← trimChars_append_blank line.dropLast (c := '\r') (by decide), hline]
  · rfl

end Text

/-! ### Reading -/

theorem Document.append_empty (document : Document) : document.append .empty = document := by
  rw [append, empty, List.append_nil, List.append_nil]

theorem Document.append_assoc (first second third : Document) :
    (first.append second).append third = first.append (second.append third) := by
  simp only [append, List.append_assoc]

/-- The error of a text that comes behind a number of other lines. -/
def InputError.behind (lines : Nat) (error : InputError) : InputError :=
  ⟨error.line + lines, error.fault⟩

namespace Exposition

/-- Lines are read one after the other, and the first fault decides. -/
theorem readLines_append (number : Nat) (left right : List (List Char)) :
    readLines number (left ++ right) =
      (readLines number left).bind fun first =>
        (readLines (number + left.length) right).map first.append := by
  induction left generalizing number with
  | nil =>
    change readLines number right = (readLines number right).map Document.empty.append
    cases readLines number right <;> rfl
  | cons line rest ih =>
    rw [List.cons_append, readLines, readLines]
    cases readLine line with
    | error fault => rfl
    | ok document =>
      dsimp only
      rw [ih, List.length_cons, Nat.add_assoc, Nat.add_comm 1]
      cases readLines (number + 1) rest with
      | error failure => rfl
      | ok first =>
        dsimp only [Except.map, Except.bind]
        cases readLines (number + (rest.length + 1)) right with
        | error failure => rfl
        | ok second => exact congrArg Except.ok (Document.append_assoc document first second).symm

/-- The number of the first line counts in errors only. -/
theorem readLines_add (number added : Nat) (lines : List (List Char)) :
    readLines (number + added) lines =
      (readLines number lines).mapError (InputError.behind added) := by
  induction lines generalizing number with
  | nil => rfl
  | cons line rest ih =>
    rw [readLines, readLines]
    cases readLine line with
    | error fault => rfl
    | ok document =>
      dsimp only
      rw [Nat.add_right_comm, ih]
      cases readLines (number + 1) rest <;> rfl

/-- Two texts with a newline between them. -/
def joinedText (left right : String) : String := left ++ "\n" ++ right

/-- The second of two joined texts is read behind the lines of the first. -/
theorem read_joinedText (left right : String) :
    read (joinedText left right) =
      (read left).bind fun first =>
        ((read right).mapError (InputError.behind (left.toList.count '\n' + 1))).map
          first.append := by
  have htext : (joinedText left right).toList = left.toList ++ '\n' :: right.toList := by
    simp [joinedText]
  rw [read, htext, Text.lines_append_newline, readLines_append, Text.length_lines, readLines_add]
  rfl

/-- Blank lines hold nothing, so a last one may be left out. -/
theorem readLines_concat_blank (number : Nat) (lines : List (List Char)) :
    readLines number (lines ++ [[]]) = readLines number lines := by
  rw [readLines_append]
  change (readLines number lines).bind (fun first => .ok (first.append .empty)) = _
  cases readLines number lines with
  | error failure => rfl
  | ok first => exact congrArg Except.ok (Document.append_empty first)

theorem readLine_withoutReturn (line : List Char) :
    readLine (Text.withoutReturn line) = readLine line := by
  rw [readLine, readLine, Text.trimChars_withoutReturn]

theorem readLines_map_withoutReturn (number : Nat) (lines : List (List Char)) :
    readLines number (lines.map Text.withoutReturn) = readLines number lines := by
  induction lines generalizing number with
  | nil => rfl
  | cons line rest ih => rw [List.map_cons, readLines, readLines, readLine_withoutReturn, ih]

/-- Neither carriage returns at the ends of lines nor a newline at the end of the text count. -/
theorem read_eq_endedLines (text : String) :
    read text = readLines 1 (Text.endedLines text.toList) := by
  rw [read, Text.endedLines]
  generalize hpieces : Text.lines text.toList = pieces
  have hne : pieces ≠ [] := hpieces ▸ Text.lines_ne_nil text.toList
  rw [readLines_append, readLines_map_withoutReturn, List.length_map,
    List.getLast?_eq_some_getLast hne, Option.toList_some]
  conv_lhs => rw [← List.dropLast_append_getLast hne]
  cases hlast : pieces.getLast hne with
  | nil =>
    rw [← readLines_append, List.filter_cons_of_neg (by simp), List.filter_nil, List.append_nil,
      readLines_concat_blank]
  | cons c line => rw [List.filter_cons_of_pos (by simp), List.filter_nil, readLines_append]

end Exposition

/-! ### Loading -/

namespace Store

theorem addAll_append (store : Store) (first second : List Sample) :
    store.addAll (first ++ second) = (store.addAll first).addAll second :=
  List.foldl_append

/-- Buckets do not depend on the help texts that a store has. -/
theorem buckets_addAll_congr {first second : Store} (h : first.buckets = second.buckets)
    (samples : List Sample) :
    (first.addAll samples).buckets = (second.addAll samples).buckets := by
  induction samples generalizing first second with
  | nil => exact h
  | cons sample rest ih =>
    refine ih ?_
    rw [add, add, h]

end Store

namespace Edit

open Exposition (joinedText read)

theorem acceptedSamples_append (first second : Document) (filter : Option SeriesFilter)
    (now : Int) :
    acceptedSamples (first.append second) filter now =
      acceptedSamples first filter now ++ acceptedSamples second filter now := by
  rw [acceptedSamples, Document.append, List.map_append, List.filter_append]
  rfl

/-- Two documents that are loaded one after the other leave the same buckets as both of them loaded
at once. -/
theorem buckets_load_append (store : Store) (first second : Document)
    (filter : Option SeriesFilter) (now : Int) :
    ∃ firstReport between secondReport after report joined,
      load store first filter .keep now = .ok (firstReport, between) ∧
      load between second filter .keep now = .ok (secondReport, after) ∧
      load store (first.append second) filter .keep now = .ok (report, joined) ∧
      joined.buckets = after.buckets ∧
      report.loaded = firstReport.loaded + secondReport.loaded := by
  refine ⟨_, _, _, _, _, _, load_keep_eq store first filter now, load_keep_eq _ second filter now,
    load_keep_eq store (first.append second) filter now, ?_, ?_⟩
  · rw [buckets_foldl_offerHelp, buckets_foldl_offerHelp, acceptedSamples_append,
      Store.addAll_append]
    exact Store.buckets_addAll_congr (buckets_foldl_offerHelp _ _).symm _
  · dsimp only
    rw [acceptedSamples_append, List.length_append]

/-- Two texts with a newline between them can be read when both can be, and hold what the first holds
and then what the second holds.  A fault of the first text is reported as it is, one of the second
text behind the lines of the first.  What can be read leaves the same buckets in every store, whether
it is loaded text by text or joined. -/
theorem joined_text_reads_and_loads (left right : String) :
    ((∃ document, read (joinedText left right) = .ok document) ↔
      (∃ first, read left = .ok first) ∧ ∃ second, read right = .ok second) ∧
    (∀ failure, read left = .error failure → read (joinedText left right) = .error failure) ∧
    (∀ first failure, read left = .ok first → read right = .error failure →
      read (joinedText left right) =
        .error ⟨failure.line + 1 + left.toList.count '\n', failure.fault⟩) ∧
    ∀ first second, read left = .ok first → read right = .ok second →
      ∃ document, read (joinedText left right) = .ok document ∧
        document.observations = first.observations ++ second.observations ∧
        document.help = first.help ++ second.help ∧
        ∀ (store : Store) (filter : Option SeriesFilter) (now : Int),
          ∃ firstReport between secondReport after report atOnce,
            load store first filter .keep now = .ok (firstReport, between) ∧
            load between second filter .keep now = .ok (secondReport, after) ∧
            load store document filter .keep now = .ok (report, atOnce) ∧
            atOnce.buckets = after.buckets ∧
            report.loaded = firstReport.loaded + secondReport.loaded := by
  have hjoined := Exposition.read_joinedText left right
  refine ⟨?succeeds, ?left, ?right, ?both⟩
  case succeeds =>
    rw [hjoined]
    cases read left with
    | error failure => simp [Except.bind]
    | ok first => cases read right <;> simp [Except.bind, Except.map, Except.mapError]
  case left =>
    intro failure hleft
    rw [hjoined, hleft]
    rfl
  case right =>
    intro first failure hleft hright
    rw [hjoined, hleft, hright, Nat.add_assoc, Nat.add_comm 1]
    rfl
  case both =>
    intro first second hleft hright
    refine ⟨first.append second, ?_, rfl, rfl, ?_⟩
    · rw [hjoined, hleft, hright]
      rfl
    · intro store filter now
      exact buckets_load_append store first second filter now

/-- A text whose line ends with a carriage return, a blank line, and a text whose second line has no
value. -/
theorem joined_text_second_fails :
    (∃ first, read "up 1 1000\r\n" = .ok first) ∧
      read "\nup" = .error ⟨2, .missingValue⟩ ∧
      read (joinedText "up 1 1000\r\n" "\nup") = .error ⟨4, .missingValue⟩ := by
  obtain ⟨first, hfirst⟩ : ∃ first, read "up 1 1000\r\n" = .ok first := ⟨_, rfl⟩
  have hsecond : read "\nup" = .error ⟨2, .missingValue⟩ := rfl
  obtain ⟨-, -, hright, -⟩ := joined_text_reads_and_loads "up 1 1000\r\n" "\nup"
  exact ⟨⟨first, hfirst⟩, hsecond, hright first _ hfirst hsecond⟩

end Edit

end MetricBench
