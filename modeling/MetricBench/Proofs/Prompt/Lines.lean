import Mathlib
import MetricBench.Prompt.Command
import MetricBench.Proofs.Text.LaidOut

/-!
# Prompt lines by their words

A line that starts with a dot is read by its pieces, however many blanks stand between them.  Instants and
spans are words, and the query at the end of a line is taken as it stands, blanks inside it and all.
-/

namespace MetricBench.Prompt

open Text (Blanks IsTrimmed IsWord LaidOut cutBefore isBlank trimChars)

/-- Whether a line holds pieces in their order, with blanks between them and any around them. -/
def Holds (line : String) (pieces : List String) : Prop :=
  ∃ before text, Blanks before ∧ LaidOut (pieces.map String.toList) text ∧
    line = .ofList (before ++ text)

/-! ### Leading words -/

theorem leadingWords?_blanks_append {blanks : List Char} (h : Blanks blanks) (count : Nat)
    (text : List Char) : leadingWords? count (blanks ++ text) = leadingWords? count text := by
  cases count with
  | zero => rw [leadingWords?, leadingWords?, Text.trimChars_blanks_append h]
  | succ count => rw [leadingWords?, leadingWords?, Text.trimStart_blanks_append h]

/-- A word in front of a gap is the first leading word. -/
theorem leadingWords?_succ {word gap : List Char} (hword : IsWord word) (hne : gap ≠ [])
    (hgap : Blanks gap) (count : Nat) (text : List Char) :
    leadingWords? (count + 1) (word ++ (gap ++ text)) =
      (leadingWords? count text).map fun (words, rest) => (.ofList word :: words, rest) := by
  have hstart : Text.trimStart (word ++ (gap ++ text)) = word ++ (gap ++ text) := by
    apply Text.trimStart_of_head
    intro c hc
    rw [List.head?_append_of_ne_nil _ hword.1] at hc
    exact hword.isTrimmed.head c hc
  have hcut : cutBefore isBlank (word ++ (gap ++ text)) = (word, gap ++ text) := by
    apply Text.cutBefore_append_eq hword.2
    intro c hc
    rw [List.head?_append_of_ne_nil _ hne] at hc
    exact hgap c (List.mem_of_mem_head? hc)
  have hsome : word.isEmpty = false := by
    rw [List.isEmpty_eq_false_iff]
    exact hword.1
  rw [leadingWords?, hstart, hcut]
  dsimp only
  rw [hsome, if_neg Bool.false_ne_true, leadingWords?_blanks_append hgap]

/-- What is left at the end loses the blanks around it and nothing else. -/
theorem leadingWords?_zero {rest after : List Char} (hrest : IsTrimmed rest) (hafter : Blanks after) :
    leadingWords? 0 (rest ++ after) = some ([], .ofList rest) := by
  have hlaid : LaidOut [rest] (rest ++ after) := .single rest hafter
  have hpieces : ∀ piece ∈ [rest], IsTrimmed piece := List.forall_mem_singleton.mpr hrest
  rw [leadingWords?, hlaid.trimChars_eq hpieces, hrest.trimEnd_append_blanks hafter]

/-- Words in front of a text are its leading words, and the text is what is left. -/
theorem leadingWords?_laidOut {words : List String} {rest : String} {text : List Char}
    (hlaid : LaidOut ((words ++ [rest]).map String.toList) text)
    (hwords : ∀ word ∈ words, IsWord word.toList) (hrest : IsTrimmed rest.toList) :
    leadingWords? words.length text = some (words, rest) := by
  induction words generalizing text with
  | nil =>
    cases hlaid with
    | single _ hafter =>
      exact (leadingWords?_zero hrest hafter).trans (by rw [String.ofList_toList])
    | cons _ _ _ hmore => nomatch hmore
  | cons word others ih =>
    obtain ⟨hword, hothers⟩ := List.forall_mem_cons.mp hwords
    generalize hpieces : (others ++ [rest]).map String.toList = pieces at ih
    rw [List.cons_append, List.map_cons, hpieces] at hlaid
    cases hlaid with
    | single _ _ => simp at hpieces
    | cons _ hne hgap hmore =>
      rw [List.length_cons, leadingWords?_succ hword hne hgap, ih hmore hothers]
      exact congrArg some (Prod.ext (by rw [String.ofList_toList]) rfl)

/-! ### The name of a command -/

theorem read_eq_of_dot {line : String} {body : List Char} (h : trimChars line.toList = '.' :: body) :
    Command.read line =
      (Command.readNamed (.ofList (cutBefore isBlank body).1)
        (trimChars (cutBefore isBlank body).2)).map some := by
  rw [Command.read, h]
  rfl

theorem visible_of_all {text : String} (h : (text.toList.all fun c => !isBlank c) = true) :
    ∀ c ∈ text.toList, isBlank c = false := by
  intro c hc
  rw [← Bool.not_eq_true']
  exact List.all_eq_true.mp h c hc

theorem isWord_of_all {text : String} (hne : text ≠ "")
    (h : (text.toList.all fun c => !isBlank c) = true) : IsWord text.toList :=
  ⟨mt String.toList_eq_nil_iff.mp hne, visible_of_all h⟩

theorem isTrimmed_of_all {text : String} (hne : text ≠ "")
    (hhead : (text.toList.head?.all fun c => !isBlank c) = true)
    (hlast : (text.toList.getLast?.all fun c => !isBlank c) = true) : IsTrimmed text.toList where
  ne_nil := mt String.toList_eq_nil_iff.mp hne
  head c hc := by
    rw [hc] at hhead
    rwa [← Bool.not_eq_true']
  last c hc := by
    rw [hc] at hlast
    rwa [← Bool.not_eq_true']

/-- A line that starts with a dot and a name is the command of this name, read from the pieces that
follow. -/
theorem exists_read_eq {line name : String} {pieces : List String}
    (hline : Holds line (("." ++ name) :: pieces)) (hname : ∀ c ∈ name.toList, isBlank c = false)
    (hpieces : ∀ piece ∈ pieces, IsTrimmed piece.toList) :
    ∃ text, (pieces = [] ∧ text = [] ∨ LaidOut (pieces.map String.toList) text) ∧
      Command.read line = (Command.readNamed name text).map some := by
  obtain ⟨before, text, hbefore, hlaid, rfl⟩ := hline
  have hdotted : ("." ++ name).toList = '.' :: name.toList := String.toList_append
  have hfirst : IsWord ('.' :: name.toList) :=
    ⟨List.cons_ne_nil _ _, List.forall_mem_cons.mpr ⟨by decide, hname⟩⟩
  have hothers : ∀ piece ∈ pieces.map String.toList, IsTrimmed piece :=
    List.forall_mem_map.mpr hpieces
  rw [List.map_cons, hdotted] at hlaid
  have htrimmed := hlaid.trimChars (List.forall_mem_cons.mpr ⟨hfirst.isTrimmed, hothers⟩)
  obtain ⟨rest, htext, hhead, hrest⟩ := htrimmed.behind_first hothers
  refine ⟨trimChars rest, hrest.imp_left fun hnone => ⟨List.map_eq_nil_iff.mp hnone.1, hnone.2⟩, ?_⟩
  have hstart : trimChars (String.ofList (before ++ text)).toList = '.' :: (name.toList ++ rest) := by
    rw [String.toList_ofList, Text.trimChars_blanks_append hbefore, htext, List.cons_append]
  rw [read_eq_of_dot hstart, Text.cutBefore_append_eq hname hhead, String.ofList_toList]

/-! ### Queries at an instant and over a range -/

/-- The leading words of a command and what is left of it. -/
theorem exists_leadingWords {line name : String} {words : List String} {rest : String}
    (hline : Holds line (("." ++ name) :: (words ++ [rest])))
    (hname : ∀ c ∈ name.toList, isBlank c = false) (hwords : ∀ word ∈ words, IsWord word.toList)
    (hrest : IsTrimmed rest.toList) :
    ∃ text, leadingWords? words.length text = some (words, rest) ∧
      Command.read line = (Command.readNamed name text).map some := by
  have hpieces : ∀ piece ∈ words ++ [rest], IsTrimmed piece.toList :=
    List.forall_mem_append.mpr
      ⟨fun word hword => (hwords word hword).isTrimmed, List.forall_mem_singleton.mpr hrest⟩
  obtain ⟨text, hnone | hlaid, hread⟩ := exists_read_eq hline hname hpieces
  · exact absurd hnone.1 (List.concat_ne_nil _ _)
  · exact ⟨text, leadingWords?_laidOut hlaid hwords hrest, hread⟩

theorem ne_empty_of_isTrimmed {text : String} (h : IsTrimmed text.toList) : text ≠ "" := by
  rintro rfl
  exact h.ne_nil rfl

theorem withRest_eq {form query : String} (h : IsTrimmed query.toList) (make : String → Command) :
    Command.withRest form query make = .ok (make query) :=
  if_neg (ne_empty_of_isTrimmed h)

theorem read_at {line instant query : String} (hline : Holds line [".at", instant, query])
    (hinstant : IsWord instant.toList) (hquery : IsTrimmed query.toList) :
    Command.read line = .ok (some (.queryAt instant query)) := by
  have hpieces : Holds line (("." ++ "at") :: ([instant] ++ [query])) := hline
  obtain ⟨text, hleading, hread⟩ := exists_leadingWords hpieces (visible_of_all rfl)
    (List.forall_mem_singleton.mpr hinstant) hquery
  have hwords : leadingWords? 1 text = some ([instant], query) := hleading
  have hnamed : Command.readNamed "at" text = .ok (.queryAt instant query) := by
    simp only [Command.readNamed, hwords]
    exact withRest_eq hquery _
  rw [hread, hnamed]
  rfl

theorem read_range {line start stop step query : String}
    (hline : Holds line [".range", start, stop, step, query]) (hstart : IsWord start.toList)
    (hstop : IsWord stop.toList) (hstep : IsWord step.toList) (hquery : IsTrimmed query.toList) :
    Command.read line = .ok (some (.queryRange start stop step query)) := by
  have hpieces : Holds line (("." ++ "range") :: ([start, stop, step] ++ [query])) := hline
  obtain ⟨text, hleading, hread⟩ := exists_leadingWords hpieces (visible_of_all rfl)
    (List.forall_mem_cons.mpr
      ⟨hstart, List.forall_mem_cons.mpr ⟨hstop, List.forall_mem_singleton.mpr hstep⟩⟩) hquery
  have hwords : leadingWords? 3 text = some ([start, stop, step], query) := hleading
  have hnamed : Command.readNamed "range" text = .ok (.queryRange start stop step query) := by
    simp only [Command.readNamed, hwords]
    exact withRest_eq hquery _
  rw [hread, hnamed]
  rfl

end MetricBench.Prompt
