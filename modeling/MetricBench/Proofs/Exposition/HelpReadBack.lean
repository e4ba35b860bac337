import MetricBench.Proofs.Exposition.Document
import MetricBench.Proofs.Outcome

/-!
# Help that has been read

What is read as help has a name without blanks and a text that ends in a visible character or a
newline.  Written as a comment again, it reads as the same entry, unless its text starts with a blank:
a backslash brings one there, but no backslash is written for it.
-/

namespace MetricBench.Exposition

open Text (IsWord isBlank)

/-! ### Ends of lines -/

/-- Whether a text does not end in a blank. -/
def EndsVisible (text : List Char) : Prop := ∀ c ∈ text.getLast?, isBlank c = false

theorem EndsVisible.of_append (before : List Char) {after : List Char}
    (h : EndsVisible (before ++ after)) : EndsVisible after :=
  fun c hc => h c (List.mem_getLast?_append_of_mem_getLast? hc)

theorem EndsVisible.dropWhile {text : List Char} (h : EndsVisible text) (keep : Char → Bool) :
    EndsVisible (text.dropWhile keep) := by
  rw [← List.takeWhile_append_dropWhile (p := keep) (l := text)] at h
  exact h.of_append _

/-- A trimmed line does not end in a blank. -/
theorem endsVisible_trimChars (line : List Char) : EndsVisible (Text.trimChars line) := by
  intro c hc
  rw [Text.trimChars, Text.trimEnd, List.getLast?_reverse] at hc
  have hstop := List.head?_dropWhile_not isBlank (Text.trimStart line).reverse
  rw [← Text.trimStart, Option.mem_def.mp hc] at hstop
  simpa using hstop

theorem unescapeHelp_eq_nil {text : List Char} (h : unescapeHelp text = []) : text = [] := by
  fun_cases unescapeHelp text with
  | case1 => rfl
  | case2 => cases h
  | case3 c rest => cases h
  | case4 c rest hlone hescape =>
    rw [unescapeHelp.eq_4 _ _ hlone hescape] at h
    cases h

/-- The last character of an unescaped text, whose first one is given. -/
theorem last_cons_unescapeHelp {c : Char} {rest : List Char} {shown : Char → Prop}
    (hc : rest = [] → shown c) (hrest : ∀ last ∈ (unescapeHelp rest).getLast?, shown last) :
    ∀ last ∈ (c :: unescapeHelp rest).getLast?, shown last := by
  intro last hlast
  cases hread : unescapeHelp rest with
  | nil =>
    rw [hread] at hlast
    cases hlast
    exact hc (unescapeHelp_eq_nil hread)
  | cons first others =>
    rw [hread, List.getLast?_cons_cons, ← hread] at hlast
    exact hrest last hlast

/-- An escape at the end of a text stands for a newline or for a visible character. -/
theorem last_unescapeHelp {text : List Char} (h : EndsVisible text) :
    ∀ c ∈ (unescapeHelp text).getLast?, c = '\n' ∨ isBlank c = false := by
  fun_induction unescapeHelp text with
  | case1 => exact fun _ hc => nomatch hc
  | case2 =>
    intro c hc
    cases hc
    exact .inr (by decide)
  | case3 c rest ih =>
    refine last_cons_unescapeHelp (fun hnil => ?_) (ih (EndsVisible.of_append ['\\', c] h))
    rw [unescapeChar]
    split_ifs with hn
    · exact .inl rfl
    · subst hnil
      exact .inr (h c rfl)
  | case4 c rest _ _ ih =>
    refine last_cons_unescapeHelp (fun hnil => ?_) (ih (EndsVisible.of_append [c] h))
    subst hnil
    exact .inr (h c rfl)

/-! ### Entries -/

/-- What help is like that has been read: its name is a word, and its text ends in a visible character
or a newline. -/
structure HasBeenRead (entry : String × String) : Prop where
  name : IsWord entry.1.toList
  last : ∀ c ∈ entry.2.toList.getLast?, c = '\n' ∨ isBlank c = false

theorem hasBeenRead_readComment {comment : List Char} (h : EndsVisible comment) :
    ∀ entry ∈ (readComment comment).help, HasBeenRead entry := by
  cases hmark : Text.stripStart? "HELP ".toList (Text.trimStart comment) with
  | none =>
    rw [readComment, hmark]
    exact List.forall_mem_nil _
  | some rest =>
    rw [Text.stripStart?_eq_some_iff] at hmark
    have hend : EndsVisible (helpMark ++ rest) := hmark ▸ h.dropWhile isBlank
    rcases Text.blanks_or_word rest with
      hblanks | ⟨before, name, after, hbefore, hname, hafter, rfl⟩
    · -- a line that holds blanks only behind the mark would not be trimmed
      have hlast : EndsVisible (' ' :: rest) := hend.of_append ['H', 'E', 'L', 'P']
      have hall : ∀ c ∈ ' ' :: rest, isBlank c = true :=
        List.forall_mem_cons.mpr ⟨by decide, hblanks⟩
      have hgetLast := List.getLast?_eq_some_getLast (List.cons_ne_nil ' ' rest)
      exact absurd ((hlast _ hgetLast).symm.trans (hall _ (List.getLast_mem _))) (by decide)
    · rw [readComment_eq hmark hbefore hname hafter]
      intro entry hentry
      rw [List.mem_singleton.mp hentry]
      have htext : EndsVisible (Text.trimStart after) :=
        (((hend.of_append _).of_append _).of_append _).dropWhile isBlank
      constructor
      · rwa [String.toList_ofList]
      · rw [String.toList_ofList]
        exact last_unescapeHelp htext

/-- Whatever document is read, its help has names without blanks and texts without blanks at their
ends. -/
theorem yields_hasBeenRead_readLine (line : List Char) :
    Yields (fun document => ∀ entry ∈ document.help, HasBeenRead entry) (readLine line) := by
  have hend := endsVisible_trimChars line
  unfold readLine
  split
  case h_1 => exact yields_ok (List.forall_mem_nil _)
  case h_2 comment hcomment =>
    rw [hcomment] at hend
    exact yields_ok (hasBeenRead_readComment (hend.of_append ['#']))
  case h_3 sample _ _ =>
    exact (yields_self _).map fun _ _ => List.forall_mem_nil _

theorem yields_hasBeenRead_readLines (number : Nat) (lines : List (List Char)) :
    Yields (fun document => ∀ entry ∈ document.help, HasBeenRead entry)
      (readLines number lines) := by
  induction lines generalizing number with
  | nil => exact yields_ok (List.forall_mem_nil _)
  | cons line rest ih =>
    unfold readLines
    split
    case h_1 => exact yields_error _ _
    case h_2 document hline =>
      exact (ih (number + 1)).map fun later hlater => List.forall_mem_append.mpr
        ⟨yields_hasBeenRead_readLine line document hline, hlater⟩

/-! ### Written and read again -/

/-- Help that has been read from a document and is written as a comment reads as one entry with the
same name and the help text without the blanks at its start, and nothing else.  So it reads as the same
entry exactly when its text does not start with a blank other than a newline. -/
theorem help_reads_back {text : String} {document : Document} (hread : read text = .ok document)
    {name help : String} (hentry : (name, help) ∈ document.help) :
    read (familyText name (some help) []) = .ok ⟨[], [(name, withoutLeadingBlanks help)]⟩ ∧
      (withoutLeadingBlanks help = help ↔
        ∀ c ∈ help.toList.head?, c = '\n' ∨ isBlank c = false) := by
  refine ⟨?_, withoutLeadingBlanks_eq_self_iff⟩
  obtain ⟨hname, hlast⟩ :=
    yields_hasBeenRead_readLines 1 (Text.lines text.toList) document hread _ hentry
  have htext : familyText name (some help) [] = .ofList (entriesText [.help name help]) := by
    rw [← String.toList_inj, toList_familyText, String.toList_ofList]
    rfl
  have hlines : ∀ entry ∈ [Entry.help name help], '\n' ∉ entry.text :=
    List.forall_mem_singleton.mpr (newline_not_mem_helpText hname help)
  have hline : readLine (Entry.help name help).text =
      .ok ⟨[], [(name, withoutLeadingBlanks help)]⟩ := readLine_helpText_eq hname hlast
  rw [htext, read_entriesText_eq hlines, List.map_singleton, List.singleton_append, readLines,
    hline]
  rfl

/-- A help text with escapes in it, and one that starts with a newline. -/
theorem escaped_help_reads_back :
    let text := "# HELP up \\path \\\\ and\\nlines \n#HELP  down\t\\nlast\\n"
    read text = .ok ⟨[], [("up", "path \\ and\nlines"), ("down", "\nlast\n")]⟩ ∧
      read (familyText "up" (some "path \\ and\nlines") []) =
        .ok ⟨[], [("up", "path \\ and\nlines")]⟩ ∧
      read (familyText "down" (some "\nlast\n") []) = .ok ⟨[], [("down", "\nlast\n")]⟩ := by
  intro text
  have hread : read text =
      .ok ⟨[], [("up", "path \\ and\nlines"), ("down", "\nlast\n")]⟩ := by cbv
  obtain ⟨hup, hkept⟩ := help_reads_back hread (List.mem_cons_self)
  obtain ⟨hdown, hkeptDown⟩ := help_reads_back hread (.tail _ (List.mem_cons_self))
  rw [hkept.mpr (by rintro c ⟨rfl⟩; decide)] at hup
  rw [hkeptDown.mpr (by rintro c ⟨rfl⟩; decide)] at hdown
  exact ⟨hread, hup, hdown⟩

/-- A backslash brings a blank to the start of a help text, which is lost when the text is written. -/
theorem leading_blank_lost :
    read "# HELP up \\ total" = .ok ⟨[], [("up", " total")]⟩ ∧
      read (familyText "up" (some " total") []) = .ok ⟨[], [("up", "total")]⟩ := by
  constructor <;> rfl

end MetricBench.Exposition
