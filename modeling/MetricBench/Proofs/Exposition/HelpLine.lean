import MetricBench.Exposition.Reader
import MetricBench.Exposition.Writer
import MetricBench.Proofs.Text.Cut

/-!
# Help comments read back

A help comment reads as the help text that it was written from, when the text neither begins nor
ends with a blank.  Newlines do not count here, for they are written as escapes.  Blanks at the start
of a help text are lost, since any number of them may separate it from the name.
-/

namespace MetricBench.Exposition

open Text (Blanks IsWord isBlank)

/-- Whether a help text keeps its ends: neither of them is a blank other than a newline. -/
structure KeepsEnds (help : String) : Prop where
  head : ∀ c ∈ help.toList.head?, c = '\n' ∨ isBlank c = false
  last : ∀ c ∈ help.toList.getLast?, c = '\n' ∨ isBlank c = false

/-! ### Escapes -/

/-- An escaped character is read as the character. -/
theorem unescapeHelp_escapeHelpChar (c : Char) (text : List Char) :
    unescapeHelp (escapeHelpChar c ++ text) = c :: unescapeHelp text := by
  by_cases hbackslash : c = '\\'
  · subst hbackslash
    rfl
  by_cases hnewline : c = '\n'
  · subst hnewline
    rfl
  · have hplain : escapeHelpChar c = [c] := by
      rw [escapeHelpChar]
      · exact hbackslash
      · exact hnewline
    rw [hplain, List.singleton_append, unescapeHelp]
    · exact fun heq _ => hbackslash heq
    · exact fun _ _ heq _ => hbackslash heq

theorem unescapeHelp_escape (text : List Char) :
    unescapeHelp (text.flatMap escapeHelpChar) = text := by
  induction text with
  | nil => rfl
  | cons c rest ih => rw [List.flatMap_cons, unescapeHelp_escapeHelpChar, ih]

/-- What is written for a newline or for no blank holds no blank. -/
theorem isBlank_of_mem_escapeHelpChar {c : Char} (h : c = '\n' ∨ isBlank c = false) :
    ∀ written ∈ escapeHelpChar c, isBlank written = false := by
  rw [escapeHelpChar.eq_def]
  split
  case h_1 => exact List.forall_mem_cons.mpr ⟨rfl, List.forall_mem_singleton.mpr rfl⟩
  case h_2 => exact List.forall_mem_cons.mpr ⟨rfl, List.forall_mem_singleton.mpr rfl⟩
  case h_3 _ hnewline =>
    intro written hwritten
    rw [List.mem_singleton.mp hwritten]
    exact h.resolve_left hnewline

theorem escapeHelpChar_ne_nil (c : Char) : escapeHelpChar c ≠ [] := by
  rw [escapeHelpChar.eq_def]
  split
  case h_1 => exact List.cons_ne_nil _ _
  case h_2 => exact List.cons_ne_nil _ _
  case h_3 => exact List.cons_ne_nil _ _

theorem head_escapeHelp {text : List Char} (h : ∀ c ∈ text.head?, c = '\n' ∨ isBlank c = false) :
    ∀ c ∈ (text.flatMap escapeHelpChar).head?, isBlank c = false := by
  cases text with
  | nil =>
    intro c hc
    cases hc
  | cons first others =>
    intro c hc
    rw [List.flatMap_cons, List.head?_append_of_ne_nil _ (escapeHelpChar_ne_nil first)] at hc
    exact isBlank_of_mem_escapeHelpChar (h first rfl) c (List.mem_of_head? hc)

theorem last_escapeHelp {text : List Char}
    (h : ∀ c ∈ text.getLast?, c = '\n' ∨ isBlank c = false) :
    ∀ c ∈ (text.flatMap escapeHelpChar).getLast?, isBlank c = false := by
  rcases List.eq_nil_or_concat text with rfl | ⟨others, last, rfl⟩
  · intro c hc
    cases hc
  · intro c hc
    rw [List.concat_eq_append] at h hc
    rw [List.flatMap_append, List.flatMap_singleton,
      List.getLast?_append_of_ne_nil _ (escapeHelpChar_ne_nil last)] at hc
    exact isBlank_of_mem_escapeHelpChar (h last List.getLast?_concat) c (List.mem_of_getLast? hc)

/-- Whether a character is lost at the start of a help text: it is a blank, and no newline. -/
def isLostBlank (c : Char) : Bool := isBlank c && c != '\n'

theorem isLostBlank_eq_false_iff {c : Char} :
    isLostBlank c = false ↔ c = '\n' ∨ isBlank c = false := by
  rw [isLostBlank, Bool.and_eq_false_iff, bne_eq_false_iff_eq, or_comm]

/-- A help text from its first character that is not lost. -/
def withoutLeadingBlanks (help : String) : String := .ofList (help.toList.dropWhile isLostBlank)

theorem withoutLeadingBlanks_eq_self_iff {help : String} :
    withoutLeadingBlanks help = help ↔
      ∀ c ∈ help.toList.head?, c = '\n' ∨ isBlank c = false := by
  have hlist : withoutLeadingBlanks help = help ↔
      help.toList.dropWhile isLostBlank = help.toList := by
    rw [← String.toList_inj, withoutLeadingBlanks, String.toList_ofList]
  rw [hlist, List.dropWhile_eq_self_iff]
  simp only [← isLostBlank_eq_false_iff]
  cases help.toList with
  | nil => simp
  | cons c rest => simp

/-- The blanks that are lost are written as they are, so they are what trimming takes away. -/
theorem trimStart_escapeHelp (text : List Char) :
    Text.trimStart (text.flatMap escapeHelpChar) =
      (text.dropWhile isLostBlank).flatMap escapeHelpChar := by
  induction text with
  | nil => rfl
  | cons c rest ih =>
    by_cases hlost : isLostBlank c = true
    · obtain ⟨hblank, hnewline⟩ := Bool.and_eq_true_iff.mp hlost
      have hplain : escapeHelpChar c = [c] := by
        rw [escapeHelpChar]
        · rintro rfl
          exact absurd hblank (by decide)
        · rintro rfl
          exact absurd hnewline (by decide)
      rw [List.flatMap_cons, hplain, List.singleton_append, Text.trimStart,
        List.dropWhile_cons_of_pos hblank, ← Text.trimStart, ih, List.dropWhile_cons_of_pos hlost]
    · rw [List.dropWhile_cons_of_neg hlost]
      refine Text.trimStart_of_head (head_escapeHelp fun other hother => ?_)
      cases hother
      exact isLostBlank_eq_false_iff.mp (Bool.eq_false_iff.mpr hlost)

theorem newline_not_mem_escapeHelp (text : List Char) :
    '\n' ∉ text.flatMap escapeHelpChar := by
  intro hmem
  obtain ⟨c, -, hc⟩ := List.mem_flatMap.mp hmem
  rw [escapeHelpChar.eq_def] at hc
  split at hc
  case h_1 => exact absurd hc (by decide)
  case h_2 => exact absurd hc (by decide)
  case h_3 hnewline => exact hnewline (List.mem_singleton.mp hc).symm

/-! ### Comments -/

/-- What tells a help comment from others. -/
def helpMark : List Char := ['H', 'E', 'L', 'P', ' ']

/-- The help comment of a metric without its newline. -/
def helpText (name help : String) : List Char :=
  '#' :: ' ' :: (helpMark ++ (name.toList ++ ' ' :: help.toList.flatMap escapeHelpChar))

theorem toList_helpLine (name help : String) :
    (helpLine name help).toList = helpText name help ++ ['\n'] := by
  simp [helpLine, helpText, helpMark]

theorem newline_not_mem_helpText {name : String} (h : IsWord name.toList) (help : String) :
    '\n' ∉ helpText name help := by
  have hmark : '\n' ∉ '#' :: ' ' :: helpMark := by decide
  have htext : helpText name help =
      ('#' :: ' ' :: helpMark) ++ (name.toList ++ ' ' :: help.toList.flatMap escapeHelpChar) := rfl
  rw [htext]
  intro hmem
  rcases List.mem_append.mp hmem with hin | hrest
  · exact hmark hin
  · rcases List.mem_append.mp hrest with hname | htext
    · exact absurd (h.2 _ hname) (by decide)
    · rcases List.mem_cons.mp htext with hblank | hescaped
      · exact absurd hblank (by decide)
      · exact newline_not_mem_escapeHelp _ hescaped

/-- A comment with the mark, a name and a text behind it is read as the help of the name.  The blanks
around the name are skipped, however many there are. -/
theorem readComment_eq {comment before name after : List Char}
    (hmark : Text.trimStart comment = helpMark ++ (before ++ (name ++ after)))
    (hbefore : Blanks before) (hname : IsWord name) (hafter : ∀ c ∈ after.head?, isBlank c = true) :
    readComment comment =
      ⟨[], [(.ofList name, .ofList (unescapeHelp (Text.trimStart after)))]⟩ := by
  have hstrip : Text.stripStart? "HELP ".toList (Text.trimStart comment) =
      some (before ++ (name ++ after)) := Text.stripStart?_eq_some_iff.mpr hmark
  have hstart : Text.trimStart (before ++ (name ++ after)) = name ++ after := by
    rw [Text.trimStart, List.dropWhile_append_of_pos hbefore]
    refine Text.trimStart_of_head fun c hc => ?_
    rw [List.head?_append_of_ne_nil _ hname.1] at hc
    exact hname.2 c (List.mem_of_head? hc)
  rw [readComment, hstrip]
  dsimp only
  rw [hstart, Text.cutAt?, Text.cutBefore_append_eq hname.2 hafter]
  cases after with
  | nil =>
    rw [List.append_nil]
    rfl
  | cons c text =>
    have htext : Text.trimStart (c :: text) = Text.trimStart text :=
      List.dropWhile_cons_of_pos (hafter c rfl)
    rw [htext]
    rfl

/-- The help comment of a name is read as the help text without the blanks at its start. -/
theorem readLine_helpText_eq {name help : String} (hname : IsWord name.toList)
    (hlast : ∀ c ∈ help.toList.getLast?, c = '\n' ∨ isBlank c = false) :
    readLine (helpText name help) = .ok ⟨[], [(name, withoutLeadingBlanks help)]⟩ := by
  have hstart : ∀ {rest : List Char}, ∀ c ∈ ('#' :: rest).head?, isBlank c = false := by
    intro rest c hc
    cases hc
    decide
  by_cases hempty : help.toList = []
  · -- the blank behind the name is lost, and the name stands alone
    have hhelp : help = "" := String.toList_eq_nil_iff.mp hempty
    subst hhelp
    have htext : helpText name "" = ('#' :: ' ' :: (helpMark ++ name.toList)) ++ [' '] := by
      simp [helpText]
    have hlast : ∀ c ∈ ('#' :: ' ' :: (helpMark ++ name.toList)).getLast?, isBlank c = false := by
      intro c hc
      rw [← List.cons_append, ← List.cons_append, List.getLast?_append_of_ne_nil _ hname.1] at hc
      exact hname.2 c (List.mem_of_getLast? hc)
    have htrim : Text.trimChars (helpText name "") = '#' :: ' ' :: (helpMark ++ name.toList) := by
      rw [Text.trimChars, htext, List.cons_append, Text.trimStart_of_head hstart,
        ← List.cons_append, Text.trimEnd_append_blank (by decide), Text.trimEnd_of_getLast hlast]
    rw [readLine, htrim]
    change Except.ok (readComment (' ' :: (helpMark ++ name.toList))) = _
    have hmark : Text.trimStart (' ' :: (helpMark ++ name.toList)) =
        helpMark ++ ([] ++ (name.toList ++ [])) := by
      rw [List.append_nil]
      rfl
    have hnone : ∀ c ∈ ([] : List Char).head?, isBlank c = true := by
      rintro c ⟨⟩
    rw [readComment_eq hmark (List.forall_mem_nil _) hname hnone, String.ofList_toList]
    rfl
  · have hescaped : help.toList.flatMap escapeHelpChar ≠ [] := by
      intro hnil
      obtain ⟨c, hc⟩ := List.exists_mem_of_ne_nil _ hempty
      exact escapeHelpChar_ne_nil c (List.flatMap_eq_nil_iff.mp hnil c hc)
    have htext : helpText name help =
        ('#' :: ' ' :: (helpMark ++ (name.toList ++ [' ']))) ++
          help.toList.flatMap escapeHelpChar := by
      simp [helpText]
    have htrim : Text.trimChars (helpText name help) = helpText name help := by
      apply Text.trimChars_eq hstart
      intro c hc
      change c ∈ (helpText name help).getLast? at hc
      rw [htext, List.getLast?_append_of_ne_nil _ hescaped] at hc
      exact last_escapeHelp hlast c hc
    rw [readLine, htrim]
    have hmark : Text.trimStart (' ' :: (helpMark ++ (name.toList ++ ' ' ::
        help.toList.flatMap escapeHelpChar))) =
          helpMark ++ ([] ++ (name.toList ++ ' ' :: help.toList.flatMap escapeHelpChar)) := rfl
    change Except.ok (readComment (' ' :: (helpMark ++ (name.toList ++ ' ' ::
      help.toList.flatMap escapeHelpChar)))) = _
    rw [readComment_eq hmark (List.forall_mem_nil _) hname (by rintro c ⟨rfl⟩; decide),
      Text.trimStart, List.dropWhile_cons_of_pos (by decide), ← Text.trimStart,
      trimStart_escapeHelp, unescapeHelp_escape, String.ofList_toList]
    rfl

/-- The help comment of a metric is read as its help text. -/
theorem readLine_helpText {name help : String} (hname : IsWord name.toList)
    (hhelp : KeepsEnds help) : readLine (helpText name help) = .ok ⟨[], [(name, help)]⟩ := by
  rw [readLine_helpText_eq hname hhelp.last, withoutLeadingBlanks_eq_self_iff.mpr hhelp.head]

end MetricBench.Exposition
