import Mathlib
import MetricBench.Text.Blank

/-!
# Putting texts together and cutting them again

Lines that hold no newline are found again in the text that they make, words in a text with blanks
between them, and a text without blanks at its ends is not changed by trimming.
-/

namespace MetricBench.Text

/-! ### Lines -/

theorem lines_of_not_mem {line : List Char} (h : '\n' ∉ line) : lines line = [line] := by
  induction line with
  | nil => rfl
  | cons c rest ih =>
    have hc : c ≠ '\n' := fun heq => h (heq ▸ List.mem_cons_self)
    have hrest : '\n' ∉ rest := fun hmem => h (List.mem_cons_of_mem c hmem)
    rw [lines, if_neg hc, ih hrest]

/-- Lines are found again in the text that ends each of them with a newline. -/
theorem lines_flatMap_newline {pieces : List (List Char)} (h : ∀ line ∈ pieces, '\n' ∉ line) :
    lines (pieces.flatMap fun line => line ++ ['\n']) = pieces ++ [[]] := by
  induction pieces with
  | nil => rfl
  | cons line rest ih =>
    have hrest := ih fun other hother => h other (List.mem_cons_of_mem line hother)
    rw [List.flatMap_cons, List.append_assoc, List.singleton_append, lines_append_newline,
      lines_of_not_mem (h line List.mem_cons_self), hrest]
    rfl

/-! ### Trimming -/

theorem trimStart_of_head {text : List Char} (h : ∀ c ∈ text.head?, isBlank c = false) :
    trimStart text = text := by
  cases text with
  | nil => rfl
  | cons c rest =>
    have hc : isBlank c = false := h c rfl
    rw [trimStart, List.dropWhile_cons, hc]
    rfl

theorem trimEnd_of_getLast {text : List Char} (h : ∀ c ∈ text.getLast?, isBlank c = false) :
    trimEnd text = text := by
  rw [trimEnd, trimStart_of_head, List.reverse_reverse]
  intro c hc
  rw [List.head?_reverse] at hc
  exact h c hc

/-- A text without blanks at its ends stays as it is. -/
theorem trimChars_eq {text : List Char} (hhead : ∀ c ∈ text.head?, isBlank c = false)
    (hlast : ∀ c ∈ text.getLast?, isBlank c = false) : trimChars text = text := by
  rw [trimChars, trimStart_of_head hhead, trimEnd_of_getLast hlast]

theorem trimEnd_append_blank {text : List Char} {c : Char} (h : isBlank c = true) :
    trimEnd (text ++ [c]) = trimEnd text := by
  rw [trimEnd, List.reverse_append, trimEnd, trimStart, trimStart]
  change (List.dropWhile isBlank (c :: text.reverse)).reverse = _
  rw [List.dropWhile_cons_of_pos h]

theorem trimEnd_cons {c : Char} (h : isBlank c = false) (rest : List Char) :
    trimEnd (c :: rest) = c :: trimEnd rest := by
  have hkept : (rest.reverse ++ [c]).dropWhile isBlank = rest.reverse.dropWhile isBlank ++ [c] := by
    rw [List.dropWhile_append]
    split_ifs with hempty
    · rw [List.isEmpty_iff.mp hempty, List.dropWhile_cons_of_neg (by simp [h])]
      rfl
    · rfl
  rw [trimEnd, trimEnd, trimStart, trimStart, List.reverse_cons, hkept, List.reverse_append]
  rfl

/-! ### Words -/

/-- What is left of a text after a run of characters comes behind such a run. -/
theorem dropWhile_eq_cons_iff {keep : Char → Bool} {text : List Char} {c : Char}
    {rest : List Char} :
    text.dropWhile keep = c :: rest ↔
      ∃ run, (∀ other ∈ run, keep other = true) ∧ keep c = false ∧ text = run ++ c :: rest := by
  constructor
  · intro h
    refine ⟨text.takeWhile keep, fun other hother => List.mem_takeWhile_imp hother, ?_, ?_⟩
    · have hstop := List.head?_dropWhile_not keep text
      rwa [h] at hstop
    · rw [← h, List.takeWhile_append_dropWhile]
  · rintro ⟨run, hrun, hc, rfl⟩
    rw [List.dropWhile_append_of_pos hrun, List.dropWhile_cons_of_neg (by simp [hc])]

theorem words_cons_blank {c : Char} (h : isBlank c = true) (rest : List Char) :
    words (c :: rest) = words rest := by
  rw [words.eq_def]
  simp only [h, if_true]

/-- A run without blanks is the first word of a text that goes on with a blank or ends. -/
theorem words_append {word rest : List Char} (hne : word ≠ [])
    (hword : ∀ c ∈ word, isBlank c = false) (hrest : ∀ c ∈ rest.head?, isBlank c = true) :
    words (word ++ rest) = word :: words rest := by
  induction word with
  | nil => exact absurd rfl hne
  | cons c others ih =>
    have hc : isBlank c = false := hword c List.mem_cons_self
    cases others with
    | nil =>
      cases rest with
      | nil => simp [words, hc]
      | cons next after =>
        have hnext : isBlank next = true := hrest next rfl
        rw [List.singleton_append, words.eq_def]
        simp [hc, hnext]
    | cons next after =>
      have hnext : isBlank next = false := hword next (by simp)
      have hrec := ih (List.cons_ne_nil next after) fun other hother =>
        hword other (List.mem_cons_of_mem c hother)
      rw [List.cons_append, List.cons_append, words.eq_def]
      rw [List.cons_append] at hrec
      simp [hc, hnext, hrec]

/-- Whether a text holds blanks only. -/
def Blanks (text : List Char) : Prop := ∀ c ∈ text, isBlank c = true

/-- Whether a text is a word: it holds characters, and none of them is a blank. -/
def IsWord (text : List Char) : Prop := text ≠ [] ∧ ∀ c ∈ text, isBlank c = false

theorem words_blanks_append {blanks : List Char} (h : Blanks blanks) (text : List Char) :
    words (blanks ++ text) = words text := by
  induction blanks with
  | nil => rfl
  | cons c rest ih =>
    obtain ⟨hc, hrest⟩ := List.forall_mem_cons.mp h
    rw [List.cons_append, words_cons_blank hc, ih hrest]

theorem words_of_blanks {text : List Char} (h : Blanks text) : words text = [] := by
  have hwords := words_blanks_append h []
  rwa [List.append_nil] at hwords

/-- A text holds blanks only, or it starts with blanks and its first word. -/
theorem blanks_or_word (text : List Char) :
    Blanks text ∨ ∃ before word rest, Blanks before ∧ IsWord word ∧
      (∀ c ∈ rest.head?, isBlank c = true) ∧ text = before ++ (word ++ rest) := by
  cases htext : text.dropWhile isBlank with
  | nil => exact .inl (List.dropWhile_eq_nil_iff.mp htext)
  | cons c after =>
    obtain ⟨before, hbefore, hc, rfl⟩ := dropWhile_eq_cons_iff.mp htext
    let keep (c : Char) : Bool := !isBlank c
    have hkeep : keep c = true := by simp [keep, hc]
    refine .inr ⟨before, (c :: after).takeWhile keep, (c :: after).dropWhile keep, hbefore,
      ⟨?_, fun other hother => ?_⟩, fun other hother => ?_, ?_⟩
    · rw [List.takeWhile_cons_of_pos hkeep]
      exact List.cons_ne_nil _ _
    · simpa [keep] using List.mem_takeWhile_imp hother
    · cases hrest : (c :: after).dropWhile keep with
      | nil =>
        rw [hrest] at hother
        cases hother
      | cons first more =>
        obtain ⟨-, -, hfirst, -⟩ := dropWhile_eq_cons_iff.mp hrest
        rw [hrest] at hother
        cases hother
        simpa [keep] using hfirst
    · rw [List.takeWhile_append_dropWhile]

theorem words_eq_nil_iff {text : List Char} : words text = [] ↔ Blanks text := by
  refine ⟨fun h => ?_, words_of_blanks⟩
  rcases blanks_or_word text with hblanks | ⟨before, word, rest, hbefore, hword, hrest, rfl⟩
  · exact hblanks
  · rw [words_blanks_append hbefore, words_append hword.1 hword.2 hrest] at h
    cases h

/-- What a text with words starts with. -/
theorem words_eq_cons_iff {text word : List Char} {others : List (List Char)} :
    words text = word :: others ↔
      ∃ before rest, Blanks before ∧ IsWord word ∧ (∀ c ∈ rest.head?, isBlank c = true) ∧
        text = before ++ (word ++ rest) ∧ words rest = others := by
  constructor
  · intro h
    rcases blanks_or_word text with hblanks | ⟨before, first, rest, hbefore, hfirst, hrest, rfl⟩
    · rw [words_of_blanks hblanks] at h
      cases h
    · rw [words_blanks_append hbefore, words_append hfirst.1 hfirst.2 hrest, List.cons.injEq] at h
      obtain ⟨rfl, hothers⟩ := h
      exact ⟨before, rest, hbefore, hfirst, hrest, rfl, hothers⟩
  · rintro ⟨before, rest, hbefore, hword, hrest, rfl, rfl⟩
    rw [words_blanks_append hbefore, words_append hword.1 hword.2 hrest]

theorem words_eq_singleton_iff {text word : List Char} :
    words text = [word] ↔
      ∃ before after, Blanks before ∧ IsWord word ∧ Blanks after ∧
        text = before ++ (word ++ after) := by
  simp only [words_eq_cons_iff, words_eq_nil_iff]
  constructor
  · rintro ⟨before, after, hbefore, hword, -, rfl, hafter⟩
    exact ⟨before, after, hbefore, hword, hafter, rfl⟩
  · rintro ⟨before, after, hbefore, hword, hafter, rfl⟩
    have hhead : ∀ c ∈ after.head?, isBlank c = true := fun c hc =>
      hafter c (List.mem_of_mem_head? hc)
    exact ⟨before, after, hbefore, hword, hhead, rfl, hafter⟩

/-- Between two words of a text stands at least one blank. -/
theorem words_eq_pair_iff {text first second : List Char} :
    words text = [first, second] ↔
      ∃ before between after, Blanks before ∧ IsWord first ∧ between ≠ [] ∧ Blanks between ∧
        IsWord second ∧ Blanks after ∧
        text = before ++ (first ++ (between ++ (second ++ after))) := by
  rw [words_eq_cons_iff]
  constructor
  · rintro ⟨before, rest, hbefore, hfirst, hhead, rfl, hrest⟩
    obtain ⟨between, after, hbetween, hsecond, hafter, rfl⟩ := words_eq_singleton_iff.mp hrest
    refine ⟨before, between, after, hbefore, hfirst, fun hnone => ?_, hbetween, hsecond, hafter,
      rfl⟩
    obtain ⟨c, others, rfl⟩ := List.exists_cons_of_ne_nil hsecond.1
    rw [hnone] at hhead
    exact absurd ((hhead c rfl).symm.trans (hsecond.2 c List.mem_cons_self)) (by decide)
  · rintro ⟨before, between, after, hbefore, hfirst, hne, hbetween, hsecond, hafter, rfl⟩
    obtain ⟨c, others, rfl⟩ := List.exists_cons_of_ne_nil hne
    refine ⟨before, _, hbefore, hfirst, fun other hother => ?_, rfl,
      words_eq_singleton_iff.mpr ⟨_, after, hbetween, hsecond, hafter, rfl⟩⟩
    cases hother
    exact hbetween c List.mem_cons_self

/-! ### Cuts -/

/-- A run of characters ends where the first character comes that is not kept. -/
theorem span_append_eq {keep : Char → Bool} {run rest : List Char}
    (hrun : ∀ c ∈ run, keep c = true) (hrest : ∀ c ∈ rest.head?, keep c = false) :
    (run ++ rest).takeWhile keep = run ∧ (run ++ rest).dropWhile keep = rest := by
  rw [List.takeWhile_append_of_pos hrun, List.dropWhile_append_of_pos hrun]
  cases rest with
  | nil => exact ⟨List.append_nil run, rfl⟩
  | cons c after =>
    have hc : ¬ keep c = true := by simp [hrest c rfl]
    rw [List.takeWhile_cons_of_neg hc, List.dropWhile_cons_of_neg hc, List.append_nil]
    exact ⟨rfl, rfl⟩

/-- A text is cut where the first character comes that `stop` holds of. -/
theorem cutBefore_append_eq {stop : Char → Bool} {before rest : List Char}
    (hbefore : ∀ c ∈ before, stop c = false) (hrest : ∀ c ∈ rest.head?, stop c = true) :
    cutBefore stop (before ++ rest) = (before, rest) := by
  have hspan : (before ++ rest).takeWhile (fun c => !stop c) = before ∧
      (before ++ rest).dropWhile (fun c => !stop c) = rest :=
    span_append_eq (fun c hc => by rw [hbefore c hc]; rfl) (fun c hc => by rw [hrest c hc]; rfl)
  exact Prod.ext hspan.1 hspan.2

/-- What a cut gives: the parts of the text around the first character that `stop` holds of. -/
theorem cutBefore_eq_iff {stop : Char → Bool} {text before rest : List Char} :
    cutBefore stop text = (before, rest) ↔
      text = before ++ rest ∧ (∀ c ∈ before, stop c = false) ∧
        ∀ c ∈ rest.head?, stop c = true := by
  constructor
  · intro h
    obtain ⟨rfl, rfl⟩ := Prod.mk.inj h
    refine ⟨(cutBefore_append stop text).symm, fun c hc => ?_, fun c hc => ?_⟩
    · simpa using List.mem_takeWhile_imp hc
    · have hstop := List.head?_dropWhile_not (fun c => !stop c) text
      rw [Option.mem_def.mp hc] at hstop
      simpa using hstop
  · rintro ⟨rfl, hbefore, hrest⟩
    exact cutBefore_append_eq hbefore hrest

/-- A text is cut at the first place where the character stands. -/
theorem cutAt?_eq_some_iff {c : Char} {text before after : List Char} :
    cutAt? (· == c) text = some (before, after) ↔ text = before ++ c :: after ∧ c ∉ before := by
  constructor
  · intro h
    obtain ⟨start, rest, hcut⟩ : ∃ start rest, cutBefore (· == c) text = (start, rest) := ⟨_, _, rfl⟩
    obtain ⟨rfl, hstart, hrest⟩ := cutBefore_eq_iff.mp hcut
    rw [cutAt?, hcut] at h
    cases rest with
    | nil => cases h
    | cons first others =>
      cases h
      have hfirst : first = c := beq_iff_eq.mp (hrest first rfl)
      refine ⟨by rw [hfirst], fun hmem => ?_⟩
      exact absurd (hstart c hmem) (by simp)
  · rintro ⟨rfl, hbefore⟩
    have hcut : cutBefore (· == c) (before ++ c :: after) = (before, c :: after) := by
      apply cutBefore_append_eq
      · intro other hother
        rw [beq_eq_false_iff_ne]
        rintro rfl
        exact hbefore hother
      · rintro other ⟨⟩
        exact beq_self_eq_true c
    rw [cutAt?, hcut]

end MetricBench.Text
