import Mathlib
import MetricBench.Proofs.Text.Cut

/-!
# Texts laid out with blanks

A text is laid out from pieces by putting blanks between them, at least one each time, and any behind the
last one.  Trimming only takes blanks off the ends, so it keeps the pieces; and when the pieces are words,
they are the words of the text.
-/

namespace MetricBench.Text

/-! ### Trimming -/

/-- Whether a text holds characters and has no blank at either end. -/
structure IsTrimmed (text : List Char) : Prop where
  ne_nil : text ≠ []
  head : ∀ c ∈ text.head?, isBlank c = false
  last : ∀ c ∈ text.getLast?, isBlank c = false

theorem IsWord.isTrimmed {word : List Char} (h : IsWord word) : IsTrimmed word where
  ne_nil := h.1
  head c hc := h.2 c (List.mem_of_mem_head? hc)
  last c hc := h.2 c (List.mem_of_mem_getLast? hc)

theorem blanks_replicate (count : Nat) : Blanks (List.replicate count ' ') := by
  intro c hc
  rw [List.eq_of_mem_replicate hc]
  rfl

theorem trimStart_blanks_append {blanks : List Char} (h : Blanks blanks) (text : List Char) :
    trimStart (blanks ++ text) = trimStart text :=
  List.dropWhile_append_of_pos h

theorem trimEnd_append_blanks (text : List Char) {blanks : List Char} (h : Blanks blanks) :
    trimEnd (text ++ blanks) = trimEnd text := by
  have hreverse : Blanks blanks.reverse := fun c hc => h c (List.mem_reverse.mp hc)
  rw [trimEnd, trimEnd, List.reverse_append, trimStart_blanks_append hreverse]

/-- What is left at the end protects what stands before it. -/
theorem trimEnd_append {text : List Char} (h : trimEnd text ≠ []) (front : List Char) :
    trimEnd (front ++ text) = front ++ trimEnd text := by
  have hsome : ¬ (text.reverse.dropWhile isBlank).isEmpty = true := by
    rw [List.isEmpty_iff]
    intro hnil
    apply h
    rw [trimEnd, trimStart, hnil, List.reverse_nil]
  rw [trimEnd, trimEnd, trimStart, trimStart, List.reverse_append, List.dropWhile_append,
    if_neg hsome, List.reverse_append, List.reverse_reverse]

theorem trimChars_blanks_append {blanks : List Char} (h : Blanks blanks) (text : List Char) :
    trimChars (blanks ++ text) = trimChars text := by
  rw [trimChars, trimStart_blanks_append h, ← trimChars]

theorem IsTrimmed.trimEnd_append_blanks {text blanks : List Char} (h : IsTrimmed text)
    (hblanks : Blanks blanks) : trimEnd (text ++ blanks) = text := by
  rw [Text.trimEnd_append_blanks text hblanks, trimEnd_of_getLast h.last]

/-! ### Pieces -/

/-- The texts that pieces make with blanks between them, at least one each time, and any behind the
last one. -/
inductive LaidOut : List (List Char) → List Char → Prop
  | single (piece : List Char) {after : List Char} (hafter : Blanks after) :
    LaidOut [piece] (piece ++ after)
  | cons (piece : List Char) {gap text : List Char} {pieces : List (List Char)} (hne : gap ≠ [])
    (hgap : Blanks gap) (hrest : LaidOut pieces text) :
    LaidOut (piece :: pieces) (piece ++ (gap ++ text))

namespace LaidOut

variable {pieces : List (List Char)} {text : List Char}

theorem ne_nil (h : LaidOut pieces text) (hpieces : ∀ piece ∈ pieces, IsTrimmed piece) :
    text ≠ [] := by
  cases h with
  | single piece hafter =>
    exact List.append_ne_nil_of_left_ne_nil (hpieces piece List.mem_cons_self).ne_nil _
  | cons piece hne hgap hrest =>
    exact List.append_ne_nil_of_left_ne_nil (hpieces piece List.mem_cons_self).ne_nil _

/-- Trimming the end takes nothing off the pieces. -/
theorem trimEnd (h : LaidOut pieces text) (hpieces : ∀ piece ∈ pieces, IsTrimmed piece) :
    LaidOut pieces (trimEnd text) := by
  induction h with
  | single piece hafter =>
    rw [(hpieces piece List.mem_cons_self).trimEnd_append_blanks hafter]
    have hbare : LaidOut [piece] (piece ++ []) := .single piece fun c hc => nomatch hc
    rwa [List.append_nil] at hbare
  | @cons piece gap text pieces hne hgap hrest ih =>
    obtain ⟨-, hothers⟩ := List.forall_mem_cons.mp hpieces
    have hkept : LaidOut pieces (Text.trimEnd text) := ih hothers
    rw [← List.append_assoc, trimEnd_append (hkept.ne_nil hothers), List.append_assoc]
    exact .cons piece hne hgap hkept

/-- The first piece stands at the start, so only the end is trimmed. -/
theorem trimChars_eq (h : LaidOut pieces text) (hpieces : ∀ piece ∈ pieces, IsTrimmed piece) :
    trimChars text = Text.trimEnd text := by
  have hhead : ∀ c ∈ text.head?, isBlank c = false := by
    intro c hc
    cases h with
    | single piece hafter =>
      have hpiece := hpieces piece List.mem_cons_self
      rw [List.head?_append_of_ne_nil _ hpiece.ne_nil] at hc
      exact hpiece.head c hc
    | cons piece hne hgap hrest =>
      have hpiece := hpieces piece List.mem_cons_self
      rw [List.head?_append_of_ne_nil _ hpiece.ne_nil] at hc
      exact hpiece.head c hc
  rw [trimChars, trimStart_of_head hhead]

theorem trimChars (h : LaidOut pieces text) (hpieces : ∀ piece ∈ pieces, IsTrimmed piece) :
    LaidOut pieces (trimChars text) := by
  rw [h.trimChars_eq hpieces]
  exact h.trimEnd hpieces

/-- Behind the first piece nothing stands but blanks, or blanks and the other pieces. -/
theorem behind_first {first : List Char} (h : LaidOut (first :: pieces) text)
    (hpieces : ∀ piece ∈ pieces, IsTrimmed piece) :
    ∃ rest, text = first ++ rest ∧ (∀ c ∈ rest.head?, isBlank c = true) ∧
      (pieces = [] ∧ Text.trimChars rest = [] ∨ LaidOut pieces (Text.trimChars rest)) := by
  cases h with
  | @single _ after hafter =>
    have hnone := trimChars_blanks_append hafter []
    rw [List.append_nil] at hnone
    exact ⟨after, rfl, fun c hc => hafter c (List.mem_of_mem_head? hc), .inl ⟨rfl, hnone⟩⟩
  | @cons _ gap rest _ hne hgap hrest =>
    refine ⟨gap ++ rest, rfl, fun c hc => ?_, .inr ?_⟩
    · rw [List.head?_append_of_ne_nil _ hne] at hc
      exact hgap c (List.mem_of_mem_head? hc)
    · rw [trimChars_blanks_append hgap]
      exact hrest.trimChars hpieces

/-- Pieces that are words are the words of the text. -/
theorem words_eq (h : LaidOut pieces text) (hpieces : ∀ piece ∈ pieces, IsWord piece) :
    words text = pieces := by
  induction h with
  | single piece hafter =>
    obtain ⟨hne, hword⟩ := hpieces piece List.mem_cons_self
    rw [words_append hne hword fun c hc => hafter c (List.mem_of_mem_head? hc),
      words_of_blanks hafter]
  | @cons piece gap text pieces hne hgap hrest ih =>
    obtain ⟨⟨hsome, hword⟩, hothers⟩ := List.forall_mem_cons.mp hpieces
    have hhead : ∀ c ∈ (gap ++ text).head?, isBlank c = true := by
      intro c hc
      rw [List.head?_append_of_ne_nil _ hne] at hc
      exact hgap c (List.mem_of_mem_head? hc)
    rw [words_append hsome hword hhead, words_blanks_append hgap, ih hothers]

end LaidOut

end MetricBench.Text
