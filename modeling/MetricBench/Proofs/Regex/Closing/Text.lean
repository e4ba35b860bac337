import MetricBench.Regex.Pattern
import Mathlib.Data.List.TakeWhile

/-!
# Patterns before a closing parenthesis

The readers of patterns are run on a text by itself and on the same text with a closing parenthesis
and an assertion of the end behind it.  Each reader either comes to the same result, with the
closing left over, or it needs some of the closing, of which nothing can come then.
-/

namespace MetricBench.Regex

/-- What closes a pattern that is wrapped in a group. -/
def closing : List Char := [')', '$']

variable {hash : Prop}

/-- A text that is left over of a pattern by itself, and what is left over of the pattern with its
closing: the closing is still there, unless it is skipped as a part of a comment that is open at the
end.  Comments need a number sign, of which `hash` says that the pattern has one. -/
inductive Tail (hash : Prop) : List Char → List Char → Prop where
  | kept (text : List Char) (h : '#' ∈ text → hash) : Tail hash text (text ++ closing)
  | swallowed (h : hash) : Tail hash [] []

/-- What is left of the closing once its parenthesis has been taken. -/
def Spent (text : List Char) : Prop := text = ['$'] ∨ text = []

/-- Two results that differ in what is left over: an end of `text`, with and without its closing. -/
def Same {α : Type} (hash : Prop) (text : List Char) (own wrapped : α × List Char) : Prop :=
  own.1 = wrapped.1 ∧ own.2 <:+ text ∧ Tail hash own.2 wrapped.2

/-- The same for results with two values. -/
def SameBoth {α γ : Type} (hash : Prop) (text : List Char) (own wrapped : α × γ × List Char) :
    Prop :=
  own.1 = wrapped.1 ∧ Same hash text own.2 wrapped.2

/-- The outcomes of a reader by itself and before the closing.  The reader may refuse the text only
by itself when it would need some of the closing; `lost` says of the other result that nothing can
come of it. -/
inductive Follows {β : Type} (same : β → β → Prop) (lost : β → Prop) :
    Option β → Option β → Prop where
  | refused : Follows same lost none none
  | lost {result : β} (h : lost result) : Follows same lost none (some result)
  | same {own wrapped : β} (h : same own wrapped) : Follows same lost (some own) (some wrapped)

theorem Same.of_suffix {α : Type} {text longer : List Char} {own wrapped : α × List Char}
    (h : Same hash text own wrapped) (hsuffix : text <:+ longer) : Same hash longer own wrapped :=
  ⟨h.1, h.2.1.trans hsuffix, h.2.2⟩

theorem Same.value {α γ : Type} {text longer : List Char} {own wrapped : α × List Char}
    (h : Same hash text own wrapped) (f : α → γ) (hsuffix : text <:+ longer) :
    Same hash longer (f own.1, own.2) (f wrapped.1, wrapped.2) :=
  ⟨congrArg f h.1, h.2.1.trans hsuffix, h.2.2⟩

/-- What is left over behind a character. -/
theorem Same.behind {α : Type} {value : α} {c : Char} {rest rest' : List Char}
    (h : Tail hash rest rest') : Same hash (c :: rest) (value, rest) (value, rest') :=
  ⟨rfl, List.suffix_cons c rest, h⟩

namespace Tail

variable {hash : Prop} {own wrapped : List Char}

theorem exists_of_cons {c : Char} (h : Tail hash (c :: own) wrapped) :
    ∃ rest, wrapped = c :: rest ∧ Tail hash own rest := by
  cases h with
  | kept _ h => exact ⟨own ++ closing, rfl, kept own fun hmem => h (.tail c hmem)⟩

theorem of_nil (h : Tail hash [] wrapped) : wrapped = closing ∨ wrapped = [] := by
  cases h
  · exact .inl rfl
  · exact .inr rfl

/-- Both texts start with a character that is no closing parenthesis, or none of them does. -/
theorem head_cases (h : Tail hash own wrapped) {c : Char} (hc : c ≠ ')') :
    (∃ rest rest', own = c :: rest ∧ wrapped = c :: rest' ∧ Tail hash rest rest') ∨
      (∀ rest, own ≠ c :: rest) ∧ ∀ rest, wrapped ≠ c :: rest := by
  cases own with
  | nil =>
    right
    rcases h.of_nil with rfl | rfl
    · refine ⟨by simp, ?_⟩
      rintro rest ⟨⟩
      exact hc rfl
    · simp
  | cons head own =>
    obtain ⟨rest, rfl, htail⟩ := h.exists_of_cons
    by_cases hhead : head = c
    · subst hhead
      exact .inl ⟨own, rest, rfl, rfl, htail⟩
    · right
      constructor
      · rintro _ ⟨⟩
        exact hhead rfl
      · rintro _ ⟨⟩
        exact hhead rfl

/-- Both texts start with the same character, or one of them with the closing parenthesis. -/
theorem head?_cases (h : Tail hash own wrapped) :
    wrapped.head? = own.head? ∨ own.head? = none ∧ wrapped.head? = some ')' := by
  cases own with
  | nil =>
    rcases h.of_nil with rfl | rfl
    · exact .inr ⟨rfl, rfl⟩
    · exact .inl rfl
  | cons head own =>
    obtain ⟨rest, rfl, -⟩ := h.exists_of_cons
    exact .inl rfl

/-- A character that is no closing parenthesis starts both texts. -/
theorem exists_of_wrapped_cons {c : Char} {rest' : List Char} (h : Tail hash own (c :: rest'))
    (hc : c ≠ ')') : ∃ rest, own = c :: rest ∧ Tail hash rest rest' := by
  rcases h.head_cases hc with ⟨rest, rest'', rfl, heq, htail⟩ | ⟨-, hwrapped⟩
  · cases heq
    exact ⟨rest, rfl, htail⟩
  · exact absurd rfl (hwrapped rest')

theorem length_le (h : Tail hash own wrapped) : own.length ≤ wrapped.length := by
  cases h <;> simp

end Tail

namespace Follows

variable {β γ : Type} {same : β → β → Prop} {lost : β → Prop} {same' : γ → γ → Prop}
  {lost' : γ → Prop}

theorem bind {own wrapped : Option β} {f g : β → Option γ} (h : Follows same lost own wrapped)
    (hsame : ∀ a b, same a b → Follows same' lost' (f a) (g b))
    (hlost : ∀ b, lost b → Follows same' lost' none (g b)) :
    Follows same' lost' (own.bind f) (wrapped.bind g) := by
  cases h with
  | refused => exact refused
  | lost h => exact hlost _ h
  | same h => exact hsame _ _ h

theorem lost_map {wrapped : Option γ} {f : γ → β} (h : ∀ a, lost (f a)) :
    Follows same lost none (wrapped.map f) := by
  cases wrapped with
  | none => exact refused
  | some a => exact Follows.lost (h a)

theorem map {own wrapped : Option β} {f g : β → γ} (h : Follows same lost own wrapped)
    (hsame : ∀ a b, same a b → same' (f a) (g b)) (hlost : ∀ b, lost b → lost' (g b)) :
    Follows same' lost' (own.map f) (wrapped.map g) := by
  cases h with
  | refused => exact refused
  | lost h => exact Follows.lost (hlost _ h)
  | same h => exact Follows.same (hsame _ _ h)

theorem mono {own wrapped : Option β} {same' : β → β → Prop} {lost' : β → Prop}
    (h : Follows same lost own wrapped) (hsame : ∀ a b, same a b → same' a b)
    (hlost : ∀ b, lost b → lost' b) : Follows same' lost' own wrapped := by
  cases h with
  | refused => exact refused
  | lost h => exact Follows.lost (hlost _ h)
  | same h => exact Follows.same (hsame _ _ h)

end Follows

/-! ### Blanks -/

theorem trimStart_tail {own wrapped : List Char} (h : Tail hash own wrapped) :
    Tail hash (Text.trimStart own) (Text.trimStart wrapped) := by
  cases h with
  | swallowed h => exact .swallowed h
  | kept _ h =>
    induction own with
    | nil => exact .kept [] h
    | cons c rest ih =>
      simp only [Text.trimStart, List.cons_append, List.dropWhile_cons]
      split
      · exact ih fun hmem => h (.tail c hmem)
      · exact .kept (c :: rest) h

namespace Flags

theorem dropIgnored_suffix (comment : Bool) (text : List Char) :
    dropIgnored comment text <:+ text := by
  induction text generalizing comment with
  | nil => exact List.suffix_rfl
  | cons c rest ih =>
    rw [dropIgnored]
    split
    · exact (ih _).trans (List.suffix_cons c rest)
    · split
      · exact (ih _).trans (List.suffix_cons c rest)
      · split
        · exact (ih _).trans (List.suffix_cons c rest)
        · exact List.suffix_rfl

theorem skip_suffix (flags : Flags) (text : List Char) : flags.skip text <:+ text := by
  rw [skip]
  split
  · exact dropIgnored_suffix false text
  · exact List.suffix_rfl

theorem dropIgnored_closing (comment : Bool) :
    dropIgnored comment closing = if comment then [] else closing := by
  cases comment <;> rfl

theorem dropIgnored_tail (comment : Bool) (text : List Char)
    (h : comment = true ∨ '#' ∈ text → hash) :
    Tail hash (dropIgnored comment text) (dropIgnored comment (text ++ closing)) := by
  induction text generalizing comment with
  | nil =>
    rw [List.nil_append, dropIgnored_closing, dropIgnored]
    cases comment
    · exact .kept [] fun hmem => h (.inr hmem)
    · exact .swallowed (h (.inl rfl))
  | cons c rest ih =>
    have hrest : '#' ∈ rest → hash := fun hmem => h (.inr (.tail c hmem))
    rw [List.cons_append, dropIgnored, dropIgnored]
    split
    · rename_i hcomment
      exact ih _ fun _ => h (.inl hcomment)
    · split
      · exact ih _ fun hmem => hrest (hmem.resolve_left Bool.false_ne_true)
      · split
        · subst c
          exact ih _ fun _ => h (.inr (.head rest))
        · exact .kept (c :: rest) fun hmem => h (.inr hmem)

theorem skip_tail (flags : Flags) {own wrapped : List Char} (h : Tail hash own wrapped) :
    Tail hash (flags.skip own) (flags.skip wrapped) := by
  rw [skip, skip]
  split
  · cases h with
    | kept _ h =>
      exact dropIgnored_tail false own fun hmem => h (hmem.resolve_left Bool.false_ne_true)
    | swallowed h => exact .swallowed h
  · exact h

@[simp]
theorem skip_nil (flags : Flags) : flags.skip [] = [] := by
  simp [skip, dropIgnored]

@[simp]
theorem skip_closing (flags : Flags) : flags.skip closing = closing := by
  simp [skip, dropIgnored_closing]

@[simp]
theorem skip_dollar (flags : Flags) : flags.skip ['$'] = ['$'] := by
  rw [skip, show dropIgnored false ['$'] = ['$'] from rfl, ite_self]

/-- A character that is neither blank nor starts a comment is not skipped. -/
theorem skip_cons (flags : Flags) {c : Char} (hblank : Text.isBlank c = false) (hhash : c ≠ '#')
    (rest : List Char) : flags.skip (c :: rest) = c :: rest := by
  simp [skip, dropIgnored, hblank, hhash]

/-- Letters are read up to the closing at most. -/
theorem readLetters?_follows (flags : Flags) (seen : List Char) (value dangling : Bool)
    {own wrapped : List Char} (h : Tail hash own wrapped) :
    Follows (Same hash own) (fun result => result.2 = closing)
      (flags.readLetters? seen value dangling own)
      (flags.readLetters? seen value dangling wrapped) := by
  induction own generalizing flags seen value dangling wrapped with
  | nil =>
    rcases h.of_nil with rfl | rfl
    · cases dangling
      · exact .lost rfl
      · exact .refused
    · exact .refused
  | cons c rest ih =>
    obtain ⟨rest', rfl, htail⟩ := h.exists_of_cons
    have hsuffix := List.suffix_cons c rest
    rw [readLetters?, readLetters?]
    split
    · split
      · exact .refused
      · exact .same ⟨rfl, List.suffix_rfl, h⟩
    · split
      · exact .refused
      · split
        · exact (ih flags _ _ _ htail).mono (fun _ _ h => h.of_suffix hsuffix) fun _ => id
        · cases hset : flags.set? c value with
          | none => exact .refused
          | some next =>
            exact (ih next _ _ _ htail).mono (fun _ _ h => h.of_suffix hsuffix) fun _ => id

theorem takeSpaced_nil (flags : Flags) (keep : Char → Bool) (fuel : Nat) :
    flags.takeSpaced keep fuel [] = ([], []) := by
  cases fuel <;> rfl

theorem takeSpaced_cons (flags : Flags) (keep : Char → Bool) (fuel : Nat) (c : Char)
    (rest : List Char) :
    flags.takeSpaced keep (fuel + 1) (c :: rest) =
      if keep c then
        (c :: (flags.takeSpaced keep fuel (flags.skip rest)).1,
          (flags.takeSpaced keep fuel (flags.skip rest)).2)
      else ([], c :: rest) := rfl

theorem takeSpaced_suffix (flags : Flags) (keep : Char → Bool) (fuel : Nat)
    (text : List Char) : (flags.takeSpaced keep fuel text).2 <:+ text := by
  induction fuel generalizing text with
  | zero => cases text <;> exact List.suffix_rfl
  | succ fuel ih =>
    cases text with
    | nil => exact List.suffix_rfl
    | cons c rest =>
      rw [takeSpaced_cons]
      split
      · exact (ih _).trans ((flags.skip_suffix rest).trans (List.suffix_cons c rest))
      · exact List.suffix_rfl

/-- More fuel than the text is long makes no difference. -/
theorem takeSpaced_fuel (flags : Flags) (keep : Char → Bool) {fuel more : Nat} {text : List Char}
    (hfuel : text.length ≤ fuel) (hmore : text.length ≤ more) :
    flags.takeSpaced keep fuel text = flags.takeSpaced keep more text := by
  induction fuel generalizing more text with
  | zero =>
    rw [List.length_eq_zero_iff.mp (Nat.le_zero.mp hfuel), takeSpaced_nil, takeSpaced_nil]
  | succ fuel ih =>
    cases text with
    | nil => rw [takeSpaced_nil, takeSpaced_nil]
    | cons c rest =>
      obtain ⟨more, rfl⟩ : ∃ n, more = n + 1 := ⟨more - 1, by simp at hmore; omega⟩
      have hskip := (flags.skip_suffix rest).length_le
      rw [List.length_cons] at hfuel hmore
      rw [takeSpaced_cons, takeSpaced_cons,
        @ih more (flags.skip rest) (by omega) (by omega)]

/-- Characters other than a closing parenthesis are taken alike. -/
theorem takeSpaced_same (flags : Flags) (keep : Char → Bool) (hkeep : keep ')' = false)
    (fuel : Nat) {own wrapped : List Char} (h : Tail hash own wrapped) :
    Same hash own (flags.takeSpaced keep fuel own) (flags.takeSpaced keep fuel wrapped) := by
  suffices htail : (flags.takeSpaced keep fuel own).1 = (flags.takeSpaced keep fuel wrapped).1 ∧
      Tail hash (flags.takeSpaced keep fuel own).2 (flags.takeSpaced keep fuel wrapped).2 from
    ⟨htail.1, flags.takeSpaced_suffix keep fuel own, htail.2⟩
  induction fuel generalizing own wrapped with
  | zero =>
    cases own <;> cases wrapped <;> exact ⟨rfl, h⟩
  | succ fuel ih =>
    cases own with
    | nil =>
      rcases h.of_nil with rfl | rfl
      · rw [takeSpaced_nil, closing, takeSpaced_cons, hkeep]
        exact ⟨rfl, h⟩
      · exact ⟨rfl, h⟩
    | cons c rest =>
      obtain ⟨rest', rfl, htail⟩ := h.exists_of_cons
      rw [takeSpaced_cons, takeSpaced_cons]
      split
      · obtain ⟨htaken, hrest⟩ := ih (flags.skip_tail htail)
        exact ⟨congrArg (c :: ·) htaken, hrest⟩
      · exact ⟨rfl, h⟩

/-- The same, when both readers have as much fuel as their texts are long. -/
theorem exists_taken (flags : Flags) (keep : Char → Bool) (hkeep : keep ')' = false)
    {fuel more : Nat} {own wrapped : List Char} (h : Tail hash own wrapped)
    (hfuel : own.length ≤ fuel) (hmore : wrapped.length ≤ more) :
    ∃ taken after after', flags.takeSpaced keep fuel own = (taken, after) ∧
      flags.takeSpaced keep more wrapped = (taken, after') ∧ after <:+ own ∧
        Tail hash after after' := by
  rw [flags.takeSpaced_fuel keep hfuel (Nat.le_trans h.length_le hmore)]
  obtain ⟨htaken, hsuffix, htail⟩ := flags.takeSpaced_same keep hkeep more h
  exact ⟨_, _, (flags.takeSpaced keep more wrapped).2, rfl, Prod.ext htaken.symm rfl, hsuffix,
    htail⟩

/-- Up to a closing brace the texts are taken alike, or there is none in them. -/
theorem exists_taken_brace (flags : Flags) {fuel more : Nat} {own wrapped : List Char}
    (h : Tail hash own wrapped) (hfuel : own.length ≤ fuel) (hmore : wrapped.length ≤ more) :
    (∃ taken after after', flags.takeSpaced (· != '\x7d') fuel own = (taken, after) ∧
        flags.takeSpaced (· != '\x7d') more wrapped = (taken, after') ∧
        after <:+ own ∧ Tail hash after after') ∨
      ∃ taken taken', flags.takeSpaced (· != '\x7d') fuel own = (taken, []) ∧
        flags.takeSpaced (· != '\x7d') more wrapped = (taken', []) := by
  rw [flags.takeSpaced_fuel _ hfuel (Nat.le_trans h.length_le hmore)]
  clear hfuel
  induction more generalizing own wrapped with
  | zero =>
    rw [List.length_eq_zero_iff.mp (Nat.le_zero.mp hmore)] at h ⊢
    cases own <;> cases h
    exact .inr ⟨[], [], rfl, rfl⟩
  | succ more ih =>
    cases own with
    | nil =>
      right
      rcases h.of_nil with rfl | rfl
      · obtain ⟨more, rfl⟩ : ∃ n, more = n + 1 := ⟨more - 1, by simp [closing] at hmore; omega⟩
        exact ⟨[], closing, rfl, by simp [closing, takeSpaced_cons, takeSpaced_nil]⟩
      · exact ⟨[], [], rfl, rfl⟩
    | cons c rest =>
      obtain ⟨rest', rfl, htail⟩ := h.exists_of_cons
      have hskip := (flags.skip_suffix rest').length_le
      rw [List.length_cons] at hmore
      rw [takeSpaced_cons, takeSpaced_cons]
      split
      · rcases ih (flags.skip_tail htail) (by omega) with
          ⟨taken, after, after', hown, hwrapped, hsuffix, hafter⟩ | ⟨taken, taken', hown, hwrapped⟩
        · rw [hown, hwrapped]
          exact .inl ⟨c :: taken, after, after', rfl, rfl,
            hsuffix.trans ((flags.skip_suffix rest).trans (List.suffix_cons c rest)), hafter⟩
        · rw [hown, hwrapped]
          exact .inr ⟨c :: taken, c :: taken', rfl, rfl⟩
      · exact .inl ⟨[], c :: rest, c :: rest', rfl, rfl, List.suffix_rfl, h⟩

/-- The character that is glanced at is the same, or there is none but for the closing. -/
theorem glance_tail (flags : Flags) {own wrapped : List Char} (h : Tail hash own wrapped) :
    flags.glance wrapped = flags.glance own ∨
      flags.glance own = none ∧ flags.glance wrapped = some ')' := by
  rw [glance, glance]
  split
  · have htrim := trimStart_tail h
    rcases htrim.head_cases (c := '#') (by decide) with
      ⟨rest, rest', hown, hwrapped, hrest⟩ | ⟨hown, hwrapped⟩
    · rw [hown, hwrapped]
      exact (trimStart_tail hrest).head?_cases
    · split
      · exact absurd ‹_› (hwrapped _)
      · exact htrim.head?_cases
  · exact h.head?_cases

end Flags

theorem cutBefore_cons_stop {stop : Char → Bool} {c : Char} (h : stop c = true)
    (rest : List Char) : Text.cutBefore stop (c :: rest) = ([], c :: rest) := by
  simp [Text.cutBefore, h]

theorem cutBefore_cons_keep {stop : Char → Bool} {c : Char} (h : ¬stop c = true)
    (rest : List Char) :
    Text.cutBefore stop (c :: rest) =
      (c :: (Text.cutBefore stop rest).1, (Text.cutBefore stop rest).2) := by
  simp [Text.cutBefore, h]

/-- A cut at a character that is not in the closing leaves the closing behind the rest, or there is
no such character. -/
theorem cutBefore_tail (stop : Char → Bool) (hstop : closing.all (fun c => !stop c) = true)
    {own wrapped : List Char} (h : Tail hash own wrapped) :
    (∃ before c after after', stop c = true ∧ Text.cutBefore stop own = (before, c :: after) ∧
        Text.cutBefore stop wrapped = (before, c :: after') ∧ c :: after <:+ own ∧
        Tail hash after after') ∨
      ∃ before before', Text.cutBefore stop own = (before, []) ∧
        Text.cutBefore stop wrapped = (before', []) := by
  cases h with
  | swallowed => exact .inr ⟨[], [], rfl, rfl⟩
  | kept _ h =>
    induction own with
    | nil =>
      have hkeep := List.all_eq_true.mp hstop
      exact .inr ⟨[], closing, rfl, Prod.ext (List.takeWhile_eq_self_iff.mpr hkeep)
        (List.dropWhile_eq_nil_iff.mpr hkeep)⟩
    | cons c rest ih =>
      have hrest : '#' ∈ rest → hash := fun hmem => h (.tail c hmem)
      rw [List.cons_append]
      by_cases hc : stop c = true
      · rw [cutBefore_cons_stop hc, cutBefore_cons_stop hc]
        exact .inl ⟨[], c, _, _, hc, rfl, rfl, List.suffix_rfl, .kept rest hrest⟩
      · rw [cutBefore_cons_keep hc, cutBefore_cons_keep hc]
        rcases ih hrest with ⟨before, d, after, after', hd, hown, hwrapped, hafter, htail⟩ |
          ⟨_, _, hown, hwrapped⟩
        · rw [hown, hwrapped]
          exact .inl ⟨c :: before, d, after, after', hd, rfl, rfl,
            hafter.trans (List.suffix_cons c rest), htail⟩
        · rw [hown, hwrapped]
          exact .inr ⟨_, _, rfl, rfl⟩

end MetricBench.Regex
