import MetricBench.Proofs.Exposition.Name
import MetricBench.Query.Lexer

/-!
# Names among tokens

The only names in a query are words of letters, digits and underscores: other words are keywords,
numbers or metric names with a colon.  So each name that a query is cut into may name a label.
-/

namespace MetricBench.Query

open Exposition (IsLabelName)

/-! ### Tokens -/

/-- Whether a token, if it is a name, may name a label. -/
def Token.Legible : Token → Prop
  | .name text => IsLabelName text
  | _ => True

/-- Whether all names among tokens may name labels. -/
def LegibleTokens (tokens : List Token) : Prop := ∀ token ∈ tokens, token.Legible

theorem LegibleTokens.tail {token : Token} {rest : List Token}
    (h : LegibleTokens (token :: rest)) : LegibleTokens rest :=
  (List.forall_mem_cons.mp h).2

/-- Whether the token of a step, if it has one, is legible. -/
def Step.Legible (step : Step) : Prop := ∀ token ∈ step.1, token.Legible

theorem Step.legible_none (after : LexState × List Char) : Step.Legible (none, after) :=
  fun _ htoken => nomatch htoken

theorem Step.legible_some {token : Token} (h : token.Legible) (after : LexState × List Char) :
    Step.Legible (some token, after) := by
  rintro _ ⟨⟩
  exact h

/-- A word is the name of a label. -/
theorem isLabelName_takeWhile {c : Char} {isPart : Char → Bool} (hfirst : isPart c = true)
    {rest : List Char} (hparts : ∀ part ∈ (c :: rest).takeWhile isPart, isWordChar part = true) :
    IsLabelName (.ofList ((c :: rest).takeWhile isPart)) := by
  have hcons : (c :: rest).takeWhile isPart = c :: rest.takeWhile isPart :=
    List.takeWhile_cons_of_pos hfirst
  have hne : (c :: rest).takeWhile isPart ≠ [] := by
    rw [hcons]
    exact List.cons_ne_nil _ _
  exact Exposition.isLabelName_ofList hne hparts

theorem isWordChar_of_start {c : Char} (h : c.isAlpha = true ∨ c = '_') : isWordChar c = true := by
  rw [isWordChar, Char.isAlphanum]
  rcases h with halpha | rfl
  · rw [halpha]
    rfl
  · rfl

/-- A quoted string is no name. -/
theorem legible_readString {c : Char} {text rest : List Char} {token : Token}
    (h : readString? c text = some (token, rest)) : token.Legible := by
  unfold readString? at h
  split_ifs at h
  · obtain ⟨⟨quoted, after⟩, -, heq⟩ := Option.map_eq_some_iff.mp h
    cases heq
    trivial
  · obtain ⟨⟨quoted, after⟩, -, heq⟩ := Option.map_eq_some_iff.mp h
    cases heq
    trivial

theorem legible_readQuantity {text rest : List Char} {token : Token}
    (h : readQuantity? text = some (token, rest)) : token.Legible := by
  unfold readQuantity? at h
  dsimp only at h
  split_ifs at h
  · obtain ⟨millis, -, heq⟩ := Option.map_eq_some_iff.mp h
    cases heq
    trivial
  · obtain ⟨value, -, heq⟩ := Option.map_eq_some_iff.mp h
    cases heq
    trivial

/-- A word without a colon that is no keyword is the name of a label. -/
theorem legible_wordToken {c : Char} (hfirst : (isWordChar c || c == ':') = true)
    (rest : List Char) :
    (wordToken ((c :: rest).takeWhile fun c => isWordChar c || c == ':')).Legible := by
  unfold wordToken
  dsimp only
  split_ifs with hcolon hinf hnan
  · trivial
  · trivial
  · trivial
  · split
    · trivial
    · refine isLabelName_takeWhile hfirst fun part hpart => ?_
      have hname := List.mem_takeWhile_imp hpart
      rw [Bool.or_eq_true] at hname
      refine hname.resolve_right fun hpartColon => hcolon ?_
      rw [List.contains_iff_mem]
      exact beq_iff_eq.mp hpartColon ▸ hpart

section

variable {state : LexState} {c : Char} {rest : List Char} {step : Step}

theorem legible_stepInBraces (h : stepInBraces? state c rest = some step) : step.Legible := by
  unfold stepInBraces? at h
  dsimp only at h
  split_ifs at h with hhash hblank hstart hor
  · cases h
    exact Step.legible_none _
  · cases h
    exact Step.legible_none _
  · cases h
    exact Step.legible_some (by trivial) _
  · cases h
    have hword := isWordChar_of_start hstart
    apply Step.legible_some
    exact isLabelName_takeWhile hword fun part hpart => List.mem_takeWhile_imp hpart
  · split at h
    case h_7 =>
      obtain ⟨⟨token, after⟩, htoken, heq⟩ := Option.map_eq_some_iff.mp h
      cases heq
      exact Step.legible_some (legible_readString htoken) _
    all_goals
      cases h
      exact Step.legible_some (by trivial) _

theorem legible_stepInBrackets {colonSeen : Bool}
    (h : stepInBrackets? state colonSeen c rest = some step) : step.Legible := by
  unfold stepInBrackets? at h
  split_ifs at h
  · cases h
    exact Step.legible_none _
  · split at h
    · cases h
      exact Step.legible_some (by trivial) _
    · cases h
  · cases h
    exact Step.legible_some (by trivial) _
  · cases h
    exact Step.legible_some (by trivial) _

theorem legible_stepOutside (h : stepOutside? state c rest = some step) : step.Legible := by
  unfold stepOutside? at h
  dsimp only at h
  split at h
  · cases h
    exact Step.legible_none _
  split at h
  · cases h
    exact Step.legible_none _
  split at h
  · obtain ⟨⟨token, after⟩, htoken, heq⟩ := Option.map_eq_some_iff.mp h
    cases heq
    exact Step.legible_some (legible_readQuantity htoken) _
  split at h
  case isTrue hstart =>
    cases h
    have hfirst : (isWordChar c || c == ':') = true := by
      rcases hstart with halpha | rfl | rfl
      · rw [isWordChar_of_start (.inl halpha)]
        rfl
      · rfl
      · rfl
    exact Step.legible_some (legible_wordToken hfirst rest) _
  split at h
  case h_2 =>
    split_ifs at h
    cases h
    exact Step.legible_some (by trivial) _
  case h_14 => cases h
  case h_21 =>
    obtain ⟨⟨token, after⟩, htoken, heq⟩ := Option.map_eq_some_iff.mp h
    cases heq
    exact Step.legible_some (legible_readString htoken) _
  all_goals
    cases h
    exact Step.legible_some (by trivial) _

theorem legible_lexStep (h : lexStep? state c rest = some step) : step.Legible := by
  unfold lexStep? at h
  split at h
  · exact legible_stepOutside h
  · exact legible_stepInBraces h
  · exact legible_stepInBrackets h

end

theorem legible_lexFrom {fuel : Nat} {state : LexState} {text : List Char} {tokens : List Token}
    (h : lexFrom? fuel state text = some tokens) : LegibleTokens tokens := by
  induction fuel generalizing state text tokens with
  | zero =>
    cases text with
    | nil =>
      simp only [lexFrom?] at h
      split_ifs at h
      cases h
      exact fun _ htoken => nomatch htoken
    | cons c rest => cases h
  | succ fuel ih =>
    cases text with
    | nil =>
      simp only [lexFrom?] at h
      split_ifs at h
      cases h
      exact fun _ htoken => nomatch htoken
    | cons c rest =>
      obtain ⟨⟨token, after, left⟩, hstep, hnext⟩ := Option.bind_eq_some_iff.mp h
      obtain ⟨others, hothers, heq⟩ := Option.bind_eq_some_iff.mp hnext
      cases heq
      intro found hfound
      rcases List.mem_append.mp hfound with hhead | htail
      · exact legible_lexStep hstep found (Option.mem_toList.mp hhead)
      · exact ih hothers found htail

/-- All tokens of a query are legible. -/
theorem legible_tokens {query : String} {tokens : List Token} (h : tokens? query = some tokens) :
    LegibleTokens tokens :=
  legible_lexFrom h

end MetricBench.Query
