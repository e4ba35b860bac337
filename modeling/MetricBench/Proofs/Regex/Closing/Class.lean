import MetricBench.Proofs.Regex.Closing.Escape

/-!
# Classes before a closing parenthesis
-/

namespace MetricBench.Regex

section Classes

variable {hash : Prop} {own wrapped : List Char}

/-- What is left when the closing has been read in part or not at all. -/
def InClosing (text : List Char) : Prop := text = closing ∨ Spent text

theorem InClosing.skip_eq {text : List Char} (h : InClosing text) (flags : Flags) :
    flags.skip text = text := by
  rcases h with rfl | rfl | rfl
  · exact flags.skip_closing
  · exact flags.skip_dollar
  · exact flags.skip_nil

/-- The first items of a class after the mark that says whether it is negated. -/
def openItems? (flags : Flags) (negated : Bool) (text : List Char) :
    Option (Bool × ClassBody × List Char) :=
  let (hyphens, rest) := flags.takeSpaced (· == '-') text.length text
  match hyphens, rest with
  | _, [] => none
  | [], ']' :: rest =>
    if (flags.skip rest).isEmpty then none
    else some (negated, ClassBody.start.add (.single ']'), flags.skip rest)
  | [], rest => some (negated, .start, rest)
  | _ :: _, rest => some (negated, ClassBody.start.add (.single '-'), rest)

theorem openItems?_of_ne {flags : Flags} {text rest : List Char} {c : Char}
    (h : flags.takeSpaced (· == '-') text.length text = ([], c :: rest)) (hc : c ≠ ']')
    (negated : Bool) : openItems? flags negated text = some (negated, .start, c :: rest) := by
  simp only [openItems?, h]
  split
  · contradiction
  · rename_i heq
    exact absurd (List.cons.inj heq).1 hc
  · rfl
  · contradiction

theorem openItems?_of_bracket {flags : Flags} {text rest : List Char}
    (h : flags.takeSpaced (· == '-') text.length text = ([], ']' :: rest)) (negated : Bool) :
    openItems? flags negated text =
      if (flags.skip rest).isEmpty then none
      else some (negated, ClassBody.start.add (.single ']'), flags.skip rest) := by
  simp only [openItems?, h]

theorem openItems?_of_hyphen {flags : Flags} {text rest hyphens : List Char} {c hyphen : Char}
    (h : flags.takeSpaced (· == '-') text.length text = (hyphen :: hyphens, c :: rest))
    (negated : Bool) :
    openItems? flags negated text =
      some (negated, ClassBody.start.add (.single '-'), c :: rest) := by
  simp only [openItems?, h]

theorem openItems?_of_nil {flags : Flags} {text hyphens : List Char}
    (h : flags.takeSpaced (· == '-') text.length text = (hyphens, [])) (negated : Bool) :
    openItems? flags negated text = none := by
  simp only [openItems?, h]

theorem openClass?_of_negated {flags : Flags} {text rest : List Char}
    (h : flags.skip text = '^' :: rest) :
    openClass? flags text = openItems? flags true (flags.skip rest) := by
  rw [openClass?, h]
  rfl

theorem openClass?_of_ne {flags : Flags} {text : List Char}
    (h : ∀ rest, flags.skip text ≠ '^' :: rest) :
    openClass? flags text = openItems? flags false (flags.skip text) := by
  rw [openClass?]
  split
  rename_i heq
  split at heq
  · exact absurd ‹_› (h _)
  · cases heq
    rfl

theorem openItems?_follows (flags : Flags) (negated : Bool) (h : Tail hash own wrapped) :
    Follows (SameBoth hash own) (fun result => InClosing result.2.2) (openItems? flags negated own)
      (openItems? flags negated wrapped) := by
  obtain ⟨hyphens, rest, rest', hhyphens, hhyphens', hrest, hclosed⟩ :=
    flags.exists_taken (· == '-') (by decide) h (Nat.le_refl _) (Nat.le_refl _)
  cases rest with
  | nil =>
    rw [openItems?_of_nil hhyphens]
    rcases hclosed.of_nil with rfl | rfl
    · cases hyphens with
      | nil =>
        rw [openItems?_of_ne hhyphens' (by decide)]
        exact .lost (.inl rfl)
      | cons =>
        rw [openItems?_of_hyphen hhyphens']
        exact .lost (.inl rfl)
    · rw [openItems?_of_nil hhyphens']
      exact .refused
  | cons c rest =>
    obtain ⟨rest', rfl, hbehind⟩ := hclosed.exists_of_cons
    cases hyphens with
    | cons =>
      rw [openItems?_of_hyphen hhyphens, openItems?_of_hyphen hhyphens']
      exact .same ⟨rfl, rfl, hrest, hclosed⟩
    | nil =>
      by_cases hbracket : c = ']'
      · subst hbracket
        have hskip := flags.skip_tail hbehind
        have hskipped := (flags.skip_suffix rest).trans ((List.suffix_cons _ rest).trans hrest)
        rw [openItems?_of_bracket hhyphens, openItems?_of_bracket hhyphens']
        generalize flags.skip rest = text at hskip hskipped ⊢
        generalize flags.skip rest' = text' at hskip ⊢
        cases text with
        | nil =>
          rcases hskip.of_nil with rfl | rfl
          · exact .lost (.inl rfl)
          · exact .refused
        | cons c text =>
          obtain ⟨text', rfl, -⟩ := hskip.exists_of_cons
          exact .same ⟨rfl, rfl, hskipped, hskip⟩
      · rw [openItems?_of_ne hhyphens hbracket, openItems?_of_ne hhyphens' hbracket]
        exact .same ⟨rfl, rfl, hrest, hclosed⟩

theorem openClass?_follows (flags : Flags) (h : Tail hash own wrapped) :
    Follows (SameBoth hash own) (fun result => InClosing result.2.2) (openClass? flags own)
      (openClass? flags wrapped) := by
  have hskip := flags.skip_tail h
  have hsuffix := flags.skip_suffix own
  rcases hskip.head_cases (c := '^') (by decide) with
    ⟨rest, rest', hown, hwrapped, htail⟩ | ⟨hown, hwrapped⟩
  · rw [hown] at hsuffix
    rw [openClass?_of_negated hown, openClass?_of_negated hwrapped]
    refine (openItems?_follows flags true (flags.skip_tail htail)).mono (fun _ _ h => ?_)
      fun _ => id
    exact ⟨h.1, h.2.of_suffix ((flags.skip_suffix rest).trans
      ((List.suffix_cons _ rest).trans hsuffix))⟩
  · rw [openClass?_of_ne hown, openClass?_of_ne hwrapped]
    exact (openItems?_follows flags false hskip).mono (fun _ _ h => ⟨h.1, h.2.of_suffix hsuffix⟩)
      fun _ => id

/-! ### Named classes -/

/-- The class that stands between colons. -/
def namedSet? (flags : Flags) (negated : Bool) (text : List Char) : Option (CharSet × List Char) :=
  match Text.cutBefore (· == ':') text with
  | (name, ':' :: ']' :: rest) =>
    (CharSet.named? (.ofList name)).map fun set =>
      let folded := flags.fold set
      (if negated then .complement folded else folded, rest)
  | _ => none

theorem namedSet?_follows (flags : Flags) (negated : Bool) (h : Tail hash own wrapped) :
    Follows (Same hash own) (fun _ => False) (namedSet? flags negated own)
      (namedSet? flags negated wrapped) := by
  rw [namedSet?, namedSet?]
  rcases cutBefore_tail (· == ':') (by decide) h with
    ⟨name, c, rest, rest', hc, hown, hwrapped, hafter, htail⟩ | ⟨name, name', hown, hwrapped⟩
  · rw [beq_iff_eq] at hc
    subst hc
    rw [hown, hwrapped]
    rcases htail.head_cases (c := ']') (by decide) with
      ⟨last, last', rfl, rfl, hlast⟩ | ⟨hne, hne'⟩
    · simp only
      cases CharSet.named? (.ofList name) with
      | none => exact .refused
      | some set =>
        exact .same ⟨rfl, (List.suffix_cons _ last).trans ((List.suffix_cons _ _).trans hafter),
          hlast⟩
    · split
      · rename_i heq
        cases heq
        exact absurd rfl (hne _)
      · split
        · rename_i heq
          cases heq
          exact absurd rfl (hne' _)
        · exact .refused
  · rw [hown, hwrapped]
    exact .refused

theorem readNamedClass?_follows (flags : Flags) (h : Tail hash own wrapped) :
    Follows (Same hash own) (fun _ => False) (readNamedClass? flags own)
      (readNamedClass? flags wrapped) := by
  have hnone : ∀ {text : List Char}, (∀ rest, text ≠ ':' :: rest) →
      readNamedClass? flags text = none := by
    intro text htext
    rw [readNamedClass?]
    · intro rest heq
      exact htext _ heq
    · intro rest heq
      exact htext _ heq
  rcases h.head_cases (c := ':') (by decide) with ⟨rest, rest', rfl, rfl, htail⟩ | ⟨hne, hne'⟩
  · have hsuffix := List.suffix_cons ':' rest
    rcases htail.head_cases (c := '^') (by decide) with
      ⟨name, name', rfl, rfl, hname⟩ | ⟨hne, hne'⟩
    · exact (namedSet?_follows flags true hname).mono
        (fun _ _ h => h.of_suffix ((List.suffix_cons _ name).trans hsuffix)) fun _ => id
    · have hplain : ∀ {text : List Char}, (∀ rest, text ≠ '^' :: rest) →
          readNamedClass? flags (':' :: text) = namedSet? flags false text := by
        intro text htext
        rw [readNamedClass?]
        · rfl
        · intro rest heq
          exact htext _ heq
      rw [hplain hne, hplain hne']
      exact (namedSet?_follows flags false htail).mono (fun _ _ h => h.of_suffix hsuffix)
        fun _ => id
  · rw [hnone hne, hnone hne']
    exact .refused

/-! ### Items -/

/-- An item takes at least one character. -/
theorem readClassItem?_follows (flags : Flags) (h : Tail hash own wrapped) :
    Follows (Same hash own.tail) (LostEscape flags) (readClassItem? flags own)
      (readClassItem? flags wrapped) := by
  cases own with
  | nil =>
    rcases h.of_nil with rfl | rfl
    · exact .lost (.inl (.inl rfl))
    · exact .refused
  | cons c rest =>
    obtain ⟨rest', rfl, htail⟩ := h.exists_of_cons
    by_cases hescape : c = '\\'
    · subst hescape
      exact readEscape?_follows flags htail
    · have hliteral : ∀ text, readClassItem? flags (c :: text) = some (.literal c, text) := by
        intro text
        rw [readClassItem?]
        intro heq
        exact hescape heq
      rw [hliteral, hliteral]
      exact .same ⟨rfl, List.suffix_rfl, htail⟩

/-- Whether a hyphen makes a range of the item before it and one behind it. -/
def isRange (flags : Flags) (text : List Char) : Bool :=
  match flags.skip text with
  | '-' :: after =>
    match flags.glance after with
    | some ']' | some '-' => false
    | _ => true
  | _ => false

theorem isRange_tail (flags : Flags) (h : Tail hash own wrapped) :
    isRange flags own = isRange flags wrapped := by
  rw [isRange, isRange]
  rcases (flags.skip_tail h).head_cases (c := '-') (by decide) with
    ⟨rest, rest', hown, hwrapped, htail⟩ | ⟨hown, hwrapped⟩
  · rw [hown, hwrapped]
    simp only
    rcases flags.glance_tail htail with hglance | ⟨hglance, hglance'⟩
    · rw [hglance]
    · rw [hglance, hglance']
      rfl
  · split
    · exact absurd ‹_› (hown _)
    · rfl

/-- The set that an item makes by itself. -/
def itemSet? (flags : Flags) (item : Atom) : Option CharSet :=
  match item with
  | .literal c => (classChar? flags c).map .single
  | .set set => some set
  | .assertion _ => none

/-- The set between two items. -/
def rangeSet? (flags : Flags) (first last : Atom) : Option CharSet :=
  match first, last with
  | .literal low, .literal high =>
    (classChar? flags low).bind fun low =>
      (classChar? flags high).bind fun high => if high < low then none else some (.range low high)
  | _, _ => none

theorem readClassRange?_eq (flags : Flags) (text : List Char) :
    readClassRange? flags text =
      (readClassItem? flags text).bind fun (first, rest) =>
        if isRange flags rest then
          (readClassItem? flags (flags.skip ((flags.skip rest).drop 1))).bind fun (last, rest) =>
            (rangeSet? flags first last).map fun set => (set, rest)
        else (itemSet? flags first).map fun set => (set, flags.skip rest) := by
  rw [readClassRange?]
  cases readClassItem? flags text with
  | none => rfl
  | some read =>
    obtain ⟨first, rest⟩ := read
    change (if (!isRange flags rest) = true then _ else _) =
      if isRange flags rest = true then _ else _
    cases isRange flags rest with
    | false =>
      cases first with
      | literal c =>
        change (classChar? flags c).map _ = ((classChar? flags c).map _).map _
        rw [Option.map_map]
        rfl
      | set set => rfl
      | assertion condition => rfl
    | true =>
      change (readClassItem? flags _).bind _ = (readClassItem? flags _).bind _
      congr 1
      funext ⟨last, rest⟩
      cases first with
      | literal low =>
        cases last with
        | literal high =>
          simp only [rangeSet?]
          cases classChar? flags low with
          | none => rfl
          | some low =>
            cases classChar? flags high with
            | none => rfl
            | some high =>
              simp only [Option.bind_some, Option.bind_eq_bind]
              split <;> rfl
        | set set => rfl
        | assertion condition => rfl
      | set set => rfl
      | assertion condition => rfl

theorem isRange_of_spent {text : List Char} (h : Spent text) (flags : Flags) :
    isRange flags text = false := by
  rcases h with rfl | rfl
  · rw [isRange, flags.skip_dollar]
    rfl
  · rw [isRange, flags.skip_nil]

theorem isRange_of_hollowBrace {flags : Flags} {text : List Char} (h : HollowBrace flags text) :
    isRange flags text = false := by
  obtain ⟨rest, rfl, -⟩ := h
  rw [isRange, flags.skip_cons (by decide) (by decide)]
  rfl

/-- A range needs an item behind its hyphen, which is not the closing parenthesis. -/
theorem exists_of_isRange {flags : Flags} (h : Tail hash own wrapped)
    (hrange : isRange flags own = true) :
    ∃ after after', flags.skip own = '-' :: after ∧ flags.skip wrapped = '-' :: after' ∧
      Tail hash after after' := by
  rcases (flags.skip_tail h).head_cases (c := '-') (by decide) with
    ⟨after, after', hown, hwrapped, htail⟩ | ⟨hown, -⟩
  · exact ⟨after, after', hown, hwrapped, htail⟩
  · rw [isRange] at hrange
    split at hrange
    · exact absurd ‹_› (hown _)
    · cases hrange

theorem readClassRange?_follows (flags : Flags) (h : Tail hash own wrapped) :
    Follows (Same hash own.tail) (fun result => Spent result.2) (readClassRange? flags own)
      (readClassRange? flags wrapped) := by
  rw [readClassRange?_eq, readClassRange?_eq]
  refine (readClassItem?_follows flags h).bind ?_ ?_
  · rintro ⟨first, rest⟩ ⟨_, rest'⟩ ⟨rfl, hsuffix, htail⟩
    simp only [← isRange_tail flags htail]
    split
    · rename_i hrange
      obtain ⟨after, after', hafter, hafter', hclosed⟩ := exists_of_isRange htail hrange
      have hbehind : flags.skip after <:+ own.tail :=
        (flags.skip_suffix after).trans ((List.suffix_cons '-' after).trans
          (hafter ▸ (flags.skip_suffix rest).trans hsuffix))
      simp only [hafter, hafter', List.drop_succ_cons, List.drop_zero]
      refine (readClassItem?_follows flags (flags.skip_tail hclosed)).bind ?_ ?_
      · rintro ⟨last, end_⟩ ⟨_, end'⟩ ⟨rfl, hend, hlast⟩
        cases rangeSet? flags first last with
        | none => exact .refused
        | some set => exact .same ⟨rfl, hend.trans ((List.tail_suffix _).trans hbehind), hlast⟩
      · rintro ⟨last, end_⟩ (hspent | ⟨⟨condition, rfl⟩, -⟩)
        · exact .lost_map fun _ => hspent
        · cases first <;> exact .refused
    · cases itemSet? flags first with
      | none => exact .refused
      | some set =>
        exact .same ⟨rfl, (flags.skip_suffix rest).trans hsuffix, flags.skip_tail htail⟩
  · rintro ⟨item, rest⟩ (hspent | ⟨⟨condition, rfl⟩, hhollow⟩)
    · simp only [isRange_of_spent hspent]
      exact .lost_map fun _ => by simpa [InClosing.skip_eq (.inr hspent)] using hspent
    · simp only [isRange_of_hollowBrace hhollow]
      exact .refused

/-! ### Bodies of classes -/

theorem readClassRange?_of_inClosing {flags : Flags} {text rest : List Char} {set : CharSet}
    (h : InClosing text) (hread : readClassRange? flags text = some (set, rest)) : Spent rest := by
  have hitem : ∀ c rest', Spent rest' →
      readClassItem? flags (c :: rest') = some (.literal c, rest') →
      readClassRange? flags (c :: rest') = some (set, rest) → Spent rest := by
    intro c rest' hspent hitem hread
    rw [readClassRange?_eq, hitem, Option.bind_some] at hread
    simp only [isRange_of_spent hspent, InClosing.skip_eq (.inr hspent), Bool.false_eq_true,
      if_false] at hread
    obtain ⟨_, _, hpair⟩ := Option.map_eq_some_iff.mp hread
    exact (Prod.mk.inj hpair).2 ▸ hspent
  rcases h with rfl | rfl | rfl
  · exact hitem ')' ['$'] (.inl rfl) rfl hread
  · exact hitem '$' [] (.inr rfl) rfl hread
  · cases hread

/-- What the body of a class goes on with at a text from which blanks and comments have been skipped. -/
def bodyStep? (flags : Flags) (fuel : Nat) (negated : Bool) (body : ClassBody) (text : List Char) :
    Option (CharSet × Nat × List Char) :=
  match text with
  | [] => none
  | ']' :: rest =>
    let folded := flags.fold (body.set flags)
    some (if negated then .complement folded else folded, 1, rest)
  | '&' :: '&' :: rest =>
    readClassBody? flags fuel negated (body.operate flags .intersection) rest
  | '-' :: '-' :: rest =>
    readClassBody? flags fuel negated (body.operate flags .difference) rest
  | '~' :: '~' :: rest =>
    readClassBody? flags fuel negated (body.operate flags .symmetricDifference) rest
  | '[' :: rest =>
    match readNamedClass? flags rest with
    | some (set, rest) => readClassBody? flags fuel negated (body.add set) rest
    | none => do
      let (innerNegated, inner, rest) ← openClass? flags rest
      let (set, depth, rest) ← readClassBody? flags fuel innerNegated inner rest
      let (whole, outerDepth, rest) ← readClassBody? flags fuel negated (body.add set) rest
      some (whole, max (depth + 1) outerDepth, rest)
  | rest => do
    let (set, rest) ← readClassRange? flags rest
    readClassBody? flags fuel negated (body.add set) rest

/-- The body of a class is read one step after the other. -/
theorem readClassBody?_eq_step (flags : Flags) (fuel : Nat) (negated : Bool) (body : ClassBody)
    (text : List Char) :
    readClassBody? flags (fuel + 1) negated body text =
      bodyStep? flags fuel negated body (flags.skip text) := by
  rw [readClassBody?]
  rfl

/-- No class ends within the closing. -/
theorem readClassBody?_of_inClosing {flags : Flags} {text : List Char}
    (h : InClosing (flags.skip text)) (fuel : Nat) (negated : Bool) (body : ClassBody) :
    readClassBody? flags fuel negated body text = none := by
  induction fuel generalizing text body with
  | zero => rfl
  | succ fuel ih =>
    have hnext : ∀ text', InClosing text' →
        ((readClassRange? flags text').bind fun read =>
          readClassBody? flags fuel negated (body.add read.1) read.2) = none := by
      intro text' h'
      rw [Option.bind_eq_none_iff]
      rintro ⟨set, rest⟩ hread
      have hspent : InClosing rest := .inr (readClassRange?_of_inClosing h' hread)
      exact ih (by rwa [hspent.skip_eq]) _
    rcases h with htext | htext | htext
    · rw [readClassBody?_eq_step, htext]
      exact hnext closing (.inl rfl)
    · rw [readClassBody?_eq_step, htext]
      exact hnext ['$'] (.inr (.inl rfl))
    · rw [readClassBody?_eq_step, htext]
      rfl

/-! Each step of a body by the character that it starts with. -/

section Steps

variable {flags : Flags} {text rest : List Char} (fuel : Nat) (negated : Bool) (body : ClassBody)

theorem readClassBody?_of_close (h : flags.skip text = ']' :: rest) :
    readClassBody? flags (fuel + 1) negated body text =
      some (if negated then .complement (flags.fold (body.set flags))
        else flags.fold (body.set flags), 1, rest) := by
  rw [readClassBody?_eq_step, h]
  rfl

/-- The operation that a character stands for when it is written twice. -/
def setOperation? (c : Char) : Option SetOperation :=
  match c with
  | '&' => some .intersection
  | '-' => some .difference
  | '~' => some .symmetricDifference
  | _ => none

theorem readClassBody?_of_operator {c : Char} {operation : SetOperation}
    (h : flags.skip text = c :: c :: rest) (hoperation : setOperation? c = some operation) :
    readClassBody? flags (fuel + 1) negated body text =
      readClassBody? flags fuel negated (body.operate flags operation) rest := by
  unfold setOperation? at hoperation
  split at hoperation
  · cases hoperation
    rw [readClassBody?_eq_step, h]
    rfl
  · cases hoperation
    rw [readClassBody?_eq_step, h]
    rfl
  · cases hoperation
    rw [readClassBody?_eq_step, h]
    rfl
  · cases hoperation

theorem readClassBody?_of_named {after : List Char} {set : CharSet}
    (h : flags.skip text = '[' :: rest) (hnamed : readNamedClass? flags rest = some (set, after)) :
    readClassBody? flags (fuel + 1) negated body text =
      readClassBody? flags fuel negated (body.add set) after := by
  rw [readClassBody?_eq_step, h]
  simp only [bodyStep?, hnamed]

theorem readClassBody?_of_nested (h : flags.skip text = '[' :: rest)
    (hnamed : readNamedClass? flags rest = none) :
    readClassBody? flags (fuel + 1) negated body text =
      (openClass? flags rest).bind fun (innerNegated, inner, rest) =>
        (readClassBody? flags fuel innerNegated inner rest).bind fun (set, depth, rest) =>
          (readClassBody? flags fuel negated (body.add set) rest).map
            fun (whole, outerDepth, rest) => (whole, max (depth + 1) outerDepth, rest) := by
  rw [readClassBody?_eq_step, h]
  simp only [bodyStep?, hnamed, Option.map_eq_bind]
  rfl

/-- That a body goes on with an item: the text neither closes it nor opens a class nor starts with
an operator. -/
def StartsItem (c : Char) (rest : List Char) : Prop :=
  c ≠ ']' ∧ c ≠ '[' ∧ ∀ operation, setOperation? c = some operation → ∀ more, rest ≠ c :: more

theorem readClassBody?_of_startsItem {c : Char} (h : flags.skip text = c :: rest)
    (hitem : StartsItem c rest) :
    readClassBody? flags (fuel + 1) negated body text =
      (readClassRange? flags (c :: rest)).bind fun (set, rest) =>
        readClassBody? flags fuel negated (body.add set) rest := by
  obtain ⟨hclose, hopen, hoperator⟩ := hitem
  rw [readClassBody?_eq_step, h]
  unfold bodyStep?
  split
  · contradiction
  · rename_i heq
    exact absurd (List.cons.inj heq).1 hclose
  · rename_i heq
    cases heq
    exact absurd rfl (hoperator .intersection rfl _)
  · rename_i heq
    cases heq
    exact absurd rfl (hoperator .difference rfl _)
  · rename_i heq
    cases heq
    exact absurd rfl (hoperator .symmetricDifference rfl _)
  · rename_i heq
    exact absurd (List.cons.inj heq).1 hopen
  · rfl

end Steps

/-- That bodies of classes are read the same from all ends of a text. -/
def BodiesFollow (hash : Prop) (flags : Flags) (fuel more : Nat) (text : List Char) : Prop :=
  ∀ {own wrapped : List Char}, own <:+ text → Tail hash own wrapped →
    ∀ (negated : Bool) (body : ClassBody),
      Follows (SameBoth hash text) (fun _ => False) (readClassBody? flags fuel negated body own)
        (readClassBody? flags more negated body wrapped)

section Following

variable {flags : Flags} {fuel more : Nat} {text text' : List Char} {negated : Bool}
  {body : ClassBody}

/-- A bracket opens a class with a name, or one with a body of its own. -/
theorem BodiesFollow.bracket (h : BodiesFollow hash flags fuel more own)
    (htail : Tail hash own wrapped) (htext : flags.skip text = '[' :: own)
    (htext' : flags.skip text' = '[' :: wrapped) :
    Follows (SameBoth hash own) (fun _ => False)
      (readClassBody? flags (fuel + 1) negated body text)
      (readClassBody? flags (more + 1) negated body text') := by
  have hnamed := readNamedClass?_follows flags htail
  generalize hown : readNamedClass? flags own = named at hnamed
  generalize hwrapped : readNamedClass? flags wrapped = named' at hnamed
  cases hnamed with
  | @same read read' hsame =>
    obtain ⟨set, rest⟩ := read
    obtain ⟨_, rest'⟩ := read'
    obtain ⟨rfl, hrest, hclosed⟩ := hsame
    rw [readClassBody?_of_named _ _ _ htext hown, readClassBody?_of_named _ _ _ htext' hwrapped]
    exact h hrest hclosed _ _
  | lost hlost => exact hlost.elim
  | refused =>
    rw [readClassBody?_of_nested _ _ _ htext hown, readClassBody?_of_nested _ _ _ htext' hwrapped]
    refine (openClass?_follows flags htail).bind ?_ ?_
    · rintro ⟨innerNegated, inner, rest⟩ ⟨_, _, rest'⟩ ⟨rfl, rfl, hrest, hclosed⟩
      refine (h hrest hclosed innerNegated inner).bind ?_ fun _ => False.elim
      rintro ⟨set, depth, last⟩ ⟨_, _, last'⟩ ⟨rfl, rfl, hlast, hend⟩
      exact (h hlast hend negated (body.add set)).map
        (fun _ _ h => ⟨h.1, congrArg (max (depth + 1)) h.2.1, h.2.2⟩) fun _ => id
    · rintro ⟨innerNegated, inner, rest⟩ hlost
      simp only [readClassBody?_of_inClosing (hlost.skip_eq flags ▸ hlost)]
      exact .refused

/-- Items follow although they are read from the text with their first character. -/
theorem BodiesFollow.item {c : Char} (h : BodiesFollow hash flags fuel more own)
    (htail : Tail hash (c :: own) (c :: wrapped)) :
    Follows (SameBoth hash own) (fun _ => False)
      ((readClassRange? flags (c :: own)).bind fun (set, rest) =>
        readClassBody? flags fuel negated (body.add set) rest)
      ((readClassRange? flags (c :: wrapped)).bind fun (set, rest) =>
        readClassBody? flags more negated (body.add set) rest) := by
  refine (readClassRange?_follows flags htail).bind ?_ ?_
  · rintro ⟨set, rest⟩ ⟨_, rest'⟩ ⟨rfl, hrest, hclosed⟩
    exact h hrest hclosed _ _
  · rintro ⟨set, rest⟩ hlost
    have hlost : InClosing rest := .inr hlost
    simp only [readClassBody?_of_inClosing (hlost.skip_eq flags ▸ hlost)]
    exact .refused

theorem StartsItem.before_closing {c : Char} (h : StartsItem c own)
    (htail : Tail hash own wrapped) : StartsItem c wrapped := by
  refine ⟨h.1, h.2.1, ?_⟩
  rintro operation hoperation rest rfl
  have hc : c ≠ ')' := by
    rintro rfl
    cases hoperation
  obtain ⟨rest, rfl, -⟩ := htail.exists_of_wrapped_cons hc
  exact h.2.2 operation hoperation rest rfl

/-- A character that does not close the body is read alike when all behind it is. -/
theorem BodiesFollow.step {c : Char} (h : BodiesFollow hash flags fuel more own)
    (htail : Tail hash own wrapped) (hskip : Tail hash (c :: own) (c :: wrapped))
    (htext : flags.skip text = c :: own) (htext' : flags.skip text' = c :: wrapped)
    (hclose : c ≠ ']') :
    Follows (SameBoth hash own) (fun _ => False)
      (readClassBody? flags (fuel + 1) negated body text)
      (readClassBody? flags (more + 1) negated body text') := by
  by_cases hopen : c = '['
  · subst hopen
    exact h.bracket htail htext htext'
  by_cases hoperator : ∃ operation rest, setOperation? c = some operation ∧ own = c :: rest
  · obtain ⟨operation, rest, hoperation, rfl⟩ := hoperator
    obtain ⟨rest', rfl, hclosed⟩ := htail.exists_of_cons
    rw [readClassBody?_of_operator _ _ _ htext hoperation,
      readClassBody?_of_operator _ _ _ htext' hoperation]
    exact h (List.suffix_cons c rest) hclosed _ _
  have hitem : StartsItem c own := ⟨hclose, hopen, fun operation hoperation rest heq =>
    hoperator ⟨operation, rest, hoperation, heq⟩⟩
  rw [readClassBody?_of_startsItem _ _ _ htext hitem,
    readClassBody?_of_startsItem _ _ _ htext' (hitem.before_closing htail)]
  exact h.item hskip

end Following

theorem readClassBody?_follows (flags : Flags) {fuel more : Nat} (h : Tail hash own wrapped)
    (hfuel : own.length < fuel) (hmore : own.length + 2 < more) (negated : Bool)
    (body : ClassBody) :
    Follows (SameBoth hash own) (fun _ => False) (readClassBody? flags fuel negated body own)
      (readClassBody? flags more negated body wrapped) := by
  induction fuel generalizing more own wrapped negated body with
  | zero => exact absurd hfuel (Nat.not_lt_zero _)
  | succ fuel ih =>
    obtain ⟨more, rfl⟩ : ∃ n, more = n + 1 := ⟨more - 1, by omega⟩
    have hskip := flags.skip_tail h
    have hsuffix := flags.skip_suffix own
    cases htext : flags.skip own with
    | nil =>
      rw [htext] at hskip
      have hclosing : InClosing (flags.skip wrapped) := by
        rcases hskip.of_nil with htext' | htext'
        · exact .inl htext'
        · exact .inr (.inr htext')
      rw [readClassBody?_of_inClosing hclosing, readClassBody?_of_inClosing (.inr (.inr htext))]
      exact .refused
    | cons c rest =>
      rw [htext] at hskip hsuffix
      obtain ⟨rest', htext', htail⟩ := hskip.exists_of_cons
      rw [htext'] at hskip
      have hrest := (List.suffix_cons c rest).trans hsuffix
      by_cases hclose : c = ']'
      · subst hclose
        rw [readClassBody?_of_close _ _ _ htext, readClassBody?_of_close _ _ _ htext']
        exact .same ⟨rfl, rfl, hrest, htail⟩
      have hbodies : BodiesFollow hash flags fuel more rest := by
        intro after after' hafter hclosed negated body
        have hlength := hsuffix.length_le
        have hbound := hafter.length_le
        rw [List.length_cons] at hlength
        exact (ih hclosed (by omega) (by omega) negated body).mono
          (fun _ _ h => ⟨h.1, h.2.of_suffix hafter⟩) fun _ => id
      exact (hbodies.step htail hskip htext htext' hclose).mono
        (fun _ _ h => ⟨h.1, h.2.of_suffix hrest⟩) fun _ => id

theorem readClass?_follows (flags : Flags) (h : Tail hash own wrapped) :
    Follows (SameBoth hash own) (fun _ => False) (readClass? flags own)
      (readClass? flags wrapped) := by
  cases h with
  | swallowed _ =>
    have hopen : openClass? flags [] = none := by
      rw [openClass?_of_ne (by simp), flags.skip_nil]
      rfl
    rw [readClass?, hopen]
    exact .refused
  | kept _ h =>
    rw [readClass?, readClass?]
    refine (openClass?_follows flags (.kept own h)).bind ?_ ?_
    · rintro ⟨negated, body, rest⟩ ⟨_, _, rest'⟩ ⟨rfl, rfl, hrest, htail⟩
      have hlength : rest.length ≤ own.length := hrest.length_le
      have hwrapped : (own ++ closing).length = own.length + 2 := List.length_append
      refine (readClassBody?_follows flags htail (by simp only; omega) (by simp only; omega)
        negated body).bind ?_ fun _ => False.elim
      rintro ⟨set, depth, last⟩ ⟨_, _, last'⟩ ⟨rfl, rfl, hlast, hclosed⟩
      simp only
      cases flags.finishSet? set with
      | none => exact .refused
      | some set => exact .same ⟨rfl, rfl, hlast.trans hrest, hclosed⟩
    · rintro ⟨negated, body, rest⟩ hlost
      simp only [readClassBody?_of_inClosing (hlost.skip_eq flags ▸ hlost)]
      exact .refused

end Classes

end MetricBench.Regex
