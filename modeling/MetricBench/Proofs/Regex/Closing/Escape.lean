import MetricBench.Proofs.Regex.Closing.Text

/-!
# Escapes before a closing parenthesis
-/

namespace MetricBench.Regex

/-! ### Escapes -/

section Escapes

variable {hash : Prop} {own wrapped : List Char}

theorem readCode?_follows (flags : Flags) (width : Nat) (h : Tail hash own wrapped) :
    Follows (Same hash own) (fun _ => False) (readCode? flags width own)
      (readCode? flags width wrapped) := by
  have hcheck : ∀ (digits : List Char) (short : Bool) {after after' : List Char},
      after <:+ own → Tail hash after after' →
      Follows (Same hash own) (fun _ => False)
        ((Text.charOfCode? (Text.hexNumber digits)).bind fun c =>
          if short && !flags.unicode && 127 < c.toNat then none
          else some (Atom.literal c, flags.skip after))
        ((Text.charOfCode? (Text.hexNumber digits)).bind fun c =>
          if short && !flags.unicode && 127 < c.toNat then none
          else some (Atom.literal c, flags.skip after')) := by
    intro digits short after after' hsuffix htail
    cases Text.charOfCode? (Text.hexNumber digits) with
    | none => exact .refused
    | some c =>
      simp only [Option.bind_some]
      split
      · exact .refused
      · exact .same ⟨rfl, (flags.skip_suffix after).trans hsuffix, flags.skip_tail htail⟩
  have hskip := flags.skip_tail h
  have hsuffix := flags.skip_suffix own
  rw [readCode?, readCode?]
  generalize flags.skip own = text at hskip hsuffix ⊢
  generalize flags.skip wrapped = text' at hskip ⊢
  rcases hskip.head_cases (c := '\x7b') (by decide) with
    ⟨rest, rest', rfl, rfl, htail⟩ | ⟨hown, hwrapped⟩
  · obtain ⟨digits, after, after', hdigits, hdigits', hafter, hclosed⟩ :=
      flags.exists_taken Text.isHexDigit (by decide) (flags.skip_tail htail)
        (flags.skip_suffix rest).length_le (flags.skip_suffix rest').length_le
    have hinside : after <:+ own :=
      hafter.trans ((flags.skip_suffix rest).trans ((List.suffix_cons _ rest).trans hsuffix))
    simp only [hdigits, hdigits']
    rcases hclosed.head_cases (c := '\x7d') (by decide) with
      ⟨last, last', rfl, rfl, hlast⟩ | ⟨hown, hwrapped⟩
    · simp only
      split
      · exact .refused
      · exact hcheck digits false ((List.suffix_cons _ last).trans hinside) hlast
    · split
      · rename_i heq
        cases heq
        exact absurd rfl (hown _)
      · split
        · rename_i heq
          cases heq
          exact absurd rfl (hwrapped _)
        · exact .refused
  · obtain ⟨htaken, hafter, hclosed⟩ :=
      flags.takeSpaced_same Text.isHexDigit (by decide) width hskip
    split
    · exact absurd rfl (hown _)
    · simp only [← htaken]
      split
      · exact hcheck _ _ (hafter.trans hsuffix) hclosed
      · exact .refused

theorem readProperty?_of_ne {flags : Flags} {text rest : List Char} {c : Char}
    (h : flags.skip text = c :: rest) (hc : c ≠ '\x7b') (negated : Bool) :
    readProperty? flags negated text =
      if c = '\\' then none
      else (propertySet? [c]).map fun set =>
        (if negated then .complement (flags.fold set) else flags.fold set, flags.skip rest) := by
  rw [readProperty?, h]
  split
  · rename_i heq
    cases heq
  · rename_i heq
    cases heq
    exact absurd rfl hc
  · rename_i heq
    cases heq
    cases negated <;> rfl

theorem readProperty?_follows (flags : Flags) (negated : Bool) (h : Tail hash own wrapped) :
    Follows (Same hash own) (fun result => Spent result.2) (readProperty? flags negated own)
      (readProperty? flags negated wrapped) := by
  have hskip := flags.skip_tail h
  have hsuffix := flags.skip_suffix own
  cases htext : flags.skip own with
  | nil =>
    rw [htext] at hskip
    rw [readProperty?, htext]
    rcases hskip.of_nil with htext' | htext'
    · rw [readProperty?_of_ne htext' (by decide), if_neg (by decide)]
      exact .lost_map fun set => .inl flags.skip_dollar
    · rw [readProperty?, htext']
      exact .refused
  | cons c rest =>
    rw [htext] at hskip hsuffix
    obtain ⟨rest', htext', htail⟩ := hskip.exists_of_cons
    have hrest := (List.suffix_cons c rest).trans hsuffix
    by_cases hbrace : c = '\x7b'
    · subst hbrace
      rw [readProperty?, readProperty?, htext, htext']
      simp only
      rcases flags.exists_taken_brace (flags.skip_tail htail) (flags.skip_suffix rest).length_le
          (flags.skip_suffix rest').length_le with
        ⟨description, after, after', hown, hwrapped, hafter, hclosed⟩ |
          ⟨taken, taken', hown, hwrapped⟩
      · rw [hown, hwrapped]
        cases after with
        | nil =>
          rcases hclosed.of_nil with rfl | rfl
          · exact .lost_map fun found => .inl rfl
          · exact .refused
        | cons last after =>
          obtain ⟨after', rfl, hlast⟩ := hclosed.exists_of_cons
          simp only
          cases describedSet? description with
          | none => exact .refused
          | some found =>
            exact .same ⟨rfl, (List.suffix_cons last after).trans (hafter.trans
              ((flags.skip_suffix rest).trans hrest)), hlast⟩
      · rw [hown, hwrapped]
        exact .refused
    · rw [readProperty?_of_ne htext hbrace, readProperty?_of_ne htext' hbrace]
      split
      · exact .refused
      · cases propertySet? [c] with
        | none => exact .refused
        | some set =>
          exact .same ⟨rfl, (flags.skip_suffix rest).trans hrest, flags.skip_tail htail⟩

/-- A brace before the closing with nothing in it, as it is left when the name of a word boundary
was to follow: neither a count nor an item of a class. -/
def HollowBrace (flags : Flags) (text : List Char) : Prop :=
  ∃ rest, text = '\x7b' :: rest ∧ flags.skip rest = closing

theorem readEdge?_follows (flags : Flags) (h : Tail hash own wrapped) :
    Follows (Same hash own) (fun result => HollowBrace flags result.2) (readEdge? flags own)
      (readEdge? flags wrapped) := by
  rcases h.head_cases (c := '\x7b') (by decide) with
    ⟨rest, rest', rfl, rfl, htail⟩ | ⟨hown, hwrapped⟩
  · have hskip := flags.skip_tail htail
    have hlength := (flags.skip_suffix rest).length_le
    have hlength' := (flags.skip_suffix rest').length_le
    cases htext : flags.skip rest with
    | nil =>
      rw [htext] at hskip
      simp only [readEdge?, htext]
      rcases hskip.of_nil with htext' | htext'
      · simp only [htext', closing]
        exact .lost ⟨rest', rfl, htext'⟩
      · simp only [htext']
        exact .refused
    | cons c name =>
      rw [htext] at hskip hlength
      obtain ⟨name', htext', hname⟩ := hskip.exists_of_cons
      rw [htext'] at hskip hlength'
      simp only [readEdge?, htext, htext']
      split
      · exact .same ⟨rfl, List.suffix_rfl, h⟩
      · obtain ⟨letters, after, after', htaken, htaken', hafter, hclosed⟩ :=
          flags.exists_taken (fun c => c.isAlpha || c == '-') (by decide) hskip hlength
            hlength'
        simp only [htaken, htaken']
        rcases hclosed.head_cases (c := '\x7d') (by decide) with
          ⟨last, last', rfl, rfl, hlast⟩ | ⟨hown, hwrapped⟩
        · simp only
          cases namedEdge? (.ofList letters) with
          | none => exact .refused
          | some edge =>
            have hname : c :: name <:+ rest := htext ▸ flags.skip_suffix rest
            exact .same ⟨rfl, (List.suffix_cons _ last).trans (hafter.trans
              (hname.trans (List.suffix_cons _ rest))), hlast⟩
        · split
          · rename_i heq
            cases heq
            exact absurd rfl (hown _)
          · split
            · rename_i heq
              cases heq
              exact absurd rfl (hwrapped _)
            · exact .refused
  · simp only [readEdge?]
    exact .same ⟨rfl, List.suffix_rfl, h⟩

/-- What can come of an escape that needs some of the closing. -/
def LostEscape (flags : Flags) (result : Atom × List Char) : Prop :=
  Spent result.2 ∨ (∃ condition, result.1 = .assertion condition) ∧ HollowBrace flags result.2

theorem readEscape?_follows (flags : Flags) (h : Tail hash own wrapped) :
    Follows (Same hash own) (LostEscape flags) (readEscape? flags own)
      (readEscape? flags wrapped) := by
  cases own with
  | nil =>
    rcases h.of_nil with rfl | rfl
    · exact .lost (.inl (.inl rfl))
    · exact .refused
  | cons c rest =>
    obtain ⟨rest', rfl, htail⟩ := h.exists_of_cons
    have hsuffix := List.suffix_cons c rest
    have hcode : ∀ width, Follows (Same hash (c :: rest)) (LostEscape flags)
        (readCode? flags width rest) (readCode? flags width rest') := fun width =>
      (readCode?_follows flags width htail).mono (fun _ _ h => h.of_suffix hsuffix)
        fun _ => False.elim
    have hproperty : ∀ negated, Follows (Same hash (c :: rest)) (LostEscape flags)
        (if !flags.unicode then none
          else (readProperty? flags negated rest).map fun read => (Atom.set read.1, read.2))
        (if !flags.unicode then none
          else (readProperty? flags negated rest').map fun read => (Atom.set read.1, read.2)) := by
      intro negated
      split
      · exact .refused
      · exact (readProperty?_follows flags negated htail).map
          (fun _ _ h => h.value Atom.set hsuffix) fun _ h => .inl h
    unfold readEscape?
    split
    all_goals
      rename_i heq
      cases heq <;> simp only
    · exact hcode 2
    · exact hcode 4
    · exact hcode 8
    · exact hproperty false
    · exact hproperty true
    · exact .same (.behind htail)
    · exact .same (.behind htail)
    · exact .same (.behind htail)
    · exact .same (.behind htail)
    · exact .same (.behind htail)
    · exact (readEdge?_follows flags htail).map
        (fun _ _ h => h.value (fun edge => Atom.assertion (.word (!flags.unicode) edge)) hsuffix)
        fun _ h => .inr ⟨⟨_, rfl⟩, h⟩
    · cases letterSet? flags c with
      | some set => exact .same (.behind htail)
      | none =>
        cases letterSet? flags c.toLower with
        | some set => exact .same (.behind htail)
        | none =>
          cases controlChar? c with
          | some control => exact .same (.behind htail)
          | none =>
            simp only
            split
            · exact .same (.behind htail)
            · exact .refused

end Escapes

end MetricBench.Regex
