import MetricBench.Proofs.Regex.Closing.Class

/-!
# Groups before a closing parenthesis

Main statement: a group is read the same by itself and before the closing, which is left over then;
the only other thing that a text with the closing can be read as is a group that goes on to the end
(`readGroup?_follows`).
-/

namespace MetricBench.Regex

section Groups

variable {hash : Prop} {own wrapped : List Char}

theorem skipLazy_suffix (text : List Char) : skipLazy text <:+ text := by
  unfold skipLazy
  split
  · exact List.suffix_cons _ _
  · exact List.suffix_rfl

theorem skipLazy_tail (h : Tail hash own wrapped) :
    Tail hash (skipLazy own) (skipLazy wrapped) := by
  rcases h.head_cases (c := '?') (by decide) with
    ⟨rest, rest', rfl, rfl, htail⟩ | ⟨hown, hwrapped⟩
  · exact htail
  · have hlazy : ∀ {text : List Char}, (∀ rest, text ≠ '?' :: rest) → skipLazy text = text := by
      intro text htext
      rw [skipLazy]
      exact htext
    rwa [hlazy hown, hlazy hwrapped]

theorem readCount?_follows (flags : Flags) (h : Tail hash own wrapped) :
    Follows (Same hash own) (fun _ => False) (readCount? flags own) (readCount? flags wrapped) := by
  obtain ⟨digits, rest, rest', hdigits, hdigits', hrest, htail⟩ :=
    flags.exists_taken Char.isDigit (by decide) (trimStart_tail h)
      (List.dropWhile_suffix Text.isBlank).length_le
      (List.dropWhile_suffix Text.isBlank).length_le
  obtain ⟨blanks, after, after', hblanks, hblanks', hafter, hclosed⟩ :=
    flags.exists_taken Text.isBlank (by decide) htail (Nat.le_refl _) (Nat.le_refl _)
  have hsuffix : after <:+ own :=
    hafter.trans (hrest.trans (List.dropWhile_suffix Text.isBlank))
  simp only [readCount?, hdigits, hdigits', hblanks, hblanks']
  split
  · exact .same ⟨rfl, hsuffix, hclosed⟩
  · split
    · exact .same ⟨rfl, hsuffix, hclosed⟩
    · exact .refused

/-- Counts that the closing brace comes behind. -/
def closeCounts? (flags : Flags) (least : Nat) (most : Option Nat) (text : List Char) :
    Option (Nat × Option Nat × List Char) :=
  match text with
  | '\x7d' :: rest => some (least, most, skipLazy (flags.skip rest))
  | _ => none

/-- The second count behind a comma, or the closing brace in its place. -/
def readMost? (flags : Flags) (least : Nat) (text : List Char) :
    Option (Nat × Option Nat × List Char) :=
  match text with
  | '\x7d' :: rest => some (least, none, skipLazy (flags.skip rest))
  | text =>
    (readCount? flags text).bind fun read =>
      read.1.bind fun most =>
        if most < least then none else closeCounts? flags least (some most) read.2

theorem closeCounts?_of_ne {flags : Flags} {text : List Char} (h : ∀ rest, text ≠ '\x7d' :: rest)
    (least : Nat) (most : Option Nat) : closeCounts? flags least most text = none := by
  unfold closeCounts?
  split
  · exact absurd rfl (h _)
  · rfl

theorem readMost?_of_ne {flags : Flags} {text : List Char} (h : ∀ rest, text ≠ '\x7d' :: rest)
    (least : Nat) :
    readMost? flags least text = (readCount? flags text).bind fun read =>
      read.1.bind fun most =>
        if most < least then none else closeCounts? flags least (some most) read.2 := by
  unfold readMost?
  split
  · exact absurd rfl (h _)
  · rfl

theorem readCounts?_eq (flags : Flags) (text : List Char) :
    readCounts? flags text = (readCount? flags (flags.skip text)).bind fun read =>
      read.1.bind fun least =>
        match read.2 with
        | ',' :: rest => readMost? flags least (flags.skip rest)
        | rest => closeCounts? flags least (some least) rest := by
  rw [readCounts?]
  simp only [Option.bind_eq_bind]
  congr 1
  funext ⟨least, rest⟩
  simp only
  split
  · rfl
  · rename_i rest
    simp only [Option.bind_some]
    split
    · rename_i hclose
      rw [hclose]
      rfl
    · rename_i hclose
      rw [readMost?_of_ne hclose]
      congr 1
      funext ⟨most, rest⟩
      simp only
      split
      · rfl
      · rename_i hnone
        cases most with
        | none => rfl
        | some most =>
          rw [Option.bind_some, closeCounts?_of_ne fun last hlast => hnone most last rfl hlast,
            ite_self]
  · rename_i hclose hcomma
    cases least with
    | none => rfl
    | some least =>
      simp only [Option.bind_some]
      split
      · exact absurd rfl (hcomma least _ rfl)
      · rw [closeCounts?_of_ne fun last hlast => hclose least last rfl hlast]

theorem closeCounts?_follows (flags : Flags) (least : Nat) (most : Option Nat)
    (h : Tail hash own wrapped) :
    Follows (SameBoth hash own) (fun _ => False) (closeCounts? flags least most own)
      (closeCounts? flags least most wrapped) := by
  rcases h.head_cases (c := '\x7d') (by decide) with
    ⟨rest, rest', rfl, rfl, htail⟩ | ⟨hown, hwrapped⟩
  · exact .same ⟨rfl, rfl, (skipLazy_suffix _).trans ((flags.skip_suffix rest).trans
      (List.suffix_cons _ rest)), skipLazy_tail (flags.skip_tail htail)⟩
  · rw [closeCounts?_of_ne hown, closeCounts?_of_ne hwrapped]
    exact .refused

theorem readMost?_follows (flags : Flags) (least : Nat) (h : Tail hash own wrapped) :
    Follows (SameBoth hash own) (fun _ => False) (readMost? flags least own)
      (readMost? flags least wrapped) := by
  rcases h.head_cases (c := '\x7d') (by decide) with
    ⟨rest, rest', rfl, rfl, htail⟩ | ⟨hown, hwrapped⟩
  · exact closeCounts?_follows flags least none h
  · rw [readMost?_of_ne hown, readMost?_of_ne hwrapped]
    refine (readCount?_follows flags h).bind ?_ fun _ => False.elim
    rintro ⟨most, rest⟩ ⟨_, rest'⟩ ⟨rfl, hrest, htail⟩
    cases most with
    | none => exact .refused
    | some most =>
      simp only [Option.bind_some]
      split
      · exact .refused
      · exact (closeCounts?_follows flags least (some most) htail).mono
          (fun _ _ h => ⟨h.1, h.2.of_suffix hrest⟩) fun _ => id

theorem readCounts?_follows (flags : Flags) (h : Tail hash own wrapped) :
    Follows (SameBoth hash own) (fun _ => False) (readCounts? flags own)
      (readCounts? flags wrapped) := by
  rw [readCounts?_eq, readCounts?_eq]
  refine (readCount?_follows flags (flags.skip_tail h)).bind ?_ fun _ => False.elim
  rintro ⟨least, rest⟩ ⟨_, rest'⟩ ⟨rfl, hrest, htail⟩
  have hrest := hrest.trans (flags.skip_suffix own)
  cases least with
  | none => exact .refused
  | some least =>
    simp only [Option.bind_some]
    rcases htail.head_cases (c := ',') (by decide) with
      ⟨after, after', rfl, rfl, hafter⟩ | ⟨hown, hwrapped⟩
    · have hsuffix := (flags.skip_suffix after).trans ((List.suffix_cons _ after).trans hrest)
      exact (readMost?_follows flags least (flags.skip_tail hafter)).mono
        (fun _ _ h => ⟨h.1, h.2.of_suffix hsuffix⟩) fun _ => id
    · split
      · exact absurd rfl (hown _)
      · exact (closeCounts?_follows flags least (some least) htail).mono
          (fun _ _ h => ⟨h.1, h.2.of_suffix hrest⟩) fun _ => id

/-! ### Openings -/

theorem readGroupName?_follows (names : GroupNames) (h : Tail hash own wrapped) :
    Follows (Same hash own) (fun _ => False) (readGroupName? names own)
      (readGroupName? names wrapped) := by
  rw [readGroupName?, readGroupName?]
  rcases cutBefore_tail (· == '>') (by decide) h with
    ⟨name, c, rest, rest', hc, hown, hwrapped, hafter, htail⟩ | ⟨name, name', hown, hwrapped⟩
  · rw [hown, hwrapped]
    cases name with
    | nil => exact .refused
    | cons first name =>
      simp only
      split
      · exact .same ⟨rfl, (List.suffix_cons c rest).trans hafter, htail⟩
      · exact .refused
  · rw [hown, hwrapped]
    cases name <;> cases name' <;> exact .refused

/-- Flags that are set by the closing parenthesis, or nothing. -/
def LostOpening (result : Opening × List Char) : Prop :=
  (∃ flags, result.1 = .setFlags flags) ∧ result.2 = ['$']

section Openings

variable {flags : Flags} {text rest : List Char} (names : GroupNames)

theorem readOpening?_of_ne (h : ∀ rest, flags.skip text ≠ '?' :: rest) :
    readOpening? flags names text = some (.group flags names, flags.skip text) := by
  rw [readOpening?]
  split <;> simp_all

theorem readOpening?_of_name (h : flags.skip text = '?' :: 'P' :: '<' :: rest) :
    readOpening? flags names text =
      (readGroupName? names rest).map fun (names, rest) => (.group flags names, rest) := by
  rw [readOpening?, h]
  rfl

theorem readOpening?_of_angle (h : flags.skip text = '?' :: '<' :: rest)
    (hequal : ∀ more, rest ≠ '=' :: more) (hnot : ∀ more, rest ≠ '!' :: more) :
    readOpening? flags names text =
      (readGroupName? names rest).map fun (names, rest) => (.group flags names, rest) := by
  rw [readOpening?, h]
  split <;> simp_all
  rename_i hangle _ heq
  exact absurd heq.symm (hangle _)

theorem readOpening?_of_look {c : Char} (h : flags.skip text = '?' :: '<' :: c :: rest)
    (hc : c = '=' ∨ c = '!') : readOpening? flags names text = none := by
  rw [readOpening?, h]
  rcases hc with rfl | rfl <;> rfl

theorem readOpening?_of_close (h : flags.skip text = '?' :: ')' :: rest) :
    readOpening? flags names text = none := by
  rw [readOpening?, h]
  rfl

/-- How a parenthesis opens whose flags have been read. -/
def lettersOpening? (names : GroupNames) (read : Option (Flags × List Char)) :
    Option (Opening × List Char) :=
  match read with
  | some (inner, ':' :: rest) => some (.group inner names, rest)
  | some (after, _ :: rest) => some (.setFlags after, rest)
  | _ => none

theorem readOpening?_of_letters (h : flags.skip text = '?' :: rest)
    (hname : ∀ more, rest ≠ 'P' :: '<' :: more) (hangle : ∀ more, rest ≠ '<' :: more)
    (hclose : ∀ more, rest ≠ ')' :: more) :
    readOpening? flags names text =
      lettersOpening? names (flags.readLetters? [] true false rest) := by
  rw [readOpening?, h]
  split <;> simp_all
  rfl

theorem lettersOpening?_cons {c : Char} (hc : c ≠ ':') (flags : Flags) (rest : List Char) :
    lettersOpening? names (some (flags, c :: rest)) = some (.setFlags flags, rest) := by
  unfold lettersOpening?
  split
  · rename_i heq
    cases heq
    exact absurd rfl hc
  · rename_i heq
    cases heq
    rfl
  · rename_i hnot
    exact absurd rfl (hnot flags c rest)

theorem lettersOpening?_follows {read read' : Option (Flags × List Char)}
    (h : Follows (Same hash own) (fun result => result.2 = closing) read read') :
    Follows (Same hash own) LostOpening (lettersOpening? names read)
      (lettersOpening? names read') := by
  have hclosing : ∀ flags,
      lettersOpening? names (some (flags, closing)) = some (.setFlags flags, ['$']) :=
    fun flags => lettersOpening?_cons names (by decide) flags ['$']
  cases h with
  | refused => exact .refused
  | @lost result hlost =>
    obtain ⟨flags, rest⟩ := result
    subst hlost
    rw [hclosing]
    exact .lost ⟨⟨flags, rfl⟩, rfl⟩
  | @same result result' hsame =>
    obtain ⟨flags, rest⟩ := result
    obtain ⟨_, rest'⟩ := result'
    obtain ⟨rfl, hrest, htail⟩ := hsame
    cases rest with
    | nil =>
      rcases htail.of_nil with rfl | rfl
      · rw [hclosing]
        exact .lost ⟨⟨flags, rfl⟩, rfl⟩
      · exact .refused
    | cons c rest =>
      obtain ⟨rest', rfl, hbehind⟩ := htail.exists_of_cons
      have hsuffix := (List.suffix_cons c rest).trans hrest
      by_cases hcolon : c = ':'
      · subst hcolon
        exact .same ⟨rfl, hsuffix, hbehind⟩
      · rw [lettersOpening?_cons names hcolon, lettersOpening?_cons names hcolon]
        exact .same ⟨rfl, hsuffix, hbehind⟩

/-- Openings with a name, of which `own` starts the text that is read. -/
theorem namedOpening_follows (flags : Flags) (h : Tail hash own wrapped) :
    Follows (Same hash own) LostOpening
      ((readGroupName? names own).map fun read => (.group flags read.1, read.2))
      ((readGroupName? names wrapped).map fun read => (.group flags read.1, read.2)) :=
  (readGroupName?_follows names h).map
    (fun _ _ h => h.value (Opening.group flags) List.suffix_rfl) fun _ => False.elim

/-- Openings by an angle bracket, before a name or an assertion about what stands before. -/
theorem angleOpening_follows {flags : Flags} {rest rest' : List Char}
    (hown : flags.skip own = '?' :: '<' :: rest)
    (hwrapped : flags.skip wrapped = '?' :: '<' :: rest') (h : Tail hash rest rest') :
    Follows (Same hash rest) LostOpening (readOpening? flags names own)
      (readOpening? flags names wrapped) := by
  rcases h.head_cases (c := '=') (by decide) with ⟨more, more', rfl, rfl, -⟩ | ⟨hequal, hequal'⟩
  · rw [readOpening?_of_look names hown (.inl rfl), readOpening?_of_look names hwrapped (.inl rfl)]
    exact .refused
  rcases h.head_cases (c := '!') (by decide) with ⟨more, more', rfl, rfl, -⟩ | ⟨hnot, hnot'⟩
  · rw [readOpening?_of_look names hown (.inr rfl), readOpening?_of_look names hwrapped (.inr rfl)]
    exact .refused
  rw [readOpening?_of_angle names hown hequal hnot,
    readOpening?_of_angle names hwrapped hequal' hnot']
  exact namedOpening_follows names flags h

/-- Openings by a question mark. -/
theorem markedOpening_follows {flags : Flags} {rest rest' : List Char}
    (hown : flags.skip own = '?' :: rest) (hwrapped : flags.skip wrapped = '?' :: rest')
    (h : Tail hash rest rest') :
    Follows (Same hash rest) LostOpening (readOpening? flags names own)
      (readOpening? flags names wrapped) := by
  have hletters := lettersOpening?_follows names (flags.readLetters?_follows [] true false h)
  cases rest with
  | nil =>
    rw [readOpening?_of_letters names hown (by simp) (by simp) (by simp)]
    rcases h.of_nil with rfl | rfl
    · rw [readOpening?_of_close names hwrapped]
      exact .refused
    · rwa [readOpening?_of_letters names hwrapped (by simp) (by simp) (by simp)]
  | cons c rest =>
    obtain ⟨rest', rfl, hbehind⟩ := h.exists_of_cons
    have hsuffix := List.suffix_cons c rest
    by_cases hclose : c = ')'
    · subst hclose
      rw [readOpening?_of_close names hown, readOpening?_of_close names hwrapped]
      exact .refused
    by_cases hangle : c = '<'
    · subst hangle
      exact (angleOpening_follows names hown hwrapped hbehind).mono
        (fun _ _ h => h.of_suffix hsuffix) fun _ => id
    by_cases hname : ∃ name, c :: rest = 'P' :: '<' :: name
    · obtain ⟨name, heq⟩ := hname
      cases heq
      obtain ⟨name', rfl, hname⟩ := hbehind.exists_of_cons
      rw [readOpening?_of_name names hown, readOpening?_of_name names hwrapped]
      exact (namedOpening_follows names flags hname).mono
        (fun _ _ h => h.of_suffix ((List.suffix_cons _ name).trans hsuffix)) fun _ => id
    · have hname' : ∀ name, c :: rest' ≠ 'P' :: '<' :: name := by
        rintro name heq
        cases heq
        obtain ⟨name, rfl, -⟩ := hbehind.exists_of_wrapped_cons (by decide)
        exact hname ⟨name, rfl⟩
      rwa [readOpening?_of_letters names hown (fun name heq => hname ⟨name, heq⟩)
          (by simp [hangle]) (by simp [hclose]),
        readOpening?_of_letters names hwrapped hname' (by simp [hangle]) (by simp [hclose])]

theorem readOpening?_follows (flags : Flags) (names : GroupNames) (h : Tail hash own wrapped) :
    Follows (Same hash own) LostOpening (readOpening? flags names own)
      (readOpening? flags names wrapped) := by
  have hskip := flags.skip_tail h
  have hsuffix := flags.skip_suffix own
  rcases hskip.head_cases (c := '?') (by decide) with
    ⟨rest, rest', hown, hwrapped, htail⟩ | ⟨hown, hwrapped⟩
  · rw [hown] at hsuffix
    exact (markedOpening_follows names hown hwrapped htail).mono
      (fun _ _ h => h.of_suffix ((List.suffix_cons _ rest).trans hsuffix)) fun _ => id
  · rw [readOpening?_of_ne names hown, readOpening?_of_ne names hwrapped]
    exact .same ⟨rfl, hsuffix, hskip⟩

end Openings

/-! ### Parts -/

/-- What is left behind a part that takes some of the closing. -/
def LostPart (flags : Flags) (result : Part × List Char) : Prop :=
  Spent result.2 ∨ HollowBrace flags result.2

/-- A character that starts neither an escape nor a class makes a part by itself. -/
theorem exists_readPart? (flags : Flags) {c : Char} (hescape : c ≠ '\\') (hclass : c ≠ '[') :
    ∃ part? : Option Part, ∀ rest, readPart? flags c rest = part?.map fun part => (part, rest) := by
  by_cases hdot : c = '.'
  · subst hdot
    exact ⟨_, fun rest => rfl⟩
  by_cases hcaret : c = '^'
  · subst hcaret
    exact ⟨some _, fun rest => rfl⟩
  by_cases hdollar : c = '$'
  · subst hdollar
    exact ⟨some _, fun rest => rfl⟩
  refine ⟨atomPart? flags (.literal c), fun rest => ?_⟩
  simp only [readPart?]

theorem readPart?_follows (flags : Flags) (c : Char) (h : Tail hash own wrapped) :
    Follows (Same hash own) (LostPart flags) (readPart? flags c own)
      (readPart? flags c wrapped) := by
  by_cases hescape : c = '\\'
  · subst hescape
    refine (readEscape?_follows flags h).bind ?_ ?_
    · rintro ⟨atom, rest⟩ ⟨_, rest'⟩ ⟨rfl, hrest, htail⟩
      simp only
      cases atomPart? flags atom with
      | none => exact .refused
      | some part => exact .same ⟨rfl, hrest, htail⟩
    · rintro ⟨atom, rest⟩ hlost
      simp only
      cases atomPart? flags atom with
      | none => exact .refused
      | some part => exact .lost (hlost.imp id And.right)
  by_cases hclass : c = '['
  · subst hclass
    refine (readClass?_follows flags h).bind ?_ fun _ => False.elim
    rintro ⟨set, depth, rest⟩ ⟨_, _, rest'⟩ ⟨rfl, rfl, hrest, htail⟩
    exact .same ⟨rfl, hrest, htail⟩
  obtain ⟨part?, hpart⟩ := exists_readPart? flags hescape hclass
  rw [hpart, hpart]
  cases part? with
  | none => exact .refused
  | some part => exact .same ⟨rfl, List.suffix_rfl, h⟩

/-! ### Groups -/

section Steps

variable {flags : Flags} {text rest : List Char} (fuel : Nat) (names : GroupNames)
  (body : GroupBody)

/-- What a group goes on with at a text from which blanks and comments have been skipped. -/
def groupStep? (fuel : Nat) (flags : Flags) (names : GroupNames) (body : GroupBody)
    (text : List Char) : Option (Part × GroupNames × List Char) :=
  match text with
  | [] => some (body.finish, names, [])
  | ')' :: rest => some (body.finish, names, ')' :: rest)
  | '|' :: rest => readGroup? fuel flags names body.nextBranch rest
  | '?' :: rest => do
    let body ← body.repeatLast? 0 (some 1)
    readGroup? fuel flags names body (skipLazy rest)
  | '*' :: rest => do
    let body ← body.repeatLast? 0 none
    readGroup? fuel flags names body (skipLazy rest)
  | '+' :: rest => do
    let body ← body.repeatLast? 1 none
    readGroup? fuel flags names body (skipLazy rest)
  | '\x7b' :: rest => do
    let (least, most, rest) ← readCounts? flags rest
    let body ← body.repeatLast? least most
    readGroup? fuel flags names body rest
  | '(' :: rest => do
    match ← readOpening? flags names rest with
    | (.setFlags flags, rest) =>
      readGroup? fuel flags names (body.push ⟨.empty, 0, false⟩) rest
    | (.group inner names, rest) =>
      match ← readGroup? fuel inner names .start rest with
      | (part, names, _ :: rest) =>
        readGroup? fuel flags names (body.push { part with depth := part.depth + 1 }) rest
      | (_, _, []) => none
  | c :: rest => do
    let (part, rest) ← readPart? flags c rest
    readGroup? fuel flags names (body.push part) rest

/-- A group is read one step after the other. -/
theorem readGroup?_eq_step (text : List Char) :
    readGroup? (fuel + 1) flags names body text = groupStep? fuel flags names body (flags.skip text) := by
  rw [readGroup?]
  rfl

theorem readGroup?_of_nil (h : flags.skip text = []) :
    readGroup? (fuel + 1) flags names body text = some (body.finish, names, []) := by
  rw [readGroup?_eq_step, h]
  rfl

theorem readGroup?_of_bar (h : flags.skip text = '|' :: rest) :
    readGroup? (fuel + 1) flags names body text =
      readGroup? fuel flags names body.nextBranch rest := by
  rw [readGroup?_eq_step, h]
  rfl

/-- The counts of the repetitions that are written with a single character. -/
def repetition? (c : Char) : Option (Nat × Option Nat) :=
  match c with
  | '?' => some (0, some 1)
  | '*' => some (0, none)
  | '+' => some (1, none)
  | _ => none

theorem readGroup?_of_repetition {c : Char} {least : Nat} {most : Option Nat}
    (h : flags.skip text = c :: rest) (hrepetition : repetition? c = some (least, most)) :
    readGroup? (fuel + 1) flags names body text =
      (body.repeatLast? least most).bind fun body =>
        readGroup? fuel flags names body (skipLazy rest) := by
  unfold repetition? at hrepetition
  split at hrepetition
  · cases hrepetition
    rw [readGroup?_eq_step, h]
    rfl
  · cases hrepetition
    rw [readGroup?_eq_step, h]
    rfl
  · cases hrepetition
    rw [readGroup?_eq_step, h]
    rfl
  · cases hrepetition

theorem readGroup?_of_counts (h : flags.skip text = '\x7b' :: rest) :
    readGroup? (fuel + 1) flags names body text =
      (readCounts? flags rest).bind fun (least, most, rest) =>
        (body.repeatLast? least most).bind fun body => readGroup? fuel flags names body rest := by
  rw [readGroup?_eq_step, h]
  rfl

/-- Reads on behind a parenthesis that has been opened. -/
def readInner? (fuel : Nat) (flags : Flags) (names : GroupNames) (body : GroupBody)
    (opening : Opening × List Char) : Option (Part × GroupNames × List Char) :=
  match opening with
  | (.setFlags flags, rest) => readGroup? fuel flags names (body.push ⟨.empty, 0, false⟩) rest
  | (.group inner names, rest) =>
    (readGroup? fuel inner names .start rest).bind fun read =>
      match read with
      | (part, names, _ :: rest) =>
        readGroup? fuel flags names (body.push { part with depth := part.depth + 1 }) rest
      | (_, _, []) => none

theorem readGroup?_of_open (h : flags.skip text = '(' :: rest) :
    readGroup? (fuel + 1) flags names body text =
      (readOpening? flags names rest).bind (readInner? fuel flags names body) := by
  rw [readGroup?_eq_step, h]
  rfl

/-- That a group goes on with a part at a character. -/
def StartsPart (c : Char) : Prop :=
  c ≠ ')' ∧ c ≠ '|' ∧ c ≠ '\x7b' ∧ c ≠ '(' ∧ repetition? c = none

theorem readGroup?_of_startsPart {c : Char} (h : flags.skip text = c :: rest)
    (hpart : StartsPart c) :
    readGroup? (fuel + 1) flags names body text =
      (readPart? flags c rest).bind fun (part, rest) =>
        readGroup? fuel flags names (body.push part) rest := by
  obtain ⟨hclose, hbar, hbrace, hopen, hrepetition⟩ := hpart
  rw [readGroup?_eq_step, h]
  unfold groupStep?
  split
  · rename_i heq
    cases heq
  · rename_i heq
    exact absurd (List.cons.inj heq).1 hclose
  · rename_i heq
    exact absurd (List.cons.inj heq).1 hbar
  · rename_i heq
    cases heq
    cases hrepetition
  · rename_i heq
    cases heq
    cases hrepetition
  · rename_i heq
    cases heq
    cases hrepetition
  · rename_i heq
    exact absurd (List.cons.inj heq).1 hbrace
  · rename_i heq
    exact absurd (List.cons.inj heq).1 hopen
  · rename_i heq
    cases heq
    rfl

theorem readCounts?_of_skip_closing (h : flags.skip text = closing) :
    readCounts? flags text = none := by
  have hcount : readCount? flags closing = some (none, closing) := rfl
  rw [readCounts?, h, hcount]
  rfl

end Steps

/-- Nothing but the assertion of the end can be read of what is left of the closing. -/
theorem rest_eq_nil_of_spent {flags : Flags} {text : List Char} (h : Spent (flags.skip text))
    {fuel : Nat} {names : GroupNames} {body : GroupBody} {read : Part × GroupNames × List Char}
    (hread : readGroup? fuel flags names body text = some read) : read.2.2 = [] := by
  have hnil : ∀ {fuel text body}, flags.skip text = [] →
      readGroup? fuel flags names body text = some read → read.2.2 = [] := by
    intro fuel text body htext hread
    cases fuel with
    | zero => cases hread
    | succ fuel =>
      rw [readGroup?_of_nil _ _ _ htext] at hread
      cases hread
      rfl
  rcases h with htext | htext
  · cases fuel with
    | zero => cases hread
    | succ fuel =>
      have hpart : StartsPart '$' := ⟨by decide, by decide, by decide, by decide, rfl⟩
      rw [readGroup?_of_startsPart _ _ _ htext hpart] at hread
      exact hnil flags.skip_nil hread
  · exact hnil htext hread

theorem readGroup?_of_hollowBrace {flags : Flags} {text : List Char} (h : HollowBrace flags text)
    (fuel : Nat) (names : GroupNames) (body : GroupBody) :
    readGroup? fuel flags names body text = none := by
  obtain ⟨rest, rfl, hrest⟩ := h
  cases fuel with
  | zero => rfl
  | succ fuel =>
    have htext := flags.skip_cons (c := '\x7b') (by decide) (by decide) rest
    rw [readGroup?_of_counts _ _ _ htext, readCounts?_of_skip_closing hrest]
    rfl

/-- That a group takes its closing parenthesis as something else, and goes on to the end. -/
def LostGroup (result : Part × GroupNames × List Char) : Prop := result.2.2 = []

theorem lostGroup_follows {flags : Flags} {text : List Char} (h : Spent (flags.skip text))
    {same : Part × GroupNames × List Char → Part × GroupNames × List Char → Prop} (fuel : Nat)
    (names : GroupNames) (body : GroupBody) :
    Follows same LostGroup none (readGroup? fuel flags names body text) := by
  cases hread : readGroup? fuel flags names body text with
  | none => exact .refused
  | some read => exact .lost (rest_eq_nil_of_spent h hread)

/-- That groups are read the same from all ends of a text. -/
def GroupsFollow (hash : Prop) (fuel more : Nat) (text : List Char) : Prop :=
  ∀ {own wrapped : List Char}, own <:+ text → Tail hash own wrapped →
    ∀ (flags : Flags) (names : GroupNames) (body : GroupBody),
      Follows (SameBoth hash text) LostGroup (readGroup? fuel flags names body own)
        (readGroup? more flags names body wrapped)

section Following

variable {fuel more : Nat} {flags : Flags} {names : GroupNames} {body : GroupBody}

theorem GroupsFollow.counts (h : GroupsFollow hash fuel more own) (htail : Tail hash own wrapped) :
    Follows (SameBoth hash own) LostGroup
      ((readCounts? flags own).bind fun (least, most, rest) =>
        (body.repeatLast? least most).bind fun body => readGroup? fuel flags names body rest)
      ((readCounts? flags wrapped).bind fun (least, most, rest) =>
        (body.repeatLast? least most).bind fun body => readGroup? more flags names body rest) := by
  refine (readCounts?_follows flags htail).bind ?_ fun _ => False.elim
  rintro ⟨least, most, rest⟩ ⟨_, _, rest'⟩ ⟨rfl, rfl, hrest, hclosed⟩
  simp only
  cases body.repeatLast? least most with
  | none => exact .refused
  | some body => exact h hrest hclosed _ _ _

theorem GroupsFollow.inner (h : GroupsFollow hash fuel more own) (htail : Tail hash own wrapped) :
    Follows (SameBoth hash own) LostGroup
      ((readOpening? flags names own).bind (readInner? fuel flags names body))
      ((readOpening? flags names wrapped).bind (readInner? more flags names body)) := by
  refine (readOpening?_follows flags names htail).bind ?_ ?_
  · rintro ⟨opening, rest⟩ ⟨_, rest'⟩ ⟨rfl, hrest, hclosed⟩
    cases opening with
    | setFlags inner => exact h hrest hclosed _ _ _
    | group inner names =>
      refine (h hrest hclosed inner names .start).bind ?_ ?_
      · rintro ⟨part, names, last⟩ ⟨_, _, last'⟩ ⟨rfl, rfl, hlast, hend⟩
        cases last with
        | nil =>
          -- by itself the group is not closed, and the closing may have closed it
          rcases hend.of_nil with rfl | rfl
          · exact lostGroup_follows (.inl flags.skip_dollar) _ _ _
          · exact .refused
        | cons c after =>
          obtain ⟨after', rfl, hafter⟩ := hend.exists_of_cons
          exact h ((List.suffix_cons c after).trans hlast) hafter _ _ _
      · rintro ⟨part, names, last⟩ hlost
        cases hlost
        exact .refused
  · rintro ⟨opening, rest⟩ ⟨⟨inner, rfl⟩, rfl⟩
    exact lostGroup_follows (.inl inner.skip_dollar) _ _ _

theorem GroupsFollow.part (h : GroupsFollow hash fuel more own) (htail : Tail hash own wrapped)
    (c : Char) :
    Follows (SameBoth hash own) LostGroup
      ((readPart? flags c own).bind fun (part, rest) =>
        readGroup? fuel flags names (body.push part) rest)
      ((readPart? flags c wrapped).bind fun (part, rest) =>
        readGroup? more flags names (body.push part) rest) := by
  refine (readPart?_follows flags c htail).bind ?_ ?_
  · rintro ⟨part, rest⟩ ⟨_, rest'⟩ ⟨rfl, hrest, hclosed⟩
    exact h hrest hclosed _ _ _
  · rintro ⟨part, rest⟩ (hspent | hhollow)
    · exact lostGroup_follows (InClosing.skip_eq (.inr hspent) flags ▸ hspent) _ _ _
    · simp only [readGroup?_of_hollowBrace hhollow]
      exact .refused

/-- A character that does not close the group is read alike when all behind it is. -/
theorem GroupsFollow.step {text text' : List Char} {c : Char} (h : GroupsFollow hash fuel more own)
    (htail : Tail hash own wrapped) (htext : flags.skip text = c :: own)
    (htext' : flags.skip text' = c :: wrapped) (hclose : c ≠ ')') :
    Follows (SameBoth hash own) LostGroup (readGroup? (fuel + 1) flags names body text)
      (readGroup? (more + 1) flags names body text') := by
  by_cases hbar : c = '|'
  · subst hbar
    rw [readGroup?_of_bar _ _ _ htext, readGroup?_of_bar _ _ _ htext']
    exact h List.suffix_rfl htail _ _ _
  by_cases hbrace : c = '\x7b'
  · subst hbrace
    rw [readGroup?_of_counts _ _ _ htext, readGroup?_of_counts _ _ _ htext']
    exact h.counts htail
  by_cases hopen : c = '('
  · subst hopen
    rw [readGroup?_of_open _ _ _ htext, readGroup?_of_open _ _ _ htext']
    exact h.inner htail
  cases hrepetition : repetition? c with
  | some counts =>
    obtain ⟨least, most⟩ := counts
    rw [readGroup?_of_repetition _ _ _ htext hrepetition,
      readGroup?_of_repetition _ _ _ htext' hrepetition]
    cases body.repeatLast? least most with
    | none => exact .refused
    | some body => exact h (skipLazy_suffix own) (skipLazy_tail htail) _ _ _
  | none =>
    have hpart : StartsPart c := ⟨hclose, hbar, hbrace, hopen, hrepetition⟩
    rw [readGroup?_of_startsPart _ _ _ htext hpart, readGroup?_of_startsPart _ _ _ htext' hpart]
    exact h.part htail c

end Following

end Groups

end MetricBench.Regex
