import MetricBench.Proofs.Exposition.LabelBlock
import MetricBench.Proofs.Outcome

/-!
# The grammar of sample lines

What a sample line looks like, told apart from how it is read: a metric name, a label block or a
blank, and one or two fields.  The reader accepts exactly the lines of the grammar, and what it reads
is what the grammar says that the line means.
-/

namespace MetricBench.Exposition

open Text (Blanks IsWord isBlank)

/-! ### The grammar -/

/-- A text between quotes and the value that it stands for.  A backslash takes the character after it
for the value, or the newline when it is an `n`. -/
inductive Quoted : List Char → List Char → Prop
  | nil : Quoted [] []
  | plain {c : Char} {text value : List Char} (hquote : c ≠ '"') (hbackslash : c ≠ '\\')
      (h : Quoted text value) : Quoted (c :: text) (c :: value)
  | newline {text value : List Char} (h : Quoted text value) :
      Quoted ('\\' :: 'n' :: text) ('\n' :: value)
  | escaped {c : Char} {text value : List Char} (hc : c ≠ 'n') (h : Quoted text value) :
      Quoted ('\\' :: c :: text) (c :: value)

/-- An item of a label block and the label that it binds: separators, a name, an equals sign and a
quoted value, with blanks around the sign. -/
inductive LabelItem : List Char → String × String → Prop
  | intro {separators before after quoted : List Char} {name value : String}
      (hseparators : ∀ c ∈ separators, isSeparator c = true) (hname : IsLabelName name)
      (hbefore : Blanks before) (hafter : Blanks after) (hvalue : Quoted quoted value.toList) :
      LabelItem (separators ++ (name.toList ++ (before ++ '=' :: (after ++
        '"' :: (quoted ++ ['"']))))) (name, value)

/-- What stands behind the opening brace of a label block, its closing brace included, and the labels
that the block binds. -/
inductive LabelBlock : List Char → List (String × String) → Prop
  | close {separators : List Char} (hseparators : ∀ c ∈ separators, isSeparator c = true) :
      LabelBlock (separators ++ ['}']) []
  | item {text block : List Char} {binding : String × String}
      {bindings : List (String × String)} (hitem : LabelItem text binding)
      (h : LabelBlock block bindings) : LabelBlock (text ++ block) (binding :: bindings)

/-- The fields of a line: a value, and an instant when there are two of them. -/
inductive Fields : List Char → Double → Option Int → Prop
  | value {before word after : List Char} {value : Double} (hbefore : Blanks before)
      (hword : IsWord word) (hvalue : Number.parseFloat? word = some value)
      (hafter : Blanks after) : Fields (before ++ (word ++ after)) value none
  | timed {before word between stamp after : List Char} {value : Double} {instant : Int}
      (hbefore : Blanks before) (hword : IsWord word)
      (hvalue : Number.parseFloat? word = some value) (hne : between ≠ [])
      (hbetween : Blanks between) (hstamp : IsWord stamp)
      (hinstant : Number.signed? stamp = some instant) (hafter : Blanks after) :
      Fields (before ++ (word ++ (between ++ (stamp ++ after)))) value (some instant)

/-- A sample line and the observation that it stands for.  Of two labels of one name the later one
counts, and the first label is the metric name. -/
inductive SampleText : List Char → Observation → Prop
  | plain {name : String} {c : Char} {text : List Char} {value : Double} {timestamp : Option Int}
      (hname : isMetricName name.toList = true) (hblank : isBlank c = true)
      (hfields : Fields (c :: text) value timestamp) :
      SampleText (name.toList ++ c :: text) ⟨.ofList [(nameLabel, name)], value, timestamp⟩
  | labelled {name : String} {block text : List Char} {bindings : List (String × String)}
      {value : Double} {timestamp : Option Int} (hname : isMetricName name.toList = true)
      (hblock : LabelBlock block bindings) (hfields : Fields text value timestamp) :
      SampleText (name.toList ++ '\x7b' :: (block ++ text))
        ⟨.ofList ((nameLabel, name) :: bindings), value, timestamp⟩

/-! ### Quoted values -/

theorem readQuoted_complete {quoted value : List Char} (h : Quoted quoted value)
    (rest : List Char) : readQuoted (quoted ++ '"' :: rest) = some (value, rest) := by
  induction h with
  | nil => rfl
  | plain hquote hbackslash _ ih =>
    rw [List.cons_append, readQuoted, ih]
    · rfl
    · exact hquote
    · exact fun heq _ => hbackslash heq
    · exact fun _ _ heq _ => hbackslash heq
  | newline _ ih =>
    rw [List.cons_append, List.cons_append, readQuoted, ih]
    rfl
  | escaped hc _ ih =>
    rw [List.cons_append, List.cons_append, readQuoted, ih, Option.map_some, unescapeChar, if_neg hc]

theorem readQuoted_sound {text value rest : List Char} (h : readQuoted text = some (value, rest)) :
    ∃ quoted, text = quoted ++ '"' :: rest ∧ Quoted quoted value := by
  fun_induction readQuoted text generalizing value with
  | case1 => cases h
  | case2 after =>
    cases h
    exact ⟨[], rfl, .nil⟩
  | case3 => cases h
  | case4 c after ih =>
    obtain ⟨⟨inner, final⟩, hread, heq⟩ := Option.map_eq_some_iff.mp h
    cases heq
    obtain ⟨quoted, rfl, hquoted⟩ := ih hread
    refine ⟨'\\' :: c :: quoted, rfl, ?_⟩
    by_cases hc : c = 'n'
    · subst hc
      exact .newline hquoted
    · rw [unescapeChar, if_neg hc]
      exact .escaped hc hquoted
  | case5 c after hquote hend hbackslash ih =>
    obtain ⟨⟨inner, final⟩, hread, heq⟩ := Option.map_eq_some_iff.mp h
    cases heq
    obtain ⟨quoted, rfl, hquoted⟩ := ih hread
    refine ⟨c :: quoted, rfl, .plain hquote (fun hc => ?_) hquoted⟩
    cases hafter : quoted ++ '"' :: rest with
    | nil => exact absurd hafter (by simp)
    | cons next more => exact hbackslash next more hc hafter

theorem readQuoted_eq_some_iff {text value rest : List Char} :
    readQuoted text = some (value, rest) ↔
      ∃ quoted, text = quoted ++ '"' :: rest ∧ Quoted quoted value := by
  constructor
  · exact readQuoted_sound
  · rintro ⟨quoted, rfl, hquoted⟩
    exact readQuoted_complete hquoted rest

/-! ### Label blocks -/

theorem isBlank_equals : isBlank '=' = false := by decide

theorem isBlank_quote : isBlank '"' = false := by decide

/-- What stands behind the name of a label. -/
theorem readLabelValue_iff {name : String} {text value rest : List Char} :
    (∃ hlength, readLabelValue name text = .ok ⟨(value, rest), hlength⟩) ↔
      ∃ before after quoted, Blanks before ∧ Blanks after ∧ Quoted quoted value ∧
        text = before ++ '=' :: (after ++ '"' :: (quoted ++ '"' :: rest)) := by
  rw [readLabelValue_eq_ok_iff]
  simp only [Text.trimStart, Text.dropWhile_eq_cons_iff, readQuoted_eq_some_iff]
  constructor
  · rintro ⟨_, _, ⟨before, hbefore, -, rfl⟩, ⟨after, hafter, -, rfl⟩, quoted, rfl, hquoted⟩
    exact ⟨before, after, quoted, hbefore, hafter, hquoted, rfl⟩
  · rintro ⟨before, after, quoted, hbefore, hafter, hquoted, rfl⟩
    exact ⟨_, _, ⟨before, hbefore, isBlank_equals, rfl⟩, ⟨after, hafter, isBlank_quote, rfl⟩,
      quoted, rfl, hquoted⟩

theorem isLabelChar_of_isBlank {c : Char} (h : isBlank c = true) : isLabelChar c = false := by
  by_contra hlabel
  rw [Bool.not_eq_false] at hlabel
  have hvisible := isBlank_of_continuesMetricName (continuesMetricName_of_isLabelChar hlabel)
  exact absurd (h.symm.trans hvisible) (by decide)

/-- A block of the grammar is read, and what follows it is left. -/
theorem readLabels_complete {block : List Char} {bindings : List (String × String)}
    (h : LabelBlock block bindings) (size : Nat) (rest : List Char) (labels : Labels) :
    readLabels size (block ++ rest) labels =
      .ok (bindings.foldl (fun map binding => map.insert binding.1 binding.2) labels, rest) := by
  induction h generalizing labels with
  | @close separators hseparators =>
    have hstart : (separators ++ ['}'] ++ rest).dropWhile isSeparator = '}' :: rest := by
      rw [List.append_assoc]
      exact Text.dropWhile_eq_cons_iff.mpr ⟨separators, hseparators, by decide, rfl⟩
    rw [readLabels_eq size labels hstart, if_pos rfl]
    rfl
  | @item text block binding bindings hitem _ ih =>
    obtain @⟨separators, before, after, quoted, name, value, hseparators, hname, hbefore, hafter,
      hvalue⟩ := hitem
    let body := before ++ '=' :: (after ++ '"' :: (quoted ++ '"' :: (block ++ rest)))
    have htext : (separators ++ (name.toList ++ (before ++ '=' :: (after ++ '"' ::
        (quoted ++ ['"']))))) ++ block ++ rest = separators ++ (name.toList ++ body) := by
      simp [body]
    have hbody : ∀ c ∈ body.head?, isLabelChar c = false := by
      cases before with
      | nil =>
        intro c hc
        cases hc
        decide
      | cons first others =>
        intro c hc
        cases hc
        exact isLabelChar_of_isBlank (hbefore first List.mem_cons_self)
    have hread : ∃ hlength,
        readLabelValue name body = .ok ⟨(value.toList, block ++ rest), hlength⟩ :=
      readLabelValue_iff.mpr ⟨before, after, quoted, hbefore, hafter, hvalue, rfl⟩
    rw [htext, readLabels_item hseparators hname hbody hread, ih]
    rfl

theorem LabelItem.ne_nil {text : List Char} {binding : String × String}
    (h : LabelItem text binding) : text ≠ [] := by
  obtain ⟨⟩ := h
  simp

theorem LabelItem.isLabelName {text : List Char} {binding : String × String}
    (h : LabelItem text binding) : IsLabelName binding.1 := by
  obtain ⟨-, hname⟩ := h
  exact hname

theorem LabelBlock.isLabelName {block : List Char} {bindings : List (String × String)}
    (h : LabelBlock block bindings) : ∀ binding ∈ bindings, IsLabelName binding.1 := by
  induction h with
  | close => exact List.forall_mem_nil _
  | item hitem _ ih => exact List.forall_mem_cons.mpr ⟨hitem.isLabelName, ih⟩

/-- A text is refused as a block whatever labels come before it, or it starts with the end of a block
or with an item. -/
theorem readLabels_first (size : Nat) (text : List Char) :
    (∃ fault, ∀ labels, readLabels size text labels = .error fault) ∨
      (∃ separators rest, (∀ c ∈ separators, isSeparator c = true) ∧
        text = separators ++ '}' :: rest) ∨
      ∃ item binding rest, LabelItem item binding ∧ text = item ++ rest ∧
        ∀ labels, readLabels size text labels =
          readLabels size rest (labels.insert binding.1 binding.2) := by
  cases hstart : text.dropWhile isSeparator with
  | nil => exact .inl ⟨.unterminatedLabels, fun labels => readLabels_nil size labels hstart⟩
  | cons c after =>
    have hread := fun labels => readLabels_eq size labels hstart
    obtain ⟨separators, hseparators, -, htext⟩ := Text.dropWhile_eq_cons_iff.mp hstart
    by_cases hclose : c = '}'
    · subst hclose
      exact .inr (.inl ⟨separators, after, hseparators, htext⟩)
    by_cases hname : (c :: after).takeWhile isLabelChar = []
    · refine .inl ⟨.invalidLabelName (size - Text.byteLength (c :: after)), fun labels => ?_⟩
      rw [hread, if_neg hclose]
      dsimp only
      rw [if_pos (List.isEmpty_iff.mpr hname)]
    cases hvalue : readLabelValue (.ofList ((c :: after).takeWhile isLabelChar))
        ((c :: after).dropWhile isLabelChar) with
    | error fault =>
      refine .inl ⟨fault, fun labels => ?_⟩
      rw [hread, if_neg hclose]
      dsimp only
      rw [if_neg (mt List.isEmpty_iff.mp hname), hvalue]
    | ok result =>
      obtain ⟨⟨value, rest⟩, hlength⟩ := result
      obtain ⟨before, afterEquals, quoted, hbefore, hafter, hquoted, hbody⟩ :=
        readLabelValue_iff.mp ⟨hlength, hvalue⟩
      have hlabel : IsLabelName (.ofList ((c :: after).takeWhile isLabelChar)) :=
        isLabelName_ofList hname fun _ hpart => List.mem_takeWhile_imp hpart
      have hitem : LabelItem _ (_, .ofList value) :=
        .intro hseparators hlabel hbefore hafter (by rwa [String.toList_ofList])
      refine .inr (.inr ⟨_, _, rest, hitem, ?_, fun labels => ?_⟩)
      · have hsplit : c :: after = (c :: after).takeWhile isLabelChar ++
            (before ++ '=' :: (afterEquals ++ '"' :: (quoted ++ '"' :: rest))) := by
          rw [← hbody, List.takeWhile_append_dropWhile]
        rw [String.toList_ofList]
        refine htext.trans ((congrArg (separators ++ ·) hsplit).trans ?_)
        simp
      · rw [hread, if_neg hclose]
        dsimp only
        rw [if_neg (mt List.isEmpty_iff.mp hname), hvalue]

/-- A text is refused as a block whatever labels come before it, or it starts with a block. -/
theorem readLabels_block_or_fault (size : Nat) (text : List Char) :
    (∃ fault, ∀ labels, readLabels size text labels = .error fault) ∨
      ∃ block bindings rest, LabelBlock block bindings ∧ text = block ++ rest := by
  induction hlength : text.length using Nat.strong_induction_on generalizing text with
  | h length ih =>
    subst hlength
    rcases readLabels_first size text with hfault |
      ⟨separators, rest, hseparators, rfl⟩ | ⟨item, binding, left, hitem, rfl, hnext⟩
    · exact .inl hfault
    · refine .inr ⟨separators ++ ['}'], [], rest, .close hseparators, ?_⟩
      rw [List.append_assoc, List.singleton_append]
    · have hshorter : left.length < (item ++ left).length := by
        have hpos := List.length_pos_iff.mpr hitem.ne_nil
        rw [List.length_append]
        omega
      rcases ih left.length hshorter left rfl with
        ⟨fault, hfault⟩ | ⟨block, bindings, rest, hblock, rfl⟩
      · exact .inl ⟨fault, fun labels => (hnext labels).trans (hfault _)⟩
      · exact .inr ⟨item ++ block, binding :: bindings, rest, .item hitem hblock,
          (List.append_assoc _ _ _).symm⟩

/-- What is read of a block is a block of the grammar. -/
theorem readLabels_eq_ok_iff {size : Nat} {text rest : List Char} {labels found : Labels} :
    readLabels size text labels = .ok (found, rest) ↔
      ∃ block bindings, LabelBlock block bindings ∧ text = block ++ rest ∧
        found = bindings.foldl (fun map binding => map.insert binding.1 binding.2) labels := by
  constructor
  · intro h
    rcases readLabels_block_or_fault size text with
      ⟨fault, hfault⟩ | ⟨block, bindings, left, hblock, rfl⟩
    · rw [hfault] at h
      cases h
    · rw [readLabels_complete hblock] at h
      cases h
      exact ⟨block, bindings, hblock, rfl, rfl⟩
  · rintro ⟨block, bindings, hblock, rfl, rfl⟩
    exact readLabels_complete hblock size rest labels

/-! ### Fields -/

theorem readFields_eq_ok_iff {text : List Char} {value : Double} {timestamp : Option Int} :
    readFields text = .ok (value, timestamp) ↔ Fields text value timestamp := by
  constructor
  · intro h
    rw [readFields] at h
    cases hwords : Text.words text with
    | nil =>
      rw [hwords] at h
      cases h
    | cons word fields =>
      rw [hwords] at h
      dsimp only at h
      cases hvalue : Number.parseFloat? word with
      | none =>
        rw [hvalue] at h
        cases h
      | some number =>
        rw [hvalue] at h
        dsimp only at h
        cases fields with
        | nil =>
          cases h
          obtain ⟨before, after, hbefore, hword, hafter, rfl⟩ := Text.words_eq_singleton_iff.mp hwords
          exact .value hbefore hword hvalue hafter
        | cons stamp extra =>
          dsimp only at h
          cases hinstant : Number.signed? stamp with
          | none =>
            rw [hinstant] at h
            cases h
          | some instant =>
            rw [hinstant] at h
            cases extra with
            | cons field others => cases h
            | nil =>
              cases h
              obtain ⟨before, between, after, hbefore, hword, hne, hbetween, hstamp, hafter, rfl⟩ :=
                Text.words_eq_pair_iff.mp hwords
              exact .timed hbefore hword hvalue hne hbetween hstamp hinstant hafter
  · rintro (⟨hbefore, hword, hvalue, hafter⟩ |
      ⟨hbefore, hword, hvalue, hne, hbetween, hstamp, hinstant, hafter⟩)
    · rw [readFields, Text.words_eq_singleton_iff.mpr ⟨_, _, hbefore, hword, hafter, rfl⟩]
      simp only [hvalue]
    · rw [readFields, Text.words_eq_pair_iff.mpr
        ⟨_, _, _, hbefore, hword, hne, hbetween, hstamp, hafter, rfl⟩]
      simp only [hvalue, hinstant]

/-! ### Lines -/

theorem readSampleLine_sound {line : List Char} {observation : Observation}
    (h : readSampleLine line = .ok observation) : SampleText line observation := by
  obtain ⟨chars, rest, hcut⟩ : ∃ chars rest,
      Text.cutBefore (fun c => c == '\x7b' || isBlank c) line = (chars, rest) := ⟨_, _, rfl⟩
  rw [readSampleLine, hcut] at h
  dsimp only at h
  split_ifs at h with hname
  obtain ⟨rfl, -, hstop⟩ := Text.cutBefore_eq_iff.mp hcut
  obtain ⟨name, rfl⟩ : ∃ name : String, name.toList = chars :=
    ⟨.ofList chars, String.toList_ofList⟩
  have hmetric : isMetricName name.toList = true := by simpa using hname
  rw [String.ofList_toList] at h
  split at h
  case h_1 block =>
    obtain ⟨⟨labels, text⟩, hlabels, h⟩ := bind_eq_ok_iff.mp h
    obtain ⟨⟨value, timestamp⟩, hfields, h⟩ := bind_eq_ok_iff.mp h
    obtain ⟨block, bindings, hblock, rfl, rfl⟩ := readLabels_eq_ok_iff.mp hlabels
    cases h
    exact .labelled hmetric hblock (readFields_eq_ok_iff.mp hfields)
  case h_2 hnot =>
    obtain ⟨⟨labels, text⟩, hlabels, h⟩ := bind_eq_ok_iff.mp h
    obtain ⟨⟨value, timestamp⟩, hfields, h⟩ := bind_eq_ok_iff.mp h
    cases hlabels
    cases h
    cases rest with
    | nil => cases hfields
    | cons c text =>
      have hbrace : c ≠ '\x7b' := fun hc => hnot text (hc ▸ rfl)
      have hblank : isBlank c = true := by simpa [hbrace] using hstop c rfl
      exact .plain hmetric hblank (readFields_eq_ok_iff.mp hfields)

theorem readSampleLine_complete {line : List Char} {observation : Observation}
    (h : SampleText line observation) : readSampleLine line = .ok observation := by
  cases h with
  | @plain name c text value timestamp hname hblank hfields =>
    have hstop : ∀ first ∈ (c :: text).head?, (first == '\x7b' || isBlank first) = true := by
      intro first hfirst
      cases hfirst
      rw [hblank, Bool.or_true]
    have hbrace : c ≠ '\x7b' := by
      rintro rfl
      exact absurd hblank (by decide)
    rw [readSampleLine, cutBefore_metricName hname hstop]
    dsimp only
    rw [if_neg (by simp [hname]), String.ofList_toList]
    split
    case h_1 block hblock => exact absurd (List.cons.inj hblock).1 hbrace
    case h_2 =>
      exact bind_eq_ok_iff.mpr ⟨_, rfl,
        bind_eq_ok_iff.mpr ⟨_, readFields_eq_ok_iff.mpr hfields, rfl⟩⟩
  | @labelled name block text bindings value timestamp hname hblock hfields =>
    have hstop : ∀ first ∈ ('\x7b' :: (block ++ text)).head?,
        (first == '\x7b' || isBlank first) = true := by
      intro first hfirst
      cases hfirst
      rfl
    rw [readSampleLine, cutBefore_metricName hname hstop]
    dsimp only
    rw [if_neg (by simp [hname]), String.ofList_toList]
    exact bind_eq_ok_iff.mpr ⟨_, readLabels_complete hblock _ text _,
      bind_eq_ok_iff.mpr ⟨_, readFields_eq_ok_iff.mpr hfields, rfl⟩⟩

/-- The reader accepts exactly the lines of the grammar, and reads what they stand for. -/
theorem readSampleLine_eq_ok_iff (line : List Char) (observation : Observation) :
    readSampleLine line = .ok observation ↔ SampleText line observation :=
  ⟨readSampleLine_sound, readSampleLine_complete⟩

end MetricBench.Exposition
