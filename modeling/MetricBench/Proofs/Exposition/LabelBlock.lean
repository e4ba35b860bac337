import MetricBench.Exposition.SampleLine
import MetricBench.Proofs.SortedMap
import MetricBench.Proofs.Exposition.Name

/-!
# Label blocks read back

A quoted value ends at the quote that closes it, whatever characters it holds.  So a block between
braces reads back label by label, and gives the label set that it was written from.
-/

namespace MetricBench.Exposition

open Text (isBlank)

/-! ### Quoted values -/

/-- An escaped character is read as the character. -/
theorem readQuoted_escapeChar (c : Char) {text value rest : List Char}
    (h : readQuoted text = some (value, rest)) :
    readQuoted (Labels.escapeChar c ++ text) = some (c :: value, rest) := by
  by_cases hbackslash : c = '\\'
  · subst hbackslash
    change (readQuoted text).map (fun result => ('\\' :: result.1, result.2)) = _
    rw [h]
    rfl
  by_cases hquote : c = '"'
  · subst hquote
    change (readQuoted text).map (fun result => ('"' :: result.1, result.2)) = _
    rw [h]
    rfl
  by_cases hnewline : c = '\n'
  · subst hnewline
    change (readQuoted text).map (fun result => ('\n' :: result.1, result.2)) = _
    rw [h]
    rfl
  · have hplain : Labels.escapeChar c = [c] := by
      rw [Labels.escapeChar]
      · exact hbackslash
      · exact hquote
      · exact hnewline
    rw [hplain, List.singleton_append, readQuoted, h]
    · rfl
    · exact hquote
    · exact fun heq _ => hbackslash heq
    · exact fun _ _ heq _ => hbackslash heq

/-- A value written between quotes reads back, and what follows the quote is left. -/
theorem readQuoted_escape (value rest : List Char) :
    readQuoted (value.flatMap Labels.escapeChar ++ '"' :: rest) = some (value, rest) := by
  induction value with
  | nil => rfl
  | cons c others ih =>
    rw [List.flatMap_cons, List.append_assoc]
    exact readQuoted_escapeChar c ih

/-- After a label name the equals sign and the quoted value are read, with blanks before each. -/
theorem readLabelValue_eq_ok_iff {name : String} {text value rest : List Char} :
    (∃ hlength, readLabelValue name text = .ok ⟨(value, rest), hlength⟩) ↔
      ∃ afterEquals quoted, Text.trimStart text = '=' :: afterEquals ∧
        Text.trimStart afterEquals = '"' :: quoted ∧ readQuoted quoted = some (value, rest) := by
  constructor
  · rintro ⟨hlength, h⟩
    rw [readLabelValue] at h
    split at h
    case h_1 afterEquals hequals =>
      split at h
      case h_1 quoted hquote =>
        split at h
        case h_1 found after hread =>
          cases h
          exact ⟨afterEquals, quoted, hequals, hquote, hread⟩
        case h_2 => cases h
      case h_2 => cases h
    case h_2 => cases h
  · rintro ⟨afterEquals, quoted, hequals, hquote, hread⟩
    have hlength : rest.length < text.length :=
      calc rest.length
        _ < quoted.length := length_lt_of_readQuoted hread
        _ < (Text.trimStart afterEquals).length := by rw [hquote, List.length_cons]; omega
        _ ≤ afterEquals.length := (List.dropWhile_suffix isBlank).length_le
        _ < (Text.trimStart text).length := by rw [hequals, List.length_cons]; omega
        _ ≤ text.length := (List.dropWhile_suffix isBlank).length_le
    rw [readLabelValue]
    split
    case h_1 foundEquals hfoundEquals =>
      cases hequals.symm.trans hfoundEquals
      split
      case h_1 foundQuote hfoundQuote =>
        cases hquote.symm.trans hfoundQuote
        split
        case h_1 found after hfound =>
          cases hread.symm.trans hfound
          exact ⟨hlength, rfl⟩
        case h_2 hnone => cases hread.symm.trans hnone
      case h_2 hnot => exact absurd hquote (hnot quoted)
    case h_2 hnot => exact absurd hequals (hnot afterEquals)

theorem readLabelValue_quoted (name : String) {quoted value rest : List Char}
    (h : readQuoted quoted = some (value, rest)) :
    ∃ hlength, readLabelValue name ('=' :: '"' :: quoted) = .ok ⟨(value, rest), hlength⟩ :=
  readLabelValue_eq_ok_iff.mpr ⟨'"' :: quoted, quoted, rfl, rfl, h⟩

/-- What a block reads next, after the separators. -/
theorem readLabels_eq (size : Nat) {text : List Char} (labels : Labels) {c : Char}
    {after : List Char} (h : text.dropWhile isSeparator = c :: after) :
    readLabels size text labels =
      if c = '}' then .ok (labels, after)
      else
        let name := (c :: after).takeWhile isLabelChar
        if name.isEmpty then .error (.invalidLabelName (size - Text.byteLength (c :: after)))
        else
          match readLabelValue (.ofList name) ((c :: after).dropWhile isLabelChar) with
          | .error fault => .error fault
          | .ok result =>
            readLabels size result.1.2 (labels.insert (.ofList name) (.ofList result.1.1)) := by
  rw [readLabels]
  split
  case h_1 hnone =>
    rw [h] at hnone
    cases hnone
  case h_2 found rest hfound =>
    rw [h] at hfound
    cases hfound
    dsimp only
    cases readLabelValue (.ofList ((c :: after).takeWhile isLabelChar))
        ((c :: after).dropWhile isLabelChar) with
    | error fault => rfl
    | ok result => rfl

theorem readLabels_label (size : Nat) {text : List Char} (labels : Labels) {c : Char}
    {after name body value rest : List Char} (h : text.dropWhile isSeparator = c :: after)
    (hbrace : c ≠ '}') (hname : (c :: after).takeWhile isLabelChar = name) (hne : name ≠ [])
    (hbody : (c :: after).dropWhile isLabelChar = body)
    (hread : ∃ hlength, readLabelValue (.ofList name) body = .ok ⟨(value, rest), hlength⟩) :
    readLabels size text labels =
      readLabels size rest (labels.insert (.ofList name) (.ofList value)) := by
  subst hname hbody
  obtain ⟨hlength, hread⟩ := hread
  have hempty : ¬ ((c :: after).takeWhile isLabelChar).isEmpty = true := by
    rwa [List.isEmpty_iff]
  rw [readLabels_eq size labels h, if_neg hbrace]
  dsimp only
  rw [if_neg hempty, hread]

theorem readLabels_nil (size : Nat) {text : List Char} (labels : Labels)
    (h : text.dropWhile isSeparator = []) :
    readLabels size text labels = .error .unterminatedLabels := by
  rw [readLabels]
  split
  case h_1 => rfl
  case h_2 c after hfound =>
    rw [h] at hfound
    cases hfound

theorem readLabels_separator {c : Char} (h : isSeparator c = true) (size : Nat) (text : List Char)
    (labels : Labels) : readLabels size (c :: text) labels = readLabels size text labels := by
  have hskip : (c :: text).dropWhile isSeparator = text.dropWhile isSeparator :=
    List.dropWhile_cons_of_pos h
  cases htext : text.dropWhile isSeparator with
  | nil => rw [readLabels_nil size labels htext, readLabels_nil size labels (hskip.trans htext)]
  | cons next after =>
    rw [readLabels_eq size labels htext, readLabels_eq size labels (hskip.trans htext)]

/-! ### Blocks -/

theorem readLabels_close (size : Nat) (rest : List Char) (labels : Labels) :
    readLabels size ('}' :: rest) labels = .ok (labels, rest) := by
  rw [readLabels_eq size labels (List.dropWhile_cons_of_neg (by decide)), if_pos rfl]

theorem toList_bindingText (name value : String) :
    (Labels.bindingText (name, value)).toList =
      name.toList ++ '=' :: '"' :: (value.toList.flatMap Labels.escapeChar ++ ['"']) := by
  simp [Labels.bindingText, Labels.escapeValue]

theorem isSeparator_of_isLabelChar {c : Char} (h : isLabelChar c = true) :
    isSeparator c = false := by
  have hc := continuesMetricName_of_isLabelChar h
  have hcomma : c ≠ ',' := ne_of_continuesMetricName hc (by decide)
  simp [isSeparator, hcomma, isBlank_of_continuesMetricName hc]

/-- A label behind separators is read and added, and what follows its value is left. -/
theorem readLabels_item {separators : List Char}
    (hseparators : ∀ c ∈ separators, isSeparator c = true) {name : String}
    (hname : IsLabelName name) {body rest : List Char} {value : String}
    (hbody : ∀ c ∈ body.head?, isLabelChar c = false)
    (hread : ∃ hlength, readLabelValue name body = .ok ⟨(value.toList, rest), hlength⟩)
    (size : Nat) (labels : Labels) :
    readLabels size (separators ++ (name.toList ++ body)) labels =
      readLabels size rest (labels.insert name value) := by
  obtain ⟨hne, hchars⟩ := hname
  obtain ⟨htake, hdrop⟩ := Text.span_append_eq hchars hbody
  rw [← @String.ofList_toList name] at hread
  cases hlist : name.toList with
  | nil => exact absurd (String.toList_eq_nil_iff.mp hlist) hne
  | cons c others =>
    have hc : isLabelChar c = true := hchars c (hlist ▸ List.mem_cons_self)
    have hstart : (separators ++ (c :: others ++ body)).dropWhile isSeparator =
        c :: (others ++ body) :=
      Text.dropWhile_eq_cons_iff.mpr ⟨separators, hseparators, isSeparator_of_isLabelChar hc, rfl⟩
    have hbrace : c ≠ '}' :=
      ne_of_continuesMetricName (continuesMetricName_of_isLabelChar hc) (by decide)
    rw [hlist] at htake hdrop hread
    rw [readLabels_label size labels hstart hbrace htake (List.cons_ne_nil c others) hdrop hread,
      ← hlist, String.ofList_toList, String.ofList_toList]

/-- A written label is read and added, and what follows it is left. -/
theorem readLabels_binding {name : String} (hname : IsLabelName name) (value : String)
    (size : Nat) (rest : List Char) (labels : Labels) :
    readLabels size ((Labels.bindingText (name, value)).toList ++ rest) labels =
      readLabels size rest (labels.insert name value) := by
  obtain ⟨quoted, hquoted⟩ : ∃ quoted,
      quoted = value.toList.flatMap Labels.escapeChar ++ '"' :: rest := ⟨_, rfl⟩
  have htext : (Labels.bindingText (name, value)).toList ++ rest =
      [] ++ (name.toList ++ '=' :: '"' :: quoted) := by
    rw [toList_bindingText, hquoted]
    simp
  have hbody : ∀ c ∈ ('=' :: '"' :: quoted).head?, isLabelChar c = false := by
    intro c hc
    cases hc
    decide
  have hread := readLabelValue_quoted name (hquoted ▸ readQuoted_escape value.toList rest)
  rw [htext, readLabels_item (List.forall_mem_nil _) hname hbody hread]

/-- Written labels are read one after the other up to the brace that closes the block. -/
theorem readLabels_bindings {bindings : List (String × String)}
    (h : ∀ binding ∈ bindings, IsLabelName binding.1) (size : Nat) (rest : List Char)
    (labels : Labels) :
    readLabels size ((String.intercalate "," (bindings.map Labels.bindingText)).toList ++
        '}' :: rest) labels =
      .ok (bindings.foldl (fun map binding => map.insert binding.1 binding.2) labels, rest) := by
  induction bindings generalizing labels with
  | nil => exact readLabels_close size rest labels
  | cons binding others ih =>
    have hbinding := h binding List.mem_cons_self
    have hothers := ih fun other hother => h other (List.mem_cons_of_mem binding hother)
    cases others with
    | nil =>
      rw [List.map_singleton, String.intercalate_singleton, readLabels_binding hbinding]
      exact readLabels_close size rest _
    | cons next more =>
      rw [List.map_cons, List.map_cons, String.intercalate_cons_cons, String.toList_append,
        String.toList_append, List.append_assoc, List.append_assoc, readLabels_binding hbinding]
      have hcomma : ",".toList = [','] := rfl
      rw [hcomma, List.singleton_append, readLabels_separator (by decide), ← List.map_cons,
        hothers]
      rfl

/-- A label set is made again from its metric name and the labels of its block. -/
theorem foldl_insert_withoutName {labels : Labels} {name : String}
    (h : labels.metricName? = some name) :
    labels.withoutName.entries.foldl (fun map binding => map.insert binding.1 binding.2)
      (Labels.named .empty name) = labels := by
  refine SortedMap.ext_find? fun key => ?_
  rw [SortedMap.find?_foldl_insert_entries, Labels.withoutName, Labels.named]
  by_cases hkey : key = nameLabel
  · subst hkey
    rw [SortedMap.find?_erase_self, SortedMap.find?_insert_self]
    exact h.symm
  · rw [SortedMap.find?_erase_of_ne _ hkey, SortedMap.find?_insert_of_ne _ _ hkey]
    exact Option.or_none

end MetricBench.Exposition
