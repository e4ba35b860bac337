import MetricBench.Time.Instant
import MetricBench.Proofs.Exposition.Name
import MetricBench.Proofs.Number.ReadBack
import MetricBench.Proofs.Text.Cut
import MetricBench.Proofs.Time.Calendar

/-!
# Instants read back from their text

Main statement: the calendar text of an instant of the years 0 to 9999 reads back as the instant,
whatever now is, and so two instants have two texts.

Every part of the text has a lemma that says what its reader takes off the front of a text that
begins with it.
-/

namespace MetricBench.Time

open Number

/-! ### Digits of a fixed number -/

theorem isDigit_of_mem_padded {width number : Nat} {c : Char} (h : c ∈ padded width number) :
    c.isDigit = true := by
  rw [padded, List.mem_append] at h
  rcases h with hzero | hdigit
  · rw [List.eq_of_mem_replicate hzero]
    decide
  · exact isDigit_of_mem_toDigits hdigit

theorem ofDigitChars_padded (width number : Nat) :
    Nat.ofDigitChars 10 (padded width number) 0 = number := by
  rw [padded, Nat.ofDigitChars_append, Nat.ofDigitChars_replicate_zero, Nat.mul_zero,
    Nat.ofDigitChars_ten_toDigits]

theorem length_padded (width : Nat) {number : Nat} (hwidth : 0 < width) (h : number < 10 ^ width) :
    (padded width number).length = width := by
  have hle : (Nat.toDigits 10 number).length ≤ width :=
    (Nat.length_toDigits_le_iff (by decide) hwidth).mpr h
  rw [padded, List.length_append, List.length_replicate]
  omega

/-- A number that fits its places reads back and leaves what follows it. -/
theorem readDigits?_padded {width number : Nat} (hwidth : 0 < width) (h : number < 10 ^ width)
    (rest : List Char) :
    readDigits? width (padded width number ++ rest) = some (number, rest) := by
  have hlength := length_padded width hwidth h
  have hne : padded width number ≠ [] := by
    intro hnil
    rw [hnil, List.length_nil] at hlength
    omega
  rw [readDigits?, List.take_left' hlength, List.drop_left' hlength, if_pos hlength,
    digitsValue?_eq hne fun _ => isDigit_of_mem_padded, ofDigitChars_padded]
  rfl

@[simp]
theorem readChar?_cons (c : Char) (rest : List Char) : readChar? c (c :: rest) = some rest := by
  simp [readChar?]

/-! ### Places after the second -/

/-- What dropping the zeros at the end of a text drops is zeros. -/
theorem exists_trailing_zeros (text : List Char) :
    ∃ count, text =
      (text.reverse.dropWhile (· == '0')).reverse ++ List.replicate count '0' := by
  have hzeros : text.reverse.takeWhile (· == '0') =
      List.replicate (text.reverse.takeWhile (· == '0')).length '0' :=
    List.eq_replicate_of_mem fun c hc => by simpa using List.mem_takeWhile_imp hc
  refine ⟨(text.reverse.takeWhile (· == '0')).length, ?_⟩
  calc text = (text.reverse.takeWhile (· == '0') ++ text.reverse.dropWhile (· == '0')).reverse := by
        rw [List.takeWhile_append_dropWhile, List.reverse_reverse]
    _ = _ := by
        rw [List.reverse_append, hzeros, List.reverse_replicate, List.length_replicate]

/-- Digits filled up with zeros to nine places, of which three are at most taken up. -/
theorem take_fill {places : List Char} {count : Nat} (h : places.length + count = 3) :
    (places ++ List.replicate 9 '0').take 9 =
      places ++ List.replicate count '0' ++ List.replicate 6 '0' := by
  rw [show 9 = count + 6 + places.length by omega, ← List.replicate_append_replicate,
    ← List.replicate_append_replicate, ← List.append_assoc, ← List.append_assoc]
  exact List.take_left' (by simp only [List.length_append, List.length_replicate]; omega)

/-- The places of a number of milliseconds read back as its nanoseconds. -/
theorem readNanos?_subsecondText {millis : Nat} (h : millis < 1000) :
    readNanos? (subsecondText millis ++ ['Z']) = some (millis * milliSpan, ['Z']) := by
  rw [subsecondText]
  split
  · subst millis
    rfl
  · rename_i hne
    obtain ⟨count, hcount⟩ := exists_trailing_zeros (padded 3 millis)
    generalize ((padded 3 millis).reverse.dropWhile (· == '0')).reverse = places at hcount ⊢
    have hlength : places.length + count = 3 := by
      rw [← length_padded 3 (by decide) h, hcount, List.length_append,
        List.length_replicate]
    have hdigits : ∀ c ∈ places, c.isDigit = true := fun c hc =>
      isDigit_of_mem_padded (hcount ▸ List.mem_append_left _ hc)
    have hplaces : places.isEmpty = false := by
      rw [List.isEmpty_eq_false_iff]
      rintro rfl
      have hvalue := ofDigitChars_padded 3 millis
      rw [hcount, List.nil_append, Nat.ofDigitChars_replicate_zero] at hvalue
      omega
    have hvalue : digitsValue? ((places ++ List.replicate 9 '0').take 9) =
        some (millis * milliSpan) := by
      rw [take_fill hlength, ← hcount, digitsValue?_eq (by simp), Nat.ofDigitChars_append,
        ofDigitChars_padded, Nat.ofDigitChars_replicate_zero, Nat.mul_comm]
      · rfl
      · intro c hc
        rcases List.mem_append.mp hc with hpadded | hzero
        · exact isDigit_of_mem_padded hpadded
        · rw [List.eq_of_mem_replicate hzero]
          decide
    rw [List.cons_append]
    simp only [readNanos?]
    rw [List.takeWhile_append_of_pos hdigits, List.dropWhile_append_of_pos hdigits,
      show List.takeWhile Char.isDigit ['Z'] = [] by decide, List.append_nil, hvalue]
    simp [hplaces]

/-! ### The whole text -/

/-- The first instant of the year 0 and the last of the year 9999. -/
def firstWritten : Int := Date.toDays ⟨0, 1, 1⟩ * dayMillis
def lastWritten : Int := (Date.toDays ⟨9999, 12, 31⟩ + 1) * dayMillis - 1

theorem daysInMonth_le (year : Int) (month : Nat) : daysInMonth year month ≤ 31 := by
  unfold daysInMonth
  split <;> try split
  all_goals decide

/-- The fields of a time of day add up to it. -/
theorem fields_add_up (days : Int) (millis : Nat) :
    (days * 86400 + 3600 * ((millis / 1000 / 3600 : Nat) : Int) +
      60 * ((millis / 1000 / 60 % 60 : Nat) : Int) + ((min (millis / 1000 % 60) 59 : Nat) : Int) -
      0) * 1000000000 + ((millis % 1000 * milliSpan : Nat) : Int) =
      (days * 86400000 + millis) * 1000000 := by
  have hseconds : 3600 * (millis / 1000 / 3600) + 60 * (millis / 1000 / 60 % 60) +
      min (millis / 1000 % 60) 59 = millis / 1000 := by
    omega
  simp only [milliSpan]
  generalize millis / 1000 / 3600 = hours at *
  generalize millis / 1000 / 60 % 60 = minutes at *
  generalize min (millis / 1000 % 60) 59 = seconds at *
  omega

/-- A date of the calendar and a time of day read back as the milliseconds since 1970. -/
theorem parseCalendar?_calendarText {date : Date} {millis : Nat} (hvalid : date.isValid = true)
    (hfirst : 0 ≤ date.year) (hlast : date.year ≤ 9999) (hmillis : (millis : Int) < dayMillis) :
    parseCalendar? (calendarText date millis) = some (date.toDays * dayMillis + millis) := by
  obtain ⟨-, hmonth, -, hday⟩ := Date.isValid_iff.mp hvalid
  have hdayBound := hday.trans (daysInMonth_le date.year date.month)
  have hyear : ((date.year.toNat : Nat) : Int) = date.year := Int.toNat_of_nonneg hfirst
  simp only [dayMillis] at hmillis
  rw [calendarText]
  simp only [List.append_assoc, List.cons_append]
  rw [parseCalendar?]
  -- The year, the month and the day with their dashes, then the hour, the minute and the second.
  refine Option.bind_eq_some_iff.mpr ⟨_, readDigits?_padded (by decide) (by omega) _, ?_⟩
  refine Option.bind_eq_some_iff.mpr ⟨_, readChar?_cons _ _, ?_⟩
  refine Option.bind_eq_some_iff.mpr ⟨_, readDigits?_padded (by decide) (by omega) _, ?_⟩
  refine Option.bind_eq_some_iff.mpr ⟨_, readChar?_cons _ _, ?_⟩
  refine Option.bind_eq_some_iff.mpr ⟨_, readDigits?_padded (by decide) (by omega) _, ?_⟩
  refine Option.bind_eq_some_iff.mpr ⟨_, readDigits?_padded (by decide) (by omega) _, ?_⟩
  refine Option.bind_eq_some_iff.mpr ⟨_, readChar?_cons _ _, ?_⟩
  refine Option.bind_eq_some_iff.mpr ⟨_, readDigits?_padded (by decide) (by omega) _, ?_⟩
  refine Option.bind_eq_some_iff.mpr ⟨_, readChar?_cons _ _, ?_⟩
  refine Option.bind_eq_some_iff.mpr ⟨_, readDigits?_padded (by decide) (by omega) _, ?_⟩
  refine Option.bind_eq_some_iff.mpr ⟨_, readNanos?_subsecondText (by omega), ?_⟩
  refine Option.bind_eq_some_iff.mpr ⟨0, rfl, ?_⟩
  have hdate : (⟨(date.year.toNat : Nat), date.month, date.day⟩ : Date) = date := by rw [hyear]
  have hleap : (millis / 1000 % 60 == 60) = false := by
    rw [beq_eq_false_iff_ne]
    omega
  simp only [hdate, hleap, hvalid, Bool.false_and, Bool.false_eq_true, if_false, dayMillis]
  rw [fields_add_up, Int.mul_tdiv_cancel _ (by decide), if_neg]
  simp only [Bool.or_eq_true, Bool.not_true, Bool.false_eq_true, false_or, decide_eq_true_eq]
  omega

/-! ### The text and its reader -/

theorem calendarText_eq_cons (date : Date) (millis : Nat) :
    ∃ c rest, c.isDigit = true ∧ calendarText date millis = c :: rest := by
  have hne : padded 4 date.year.toNat ≠ [] := by simp [padded]
  obtain ⟨c, rest, htext⟩ := List.exists_cons_of_ne_nil hne
  have hdigit : c.isDigit = true := isDigit_of_mem_padded (htext ▸ List.mem_cons_self)
  rw [calendarText, htext]
  exact ⟨c, _, hdigit, rfl⟩

theorem getLast?_calendarText (date : Date) (millis : Nat) :
    (calendarText date millis).getLast? = some 'Z' := by
  rw [calendarText, List.getLast?_concat]

theorem isBlank_of_isDigit {c : Char} (h : c.isDigit = true) : Text.isBlank c = false := by
  obtain ⟨hlow, hhigh⟩ := Exposition.toNat_of_isDigit h
  exact Exposition.isBlank_of_visible (by omega) (by omega)

theorem trimChars_calendarText (date : Date) (millis : Nat) :
    Text.trimChars (calendarText date millis) = calendarText date millis := by
  apply Text.trimChars_eq
  · obtain ⟨c, rest, hdigit, htext⟩ := calendarText_eq_cons date millis
    rw [htext]
    rintro _ ⟨⟩
    exact isBlank_of_isDigit hdigit
  · rw [getLast?_calendarText]
    rintro _ ⟨⟩
    decide

theorem year_mem {instant : Int} (hfirst : firstWritten ≤ instant)
    (hlast : instant ≤ lastWritten) :
    0 ≤ (Date.ofDays (instant / dayMillis)).year ∧
      (Date.ofDays (instant / dayMillis)).year ≤ 9999 := by
  apply Date.year_ofDays_mem
  · simp only [firstWritten, dayMillis] at *
    omega
  · simp only [lastWritten, dayMillis] at *
    omega

/-- An instant that is written as calendar text. -/
theorem formatInstant_eq {instant : Int} (hfirst : firstWritten ≤ instant)
    (hlast : instant ≤ lastWritten) :
    formatInstant instant = .ofList (calendarText (Date.ofDays (instant / dayMillis))
      (instant % dayMillis).toNat) := by
  have hyear := year_mem hfirst hlast
  simp only [formatInstant]
  rw [if_pos hyear]

/-- Text that starts with a digit refers to no other instant. -/
theorem readInstant_of_isDigit {text : String} {instant : Int} {c : Char} {rest : List Char}
    (hdigit : c.isDigit = true) (htrim : Text.trimChars text.toList = c :: rest)
    (hread : parseCalendar? (c :: rest) = some instant) (now : Int) :
    readInstant text now = .ok instant := by
  have hc : c ≠ 'n' := by
    rintro rfl
    exact absurd hdigit (by decide)
  simp only [readInstant, htrim]
  split
  · rename_i heq
    exact absurd (List.cons.inj heq).1 hc
  · rename_i heq
    exact absurd (List.cons.inj heq).1 hc
  · rename_i heq
    exact absurd (List.cons.inj heq).1 hc
  · rw [hread]

/-- The text of an instant reads back as the instant. -/
theorem readInstant_formatInstant {instant : Int} (hfirst : firstWritten ≤ instant)
    (hlast : instant ≤ lastWritten) (now : Int) :
    readInstant (formatInstant instant) now = .ok instant := by
  have hyear := year_mem hfirst hlast
  have hmillis : ((instant % dayMillis).toNat : Int) < dayMillis := by
    simp only [dayMillis]
    omega
  have hread := parseCalendar?_calendarText (Date.isValid_ofDays (instant / dayMillis))
    hyear.1 hyear.2 hmillis
  have hinstant : (Date.ofDays (instant / dayMillis)).toDays * dayMillis +
      ((instant % dayMillis).toNat : Int) = instant := by
    rw [Date.toDays_ofDays]
    simp only [dayMillis]
    omega
  rw [hinstant] at hread
  obtain ⟨c, rest, hdigit, htext⟩ := calendarText_eq_cons (Date.ofDays (instant / dayMillis))
    (instant % dayMillis).toNat
  have htrim := trimChars_calendarText (Date.ofDays (instant / dayMillis))
    (instant % dayMillis).toNat
  rw [htext] at hread htrim
  rw [formatInstant_eq hfirst hlast]
  exact readInstant_of_isDigit hdigit (by rw [String.toList_ofList, htext, htrim]) hread now

/-- The text of an instant of the years 0 to 9999 reads back as the instant at every now, and no
other instant of these years has it. -/
theorem instant_texts_read_back {instant : Int} (hfirst : firstWritten ≤ instant)
    (hlast : instant ≤ lastWritten) :
    (∀ now, readInstant (formatInstant instant) now = .ok instant) ∧
      ∀ other, firstWritten ≤ other → other ≤ lastWritten →
        formatInstant other = formatInstant instant → other = instant := by
  refine ⟨readInstant_formatInstant hfirst hlast, fun other hother hother' htext => ?_⟩
  have hread := readInstant_formatInstant hother hother' 0
  rw [htext, readInstant_formatInstant hfirst hlast 0] at hread
  exact (Except.ok.inj hread).symm

/-- Half a second into the year 0: before 1970, with places that are shortened. -/
theorem half_second_reads_back :
    formatInstant (firstWritten + 500) = "0000-01-01T00:00:00.5Z" ∧
      readInstant (formatInstant (firstWritten + 500)) 7 = .ok (-62167219199500) := by
  have hfirst : firstWritten ≤ firstWritten + 500 := by decide
  have hlast : firstWritten + 500 ≤ lastWritten := by decide
  exact ⟨by decide +kernel, (instant_texts_read_back hfirst hlast).1 7⟩

end MetricBench.Time
