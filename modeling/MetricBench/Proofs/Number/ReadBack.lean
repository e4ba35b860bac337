import MetricBench.Proofs.Number.Comparison

/-!
# Numbers read back

The text of a whole number that fits a signed word reads back as the number, and the text of a double as the
double.  Of what is not a number the text tells no more than that, so it reads back as the plain one.
-/

namespace MetricBench.Number

/-! ### Digits -/

theorem digitsValue?_eq {text : List Char} (hne : text ≠ [])
    (hdigits : ∀ c ∈ text, c.isDigit = true) :
    digitsValue? text = some (Nat.ofDigitChars 10 text 0) := by
  have hall : text.all Char.isDigit = true := List.all_eq_true.mpr hdigits
  have hempty : text.isEmpty = false := List.isEmpty_eq_false_iff.mpr hne
  rw [digitsValue?, hall, hempty]
  rfl

theorem isDigit_of_mem_toDigits {number : Nat} {c : Char} (h : c ∈ Nat.toDigits 10 number) :
    c.isDigit = true :=
  Nat.isDigit_of_mem_toDigits (by decide) (by decide) h

theorem digitsValue?_toDigits (number : Nat) :
    digitsValue? (Nat.toDigits 10 number) = some number := by
  rw [digitsValue?_eq Nat.toDigits_ne_nil fun _ => isDigit_of_mem_toDigits,
    Nat.ofDigitChars_ten_toDigits]

/-- A digit is no sign. -/
theorem ne_sign_of_isDigit {c : Char} (h : c.isDigit = true) : c ≠ '-' ∧ c ≠ '+' := by
  constructor
  · rintro rfl
    exact absurd h (by decide)
  · rintro rfl
    exact absurd h (by decide)

/-- Text that starts with a digit has no sign. -/
theorem splitSign_digit {c : Char} (h : c.isDigit = true) (rest : List Char) :
    splitSign (c :: rest) = (false, c :: rest) := by
  obtain ⟨hminus, hplus⟩ := ne_sign_of_isDigit h
  rw [splitSign]
  · intro other heq
    exact hminus (List.cons.inj heq).1
  · intro other heq
    exact hplus (List.cons.inj heq).1

/-- The digits of a number read back, after a minus sign as its negative. -/
theorem signed?_toDigits {number : Nat} (h : fitsSigned number = true) :
    signed? (Nat.toDigits 10 number) = some (number : Int) := by
  have hread := digitsValue?_toDigits number
  cases htext : Nat.toDigits 10 number with
  | nil => exact absurd htext Nat.toDigits_ne_nil
  | cons c rest =>
    rw [htext] at hread
    have hdigit : c.isDigit = true := isDigit_of_mem_toDigits (htext ▸ List.mem_cons_self)
    obtain ⟨hminus, hplus⟩ := ne_sign_of_isDigit hdigit
    simp [signed?, hread, h, hminus, hplus]

theorem signed?_minus_toDigits {number : Nat} (h : fitsSigned (-(number : Int)) = true) :
    signed? ('-' :: Nat.toDigits 10 number) = some (-(number : Int)) := by
  simp [signed?, digitsValue?_toDigits number, h]

/-- A whole number that fits a signed word reads back. -/
theorem signed?_toString {value : Int} (h : fitsSigned value = true) :
    signed? (toString value).toList = some value := by
  rw [Int.toString_eq_repr, Int.repr_eq_if]
  split
  case isTrue hpos =>
    have hvalue : (value.toNat : Int) = value := by omega
    rw [Nat.toList_repr, signed?_toDigits (by rwa [hvalue]), hvalue]
  case isFalse hneg =>
    have hvalue : -((-value).toNat : Int) = value := by omega
    rw [String.toList_append, Nat.toList_repr]
    change signed? ('-' :: Nat.toDigits 10 (-value).toNat) = some value
    rw [signed?_minus_toDigits (by rwa [hvalue]), hvalue]

/-! ### Positional notation -/

theorem takeWhile_digits {text : List Char} (htext : ∀ c ∈ text, c.isDigit = true) :
    text.takeWhile Char.isDigit = text ∧ text.dropWhile Char.isDigit = [] := by
  constructor
  · exact List.takeWhile_eq_self_iff.mpr htext
  · exact List.dropWhile_eq_nil_iff.mpr htext

theorem takeWhile_digits_point {whole fraction : List Char}
    (hwhole : ∀ c ∈ whole, c.isDigit = true) :
    (whole ++ '.' :: fraction).takeWhile Char.isDigit = whole ∧
      (whole ++ '.' :: fraction).dropWhile Char.isDigit = '.' :: fraction := by
  rw [List.takeWhile_append_of_pos hwhole, List.dropWhile_append_of_pos hwhole]
  exact ⟨List.append_nil whole, rfl⟩

/-- Digits without a point are a whole number. -/
theorem decimal?_digits {text : List Char} (hne : text ≠ [])
    (hdigits : ∀ c ∈ text, c.isDigit = true) :
    decimal? text = some ⟨Nat.ofDigitChars 10 text 0, 0⟩ := by
  obtain ⟨htake, hdrop⟩ := takeWhile_digits hdigits
  rw [decimal?, htake, hdrop]
  dsimp only
  rw [List.append_nil, digitsValue?_eq hne hdigits]
  rfl

/-- Digits with a point among them count in units of the last place. -/
theorem decimal?_point {whole fraction : List Char} (hne : whole ++ fraction ≠ [])
    (hdigits : ∀ c ∈ whole ++ fraction, c.isDigit = true) :
    decimal? (whole ++ '.' :: fraction) =
      some ⟨Nat.ofDigitChars 10 (whole ++ fraction) 0, -(fraction.length : Int)⟩ := by
  obtain ⟨htake, hdrop⟩ := @takeWhile_digits_point whole fraction fun c hc =>
    hdigits c (List.mem_append_left fraction hc)
  obtain ⟨hfraction, hrest⟩ := takeWhile_digits fun c hc =>
    hdigits c (List.mem_append_right whole hc)
  rw [decimal?, htake, hdrop]
  simp only [hfraction, hrest, digitsValue?_eq hne hdigits, exponent?, zero_sub]

/-- The positional notation of a decimal reads as a decimal of the same value. -/
theorem decimal?_positional (decimal : Decimal) :
    ∃ read, decimal? decimal.positional = some read ∧ read.value = decimal.value := by
  have hdigits : ∀ c ∈ Nat.toDigits 10 decimal.digits, c.isDigit = true := fun _ =>
    isDigit_of_mem_toDigits
  have hvalue : Nat.ofDigitChars 10 (Nat.toDigits 10 decimal.digits) 0 = decimal.digits :=
    Nat.ofDigitChars_ten_toDigits
  have hne : Nat.toDigits 10 decimal.digits ≠ [] := Nat.toDigits_ne_nil
  rw [Decimal.positional]
  generalize Nat.toDigits 10 decimal.digits = digits at *
  have hzeros : ∀ count : Nat, ∀ c ∈ List.replicate count '0', c.isDigit = true := by
    intro count c hc
    rw [List.eq_of_mem_replicate hc]
    rfl
  split
  case isTrue hpos =>
    -- a whole number, with zeros after its digits
    have hexponent : decimal.exponent = (decimal.exponent.toNat : Int) := by omega
    refine ⟨_, decimal?_digits (List.append_ne_nil_of_left_ne_nil hne _) ?_, ?_⟩
    · intro c hc
      rcases List.mem_append.mp hc with hmem | hmem
      · exact hdigits c hmem
      · exact hzeros _ c hmem
    · rw [Nat.ofDigitChars_append, hvalue, Nat.ofDigitChars_replicate_zero, Decimal.value,
        Decimal.value, hexponent, zpow_natCast]
      push_cast
      rw [mul_one, mul_comm, Int.toNat_natCast]
  case isFalse hneg =>
    split
    case isTrue hplace =>
      -- the point stands among the digits
      have hsplit := List.take_append_drop ((digits.length : Int) + decimal.exponent).toNat digits
      refine ⟨_, decimal?_point (by rwa [hsplit]) (by rwa [hsplit]), ?_⟩
      have hexponent : -((digits.drop ((digits.length : Int) + decimal.exponent).toNat).length : Int)
          = decimal.exponent := by
        rw [List.length_drop]
        omega
      rw [hsplit, hvalue, hexponent]
    case isFalse hplace =>
      -- the digits stand behind the point, after zeros
      have hsplit : ∀ fraction : List Char, '0' :: '.' :: fraction = ['0'] ++ '.' :: fraction :=
        fun _ => rfl
      rw [List.cons_append, List.cons_append, hsplit]
      refine ⟨_, decimal?_point (List.cons_ne_nil _ _) ?_, ?_⟩
      · intro c hc
        rcases List.mem_append.mp hc with hmem | hmem
        · rw [List.mem_singleton.mp hmem]
          rfl
        · rcases List.mem_append.mp hmem with hzero | hdigit
          · exact hzeros _ c hzero
          · exact hdigits c hdigit
      · have hexponent : -((List.replicate (-((digits.length : Int) + decimal.exponent)).toNat '0' ++
            digits).length : Int) = decimal.exponent := by
          rw [List.length_append, List.length_replicate]
          omega
        rw [hexponent, Nat.ofDigitChars_append, Nat.ofDigitChars_append,
          Nat.ofDigitChars_replicate_zero]
        have hzero : Nat.ofDigitChars 10 ['0'] 0 = 0 := rfl
        rw [hzero, Nat.mul_zero, hvalue]

theorem positional_head (decimal : Decimal) :
    ∃ c rest, decimal.positional = c :: rest ∧ c.isDigit = true := by
  have hdigits : ∀ c ∈ Nat.toDigits 10 decimal.digits, c.isDigit = true := fun _ =>
    isDigit_of_mem_toDigits
  have hne : Nat.toDigits 10 decimal.digits ≠ [] := Nat.toDigits_ne_nil
  rw [Decimal.positional]
  generalize Nat.toDigits 10 decimal.digits = digits at *
  cases digits with
  | nil => exact absurd rfl hne
  | cons c rest =>
    have hc : c.isDigit = true := hdigits c List.mem_cons_self
    split
    case isTrue => exact ⟨c, _, rfl, hc⟩
    case isFalse =>
      split
      case isTrue hplace =>
        obtain ⟨before, hbefore⟩ := Nat.exists_eq_succ_of_ne_zero
          (Nat.ne_of_gt (Int.pos_iff_toNat_pos.mp hplace))
        rw [hbefore, List.take_succ_cons]
        exact ⟨c, _, rfl, hc⟩
      case isFalse => exact ⟨'0', _, rfl, rfl⟩

/-! ### Doubles -/

theorem toLower_digit {c : Char} (h : c.isDigit = true) : c.toLower = c := by
  have hbounds : '0'.val ≤ c.val ∧ c.val ≤ '9'.val := by
    simpa [Char.isDigit] using h
  rw [Char.toLower, dif_neg]
  rintro ⟨hupper, -⟩
  have hle : 'A'.val ≤ '9'.val := UInt32.le_trans hupper hbounds.2
  exact absurd hle (by decide)

/-- No name of a special value starts with a digit. -/
theorem specialValue?_digit {c : Char} (h : c.isDigit = true) (rest : List Char) :
    specialValue? (c :: rest) = none := by
  have hnot : ∀ {name : String} {first : Char} {others : List Char},
      String.ofList ((c :: rest).map Char.toLower) = name → name.toList = first :: others →
      first.isDigit = true := by
    intro name first others hname hfirst
    rw [← hname, String.toList_ofList, List.map_cons, toLower_digit h] at hfirst
    rwa [← (List.cons.inj hfirst).1]
  rw [specialValue?]
  split
  case h_1 hinf => exact absurd (hnot hinf rfl) (by decide)
  case h_2 hinfinity => exact absurd (hnot hinfinity rfl) (by decide)
  case h_3 hnan => exact absurd (hnot hnan rfl) (by decide)
  case h_4 => rfl

theorem parseFloat?_digits {c : Char} {rest : List Char} (h : c.isDigit = true) (negative : Bool) :
    parseFloat? (if negative then '-' :: c :: rest else c :: rest) =
      (decimal? (c :: rest)).map fun decimal => withSign negative decimal.nearestBits := by
  cases negative with
  | true =>
    have hsign : splitSign ('-' :: c :: rest) = (true, c :: rest) := rfl
    rw [parseFloat?, if_pos rfl]
    simp only [hsign, specialValue?_digit h]
  | false =>
    rw [parseFloat?, if_neg Bool.false_ne_true]
    simp only [splitSign_digit h, specialValue?_digit h]

/-- A double without what its text does not tell: the sign and the further bits of what is not a number. -/
def plain (x : Double) : Double := if x.isNaN then .nan else x

theorem plain_of_number {x : Double} (h : x.isNaN = false) : plain x = x := if_neg (Bool.eq_false_iff.mp h)

theorem formatValue_plain (x : Double) : formatValue (plain x) = formatValue x := by
  cases h : x.isNaN with
  | true =>
    rw [plain, if_pos h, formatValue.eq_def x, isNaN_iff.mp h]
    rfl
  | false => rw [plain_of_number h]

/-- The text of a double reads as the double, and that of what is not a number as the plain one. -/
theorem parseFloat?_formatValue (x : Double) : parseFloat? (formatValue x).toList = some (plain x) := by
  rw [formatValue]
  cases hmagnitude : magnitude x with
  | nan =>
    rw [plain, if_pos (isNaN_iff.mpr hmagnitude)]
    dsimp only
    rfl
  | infinite =>
    have hx := magnitude_infinite hmagnitude
    rw [plain_of_number (isNaN_of_infinite hmagnitude)]
    cases hsign : isNegative x with
    | true =>
      rw [hsign] at hx
      rw [hx]
      rfl
    | false =>
      rw [hsign] at hx
      rw [hx]
      rfl
  | finite size =>
    obtain ⟨hsize, hbits⟩ := magnitude_finite hmagnitude
    have hx := withSign_sizeBits x
    rw [hbits] at hx
    rw [plain_of_number (isNaN_of_finite hmagnitude)]
    dsimp only
    rw [String.toList_ofList, positional]
    by_cases hcount : size.count = 0
    · have hleast : size.exponent = -1074 := by
        by_contra hne
        have hfull := hsize.full (by have hleast := hsize.least; omega)
        rw [hcount] at hfull
        exact absurd hfull (by decide)
      have hzero : size.bits = 0 := by
        rw [Binary.bits, hcount, hleast]
        rfl
      have hdecimal : decimal? ['0'] = some ⟨0, 0⟩ := rfl
      have hnearest : Decimal.nearestBits ⟨0, 0⟩ = 0 := rfl
      rw [if_pos hcount, parseFloat?_digits rfl, hdecimal, Option.map_some, hnearest, ← hzero, hx]
    · rw [if_neg hcount]
      obtain ⟨read, hread, hvalue⟩ := decimal?_positional (shortest size)
      obtain ⟨c, rest, htext, hc⟩ := positional_head (shortest size)
      have hholds := shortest_holds hsize (Nat.pos_of_ne_zero hcount)
      rw [← hvalue] at hholds
      rw [htext] at hread ⊢
      rw [parseFloat?_digits hc, hread, Option.map_some,
        Decimal.nearestBits_eq hsize (Nat.pos_of_ne_zero hcount) hholds, hx]

/-! ### Characters of numbers -/

/-- Whether a character may stand in the text of a number. -/
def isNumberChar (c : Char) : Bool := c.isAlphanum || c == '-' || c == '+' || c == '.'

theorem isNumberChar_of_isDigit {c : Char} (h : c.isDigit = true) : isNumberChar c = true := by
  rw [isNumberChar, Char.isAlphanum, h, Bool.or_true]
  rfl

theorem isNumberChar_of_mem_positional {decimal : Decimal} {c : Char}
    (h : c ∈ decimal.positional) : isNumberChar c = true := by
  have hdigits : ∀ c ∈ Nat.toDigits 10 decimal.digits, isNumberChar c = true := fun c hc =>
    isNumberChar_of_isDigit (isDigit_of_mem_toDigits hc)
  have hzeros : ∀ {count : Nat}, c ∈ List.replicate count '0' → isNumberChar c = true := by
    intro count hc
    rw [List.eq_of_mem_replicate hc]
    rfl
  rw [Decimal.positional] at h
  generalize Nat.toDigits 10 decimal.digits = digits at *
  split at h
  case isTrue =>
    rcases List.mem_append.mp h with hmem | hmem
    · exact hdigits c hmem
    · exact hzeros hmem
  case isFalse =>
    split at h
    case isTrue =>
      rcases List.mem_append.mp h with hmem | hmem
      · exact hdigits c (List.mem_of_mem_take hmem)
      · rcases List.mem_cons.mp hmem with rfl | hmem
        · rfl
        · exact hdigits c (List.mem_of_mem_drop hmem)
    case isFalse =>
      rcases List.mem_append.mp h with hmem | hmem
      · rcases List.mem_cons.mp hmem with rfl | hmem
        · rfl
        · rcases List.mem_cons.mp hmem with rfl | hmem
          · rfl
          · exact hzeros hmem
      · exact hdigits c hmem

theorem isNumberChar_of_mem_formatValue {x : Double} {c : Char} (h : c ∈ (formatValue x).toList) :
    isNumberChar c = true := by
  have hnames : ∀ name : String, name.toList.all isNumberChar = true → c ∈ name.toList →
      isNumberChar c = true := fun _ hall hmem => List.all_eq_true.mp hall c hmem
  rw [formatValue] at h
  split at h
  case h_1 => exact hnames "NaN" (by decide) h
  case h_2 =>
    split at h
    case isTrue => exact hnames "-Inf" (by decide) h
    case isFalse => exact hnames "+Inf" (by decide) h
  case h_3 size _ =>
    have hpositional : ∀ c ∈ positional size, isNumberChar c = true := by
      intro c hc
      rw [positional] at hc
      split at hc
      case isTrue =>
        rw [List.mem_singleton.mp hc]
        rfl
      case isFalse => exact isNumberChar_of_mem_positional hc
    rw [String.toList_ofList] at h
    split at h
    case isTrue =>
      rcases List.mem_cons.mp h with rfl | hmem
      · rfl
      · exact hpositional c hmem
    case isFalse => exact hpositional c h

theorem isNumberChar_of_mem_toString {value : Int} {c : Char} (h : c ∈ (toString value).toList) :
    isNumberChar c = true := by
  rw [Int.toString_eq_repr, Int.repr_eq_if] at h
  split at h
  case isTrue =>
    rw [Nat.toList_repr] at h
    exact isNumberChar_of_isDigit (isDigit_of_mem_toDigits h)
  case isFalse =>
    rw [String.toList_append, Nat.toList_repr] at h
    rcases List.mem_append.mp h with hmem | hmem
    · rw [List.mem_singleton.mp hmem]
      rfl
    · exact isNumberChar_of_isDigit (isDigit_of_mem_toDigits hmem)

theorem formatValue_ne_nil (x : Double) : (formatValue x).toList ≠ [] := by
  intro hnil
  have hread := parseFloat?_formatValue x
  rw [hnil] at hread
  cases hread

theorem toString_ne_nil (value : Int) : (toString value).toList ≠ [] := by
  rw [Int.toString_eq_repr, Int.repr_eq_if]
  split
  case isTrue =>
    rw [Nat.toList_repr]
    exact Nat.toDigits_ne_nil
  case isFalse =>
    rw [String.toList_append]
    exact List.cons_ne_nil _ _

end MetricBench.Number
