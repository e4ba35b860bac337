import MetricBench.Regex.CharSet

/-!
# Flags of a pattern

Flags are set in a pattern itself, for the rest of a group.  In verbose mode blanks and comments
between the parts of a pattern are skipped.
-/

namespace MetricBench.Regex

/-- The flags in force at a place of a pattern. -/
structure Flags where
  ignoreCase : Bool
  multiLine : Bool
  dotMatchesNewline : Bool
  carriageReturns : Bool
  unicode : Bool
  verbose : Bool
  deriving DecidableEq, Repr

namespace Flags

/-- The flags at the start of a pattern. -/
def initial : Flags := ⟨false, false, false, false, true, false⟩

/-- The flags after the flag with the given letter has been set or cleared.  The flag that swaps
greedy and lazy repetition has no bearing on whether a pattern matches. -/
def set? (flags : Flags) (letter : Char) (value : Bool) : Option Flags :=
  match letter with
  | 'i' => some { flags with ignoreCase := value }
  | 'm' => some { flags with multiLine := value }
  | 's' => some { flags with dotMatchesNewline := value }
  | 'R' => some { flags with carriageReturns := value }
  | 'u' => some { flags with unicode := value }
  | 'x' => some { flags with verbose := value }
  | 'U' => some flags
  | _ => none

/-- Drops blanks and comments; `comment` says whether the text starts inside a comment. -/
def dropIgnored (comment : Bool) : List Char → List Char
  | [] => []
  | c :: rest =>
    if comment then dropIgnored (c != '\n') rest
    else if Text.isBlank c then dropIgnored false rest
    else if c = '#' then dropIgnored true rest
    else c :: rest

/-- Skips what verbose mode ignores. -/
def skip (flags : Flags) (text : List Char) : List Char :=
  if flags.verbose then dropIgnored false text else text

/-- The next character that counts, without regard to where a comment ends. -/
def glance (flags : Flags) (text : List Char) : Option Char :=
  if flags.verbose then
    match Text.trimStart text with
    | '#' :: rest => (Text.trimStart rest).head?
    | rest => rest.head?
  else text.head?

/-- Takes characters that `keep` holds of, with what verbose mode ignores between them.  Each
character takes one unit of `fuel`, so the length of the text is enough. -/
def takeSpaced (flags : Flags) (keep : Char → Bool) (fuel : Nat) (text : List Char) :
    List Char × List Char :=
  match fuel, text with
  | fuel + 1, c :: rest =>
    if keep c then
      let (taken, after) := takeSpaced flags keep fuel (flags.skip rest)
      (c :: taken, after)
    else ([], c :: rest)
  | _, text => ([], text)

/-- Reads flags up to a colon or a closing parenthesis.  `seen` holds the letters read so far,
`value` is what the next flags are set to, and `dangling` says that a minus sign still wants one. -/
def readLetters? (flags : Flags) (seen : List Char) (value dangling : Bool) :
    List Char → Option (Flags × List Char)
  | [] => none
  | c :: rest =>
    if c = ':' ∨ c = ')' then if dangling then none else some (flags, c :: rest)
    else if seen.contains c then none
    else if c = '-' then readLetters? flags (c :: seen) false true rest
    else (flags.set? c value).bind fun flags => readLetters? flags (c :: seen) value false rest

/-- The class that a set amounts to: without Unicode a class may hold only ASCII characters, its
other members standing for single bytes. -/
def finishSet? (flags : Flags) (set : CharSet) : Option CharSet :=
  if flags.unicode then some set
  else if (List.range 128).any fun offset => set.contains (Char.ofNat (128 + offset)) then none
  else some (.intersection .ascii set)

/-- A set closed under case folding where the flags ask for it. -/
def fold (flags : Flags) (set : CharSet) : CharSet :=
  if !flags.ignoreCase then set
  else if flags.unicode then .folded set
  else .asciiFolded set

end Flags

end MetricBench.Regex
