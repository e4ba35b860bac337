import MetricBench.Text.Blank
import MetricBench.Unicode.Age
import MetricBench.Unicode.CaseFolding
import MetricBench.Unicode.Property
import MetricBench.Unicode.Script

/-!
# Sets of characters

The sets that a pattern can ask a character to be in: ranges, character properties, and what set
operations and case folding make of them.
-/

namespace MetricBench.Regex

/-- The properties of characters that patterns name. -/
inductive Property where
  | blank
  | among (set : Unicode.CategorySet)
  | script (script : Unicode.Script)
  | usedWith (script : Unicode.Script)
  | meantIn (version : Nat)
  deriving DecidableEq, Repr

/-- Whether a character has a property. -/
def Property.holds : Property → Char → Bool
  | blank, c => Text.isBlank c
  | among set, c => set.contains c
  | script wanted, c => Unicode.Script.of c = wanted
  | usedWith wanted, c => wanted.isUsedWith c
  | meantIn version, c => Unicode.hadMeaningIn version c

/-- A set of characters. -/
inductive CharSet where
  | none
  | range (first last : Char)
  | property (wanted : Property)
  | union (left right : CharSet)
  | intersection (left right : CharSet)
  | complement (set : CharSet)
  | folded (set : CharSet)
  | asciiFolded (set : CharSet)
  deriving DecidableEq, Repr

namespace CharSet

/-- Whether a character is in a set.  A folded set holds every character that folds like one of its
own. -/
def contains : CharSet → Char → Bool
  | none, _ => false
  | range first last, c => first ≤ c && c ≤ last
  | property wanted, c => wanted.holds c
  | union left right, c => left.contains c || right.contains c
  | intersection left right, c => left.contains c && right.contains c
  | complement set, c => !set.contains c
  | folded set, c => (Unicode.foldingOrbit c).any fun other => set.contains other
  | asciiFolded set, c => set.contains c || set.contains c.toLower || set.contains c.toUpper

def single (c : Char) : CharSet := range c c

def all : CharSet := complement none

def difference (left right : CharSet) : CharSet := intersection left (complement right)

def symmetricDifference (left right : CharSet) : CharSet :=
  union (difference left right) (difference right left)

def ascii : CharSet := range '\x00' '\x7f'

/-- The union of ranges. -/
def ranges (bounds : List (Char × Char)) : CharSet :=
  bounds.foldl (fun set bound => union set (range bound.1 bound.2)) none

def asciiDigit : CharSet := range '0' '9'

def asciiBlank : CharSet := union (range '\t' '\r') (single ' ')

def asciiWord : CharSet := ranges [('0', '9'), ('A', 'Z'), ('_', '_'), ('a', 'z')]

/-- The ASCII classes that a bracketed class can name. -/
def named? (name : String) : Option CharSet :=
  match name with
  | "alnum" => some (ranges [('0', '9'), ('A', 'Z'), ('a', 'z')])
  | "alpha" => some (ranges [('A', 'Z'), ('a', 'z')])
  | "ascii" => some ascii
  | "blank" => some (ranges [('\t', '\t'), (' ', ' ')])
  | "cntrl" => some (ranges [('\x00', '\x1f'), ('\x7f', '\x7f')])
  | "digit" => some asciiDigit
  | "graph" => some (range '!' '~')
  | "lower" => some (range 'a' 'z')
  | "print" => some (range ' ' '~')
  | "punct" => some (ranges [('!', '/'), (':', '@'), ('[', '\x60'), ('\x7b', '~')])
  | "space" => some asciiBlank
  | "upper" => some (range 'A' 'Z')
  | "word" => some asciiWord
  | "xdigit" => some (ranges [('0', '9'), ('A', 'F'), ('a', 'f')])
  | _ => Option.none

end CharSet

end MetricBench.Regex
