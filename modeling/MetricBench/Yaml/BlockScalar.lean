import MetricBench.Yaml.Layout

/-!
# Block scalars

A block scalar takes the lines that are indented as far as its first one, or as its header tells.  A
literal one keeps its lines; a folded one joins lines that do not start with a blank.
-/

namespace MetricBench.Yaml

/-- What becomes of the line breaks at the end of a block scalar: none, the first or all are
kept. -/
inductive Chomping where
  | strip
  | clip
  | keep
  deriving DecidableEq, Repr

/-- The header of a block scalar.  The indentation is counted from that of the collection around the
scalar. -/
structure BlockHeader where
  chomping : Chomping
  indentation : Option Nat

/-- Reads the sign that tells what becomes of the breaks at the end. -/
def readChomping : Spots → Chomping × Spots
  | spot :: rest =>
    if spot.char = '+' then (.keep, rest)
    else if spot.char = '-' then (.strip, rest)
    else (.clip, spot :: rest)
  | [] => (.clip, [])

/-- Reads the digit of an indentation, which is not zero. -/
def readIndentation? : Spots → Option (Option Nat × Spots)
  | spot :: rest =>
    if spot.char = '0' then none
    else if spot.char.isDigit then some (some (spot.char.toNat - '0'.toNat), rest)
    else some (none, spot :: rest)
  | [] => some (none, [])

/-- Reads the header of a block scalar and the end of its line.  The sign and the digit come in any
order. -/
def readBlockHeader? (spots : Spots) : Option (BlockHeader × Spots) := do
  let (chomping, rest) := readChomping spots
  let (indentation, rest) ← readIndentation? rest
  let (chomping, rest) :=
    if chomping = .clip ∧ indentation.isSome then readChomping rest else (chomping, rest)
  some (⟨chomping, indentation⟩, ← skipLineEnd? rest)

/-- Takes line breaks and the blanks before column `indent`, or before any column where it is not
known yet.  Gives the breaks and the column of the widest line. -/
def takeBlankLines? (indent : Option Nat) (widest : Nat) : Spots → Option (List Char × Nat × Spots)
  | [] => some ([], widest, [])
  | spot :: rest =>
    let inside := indent.all (spot.column < ·)
    if spot.char = ' ' ∧ inside then takeBlankLines? indent widest rest
    else if spot.char = '\t' ∧ inside then none
    else
      let widest := max widest spot.column
      if spot.isBreak then
        (takeBlankLines? indent widest rest).map fun (breaks, widest, rest) =>
          (spot.char :: breaks, widest, rest)
      else some ([], widest, spot :: rest)

/-- The breaks after a line of a block scalar: the one that ends it and those of empty lines. -/
structure LineEnd where
  lineBreak : List Char
  emptyLines : List Char

/-- What the breaks between two lines are read as.  `joins` holds if neither of them starts with a
blank and the scalar is folded. -/
def LineEnd.text (ending : LineEnd) (joins : Bool) : List Char :=
  if joins && ending.lineBreak == ['\n'] then
    if ending.emptyLines.isEmpty then [' '] else ending.emptyLines
  else ending.lineBreak ++ ending.emptyLines

/-- Takes the lines of a block scalar after a line that ended as told.  Every step takes a line, so
a little more than the number of characters is enough `fuel`. -/
def takeBlockLines? (isFolded : Bool) (indent : Nat) :
    Nat → LineEnd → Bool → Spots → Option (List Char × LineEnd × Spots)
  | fuel + 1, ending, afterBlank, spot :: rest =>
    if spot.column = indent then do
      let (line, rest) := takeLine (spot :: rest)
      let (emptyLines, _, left) ← takeBlankLines? (some indent) 0 (rest.drop 1)
      let next : LineEnd := ⟨(rest.head?.map Spot.char).toList, emptyLines⟩
      let glue := ending.text (isFolded && !afterBlank && !spot.isGap)
      let (more, last, left) ← takeBlockLines? isFolded indent fuel next spot.isGap left
      some (glue ++ line ++ more, last, left)
    else some ([], ending, spot :: rest)
  | _, ending, _, spots => some ([], ending, spots)

/-- Takes a block scalar after its indicator.  `outer` is the first column inside of the collection
around it. -/
def takeBlock? (isFolded : Bool) (outer : Nat) (spots : Spots) : Option (List Char × Spots) := do
  let (header, rest) ← readBlockHeader? spots
  let told := header.indentation.map fun width => outer - 1 + width
  let (emptyLines, widest, rest) ← takeBlankLines? told 0 rest
  let indent := told.getD (max widest (max outer 1))
  let (text, ending, rest) ←
    takeBlockLines? isFolded indent (rest.length + 1) ⟨[], emptyLines⟩ false rest
  let kept := match header.chomping with
    | .strip => []
    | .clip => ending.lineBreak
    | .keep => ending.lineBreak ++ ending.emptyLines
  some (text ++ kept, rest)

end MetricBench.Yaml
