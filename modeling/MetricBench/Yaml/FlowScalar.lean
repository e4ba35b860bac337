import MetricBench.Text.Hex
import MetricBench.Yaml.Layout

/-!
# Plain and quoted scalars

A scalar that is not a block may go on over several lines.  A single line break in it is read as a
space, of more breaks all but the first are kept, and blanks around breaks are dropped.
-/

namespace MetricBench.Yaml

/-- What stands between two words of a scalar: blanks, or line breaks with blanks around them. -/
structure Gap where
  blanks : List Char
  broken : Bool
  firstBreak : Option Char
  moreBreaks : List Char

namespace Gap

def empty : Gap := ⟨[], false, none, []⟩

/-- The gap after a line break that is escaped, which itself is not read. -/
def afterEscapedBreak : Gap := ⟨[], true, none, []⟩

def isEmpty (gap : Gap) : Bool := gap.blanks.isEmpty && !gap.broken

def addBlank (gap : Gap) (c : Char) : Gap :=
  if gap.broken then gap else { gap with blanks := gap.blanks ++ [c] }

def addBreak (gap : Gap) (c : Char) : Gap :=
  if gap.broken then { gap with moreBreaks := gap.moreBreaks ++ [c] }
  else ⟨[], true, some c, []⟩

/-- What a gap is read as. -/
def text (gap : Gap) : List Char :=
  if gap.broken then
    match gap.firstBreak with
    | some '\n' => if gap.moreBreaks.isEmpty then [' '] else gap.moreBreaks
    | first => first.toList ++ gap.moreBreaks
  else gap.blanks

end Gap

/-- Takes the rest of a gap.  A tab may not stand before the column `indent` of a line. -/
def takeGap? (indent : Nat) (gap : Gap) : Spots → Option (Gap × Spots)
  | [] => some (gap, [])
  | spot :: rest =>
    if spot.isGap then
      if gap.broken && spot.char == '\t' && spot.column < indent then none
      else takeGap? indent (gap.addBlank spot.char) rest
    else if spot.isBreak then takeGap? indent (gap.addBreak spot.char) rest
    else some (gap, spot :: rest)

/-! ### Plain scalars -/

/-- The characters that end a plain scalar in a flow collection. -/
def flowIndicators : List Char := [',', '[', ']', '\x7b', '\x7d']

/-- Takes a word of a plain scalar.  A colon ends it before a blank; in a flow collection a colon
may not stand before an indicator. -/
def takePlainWord? (inFlow : Bool) : Spots → Option (List Char × Spots)
  | [] => some ([], [])
  | spot :: rest =>
    let isColon := spot.char == ':'
    if spot.isBlank then some ([], spot :: rest)
    else if inFlow && isColon && startsWithAny ('?' :: flowIndicators) rest then none
    else if (isColon && atBlank rest) || (inFlow && flowIndicators.contains spot.char) then
      some ([], spot :: rest)
    else (takePlainWord? inFlow rest).map fun (word, rest) => (spot.char :: word, rest)

/-- Takes the rest of a plain scalar after a gap, which belongs to it only if a word follows.  Tells
also whether a line break has been passed since the last word.  Every step takes a word, so a little
more than the number of characters is enough `fuel`. -/
def takePlainRest? (inFlow : Bool) (indent : Nat) :
    Nat → Gap → Spots → Option (List Char × Bool × Spots)
  | 0, _, _ => none
  | fuel + 1, gap, spots =>
    let finished := some ([], gap.broken, spots)
    if atDocumentMark spots || startsWithAny ['#'] spots then finished
    else do
      let (word, rest) ← takePlainWord? inFlow spots
      if word.isEmpty then finished
      else
        let text := gap.text ++ word
        let (next, rest) ← takeGap? indent .empty rest
        let outside := !inFlow && rest.head?.any fun spot => spot.column < indent
        if next.isEmpty || outside then some (text, next.broken, rest)
        else
          let (more, broken, rest) ← takePlainRest? inFlow indent fuel next rest
          some (text ++ more, broken, rest)

/-- Takes a plain scalar, whose later lines have to reach the column `indent` outside of flow
collections. -/
def takePlain? (inFlow : Bool) (indent : Nat) (spots : Spots) :
    Option (List Char × Bool × Spots) :=
  takePlainRest? inFlow indent (spots.length + 1) .empty spots

/-! ### Quoted scalars -/

/-- What a letter after a backslash stands for. -/
inductive Escape where
  | char (c : Char)
  | code (width : Nat)

def escapeOf? (c : Char) : Option Escape :=
  match c with
  | '0' => some (.char '\x00')
  | 'a' => some (.char '\x07')
  | 'b' => some (.char '\x08')
  | 't' | '\t' => some (.char '\t')
  | 'n' => some (.char '\n')
  | 'v' => some (.char '\x0b')
  | 'f' => some (.char '\x0c')
  | 'r' => some (.char '\r')
  | 'e' => some (.char '\x1b')
  | ' ' | '"' | '/' | '\\' => some (.char c)
  | 'N' => some (.char '\u0085')
  | '_' => some (.char '\u00a0')
  | 'L' => some (.char '\u2028')
  | 'P' => some (.char '\u2029')
  | 'x' => some (.code 2)
  | 'u' => some (.code 4)
  | 'U' => some (.code 8)
  | _ => none

/-- Reads an escape after its backslash. -/
def readEscape? : Spots → Option (Char × Spots)
  | [] => none
  | spot :: rest => do
    match ← escapeOf? spot.char with
    | .char c => some (c, rest)
    | .code width =>
      let code ← Text.hexNumber? width ((rest.take width).map Spot.char)
      some (← Text.charOfCode? code, rest.drop width)

/-- Takes a quoted scalar up to its closing quote.  Between single quotes a quote is written twice;
between double quotes there are escapes.  Every step takes a character, so a little more than the
number of characters is enough `fuel`. -/
def takeQuoted? (quote : Char) : Nat → Spots → Option (List Char × Spots)
  | 0, _ | _, [] => none
  | fuel + 1, spot :: rest =>
    let continueWith (text : List Char) (rest : Spots) : Option (List Char × Spots) :=
      (takeQuoted? quote fuel rest).map fun (more, rest) => (text ++ more, rest)
    if atDocumentMark (spot :: rest) then none
    else if spot.char = quote then
      if quote = '\'' ∧ startsWithAny ['\''] rest then continueWith ['\''] (rest.drop 1)
      else some ([], rest)
    else if spot.char = '\\' ∧ quote = '"' then
      match rest with
      | [] => none
      | next :: after =>
        if next.isBreak then
          (takeGap? 0 .afterEscapedBreak after).bind fun (gap, rest) => continueWith gap.text rest
        else (readEscape? rest).bind fun (c, rest) => continueWith [c] rest
    else if spot.isBlank then
      (takeGap? 0 .empty (spot :: rest)).bind fun (gap, rest) => continueWith gap.text rest
    else continueWith [spot.char] rest

end MetricBench.Yaml
