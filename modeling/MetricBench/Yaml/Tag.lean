import MetricBench.Text.Hex
import MetricBench.Yaml.Layout
import MetricBench.Yaml.Token

/-!
# Tags, anchors and directives

A tag is written whole between angle brackets, or as a handle and a suffix, where a directive may
tell what the handle stands for.
-/

namespace MetricBench.Yaml

/-- The characters of names: ASCII letters, digits, hyphens and underscores. -/
def isNameChar (c : Char) : Bool := c.isAlphanum || c == '-' || c == '_'

def takeName (spots : Spots) : List Char × Spots :=
  ((spots.takeWhile fun spot => isNameChar spot.char).map Spot.char,
    spots.dropWhile fun spot => isNameChar spot.char)

/-- Reads the name of an anchor, which a blank or one of a few indicators has to follow. -/
def readAnchorName? (spots : Spots) : Option (String × Spots) :=
  let (name, rest) := takeName spots
  let ends := atBlank rest || startsWithAny ['?', ':', ',', ']', '\x7d', '%', '@', '\x60'] rest
  if name.isEmpty || !ends then none else some (.ofList name, rest)

/-! ### Tags -/

/-- The characters of a tag that are not written by their codes.  Commas and square brackets stand
only in tags that are written whole and in directives. -/
def isTagChar (whole : Bool) (c : Char) : Bool :=
  isNameChar c || [';', '/', '?', ':', '@', '&', '=', '+', '$', '.', '!', '~', '*', '\'', '(',
    ')'].contains c || (whole && [',', '[', ']'].contains c)

/-- The number of octets of a character that starts with the given one. -/
def octetCount? (octet : Nat) : Option Nat :=
  if octet < 0x80 then some 1
  else if octet < 0xC0 then none
  else if octet < 0xE0 then some 2
  else if octet < 0xF0 then some 3
  else if octet < 0xF8 then some 4
  else none

/-- Reads an octet, a percent sign and two digits. -/
def readOctet? : Spots → Option (Nat × Spots)
  | percent :: high :: low :: rest =>
    if percent.char = '%' then
      (Text.hexNumber? 2 [high.char, low.char]).map fun octet => (octet, rest)
    else none
  | _ => none

/-- Reads the later octets of a character and adds their bits to `code`. -/
def readOctets? (count code : Nat) (spots : Spots) : Option (Nat × Spots) :=
  match count with
  | 0 => some (code, spots)
  | count + 1 => do
    let (octet, rest) ← readOctet? spots
    if 0x80 ≤ octet ∧ octet < 0xC0 then readOctets? count (64 * code + (octet - 0x80)) rest
    else none

/-- Reads a character that is written by the octets of its code. -/
def readCodedChar? (spots : Spots) : Option (Char × Spots) := do
  let (octet, rest) ← readOctet? spots
  let count ← octetCount? octet
  let bits := if count = 1 then octet else octet % (1 <<< (7 - count))
  let (code, rest) ← readOctets? (count - 1) bits rest
  some ((Text.charOfCode? code).getD '\uFFFD', rest)

/-- Takes the characters of a tag.  Every step takes a character, so a little more than the number
of characters is enough `fuel`. -/
def takeTagChars? (whole : Bool) : Nat → Spots → Option (List Char × Spots)
  | fuel + 1, spot :: rest =>
    if spot.char = '%' then do
      let (c, rest) ← readCodedChar? (spot :: rest)
      (takeTagChars? whole fuel rest).map fun (text, rest) => (c :: text, rest)
    else if isTagChar whole spot.char then
      (takeTagChars? whole fuel rest).map fun (text, rest) => (spot.char :: text, rest)
    else some ([], spot :: rest)
  | _, spots => some ([], spots)

def takeTagText? (whole : Bool) (spots : Spots) : Option (List Char × Spots) :=
  takeTagChars? whole (spots.length + 1) spots

/-- Takes an exclamation mark, the name after it and the exclamation mark that may end it. -/
def takeHandle? : Spots → Option (List Char × Spots)
  | spot :: rest =>
    if spot.char = '!' then
      let (name, rest) := takeName rest
      if startsWithAny ['!'] rest then some ('!' :: name ++ ['!'], rest.drop 1)
      else some ('!' :: name, rest)
    else none
  | [] => none

/-- Whether an exclamation mark ends a handle. -/
def isNamedHandle (handle : List Char) : Bool :=
  1 < handle.length && handle.getLast? == some '!'

/-- Reads a tag that is written whole, after its opening bracket. -/
def readWholeTag? (spots : Spots) : Option (Token × Spots) := do
  let (text, rest) ← takeTagText? true spots
  if text.isEmpty ∨ !startsWithAny ['>'] rest then none
  else some (.tag "" (.ofList text), rest.drop 1)

/-- Reads a tag of a handle and a suffix.  A name that no exclamation mark ends is a part of the
suffix; a lone exclamation mark is a tag of its own. -/
def readShortTag? (spots : Spots) : Option (Token × Spots) := do
  let (handle, rest) ← takeHandle? spots
  let (text, rest) ← takeTagText? false rest
  if isNamedHandle handle then
    if text.isEmpty then none else some (.tag (.ofList handle) (.ofList text), rest)
  else
    let suffix := handle.drop 1 ++ text
    some (if suffix.isEmpty then .tag "" "!" else .tag "!" (.ofList suffix), rest)

/-- Reads a tag. -/
def readTag? (inFlow : Bool) (spots : Spots) : Option (Token × Spots) := do
  let (token, rest) ←
    if startsWithAny ['<'] (spots.drop 1) then readWholeTag? (spots.drop 2)
    else readShortTag? spots
  if atBlank rest || (inFlow && startsWithAny [','] rest) then some (token, rest) else none

/-! ### Directives -/

/-- Takes a number of at most nine digits. -/
def takeVersionNumber? (spots : Spots) : Option (Nat × Spots) :=
  let digits := spots.takeWhile fun spot => spot.char.isDigit
  if digits.isEmpty ∨ 9 < digits.length then none
  else
    let value := digits.foldl (fun value spot => 10 * value + (spot.char.toNat - '0'.toNat)) 0
    some (value, spots.drop digits.length)

/-- Reads the number of the version, which is 1.1 or 1.2. -/
def readVersion? (spots : Spots) : Option (Token × Spots) := do
  let (major, rest) ← takeVersionNumber? (skipGaps spots)
  if startsWithAny ['.'] rest then
    let (minor, rest) ← takeVersionNumber? (rest.drop 1)
    if major = 1 ∧ (minor = 1 ∨ minor = 2) then some (.versionDirective, rest) else none
  else none

/-- Reads a handle and what it stands for. -/
def readTagDirective? (spots : Spots) : Option (Token × Spots) := do
  let (handle, rest) ← takeHandle? (skipGaps spots)
  if (handle = ['!'] ∨ isNamedHandle handle) ∧ rest.head?.any Spot.isGap then
    let (start, rest) ← takeTagText? true (skipGaps rest)
    if start.isEmpty ∨ !atBlank rest then none
    else some (.tagDirective (.ofList handle) (.ofList start), rest)
  else none

/-- Reads a directive after its percent sign. -/
def readDirective? (spots : Spots) : Option (Token × Spots) := do
  let (name, rest) := takeName spots
  let (token, rest) ←
    if !atBlank rest then none
    else if name = "YAML".toList then readVersion? rest
    else if name = "TAG".toList then readTagDirective? rest
    else none
  some (token, ← skipLineEnd? rest)

end MetricBench.Yaml
