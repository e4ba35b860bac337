import MetricBench.Regex.Escape

/-!
# Bracketed classes

A class lists characters, ranges and other classes between brackets.  Two ampersands intersect what
stands before and after them, two hyphens subtract and two tildes take the symmetric difference; all
three group from the left.
-/

namespace MetricBench.Regex

/-- The operations between the parts of a class. -/
inductive SetOperation where
  | intersection
  | difference
  | symmetricDifference

def SetOperation.apply : SetOperation → CharSet → CharSet → CharSet
  | .intersection, left, right => .intersection left right
  | .difference, left, right => .difference left right
  | .symmetricDifference, left, right => .symmetricDifference left right

/-- What has been read of a class: the result of its finished operations with the one that waits for
its right side, and the union of the items since. -/
structure ClassBody where
  waiting : Option (CharSet × SetOperation)
  items : CharSet

namespace ClassBody

def start : ClassBody := ⟨none, .none⟩

def add (body : ClassBody) (set : CharSet) : ClassBody :=
  { body with items := .union body.items set }

/-- The set that a body stands for. -/
def set (flags : Flags) (body : ClassBody) : CharSet :=
  match body.waiting with
  | none => body.items
  | some (left, operation) => operation.apply (flags.fold left) (flags.fold body.items)

/-- The body after an operator. -/
def operate (flags : Flags) (body : ClassBody) (operation : SetOperation) : ClassBody :=
  ⟨some (body.set flags, operation), .none⟩

end ClassBody

/-- A class as it opens: whether it is negated, its first items, and the text after them.  Hyphens
at the start stand for themselves, and so does a closing bracket if it comes first. -/
def openClass? (flags : Flags) (text : List Char) : Option (Bool × ClassBody × List Char) :=
  let (negated, text) := match flags.skip text with
    | '^' :: rest => (true, flags.skip rest)
    | rest => (false, rest)
  let (hyphens, rest) := flags.takeSpaced (· == '-') text.length text
  match hyphens, rest with
  | _, [] => none
  | [], ']' :: rest =>
    let rest := flags.skip rest
    if rest.isEmpty then none else some (negated, ClassBody.start.add (.single ']'), rest)
  | [], rest => some (negated, .start, rest)
  | _ :: _, rest => some (negated, ClassBody.start.add (.single '-'), rest)

/-- Reads a named ASCII class after its opening bracket. -/
def readNamedClass? (flags : Flags) (text : List Char) : Option (CharSet × List Char) :=
  let finish (negated : Bool) (text : List Char) : Option (CharSet × List Char) :=
    match Text.cutBefore (· == ':') text with
    | (name, ':' :: ']' :: rest) =>
      (CharSet.named? (.ofList name)).map fun set =>
        let folded := flags.fold set
        (if negated then .complement folded else folded, rest)
    | _ => none
  match text with
  | ':' :: '^' :: rest => finish true rest
  | ':' :: rest => finish false rest
  | _ => none

/-- Reads one item of a class, which is an escape or a character that stands for itself. -/
def readClassItem? (flags : Flags) : List Char → Option (Atom × List Char)
  | [] => none
  | '\\' :: rest => readEscape? flags rest
  | c :: rest => some (.literal c, rest)

/-- A character as a class may hold it: without Unicode only those that are one byte long. -/
def classChar? (flags : Flags) (c : Char) : Option Char :=
  if flags.unicode || c.toNat < 128 then some c else none

/-- Reads an item of a class or a range between two items. -/
def readClassRange? (flags : Flags) (text : List Char) : Option (CharSet × List Char) := do
  let (first, rest) ← readClassItem? flags text
  let isRange := match flags.skip rest with
    | '-' :: after =>
      match flags.glance after with
      | some ']' | some '-' => false
      | _ => true
    | _ => false
  if !isRange then
    match first with
    | .literal c => (classChar? flags c).map fun c => (.single c, flags.skip rest)
    | .set set => some (set, flags.skip rest)
    | .assertion _ => none
  else
    let (last, rest) ← readClassItem? flags (flags.skip ((flags.skip rest).drop 1))
    match first, last with
    | .literal low, .literal high => do
      let low ← classChar? flags low
      let high ← classChar? flags high
      if high < low then none else some (.range low high, rest)
    | _, _ => none

/-- Reads the items of a class up to its closing bracket.  Every step reads a character, so the
length of the text is enough `fuel`; the number is the depth to which classes are nested. -/
def readClassBody? (flags : Flags) (fuel : Nat) (negated : Bool) (body : ClassBody)
    (text : List Char) : Option (CharSet × Nat × List Char) :=
  match fuel with
  | 0 => none
  | fuel + 1 =>
    match flags.skip text with
    | [] => none
    | ']' :: rest =>
      let folded := flags.fold (body.set flags)
      some (if negated then .complement folded else folded, 1, rest)
    | '&' :: '&' :: rest =>
      readClassBody? flags fuel negated (body.operate flags .intersection) rest
    | '-' :: '-' :: rest =>
      readClassBody? flags fuel negated (body.operate flags .difference) rest
    | '~' :: '~' :: rest =>
      readClassBody? flags fuel negated (body.operate flags .symmetricDifference) rest
    | '[' :: rest =>
      match readNamedClass? flags rest with
      | some (set, rest) => readClassBody? flags fuel negated (body.add set) rest
      | none => do
        let (innerNegated, inner, rest) ← openClass? flags rest
        let (set, depth, rest) ← readClassBody? flags fuel innerNegated inner rest
        let (whole, outerDepth, rest) ← readClassBody? flags fuel negated (body.add set) rest
        some (whole, max (depth + 1) outerDepth, rest)
    | rest => do
      let (set, rest) ← readClassRange? flags rest
      readClassBody? flags fuel negated (body.add set) rest

/-- Reads a class after its opening bracket, with the depth to which it is nested. -/
def readClass? (flags : Flags) (text : List Char) : Option (CharSet × Nat × List Char) := do
  let (negated, body, rest) ← openClass? flags text
  let (set, depth, rest) ← readClassBody? flags (text.length + 1) negated body rest
  let set ← flags.finishSet? set
  some (set, depth, rest)

end MetricBench.Regex
