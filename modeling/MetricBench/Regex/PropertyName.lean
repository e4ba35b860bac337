import MetricBench.Regex.CharSet
import MetricBench.Unicode.Boundary

/-!
# Names of character properties

Patterns name the properties of the Unicode standard: those that hold or do not hold of a character,
and general categories and scripts, by themselves or as the value of a property, and further
properties that have a value.  Each has a short and a long name.  The case of a name, blanks, hyphens
and underscores in it, and the word "is" in front of it do not matter.
-/

namespace MetricBench.Regex

open Unicode (Category CategorySet Script)

/-- The general categories with their short and long names.  That of surrogates, which are no characters, has
none. -/
def categoryNames : List (List String × List Category) := [
  (["l", "letter"], [.lu, .ll, .lt, .lm, .lo]),
  (["lc", "casedletter"], [.lu, .ll, .lt]),
  (["lu", "uppercaseletter"], [.lu]),
  (["ll", "lowercaseletter"], [.ll]),
  (["lt", "titlecaseletter"], [.lt]),
  (["lm", "modifierletter"], [.lm]),
  (["lo", "otherletter"], [.lo]),
  (["m", "mark", "combiningmark"], [.mn, .mc, .me]),
  (["mn", "nonspacingmark"], [.mn]),
  (["mc", "spacingmark"], [.mc]),
  (["me", "enclosingmark"], [.me]),
  (["n", "number"], [.nd, .nl, .no]),
  (["nd", "decimalnumber", "digit"], [.nd]),
  (["nl", "letternumber"], [.nl]),
  (["no", "othernumber"], [.no]),
  (["p", "punctuation", "punct"], [.pc, .pd, .ps, .pe, .pi, .pf, .po]),
  (["pc", "connectorpunctuation"], [.pc]),
  (["pd", "dashpunctuation"], [.pd]),
  (["ps", "openpunctuation"], [.ps]),
  (["pe", "closepunctuation"], [.pe]),
  (["pi", "initialpunctuation"], [.pi]),
  (["pf", "finalpunctuation"], [.pf]),
  (["po", "otherpunctuation"], [.po]),
  (["s", "symbol"], [.sm, .sc, .sk, .so]),
  (["sm", "mathsymbol"], [.sm]),
  (["sc", "currencysymbol"], [.sc]),
  (["sk", "modifiersymbol"], [.sk]),
  (["so", "othersymbol"], [.so]),
  (["z", "separator"], [.zs, .zl, .zp]),
  (["zs", "spaceseparator"], [.zs]),
  (["zl", "lineseparator"], [.zl]),
  (["zp", "paragraphseparator"], [.zp]),
  (["c", "other"], [.cc, .cf, .cs, .co, .cn]),
  (["cc", "control", "cntrl"], [.cc]),
  (["cf", "format"], [.cf]),
  (["co", "privateuse"], [.co]),
  (["cn", "unassigned"], [.cn])]

/-- A property name without blanks, hyphens and underscores and in small letters. -/
def foldName (name : List Char) : String :=
  let kept := name.filter fun c => c.toNat < 128 && !(c == ' ' || c == '_' || c == '-')
  .ofList (kept.map Char.toLower)

/-- A property name without what does not matter in it.  The name "isc" is no "c". -/
def normalizeName (name : List Char) : String :=
  match name with
  | first :: second :: rest =>
    if first.toLower = 'i' ∧ second.toLower = 's' then
      if foldName rest = "c" then "isc" else foldName rest
    else foldName name
  | _ => foldName name

/-- What a table has under one of the names of an entry. -/
def named? {α : Type} (table : List (List String × α)) (name : String) : Option α :=
  (table.find? fun entry => entry.1.contains name).map (·.2)

/-- The set that a table has for a name. -/
def listedSet? (table : List (List String × CategorySet)) (name : String) : Option CharSet :=
  (named? table name).map fun set => .property (.among set)

/-- The set of a general category, or of several of them. -/
def categorySet? (name : String) : Option CharSet :=
  match name with
  | "any" => some .all
  | "ascii" => some .ascii
  | "assigned" => some (.complement (.property (.among ⟨[.cn], [], []⟩)))
  | name => (named? categoryNames name).map fun categories => .property (.among ⟨categories, [], []⟩)

/-- The script with a name. -/
def script? (name : String) : Option Script := do
  let names ← Script.names.find? fun names => names.any fun known => normalizeName known.toList = name
  (names.head?).map fun code => ⟨code⟩

/-- The place of the version with a name. -/
def version? (name : String) : Option Nat :=
  Unicode.Age.versions.findIdx? fun names => names.contains name

/-- The set of a property that is named by itself. -/
def propertySet? (name : List Char) : Option CharSet :=
  let normal := normalizeName name
  listedSet? Unicode.binaryProperties normal <|> categorySet? normal <|>
    (script? normal).map fun script => .property (.script script)

/-- The set of a property and the value it has to have. -/
def propertyValueSet? (name value : List Char) : Option CharSet :=
  let value := normalizeName value
  match normalizeName name with
  | "generalcategory" | "gc" => categorySet? value
  | "script" | "sc" => (script? value).map fun script => .property (.script script)
  | "scriptextensions" | "scx" => (script? value).map fun script => .property (.usedWith script)
  | "age" => (version? value).map fun version => .property (.meantIn version)
  | "graphemeclusterbreak" | "gcb" => listedSet? Unicode.graphemeBreaks value
  | "wordbreak" | "wb" => listedSet? Unicode.wordBreaks value
  | "sentencebreak" | "sb" => listedSet? Unicode.sentenceBreaks value
  | _ => none

/-- Splits a text at the first place where `mark` stands. -/
def splitAtMark? (mark : List Char) : List Char → Option (List Char × List Char)
  | [] => none
  | c :: rest =>
    match Text.stripStart? mark (c :: rest) with
    | some after => some ([], after)
    | none => (splitAtMark? mark rest).map fun (before, after) => (c :: before, after)

/-- The set that stands between the braces of a property class, and whether what is meant is all
characters outside of it. -/
def describedSet? (description : List Char) : Option (CharSet × Bool) :=
  match splitAtMark? ['!', '='] description with
  | some (name, value) => (propertyValueSet? name value).map fun set => (set, true)
  | none =>
    let set? :=
      match splitAtMark? [':'] description, splitAtMark? ['='] description with
      | some (name, value), _ => propertyValueSet? name value
      | none, some (name, value) => propertyValueSet? name value
      | none, none => propertySet? description
    set?.map fun set => (set, false)

end MetricBench.Regex
