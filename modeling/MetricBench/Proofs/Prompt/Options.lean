import MetricBench.Proofs.Prompt.Lines
import MetricBench.Proofs.SortedMap

/-!
# Options among arguments

A command with options takes them from anywhere among its arguments.  What it comes to depends on the
arguments that stand for themselves, in their order, and on the last value of each option, so the rest of the
order of the arguments does not matter; nor does the layout of the line.
-/

namespace MetricBench.Prompt

open Text (blanks_replicate IsTrimmed IsWord)

/-! ### Arguments and options -/

/-- What an argument gives to the option of a key: all that follows the key and an equal sign. -/
def optionValue? (key argument : String) : Option String :=
  (Text.stripStart? (key.toList ++ ['=']) argument.toList).map String.ofList

/-- What counts of the values that arguments give to an option: the last one. -/
def lastValue? (arguments : List String) (key : String) : Option String :=
  (arguments.filterMap (optionValue? key)).getLast?

/-- The arguments that stand for themselves: those that give nothing to an option of the keys. -/
def positional (keys arguments : List String) : List String :=
  arguments.filter fun argument => keys.all fun key => (optionValue? key argument).isNone

/-- Whether arguments come in another order.  Those that stand for themselves keep their order, and so do
the values of each option. -/
structure Reordered (keys first second : List String) : Prop where
  perm : first.Perm second
  positional_eq : positional keys first = positional keys second
  values_eq : ∀ key ∈ keys,
    first.filterMap (optionValue? key) = second.filterMap (optionValue? key)

theorem optionValue?_eq_some_iff {key argument value : String} :
    optionValue? key argument = some value ↔ argument.toList = key.toList ++ '=' :: value.toList := by
  rw [optionValue?, Option.map_eq_some_iff]
  constructor
  · rintro ⟨rest, hrest, rfl⟩
    rw [Text.stripStart?_eq_some_iff.mp hrest, String.toList_ofList, List.append_assoc,
      List.singleton_append]
  · intro htext
    refine ⟨value.toList, Text.stripStart?_eq_some_iff.mpr ?_, String.ofList_toList⟩
    rw [htext, List.append_assoc, List.singleton_append]

section

variable {keys : List String}

/-- An argument is an option of the one key that its equal sign follows. -/
theorem optionOf?_eq_some_iff (hkeys : ∀ key ∈ keys, '=' ∉ key.toList) {argument key value : String} :
    optionOf? keys argument = some (key, value) ↔
      key ∈ keys ∧ optionValue? key argument = some value := by
  rw [optionValue?_eq_some_iff, optionOf?, Option.bind_eq_some_iff]
  constructor
  · rintro ⟨⟨before, after⟩, hcut, hchosen⟩
    obtain ⟨htext, -⟩ := Text.cutAt?_eq_some_iff.mp hcut
    dsimp only at hchosen
    split_ifs at hchosen with hkey
    cases hchosen
    rw [String.toList_ofList, String.toList_ofList]
    exact ⟨List.contains_iff_mem.mp hkey, htext⟩
  · rintro ⟨hkey, htext⟩
    refine ⟨(key.toList, value.toList), Text.cutAt?_eq_some_iff.mpr ⟨htext, hkeys key hkey⟩, ?_⟩
    dsimp only
    rw [String.ofList_toList, String.ofList_toList, if_pos (List.contains_iff_mem.mpr hkey)]

theorem find?_splitOptions (hkeys : ∀ key ∈ keys, '=' ∉ key.toList) (arguments : List String)
    {key : String} (hkey : key ∈ keys) :
    (splitOptions keys arguments).2.find? key = lastValue? arguments key := by
  have hvalues : ((arguments.filterMap (optionOf? keys)).filter fun option => option.1 = key).map (·.2) =
      arguments.filterMap (optionValue? key) := by
    rw [List.filter_filterMap, List.map_filterMap]
    apply List.filterMap_congr
    intro argument _
    ext value
    rw [Option.map_eq_some_iff]
    constructor
    · rintro ⟨⟨other, found⟩, hfound, rfl⟩
      obtain ⟨hoption, hsame⟩ := Option.filter_eq_some_iff.mp hfound
      have hother : other = key := of_decide_eq_true hsame
      rw [← hother]
      exact ((optionOf?_eq_some_iff hkeys).mp hoption).2
    · intro hvalue
      exact ⟨(key, value), Option.filter_eq_some_iff.mpr
        ⟨(optionOf?_eq_some_iff hkeys).mpr ⟨hkey, hvalue⟩, decide_eq_true rfl⟩, rfl⟩
  rw [splitOptions, SortedMap.find?_ofList, hvalues, lastValue?]

theorem splitOptions_positional (hkeys : ∀ key ∈ keys, '=' ∉ key.toList) (arguments : List String) :
    (splitOptions keys arguments).1 = positional keys arguments := by
  apply List.filter_congr
  intro argument _
  rw [Bool.eq_iff_iff, List.all_eq_true, Option.isNone_iff_eq_none, Option.eq_none_iff_forall_ne_some]
  constructor
  · intro hnone key hkey
    rw [Option.isNone_iff_eq_none, Option.eq_none_iff_forall_ne_some]
    intro value hvalue
    exact hnone (key, value) ((optionOf?_eq_some_iff hkeys).mpr ⟨hkey, hvalue⟩)
  · rintro hnone ⟨key, value⟩ hoption
    obtain ⟨hkey, hvalue⟩ := (optionOf?_eq_some_iff hkeys).mp hoption
    rw [Option.isNone_iff_eq_none.mp (hnone key hkey)] at hvalue
    cases hvalue

end

/-! ### Commands with options -/

/-- A command with options and one other argument: its name, the keys of its options, the form that is
shown when it is misused, and what it comes to with its argument and the values of its options. -/
structure OptionCommand where
  name : String
  keys : List String
  form : String
  make : String → (String → Option String) → Except UsageError Command

/-- What a command with options comes to with its arguments. -/
def OptionCommand.ofArguments (command : OptionCommand) (arguments : List String) :
    Except UsageError Command :=
  match positional command.keys arguments with
  | [argument] => command.make argument (lastValue? arguments)
  | _ => .error (.commandForm command.form)

/-- The options that loading and saving share. -/
def transferValues (value : String → Option String) : TransferTexts := ⟨value "filter", value "ts"⟩

/-- An option that counts, with its standard value. -/
def countValue (value : String → Option String) (key : String) (standard : Nat) :
    Except UsageError Nat :=
  match value key with
  | none => .ok standard
  | some text =>
    match Number.unsigned? text.toList with
    | some count => .ok count
    | none => .error (.invalidCount key text)

def loadCommand : OptionCommand :=
  ⟨"load", ["filter", "ts"], ".load <file> [filter=RE] [ts=MODE]",
    fun path value => .ok (.load path (transferValues value))⟩

def importCommand : OptionCommand :=
  ⟨"import", ["filter", "ts"], ".import <file> [filter=RE] [ts=MODE]",
    fun path value => .ok (.importResponse path (transferValues value))⟩

def scrapeCommand : OptionCommand :=
  ⟨"scrape", ["filter", "ts", "count", "delay"], ".scrape <url> [count=N] [delay=DUR]",
    fun url value => do
      let count ← countValue value "count" 1
      .ok (.scrape url count ((value "delay").getD "15s") (transferValues value))⟩

def saveCommand : OptionCommand :=
  ⟨"save", ["filter", "ts"], ".save <file|-> [filter=RE] [ts=MODE]",
    fun path value => .ok (.save (if path = "-" then none else some path) (transferValues value))⟩

def seedCommand : OptionCommand :=
  ⟨"seed", ["steps", "step"], ".seed <metric> [steps=N] [step=DUR]",
    fun metric value => do
      let steps ← countValue value "steps" 10
      .ok (.seed metric steps ((value "step").getD "1m"))⟩

def optionCommands : List OptionCommand :=
  [loadCommand, importCommand, scrapeCommand, saveCommand, seedCommand]

namespace OptionCommand

/-- How a command is read from its name on: its words are cut into options and other arguments, and the values
of its own options tell what it comes to. -/
structure ReadsWords (command : OptionCommand) : Prop where
  visible : (command.name.toList.all fun c => !Text.isBlank c) = true
  plain : ∀ key ∈ command.keys, '=' ∉ key.toList
  exists_make : ∃ make : String → SortedMap String String → Except UsageError Command,
    (∀ text, Command.readNamed command.name text =
      Command.withOptions command.keys command.form (wordsOf text) make) ∧
    ∀ argument options value, (∀ key ∈ command.keys, options.find? key = value key) →
      make argument options = command.make argument value

section

variable {options : SortedMap String String} {value : String → Option String}

theorem transferTexts_eq (hfilter : options.find? "filter" = value "filter")
    (htime : options.find? "ts" = value "ts") : transferTexts options = transferValues value := by
  rw [transferTexts, hfilter, htime, transferValues]

theorem countOption_eq {key : String} (h : options.find? key = value key) (standard : Nat) :
    countOption options key standard = countValue value key standard := by
  rw [countValue]
  generalize value key = found at h ⊢
  subst h
  rfl

end

theorem readsWords_load : loadCommand.ReadsWords where
  visible := rfl
  plain := by decide
  exists_make := by
    refine ⟨fun path options => .ok (.load path (transferTexts options)), fun _ => rfl,
      fun path options value h => ?_⟩
    dsimp only
    rw [transferTexts_eq (h "filter" (by decide)) (h "ts" (by decide))]
    rfl

theorem readsWords_import : importCommand.ReadsWords where
  visible := rfl
  plain := by decide
  exists_make := by
    refine ⟨fun path options => .ok (.importResponse path (transferTexts options)), fun _ => rfl,
      fun path options value h => ?_⟩
    dsimp only
    rw [transferTexts_eq (h "filter" (by decide)) (h "ts" (by decide))]
    rfl

theorem readsWords_scrape : scrapeCommand.ReadsWords where
  visible := rfl
  plain := by decide
  exists_make := by
    refine ⟨fun url options => do
        let count ← countOption options "count" 1
        let delay := (options.find? "delay").getD standardDelay
        .ok (.scrape url count delay (transferTexts options)),
      fun _ => rfl, fun url options value h => ?_⟩
    dsimp only
    rw [transferTexts_eq (h "filter" (by decide)) (h "ts" (by decide)),
      countOption_eq (h "count" (by decide)), h "delay" (by decide)]
    rfl

theorem readsWords_save : saveCommand.ReadsWords where
  visible := rfl
  plain := by decide
  exists_make := by
    refine ⟨fun path options =>
        .ok (.save (if path = "-" then none else some path) (transferTexts options)),
      fun _ => rfl, fun path options value h => ?_⟩
    dsimp only
    rw [transferTexts_eq (h "filter" (by decide)) (h "ts" (by decide))]
    rfl

theorem readsWords_seed : seedCommand.ReadsWords where
  visible := rfl
  plain := by decide
  exists_make := by
    refine ⟨fun metric options => do
        let steps ← countOption options "steps" standardSteps
        .ok (.seed metric steps ((options.find? "step").getD standardStep)),
      fun _ => rfl, fun metric options value h => ?_⟩
    dsimp only
    rw [countOption_eq (h "steps" (by decide)), h "step" (by decide)]
    rfl

theorem readsWords_of_mem {command : OptionCommand} (h : command ∈ optionCommands) :
    command.ReadsWords := by
  simp only [optionCommands, List.mem_cons, List.not_mem_nil, or_false] at h
  rcases h with rfl | rfl | rfl | rfl | rfl
  · exact readsWords_load
  · exact readsWords_import
  · exact readsWords_scrape
  · exact readsWords_save
  · exact readsWords_seed

theorem ReadsWords.readNamed_eq {command : OptionCommand} (h : command.ReadsWords) (text : List Char) :
    Command.readNamed command.name text = command.ofArguments (wordsOf text) := by
  obtain ⟨make, hnamed, hmake⟩ := h.exists_make
  have hvalues : ∀ key ∈ command.keys,
      (splitOptions command.keys (wordsOf text)).2.find? key = lastValue? (wordsOf text) key :=
    fun key hkey => find?_splitOptions h.plain (wordsOf text) hkey
  rw [hnamed]
  change (onlyArgument command.form (splitOptions command.keys (wordsOf text)).1 >>= fun argument =>
    make argument (splitOptions command.keys (wordsOf text)).2) = _
  rw [ofArguments, splitOptions_positional h.plain]
  match positional command.keys (wordsOf text) with
  | [] => rfl
  | [argument] => exact hmake argument _ _ hvalues
  | _ :: _ :: _ => rfl

/-- The order of the arguments that stand for themselves and of the values of each option is all that
counts. -/
theorem ReadsWords.ofArguments_eq {command : OptionCommand} (h : command.ReadsWords)
    {arguments others : List String} (hsame : Reordered command.keys arguments others) :
    command.ofArguments others = command.ofArguments arguments := by
  obtain ⟨make, -, hmake⟩ := h.exists_make
  have hvalues : ∀ key ∈ command.keys, lastValue? others key = lastValue? arguments key := by
    intro key hkey
    rw [lastValue?, lastValue?, hsame.values_eq key hkey]
  have hcut : ∀ key ∈ command.keys,
      (splitOptions command.keys others).2.find? key = lastValue? others key :=
    fun key hkey => find?_splitOptions h.plain others hkey
  have hsameMake : ∀ argument, command.make argument (lastValue? others) =
      command.make argument (lastValue? arguments) := by
    intro argument
    rw [← hmake argument _ _ hcut,
      ← hmake argument _ _ fun key hkey => (hcut key hkey).trans (hvalues key hkey)]
  rw [ofArguments, ofArguments, hsame.positional_eq]
  simp only [hsameMake]

theorem ReadsWords.read_eq {command : OptionCommand} (h : command.ReadsWords) {line : String}
    {arguments : List String} (hline : Holds line (("." ++ command.name) :: arguments))
    (hwords : ∀ argument ∈ arguments, IsWord argument.toList) :
    Command.read line = (command.ofArguments arguments).map some := by
  obtain ⟨text, hlaid, hread⟩ := exists_read_eq hline (visible_of_all h.visible)
    fun argument hargument => (hwords argument hargument).isTrimmed
  have harguments : wordsOf text = arguments := by
    rcases hlaid with ⟨rfl, rfl⟩ | hlaid
    · rfl
    · rw [wordsOf, hlaid.words_eq (List.forall_mem_map.mpr hwords), List.map_map]
      apply List.map_id''
      exact fun argument => String.ofList_toList
  rw [hread, h.readNamed_eq, harguments]

end OptionCommand

/-- A line with a query at an instant or over a range is read by its pieces: whatever blanks stand between
them and around them, the instants and the span are the words that come first, and the query is what comes
last, as it stands.  A line with one of the commands that have options is read by the words of its arguments:
one of them has to stand for itself, and of the values of an option the last one counts.  So the line comes
to the same, a command or a refusal, with any other layout and any order of the arguments that keeps the order
of those that stand for themselves and of the values of each option. -/
theorem lines_read_by_words :
    (∀ line instant query, Holds line [".at", instant, query] → IsWord instant.toList →
      IsTrimmed query.toList → Command.read line = .ok (some (.queryAt instant query))) ∧
    (∀ line start stop step query, Holds line [".range", start, stop, step, query] →
      IsWord start.toList → IsWord stop.toList → IsWord step.toList → IsTrimmed query.toList →
      Command.read line = .ok (some (.queryRange start stop step query))) ∧
    ∀ command ∈ optionCommands, ∀ line arguments,
      Holds line (("." ++ command.name) :: arguments) →
      (∀ argument ∈ arguments, IsWord argument.toList) →
      Command.read line = (command.ofArguments arguments).map some ∧
      ∀ other reordered, Holds other (("." ++ command.name) :: reordered) →
        Reordered command.keys arguments reordered → Command.read other = Command.read line := by
  refine ⟨fun line instant query => read_at, fun line start stop step query => read_range,
    fun command hcommand line arguments hline hwords => ?_⟩
  have hreads := OptionCommand.readsWords_of_mem hcommand
  have hread := hreads.read_eq hline hwords
  refine ⟨hread, fun other reordered hother hsame => ?_⟩
  have hothers : ∀ argument ∈ reordered, IsWord argument.toList :=
    fun argument hargument => hwords argument (hsame.perm.mem_iff.mpr hargument)
  rw [hread, hreads.read_eq hother hothers, hreads.ofArguments_eq hsame]

/-- A query with blanks inside it, and the options of a scrape in two orders. -/
theorem spaced_lines_read :
    Command.read "  .at 1h   max by (job)  (up) " = .ok (some (.queryAt "1h" "max by (job)  (up)")) ∧
    Command.read ".range 0 1h  5m a or b" = .ok (some (.queryRange "0" "1h" "5m" "a or b")) ∧
    Command.read ".scrape u count=2  filter=a filter=b" =
      .ok (some (.scrape "u" 2 "15s" ⟨some "b", none⟩)) ∧
    Command.read ".scrape filter=a  u filter=b count=2 " =
      Command.read ".scrape u count=2  filter=a filter=b" := by
  obtain ⟨hat, hrange, hoptions⟩ := lines_read_by_words
  have hfirst : Holds ".scrape u count=2  filter=a filter=b"
      [".scrape", "u", "count=2", "filter=a", "filter=b"] :=
    ⟨[], _, blanks_replicate 0,
      .cons _ (by decide) (blanks_replicate 1) (.cons _ (by decide) (blanks_replicate 1)
        (.cons _ (by decide) (blanks_replicate 2) (.cons _ (by decide) (blanks_replicate 1)
          (.single _ (blanks_replicate 0))))), rfl⟩
  have hsecond : Holds ".scrape filter=a  u filter=b count=2 "
      [".scrape", "filter=a", "u", "filter=b", "count=2"] :=
    ⟨[], _, blanks_replicate 0,
      .cons _ (by decide) (blanks_replicate 1) (.cons _ (by decide) (blanks_replicate 2)
        (.cons _ (by decide) (blanks_replicate 1) (.cons _ (by decide) (blanks_replicate 1)
          (.single _ (blanks_replicate 1))))), rfl⟩
  have hwords : ∀ argument ∈ ["u", "count=2", "filter=a", "filter=b"], IsWord argument.toList := by
    intro argument hargument
    fin_cases hargument <;> exact isWord_of_all (by decide) rfl
  have hsame : Reordered scrapeCommand.keys ["u", "count=2", "filter=a", "filter=b"]
      ["filter=a", "u", "filter=b", "count=2"] := ⟨by decide, by decide, by decide⟩
  obtain ⟨hscrape, horder⟩ := hoptions scrapeCommand (by simp [optionCommands]) _ _ hfirst hwords
  refine ⟨hat _ _ _ ?_ (isWord_of_all (by decide) rfl) (isTrimmed_of_all (by decide) rfl rfl),
    hrange _ _ _ _ _ ?_ (isWord_of_all (by decide) rfl) (isWord_of_all (by decide) rfl)
      (isWord_of_all (by decide) rfl) (isTrimmed_of_all (by decide) rfl rfl),
    hscrape.trans rfl, horder _ _ hsecond hsame⟩
  · exact ⟨List.replicate 2 ' ', _, blanks_replicate 2,
      .cons _ (by decide) (blanks_replicate 1) (.cons _ (by decide) (blanks_replicate 3)
        (.single _ (blanks_replicate 1))), rfl⟩
  · exact ⟨[], _, blanks_replicate 0,
      .cons _ (by decide) (blanks_replicate 1) (.cons _ (by decide) (blanks_replicate 1)
        (.cons _ (by decide) (blanks_replicate 2) (.cons _ (by decide) (blanks_replicate 1)
          (.single _ (blanks_replicate 0))))), rfl⟩

end MetricBench.Prompt
