import MetricBench.SortedMap
import MetricBench.Number.Integer
import MetricBench.Text.Blank
import MetricBench.UsageError

/-!
# Prompt lines

A line at the prompt is a query, or a command that starts with a dot.  Words are set apart by
blanks, and arguments of the form `key=value` are options where the command has one of that key; of
options given twice the last counts.  Instants and spans are read when the command is carried out.
-/

namespace MetricBench.Prompt

/-- The options that loading and saving share, as they are written. -/
structure TransferTexts where
  filter : Option String
  mode : Option String
  deriving DecidableEq, Repr

inductive Command where
  | query (query : String)
  | queryAt (instant query : String)
  | queryRange (start stop step query : String)
  | load (path : String) (options : TransferTexts)
  | importResponse (path : String) (options : TransferTexts)
  | scrape (url : String) (count : Nat) (delay : String) (options : TransferTexts)
  | save (path : Option String) (options : TransferTexts)
  | drop (pattern : String)
  | keep (pattern : String)
  | rename (old new : String)
  | seed (metric : String) (steps : Nat) (step : String)
  | rules (source : Option String)
  | evaluate (instant : Option String)
  | pin (instant : String)
  | unpin
  | now
  | metrics
  | labels (name : Option String)
  | clear
  | help
  | quit
  deriving DecidableEq, Repr

/-! ### Words and options -/

/-- The words of a text. -/
def wordsOf (text : List Char) : List String := (Text.words text).map String.ofList

/-- The first `count` words of a text, if there are that many, and what is left without the blanks
at its ends. -/
def leadingWords? : Nat → List Char → Option (List String × String)
  | 0, text => some ([], .ofList (Text.trimChars text))
  | count + 1, text =>
    let (word, rest) := Text.cutBefore Text.isBlank (Text.trimStart text)
    if word.isEmpty then none
    else (leadingWords? count rest).map fun (words, rest) => (.ofList word :: words, rest)

/-- The key and the value of an argument that is an option of one of the given keys. -/
def optionOf? (keys : List String) (argument : String) : Option (String × String) :=
  (Text.cutAt? (· == '=') argument.toList).bind fun (key, value) =>
    if keys.contains (.ofList key) then some (.ofList key, .ofList value) else none

/-- The arguments that are no options, and the options by their keys. -/
def splitOptions (keys : List String) (arguments : List String) :
    List String × SortedMap String String :=
  (arguments.filter fun argument => (optionOf? keys argument).isNone,
    .ofList (arguments.filterMap (optionOf? keys)))

def transferTexts (options : SortedMap String String) : TransferTexts :=
  ⟨options.find? "filter", options.find? "ts"⟩

/-- The value of an option that is a count. -/
def countOption (options : SortedMap String String) (key : String) (standard : Nat) :
    Except UsageError Nat :=
  match options.find? key with
  | none => .ok standard
  | some text =>
    match Number.unsigned? text.toList with
    | some count => .ok count
    | none => .error (.invalidCount key text)

/-- The only argument that is no option. -/
def onlyArgument (form : String) : List String → Except UsageError String
  | [argument] => .ok argument
  | _ => .error (.commandForm form)

/-! ### Standard values of options -/

def standardSteps : Nat := 10

def standardStep : String := "1m"

def standardDelay : String := "15s"

/-! ### Commands -/

namespace Command

/-- Reads a command with options and one other argument. -/
def withOptions (keys : List String) (form : String) (arguments : List String)
    (make : String → SortedMap String String → Except UsageError Command) :
    Except UsageError Command := do
  let (others, options) := splitOptions keys arguments
  make (← onlyArgument form others) options

/-- What is left of a command, unless it is empty. -/
def optionalRest (rest : String) : Option String := if rest = "" then none else some rest

/-- Reads a command that takes all that is left as its argument. -/
def withRest (form rest : String) (make : String → Command) : Except UsageError Command :=
  if rest = "" then .error (.commandForm form) else .ok (make rest)

/-- Reads the command of the given name from what follows the name. -/
def readNamed (name : String) (text : List Char) : Except UsageError Command :=
  let rest := String.ofList text
  let arguments := wordsOf text
  match name with
  | "at" =>
    match leadingWords? 1 text with
    | some ([instant], expr) => withRest ".at <instant> <expr>" expr (.queryAt instant)
    | _ => .error (.commandForm ".at <instant> <expr>")
  | "range" =>
    match leadingWords? 3 text with
    | some ([start, stop, step], expr) =>
      withRest ".range <start> <end> <step> <expr>" expr (.queryRange start stop step)
    | _ => .error (.commandForm ".range <start> <end> <step> <expr>")
  | "load" =>
    withOptions ["filter", "ts"] ".load <file> [filter=RE] [ts=MODE]" arguments fun path options =>
      .ok (.load path (transferTexts options))
  | "import" =>
    withOptions ["filter", "ts"] ".import <file> [filter=RE] [ts=MODE]" arguments
      fun path options => .ok (.importResponse path (transferTexts options))
  | "scrape" =>
    withOptions ["filter", "ts", "count", "delay"] ".scrape <url> [count=N] [delay=DUR]" arguments
      fun url options => do
        let count ← countOption options "count" 1
        let delay := (options.find? "delay").getD standardDelay
        .ok (.scrape url count delay (transferTexts options))
  | "save" =>
    withOptions ["filter", "ts"] ".save <file|-> [filter=RE] [ts=MODE]" arguments
      fun path options =>
        .ok (.save (if path = "-" then none else some path) (transferTexts options))
  | "drop" => withRest ".drop <regex>" rest .drop
  | "keep" => withRest ".keep <regex>" rest .keep
  | "rename" =>
    match arguments with
    | [old, new] => .ok (.rename old new)
    | _ => .error (.commandForm ".rename <old> <new>")
  | "seed" =>
    withOptions ["steps", "step"] ".seed <metric> [steps=N] [step=DUR]" arguments
      fun metric options => do
        let steps ← countOption options "steps" standardSteps
        .ok (.seed metric steps ((options.find? "step").getD standardStep))
  | "rules" => .ok (.rules (optionalRest rest))
  | "eval" => .ok (.evaluate (optionalRest rest))
  | "pin" => withRest ".pin <instant>" rest .pin
  | "unpin" => .ok .unpin
  | "now" => .ok .now
  | "metrics" => .ok .metrics
  | "labels" => .ok (.labels (optionalRest rest))
  | "clear" => .ok .clear
  | "help" => .ok .help
  | "quit" | "exit" => .ok .quit
  | other => .error (.unknownCommand other)

/-- Reads a line.  A line of blanks and a comment, which starts with a hash sign, hold no
command. -/
def read (line : String) : Except UsageError (Option Command) :=
  match Text.trimChars line.toList with
  | [] | '#' :: _ => .ok none
  | '.' :: body =>
    let (name, rest) := Text.cutBefore Text.isBlank body
    (readNamed (.ofList name) (Text.trimChars rest)).map some
  | text => .ok (some (.query (.ofList text)))

end Command

end MetricBench.Prompt
