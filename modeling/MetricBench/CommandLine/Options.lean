import MetricBench.Query.Engine
import MetricBench.Text.Blank
import MetricBench.Time.Duration

/-!
# Command line options

Options are given as `--name value` or `--name=value`.  There are no other arguments.  Files to load
and commands may be given more than once, all other options once.
-/

namespace MetricBench.CommandLine

/-- What the program is told to do: the files to load, the source of rules, the instant to pin the
clock at, the settings of queries, and the commands to carry out instead of those at the prompt. -/
structure Options where
  loads : List String
  rules : Option String
  instant : Option String
  lookback : Option Nat
  timeout : Option Nat
  commands : List String
  deriving DecidableEq, Repr

/-- What a command line asks for. -/
inductive Invocation where
  | run (options : Options)
  | help
  | version
  | invalid
  deriving DecidableEq, Repr

/-- The options that take a value. -/
inductive OptionName where
  | load
  | rules
  | instant
  | lookback
  | timeout
  | command
  deriving DecidableEq, Repr

/-- The option of a long name. -/
def OptionName.ofLong? (name : String) : Option OptionName :=
  match name with
  | "load" => some .load
  | "rules" => some .rules
  | "at" => some .instant
  | "lookback" => some .lookback
  | "query-timeout" => some .timeout
  | "command" => some .command
  | _ => none

namespace Options

def none : Options := ⟨[], .none, .none, .none, .none, []⟩

/-- Fills in the value of an option that is given once. -/
def once {α : Type} (current : Option α) (value : Option α) : Option (Option α) :=
  if current.isSome then Option.none else value.map some

/-- Adds the value of an option. -/
def add? (options : Options) (name : OptionName) (value : String) : Option Options :=
  match name with
  | .load =>
    if value = "" then Option.none else some { options with loads := options.loads ++ [value] }
  | .command => some { options with commands := options.commands ++ [value] }
  | .rules => (once options.rules (some value)).map fun rules => { options with rules }
  | .instant => (once options.instant (some value)).map fun instant => { options with instant }
  | .lookback =>
    (once options.lookback (Time.parseDuration? value.toList)).map fun lookback =>
      { options with lookback }
  | .timeout =>
    (once options.timeout (Time.parseDuration? value.toList)).map fun timeout =>
      { options with timeout }

/-- The settings of queries. -/
def settings (options : Options) : Except UsageError Query.Settings :=
  Query.Settings.custom options.lookback options.timeout

end Options

/-- Whether an argument stands for an option, and so for no value. -/
def looksLikeOption (argument : List Char) : Bool :=
  match argument with
  | '-' :: _ :: _ => true
  | _ => false

/-- What an argument says: an option with its value if that is attached, help, the version, the end
of the options, or nothing that is known. -/
inductive Argument where
  | option (name : OptionName) (value : Option String)
  | help
  | version
  | endOfOptions
  | unknown

namespace Argument

/-- What a long option says, after its hyphens. -/
def ofLong (text : List Char) : Argument :=
  let (name, value) := match Text.cutAt? (· == '=') text with
    | some (name, value) => (String.ofList name, some (String.ofList value))
    | none => (String.ofList text, none)
  match OptionName.ofLong? name, name, value with
  | some name, _, value => .option name value
  | none, "help", none => .help
  | none, "version", none => .version
  | _, _, _ => .unknown

/-- What a short option says, after its hyphen. -/
def ofShort (text : List Char) : Argument :=
  match text with
  | ['c'] => .option .command none
  | 'c' :: '=' :: value | 'c' :: value => .option .command (some (.ofList value))
  | 'h' :: _ => .help
  | 'V' :: _ => .version
  | _ => .unknown

def read (argument : String) : Argument :=
  match argument.toList with
  | ['-', '-'] => .endOfOptions
  | '-' :: '-' :: text => ofLong text
  | ['-'] => .unknown
  | '-' :: text => ofShort text
  | _ => .unknown

end Argument

namespace Invocation

/-- Reads arguments after those that `options` holds. -/
def readFrom (options : Options) : List String → Invocation
  | [] => .run options
  | argument :: rest =>
    match Argument.read argument, rest with
    | .help, _ => .help
    | .version, _ => .version
    | .endOfOptions, [] => .run options
    | .option name (some value), rest =>
      match options.add? name value with
      | some options => readFrom options rest
      | none => .invalid
    | .option name none, value :: rest =>
      if looksLikeOption value.toList then .invalid
      else
        match options.add? name value with
        | some options => readFrom options rest
        | none => .invalid
    | _, _ => .invalid

/-- Reads a command line. -/
def read (arguments : List String) : Invocation := readFrom .none arguments

end Invocation

end MetricBench.CommandLine
