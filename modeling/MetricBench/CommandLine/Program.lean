import MetricBench.CommandLine.Options
import MetricBench.Prompt.Response

/-!
# The program

A run of the program starts a session, loads what the options name, and carries out commands: those
that the options give, or else the lines of the input.  Alerts are shown when they fire, before what
the command shows.
-/

namespace MetricBench.CommandLine

open Files (FileTree)
open Prompt (Response Surroundings)

/-- What a run has come to: the session, the files, what has been written to the output and the
messages of errors. -/
structure Transcript where
  session : Session
  files : FileTree
  output : String
  errors : List String

/-- How a run ends. -/
structure Ending where
  exitCode : Nat
  output : String
  errors : List String
  files : FileTree

/-- The exit code of a run that has done its work, of one that could not start, and of one whose
arguments were not understood. -/
def succeeded : Nat := 0
def failed : Nat := 1
def misused : Nat := 2

/-- What is written to the output for a response. -/
def outputOf (response : Response) : String :=
  String.join (response.alerts.map fun alert => Prompt.line alert.text) ++ response.output

namespace Transcript

/-- The run after a response. -/
def add (transcript : Transcript) (response : Response) : Transcript :=
  ⟨response.session, response.files, transcript.output ++ outputOf response,
    transcript.errors ++ (response.failure.map Error.message).toList⟩

end Transcript

/-! ### Starting -/

/-- The session that a run starts with. -/
def startSession (options : Options) (wall : Int) : Except UsageError Session := do
  let session := Session.start (← options.settings) .following
  match options.instant with
  | none => .ok session
  | some text => (session.readInstant wall text).map session.pin

/-- Loads files one after the other, up to the first that fails.  Nothing is shown but alerts. -/
def loadFiles (surroundings : Surroundings) (session : Session) : List String → Response
  | [] => .showing surroundings session ""
  | path :: rest =>
    match session.loadFile surroundings.wall surroundings.files path .none with
    | .error error => { Response.showing surroundings session "" with failure := some error }
    | .ok loaded =>
      let later := loadFiles surroundings loaded.session rest
      { later with alerts := loaded.alerts ++ later.alerts }

/-- Activates the rules and loads the files that the options name. -/
def preload (options : Options) (surroundings : Surroundings) (session : Session) : Response :=
  match options.rules.mapM (session.activateRules surroundings.files) with
  | .error error => { Response.showing surroundings session "" with failure := some error }
  | .ok activated =>
    loadFiles surroundings ((activated.map (·.2)).getD session) options.loads

/-! ### Running -/

/-- Carries out lines until one ends the session. -/
def runLines (surroundings : Surroundings) (transcript : Transcript) : List String → Transcript
  | [] => transcript
  | text :: rest =>
    let surroundings := { surroundings with files := transcript.files }
    let response := Prompt.respond surroundings transcript.session text
    let transcript := transcript.add response
    if response.quits then transcript else runLines surroundings transcript rest

/-- The lines of an input.  Its last newline ends a line and starts none. -/
def inputLines (input : String) : List String :=
  let lines := (Text.lines input.toList).map String.ofList
  if lines.getLast? = some "" then lines.dropLast else lines

/-- Runs the program with options. -/
def runOptions (options : Options) (input : String) (surroundings : Surroundings) : Ending :=
  match startSession options surroundings.wall with
  | .error error => ⟨failed, "", [error.message], surroundings.files⟩
  | .ok session =>
    let loaded := preload options surroundings session
    let transcript := (Transcript.mk session surroundings.files "" []).add loaded
    let oneShot := !options.commands.isEmpty
    if oneShot && loaded.failure.isSome then
      ⟨failed, transcript.output, transcript.errors, transcript.files⟩
    else
      let lines := if oneShot then options.commands else inputLines input
      let finished := runLines surroundings transcript lines
      ⟨succeeded, finished.output, finished.errors, finished.files⟩

def usageText : String := Prompt.line <| "\n".intercalate [
  "Usage: promwb [OPTIONS]",
  "",
  "  --load <FILE>            load an exposition text file (repeatable)",
  "  --rules <SPEC>           activate a rule file, a directory or a glob",
  "  --at <INSTANT>           pin the evaluation time",
  "  --lookback <DURATION>    staleness window for instant selectors [default: 5m]",
  "  --query-timeout <DURATION>  deadline for each query [default: 30s]",
  "  -c, --command <CMD>      run a command instead of the prompt (repeatable)",
  "  -h, --help               print help",
  "  -V, --version            print version"]

def versionText : String := Prompt.line "promwb 0.1.0"

/-- Runs the program on a command line. -/
def run (arguments : List String) (input : String) (surroundings : Surroundings) : Ending :=
  match Invocation.read arguments with
  | .run options => runOptions options input surroundings
  | .help => ⟨succeeded, usageText, [], surroundings.files⟩
  | .version => ⟨succeeded, versionText, [], surroundings.files⟩
  | .invalid => ⟨misused, "", [], surroundings.files⟩

end MetricBench.CommandLine
