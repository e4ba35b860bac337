import MetricBench.CommandLine.Program
import MetricBench.CommandLine.Snapshot
import MetricBench.Number.RandomWord
import Std.Time.DateTime.Timestamp

/-!
# The command line program

Reads lines, carries them out and prints what they show.  All decisions are made by the program's
other modules.

Left out are the deadline of queries (they take no time, see `Query.Settings`), pages fetched over the
network (a scrape of one fails), texts that cannot be shown, the room that the engine of patterns has
(see `Regex.Pattern.readWithin?`), sums of instants beyond signed words (see `Query.Timing.readingInstant`)
and the trace of what the program does.
-/

namespace MetricBench.CommandLine

open Files (FileTree)
open Prompt (Command Response Surroundings)

/-- The instant that the wall clock shows. -/
def wallClock : IO Int := do
  return (← Std.Time.Timestamp.now).toMillisecondsSinceUnixEpoch.val

/-- A seed that no one can foresee. -/
def freshSeed : IO UInt64 := do
  let bytes ← IO.getRandomBytes 8
  return bytes.foldl (fun seed byte => seed * 256 + byte.toUInt64) 0

/-- What a command meets now. -/
def surroundingsOf (files : FileTree) : IO Surroundings := do
  return ⟨files, ← wallClock, Number.randomWord (← freshSeed)⟩

def printError (error : Error) : IO Unit := IO.eprintln ("error: " ++ error.message)

/-- Writes the files of a response, prints what it shows and gives the session after it. -/
def deliver (before : FileTree) (session : Session) (response : Response) : IO Session := do
  let stdout ← IO.getStdout
  if ← writeChanges before response.files then
    stdout.putStr (outputOf response)
    stdout.flush
    response.failure.forM printError
    return response.session
  else
    printError .io
    return session

/-- Carries out a line.  Tells also whether it has ended the session. -/
def runLine (session : Session) (text : String) : IO (Session × Bool) := do
  let files ←
    match Command.read text with
    | .ok (some command) => filesFor command
    | _ => emptyTree
  let response := Prompt.respond (← surroundingsOf files) session text
  return (← deliver files session response, response.quits)

/-- Carries out commands until one ends the session. -/
def runCommands (session : Session) : List String → IO Unit
  | [] => return ()
  | text :: rest => do
    let (session, quits) ← runLine session text
    if !quits then runCommands session rest

/-- Carries out the lines of the input until one ends the session or the input ends. -/
partial def prompt (interactive : Bool) (session : Session) : IO Unit := do
  if interactive then
    IO.print "promwb> "
    (← IO.getStdout).flush
  let text ← (← IO.getStdin).getLine
  if !text.isEmpty then
    let (session, quits) ← runLine session text
    if !quits then prompt interactive session

/-- The files that the options name. -/
def filesOfOptions (options : Options) : IO FileTree := do
  let tree ← options.loads.foldlM lookAt (← emptyTree)
  match options.rules with
  | none => return tree
  | some source => lookAtSource tree source

/-- Carries out what the options tell and gives the exit code. -/
def runProgram (options : Options) : IO Nat := do
  let files ← filesOfOptions options
  let surroundings ← surroundingsOf files
  match startSession options surroundings.wall with
  | .error error =>
    printError (.usage error)
    return failed
  | .ok session =>
    let loaded := preload options surroundings session
    let session ← deliver files session loaded
    if options.commands.isEmpty then
      prompt (← (← IO.getStdin).isTty) session
      return succeeded
    else if loaded.failure.isSome then return failed
    else
      runCommands session options.commands
      return succeeded

end MetricBench.CommandLine

open MetricBench.CommandLine in
def main (arguments : List String) : IO UInt32 := do
  let code ←
    match Invocation.read arguments with
    | .run options => runProgram options
    | .help =>
      IO.print usageText
      pure succeeded
    | .version =>
      IO.print versionText
      pure succeeded
    | .invalid =>
      IO.eprint usageText
      pure misused
  return code.toUInt32
