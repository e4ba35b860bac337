import MetricBench.Edit.InPlace
import MetricBench.Prompt.Command
import MetricBench.Prompt.Display
import MetricBench.Rules.InPlace

/-!
# Carrying out commands

A command is work on a session and the files around it.  It shows texts and lets alerts fire as it
goes on, and breaks off where it fails.  Showing a text does not fail, and there is no network: a scrape
that would fetch a page fails.
-/

namespace MetricBench.Prompt

open Edit (SeriesFilter TimestampMode)
open Files (FileTree)
open Rules (Alert)

/-- What a session meets outside of itself: the files, the instant that the wall clock shows, and
random words. -/
structure Surroundings where
  files : FileTree
  wall : Int
  random : Nat → UInt64

/-- What a command has done: the session and the files after it, what it shows, the alerts that have
fired, its failure and whether it ends the session. -/
structure Response where
  session : Session
  files : FileTree
  output : String
  alerts : List Alert
  failure : Option Error
  quits : Bool

namespace Response

/-- The response to a command that only shows something. -/
def showing (surroundings : Surroundings) (session : Session) (output : String) : Response :=
  ⟨session, surroundings.files, output, [], none, false⟩

end Response

/-- Reads the options of a transfer, the filter first. -/
def readOptions (surroundings : Surroundings) (session : Session) (texts : TransferTexts) :
    Except UsageError TransferOptions := do
  let filter ← texts.filter.mapM SeriesFilter.read
  let mode ← texts.mode.mapM fun text =>
    TimestampMode.read text (session.now surroundings.wall)
  .ok ⟨filter, mode.getD .keep⟩

/-! ### Steps of commands -/

/-- What a command works on: the session and the files, what it has shown and the alerts that have
fired so far. -/
structure Bench where
  session : Session
  files : FileTree
  output : String
  alerts : List Alert

namespace Bench

/-- The bench before a command. -/
def initial (surroundings : Surroundings) (session : Session) : Bench :=
  ⟨session, surroundings.files, "", []⟩

/-- What a rule pass works on. -/
def watch (bench : Bench) : Rules.Watch := ⟨bench.session.store, bench.alerts⟩

/-- The bench with another store. -/
def withStore (store : Store) (bench : Bench) : Bench :=
  { bench with session := { bench.session with store := store } }

/-- The bench with what a rule pass has worked on. -/
def withWatch (watch : Rules.Watch) (bench : Bench) : Bench :=
  { bench.withStore watch.store with alerts := watch.alerts }

end Bench

/-- A step of a command. -/
abbrev Step (α : Type) := Work Error Bench α

/-- The session as it is now. -/
def theSession : Step Session := do return (← get).session

/-- Changes the session. -/
def changeSession (change : Session → Session) : Step Unit :=
  modify fun bench => { bench with session := change bench.session }

/-- An edit of the store of the session. -/
def onStore {α : Type} (edit : Work UsageError Store α) : Step α :=
  edit.within .usage (·.session.store) Bench.withStore

/-- A rule pass over the store of the session. -/
def onWatch {α : Type} (pass : Work Rules.PassFailure Rules.Watch α) : Step α :=
  pass.within .pass Bench.watch Bench.withWatch

/-- Shows a text.  The session goes on. -/
def shows (text : String) : Step Bool := do
  modify fun bench => { bench with output := bench.output ++ text }
  return false

/-- What a request gives, unless it is refused. -/
def granted {α : Type} (outcome : Except UsageError α) : Step α :=
  Work.settled (Error.lift .usage outcome)

section

variable (surroundings : Surroundings)

def instantOf (text : String) : Step Int := do
  granted ((← theSession).readInstant surroundings.wall text)

def spanOf (text : String) : Step Int := granted (Time.readSpan text)

def filterOf (pattern : String) : Step SeriesFilter := granted (SeriesFilter.read pattern)

def optionsOf (texts : TransferTexts) : Step TransferOptions := do
  granted (readOptions surroundings (← theSession) texts)

def textOf (path : String) : Step String := do
  Work.settled (Session.readFile (← get).files path)

/-- Adds a document.  If rules are active, a pass over them follows; its failure is reported. -/
def ingest (document : Document) (options : TransferOptions) : Step IngestReport := do
  let now := (← theSession).now surroundings.wall
  let report ← onStore (Edit.InPlace.load document options.filter options.mode now)
  let session ← theSession
  match session.rules with
  | none => return ⟨report, none⟩
  | some rules =>
    let pass := Rules.InPlace.pass session.settings rules now
    let outcome ← onWatch pass.attempt
    return ⟨report, some outcome⟩

/-- Fetches pages and loads them.  There is no network to fetch a page from. -/
def scrape (count : Nat) : Step Unit :=
  if count = 0 then return () else throw .http

/-- Writes the store to a file. -/
def saveFile (path : String) (options : TransferOptions) : Step Edit.Snapshot := do
  let snapshot ← granted ((← theSession).save surroundings.wall options)
  match (← get).files.write? path snapshot.text with
  | none => throw .io
  | some files =>
    modify fun bench => { bench with files := files }
    return snapshot

/-- Removes samples from the store. -/
def retain (removal : Session → RetainReport × Session) : Step RetainReport := do
  let (report, session) := removal (← theSession)
  changeSession fun _ => session
  return report

/-- Makes the rules of a source the active ones. -/
def activate (source : String) : Step Rules.RuleSet := do
  let rules ← Work.settled (Rules.RuleSet.ofSource (← get).files source)
  changeSession fun session => { session with rules := some rules }
  return rules

/-- Evaluates the active rules, now or at an instant. -/
def evaluate (instant : Option Int) : Step Rules.PassReport := do
  let session ← theSession
  match session.rules with
  | none => throw (.usage .noActiveRules)
  | some rules =>
    let instant := instant.getD (session.now surroundings.wall)
    onWatch (Rules.InPlace.pass session.settings rules instant)

/-- Carries out a command.  Tells whether it ends the session. -/
def perform : Command → Step Bool
  | .query query => do
    let session ← theSession
    let instant := session.now surroundings.wall
    let value ← Work.settled (Error.lift .query (session.query query instant))
    shows (valueText value)
  | .queryAt instant query => do
    let instant ← instantOf surroundings instant
    let value ← Work.settled (Error.lift .query ((← theSession).query query instant))
    shows (valueText value)
  | .queryRange start stop step query => do
    let start ← instantOf surroundings start
    let stop ← instantOf surroundings stop
    let step ← spanOf step
    let series ← Work.settled
      (Error.lift .query ((← theSession).queryRange query start stop step))
    shows (seriesText series)
  | .load path texts => do
    let options ← optionsOf surroundings texts
    let text ← textOf path
    let document ← Work.settled (Error.lift .input (Exposition.read text))
    shows (ingestText (← ingest surroundings document options))
  | .importResponse path texts => do
    let options ← optionsOf surroundings texts
    let text ← textOf path
    let document ← Work.settled (QueryResponse.read text)
    shows (ingestText (← ingest surroundings document options))
  | .scrape _ count delay texts => do
    let _ ← optionsOf surroundings texts
    let _ ← spanOf delay
    scrape count
    shows ""
  | .save path texts => do
    let options ← optionsOf surroundings texts
    match path with
    | none =>
      let snapshot ← granted ((← theSession).save surroundings.wall options)
      shows snapshot.text
    | some path =>
      let snapshot ← saveFile surroundings path options
      shows (savedText snapshot path)
  | .drop pattern => do
    let filter ← filterOf pattern
    shows (retainText (← retain (·.dropSeries filter)))
  | .keep pattern => do
    let filter ← filterOf pattern
    shows (retainText (← retain (·.keepSeries filter)))
  | .rename old new => do
    let count ← onStore (Edit.InPlace.rename old new)
    shows (renamedText old new count)
  | .seed metric steps step => do
    let step ← spanOf step
    let report ← onStore (Edit.InPlace.seed metric steps step surroundings.random)
    shows (seededText report)
  | .rules none => do shows (rulesText (← theSession).rules)
  | .rules (some source) => do
    let rules ← activate source
    shows (activatedText rules)
  | .evaluate instant => do
    let instant ← instant.mapM (instantOf surroundings)
    let report ← evaluate surroundings instant
    shows (passText report)
  | .pin instant => do
    let instant ← instantOf surroundings instant
    changeSession (·.pin instant)
    shows (pinnedText instant)
  | .unpin => do
    changeSession Session.unpin
    shows (line "following the wall clock")
  | .now => do shows (nowText (← theSession) surroundings.wall)
  | .metrics => do shows (metricsText (← theSession).store)
  | .labels none => do shows (namesText (← theSession).store.labelNames)
  | .labels (some name) => do shows (namesText ((← theSession).store.labelValues name))
  | .clear => do
    changeSession Session.clear
    shows (line "store cleared")
  | .help => shows helpText
  | .quit => return true

end

/-! ### Responses -/

/-- Carries out a command. -/
def execute (surroundings : Surroundings) (session : Session) (command : Command) : Response :=
  let (outcome, bench) := (perform surroundings command).start (.initial surroundings session)
  let response : Response := ⟨bench.session, bench.files, bench.output, bench.alerts, none, false⟩
  match outcome with
  | .ok quits => { response with quits := quits }
  | .error error => { response with failure := some error }

/-- Reads a line and carries out the command in it, if there is one. -/
def respond (surroundings : Surroundings) (session : Session) (text : String) : Response :=
  let silent := Response.showing surroundings session ""
  match Command.read text with
  | .ok (some command) => execute surroundings session command
  | .ok none => silent
  | .error error => { silent with failure := some (.usage error) }

end MetricBench.Prompt
