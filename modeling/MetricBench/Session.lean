import MetricBench.Edit.Load
import MetricBench.Edit.Rename
import MetricBench.Edit.Retain
import MetricBench.Edit.Save
import MetricBench.Edit.Seed
import MetricBench.Exposition.Reader
import MetricBench.QueryResponse
import MetricBench.Rules.Pass
import MetricBench.Rules.Source
import MetricBench.Time.Clock

/-!
# Sessions

A session is a store with a clock, the settings of its queries and the rules that are active.  While
rules are active, every load ends with a pass over them.  What comes from outside is handed in: the
instant that the wall clock shows, the files, and random words.
-/

namespace MetricBench

open Edit (LoadReport SeriesFilter Snapshot TimestampMode)
open Files (FileTree)
open Rules (Alert PassFailure PassReport RuleSet)

structure Session where
  store : Store
  clock : Time.Clock
  settings : Query.Settings
  rules : Option RuleSet

/-- How a transfer is filtered and stamped. -/
structure TransferOptions where
  filter : Option SeriesFilter
  mode : TimestampMode

def TransferOptions.none : TransferOptions := ⟨.none, .keep⟩

/-- What a load has done, and the pass after it if rules are active. -/
structure IngestReport where
  load : LoadReport
  pass : Option (Except PassFailure PassReport)

/-- The answer of an operation, the alerts that have fired and the session after it. -/
structure Answered (α : Type) where
  answer : α
  alerts : List Alert
  session : Session

namespace Session

/-- A session without samples and rules. -/
def start (settings : Query.Settings) (clock : Time.Clock) : Session :=
  ⟨.empty, clock, settings, none⟩

/-! ### Clock -/

/-- The instant of a session while the wall clock shows `wall`. -/
def now (session : Session) (wall : Int) : Int := session.clock.now wall

def readInstant (session : Session) (wall : Int) (text : String) : Except UsageError Int :=
  Time.readInstant text (session.now wall)

def pin (session : Session) (instant : Int) : Session :=
  { session with clock := session.clock.pin instant }

def unpin (session : Session) : Session := { session with clock := session.clock.unpin }

/-! ### Rules -/

/-- Makes the rules of a source the active ones. -/
def activateRules (session : Session) (files : FileTree) (source : String) :
    Except Error (RuleSet × Session) := do
  let rules ← RuleSet.ofSource files source
  .ok (rules, { session with rules := some rules })

/-- Evaluates rules at an instant. -/
def runPass (session : Session) (rules : RuleSet) (instant : Int) :
    Answered (Except PassFailure PassReport) :=
  let result := Rules.pass session.settings rules session.store instant
  ⟨result.outcome, result.alerts, { session with store := result.store }⟩

/-- Evaluates the active rules at an instant. -/
def evaluateRules (session : Session) (instant : Int) :
    Except UsageError (Answered (Except PassFailure PassReport)) :=
  match session.rules with
  | none => .error .noActiveRules
  | some rules => .ok (session.runPass rules instant)

/-! ### Loading and saving -/

/-- Adds a document and evaluates the active rules. -/
def ingest (session : Session) (wall : Int) (document : Document) (options : TransferOptions) :
    Except UsageError (Answered IngestReport) := do
  let now := session.now wall
  let (report, store) ← Edit.load session.store document options.filter options.mode now
  let loaded := { session with store := store }
  match session.rules with
  | none => .ok ⟨⟨report, none⟩, [], loaded⟩
  | some rules =>
    let passed := loaded.runPass rules now
    .ok ⟨⟨report, some passed.answer⟩, passed.alerts, passed.session⟩

/-- Adds exposition text. -/
def loadText (session : Session) (wall : Int) (text : String) (options : TransferOptions) :
    Except Error (Answered IngestReport) := do
  let document ← Error.lift .input (Exposition.read text)
  Error.lift .usage (session.ingest wall document options)

/-- Adds the response to a query. -/
def importResponse (session : Session) (wall : Int) (text : String) (options : TransferOptions) :
    Except Error (Answered IngestReport) := do
  let document ← QueryResponse.read text
  Error.lift .usage (session.ingest wall document options)

/-- The text of the file at a path. -/
def readFile (files : FileTree) (path : String) : Except Error String :=
  match files.text? path with
  | some text => .ok text
  | none => .error .io

/-- Adds the exposition text of a file. -/
def loadFile (session : Session) (wall : Int) (files : FileTree) (path : String)
    (options : TransferOptions) : Except Error (Answered IngestReport) := do
  session.loadText wall (← readFile files path) options

/-- Writes the store as exposition text. -/
def save (session : Session) (wall : Int) (options : TransferOptions) :
    Except UsageError Snapshot :=
  Edit.save session.store options.filter options.mode (session.now wall)

/-- Writes the store to a file. -/
def saveFile (session : Session) (wall : Int) (files : FileTree) (path : String)
    (options : TransferOptions) : Except Error (Snapshot × FileTree) := do
  let snapshot ← Error.lift .usage (session.save wall options)
  match files.write? path snapshot.text with
  | some files => .ok (snapshot, files)
  | none => .error .io

/-! ### Edits -/

def clear (session : Session) : Session := { session with store := .empty }

def dropSeries (session : Session) (filter : SeriesFilter) : RetainReport × Session :=
  let (report, store) := Edit.dropSeries session.store filter
  (report, { session with store := store })

def keepSeries (session : Session) (filter : SeriesFilter) : RetainReport × Session :=
  let (report, store) := Edit.keepSeries session.store filter
  (report, { session with store := store })

def rename (session : Session) (old new : String) : Except UsageError (Nat × Session) := do
  let (count, store) ← Edit.rename session.store old new
  .ok (count, { session with store := store })

/-- Continues the history of a metric into the past. -/
def seed (session : Session) (random : Nat → UInt64) (metric : String) (steps : Nat) (step : Int) :
    Except UsageError (Edit.SeedReport × Session) := do
  let (report, store) ← Edit.seed session.store metric steps step random
  .ok (report, { session with store := store })

/-! ### Queries -/

def query (session : Session) (query : String) (instant : Int) :
    Except Query.QueryError Query.Value :=
  Query.instantQuery session.settings session.store query instant

def queryRange (session : Session) (query : String) (start stop step : Int) :
    Except Query.QueryError (List Series) :=
  Query.rangeQuery session.settings session.store query start stop step

end Session

end MetricBench
