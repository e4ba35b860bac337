import MetricBench.Proofs.Edit.InPlace
import MetricBench.Proofs.Rules.InPlace
import MetricBench.Prompt.Response

/-!
# Failed commands

Commands work on the session in place.  Every command but a scrape and a rule pass does what can
fail before its one change of the session, so that a failed command has changed nothing.  A pass
that fails has let the store grow.
-/

namespace MetricBench

/-! ### Errors other than that of a pass -/

/-- Whether an error is not the failure of a rule pass. -/
def Error.IsOther (error : Error) : Prop := ∀ failure, error ≠ .pass failure

theorem failsAs_lift {ε α : Type} {kind : ε → Error} (h : ∀ error, (kind error).IsOther)
    (outcome : Except ε α) : FailsAs Error.IsOther (Error.lift kind outcome) := by
  cases outcome with
  | ok value => exact failsAs_ok value
  | error error => exact failsAs_error (h error)

theorem failsAs_usage {α : Type} (outcome : Except UsageError α) :
    FailsAs Error.IsOther (Error.lift .usage outcome) :=
  failsAs_lift (fun _ _ => by simp) outcome

theorem failsAs_readFile (files : Files.FileTree) (path : String) :
    FailsAs Error.IsOther (Session.readFile files path) := by
  rw [Session.readFile]
  cases files.text? path with
  | some text => exact failsAs_ok text
  | none => exact failsAs_error fun _ => by simp

namespace QueryResponse

theorem failsAs_dataOf (value : Json.Value) : FailsAs Error.IsOther (dataOf value) := by
  unfold dataOf
  dsimp only
  split
  case isTrue =>
    cases readEnvelope? value with
    | none => exact failsAs_error fun _ => by simp
    | some envelope =>
      dsimp only
      split_ifs
      · exact failsAs_error fun _ => by simp
      · cases envelope.data with
        | some data => exact failsAs_ok data
        | none => exact failsAs_error fun _ => by simp
  case isFalse =>
    cases readData? value with
    | some data => exact failsAs_ok data
    | none => exact failsAs_error fun _ => by simp

theorem failsAs_observationOf (labels : Labels) (point : TextPoint) :
    FailsAs Error.IsOther (observationOf labels point) := by
  rw [observationOf]
  cases Number.parseValue? point.value with
  | none => exact failsAs_error fun _ => by simp
  | some value => exact failsAs_ok _

theorem failsAs_read (text : String) : FailsAs Error.IsOther (read text) := by
  rw [read]
  cases Json.Value.read? text with
  | none => exact failsAs_error fun _ => by simp
  | some value =>
    apply (failsAs_dataOf value).bind
    intro data
    refine FailsAs.bind (FailsAs.mapM data fun series => ?_) fun observations => failsAs_ok _
    exact FailsAs.mapM series.points (failsAs_observationOf series.labels)

end QueryResponse

namespace Rules

theorem failsAs_sourcePaths (tree : Files.FileTree) (source : String) :
    FailsAs Error.IsOther (sourcePaths tree source) := by
  rw [sourcePaths]
  split_ifs
  · cases Files.PathPattern.read? source with
    | some pattern => exact failsAs_ok _
    | none => exact failsAs_error fun _ => by simp
  · cases tree.entry? source with
    | none => exact failsAs_error fun _ => by simp
    | some entry => cases entry <;> exact failsAs_ok _

theorem failsAs_readFile (tree : Files.FileTree) (path : String) :
    FailsAs Error.IsOther (readFile tree path) := by
  rw [readFile]
  cases tree.text? path with
  | none => exact failsAs_error fun _ => by simp
  | some text =>
    dsimp only
    cases RuleFile.read? text with
    | none => exact failsAs_error fun _ => by simp
    | some file => exact failsAs_ok file

theorem failsAs_ofSource (tree : Files.FileTree) (source : String) :
    FailsAs Error.IsOther (RuleSet.ofSource tree source) := by
  have hresolve : FailsAs Error.IsOther (resolve tree source) :=
    (failsAs_sourcePaths tree source).map _
  apply hresolve.bind
  intro paths
  refine FailsAs.bind (FailsAs.mapM paths fun path => ?_) fun files => failsAs_usage _
  exact (failsAs_readFile tree path).bind fun file => failsAs_ok _

end Rules

namespace Prompt

open Rules.InPlace (recordThenText)
open Edit (SeriesFilter)
open Work (AllOrNothing BreaksOff Steady Sure)

/-! ### Steps that change nothing -/

section

variable (surroundings : Surroundings)

theorem steady_theSession : Steady Error.IsOther theSession :=
  Work.steady_get.bind fun bench => Work.steady_pure bench.session

theorem steady_granted {α : Type} (outcome : Except UsageError α) :
    Steady Error.IsOther (granted outcome) :=
  Work.steady_settled (failsAs_usage outcome)

theorem steady_instantOf (text : String) : Steady Error.IsOther (instantOf surroundings text) :=
  steady_theSession.bind fun _ => steady_granted _

theorem steady_optionsOf (texts : TransferTexts) :
    Steady Error.IsOther (optionsOf surroundings texts) :=
  steady_theSession.bind fun _ => steady_granted _

theorem steady_textOf (path : String) : Steady Error.IsOther (textOf path) :=
  Work.steady_get.bind fun bench => Work.steady_settled (failsAs_readFile bench.files path)

/-! ### Steps that do not fail -/

theorem sure_theSession : Sure theSession :=
  Work.sure_get.bind fun bench => Work.sure_pure bench.session

theorem sure_shows (text : String) : Sure (shows text) :=
  (Work.sure_modify _).bind fun _ => Work.sure_pure false

theorem start_shows (text : String) (bench : Bench) :
    (shows text).start bench = (.ok false, { bench with output := bench.output ++ text }) := rfl

theorem sure_changeSession (change : Session → Session) : Sure (changeSession change) :=
  Work.sure_modify _

theorem allOrNothing_shows (text : String) : AllOrNothing Error.IsOther (shows text) :=
  (sure_shows text).allOrNothing

/-- A command that only shows something of the session. -/
theorem allOrNothing_showsOf (text : Session → String) :
    AllOrNothing Error.IsOther (theSession >>= fun session => shows (text session)) := by
  apply AllOrNothing.after_steady steady_theSession
  intro session
  exact allOrNothing_shows (text session)

/-- A command that shows what a query is answered. -/
theorem allOrNothing_showsAnswer {α : Type} (answer : Session → Except Query.QueryError α)
    (text : α → String) :
    AllOrNothing Error.IsOther
      (theSession >>= fun session => Work.settled (Error.lift .query (answer session)) >>=
        fun value => shows (text value)) := by
  apply AllOrNothing.after_steady steady_theSession
  intro session
  apply AllOrNothing.after_steady (Work.steady_settled (failsAs_lift (fun _ _ => by simp) _))
  intro value
  exact allOrNothing_shows (text value)

/-! ### Steps that change all or nothing -/

theorem allOrNothing_onStore {α : Type} {edit : Work UsageError Store α}
    (h : AllOrNothing (fun _ => True) edit) : AllOrNothing Error.IsOther (onStore edit) :=
  h.within (fun _ _ _ => by simp) fun _ => rfl

/-- The pass after a load does not fail the load. -/
theorem allOrNothing_ingest (document : Document) (options : TransferOptions) :
    AllOrNothing Error.IsOther (ingest surroundings document options) := by
  apply AllOrNothing.after_steady steady_theSession
  intro session
  refine (allOrNothing_onStore
    (Edit.InPlace.allOrNothing_load document options.filter options.mode _)).before_sure
      fun report => sure_theSession.bind fun later => ?_
  cases later.rules with
  | none => exact Work.sure_pure _
  | some rules =>
    exact ((Work.sure_attempt _).within _ _ _).bind fun outcome => Work.sure_pure _

theorem allOrNothing_saveFile (path : String) (options : TransferOptions) :
    AllOrNothing Error.IsOther (saveFile surroundings path options) := by
  apply AllOrNothing.after_steady steady_theSession
  intro session
  apply AllOrNothing.after_steady (steady_granted _)
  intro snapshot
  apply AllOrNothing.after_steady Work.steady_get
  intro bench
  cases bench.files.write? path snapshot.text with
  | none => exact (Work.steady_throw fun _ => by simp).allOrNothing
  | some files =>
    exact ((Work.sure_modify _).bind fun _ => Work.sure_pure snapshot).allOrNothing

theorem allOrNothing_retain (removal : Session → RetainReport × Session) :
    AllOrNothing Error.IsOther (retain removal) := by
  apply AllOrNothing.after_steady steady_theSession
  intro session
  exact ((sure_changeSession _).bind fun _ => Work.sure_pure _).allOrNothing

theorem allOrNothing_activate (source : String) :
    AllOrNothing Error.IsOther (activate source) := by
  apply AllOrNothing.after_steady Work.steady_get
  intro bench
  refine .after_steady (Work.steady_settled (Rules.failsAs_ofSource bench.files source))
    fun rules => ?_
  exact ((sure_changeSession _).bind fun _ => Work.sure_pure rules).allOrNothing

/-! ### Commands -/

/-- A command that reads a document and adds it. -/
theorem allOrNothing_transfer (path : String) (texts : TransferTexts)
    {read : String → Except Error Document} (hread : ∀ text, FailsAs Error.IsOther (read text)) :
    AllOrNothing Error.IsOther (optionsOf surroundings texts >>= fun options =>
      textOf path >>= fun text => Work.settled (read text) >>= fun document =>
        ingest surroundings document options >>= fun report => shows (ingestText report)) := by
  apply AllOrNothing.after_steady (steady_optionsOf surroundings texts)
  intro options
  apply AllOrNothing.after_steady (steady_textOf path)
  intro text
  apply AllOrNothing.after_steady (Work.steady_settled (hread text))
  intro document
  apply (allOrNothing_ingest surroundings document options).before_sure
  intro report
  exact sure_shows (ingestText report)

/-- A command that removes samples by a pattern. -/
theorem allOrNothing_removal (pattern : String)
    (removal : SeriesFilter → Session → RetainReport × Session) :
    AllOrNothing Error.IsOther (filterOf pattern >>= fun filter =>
      retain (removal filter) >>= fun report => shows (retainText report)) := by
  apply AllOrNothing.after_steady (steady_granted _)
  intro filter
  apply (allOrNothing_retain (removal filter)).before_sure
  intro report
  exact sure_shows (retainText report)

/-- A command that changes the session and cannot fail. -/
theorem allOrNothing_change (change : Session → Session) (text : String) :
    AllOrNothing Error.IsOther (changeSession change >>= fun _ => shows text) :=
  ((sure_changeSession change).bind fun _ => sure_shows text).allOrNothing

/-- A command other than a scrape and a rule pass changes all or nothing. -/
theorem allOrNothing_perform {command : Command}
    (hscrape : ∀ url count delay texts, command ≠ .scrape url count delay texts)
    (hevaluate : ∀ instant, command ≠ .evaluate instant) :
    AllOrNothing Error.IsOther (perform surroundings command) := by
  cases command with
  | query query => exact allOrNothing_showsAnswer _ valueText
  | queryAt instant query =>
    apply AllOrNothing.after_steady (steady_instantOf surroundings instant)
    intro instant
    exact allOrNothing_showsAnswer (·.query query instant) valueText
  | queryRange start stop step query =>
    apply AllOrNothing.after_steady (steady_instantOf surroundings start)
    intro start
    apply AllOrNothing.after_steady (steady_instantOf surroundings stop)
    intro stop
    apply AllOrNothing.after_steady (steady_granted _)
    intro step
    exact allOrNothing_showsAnswer (·.queryRange query start stop step) seriesText
  | load path texts =>
    apply allOrNothing_transfer surroundings path texts
    intro text
    exact failsAs_lift (fun _ _ => by simp) (Exposition.read text)
  | importResponse path texts =>
    exact allOrNothing_transfer surroundings path texts QueryResponse.failsAs_read
  | scrape url count delay texts => exact absurd rfl (hscrape url count delay texts)
  | save path texts =>
    apply AllOrNothing.after_steady (steady_optionsOf surroundings texts)
    intro options
    cases path with
    | none =>
      apply AllOrNothing.after_steady steady_theSession
      intro session
      apply AllOrNothing.after_steady (steady_granted _)
      intro snapshot
      exact allOrNothing_shows snapshot.text
    | some path =>
      apply (allOrNothing_saveFile surroundings path options).before_sure
      intro snapshot
      exact sure_shows (savedText snapshot path)
  | drop pattern => exact allOrNothing_removal pattern fun filter => (·.dropSeries filter)
  | keep pattern => exact allOrNothing_removal pattern fun filter => (·.keepSeries filter)
  | rename old new =>
    apply (allOrNothing_onStore (Edit.InPlace.allOrNothing_rename old new)).before_sure
    intro count
    exact sure_shows (renamedText old new count)
  | seed metric steps step =>
    apply AllOrNothing.after_steady (steady_granted _)
    intro step
    apply (allOrNothing_onStore (Edit.InPlace.allOrNothing_seed metric steps step _)).before_sure
    intro report
    exact sure_shows (seededText report)
  | rules source =>
    cases source with
    | none => exact allOrNothing_showsOf fun session => rulesText session.rules
    | some source =>
      apply (allOrNothing_activate source).before_sure
      intro rules
      exact sure_shows (activatedText rules)
  | evaluate instant => exact absurd rfl (hevaluate instant)
  | pin instant =>
    apply AllOrNothing.after_steady (steady_instantOf surroundings instant)
    intro instant
    exact allOrNothing_change (·.pin instant) (pinnedText instant)
  | unpin => exact allOrNothing_change Session.unpin _
  | now => exact allOrNothing_showsOf fun session => nowText session surroundings.wall
  | metrics => exact allOrNothing_showsOf fun session => metricsText session.store
  | labels name =>
    cases name with
    | none => exact allOrNothing_showsOf fun session => namesText session.store.labelNames
    | some name =>
      exact allOrNothing_showsOf fun session => namesText (session.store.labelValues name)
  | clear => exact allOrNothing_change Session.clear _
  | help => exact allOrNothing_shows helpText
  | quit => exact (Work.sure_pure true).allOrNothing

/-! ### Rule passes -/

theorem start_onWatch_pass (settings : Query.Settings) (rules : Rules.RuleSet) (instant : Int)
    (bench : Bench) :
    (onWatch (Rules.InPlace.pass settings rules instant)).start bench =
      let result := Rules.pass settings rules bench.session.store instant
      (result.outcome.mapError .pass,
        bench.withWatch ⟨result.store, bench.alerts ++ result.alerts⟩) := by
  rw [onWatch, Work.start_within, Rules.InPlace.start_pass]
  rfl

/-- What an evaluation of the rules leaves when it breaks off: everything as it was, or, when a rule
has failed, a store that has grown by samples of one instant. -/
def GrownByPass (error : Error) (before after : Bench) : Prop :=
  (error.IsOther ∧ after = before) ∨
    ((∃ failure, error = .pass failure) ∧ ∃ watch instant, after = before.withWatch watch ∧
      before.session.store.Grown (·.timestamp = instant) watch.store)

theorem grownByPass_same (error : Error) (bench : Bench) (h : error.IsOther) :
    GrownByPass error bench bench := .inl ⟨h, rfl⟩

theorem breaksOff_evaluate (instant : Option Int) :
    BreaksOff GrownByPass (evaluate surroundings instant) := by
  apply BreaksOff.after_steady grownByPass_same steady_theSession
  intro session
  cases session.rules with
  | none => exact fun bench error h => .inl ⟨by cases h; simp [Error.IsOther], rfl⟩
  | some rules =>
    intro bench error h
    dsimp only at h ⊢
    rw [start_onWatch_pass] at h ⊢
    dsimp only at h ⊢
    have hgrown := Rules.grown_pass session.settings rules bench.session.store
      (instant.getD (session.now surroundings.wall))
    refine .inr ⟨?_, _, _, rfl, hgrown⟩
    cases houtcome : (Rules.pass session.settings rules bench.session.store
        (instant.getD (session.now surroundings.wall))).outcome with
    | ok report =>
      rw [houtcome] at h
      cases h
    | error failure =>
      rw [houtcome] at h
      exact ⟨failure, (Except.error.inj h).symm⟩

theorem breaksOff_perform_evaluate (instant : Option String) :
    BreaksOff GrownByPass (perform surroundings (.evaluate instant)) := by
  have hinstant : Steady Error.IsOther (instant.mapM (instantOf surroundings)) := by
    cases instant with
    | none => exact Work.steady_pure none
    | some text => exact (steady_instantOf surroundings text).map some
  apply BreaksOff.after_steady grownByPass_same hinstant
  intro instant
  exact (breaksOff_evaluate surroundings instant).before_sure fun report => sure_shows _

/-! ### Responses -/

/-- What a load or an import has read when it comes to add something. -/
def HasRead (surroundings : Surroundings) (session : Session) (command : Command)
    (document : Document) (options : TransferOptions) : Prop :=
  match command with
  | .load path texts =>
    readOptions surroundings session texts = .ok options ∧
      ∃ text, surroundings.files.text? path = some text ∧ Exposition.read text = .ok document
  | .importResponse path texts =>
    readOptions surroundings session texts = .ok options ∧
      ∃ text, surroundings.files.text? path = some text ∧ QueryResponse.read text = .ok document
  | _ => False

/-- A load that is followed by a pass ends well, whatever comes of the pass. -/
theorem start_ingest {document : Document} {options : TransferOptions} (bench : Bench)
    {report : Edit.LoadReport} {loaded : Store} {rules : Rules.RuleSet}
    (hload : Edit.load bench.session.store document options.filter options.mode
      (bench.session.now surroundings.wall) = .ok (report, loaded))
    (hrules : bench.session.rules = some rules) :
    (ingest surroundings document options).start bench =
      let result := Rules.pass bench.session.settings rules loaded
        (bench.session.now surroundings.wall)
      (.ok ⟨report, some result.outcome⟩,
        bench.withWatch ⟨result.store, bench.alerts ++ result.alerts⟩) := by
  have hstart := Edit.InPlace.start_load document options.filter options.mode
    (bench.session.now surroundings.wall) bench.session.store
  rw [hload] at hstart
  have honStore : (onStore (Edit.InPlace.load document options.filter options.mode
      (bench.session.now surroundings.wall))).start bench =
        (.ok report, bench.withStore loaded) := by
    rw [onStore, Work.start_within, hstart]
    rfl
  have hlater : (bench.withStore loaded).session.rules = some rules := hrules
  simp only [ingest, theSession, onWatch, honStore, hlater, Work.start_bind, Work.start_get,
    Work.start_pure, Work.start_within, Work.start_attempt, Rules.InPlace.start_pass]
  rfl

theorem start_optionsOf {session : Session} {texts : TransferTexts} {options : TransferOptions}
    (h : readOptions surroundings session texts = .ok options) :
    (optionsOf surroundings texts).start (.initial surroundings session) =
      (.ok options, .initial surroundings session) := by
  have hgranted : (optionsOf surroundings texts).start (.initial surroundings session) =
      (Error.lift .usage (readOptions surroundings session texts),
        .initial surroundings session) := by
    simp only [optionsOf, theSession, granted, Work.start_bind, Work.start_get, Work.start_pure,
      Work.start_settled]
    rfl
  rw [hgranted, h]
  rfl

theorem start_textOf {path text : String} (h : surroundings.files.text? path = some text)
    (session : Session) :
    (textOf path).start (.initial surroundings session) =
      (.ok text, .initial surroundings session) := by
  have hread : Session.readFile surroundings.files path = .ok text := by
    rw [Session.readFile, h]
  rw [textOf, Work.start_bind, Work.start_get]
  exact congrArg (·, Bench.initial surroundings session) hread

/-- A load or an import that has read its document shows what comes of adding it. -/
theorem start_perform_of_hasRead {session : Session} {command : Command} {document : Document}
    {options : TransferOptions} (h : HasRead surroundings session command document options) :
    (perform surroundings command).start (.initial surroundings session) =
      (ingest surroundings document options >>= fun report => shows (ingestText report)).start
        (.initial surroundings session) := by
  cases command with
  | load path texts =>
    obtain ⟨hoptions, text, hfile, hread⟩ := h
    simp only [perform, Work.start_bind, Work.start_settled, start_optionsOf surroundings hoptions,
      start_textOf surroundings hfile, hread, Error.lift]
  | importResponse path texts =>
    obtain ⟨hoptions, text, hfile, hread⟩ := h
    simp only [perform, Work.start_bind, Work.start_settled, start_optionsOf surroundings hoptions,
      start_textOf surroundings hfile, hread]
  | _ => exact h.elim

/-- The response to a load or an import that is followed by a pass. -/
theorem execute_of_hasRead {session : Session} {command : Command} {document : Document}
    {options : TransferOptions} {report : Edit.LoadReport} {loaded : Store} {rules : Rules.RuleSet}
    (hread : HasRead surroundings session command document options)
    (hload : Edit.load session.store document options.filter options.mode
      (session.now surroundings.wall) = .ok (report, loaded))
    (hrules : session.rules = some rules) :
    execute surroundings session command =
      let result := Rules.pass session.settings rules loaded (session.now surroundings.wall)
      ⟨{ session with store := result.store }, surroundings.files,
        ingestText ⟨report, some result.outcome⟩, result.alerts, none, false⟩ := by
  have hingest := start_ingest surroundings (.initial surroundings session) hload hrules
  unfold execute
  rw [start_perform_of_hasRead surroundings hread, Work.start_bind, hingest]
  simp [start_shows, Bench.initial, Bench.withWatch, Bench.withStore]

/-- The response to a command that fails is what the command leaves when it breaks off. -/
theorem execute_of_failure {leaves : Error → Bench → Bench → Prop} {session : Session}
    {command : Command} {error : Error} (hleaves : BreaksOff leaves (perform surroundings command))
    (h : (execute surroundings session command).failure = some error) :
    ∃ bench, leaves error (.initial surroundings session) bench ∧
      execute surroundings session command =
        ⟨bench.session, bench.files, bench.output, bench.alerts, some error, false⟩ := by
  have hbroken := hleaves (.initial surroundings session) error
  unfold execute at h ⊢
  rcases hstart : (perform surroundings command).start (.initial surroundings session) with
    ⟨outcome, bench⟩
  rw [hstart] at h hbroken
  cases outcome with
  | ok quits => cases h
  | error failure =>
    cases h
    exact ⟨bench, hbroken rfl, rfl⟩

/-- Only an evaluation of the rules leaves something behind when it breaks off. -/
theorem breaksOff_perform {command : Command}
    (hscrape : ∀ url count delay texts, command ≠ .scrape url count delay texts) :
    BreaksOff (fun error before after => GrownByPass error before after ∧
      ((∃ failure, error = .pass failure) → ∃ instant, command = .evaluate instant))
      (perform surroundings command) := by
  intro bench error h
  by_cases hevaluate : ∃ instant, command = .evaluate instant
  · obtain ⟨instant, rfl⟩ := hevaluate
    exact ⟨breaksOff_perform_evaluate surroundings instant bench error h, fun _ => ⟨instant, rfl⟩⟩
  · have hnot : ∀ instant, command ≠ .evaluate instant := fun instant heq =>
      hevaluate ⟨instant, heq⟩
    obtain ⟨hother, hsame⟩ := allOrNothing_perform surroundings hscrape hnot bench error h
    refine ⟨.inl ⟨hother, hsame⟩, ?_⟩
    rintro ⟨failure, hfailure⟩
    exact absurd hfailure (hother failure)

/-- A command other than a scrape that fails leaves everything as it was, unless it is an evaluation
of the rules in which a rule fails; that leaves the clock, the rules and the help, and lets every
bucket grow.  A load or an import does not fail by the pass that follows it, and keeps what it has
loaded. -/
theorem failed_command (session : Session) (command : Command)
    (hscrape : ∀ url count delay texts, command ≠ .scrape url count delay texts) :
    let response := execute surroundings session command
    let now := session.now surroundings.wall
    (∀ error, response.failure = some error → error.IsOther →
      response = { Response.showing surroundings session "" with failure := some error }) ∧
    (∀ failure, response.failure = some (.pass failure) →
      (∃ instant, command = .evaluate instant) ∧
      response.session = { session with store := response.session.store } ∧
      ∃ instant, session.store.Grown (·.timestamp = instant) response.session.store) ∧
    (∀ document options report loaded rules failure,
      HasRead surroundings session command document options →
      Edit.load session.store document options.filter options.mode now = .ok (report, loaded) →
      session.rules = some rules →
      ((Rules.InPlace.pass session.settings rules now).start ⟨loaded, []⟩).1 = .error failure →
      response.failure = none ∧
      response.output = ingestText ⟨report, some (.error failure)⟩ ∧
      response.session = { session with store := response.session.store } ∧
      loaded.Grown (·.timestamp = now) response.session.store) := by
  intro response now
  refine ⟨?other, ?pass, ?loaded⟩
  case other =>
    intro error hfailure hother
    obtain ⟨bench, ⟨hgrown, -⟩, hresponse⟩ :=
      execute_of_failure surroundings (breaksOff_perform surroundings hscrape) hfailure
    rcases hgrown with ⟨-, rfl⟩ | ⟨⟨failure, hpass⟩, -⟩
    · exact hresponse
    · exact absurd hpass (hother failure)
  case pass =>
    intro failure hfailure
    obtain ⟨bench, ⟨hgrown, hevaluate⟩, hresponse⟩ :=
      execute_of_failure surroundings (breaksOff_perform surroundings hscrape) hfailure
    rcases hgrown with ⟨hother, -⟩ | ⟨-, watch, instant, rfl, hgrown⟩
    · exact absurd rfl (hother failure)
    · rw [show response = _ from hresponse]
      exact ⟨hevaluate ⟨failure, rfl⟩, rfl, instant, hgrown⟩
  case loaded =>
    intro document options report loaded rules failure hread hload hrules hfails
    rw [Rules.InPlace.start_pass] at hfails
    have hresponse : response = _ := execute_of_hasRead surroundings hread hload hrules
    rw [hresponse]
    refine ⟨rfl, ?_, rfl, Rules.grown_pass session.settings rules loaded now⟩
    dsimp only at hfails ⊢
    rw [hfails]

end

/-! ### Three failures -/

/-- A session that is pinned at one second, whose second rule always fails. -/
def pinnedWithBrokenRule : Session := ⟨.empty, ⟨some 1000⟩, .standard, some recordThenText⟩

/-- A file with one sample and the current directory that it lies in. -/
def besideOneSample : Surroundings :=
  ⟨⟨[], .ofList [(["m"], .file (some "up 1\n"))]⟩, 0, fun _ => 0⟩

theorem hasRead_besideOneSample :
    HasRead besideOneSample pinnedWithBrokenRule (.load "m" ⟨none, none⟩)
      ⟨[⟨.ofList [(nameLabel, "up")], 1.0, none⟩], []⟩ .none := by
  have hfile : besideOneSample.files.text? "m" = some "up 1\n" := by cbv
  exact ⟨rfl, "up 1\n", hfile, by rfl⟩

/-- A refused renaming changes nothing, a rule that fails leaves what the rule before it has
written, and a load before such a rule keeps its sample. -/
theorem pinnedWithBrokenRule_after_failures :
    let renamed := execute besideOneSample pinnedWithBrokenRule (.rename "up" "down")
    let evaluated := execute besideOneSample pinnedWithBrokenRule (.evaluate none)
    let loaded := execute besideOneSample pinnedWithBrokenRule (.load "m" ⟨none, none⟩)
    renamed.failure = some (.usage (.metricMissing "up")) ∧
      renamed.session = pinnedWithBrokenRule ∧
      evaluated.failure = some (.pass ⟨"Broken", .notRecordable .string, ⟨1, 1, 0⟩⟩) ∧
      (∃ instant, Store.empty.Grown (·.timestamp = instant) evaluated.session.store) ∧
      loaded.failure = none ∧
      ∃ store : Store, store.sampleCount = 1 ∧
        store.Grown (·.timestamp = 1000) loaded.session.store := by
  intro renamed evaluated loaded
  have hrenamed : renamed.failure = some (.usage (.metricMissing "up")) := by rfl
  have hevaluated : evaluated.failure =
      some (.pass ⟨"Broken", .notRecordable .string, ⟨1, 1, 0⟩⟩) := by rfl
  obtain ⟨hunchanged, -, -⟩ := failed_command besideOneSample pinnedWithBrokenRule
    (.rename "up" "down") (by simp)
  obtain ⟨-, hpass, -⟩ := failed_command besideOneSample pinnedWithBrokenRule
    (.evaluate none) (by simp)
  obtain ⟨-, -, hkept⟩ := failed_command besideOneSample pinnedWithBrokenRule
    (.load "m" ⟨none, none⟩) (by simp)
  obtain ⟨hsucceeds, -, -, hgrown⟩ := hkept _ _ _ _ _ _ hasRead_besideOneSample rfl rfl rfl
  refine ⟨hrenamed, ?_, hevaluated, (hpass _ hevaluated).2.2, hsucceeds, _, ?_, hgrown⟩
  · rw [show renamed = _ from hunchanged _ hrenamed (by simp [Error.IsOther])]
    rfl
  · rfl

end Prompt

end MetricBench
