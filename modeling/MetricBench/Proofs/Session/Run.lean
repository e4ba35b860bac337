import MetricBench.Proofs.Edit.Filing
import MetricBench.Session

/-!
# Runs of a session

A run is any sequence of operations on a session.  An operation that is refused leaves the session
as it was, a pass that breaks off leaves what its rules have written, and the run goes on after
either.  Every session that a run can reach has a filed store.
-/

namespace MetricBench

open Edit (SeriesFilter)
open Files (FileTree)
open Rules (Rule RuleSet)

/-- An operation on a session with what it is handed from outside. -/
inductive Operation where
  | loadText (wall : Int) (text : String) (options : TransferOptions)
  | importResponse (wall : Int) (text : String) (options : TransferOptions)
  | dropSeries (filter : SeriesFilter)
  | keepSeries (filter : SeriesFilter)
  | rename (old new : String)
  | seed (random : Nat → UInt64) (metric : String) (steps : Nat) (step : Int)
  | activateRules (files : FileTree) (source : String)
  | evaluateRules (wall : Int) (instant : Option Int)
  | clear

namespace Session

/-- The session after an operation, which has been refused if it has no answer. -/
def orUnchanged {ε α : Type} (session : Session) (after : α → Session) : Except ε α → Session
  | .ok answer => after answer
  | .error _ => session

/-- The session after an operation, whether it is carried out or refused. -/
def perform (session : Session) : Operation → Session
  | .loadText wall text options =>
    session.orUnchanged (·.session) (session.loadText wall text options)
  | .importResponse wall text options =>
    session.orUnchanged (·.session) (session.importResponse wall text options)
  | .dropSeries filter => (session.dropSeries filter).2
  | .keepSeries filter => (session.keepSeries filter).2
  | .rename old new => session.orUnchanged (·.2) (session.rename old new)
  | .seed random metric steps step =>
    session.orUnchanged (·.2) (session.seed random metric steps step)
  | .activateRules files source => session.orUnchanged (·.2) (session.activateRules files source)
  | .evaluateRules wall instant =>
    session.orUnchanged (·.session) (session.evaluateRules (instant.getD (session.now wall)))
  | .clear => session.clear

/-- The session after a run of operations. -/
def after (session : Session) (run : List Operation) : Session := run.foldl perform session

end Session

/-! ### Steps keep the store filed -/

theorem Error.lift_eq_ok_iff {ε α : Type} {kind : ε → Error} {outcome : Except ε α} {value : α} :
    Error.lift kind outcome = .ok value ↔ outcome = .ok value := by
  cases outcome <;> simp [Error.lift]

namespace Rules

/-- A pass that breaks off has only added samples, just as one that comes to its end. -/
theorem filed_passFrom {store : Store} (settings : Query.Settings) (instant : Int)
    (report : PassReport) (h : store.Filed) (rules : List Rule) :
    (passFrom settings instant report store rules).store.Filed := by
  induction rules generalizing store report with
  | nil => exact h
  | cons rule rest ih =>
    rw [passFrom]
    cases rule.evaluate settings store instant with
    | error reason => exact h
    | ok written => exact ih _ (h.addAll written.samples)

end Rules

namespace Session

theorem filed_runPass (session : Session) (rules : RuleSet) (instant : Int)
    (h : session.store.Filed) : (session.runPass rules instant).session.store.Filed :=
  Rules.filed_passFrom session.settings instant .zero h rules.rules

theorem filed_ingest {session : Session} {wall : Int} {document : Document}
    {options : TransferOptions} {answered : Answered IngestReport} (h : session.store.Filed)
    (hingest : session.ingest wall document options = .ok answered) :
    answered.session.store.Filed := by
  unfold ingest at hingest
  obtain ⟨⟨report, store⟩, hload, hpass⟩ := bind_eq_ok_iff.mp hingest
  have hloaded : store.Filed := Edit.filed_load h hload
  cases hrules : session.rules with
  | none =>
    simp only [hrules, Except.ok.injEq] at hpass
    rw [← hpass]
    exact hloaded
  | some rules =>
    simp only [hrules, Except.ok.injEq] at hpass
    rw [← hpass]
    exact filed_runPass { session with store := store } rules _ hloaded

/-- A refusal keeps the session; so it is enough to look at what is carried out. -/
theorem orUnchanged_of {ε α : Type} (property : Session → Prop) {session : Session}
    {after : α → Session} (h : property session) {outcome : Except ε α}
    (hafter : ∀ answer, outcome = .ok answer → property (after answer)) :
    property (session.orUnchanged after outcome) := by
  cases outcome with
  | error failure => exact h
  | ok answer => exact hafter answer rfl

theorem filed_orUnchanged {ε α : Type} {session : Session} {after : α → Session}
    (h : session.store.Filed) {outcome : Except ε α}
    (hafter : ∀ answer, outcome = .ok answer → (after answer).store.Filed) :
    (session.orUnchanged after outcome).store.Filed :=
  orUnchanged_of (·.store.Filed) h hafter

/-- One operation keeps the store filed. -/
theorem filed_perform {session : Session} (h : session.store.Filed) (operation : Operation) :
    (session.perform operation).store.Filed := by
  cases operation with
  | loadText wall text options =>
    refine filed_orUnchanged h fun answered hload => ?_
    obtain ⟨document, -, hingest⟩ := bind_eq_ok_iff.mp hload
    exact filed_ingest h (Error.lift_eq_ok_iff.mp hingest)
  | importResponse wall text options =>
    refine filed_orUnchanged h fun answered hload => ?_
    obtain ⟨document, -, hingest⟩ := bind_eq_ok_iff.mp hload
    exact filed_ingest h (Error.lift_eq_ok_iff.mp hingest)
  | dropSeries filter => exact h.retain _
  | keepSeries filter => exact h.retain _
  | rename old new =>
    refine filed_orUnchanged h fun answer hrename => ?_
    obtain ⟨⟨count, store⟩, hmoved, hanswer⟩ := bind_eq_ok_iff.mp hrename
    rw [Except.ok.injEq] at hanswer
    rw [← hanswer]
    exact Edit.filed_rename h hmoved
  | seed random metric steps step =>
    refine filed_orUnchanged h fun answer hseed => ?_
    obtain ⟨⟨report, store⟩, hseeded, hanswer⟩ := bind_eq_ok_iff.mp hseed
    rw [Except.ok.injEq] at hanswer
    rw [← hanswer]
    exact Edit.filed_seed h hseeded
  | activateRules files source =>
    refine filed_orUnchanged h fun answer hactivate => ?_
    obtain ⟨rules, -, hanswer⟩ := bind_eq_ok_iff.mp hactivate
    rw [Except.ok.injEq] at hanswer
    rw [← hanswer]
    exact h
  | evaluateRules wall instant =>
    refine filed_orUnchanged h fun answered hevaluate => ?_
    unfold evaluateRules at hevaluate
    cases hrules : session.rules with
    | none => simp [hrules] at hevaluate
    | some rules =>
      simp only [hrules, Except.ok.injEq] at hevaluate
      rw [← hevaluate]
      exact filed_runPass session rules _ h
  | clear => exact Store.filed_empty

theorem filed_after {session : Session} (h : session.store.Filed) (run : List Operation) :
    (session.after run).store.Filed := by
  induction run generalizing session with
  | nil => exact h
  | cons operation rest ih => exact ih (filed_perform h operation)

/-- In every session that a run reaches, buckets hold samples of their metric and help stands
beside buckets only.  So the bucket names are the metric names of the samples, and without samples
there are no buckets. -/
theorem filed_after_start (settings : Query.Settings) (clock : Time.Clock)
    (run : List Operation) :
    let store := ((start settings clock).after run).store
    store.Filed ∧ store.metricNames = store.labelValues nameLabel ∧
      (store.isEmpty = true ↔ store.sampleCount = 0) := by
  have hfiled : ((start settings clock).after run).store.Filed := filed_after Store.filed_empty run
  exact ⟨hfiled, hfiled.metricNames_eq, hfiled.isEmpty_iff⟩

end Session

end MetricBench
