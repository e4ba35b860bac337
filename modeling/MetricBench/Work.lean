/-!
# Work in place

Work changes a state step by step and may break off with an error.  What it has changed by then
stays changed; nothing is rolled back.
-/

namespace MetricBench

/-- Work on a state of type `σ` that gives an answer or breaks off with an error of type `ε`. -/
abbrev Work (ε σ α : Type) := ExceptT ε (StateM σ) α

namespace Work

variable {ε δ σ τ α : Type}

/-- What work that is started in a state comes to, and the state that it leaves. -/
def start (work : Work ε σ α) (state : σ) : Except ε α × σ :=
  (StateT.run (ExceptT.run work) state).run

/-- Work that changes nothing and comes to the given outcome. -/
def settled (outcome : Except ε α) : Work ε σ α := ExceptT.mk fun state => (outcome, state)

/-- Work on a part of a larger state; `kind` says what its errors are there. -/
def within (kind : ε → δ) (part : τ → σ) (replace : σ → τ → τ) (work : Work ε σ α) : Work δ τ α :=
  ExceptT.mk fun whole =>
    let (outcome, state) := work.start (part whole)
    (outcome.mapError kind, replace state whole)

/-- Work whose breaking off is an answer like any other. -/
def attempt (work : Work ε σ α) : Work δ σ (Except ε α) :=
  ExceptT.mk fun state =>
    let (outcome, later) := work.start state
    (.ok outcome, later)

end Work

end MetricBench
