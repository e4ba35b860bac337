import MetricBench.Proofs.Outcome
import MetricBench.Work

/-!
# Work that changes all or nothing

Work in place has no rollback.  It leaves the state alone when it breaks off because what can break
off comes before what changes the state: first steady steps, then a step that changes all or
nothing, then sure steps, which cannot break off.
-/

namespace MetricBench.Work

variable {ε δ σ τ α β : Type}

/-! ### Starting -/

@[simp]
theorem start_pure (value : α) (state : σ) :
    (pure value : Work ε σ α).start state = (.ok value, state) := rfl

@[simp]
theorem start_throw (failure : ε) (state : σ) :
    (throw failure : Work ε σ α).start state = (.error failure, state) := rfl

@[simp]
theorem start_get (state : σ) : (get : Work ε σ σ).start state = (.ok state, state) := rfl

@[simp]
theorem start_modify (change : σ → σ) (state : σ) :
    (modify change : Work ε σ PUnit).start state = (.ok ⟨⟩, change state) := rfl

@[simp]
theorem start_settled (outcome : Except ε α) (state : σ) :
    (settled outcome : Work ε σ α).start state = (outcome, state) := rfl

@[simp]
theorem start_within (kind : ε → δ) (part : τ → σ) (replace : σ → τ → τ) (work : Work ε σ α)
    (whole : τ) :
    (work.within kind part replace).start whole =
      ((work.start (part whole)).1.mapError kind,
        replace (work.start (part whole)).2 whole) := rfl

@[simp]
theorem start_attempt (work : Work ε σ α) (state : σ) :
    (work.attempt : Work δ σ (Except ε α)).start state =
      (.ok (work.start state).1, (work.start state).2) := rfl

/-- A chain goes on where its first step has an answer, and ends where it breaks off. -/
@[simp]
theorem start_bind (first : Work ε σ α) (next : α → Work ε σ β) (state : σ) :
    (first >>= next).start state =
      match first.start state with
      | (.ok value, later) => (next value).start later
      | (.error failure, later) => (.error failure, later) := by
  rw [start, start, ExceptT.run_bind, StateT.run_bind]
  cases StateT.run (ExceptT.run first) state with
  | mk outcome later => cases outcome <;> rfl

/-- A chain breaks off in its first step or in what follows an answer of the first step. -/
theorem start_bind_eq_error {first : Work ε σ α} {next : α → Work ε σ β} {state : σ} {failure : ε}
    (h : ((first >>= next).start state).1 = .error failure) :
    ((first.start state).1 = .error failure ∧
        ((first >>= next).start state).2 = (first.start state).2) ∨
      ∃ value, (first.start state).1 = .ok value ∧
        (first >>= next).start state = (next value).start (first.start state).2 := by
  rw [start_bind] at h ⊢
  rcases hstart : first.start state with ⟨outcome, later⟩
  rw [hstart] at h
  cases outcome with
  | ok value => exact .inr ⟨value, rfl, rfl⟩
  | error reason =>
    cases h
    exact .inl ⟨rfl, rfl⟩

/-- Changes made for one element after the other fold into one. -/
theorem start_forM_modify (change : α → σ → σ) (elements : List α) (state : σ) :
    (elements.forM fun element => (modify (change element) : Work ε σ PUnit)).start state =
      (.ok ⟨⟩, elements.foldl (fun state element => change element state) state) := by
  induction elements generalizing state with
  | nil => rfl
  | cons element rest ih =>
    rw [List.forM, start_bind, start_modify]
    exact ih (change element state)

/-! ### Breaking off -/

/-- Work that never changes the state, and breaks off with errors of one kind only. -/
def Steady (kind : ε → Prop) (work : Work ε σ α) : Prop :=
  ∀ state, (work.start state).2 = state ∧ FailsAs kind (work.start state).1

/-- Work that never breaks off. -/
def Sure (work : Work ε σ α) : Prop := ∀ state, ∃ value, (work.start state).1 = .ok value

/-- Work that breaks off only so that the error, the state before and the state that is left are
related as `leaves` says. -/
def BreaksOff (leaves : ε → σ → σ → Prop) (work : Work ε σ α) : Prop :=
  ∀ state failure, (work.start state).1 = .error failure → leaves failure state (work.start state).2

/-- Work that leaves the state as it was when it breaks off, with errors of one kind only. -/
def AllOrNothing (kind : ε → Prop) : Work ε σ α → Prop :=
  BreaksOff fun failure before after => kind failure ∧ after = before

section

variable {kind : ε → Prop} {leaves : ε → σ → σ → Prop}

theorem steady_pure (value : α) : Steady kind (pure value : Work ε σ α) :=
  fun _ => ⟨rfl, failsAs_ok value⟩

theorem steady_get : Steady kind (get : Work ε σ σ) := fun state => ⟨rfl, failsAs_ok state⟩

theorem steady_settled {outcome : Except ε α} (h : FailsAs kind outcome) :
    Steady kind (settled outcome : Work ε σ α) := fun _ => ⟨rfl, h⟩

theorem steady_throw {failure : ε} (h : kind failure) : Steady kind (throw failure : Work ε σ α) :=
  fun _ => ⟨rfl, failsAs_error h⟩

theorem sure_pure (value : α) : Sure (pure value : Work ε σ α) := fun _ => ⟨value, rfl⟩

theorem sure_get : Sure (get : Work ε σ σ) := fun state => ⟨state, rfl⟩

theorem sure_modify (change : σ → σ) : Sure (modify change : Work ε σ PUnit) := fun _ => ⟨⟨⟩, rfl⟩

theorem sure_attempt (work : Work ε σ α) : Sure (work.attempt : Work δ σ (Except ε α)) :=
  fun state => ⟨(work.start state).1, rfl⟩

theorem Sure.bind {first : Work ε σ α} {next : α → Work ε σ β} (hfirst : Sure first)
    (hnext : ∀ value, Sure (next value)) : Sure (first >>= next) := by
  intro state
  obtain ⟨value, hvalue⟩ := hfirst state
  rw [start_bind]
  rcases hstart : first.start state with ⟨outcome, later⟩
  rw [hstart] at hvalue
  dsimp only at hvalue
  rw [hvalue]
  exact hnext value later

theorem Steady.bind {first : Work ε σ α} {next : α → Work ε σ β} (hfirst : Steady kind first)
    (hnext : ∀ value, Steady kind (next value)) : Steady kind (first >>= next) := by
  intro state
  obtain ⟨hlater, hfails⟩ := hfirst state
  rw [start_bind]
  rcases hstart : first.start state with ⟨outcome, later⟩
  rw [hstart] at hlater hfails
  dsimp only at hlater hfails
  subst hlater
  cases outcome with
  | ok value => exact hnext value later
  | error reason =>
    refine ⟨rfl, fun failure hfailure => hfails failure ?_⟩
    cases hfailure
    rfl

theorem Steady.map {work : Work ε σ α} (h : Steady kind work) (change : α → β) :
    Steady kind (change <$> work) := by
  rw [map_eq_pure_bind]
  exact h.bind fun value => steady_pure (change value)

/-- What breaks off after steady steps finds the state as it was before them. -/
theorem BreaksOff.after_steady {first : Work ε σ α} {next : α → Work ε σ β}
    (hsame : ∀ failure state, kind failure → leaves failure state state)
    (hfirst : Steady kind first) (hnext : ∀ value, BreaksOff leaves (next value)) :
    BreaksOff leaves (first >>= next) := by
  intro state failure hfailure
  obtain ⟨hlater, hfails⟩ := hfirst state
  rcases start_bind_eq_error hfailure with ⟨hbroken, hstate⟩ | ⟨value, hvalue, hstart⟩
  · rw [hstate, hlater]
    exact hsame failure state (hfails failure hbroken)
  · rw [hstart, hlater] at hfailure ⊢
    exact hnext value state failure hfailure

/-- Sure steps may follow a change. -/
theorem BreaksOff.before_sure {first : Work ε σ α} {next : α → Work ε σ β}
    (hfirst : BreaksOff leaves first) (hnext : ∀ value, Sure (next value)) :
    BreaksOff leaves (first >>= next) := by
  intro state failure hfailure
  rcases start_bind_eq_error hfailure with ⟨hbroken, hstate⟩ | ⟨value, hvalue, hstart⟩
  · rw [hstate]
    exact hfirst state failure hbroken
  · rw [hstart] at hfailure
    obtain ⟨answer, hanswer⟩ := hnext value (first.start state).2
    rw [hanswer] at hfailure
    cases hfailure

theorem Steady.allOrNothing {work : Work ε σ α} (h : Steady kind work) : AllOrNothing kind work :=
  fun state failure hfailure => ⟨(h state).2 failure hfailure, (h state).1⟩

theorem Sure.allOrNothing {work : Work ε σ α} (h : Sure work) : AllOrNothing kind work := by
  intro state failure hfailure
  obtain ⟨value, hvalue⟩ := h state
  rw [hvalue] at hfailure
  cases hfailure

theorem AllOrNothing.after_steady {first : Work ε σ α} {next : α → Work ε σ β}
    (hfirst : Steady kind first) (hnext : ∀ value, AllOrNothing kind (next value)) :
    AllOrNothing kind (first >>= next) :=
  BreaksOff.after_steady (fun _ _ hkind => ⟨hkind, rfl⟩) hfirst hnext

theorem AllOrNothing.before_sure {first : Work ε σ α} {next : α → Work ε σ β}
    (hfirst : AllOrNothing kind first) (hnext : ∀ value, Sure (next value)) :
    AllOrNothing kind (first >>= next) :=
  BreaksOff.before_sure hfirst hnext

/-- Work on a part changes all or nothing of the whole. -/
theorem AllOrNothing.within {work : Work ε σ α} (h : AllOrNothing kind work) {outer : δ → Prop}
    {name : ε → δ} (hkind : ∀ failure, kind failure → outer (name failure)) {part : τ → σ}
    {replace : σ → τ → τ} (hreplace : ∀ whole, replace (part whole) whole = whole) :
    AllOrNothing outer (work.within name part replace) := by
  intro whole failure hfailure
  rw [start_within] at hfailure ⊢
  cases houtcome : (work.start (part whole)).1 with
  | ok value =>
    rw [houtcome] at hfailure
    cases hfailure
  | error reason =>
    obtain ⟨hreason, hstate⟩ := h _ reason houtcome
    rw [houtcome] at hfailure
    dsimp only [Except.mapError] at hfailure ⊢
    rw [Except.error.injEq] at hfailure
    rw [← hfailure, hstate]
    exact ⟨hkind reason hreason, hreplace whole⟩

theorem Sure.within {work : Work ε σ α} (h : Sure work) (name : ε → δ) (part : τ → σ)
    (replace : σ → τ → τ) : Sure (work.within name part replace) := by
  intro whole
  obtain ⟨value, hvalue⟩ := h (part whole)
  refine ⟨value, ?_⟩
  rw [start_within, hvalue]
  rfl

end

end MetricBench.Work
