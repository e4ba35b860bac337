import Mathlib

/-!
# Outcomes of computations that can fail

A chain of computations succeeds when each of them does, and fails with the failure of the first
one that does not.
-/

namespace MetricBench

variable {ε α β : Type}

theorem bind_eq_ok_iff {first : Except ε α} {next : α → Except ε β} {result : β} :
    (first >>= next) = .ok result ↔ ∃ value, first = .ok value ∧ next value = .ok result := by
  cases first <;> simp [bind, Except.bind]

theorem bind_eq_error_iff {first : Except ε α} {next : α → Except ε β} {failure : ε} :
    (first >>= next) = .error failure ↔
      first = .error failure ∨ ∃ value, first = .ok value ∧ next value = .error failure := by
  cases first <;> simp [bind, Except.bind]

theorem exists_bind_ok_iff {first : Except ε α} {next : α → β} :
    (∃ result, (first >>= fun value => .ok (next value)) = .ok result) ↔
      ∃ value, first = .ok value := by
  cases first <;> simp [bind, Except.bind]

theorem map_eq_ok_iff {outcome : Except ε α} {change : α → β} {result : β} :
    outcome.map change = .ok result ↔ ∃ value, outcome = .ok value ∧ change value = result := by
  cases outcome <;> simp [Except.map]

theorem map_eq_error_iff {outcome : Except ε α} {change : α → β} {failure : ε} :
    outcome.map change = .error failure ↔ outcome = .error failure := by
  cases outcome <;> simp [Except.map]

theorem mapError_eq_ok_iff {δ : Type} {outcome : Except ε α} {change : ε → δ} {result : α} :
    outcome.mapError change = .ok result ↔ outcome = .ok result := by
  cases outcome <;> simp [Except.mapError]

theorem mapM_cons (action : α → Except ε β) (head : α) (rest : List α) :
    (head :: rest).mapM action =
      action head >>= fun result => rest.mapM action >>= fun results => .ok (result :: results) := by
  rw [List.mapM_cons]
  rfl

/-- A walk succeeds with the list of what each of its steps succeeds with. -/
theorem mapM_eq_ok_iff {action : α → Except ε β} {elements : List α} {results : List β} :
    elements.mapM action = .ok results ↔ elements.map action = results.map .ok := by
  induction elements generalizing results with
  | nil => cases results <;> simp [pure, Except.pure]
  | cons head rest ih =>
    rw [mapM_cons, bind_eq_ok_iff]
    constructor
    · rintro ⟨result, hhead, hrest⟩
      obtain ⟨others, hothers, heq⟩ := bind_eq_ok_iff.mp hrest
      rw [Except.ok.injEq] at heq
      rw [← heq, List.map_cons, List.map_cons, hhead, ih.mp hothers]
    · intro h
      cases results with
      | nil => simp at h
      | cons result others =>
        rw [List.map_cons, List.map_cons, List.cons.injEq] at h
        exact ⟨result, h.1, bind_eq_ok_iff.mpr ⟨others, ih.mpr h.2, rfl⟩⟩

/-- A walk succeeds exactly when all its steps do. -/
theorem exists_mapM_eq_ok_iff {action : α → Except ε β} {elements : List α} :
    (∃ results, elements.mapM action = .ok results) ↔
      ∀ element ∈ elements, ∃ result, action element = .ok result := by
  induction elements with
  | nil => simp [pure, Except.pure]
  | cons head rest ih =>
    rw [List.forall_mem_cons, ← ih]
    simp only [mapM_cons, bind_eq_ok_iff]
    constructor
    · rintro ⟨_, result, hhead, others, hrest, -⟩
      exact ⟨⟨result, hhead⟩, others, hrest⟩
    · rintro ⟨⟨result, hhead⟩, others, hrest⟩
      exact ⟨result :: others, result, hhead, others, hrest, rfl⟩

/-- A walk fails as its first failing step does. -/
theorem mapM_eq_error {action : α → Except ε β} {before after : List α} {element : α} {failure : ε}
    (hbefore : ∀ earlier ∈ before, ∃ result, action earlier = .ok result)
    (hfails : action element = .error failure) :
    (before ++ element :: after).mapM action = .error failure := by
  induction before with
  | nil =>
    rw [List.nil_append, mapM_cons, hfails]
    rfl
  | cons head rest ih =>
    obtain ⟨⟨result, hhead⟩, hrest⟩ := List.forall_mem_cons.mp hbefore
    rw [List.cons_append, mapM_cons, hhead]
    exact bind_eq_error_iff.mpr (.inr ⟨result, rfl, bind_eq_error_iff.mpr (.inl (ih hrest))⟩)

/-! ### Kinds of failures -/

/-- Whether an outcome is a failure of the given kind, if it is one at all. -/
def FailsAs (kind : ε → Prop) (outcome : Except ε α) : Prop :=
  ∀ failure, outcome = .error failure → kind failure

theorem failsAs_ok {kind : ε → Prop} (value : α) : FailsAs kind (.ok value) :=
  fun _ h => by cases h

theorem failsAs_error {kind : ε → Prop} {failure : ε} (h : kind failure) :
    FailsAs kind (.error failure : Except ε α) := by
  intro other hother
  cases hother
  exact h

theorem FailsAs.bind {kind : ε → Prop} {first : Except ε α} {next : α → Except ε β}
    (hfirst : FailsAs kind first) (hnext : ∀ value, FailsAs kind (next value)) :
    FailsAs kind (first >>= next) := by
  intro failure hfailure
  rcases bind_eq_error_iff.mp hfailure with h | ⟨value, -, h⟩
  · exact hfirst failure h
  · exact hnext value failure h

theorem FailsAs.map {kind : ε → Prop} {outcome : Except ε α} (h : FailsAs kind outcome)
    (change : α → β) : FailsAs kind (outcome.map change) := by
  intro failure hfailure
  cases outcome with
  | ok value => cases hfailure
  | error reason =>
    cases hfailure
    exact h _ rfl

theorem FailsAs.mapM {kind : ε → Prop} {action : α → Except ε β} (elements : List α)
    (h : ∀ element, FailsAs kind (action element)) : FailsAs kind (elements.mapM action) := by
  induction elements with
  | nil => exact failsAs_ok []
  | cons head rest ih =>
    rw [mapM_cons]
    exact (h head).bind fun result => ih.bind fun results => failsAs_ok (result :: results)

/-! ### Kinds of results -/

/-- Whether an outcome is a result of the given kind, if it is one at all. -/
def Yields (kind : α → Prop) (outcome : Except ε α) : Prop :=
  ∀ result, outcome = .ok result → kind result

theorem yields_self (outcome : Except ε α) : Yields (fun result => outcome = .ok result) outcome :=
  fun _ h => h

theorem yields_ok {kind : α → Prop} {result : α} (h : kind result) :
    Yields kind (.ok result : Except ε α) := by
  intro other hother
  cases hother
  exact h

theorem yields_error (kind : α → Prop) (failure : ε) : Yields kind (.error failure) :=
  fun _ h => by cases h

theorem Yields.bind {before : α → Prop} {kind : β → Prop} {first : Except ε α}
    {next : α → Except ε β} (hfirst : Yields before first)
    (hnext : ∀ result, before result → Yields kind (next result)) :
    Yields kind (first >>= next) := by
  intro result hresult
  obtain ⟨middle, hmiddle, hlast⟩ := bind_eq_ok_iff.mp hresult
  exact hnext middle (hfirst middle hmiddle) result hlast

theorem Yields.imp {kind other : α → Prop} {outcome : Except ε α} (h : Yields kind outcome)
    (himp : ∀ result, kind result → other result) : Yields other outcome :=
  fun result hresult => himp result (h result hresult)

theorem Yields.and {kind other : α → Prop} {outcome : Except ε α} (h : Yields kind outcome)
    (hother : Yields other outcome) :
    Yields (fun result => kind result ∧ other result) outcome :=
  fun result hresult => ⟨h result hresult, hother result hresult⟩

/-- What comes of a chain may depend on its last step alone. -/
theorem yields_bind {kind : β → Prop} (first : Except ε α) {next : α → Except ε β}
    (hnext : ∀ result, Yields kind (next result)) : Yields kind (first >>= next) := by
  have hfirst : Yields (fun _ => True) first := fun _ _ => trivial
  exact hfirst.bind fun result _ => hnext result

theorem Yields.map {before : α → Prop} {kind : β → Prop} {outcome : Except ε α}
    (h : Yields before outcome) {change : α → β}
    (hchange : ∀ result, before result → kind (change result)) :
    Yields kind (outcome.map change) := by
  cases outcome with
  | error failure => exact yields_error kind failure
  | ok result => exact yields_ok (hchange result (h result rfl))

theorem Yields.mapError {ε' : Type} {kind : α → Prop} {outcome : Except ε α}
    (h : Yields kind outcome) (change : ε → ε') : Yields kind (outcome.mapError change) := by
  cases outcome with
  | error failure => exact yields_error kind _
  | ok result => exact yields_ok (h result rfl)

theorem Yields.mapM {kind : β → Prop} {action : α → Except ε β} (elements : List α)
    (h : ∀ element, Yields kind (action element)) :
    Yields (fun results => ∀ result ∈ results, kind result) (elements.mapM action) := by
  induction elements with
  | nil => exact yields_ok (List.forall_mem_nil _)
  | cons head rest ih =>
    rw [mapM_cons]
    exact (h head).bind fun result hresult => ih.bind fun results hresults =>
      yields_ok (List.forall_mem_cons.mpr ⟨hresult, hresults⟩)

/-! ### Chains in step -/

/-- Chains agree when what follows does for the value that the first computation has. -/
theorem bind_congr_of_ok {first : Except ε α} {next other : α → Except ε β}
    (h : ∀ value, first = .ok value → next value = other value) :
    (first >>= next) = (first >>= other) := by
  cases first with
  | error failure => rfl
  | ok value => exact h value rfl

/-- What a chain makes of its first result may be changed at once. -/
theorem bind_eq_map_bind {γ : Type} {first : Except ε α} {next : α → Except ε β} {after : β → γ}
    {other : α → Except ε γ}
    (h : ∀ value, first = .ok value → other value = (next value).map after) :
    (first >>= other) = (first >>= next).map after := by
  cases first with
  | error failure => rfl
  | ok value => exact h value rfl

/-- Two chains go together step by step when their first results do and so does what follows. -/
theorem map_bind_eq_map_bind {γ δ : Type} {first : Except ε α} {change : α → γ}
    {next : α → Except ε β} {after : β → δ} {other : γ → Except ε δ}
    (h : ∀ value, first = .ok value → other (change value) = (next value).map after) :
    (first.map change >>= other) = (first >>= next).map after := by
  cases first with
  | error failure => rfl
  | ok value => exact h value rfl

end MetricBench
