import MetricBench.Proofs.Query.RangeSteps

/-!
# The limit of a range query

A range query evaluates its expression at one instant after the other until a step fails or the range
ends.  The number of whole steps in the range is limited, and both ends of the range are evaluated, so
there is one instant more than there are steps.
-/

namespace MetricBench.Query

open Number (fitsSigned fitsSigned_iff greatestSigned ofInt)

/-! ### Instants that a walk evaluates -/

section

variable {α : Type} {outcome : Int → Except QueryError α} {instants : List Int}

/-- The instants at which a walk evaluates: it goes on as long as its steps succeed. -/
def evaluatedInstants (outcome : Int → Except QueryError α) : List Int → List Int
  | [] => []
  | instant :: rest =>
    instant :: match outcome instant with
      | .ok _ => evaluatedInstants outcome rest
      | .error _ => []

/-- The rest of the instants has no part in what the walk comes to. -/
theorem mapM_evaluatedInstants :
    (evaluatedInstants outcome instants).mapM outcome = instants.mapM outcome := by
  induction instants with
  | nil => rfl
  | cons instant rest ih =>
    rw [evaluatedInstants, mapM_cons, mapM_cons]
    cases outcome instant with
    | error failure => rfl
    | ok result =>
      dsimp only
      rw [ih]

theorem evaluatedInstants_prefix : evaluatedInstants outcome instants <+: instants := by
  induction instants with
  | nil => exact List.nil_prefix
  | cons instant rest ih =>
    rw [evaluatedInstants, List.cons_prefix_cons]
    cases outcome instant with
    | error failure => exact ⟨rfl, List.nil_prefix⟩
    | ok result => exact ⟨rfl, ih⟩

/-- A walk that succeeds has evaluated at all instants. -/
theorem evaluatedInstants_eq_self {results : List α} (h : instants.mapM outcome = .ok results) :
    evaluatedInstants outcome instants = instants := by
  induction instants generalizing results with
  | nil => rfl
  | cons instant rest ih =>
    rw [mapM_cons] at h
    obtain ⟨result, hinstant, hrest⟩ := bind_eq_ok_iff.mp h
    obtain ⟨others, hothers, -⟩ := bind_eq_ok_iff.mp hrest
    rw [evaluatedInstants, hinstant]
    exact congrArg (instant :: ·) (ih hothers)

end

/-! ### Ranges that are accepted -/

section

variable {start stop step : Int}

theorem stepInstants_of_accepted (hstart : fitsSigned start = true) (hstop : fitsSigned stop = true)
    (haccepted : checkRange start stop step = .ok ()) :
    stepInstants start stop step =
      (List.range (stepCount start stop step)).map fun (index : Nat) => start + index * step := by
  obtain ⟨hstep, hrange, -⟩ := checkRange_eq_ok_iff.mp haccepted
  rw [fitsSigned_iff] at hstart hstop
  exact stepInstants_eq hstep hstart.1 hstop.2 (lt_stepCount_iff hstep hrange)

theorem of_mem_stepInstants (hstart : fitsSigned start = true) (hstop : fitsSigned stop = true)
    (haccepted : checkRange start stop step = .ok ()) {instant : Int}
    (h : instant ∈ stepInstants start stop step) :
    start ≤ instant ∧ instant ≤ stop ∧ fitsSigned instant = true := by
  obtain ⟨hstep, hrange, -⟩ := checkRange_eq_ok_iff.mp haccepted
  rw [stepInstants_of_accepted hstart hstop haccepted, List.mem_map] at h
  obtain ⟨index, hindex, rfl⟩ := h
  have hbefore := (lt_stepCount_iff hstep hrange index).mp (List.mem_range.mp hindex)
  have hafter : 0 ≤ index * step := Int.mul_nonneg (Int.natCast_nonneg index) (Int.le_of_lt hstep)
  rw [fitsSigned_iff] at hstart hstop ⊢
  omega

/-- There is one instant more than there are whole steps in the range. -/
theorem cast_stepCount (hstep : 0 < step) (hrange : start ≤ stop) :
    (stepCount start stop step : Int) = (stop - start) / step + 1 := by
  have hquotient : 0 ≤ (stop - start) / step := Int.ediv_nonneg (by omega) (by omega)
  rw [stepCount, Int.toNat_of_nonneg (by omega)]

/-- The walk leaves the range with the step after its last one. -/
theorem lt_start_add_stepCount (hstep : 0 < step) (hrange : start ≤ stop) :
    stop < start + stepCount start stop step * step :=
  Int.not_le.mp fun hwithin =>
    Nat.lt_irrefl _ ((lt_stepCount_iff hstep hrange (stepCount start stop step)).mpr hwithin)

end

/-- A range query whose range is accepted goes from the start in exact steps through signed words that
lie in the range, and its answer comes from what it evaluates there.  When it succeeds it has evaluated
once more than the range has whole steps, and the next step would leave the range.  So it stays within
the limit, except that it evaluates once more than the limit says when the range has as many whole steps
as the limit allows. -/
theorem range_steps_limited (settings : Settings) (store : Store) {query : String} {expr : Expr}
    {start stop step : Int} (hstart : fitsSigned start = true) (hstop : fitsSigned stop = true)
    (haccepted : checkRange start stop step = .ok ()) (hparse : parse query = .ok expr) :
    let outcome (instant : Int) :=
      (expr.eval ⟨store, settings.lookbackMillis, instant, start, stop⟩).bind (stepPoints instant)
    let evaluated := evaluatedInstants outcome (stepInstants start stop step)
    let result := rangeQuery settings store query start stop step
    result = (evaluated.mapM outcome >>= fun points => .ok (gather points.flatten)) ∧
      evaluated = ((List.range evaluated.length).map fun (index : Nat) => start + index * step) ∧
      (∀ instant ∈ evaluated, start ≤ instant ∧ instant ≤ stop ∧ fitsSigned instant = true) ∧
      (∀ series, result = .ok series →
        (evaluated.length : Int) = (stop - start) / step + 1 ∧
          stop < start + evaluated.length * step) ∧
      ((stop - start) / step < maxSteps → evaluated.length ≤ maxSteps) ∧
      evaluated.length ≤ maxSteps + 1 := by
  intro outcome evaluated result
  obtain ⟨hstep, hrange, -, hlimit⟩ := checkRange_eq_ok_iff.mp haccepted
  have hresult : result = _ := rangeQuery_of_parse settings store haccepted hparse
  have hinstants := stepInstants_of_accepted hstart hstop haccepted
  have hcount := cast_stepCount hstep hrange
  have hinitial : evaluated <+: stepInstants start stop step := evaluatedInstants_prefix
  have hlength : evaluated.length ≤ stepCount start stop step := by
    have hle := hinitial.length_le
    rwa [hinstants, List.length_map, List.length_range] at hle
  refine ⟨?answer, ?exact, ?within, ?whole, fun hfewer => ?below, ?above⟩
  case answer =>
    rw [hresult]
    exact congrArg (· >>= _) mapM_evaluatedInstants.symm
  case exact =>
    have htaken := List.prefix_iff_eq_take.mp hinitial
    rw [hinstants, ← List.map_take, List.take_range, Nat.min_eq_left hlength] at htaken
    exact htaken
  case within =>
    intro instant hinstant
    exact of_mem_stepInstants hstart hstop haccepted (hinitial.subset hinstant)
  case whole =>
    intro series hseries
    rw [hresult] at hseries
    obtain ⟨points, hpoints, -⟩ := bind_eq_ok_iff.mp hseries
    have hall : evaluated = stepInstants start stop step := evaluatedInstants_eq_self hpoints
    rw [hall, hinstants, List.length_map, List.length_range]
    exact ⟨hcount, lt_start_add_stepCount hstep hrange⟩
  case below => omega
  case above => omega

/-! ### The time at each step -/

/-- The seconds of an instant, as `time()` gives them. -/
def secondsAt (instant : Int) : Point := ⟨instant, ofInt instant / 1000.0⟩

theorem parse_time : parse "time()" = .ok (.call .time []) := by rfl

/-- The time has a point at every step of a range that is accepted. -/
theorem rangeQuery_time (settings : Settings) (store : Store) {start stop step : Int}
    (haccepted : checkRange start stop step = .ok ()) :
    rangeQuery settings store "time()" start stop step =
      .ok (gather ((stepInstants start stop step).map fun instant =>
        (.empty, secondsAt instant))) := by
  have houtcome : (stepInstants start stop step).mapM (fun instant =>
      ((Expr.call .time []).eval ⟨store, settings.lookbackMillis, instant, start, stop⟩).bind
        (stepPoints instant)) =
        .ok ((stepInstants start stop step).map fun instant => [(.empty, secondsAt instant)]) := by
    rw [mapM_eq_ok_iff, List.map_map]
    rfl
  rw [rangeQuery_of_parse settings store haccepted parse_time, houtcome]
  refine congrArg (fun points => Except.ok (gather points)) ?_
  rw [← List.flatMap_def, List.map_eq_flatMap]

/-- The last minute that signed words can tell has three steps, half a minute apart. -/
theorem time_steps_to_greatest :
    let start := greatestSigned - 60000
    let outcome (instant : Int) :=
      ((Expr.call .time []).eval ⟨.empty, Settings.standard.lookbackMillis, instant, start,
        greatestSigned⟩).bind (stepPoints instant)
    fitsSigned start = true ∧ fitsSigned greatestSigned = true ∧
      checkRange start greatestSigned 30000 = .ok () ∧ parse "time()" = .ok (.call .time []) ∧
      evaluatedInstants outcome (stepInstants start greatestSigned 30000) =
        [greatestSigned - 60000, greatestSigned - 30000, greatestSigned] := by
  intro start outcome
  have hstart : fitsSigned start = true := by decide
  have hstop : fitsSigned greatestSigned = true := by decide
  have haccepted : checkRange start greatestSigned 30000 = .ok () := by rfl
  obtain ⟨-, hexact, -, hwhole, -⟩ :=
    range_steps_limited .standard .empty hstart hstop haccepted parse_time
  have hlength : (evaluatedInstants outcome (stepInstants start greatestSigned 30000)).length = 3 :=
    Int.ofNat.inj (hwhole _ (rangeQuery_time .standard .empty haccepted)).1
  refine ⟨hstart, hstop, haccepted, parse_time, hexact.trans ?_⟩
  rw [hlength]
  rfl

/-- A range of as many steps as the limit allows is accepted and gives one point more. -/
theorem time_over_limit :
    checkRange 0 11000 1 = .ok () ∧ maxSteps = 11000 ∧
      ∃ series one, rangeQuery .standard .empty "time()" 0 11000 1 = .ok series ∧ one ∈ series ∧
        one.points.length = maxSteps + 1 := by
  have haccepted : checkRange 0 11000 1 = .ok () := by rfl
  have hinstants := stepInstants_of_accepted (by rfl) (by rfl) haccepted
  let stamped := (stepInstants 0 11000 1).map fun instant => ((.empty : Labels), secondsAt instant)
  have hall : (stamped.filter fun point => point.1 = .empty) = stamped := by
    rw [List.filter_eq_self, List.forall_mem_map]
    exact fun _ _ => decide_eq_true rfl
  have hlength : (stamped.map (·.2)).length = maxSteps + 1 := by
    rw [List.length_map, List.length_map, hinstants, List.length_map, List.length_range]
    rfl
  have hseries : (⟨.empty, stamped.map (·.2)⟩ : Series) ∈ gather stamped := by
    refine mem_gather_iff.mpr ⟨List.ne_nil_of_length_pos (hlength ▸ Nat.succ_pos _), ?_⟩
    rw [hall]
  exact ⟨haccepted, rfl, _, _, rangeQuery_time .standard .empty haccepted, hseries, hlength⟩

end MetricBench.Query
