import MetricBench.Proofs.Outcome
import MetricBench.Proofs.Query.Selectors
import MetricBench.Proofs.SortedMap
import MetricBench.Query.Engine

/-!
# Range queries as instant queries

A range query walks over the instants of its range.  For an expression that ignores the range, what
it finds at a step is what an instant query finds there; the series are the elements of the steps
by their labels, and the first step that fails decides the failure.
-/

namespace MetricBench.Query

open Number (fitsSigned fitsSigned_iff greatestSigned leastSigned)

/-! ### The walk over the instants -/

theorem checkRange_eq_ok_iff {start stop step : Int} :
    checkRange start stop step = .ok () ↔
      0 < step ∧ start ≤ stop ∧ stop - start ≤ greatestSigned ∧
        (stop - start) / step ≤ maxSteps := by
  unfold checkRange
  split_ifs <;> simp <;> omega

theorem instant_succ (start step : Int) (index : Nat) :
    start + (index + 1 : Nat) * step = start + step + index * step := by
  push_cast
  ring

/-- The walk visits the instants of the range one after the other.  It never has to end early, as an
instant within the range fits a signed word. -/
theorem stepInstants_eq {start stop step : Int} {count : Nat} (hstep : 0 < step)
    (hstart : leastSigned ≤ start) (hstop : stop ≤ greatestSigned)
    (hcount : ∀ index : Nat, index < count ↔ start + index * step ≤ stop) :
    stepInstants start stop step =
      (List.range count).map fun (index : Nat) => start + index * step := by
  induction count generalizing start with
  | zero =>
    have hend : ¬ start ≤ stop := by simpa using hcount 0
    rw [stepInstants, if_neg (fun h => hend h.1)]
    rfl
  | succ count ih =>
    have hhead : start ≤ stop := by simpa using hcount 0
    have hnext : ∀ index : Nat, index < count ↔ start + step + index * step ≤ stop := by
      intro index
      rw [← instant_succ, ← hcount (index + 1)]
      omega
    rw [stepInstants, if_pos ⟨hhead, hstep⟩, List.range_succ_eq_map, List.map_cons, List.map_map]
    congr 1
    · simp
    · split_ifs with hfits
      · rw [ih (by omega) hnext]
        exact List.map_congr_left fun index _ => (instant_succ start step index).symm
      · -- past the greatest word there is no instant of the range left
        have hpast : ¬ start + step ≤ stop := by
          rw [fitsSigned_iff, not_and] at hfits
          intro hle
          exact hfits (by omega) (by omega)
        have hnone : count = 0 := by
          by_contra hne
          exact hpast (by simpa using (hnext 0).mp (by omega))
        simp [hnone]

/-- The number of instants of a range. -/
def stepCount (start stop step : Int) : Nat := ((stop - start) / step + 1).toNat

theorem lt_stepCount_iff {start stop step : Int} (hstep : 0 < step) (hrange : start ≤ stop)
    (index : Nat) : index < stepCount start stop step ↔ start + index * step ≤ stop := by
  have hcount : index < stepCount start stop step ↔ (index : Int) ≤ (stop - start) / step := by
    have hquotient : 0 ≤ (stop - start) / step := Int.ediv_nonneg (by omega) (by omega)
    unfold stepCount
    omega
  rw [hcount, Int.le_ediv_iff_mul_le hstep]
  omega

/-! ### The series of labelled points -/

/-- The series that points are gathered into hold the points of their label set in order, and there
is no series without points. -/
theorem mem_gather_iff {points : List (Labels × Point)} {series : Series} :
    series ∈ gather points ↔
      series.points ≠ [] ∧
        series.points = (points.filter fun point => point.1 = series.labels).map (·.2) := by
  obtain ⟨labels, found⟩ := series
  simp only [gather, List.mem_map, Prod.exists, Series.mk.injEq, SortedMap.mem_entries_iff,
    SortedMap.find?_groupBy]
  constructor
  · rintro ⟨key, members, hmembers, rfl, rfl⟩
    split_ifs at hmembers with hnone
    rw [Option.some.injEq] at hmembers
    subst hmembers
    exact ⟨by simpa using hnone, rfl⟩
  · rintro ⟨hne, hpoints⟩
    have hsome : (points.filter fun point => point.1 = labels) ≠ [] := by
      intro hnil
      rw [hnil] at hpoints
      exact hne hpoints
    exact ⟨labels, _, if_neg hsome, rfl, hpoints.symm⟩

theorem strictlyIncreasing_gather (points : List (Labels × Point)) :
    SortedMap.StrictlyIncreasing ((gather points).map (·.labels)) := by
  have hlabels : (gather points).map (·.labels) =
      (SortedMap.groupBy (fun point : Labels × Point => point.1) points).keys := by
    simp [gather, SortedMap.keys]
  rw [hlabels]
  exact SortedMap.strictlyIncreasing_keys _

/-! ### Steps -/

/-- The points that the answer to an instant query gives to the series of a label set: the values of
the elements with these labels, in the order of the vector.  A scalar counts as one element without
labels. -/
def pointsOf (labels : Labels) (instant : Int) : Except QueryError Value → List Point
  | .ok (.vector samples) =>
    (samples.filter fun sample => sample.labels = labels).map fun sample => ⟨instant, sample.value⟩
  | .ok (.scalar number) => if labels = .empty then [⟨instant, number⟩] else []
  | _ => []

/-- Why a range query cannot go on after the answer at a step: the failure of the answer, or that
it is neither a vector nor a scalar. -/
def stepFailure? : Except QueryError Value → Option QueryError
  | .error failure => some failure
  | .ok value =>
    if value.type = .vector ∨ value.type = .scalar then none
    else some (.evaluation (.notPlottable value.type))

theorem stepFailure?_eq_none_iff {answer : Except QueryError Value} :
    stepFailure? answer = none ↔
      ∃ value, answer = .ok value ∧ (value.type = .vector ∨ value.type = .scalar) := by
  cases answer with
  | error failure => simp [stepFailure?]
  | ok value =>
    by_cases hplottable : value.type = .vector ∨ value.type = .scalar <;>
      simp [stepFailure?, hplottable]

theorem exists_bind_stepPoints_iff {instant : Int} {answer : Except QueryError Value} :
    (∃ points, answer.bind (stepPoints instant) = .ok points) ↔ stepFailure? answer = none := by
  cases answer with
  | error failure => simp [Except.bind, stepFailure?]
  | ok value => cases value <;> simp [Except.bind, stepPoints, stepFailure?, Value.type, failing]

theorem bind_stepPoints_eq_error {instant : Int} {answer : Except QueryError Value}
    {failure : QueryError} (h : stepFailure? answer = some failure) :
    answer.bind (stepPoints instant) = .error failure := by
  cases answer with
  | error other =>
    simp only [stepFailure?, Option.some.injEq] at h
    rw [h]
    rfl
  | ok value => cases value <;> simp_all [Except.bind, stepPoints, stepFailure?, Value.type, failing]

theorem pointsOf_eq {labels : Labels} {instant : Int} {answer : Except QueryError Value}
    {points : List (Labels × Point)} (h : answer.bind (stepPoints instant) = .ok points) :
    (points.filter fun point => point.1 = labels).map (·.2) = pointsOf labels instant answer := by
  cases answer with
  | error failure => simp [Except.bind] at h
  | ok value =>
    cases value with
    | vector samples =>
      simp only [Except.bind, stepPoints, Except.ok.injEq] at h
      rw [← h, List.filter_map, List.map_map]
      rfl
    | scalar number =>
      simp only [Except.bind, stepPoints, Except.ok.injEq] at h
      rw [← h]
      by_cases hlabels : labels = .empty
      · simp [pointsOf, hlabels]
      · have hne : ¬ (SortedMap.empty : Labels) = labels := fun heq => hlabels heq.symm
        simp [pointsOf, hlabels, hne]
    | matrix series => simp [Except.bind, stepPoints, failing] at h
    | string text => simp [Except.bind, stepPoints, failing] at h

/-! ### The range query -/

theorem rangeQuery_of_parse (settings : Settings) (store : Store) {query : String} {expr : Expr}
    {start stop step : Int} (haccepted : checkRange start stop step = .ok ())
    (hparse : parse query = .ok expr) :
    rangeQuery settings store query start stop step =
      (stepInstants start stop step).mapM (fun instant =>
        (expr.eval ⟨store, settings.lookbackMillis, instant, start, stop⟩).bind
          (stepPoints instant)) >>= fun points => .ok (gather points.flatten) := by
  rw [rangeQuery, haccepted, hparse]
  rfl

/-- A range query that is not refused for its range walks over the instants and asks an instant query
at each. -/
theorem rangeQuery_eq (settings : Settings) (store : Store) {query : String} {start stop step : Int}
    (haccepted : checkRange start stop step = .ok ())
    (hignores : ∀ expr, parse query = .ok expr → expr.IgnoresRange) :
    rangeQuery settings store query start stop step =
      ((stepInstants start stop step).mapM fun instant =>
        (instantQuery settings store query instant).bind (stepPoints instant)) >>=
        fun points => .ok (gather points.flatten) := by
  cases hparse : parse query with
  | error failure =>
    obtain ⟨hstep, hrange, -⟩ := checkRange_eq_ok_iff.mp haccepted
    rw [rangeQuery, haccepted, hparse, stepInstants, if_pos ⟨hrange, hstep⟩, mapM_cons]
    simp only [instantQuery, hparse]
    rfl
  | ok expr =>
    have hanswer : ∀ instant, instantQuery settings store query instant =
        expr.eval ⟨store, settings.lookbackMillis, instant, start, stop⟩ := by
      intro instant
      rw [(hignores expr hparse).eval_eq]
      simp only [instantQuery, hparse]
      rfl
    simp only [hanswer]
    exact rangeQuery_of_parse settings store haccepted hparse

/-- The points of a label set are those that the answers at the steps give it, step by step. -/
theorem filter_flatten_eq {answer : Int → Except QueryError Value} {instants : List Int}
    {results : List (List (Labels × Point))} (labels : Labels)
    (h : instants.map (fun instant => (answer instant).bind (stepPoints instant)) =
      results.map .ok) :
    (results.flatten.filter fun point => point.1 = labels).map (·.2) =
      instants.flatMap fun instant => pointsOf labels instant (answer instant) := by
  induction instants generalizing results with
  | nil =>
    cases results with
    | nil => rfl
    | cons points rest => simp at h
  | cons instant others ih =>
    cases results with
    | nil => simp at h
    | cons points rest =>
      rw [List.map_cons, List.map_cons, List.cons.injEq] at h
      rw [List.flatten_cons, List.filter_append, List.map_append, List.flatMap_cons,
        pointsOf_eq h.1, ih h.2]

theorem range_eq_append_cons {index count : Nat} (h : index < count) :
    List.range count =
      List.range index ++ index :: (List.range (count - index - 1)).map (index + 1 + ·) := by
  obtain ⟨later, rfl⟩ : ∃ later, count = index + 1 + later := ⟨count - index - 1, by omega⟩
  rw [List.range_add, List.range_succ, List.append_assoc]
  simp [show index + 1 + later - index - 1 = later by omega]

/-- A range query is what the instant queries at its steps are together. -/
theorem rangeQuery_eq_instantQueries (settings : Settings) (store : Store) {query : String}
    {start stop step : Int} (hstart : fitsSigned start = true) (hstop : fitsSigned stop = true)
    (haccepted : checkRange start stop step = .ok ())
    (hignores : ∀ expr, parse query = .ok expr → expr.IgnoresRange) :
    let instantAt (index : Nat) : Int := start + index * step
    let answer (index : Nat) := instantQuery settings store query (instantAt index)
    let result := rangeQuery settings store query start stop step
    ∃ count : Nat, (∀ index, index < count ↔ instantAt index ≤ stop) ∧
      ((∃ series, result = .ok series) ↔ ∀ index < count, ∃ value, answer index = .ok value ∧
        (value.type = .vector ∨ value.type = .scalar)) ∧
      (∀ series, result = .ok series →
        SortedMap.StrictlyIncreasing (series.map (·.labels)) ∧
        ∀ one : Series, one ∈ series ↔ one.points ≠ [] ∧
          one.points = (List.range count).flatMap fun index =>
            pointsOf one.labels (instantAt index) (answer index)) ∧
      ∀ index < count, ∀ failure, (∀ earlier < index, stepFailure? (answer earlier) = none) →
        stepFailure? (answer index) = some failure → result = .error failure := by
  intro instantAt answer result
  obtain ⟨hstep, hrange, -⟩ := checkRange_eq_ok_iff.mp haccepted
  rw [fitsSigned_iff] at hstart hstop
  have hcount := lt_stepCount_iff hstep hrange
  have hinstants := stepInstants_eq hstep hstart.1 hstop.2 hcount
  have hresult : result = _ := rangeQuery_eq settings store haccepted hignores
  rw [hinstants] at hresult
  refine ⟨stepCount start stop step, hcount, ?succeeds, ?series, ?fails⟩
  case succeeds =>
    rw [hresult, exists_bind_ok_iff, exists_mapM_eq_ok_iff, List.forall_mem_map]
    simp only [List.mem_range]
    exact forall₂_congr fun index _ =>
      exists_bind_stepPoints_iff.trans stepFailure?_eq_none_iff
  case series =>
    intro series hseries
    rw [hresult, bind_eq_ok_iff] at hseries
    obtain ⟨points, hpoints, heq⟩ := hseries
    rw [Except.ok.injEq] at heq
    subst heq
    refine ⟨strictlyIncreasing_gather _, fun one => ?_⟩
    rw [mem_gather_iff, filter_flatten_eq one.labels (mapM_eq_ok_iff.mp hpoints), List.flatMap_map]
  case fails =>
    intro index hindex failure hearlier hfails
    rw [hresult, range_eq_append_cons hindex, List.map_append, List.map_cons]
    refine bind_eq_error_iff.mpr (.inl (mapM_eq_error ?_ (bind_stepPoints_eq_error hfails)))
    intro instant hmem
    obtain ⟨earlier, hlt, rfl⟩ := List.mem_map.mp hmem
    exact exists_bind_stepPoints_iff.mpr (hearlier earlier (List.mem_range.mp hlt))

/-- The samples of two jobs in the last twenty minutes that signed words can tell. -/
def latestSamples : List Sample :=
  [("a", 1, 1200000), ("b", 5, 600000), ("b", 6, 0), ("a", 2, 0)].map fun (job, value, before) =>
    ⟨.ofList [(nameLabel, "up"), ("job", job)], value, greatestSigned - before⟩

/-- A store of them. -/
def latestStore : Store := Store.empty.addAll latestSamples

/-- In the last twenty minutes that signed words can tell, each job has points at the steps near which it has
samples; the walk ends where the next instant would be out of range. -/
theorem rangeQuery_up_at_greatest :
    let start := greatestSigned - 1200000
    let labels (job : String) : Labels := .ofList [(nameLabel, "up"), ("job", job)]
    fitsSigned start = true ∧ fitsSigned greatestSigned = true ∧
      checkRange start greatestSigned 600000 = .ok () ∧
      (∀ expr, parse "up" = .ok expr → expr.IgnoresRange) ∧
      ∃ series, rangeQuery .standard latestStore "up" start greatestSigned 600000 = .ok series ∧
        ⟨labels "a", [⟨start, 1⟩, ⟨greatestSigned, 2⟩]⟩ ∈ series ∧
        ⟨labels "b", [⟨start + 600000, 5⟩, ⟨greatestSigned, 6⟩]⟩ ∈ series := by
  intro start labels
  have hstart : fitsSigned start = true := by decide
  have hstop : fitsSigned greatestSigned = true := by decide
  have haccepted : checkRange start greatestSigned 600000 = .ok () := by rfl
  have hparse : parse "up" = .ok (.selector ⟨some "up", [], [], .none⟩) := by rfl
  have hignores : ∀ expr, parse "up" = .ok expr → expr.IgnoresRange := by
    intro expr hexpr
    rw [hparse, Except.ok.injEq] at hexpr
    subst hexpr
    simp [Expr.IgnoresRange, Expr.selectors, Timing.none]
  obtain ⟨count, hcount, hsucceeds, hseries, -⟩ :=
    rangeQuery_eq_instantQueries .standard latestStore hstart hstop haccepted hignores
  have hthree : count = 3 := by
    have hlast := hcount 2
    have hnext := hcount 3
    simp only [start] at hlast hnext
    omega
  have hanswer (instant : Int) {vector : Vector}
      (h : (⟨latestStore, 300000, instant, instant, instant⟩ : Context).selectInstant
        ⟨some "up", [], [], .none⟩ = .ok vector) :
      instantQuery .standard latestStore "up" instant = .ok (.vector vector) := by
    rw [instantQuery, hparse]
    exact congrArg (Except.map Value.vector) h
  have hfirst : instantQuery .standard latestStore "up" (start + (0 : Nat) * 600000) =
      .ok (.vector [⟨labels "a", start, 1⟩]) := hanswer _ (by with_unfolding_all rfl)
  have hsecond : instantQuery .standard latestStore "up" (start + (1 : Nat) * 600000) =
      .ok (.vector [⟨labels "b", start + 600000, 5⟩]) := hanswer _ (by with_unfolding_all rfl)
  have hthird : instantQuery .standard latestStore "up" (start + (2 : Nat) * 600000) =
      .ok (.vector [⟨labels "a", greatestSigned, 2⟩, ⟨labels "b", greatestSigned, 6⟩]) :=
    hanswer _ (by with_unfolding_all rfl)
  have hsteps : List.range 3 = [0, 1, 2] := rfl
  obtain ⟨series, hresult⟩ := hsucceeds.mpr fun index hindex => by
    rw [hthree, ← List.mem_range, hsteps] at hindex
    fin_cases hindex
    · exact ⟨_, hfirst, .inl rfl⟩
    · exact ⟨_, hsecond, .inl rfl⟩
    · exact ⟨_, hthird, .inl rfl⟩
  obtain ⟨-, hmem⟩ := hseries series hresult
  have hpoints (one : Series) : one ∈ series ↔ one.points ≠ [] ∧
      one.points = [0, 1, 2].flatMap fun index : Nat => pointsOf one.labels (start + index * 600000)
        (instantQuery .standard latestStore "up" (start + index * 600000)) := by
    rw [hmem, hthree, hsteps]
  refine ⟨hstart, hstop, haccepted, hignores, series, hresult, (hpoints _).mpr ⟨nofun, ?_⟩,
    (hpoints _).mpr ⟨nofun, ?_⟩⟩
  · simp only [List.flatMap_cons, List.flatMap_nil, hfirst, hsecond, hthird]
    rfl
  · simp only [List.flatMap_cons, List.flatMap_nil, hfirst, hsecond, hthird]
    rfl

end MetricBench.Query
