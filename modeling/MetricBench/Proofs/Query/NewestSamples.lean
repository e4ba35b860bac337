import MetricBench.Proofs.Query.SelectedWindows

/-!
# The newest samples of label sets

The instant vector of a selector holds, label set by label set, the samples at the newest instant that
a label set has in the window of the lookback.  A longer lookback only adds label sets.  The last one
of these samples is what `last_over_time` gives for the same window.
-/

namespace MetricBench.Query

open Number (leastSigned)
open SortedMap (StrictlyIncreasing)

/-! ### Elements of a label set -/

/-- The elements that a label set has at an instant: what the store has observed for it there, in the
order in which it came. -/
def elementsAt (store : Store) (labels : Labels) (instant : Int) : Vector :=
  (store.observed labels instant).map fun value => ⟨labels, instant, value⟩

/-- The elements that a label set has at its newest instant in a window.  The window holds its end,
but not its start. -/
def newestElements (store : Store) (oldest stop : Int) (labels : Labels) : Vector :=
  match store.newestInstant? labels oldest stop with
  | none => []
  | some newest => elementsAt store labels newest

theorem getLast?_newestPoints (points : List Point) :
    (newestPoints points).getLast? = points.getLast? := by
  rw [newestPoints]
  cases hlast : points.getLast? with
  | none => rfl
  | some newest =>
    obtain ⟨before, rfl⟩ := List.getLast?_eq_some_iff.mp hlast
    dsimp only
    rw [List.dropWhile_append]
    split_ifs with hempty
    · rw [List.dropWhile_cons_of_neg (by simp)]
      rfl
    · exact List.getLast?_concat

section

variable {store : Store} {oldest stop : Int} {labels : Labels}

/-- The newest points of a window make the elements at its newest instant. -/
theorem newestSamples_eq :
    newestSamples ⟨labels, store.pointsBetween labels (oldest + 1) stop⟩ =
      newestElements store oldest stop labels := by
  rw [newestSamples, newestElements, newestPoints, Store.newestInstant?_eq]
  cases hlast : (store.pointsBetween labels (oldest + 1) stop).getLast? with
  | none => rfl
  | some newest =>
    have hbound : ∀ point ∈ store.pointsBetween labels (oldest + 1) stop,
        point.timestamp ≤ newest.timestamp := fun point hpoint =>
      StableSort.key_le_getLast Store.pairwise_pointsBetween hlast hpoint
    have hwithin := (Store.mem_pointsBetween_iff.mp (List.mem_of_getLast? hlast)).2
    dsimp only [Option.map_some]
    rw [StableSort.dropWhile_eq_filter Store.pairwise_pointsBetween hbound,
      Store.filter_pointsBetween, if_pos hwithin, elementsAt, Store.observed, List.map_map,
      List.map_map]
    refine List.map_congr_left fun sample hsample => ?_
    obtain ⟨-, -, hinstant⟩ := Store.mem_observations_iff.mp hsample
    simp only [Function.comp_apply, Sample.point, hinstant]

theorem labels_of_mem_newestElements {element : InstantSample}
    (h : element ∈ newestElements store oldest stop labels) : element.labels = labels := by
  rw [← newestSamples_eq] at h
  obtain ⟨point, -, rfl⟩ := List.mem_map.mp h
  rfl

/-- The last element is that of the last point of the window. -/
theorem getLast?_newestElements :
    (newestElements store oldest stop labels).getLast? =
      (store.pointsBetween labels (oldest + 1) stop).getLast?.map fun point =>
        ⟨labels, point.timestamp, point.value⟩ := by
  rw [← newestSamples_eq, newestSamples, List.getLast?_map, getLast?_newestPoints]

theorem newestElements_ne_nil_iff :
    newestElements store oldest stop labels ≠ [] ↔
      ∃ sample ∈ store.samples, sample.labels = labels ∧
        oldest < sample.timestamp ∧ sample.timestamp ≤ stop := by
  rw [ne_eq, ← List.getLast?_eq_none_iff, getLast?_newestElements, Option.map_eq_none_iff,
    List.getLast?_eq_none_iff]
  simp only [← Store.within_succ_iff]
  exact Store.pointsBetween_ne_nil_iff

theorem reduce_lastOverTime {width : Int} {element : InstantSample}
    (h : (newestElements store oldest stop labels).getLast? = some element) :
    RangeFunction.reduce width (store.pointsBetween labels (oldest + 1) stop) .lastOverTime =
      some element.value := by
  rw [getLast?_newestElements, Option.map_eq_some_iff] at h
  obtain ⟨point, hpoint, rfl⟩ := h
  rw [RangeFunction.reduce, hpoint]
  rfl

/-- The last element stands for the value that came last at the newest instant. -/
theorem exists_last (h : newestElements store oldest stop labels ≠ []) :
    ∃ newest value, store.newestInstant? labels oldest stop = some newest ∧
      (store.observed labels newest).getLast? = some value ∧
      (newestElements store oldest stop labels).getLast? = some ⟨labels, newest, value⟩ := by
  rw [newestElements] at h ⊢
  cases hnewest : store.newestInstant? labels oldest stop with
  | none =>
    rw [hnewest] at h
    exact absurd rfl h
  | some newest =>
    rw [hnewest] at h
    dsimp only at h ⊢
    cases hlast : (store.observed labels newest).getLast? with
    | none =>
      rw [elementsAt, List.getLast?_eq_none_iff.mp hlast] at h
      exact absurd rfl h
    | some value =>
      refine ⟨newest, value, rfl, hlast, ?_⟩
      rw [elementsAt, List.getLast?_map, hlast]
      rfl

/-- Elements of a window stay the newest ones when the window starts earlier. -/
theorem newestElements_of_earlier {earlier : Int} (hearlier : earlier ≤ oldest)
    (h : newestElements store oldest stop labels ≠ []) :
    newestElements store earlier stop labels = newestElements store oldest stop labels := by
  rw [newestElements] at h
  cases hnewest : store.newestInstant? labels oldest stop with
  | none =>
    rw [hnewest] at h
    exact absurd rfl h
  | some newest =>
    rw [newestElements, newestElements, hnewest, Store.newestInstant?_of_earlier hearlier hnewest]

end

/-- A choice of elements by their label sets is a choice of label sets, when the elements are listed
label set by label set. -/
theorem filter_flatMap_labels {found : List Labels} {elements : Labels → Vector}
    (h : ∀ labels, ∀ element ∈ elements labels, element.labels = labels) (keep : Labels → Bool) :
    ((found.flatMap elements).filter fun element => keep element.labels) =
      (found.filter keep).flatMap elements := by
  induction found with
  | nil => rfl
  | cons labels rest ih =>
    rw [List.flatMap_cons, List.filter_append, ih]
    cases hkeep : keep labels with
    | true =>
      have hall : ∀ element ∈ elements labels, keep element.labels = true := fun element hmem => by
        rw [h labels element hmem, hkeep]
      rw [List.filter_eq_self.mpr hall, List.filter_cons_of_pos hkeep, List.flatMap_cons]
    | false =>
      have hnone : ∀ element ∈ elements labels, ¬ keep element.labels = true :=
        fun element hmem => by
          rw [h labels element hmem, hkeep]
          exact Bool.false_ne_true
      rw [List.filter_eq_nil_iff.mpr hnone, List.nil_append,
        List.filter_cons_of_neg (by rw [hkeep]; exact Bool.false_ne_true)]

theorem mem_labels_flatMap_iff {found : List Labels} {elements : Labels → Vector}
    (h : ∀ labels, ∀ element ∈ elements labels, element.labels = labels)
    (hne : ∀ labels ∈ found, elements labels ≠ []) {labels : Labels} :
    labels ∈ (found.flatMap elements).map (·.labels) ↔ labels ∈ found := by
  rw [List.mem_map]
  constructor
  · rintro ⟨element, helement, rfl⟩
    obtain ⟨other, hother, hmem⟩ := List.mem_flatMap.mp helement
    rwa [h other element hmem]
  · intro hlabels
    obtain ⟨element, helement⟩ := List.exists_mem_of_ne_nil _ (hne labels hlabels)
    exact ⟨element, List.mem_flatMap.mpr ⟨labels, hlabels, helement⟩, h labels element helement⟩

/-! ### Instant vectors -/

/-- The instant vector of a selector holds the newest elements of the label sets that it finds in the
window of the lookback. -/
theorem eval_selector_of_found {context : Context} {selector : Selector} {found : List Labels}
    (h : context.selectWindow selector context.lookback = .ok (found.map fun labels =>
      ⟨labels, context.store.pointsBetween labels
        (windowStart (selector.timing.readingInstant context) context.lookback)
        (selector.timing.readingInstant context)⟩)) :
    (Expr.selector selector).eval context = .ok (.vector (found.flatMap (newestElements
      context.store (max (selector.timing.readingInstant context - context.lookback) leastSigned)
      (selector.timing.readingInstant context)))) := by
  rw [Expr.eval, Context.selectInstant, h]
  change Except.ok (Value.vector ((found.map _).flatMap newestSamples)) = _
  rw [List.flatMap_map]
  exact congrArg (fun vector => Except.ok (Value.vector vector))
    (List.flatMap_congr fun labels _ => newestSamples_eq)

/-- The instant vector of a selector whose patterns can be read. -/
theorem Context.exists_newest {context : Context} {selector : Selector}
    (hfiled : context.store.Filed) (hcompiles : selector.Compiles) :
    ∃ found, StrictlyIncreasing found ∧
      (∀ labels, labels ∈ found ↔ selector.Fits labels ∧ ∃ sample ∈ context.store.samples,
        sample.labels = labels ∧
          max (selector.timing.readingInstant context - context.lookback) leastSigned <
            sample.timestamp ∧
          sample.timestamp ≤ selector.timing.readingInstant context) ∧
      (Expr.selector selector).eval context = .ok (.vector (found.flatMap (newestElements
        context.store (max (selector.timing.readingInstant context - context.lookback) leastSigned)
        (selector.timing.readingInstant context)))) := by
  obtain ⟨found, hincreasing, hfound, hwindow⟩ :=
    Context.exists_found hfiled hcompiles context.lookback
  refine ⟨found, hincreasing, fun labels => ?_, eval_selector_of_found hwindow⟩
  simp only [← Store.within_succ_iff]
  exact hfound labels

/-- A selector without alternatives whose patterns can be read finds exactly the label sets that it
describes and that have samples in the window of the lookback, which holds its end, but not its start.
Its vector holds, in the order of the label sets, all samples of each of them at its newest instant in
the window, in the order in which they came.  With a longer lookback the vector holds the same elements
for these label sets, and elements of other label sets beside them. -/
theorem selector_finds_newest {context : Context} {selector : Selector}
    (hfiled : context.store.Filed) (halternatives : selector.alternatives = [])
    (hcompiles : selector.Compiles)
    (hrange : leastSigned ≤ selector.timing.readingInstant context - context.lookback) :
    let instant := selector.timing.readingInstant context
    let oldest := instant - context.lookback
    ∃ vector found, (Expr.selector selector).eval context = .ok (.vector vector) ∧
      StrictlyIncreasing found ∧
      (∀ labels, labels ∈ found ↔ selector.Describes labels ∧
        ∃ sample ∈ context.store.samples, sample.labels = labels ∧
          oldest < sample.timestamp ∧ sample.timestamp ≤ instant) ∧
      vector = found.flatMap (newestElements context.store oldest instant) ∧
      ∀ lookback, context.lookback ≤ lookback →
        ∃ larger, (Expr.selector selector).eval { context with lookback := lookback } =
            .ok (.vector larger) ∧
          vector = larger.filter fun element => element.labels ∈ vector.map (·.labels) := by
  intro instant oldest
  obtain ⟨found, hincreasing, hfound, hvector⟩ := Context.exists_newest hfiled hcompiles
  rw [Int.max_eq_left hrange] at hfound hvector
  have hne : ∀ labels ∈ found, newestElements context.store oldest instant labels ≠ [] :=
    fun labels hlabels => newestElements_ne_nil_iff.mpr ((hfound labels).mp hlabels).2
  refine ⟨_, found, hvector, hincreasing, fun labels => ?members, rfl, fun lookback hlonger => ?_⟩
  case members =>
    refine (hfound labels).trans (and_congr_left fun _ => ?_)
    exact (and_iff_left (.inl halternatives)).symm
  obtain ⟨wider, hwider, hmembers, hlarger⟩ :=
    @Context.exists_newest { context with lookback := lookback } selector hfiled hcompiles
  refine ⟨_, hlarger, ?_⟩
  -- the window starts earlier, so the label sets of the vector keep their newest elements
  have hearlier : max (instant - lookback) leastSigned ≤ oldest :=
    Int.max_le.mpr ⟨Int.sub_le_sub_left hlonger instant, hrange⟩
  have hsame : (wider.filter fun labels => labels ∈ (found.flatMap
      (newestElements context.store oldest instant)).map (·.labels)) = found := by
    refine SortedMap.eq_of_mem_iff (hwider.filter _) hincreasing fun labels => ?_
    rw [List.mem_filter, decide_eq_true_eq,
      mem_labels_flatMap_iff (fun _ _ => labels_of_mem_newestElements) hne, hmembers]
    refine ⟨And.right, fun hlabels => ⟨?_, hlabels⟩⟩
    obtain ⟨hfits, sample, hsample, hlabelled, holdest, hstop⟩ := (hfound labels).mp hlabels
    exact ⟨hfits, sample, hsample, hlabelled, Int.lt_of_le_of_lt hearlier holdest, hstop⟩
  rw [filter_flatMap_labels (fun _ _ => labels_of_mem_newestElements) fun labels =>
    decide (labels ∈ (found.flatMap (newestElements context.store oldest instant)).map (·.labels)),
    hsame]
  exact List.flatMap_congr fun labels hlabels =>
    (newestElements_of_earlier hearlier (hne labels hlabels)).symm

/-- Of three samples of a metric the newest one is later than the instant, and the other ones are at
the instant that a longer lookback finds, too. -/
theorem selector_finds_newest_mixed :
    let context : Context := ⟨.mixed, 600, 1500, 1500, 1500⟩
    let up : Selector := ⟨some "up", [], [], .none⟩
    let plain : Labels := .ofList [(nameLabel, "up")]
    let other : Labels := .ofList [(nameLabel, "down")]
    Store.mixed.Filed ∧ up.alternatives = [] ∧ up.Compiles ∧
      leastSigned ≤ up.timing.readingInstant context - context.lookback ∧
      ∃ (vector larger : Vector) (found : List Labels),
        (Expr.selector up).eval context = .ok (.vector vector) ∧
        vector = found.flatMap (newestElements .mixed 900 1500) ∧
        plain ∈ found ∧ other ∉ found ∧
        (Expr.selector up).eval { context with lookback := 300000 } = .ok (.vector larger) ∧
        vector = larger.filter fun element => element.labels ∈ vector.map (·.labels) := by
  intro context up plain other
  have hfiled : Store.mixed.Filed := Store.filed_empty.addAll Store.mixedSamples
  have hcompiles : up.Compiles := Selector.compiles_name "up"
  have hrange : leastSigned ≤ up.timing.readingInstant context - context.lookback := by decide
  have hlonger : context.lookback ≤ 300000 := by decide
  obtain ⟨vector, found, heval, -, hfound, hvector, hstays⟩ :=
    selector_finds_newest hfiled (rfl : up.alternatives = []) hcompiles hrange
  obtain ⟨larger, hlarger, hfilter⟩ := hstays 300000 hlonger
  refine ⟨hfiled, rfl, hcompiles, hrange, vector, larger, found, heval, hvector, ?found, ?leftOut,
    hlarger, hfilter⟩
  case found =>
    refine (hfound _).mpr ⟨⟨Selector.fits_name_iff.mpr rfl, .inl rfl⟩,
      ⟨plain, 4, 1000⟩, ?_, rfl, by decide, by decide⟩
    change _ ∈ Store.mixed.samples
    rw [samples_mixed]
    exact .tail _ (.tail _ (.tail _ (.head _)))
  case leftOut =>
    intro hdown
    obtain ⟨⟨hfits, -⟩, -⟩ := (hfound _).mp hdown
    exact absurd (Selector.fits_name_iff.mp hfits) (by decide)

/-! ### Last samples -/

/-- In a vector that is listed label set by label set, a label set has its own elements. -/
theorem filter_flatMap_of_mem {found : List Labels} {elements : Labels → Vector}
    (hincreasing : StrictlyIncreasing found)
    (h : ∀ labels, ∀ element ∈ elements labels, element.labels = labels) {labels : Labels}
    (hlabels : labels ∈ found) :
    ((found.flatMap elements).filter fun element => element.labels = labels) = elements labels := by
  have honly : (found.filter fun other => other = labels) = [labels] := by
    refine SortedMap.eq_of_mem_iff (hincreasing.filter _) (List.pairwise_singleton _ _)
      fun other => ?_
    rw [List.mem_filter, decide_eq_true_eq, List.mem_singleton]
    exact and_iff_right_of_imp fun hother => hother ▸ hlabels
  rw [filter_flatMap_labels h fun other => decide (other = labels), honly, List.flatMap_singleton]

section

variable {context : Context} {selector : Selector} {width : Int} {found : List Labels}

/-- The last values of a range are those of the newest elements of its window. -/
theorem eval_lastOverTime {value : Labels → Double}
    (hwindow : context.selectWindow selector width = .ok (found.map fun labels =>
      ⟨labels, context.store.pointsBetween labels
        (windowStart (selector.timing.readingInstant context) width)
        (selector.timing.readingInstant context)⟩))
    (hlast : ∀ labels ∈ found, ∃ newest, (newestElements context.store
      (max (selector.timing.readingInstant context - width) leastSigned)
      (selector.timing.readingInstant context) labels).getLast? =
        some ⟨labels, newest, value labels⟩) :
    (Expr.call (.range .lastOverTime) [.range selector width]).eval context =
      .ok (.vector (found.map fun labels =>
        ⟨labels.withoutName, context.instant, value labels⟩)) := by
  refine (eval_range_of_found hwindow (fun series => value series.labels) ?_ rfl).trans ?_
  · intro series hseries
    obtain ⟨labels, hlabels, rfl⟩ := List.mem_map.mp hseries
    obtain ⟨newest, hnewest⟩ := hlast labels hlabels
    exact reduce_lastOverTime hnewest
  · rw [List.map_map]
    rfl

theorem eval_presentOverTime {points : Labels → List Point}
    (hwindow : context.selectWindow selector width =
      .ok (found.map fun labels => ⟨labels, points labels⟩)) :
    (Expr.call (.range .presentOverTime) [.range selector width]).eval context =
      .ok (.vector (found.map fun labels => ⟨labels.withoutName, context.instant, 1.0⟩)) := by
  refine (eval_range_of_found hwindow (fun _ => 1.0) (fun _ _ => rfl) rfl).trans ?_
  rw [List.map_map]
  rfl

end

/-- Over a range as wide as the lookback, `last_over_time` and `present_over_time` have one element for
each label set that the selector finds at the instant, in the same order.  What `last_over_time` gives
is the value of the last element that the selector has for the label set: the value that came last at
the newest instant of the label set in the window.  If the patterns of the selector cannot be read, all
three fail alike. -/
theorem last_over_lookback {context : Context} {selector : Selector}
    (hfiled : context.store.Filed) :
    let instant := selector.timing.readingInstant context
    let oldest := max (instant - context.lookback) leastSigned
    let overLookback (function : RangeFunction) :=
      (Expr.call (.range function) [.range selector context.lookback]).eval context
    (¬ selector.Compiles ∧ ∃ failure, (Expr.selector selector).eval context = .error failure ∧
      overLookback .lastOverTime = .error failure ∧
      overLookback .presentOverTime = .error failure) ∨
    ∃ (vector : Vector) (found : List Labels) (value : Labels → Double),
      (Expr.selector selector).eval context = .ok (.vector vector) ∧
      StrictlyIncreasing found ∧
      vector = (found.flatMap fun labels =>
        vector.filter fun element => element.labels = labels) ∧
      (∀ labels ∈ found, ∃ newest,
        (vector.filter fun element => element.labels = labels).getLast? =
          some ⟨labels, newest, value labels⟩ ∧
        context.store.newestInstant? labels oldest instant = some newest ∧
        (context.store.observed labels newest).getLast? = some (value labels)) ∧
      overLookback .lastOverTime = .ok (.vector (found.map fun labels =>
        ⟨labels.withoutName, context.instant, value labels⟩)) ∧
      overLookback .presentOverTime = .ok (.vector (found.map fun labels =>
        ⟨labels.withoutName, context.instant, 1.0⟩)) := by
  intro instant oldest overLookback
  by_cases hcompiles : selector.Compiles
  case neg =>
    obtain ⟨failure, hmatchers⟩ := Selector.exists_failure hcompiles
    refine .inl ⟨hcompiles, failure, ?_, (eval_range_of_failure hmatchers _ _).2,
      (eval_range_of_failure hmatchers _ _).2⟩
    rw [Expr.eval, Context.selectInstant, Context.selectWindow_of_failure hmatchers]
    rfl
  case pos =>
    obtain ⟨found, hincreasing, hfound, hwindow⟩ :=
      Context.exists_found hfiled hcompiles context.lookback
    have hown : ∀ labels ∈ found,
        ((found.flatMap (newestElements context.store oldest instant)).filter fun element =>
          element.labels = labels) = newestElements context.store oldest instant labels :=
      fun labels => filter_flatMap_of_mem hincreasing fun _ _ => labels_of_mem_newestElements
    have hlast : ∀ labels ∈ found, ∃ value newest,
        context.store.newestInstant? labels oldest instant = some newest ∧
        (context.store.observed labels newest).getLast? = some value ∧
        (newestElements context.store oldest instant labels).getLast? =
          some ⟨labels, newest, value⟩ := by
      intro labels hlabels
      have hstored := ((hfound labels).mp hlabels).2
      simp only [windowStart, Store.within_succ_iff] at hstored
      obtain ⟨newest, value, hall⟩ := exists_last (newestElements_ne_nil_iff.mpr hstored)
      exact ⟨value, newest, hall⟩
    choose! value hvalue using hlast
    refine .inr ⟨_, found, value, eval_selector_of_found hwindow, hincreasing,
      List.flatMap_congr fun labels hlabels => (hown labels hlabels).symm,
      fun labels hlabels => ?_, eval_lastOverTime hwindow fun labels hlabels => ?_,
      eval_presentOverTime hwindow⟩
    · obtain ⟨newest, hnewest, hobserved, hmatch⟩ := hvalue labels hlabels
      exact ⟨newest, (hown labels hlabels).symm ▸ hmatch, hnewest, hobserved⟩
    · obtain ⟨newest, -, -, hmatch⟩ := hvalue labels hlabels
      exact ⟨newest, hmatch⟩

/-- Of two samples at the newest instant of a window the one that came last is taken. -/
theorem last_over_mixed_lookback :
    let context : Context := ⟨.mixed, 600, 1500, 1500, 1500⟩
    let up : Selector := ⟨some "up", [], [], .none⟩
    let plain : Labels := .ofList [(nameLabel, "up")]
    Store.mixed.Filed ∧ ∃ vector results : Vector,
      (Expr.selector up).eval context = .ok (.vector vector) ∧
      (vector.filter fun element => element.labels = plain).getLast? = some ⟨plain, 1000, 5⟩ ∧
      (Expr.call (.range .lastOverTime) [.range up 600]).eval context = .ok (.vector results) ∧
      ⟨plain.withoutName, 1500, 5⟩ ∈ results := by
  intro context up plain
  have hfiled : Store.mixed.Filed := Store.filed_empty.addAll Store.mixedSamples
  have hcompiles : up.Compiles := Selector.compiles_name "up"
  have hfits : up.Fits plain := Selector.fits_name_iff.mpr rfl
  have hstored : (⟨plain, 4, 1000⟩ : Sample) ∈ Store.mixed.samples := by
    rw [samples_mixed]
    exact .tail _ (.tail _ (.tail _ (.head _)))
  have hnewest : Store.mixed.newestInstant? plain 900 1500 = some 1000 := by
    rw [Store.newestInstant?, samples_mixed]
    decide
  have hobserved : (Store.mixed.observed plain 1000).getLast? = some 5 := by
    rw [Store.observed, samples_mixed]
    rfl
  obtain ⟨hnot, -⟩ | ⟨vector, found, value, hvector, -, hgroups, hlast, hresults, -⟩ :=
    @last_over_lookback context up hfiled
  · exact absurd hcompiles hnot
  · obtain ⟨elements, helements⟩ : ∃ elements, context.selectInstant up = .ok elements := ⟨_, rfl⟩
    have hsame : vector = elements := by
      rw [Expr.eval, helements] at hvector
      cases hvector
      rfl
    obtain ⟨element, helement, hplain⟩ := (Context.exists_element_iff hfiled helements plain).mpr
      ⟨hfits, ⟨plain, 4, 1000⟩, hstored, rfl, by decide⟩
    have hfound : plain ∈ found := by
      rw [← hsame, hgroups] at helement
      obtain ⟨labels, hlabels, hown⟩ := List.mem_flatMap.mp helement
      have hmatch := (List.mem_filter.mp hown).2
      rw [decide_eq_true_eq, hplain] at hmatch
      rwa [hmatch]
    obtain ⟨newest, hlastElement, hinstant, hlastValue⟩ := hlast plain hfound
    cases hnewest.symm.trans hinstant
    have hvalue : value plain = 5 := Option.some.inj (hlastValue.symm.trans hobserved)
    rw [hvalue] at hlastElement
    exact ⟨hfiled, vector, _, hvector, hlastElement, hresults,
      List.mem_map.mpr ⟨plain, hfound, by rw [hvalue]⟩⟩

end MetricBench.Query
