import MetricBench.Proofs.Query.SelectorMeaning
import MetricBench.Proofs.Store.Windows

/-!
# Windows of selectors

A selector finds in a window the stored label sets that fit it and have samples there, each with all
its points of the window.  Windows that follow on one another lose no sample and hold none twice, so a
window is the earlier window of an offset selector and the window after it.
-/

namespace MetricBench.Query

open Number (fitsSigned fitsSigned_iff greatestSigned leastSigned ofNat)
open Regex (Pattern)
open Series (pointsFor)
open SortedMap (StrictlyIncreasing)

/-! ### Matchers -/

/-- Whether all patterns of a selector can be read. -/
def Selector.Compiles (selector : Selector) : Prop :=
  ∀ condition ∈ selector.conditions, condition.op = .pattern ∨ condition.op = .notPattern →
    ∃ pattern, Pattern.readWhole? condition.value = some pattern

theorem LabelMatch.exists_matcher_iff {condition : LabelMatch} :
    (∃ matcher, condition.matcher = .ok matcher) ↔
      (condition.op = .pattern ∨ condition.op = .notPattern →
        ∃ pattern, Pattern.readWhole? condition.value = some pattern) := by
  obtain ⟨name, op, value⟩ := condition
  rw [LabelMatch.matcher, LabelMatch.matcherWith]
  cases op with
  | equal => simp
  | notEqual => simp
  | pattern => cases Pattern.readWhole? value <;> simp
  | notPattern => cases Pattern.readWhole? value <;> simp

/-- A selector has matchers exactly when its patterns can be read. -/
theorem Selector.exists_matchers_iff {selector : Selector} :
    (∃ matchers, selector.matchers = .ok matchers) ↔ selector.Compiles := by
  have hconditions : (∃ matchers, selector.matchers = .ok matchers) ↔
      ∃ others, selector.conditions.mapM LabelMatch.matcher = .ok others := exists_bind_ok_iff
  rw [hconditions, exists_mapM_eq_ok_iff]
  exact forall₂_congr fun condition _ => LabelMatch.exists_matcher_iff

theorem Selector.exists_failure {selector : Selector} (h : ¬ selector.Compiles) :
    ∃ failure, selector.matchers = .error failure := by
  cases hmatchers : selector.matchers with
  | error failure => exact ⟨failure, rfl⟩
  | ok matchers => exact absurd (Selector.exists_matchers_iff.mp ⟨matchers, hmatchers⟩) h

theorem Selector.compiles_name (name : String) : Selector.Compiles ⟨some name, [], [], .none⟩ :=
  fun _ hcondition => nomatch hcondition

theorem Selector.fits_name_iff {name : String} {labels : Labels} :
    Selector.Fits ⟨some name, [], [], .none⟩ labels ↔ labels.metricName? = some name := by
  refine ⟨fun hfits => hfits.1 name rfl, fun hname => ⟨?_, fun _ hcondition => nomatch hcondition⟩⟩
  rintro other ⟨⟩
  exact hname

/-! ### Sums of words -/

namespace Context

variable {context : Context} {selector : Selector} {width : Int}

/-- Whether the instant that a selector reads at and the start of its window fit signed words.  This is not
checked when they are computed. -/
structure SumsFit (context : Context) (selector : Selector) (width : Int) : Prop where
  instant : fitsSigned (selector.timing.readingInstant context) = true
  start : fitsSigned (windowStart (selector.timing.readingInstant context) width) = true

/-- Instants and offsets of seventy million years are far from the ends of the words. -/
theorem sumsFit_of_bounded (hbase : |selector.timing.base context| ≤ 2 ^ 61)
    (hoffset : |selector.timing.offset.getD 0| ≤ 2 ^ 61) (hwidth : 0 ≤ width) :
    context.SumsFit selector width := by
  rw [abs_le] at hbase hoffset
  constructor
  · rw [fitsSigned_iff, Timing.readingInstant, leastSigned, greatestSigned]
    omega
  · rw [fitsSigned_iff, windowStart, Timing.readingInstant, leastSigned, greatestSigned]
    omega

/-- Where these sums fit, a machine that cuts them to words of sixty-four bits reads the same window. -/
theorem SumsFit.eq_words (h : context.SumsFit selector width) :
    let instant := BitVec.ofInt 64 (selector.timing.base context) -
      BitVec.ofInt 64 (selector.timing.offset.getD 0)
    let start := BitVec.ofInt 64 (max (instant.toInt - width) leastSigned) + BitVec.ofInt 64 1
    instant.toInt = selector.timing.readingInstant context ∧
      start.toInt = windowStart (selector.timing.readingInstant context) width := by
  have hword {value : Int} (hfits : fitsSigned value = true) : (BitVec.ofInt 64 value).toInt = value := by
    rw [fitsSigned_iff] at hfits
    exact BitVec.toInt_ofInt_eq_self (by decide) hfits.1 (Int.lt_of_le_sub_one hfits.2)
  intro instant start
  have hinstant : instant.toInt = selector.timing.readingInstant context := by
    have hdifference : instant = BitVec.ofInt 64 (selector.timing.readingInstant context) := by
      rw [Timing.readingInstant, Int.sub_eq_add_neg, BitVec.ofInt_add, BitVec.ofInt_neg,
        ← BitVec.sub_eq_add_neg]
    rw [hdifference, hword h.instant]
  refine ⟨hinstant, ?_⟩
  have hstart : start = BitVec.ofInt 64 (windowStart (selector.timing.readingInstant context) width) := by
    rw [windowStart, BitVec.ofInt_add, ← hinstant]
  rw [hstart, hword h.start]

theorem selectWindow_of_matchers {matchers : List Matcher}
    (h : selector.matchers = .ok matchers) (width : Int) :
    context.selectWindow selector width =
      .ok (context.store.select matchers
        (windowStart (selector.timing.readingInstant context) width)
        (selector.timing.readingInstant context)) := by
  rw [selectWindow, h]
  rfl

theorem selectWindow_of_failure {failure : QueryError} (h : selector.matchers = .error failure)
    (width : Int) : context.selectWindow selector width = .error failure := by
  rw [selectWindow, h]
  rfl

/-- A series that is selected has points. -/
theorem points_ne_nil_of_mem {width : Int} {selected : List Series}
    (hselected : context.selectWindow selector width = .ok selected) {series : Series}
    (hseries : series ∈ selected) : series.points ≠ [] := by
  obtain ⟨matchers, -, hok⟩ := bind_eq_ok_iff.mp hselected
  cases hok
  exact (Series.mem_ofSamples_iff_pointsFor.mp hseries).1

/-- The points that a selector finds for a label set that fits it: all of the window. -/
theorem pointsFor_of_fits (hfiled : context.store.Filed) {width : Int} {selected : List Series}
    (hselected : context.selectWindow selector width = .ok selected) {labels : Labels}
    (hfits : selector.Fits labels) :
    pointsFor labels selected =
      context.store.pointsBetween labels
        (windowStart (selector.timing.readingInstant context) width)
        (selector.timing.readingInstant context) := by
  obtain ⟨matchers, hmatchers, hok⟩ := bind_eq_ok_iff.mp hselected
  cases hok
  rw [hfiled.pointsFor_select]
  by_cases hpoints : context.store.pointsBetween labels
      (windowStart (selector.timing.readingInstant context) width)
      (selector.timing.readingInstant context) = []
  · rw [hpoints, ite_self]
  · obtain ⟨sample, hsample, rfl, -⟩ := Store.pointsBetween_ne_nil_iff.mp hpoints
    obtain ⟨name, samples, hfind, hmem⟩ := Store.mem_samples_iff.mp hsample
    rw [if_pos ((Selector.all_holds_iff hmatchers (hfiled.labelled hfind sample hmem)).mpr hfits)]

/-- What a selector whose patterns can be read finds in a window: the label sets that fit it and
have samples there, in their order, each with all its points of the window. -/
theorem exists_found (hfiled : context.store.Filed) (hcompiles : selector.Compiles) (width : Int) :
    ∃ found, StrictlyIncreasing found ∧
      (∀ labels, labels ∈ found ↔ selector.Fits labels ∧ ∃ sample ∈ context.store.samples,
        sample.labels = labels ∧
          within (windowStart (selector.timing.readingInstant context) width)
            (selector.timing.readingInstant context) sample.timestamp = true) ∧
      context.selectWindow selector width = .ok (found.map fun labels =>
        ⟨labels, context.store.pointsBetween labels
          (windowStart (selector.timing.readingInstant context) width)
          (selector.timing.readingInstant context)⟩) := by
  obtain ⟨matchers, hmatchers⟩ := Selector.exists_matchers_iff.mpr hcompiles
  let selected := context.store.select matchers
    (windowStart (selector.timing.readingInstant context) width)
    (selector.timing.readingInstant context)
  refine ⟨selected.map (·.labels), Series.strictlyIncreasing_ofSamples _, fun labels => ?_, ?_⟩
  · refine hfiled.mem_labels_select_iff.trans (and_congr_left ?_)
    rintro ⟨sample, hsample, rfl, -⟩
    obtain ⟨name, samples, hfind, hmem⟩ := Store.mem_samples_iff.mp hsample
    exact Selector.all_holds_iff hmatchers (hfiled.labelled hfind sample hmem)
  · rw [selectWindow_of_matchers hmatchers]
    exact congrArg Except.ok hfiled.select_eq_map

end Context

/-! ### Functions of ranges -/

/-- A function of a range is applied to what the selector finds in the window. -/
theorem eval_range_call (context : Context) (function : RangeFunction) (selector : Selector)
    (width : Int) :
    (Expr.call (.range function) [.range selector width]).eval context =
      (context.selectWindow selector width).map fun selected =>
        .vector (overSeries context.instant function.leastPoints (function.reduce width)
          selected) := by
  rw [Expr.eval, evalArguments, evalArguments, Expr.eval]
  cases context.selectWindow selector width <;> rfl

theorem eval_range_of_failure {context : Context} {selector : Selector} {failure : QueryError}
    (h : selector.matchers = .error failure) (function : RangeFunction) (width : Int) :
    (Expr.range selector width).eval context = .error failure ∧
      (Expr.call (.range function) [.range selector width]).eval context = .error failure := by
  rw [eval_range_call, Expr.eval, Context.selectWindow_of_failure h]
  exact ⟨rfl, rfl⟩

/-- A function that needs one point has a result for every series with points. -/
theorem overSeries_eq_map {instant : Int} {reduce : List Point → Option Double}
    {value : Series → Double} {selected : List Series}
    (h : ∀ series ∈ selected, series.points ≠ [] ∧ reduce series.points = some (value series)) :
    overSeries instant 1 reduce selected =
      selected.map fun series => ⟨series.labels.withoutName, instant, value series⟩ := by
  rw [overSeries, ← List.filterMap_eq_map]
  refine List.filterMap_congr fun series hseries => ?_
  obtain ⟨hne, hreduce⟩ := h series hseries
  rw [if_pos (Nat.succ_le_of_lt (List.length_pos_iff_ne_nil.mpr hne)), hreduce]
  rfl

/-- The elements that count the points of series. -/
def pointCounts (instant : Int) (selected : List Series) : Vector :=
  selected.map fun series => ⟨series.labels.withoutName, instant, ofNat series.points.length⟩

/-- A function that needs one point, applied to a range in which series are found. -/
theorem eval_range_of_found {context : Context} {selector : Selector} {width : Int}
    {selected : List Series} (h : context.selectWindow selector width = .ok selected)
    {function : RangeFunction} (value : Series → Double)
    (hreduce : ∀ series ∈ selected,
      RangeFunction.reduce width series.points function = some (value series))
    (hleast : function.leastPoints = 1) :
    (Expr.call (.range function) [.range selector width]).eval context =
      .ok (.vector (selected.map fun series =>
        ⟨series.labels.withoutName, context.instant, value series⟩)) := by
  have hresults := @overSeries_eq_map context.instant
    (fun points => RangeFunction.reduce width points function) value selected
    fun series hseries => ⟨Context.points_ne_nil_of_mem h hseries, hreduce series hseries⟩
  rw [eval_range_call, h, hleast]
  exact congrArg (fun vector => Except.ok (Value.vector vector)) hresults

theorem eval_countOverTime {context : Context} {selector : Selector} {width : Int}
    {selected : List Series} (h : context.selectWindow selector width = .ok selected) :
    (Expr.range selector width).eval context = .ok (.matrix selected) ∧
      (Expr.call (.range .countOverTime) [.range selector width]).eval context =
        .ok (.vector (pointCounts context.instant selected)) := by
  constructor
  · rw [Expr.eval, h]
    rfl
  · refine eval_range_of_found h _ (fun series _ => ?_) rfl
    rw [RangeFunction.reduce, count, values, List.length_map]

/-! ### Adjacent windows -/

theorem windowStart_eq {instant width : Int} (h : leastSigned ≤ instant - width) :
    windowStart instant width = instant - width + 1 := by
  rw [windowStart, Int.max_eq_left h]

/-- What a selector without timing finds in a window, and in the two parts of it: the earlier part is
the window of the offset selector. -/
theorem Context.selectWindow_parts {context : Context} {selector : Selector}
    {matchers : List Matcher} {earlier later : Int} (hmatchers : selector.matchers = .ok matchers)
    (htiming : selector.timing = .none) (hearlier : 0 < earlier)
    (hrange : leastSigned ≤ context.instant - (later + earlier)) :
    context.selectWindow selector (later + earlier) =
        .ok (context.store.select matchers (context.instant - (later + earlier) + 1)
          context.instant) ∧
      context.selectWindow { selector with timing := ⟨none, some later⟩ } earlier =
        .ok (context.store.select matchers (context.instant - (later + earlier) + 1)
          (context.instant - later)) ∧
      context.selectWindow selector later =
        .ok (context.store.select matchers (context.instant - later + 1) context.instant) := by
  have hinstant : selector.timing.readingInstant context = context.instant := by
    rw [htiming]
    exact Int.sub_zero _
  have hoffset : Selector.matchers { selector with timing := ⟨none, some later⟩ } =
      .ok matchers := hmatchers
  have hreads : Timing.readingInstant ⟨none, some later⟩ context = context.instant - later := rfl
  have hstart : context.instant - later - earlier = context.instant - (later + earlier) :=
    Int.sub_sub _ _ _
  refine ⟨?whole, ?before, ?after⟩
  case whole =>
    rw [selectWindow_of_matchers hmatchers, hinstant, windowStart_eq hrange]
  case before =>
    rw [selectWindow_of_matchers hoffset, hreads, windowStart_eq (hstart ▸ hrange), hstart]
  case after =>
    rw [selectWindow_of_matchers hmatchers, hinstant, windowStart_eq (by omega)]

/-- For each label set, a window holds the points of the window that an offset selector has before the
last part of it, and then the points of this last part.  The counts of the two parts together count each
stored sample of the window once. -/
theorem adjacent_windows_tile {context : Context} {selector : Selector} {earlier later : Int}
    (hfiled : context.store.Filed) (htiming : selector.timing = .none)
    (hearlier : 0 < earlier) (hlater : 0 < later)
    (hrange : leastSigned ≤ context.instant - (later + earlier)) :
    let whole : Expr := .range selector (later + earlier)
    let before : Expr := .range { selector with timing := ⟨none, some later⟩ } earlier
    let after : Expr := .range selector later
    let counted (range : Expr) := (Expr.call (.range .countOverTime) [range]).eval context
    (¬ selector.Compiles ∧ ∃ failure, ∀ range ∈ [whole, before, after],
      range.eval context = .error failure ∧ counted range = .error failure) ∨
    ∃ all first second,
      (whole.eval context = .ok (.matrix all) ∧
        counted whole = .ok (.vector (pointCounts context.instant all))) ∧
      (before.eval context = .ok (.matrix first) ∧
        counted before = .ok (.vector (pointCounts context.instant first))) ∧
      (after.eval context = .ok (.matrix second) ∧
        counted after = .ok (.vector (pointCounts context.instant second))) ∧
      (∀ labels, pointsFor labels all = pointsFor labels first ++ pointsFor labels second) ∧
      ∀ labels, selector.Fits labels →
        (pointsFor labels first).length + (pointsFor labels second).length =
          context.store.samples.countP fun sample => sample.labels = labels ∧
            context.instant - (later + earlier) < sample.timestamp ∧
            sample.timestamp ≤ context.instant := by
  intro whole before after counted
  by_cases hcompiles : selector.Compiles
  case neg =>
    obtain ⟨failure, hmatchers⟩ := Selector.exists_failure hcompiles
    have hoffset : Selector.matchers { selector with timing := ⟨none, some later⟩ } =
        .error failure := hmatchers
    refine .inl ⟨hcompiles, failure, fun range hrange => ?_⟩
    simp only [List.mem_cons, List.not_mem_nil, or_false] at hrange
    rcases hrange with rfl | rfl | rfl
    · exact eval_range_of_failure hmatchers _ _
    · exact eval_range_of_failure hoffset _ _
    · exact eval_range_of_failure hmatchers _ _
  case pos =>
    obtain ⟨matchers, hmatchers⟩ := Selector.exists_matchers_iff.mpr hcompiles
    obtain ⟨hall, hfirst, hsecond⟩ :=
      Context.selectWindow_parts hmatchers htiming hearlier hrange
    have htile := @hfiled.pointsFor_select_append _ (context.instant - (later + earlier) + 1)
      context.instant matchers (context.instant - later) (by omega) (by omega)
    refine .inr ⟨_, _, _, eval_countOverTime hall, eval_countOverTime hfirst,
      eval_countOverTime hsecond, htile, fun labels hfits => ?_⟩
    have hinstant : selector.timing.readingInstant context = context.instant := by
      rw [htiming]
      exact Int.sub_zero _
    rw [← List.length_append, ← htile, Context.pointsFor_of_fits hfiled hall hfits, hinstant,
      windowStart_eq hrange, Store.length_pointsBetween]
    refine List.countP_congr fun sample _ => ?_
    rw [Bool.and_eq_true, Store.within_succ_iff, decide_eq_true_eq, decide_eq_true_eq]

/-- Two of three samples of a metric lie on the seam of two windows of a second. -/
theorem mixed_seconds_tile :
    let context : Context := ⟨.mixed, 300000, 2000, 2000, 2000⟩
    let up : Selector := ⟨some "up", [], [], .none⟩
    let labels : Labels := .ofList [(nameLabel, "up")]
    Store.mixed.Filed ∧ up.timing = .none ∧ leastSigned ≤ context.instant - (1000 + 1000) ∧
      ∃ first second,
        (Expr.range { up with timing := ⟨none, some 1000⟩ } 1000).eval context =
          .ok (.matrix first) ∧
        (Expr.range up 1000).eval context = .ok (.matrix second) ∧
        (pointsFor labels first).length + (pointsFor labels second).length = 3 := by
  intro context up labels
  have hfiled : Store.mixed.Filed := Store.filed_empty.addAll Store.mixedSamples
  have hrange : leastSigned ≤ context.instant - (1000 + 1000) := by decide
  have hcompiles : up.Compiles := Selector.compiles_name "up"
  have hfits : up.Fits labels := Selector.fits_name_iff.mpr rfl
  obtain ⟨hnot, -⟩ | ⟨-, first, second, -, hfirst, hsecond, -, hcount⟩ :=
    adjacent_windows_tile hfiled (rfl : up.timing = .none) (by decide : (0 : Int) < 1000)
      (by decide : (0 : Int) < 1000) hrange
  · exact absurd hcompiles hnot
  · refine ⟨hfiled, rfl, hrange, first, second, hfirst.1, hsecond.1, ?_⟩
    rw [hcount labels hfits]
    change List.countP _ Store.mixed.samples = 3
    rw [samples_mixed]
    decide

end MetricBench.Query
