import MetricBench.Proofs.Edit.Reload
import MetricBench.Proofs.Query.OwnInstant

/-!
# Absent series

The absence of a selector that only asks for equal values is reported with the labels that it asks for.  A
series with these labels and the metric name of the selector ends it, whatever else is stored, as long as
there are label sets that the selector fits; and without such label sets nothing ends it.
-/

namespace MetricBench

namespace Store

/-- A sample that has been added is selected from its own bucket, however the others are filed. -/
theorem mem_matching_add (store : Store) {sample : Sample} {metric : String}
    (hmetric : sample.labels.metricName? = some metric) (hne : metric ≠ "") {matchers : List Matcher}
    {start stop : Int} (hpasses : passes matchers start stop sample = true) :
    sample ∈ (store.add sample).matching matchers start stop := by
  have hfind := find?_buckets_add_self store sample
  rw [Labels.filedName_eq hmetric hne, Labels.withFiledName_eq hmetric hne] at hfind
  rw [passes, Bool.and_eq_true, ← all_filter_and, Bool.and_eq_true, all_holds_eq hmetric] at hpasses
  obtain ⟨hwithin, hname, hothers⟩ := hpasses
  rw [matching, matchingIn_def]
  refine List.mem_flatMap.mpr ⟨_, SortedMap.mem_entries_iff.mpr hfind, ?_⟩
  dsimp only
  rw [if_pos hname]
  refine List.mem_filter.mpr ⟨List.mem_append_right _ (List.mem_singleton_self sample), ?_⟩
  rw [hwithin, hothers]
  rfl

end Store

namespace Query

open Number (leastSigned)

/-! ### Evaluation -/

/-- What is told of the absence of an expression that has a vector. -/
def absence (expr : Expr) (instant : Int) (vector : Vector) : Vector :=
  if vector.isEmpty then [⟨absentLabels expr, instant, 1.0⟩] else []

theorem absence_eq_nil_iff {expr : Expr} {instant : Int} {vector : Vector} :
    absence expr instant vector = [] ↔ vector ≠ [] := by
  cases vector with
  | nil => exact iff_of_false (List.cons_ne_nil _ _) fun h => h rfl
  | cons head rest => exact iff_of_true rfl (List.cons_ne_nil _ _)

section

variable {settings : Settings} {store : Store} {expr : Expr} {instant : Int}

theorem evalInstant_absent_eq_apply :
    evalInstant settings store (.call .absent [expr]) instant =
      applyFunction .absent [⟨expr, evalInstant settings store expr instant⟩] instant := by
  rw [evalInstant, Expr.eval, evalArguments, evalArguments]
  rfl

theorem evalInstant_absent {vector : Vector}
    (h : evalInstant settings store expr instant = .ok (.vector vector)) :
    evalInstant settings store (.call .absent [expr]) instant =
      .ok (.vector (absence expr instant vector)) := by
  rw [evalInstant_absent_eq_apply, h]
  cases vector <;> rfl

/-- Absence is told of expressions that have a vector, and from this vector. -/
theorem evalInstant_absent_eq_ok_iff {value : Value} :
    evalInstant settings store (.call .absent [expr]) instant = .ok value ↔
      ∃ vector, evalInstant settings store expr instant = .ok (.vector vector) ∧
        value = .vector (absence expr instant vector) := by
  constructor
  · intro h
    cases hexpr : evalInstant settings store expr instant with
    | error failure =>
      rw [evalInstant_absent_eq_apply, hexpr] at h
      cases h
    | ok found =>
      cases found with
      | vector vector =>
        rw [evalInstant_absent hexpr, Except.ok.injEq] at h
        exact ⟨vector, rfl, h.symm⟩
      | _ =>
        rw [evalInstant_absent_eq_apply, hexpr] at h
        cases h
  · rintro ⟨vector, hexpr, rfl⟩
    exact evalInstant_absent hexpr

end

/-! ### Labels that are asked for -/

namespace Selector

variable {selector : Selector}

/-- Whether a selector asks of labels only that they have values. -/
def AsksEqual (selector : Selector) : Prop := ∀ condition ∈ selector.conditions, condition.op = .equal

/-- Whether a metric name is the one that a selector gives, or any one if it gives none. -/
def Names (selector : Selector) (metric : String) : Prop :=
  (∀ name, selector.name = some name → name = metric) ∧
    ∀ condition ∈ selector.conditions, condition.name = nameLabel → condition.value = metric

/-- Whether there are label sets of a metric that a selector fits. -/
def Fulfillable (selector : Selector) : Prop :=
  ∃ labels metric, Labels.metricName? labels = some metric ∧ metric ≠ "" ∧ selector.Fits labels

theorem AsksEqual.compiles (h : selector.AsksEqual) : selector.Compiles := by
  intro condition hcondition hpattern
  rw [h condition hcondition] at hpattern
  rcases hpattern with hpattern | hpattern <;> cases hpattern

theorem AsksEqual.valueOf_eq (h : selector.AsksEqual) {labels : Labels} (hfits : selector.Fits labels)
    {condition : LabelMatch} (hcondition : condition ∈ selector.conditions) :
    labels.valueOf condition.name = condition.value := by
  have hmeets := hfits.2 condition hcondition
  rw [LabelMatch.Meets, h condition hcondition] at hmeets
  exact hmeets

/-- All conditions on a label ask for the value that it has in a label set that fits, so the last one of them
does. -/
theorem find?_absentLabels {labels : Labels} (hequal : selector.AsksEqual) (hfits : selector.Fits labels)
    {condition : LabelMatch} (hcondition : condition ∈ selector.conditions)
    (hname : condition.name ≠ nameLabel) :
    (absentLabels (.selector selector)).find? condition.name = some condition.value := by
  rw [absentLabels, SortedMap.find?_ofList]
  have hmem : condition.value ∈ ((selector.conditions.filterMap fun other =>
      if other.op = .equal ∧ other.name ≠ nameLabel then some (other.name, other.value) else none).filter
        fun binding => binding.1 = condition.name).map (·.2) := by
    refine List.mem_map.mpr ⟨(condition.name, condition.value), ?_, rfl⟩
    refine List.mem_filter.mpr ⟨List.mem_filterMap.mpr ⟨condition, hcondition, ?_⟩, decide_eq_true rfl⟩
    exact if_pos ⟨hequal condition hcondition, hname⟩
  obtain ⟨value, hvalue⟩ := Option.ne_none_iff_exists'.mp
    (mt List.getLast?_eq_none_iff.mp (List.ne_nil_of_mem hmem))
  rw [hvalue]
  obtain ⟨⟨name, _⟩, hbinding, rfl⟩ := List.mem_map.mp (List.mem_of_getLast? hvalue)
  obtain ⟨hasked, hsame⟩ := List.mem_filter.mp hbinding
  obtain ⟨other, hother, hmade⟩ := List.mem_filterMap.mp hasked
  split_ifs at hmade
  cases hmade
  have hlabel : other.name = condition.name := of_decide_eq_true hsame
  exact congrArg some (by rw [← hequal.valueOf_eq hfits hother, hlabel, hequal.valueOf_eq hfits hcondition])

/-- The labels of an absence fit the selector once they are named. -/
theorem fits_absentLabels (hequal : selector.AsksEqual) (hfulfillable : selector.Fulfillable)
    {metric : String} (hnames : selector.Names metric) :
    selector.Fits ((absentLabels (.selector selector)).named metric) := by
  obtain ⟨labels, -, -, -, hfits⟩ := hfulfillable
  refine ⟨fun name hname => ?_, fun condition hcondition => ?_⟩
  · rw [hnames.1 name hname]
    exact SortedMap.find?_insert_self _ _ _
  · rw [LabelMatch.Meets, hequal condition hcondition]
    change ((SortedMap.insert _ nameLabel metric).find? condition.name).getD "" = condition.value
    by_cases hname : condition.name = nameLabel
    · rw [hname, SortedMap.find?_insert_self, hnames.2 condition hcondition hname]
      rfl
    · rw [SortedMap.find?_insert_of_ne _ _ hname, find?_absentLabels hequal hfits hcondition hname]
      rfl

theorem Fulfillable.exists_names (h : selector.Fulfillable) (hequal : selector.AsksEqual) :
    ∃ metric, metric ≠ "" ∧ selector.Names metric := by
  obtain ⟨labels, metric, hmetric, hne, hfits⟩ := h
  refine ⟨metric, hne, fun name hname => ?_, fun condition hcondition hname => ?_⟩
  · exact Option.some.inj ((hfits.1 name hname).symm.trans hmetric)
  · rw [← hequal.valueOf_eq hfits hcondition, hname]
    exact congrArg (Option.getD · "") hmetric

end Selector

/-! ### The end of an absence -/

section

variable {settings : Settings} {store : Store} {selector : Selector} {instant : Int}

/-- A selector sees a sample that has been added at the instant, when the labels of the sample fit it. -/
theorem exists_evalInstant_add (store : Store) (hlookback : 1000000 ≤ settings.lookback)
    (hinstant : leastSigned < instant) (htiming : selector.timing = .none) {labels : Labels}
    (hfits : selector.Fits labels) {metric : String}
    (hmetric : labels.metricName? = some metric) (hne : metric ≠ "") (value : Double) :
    ∃ vector, vector ≠ [] ∧ evalInstant settings (store.add ⟨labels, value, instant⟩)
      (.selector selector) instant = .ok (.vector vector) := by
  obtain ⟨matchers, hmatchers⟩ := Selector.exists_matchers_iff.mpr hfits.compiles
  let context : Context :=
    ⟨store.add ⟨labels, value, instant⟩, settings.lookbackMillis, instant, instant, instant⟩
  have hreads : selector.timing.readingInstant context = instant := by
    rw [htiming]
    exact Int.sub_zero _
  have hpasses : Store.passes matchers (windowStart instant settings.lookbackMillis) instant
      ⟨labels, value, instant⟩ = true := by
    rw [Store.passes, (Selector.all_holds_iff hmatchers hmetric).mpr hfits, Bool.and_true]
    exact Store.within_succ_iff.mpr ⟨oldest_lt_iff.mpr ⟨hlookback, hinstant⟩, Int.le_refl instant⟩
  obtain ⟨series, hseries, -, hpoints⟩ :=
    exists_series_of_mem (store.mem_matching_add hmetric hne hpasses)
  obtain ⟨point, hpoint⟩ := List.exists_mem_of_ne_nil _ (newestPoints_ne_nil hpoints)
  refine ⟨_, ?_, congrArg (Except.map Value.vector)
    (@Context.selectInstant_eq_ok_iff context selector _ |>.mpr ⟨matchers, hmatchers, rfl⟩)⟩
  rw [hreads]
  exact List.ne_nil_of_mem (List.mem_flatMap.mpr ⟨series, hseries, List.mem_map_of_mem hpoint⟩)

/-- Where no label set fits, a selector sees nothing. -/
theorem evalInstant_eq_nil_of_not_fulfillable (settings : Settings) (instant : Int)
    (hfiled : Store.Filed { store with help := .empty }) (htiming : selector.timing = .none)
    (hequal : selector.AsksEqual) (hnone : ¬ selector.Fulfillable) :
    evalInstant settings store (.selector selector) instant = .ok (.vector []) := by
  obtain ⟨found, -, hfound, hvector⟩ :=
    evalInstant_selector settings hfiled htiming hequal.compiles instant
  have hempty : found = [] := List.eq_nil_iff_forall_not_mem.mpr fun labels hlabels => by
    obtain ⟨hfits, sample, hsample, rfl, -⟩ := (hfound labels).mp hlabels
    obtain ⟨metric, samples, hfind, hmem⟩ := Store.mem_samples_iff.mp hsample
    exact hnone ⟨sample.labels, metric, hfiled.labelled hfind sample hmem, hfiled.titled hfind, hfits⟩
  refine Eq.trans hvector ?_
  rw [hempty]
  rfl

end

/-- Absence is told of an expression exactly when its vector is empty.  What is told of a selector that only
asks for equal values gives the labels of a series that ends its absence: with a metric name of the selector,
or any one if it gives none, a sample of this series at the instant makes the vector of the selector hold an
element, whatever else is stored.  This takes label sets that the selector fits at all; without them the
selector stays absent from every store. -/
theorem absence_ends {settings : Settings} {store : Store} {instant : Int}
    (hlookback : 1000000 ≤ settings.lookback) (hinstant : leastSigned < instant) :
    (∀ expr : Expr,
      (evalInstant settings store (.call .absent [expr]) instant = .ok (.vector []) ↔
        ∃ vector, vector ≠ [] ∧ evalInstant settings store expr instant = .ok (.vector vector)) ∧
      ((∃ element, evalInstant settings store (.call .absent [expr]) instant =
          .ok (.vector [element])) ↔
        evalInstant settings store expr instant = .ok (.vector []))) ∧
    ∀ selector : Selector, selector.timing = .none → selector.AsksEqual →
      (selector.Fulfillable →
        (∃ metric, metric ≠ "" ∧ selector.Names metric) ∧
        ∀ told, evalInstant settings store (.call .absent [.selector selector]) instant =
            .ok (.vector told) →
          ∀ element ∈ told, ∀ metric, metric ≠ "" → selector.Names metric → ∀ value,
            let grown := store.add ⟨element.labels.named metric, value, instant⟩
            (∃ vector, vector ≠ [] ∧
              evalInstant settings grown (.selector selector) instant = .ok (.vector vector)) ∧
            evalInstant settings grown (.call .absent [.selector selector]) instant =
              .ok (.vector [])) ∧
      (¬ selector.Fulfillable → Store.Filed { store with help := .empty } →
        evalInstant settings store (.selector selector) instant = .ok (.vector []) ∧
        ∃ element, evalInstant settings store (.call .absent [.selector selector]) instant =
          .ok (.vector [element])) := by
  have hempty : ∀ (store : Store) (expr : Expr),
      evalInstant settings store (.call .absent [expr]) instant = .ok (.vector []) ↔
        ∃ vector, vector ≠ [] ∧ evalInstant settings store expr instant = .ok (.vector vector) := by
    intro store expr
    rw [evalInstant_absent_eq_ok_iff]
    refine exists_congr fun vector => ?_
    rw [and_comm, Value.vector.injEq, eq_comm, absence_eq_nil_iff]
  have htold : ∀ expr : Expr, (∃ element, evalInstant settings store (.call .absent [expr]) instant =
      .ok (.vector [element])) ↔ evalInstant settings store expr instant = .ok (.vector []) := by
    intro expr
    constructor
    · rintro ⟨element, h⟩
      obtain ⟨vector, hvector, habsence⟩ := evalInstant_absent_eq_ok_iff.mp h
      cases vector with
      | nil => exact hvector
      | cons head rest => cases habsence
    · intro h
      exact ⟨_, evalInstant_absent h⟩
  refine ⟨fun expr => ⟨hempty store expr, htold expr⟩, fun selector htiming hequal => ⟨?ends, ?stays⟩⟩
  case ends =>
    intro hfulfillable
    refine ⟨hfulfillable.exists_names hequal, ?_⟩
    intro told h element helement metric hne hnames value grown
    obtain ⟨vector, -, habsence⟩ := evalInstant_absent_eq_ok_iff.mp h
    have hlabels : element.labels = absentLabels (.selector selector) := by
      rw [Value.vector.inj habsence, absence] at helement
      split at helement
      · rw [List.mem_singleton.mp helement]
      · cases helement
    have hfits := Selector.fits_absentLabels hequal hfulfillable hnames
    rw [← hlabels] at hfits
    have hseen := exists_evalInstant_add store hlookback hinstant htiming hfits
      (SortedMap.find?_insert_self _ _ _) hne value
    exact ⟨hseen, (hempty _ _).mpr hseen⟩
  case stays =>
    intro hnone hfiled
    have hnil :=
      evalInstant_eq_nil_of_not_fulfillable settings instant hfiled htiming hequal hnone
    exact ⟨hnil, (htold _).mpr hnil⟩

/-- The absence of a job without a code is told with both labels, and one more sample ends it.  Two jobs at
once stay absent. -/
theorem job_without_code_ends :
    let job : Selector := ⟨some "up", [⟨"job", .equal, "c"⟩, ⟨"code", .equal, ""⟩], [], .none⟩
    let twoJobs : Selector := ⟨some "up", [⟨"job", .equal, "a"⟩, ⟨"job", .equal, "b"⟩], [], .none⟩
    let labels : Labels := .ofList [("job", "c"), ("code", "")]
    let grown := Store.mixed.add ⟨labels.named "up", 1.0, 1500⟩
    leastSigned < 1500 ∧ job.AsksEqual ∧ job.Fulfillable ∧ twoJobs.AsksEqual ∧ ¬ twoJobs.Fulfillable ∧
      Store.Filed { Store.mixed with help := .empty } ∧
      evalInstant .standard .mixed (.call .absent [.selector job]) 1500 =
        .ok (.vector [⟨labels, 1500, 1.0⟩]) ∧
      evalInstant .standard grown (.call .absent [.selector job]) 1500 = .ok (.vector []) ∧
      (∃ vector, vector ≠ [] ∧
        evalInstant .standard grown (.selector job) 1500 = .ok (.vector vector)) ∧
      evalInstant .standard .mixed (.selector twoJobs) 1500 = .ok (.vector []) := by
  intro job twoJobs labels grown
  have hinstant : leastSigned < 1500 := by decide
  have hequal : job.AsksEqual := by simp [job, Selector.AsksEqual]
  have htwoEqual : twoJobs.AsksEqual := by simp [twoJobs, Selector.AsksEqual]
  have hfulfillable : job.Fulfillable := by
    refine ⟨.ofList [(nameLabel, "up"), ("job", "c")], "up", rfl, by decide, ?_, ?_⟩
    · rintro name ⟨⟩
      rfl
    · intro condition hcondition
      simp only [job, List.mem_cons, List.not_mem_nil, or_false] at hcondition
      rcases hcondition with rfl | rfl <;> rfl
  have hnone : ¬ twoJobs.Fulfillable := by
    rintro ⟨found, metric, -, -, hfits⟩
    have hfirst : found.valueOf "job" = "a" := hfits.2 ⟨"job", .equal, "a"⟩ (.head _)
    have hsecond : found.valueOf "job" = "b" := hfits.2 ⟨"job", .equal, "b"⟩ (.tail _ (.head _))
    exact absurd (hfirst.symm.trans hsecond) (by decide)
  have hnames : job.Names "up" := by
    refine ⟨?_, ?_⟩
    · rintro name ⟨⟩
      rfl
    · simp [job, nameLabel]
  have hfiled : Store.Filed { Store.mixed with help := .empty } :=
    Store.filed_empty.addAll Store.mixedSamples
  have htold : evalInstant .standard .mixed (.call .absent [.selector job]) 1500 =
      .ok (.vector [⟨labels, 1500, 1.0⟩]) := by rfl
  obtain ⟨-, hselectors⟩ := @absence_ends .standard .mixed 1500 (by decide) hinstant
  obtain ⟨hseen, hended⟩ := ((hselectors job rfl hequal).1 hfulfillable).2 _ htold _
    (List.mem_singleton_self _) "up" (by decide) hnames 1.0
  have hstays := (hselectors twoJobs rfl htwoEqual).2 hnone hfiled
  exact ⟨hinstant, hequal, hfulfillable, htwoEqual, hnone, hfiled, htold, hended, hseen, hstays.1⟩

/-- A selector that asks for two values of one label is absent with one of them, and a series with this value
does not end its absence. -/
theorem two_jobs_stay_absent :
    let twoJobs : Selector := ⟨some "up", [⟨"job", .equal, "a"⟩, ⟨"job", .equal, "b"⟩], [], .none⟩
    let labels : Labels := .ofList [("job", "b")]
    parse "absent(up\x7bjob=\"a\",job=\"b\"\x7d)" = .ok (.call .absent [.selector twoJobs]) ∧
      twoJobs.timing = .none ∧ twoJobs.AsksEqual ∧
      evalInstant .standard .empty (.call .absent [.selector twoJobs]) 1500 =
        .ok (.vector [⟨labels, 1500, 1.0⟩]) ∧
      evalInstant .standard (Store.add .empty ⟨labels.named "up", 1.0, 1500⟩)
        (.call .absent [.selector twoJobs]) 1500 = .ok (.vector [⟨labels, 1500, 1.0⟩]) := by
  refine ⟨by cbv, rfl, by simp [Selector.AsksEqual], ?_, ?_⟩
  · rfl
  · rfl

end Query

end MetricBench
