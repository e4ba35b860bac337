import MetricBench.Proofs.Query.LabelSources
import MetricBench.Proofs.Query.SelectorMeaning

/-!
# Operators with a grouped side

A modifier may say that several elements of one side match one of the other.  The elements are still
matched one to one, and an element of the answer has, besides the metric name, only those labels of
the grouped element that elements are matched by.  So grouped elements keep their labels exactly
where all of these are matched by.
-/

namespace MetricBench.Query

/-! ### Labels that elements are matched by -/

/-- Whether elements are matched by the label with the given name. -/
def matchesBy (matching : Option Grouping) (name : String) : Bool :=
  match matching with
  | none => true
  | some (.including names) => names.contains name
  | some (.excluding names) => !names.contains name

theorem resultLabels_eq (keepsName : Bool) (matching : Option Grouping) (labels : Labels) :
    resultLabels keepsName matching labels =
      (if keepsName then labels else labels.withoutName).restrict (matchesBy matching) := by
  match matching with
  | none => exact (Labels.restrict_eq_self_iff.mpr fun _ _ => rfl).symm
  | some (.including names) => rfl
  | some (.excluding names) => rfl

/-- A result has, besides the metric name, the labels that its element is matched by. -/
theorem withoutName_resultLabels (keepsName : Bool) (matching : Option Grouping)
    (labels : Labels) :
    (resultLabels keepsName matching labels).withoutName =
      labels.withoutName.restrict (matchesBy matching) := by
  rw [resultLabels_eq, Labels.withoutName_restrict]
  split_ifs
  · rfl
  · rw [Labels.withoutName_withoutName]

/-- The labels of a key are those of a result, with the metric name or without it. -/
theorem matchKey_eq (matching : Option Grouping) (labels : Labels) :
    ∃ keepsName, matchKey matching labels = resultLabels keepsName matching labels := by
  match matching with
  | none => exact ⟨false, rfl⟩
  | some (.including names) => exact ⟨true, rfl⟩
  | some (.excluding names) =>
    have hname (name : String) : (compare nameLabel name != .eq) = (name != nameLabel) := by
      rw [Bool.eq_iff_iff, bne_iff_ne, bne_iff_ne, ne_eq, Std.LawfulEqOrd.compare_eq_iff_eq,
        eq_comm]
    have hentries : (labels.withoutName.restrict fun name => !names.contains name).entries =
        labels.entries.filter fun entry =>
          !names.contains entry.1 && (compare nameLabel entry.1 != .eq) :=
      List.filter_filter
    refine ⟨false, SortedMap.ext (Eq.trans ?_ hentries.symm)⟩
    refine List.filter_congr fun entry _ => ?_
    rw [hname, Bool.and_comm]

theorem withoutName_matchKey (matching : Option Grouping) (labels : Labels) :
    (matchKey matching labels).withoutName =
      labels.withoutName.restrict (matchesBy matching) := by
  obtain ⟨keepsName, hkey⟩ := matchKey_eq matching labels
  rw [hkey, withoutName_resultLabels]

/-! ### Matched pairs -/

/-- The element of a pair on the given side. -/
def ManySide.of (side : ManySide) (pair : InstantSample × InstantSample) : InstantSample :=
  match side with
  | .left => pair.1
  | .right => pair.2

/-- Pairs of elements of two vectors that are matched one to one. -/
structure OneToOne (matching : Option Grouping) (lefts rights : Vector)
    (pairs : List (InstantSample × InstantSample)) : Prop where
  left : ∀ pair ∈ pairs, pair.1 ∈ lefts
  right : ∀ pair ∈ pairs, pair.2 ∈ rights
  matched : ∀ pair ∈ pairs, matchKey matching pair.1.labels = matchKey matching pair.2.labels
  once : (pairs.map fun pair => matchKey matching pair.1.labels).Nodup

theorem OneToOne.sublist {matching : Option Grouping} {lefts rights : Vector}
    {pairs fewer : List (InstantSample × InstantSample)} (h : OneToOne matching lefts rights pairs)
    (hfewer : fewer.Sublist pairs) : OneToOne matching lefts rights fewer where
  left pair hpair := h.left pair (hfewer.subset hpair)
  right pair hpair := h.right pair (hfewer.subset hpair)
  matched pair hpair := h.matched pair (hfewer.subset hpair)
  once := h.once.sublist (hfewer.map _)

theorem oneToOne_nil {matching : Option Grouping} {lefts rights : Vector} :
    OneToOne matching lefts rights [] where
  left _ hpair := nomatch hpair
  right _ hpair := nomatch hpair
  matched _ hpair := nomatch hpair
  once := .nil

theorem oneToOne_of_matchOneToOne {matching : Option Grouping} {lefts rights : Vector}
    {pairs : List (InstantSample × InstantSample)}
    (h : matchOneToOne matching lefts rights = .ok pairs) :
    OneToOne matching lefts rights pairs := by
  obtain ⟨-, honce, hpairs⟩ := matchOneToOne_eq_ok_iff.mp h
  have hmatched : ∀ pair ∈ pairs, pair.1 ∈ lefts ∧ pair.2 ∈ rights ∧
      matchKey matching pair.1.labels = matchKey matching pair.2.labels := by
    intro pair hpair
    rw [hpairs] at hpair
    exact mem_of_mem_matched hpair
  exact ⟨fun pair hpair => (hmatched pair hpair).1, fun pair hpair => (hmatched pair hpair).2.1,
    fun pair hpair => (hmatched pair hpair).2.2, honce⟩

/-! ### Elements of an answer -/

/-- Whether an element has the labels of another, besides the metric name. -/
def InstantSample.KeepsLabels (element source : InstantSample) : Prop :=
  element.labels.withoutName = source.labels.withoutName

theorem withoutName_labels_combine {op : BinaryOp} {modifier : BinaryModifier} {instant : Int}
    {pair : InstantSample × InstantSample} {element : InstantSample}
    (h : combine? op modifier instant pair = some element) :
    element.labels.withoutName =
      pair.1.labels.withoutName.restrict (matchesBy modifier.matching) := by
  cases op with
  | arithmetic op =>
    cases h
    exact withoutName_resultLabels _ _ _
  | comparison op =>
    simp only [combine?] at h
    split_ifs at h
    · cases h
      exact withoutName_resultLabels _ _ _
    · cases h
      exact withoutName_resultLabels _ _ _
  | set _ | unknown _ => cases h

/-- The two elements of a matched pair agree in the labels that they are matched by. -/
theorem restrict_of_matched {matching : Option Grouping}
    {pair : InstantSample × InstantSample}
    (h : matchKey matching pair.1.labels = matchKey matching pair.2.labels) (side : ManySide) :
    (side.of pair).labels.withoutName.restrict (matchesBy matching) =
      pair.1.labels.withoutName.restrict (matchesBy matching) := by
  cases side with
  | left => rfl
  | right =>
    rw [← withoutName_matchKey, ← withoutName_matchKey, h]
    rfl

/-- What some elements of a list are made into stands beside these elements, in their order. -/
theorem exists_sources {α β : Type} {make : α → Option β} {elements : List α} {R : β → α → Prop}
    (h : ∀ source ∈ elements, ∀ made, make source = some made → R made source) :
    ∃ sources : List α, sources.Sublist elements ∧
      List.Forall₂ R (elements.filterMap make) sources := by
  induction elements with
  | nil => exact ⟨[], .slnil, .nil⟩
  | cons head rest ih =>
    obtain ⟨hfirst, hrest⟩ := List.forall_mem_cons.mp h
    obtain ⟨sources, hsources, hmade⟩ := ih hrest
    cases hhead : make head with
    | none =>
      rw [List.filterMap_cons_none hhead]
      exact ⟨sources, hsources.cons head, hmade⟩
    | some made =>
      rw [List.filterMap_cons_some hhead]
      exact ⟨head :: sources, hsources.cons_cons head, .cons (hfirst made hhead) hmade⟩

/-- How an element of an answer comes from a matched pair.  Besides the metric name it has those
labels of the grouped element that elements are matched by, which need not be all of them. -/
def ComesFromPair (matching : Option Grouping) (side : ManySide) (element : InstantSample)
    (pair : InstantSample × InstantSample) : Prop :=
  let grouped := side.of pair
  element.labels.withoutName = grouped.labels.withoutName.restrict (matchesBy matching) ∧
    (element.KeepsLabels grouped ↔
      ∀ name ∈ grouped.labels.withoutName.keys, matchesBy matching name = true)

theorem comesFromPair_of_combine {op : BinaryOp} {modifier : BinaryModifier} {instant : Int}
    {pair : InstantSample × InstantSample} {element : InstantSample}
    (hcombine : combine? op modifier instant pair = some element)
    (hmatched : matchKey modifier.matching pair.1.labels =
      matchKey modifier.matching pair.2.labels) (side : ManySide) :
    ComesFromPair modifier.matching side element pair := by
  have hlabels : element.labels.withoutName =
      (side.of pair).labels.withoutName.restrict (matchesBy modifier.matching) := by
    rw [restrict_of_matched hmatched, withoutName_labels_combine hcombine]
  refine ⟨hlabels, ?_⟩
  rw [InstantSample.KeepsLabels, hlabels, Labels.restrict_eq_self_iff]

/-- How an answer comes from the values of the operands, the elements of one side being grouped. -/
def ComesFromOperands (op : BinaryOp) (matching : Option Grouping) (side : ManySide) :
    Value → Value → Value → Prop
  | .scalar _, .scalar _, .scalar _ => True
  | .vector elements, .scalar _, .vector answer
  | .scalar _, .vector elements, .vector answer =>
    ∃ sources : Vector, sources.Sublist elements ∧
      List.Forall₂ InstantSample.KeepsLabels answer sources
  | .vector lefts, .vector rights, .vector answer =>
    match op with
    | .set _ => ∀ element ∈ answer, element ∈ lefts ∨ element ∈ rights
    | _ => ∃ pairs, OneToOne matching lefts rights pairs ∧
      List.Forall₂ (ComesFromPair matching side) answer pairs
  | _, _, _ => False

theorem keepsLabels_map {vector : Vector} {change : InstantSample → InstantSample}
    (h : ∀ element, (change element).KeepsLabels element) :
    List.Forall₂ InstantSample.KeepsLabels (vector.map change) vector := by
  rw [List.forall₂_map_left_iff, List.forall₂_same]
  exact fun element _ => h element

theorem exists_sources_of_vectorScalar {op : BinaryOp} {returnsNumber swapped : Bool}
    {instant : Int} {vector answer : Vector} {scalar : Double}
    (h : vectorScalar op returnsNumber swapped instant vector scalar = .ok answer) :
    ∃ sources : Vector, sources.Sublist vector ∧
      List.Forall₂ InstantSample.KeepsLabels answer sources := by
  have hcomputed (element : InstantSample) (value : Double) :
      (element.computed instant value).KeepsLabels element :=
    Labels.withoutName_withoutName element.labels
  cases op with
  | arithmetic op =>
    cases h
    exact ⟨vector, .refl _, keepsLabels_map fun element => hcomputed element _⟩
  | comparison op =>
    cases returnsNumber with
    | true =>
      cases h
      exact ⟨vector, .refl _, keepsLabels_map fun element => hcomputed element _⟩
    | false =>
      cases h
      exact ⟨_, List.filter_sublist, List.forall₂_same.mpr fun _ _ => rfl⟩
  | set _ | unknown _ =>
    simp only [vectorScalar] at h
    split_ifs at h
    cases h
    exact ⟨[], List.nil_sublist _, .nil⟩

theorem exists_pairs_of_matched {op : BinaryOp} {modifier : BinaryModifier}
    {lefts rights answer : Vector} {instant : Int}
    (h : (matchOneToOne modifier.matching lefts rights >>= fun pairs =>
      .ok (pairs.filterMap (combine? op modifier instant))) = .ok answer) (side : ManySide) :
    ∃ pairs, OneToOne modifier.matching lefts rights pairs ∧
      List.Forall₂ (ComesFromPair modifier.matching side) answer pairs := by
  obtain ⟨pairs, hpairs, hanswer⟩ := bind_eq_ok_iff.mp h
  cases hanswer
  have hmatched := oneToOne_of_matchOneToOne hpairs
  have hcomes : ∀ pair ∈ pairs, ∀ element, combine? op modifier instant pair = some element →
      ComesFromPair modifier.matching side element pair := fun pair hpair element hcombine =>
    comesFromPair_of_combine hcombine (hmatched.matched pair hpair) side
  obtain ⟨sources, hsources, hanswer⟩ := exists_sources hcomes
  exact ⟨sources, hmatched.sublist hsources, hanswer⟩

theorem comesFromOperands_of_applyBinary {op : BinaryOp} {modifier : BinaryModifier}
    {instant : Int} {left right value : Value}
    (h : applyBinary op modifier instant left right = .ok value) (side : ManySide) :
    ComesFromOperands op modifier.matching side left right value := by
  cases left with
  | scalar a =>
    cases right with
    | scalar b =>
      obtain ⟨number, -, rfl⟩ := map_eq_ok_iff.mp h
      trivial
    | vector elements =>
      obtain ⟨answer, hanswer, rfl⟩ := map_eq_ok_iff.mp h
      exact exists_sources_of_vectorScalar hanswer
    | matrix series => cases h
    | string text => cases h
  | vector lefts =>
    cases right with
    | scalar b =>
      obtain ⟨answer, hanswer, rfl⟩ := map_eq_ok_iff.mp h
      exact exists_sources_of_vectorScalar hanswer
    | vector rights =>
      obtain ⟨answer, hanswer, rfl⟩ := map_eq_ok_iff.mp h
      cases op with
      | arithmetic op => exact exists_pairs_of_matched hanswer side
      | comparison op => exact exists_pairs_of_matched hanswer side
      | set op =>
        cases hanswer
        exact fun element helement => (mem_of_mem_setOperation helement).imp_right And.right
      | unknown name =>
        obtain ⟨pairs, -, hanswer⟩ := bind_eq_ok_iff.mp hanswer
        split_ifs at hanswer
        cases hanswer
        exact ⟨[], oneToOne_nil, .nil⟩
    | matrix series => cases h
    | string text => cases h
  | matrix series => cases h
  | string text => cases h

theorem evaluated_eq_ok_iff {α : Type} {outcome : Except EvalError α} {value : α} :
    evaluated outcome = .ok value ↔ outcome = .ok value := by
  cases outcome with
  | ok result => simp [evaluated]
  | error failure => simp [evaluated, failing]

/-- An operator whose modifier groups a side answers as if it did not.  Each element of the answer
comes from one pair of elements that are matched one to one, and its labels are those of the grouped
element that elements are matched by; it keeps all labels of the grouped element exactly when all of
them are matched by. -/
theorem evalInstant_grouped (settings : Settings) (store : Store) (op : BinaryOp)
    (returnsNumber : Bool) (matching : Option Grouping) (side : ManySide) (taken : List String)
    (left right : Expr) (instant : Int) {value : Value}
    (h : evalInstant settings store
      (.binary op ⟨returnsNumber, matching, some (side, taken)⟩ left right) instant = .ok value) :
    ∃ leftValue rightValue,
      evalInstant settings store left instant = .ok leftValue ∧
      evalInstant settings store right instant = .ok rightValue ∧
      ComesFromOperands op matching side leftValue rightValue value := by
  rw [evalInstant, Expr.eval] at h
  obtain ⟨leftValue, hleft, h⟩ := bind_eq_ok_iff.mp h
  obtain ⟨rightValue, hright, h⟩ := bind_eq_ok_iff.mp h
  exact ⟨leftValue, rightValue, hleft, hright,
    comesFromOperands_of_applyBinary (evaluated_eq_ok_iff.mp h) side⟩

/-! ### Grouped elements that lose labels -/

/-- A selector that one stored sample passes gives the vector of this sample. -/
theorem selectInstant_of_matching_eq {context : Context} {selector : Selector}
    {matchers : List Matcher} {element : InstantSample}
    (hmatchers : selector.matchers = .ok matchers)
    (h : context.store.matching matchers
      (windowStart (selector.timing.readingInstant context) context.lookback)
      (selector.timing.readingInstant context) =
        [⟨element.labels, element.value, element.timestamp⟩]) :
    context.selectInstant selector = .ok [element] := by
  have hsorted : [(⟨element.timestamp, element.value⟩ : Point)].mergeSort Point.notAfter =
      [⟨element.timestamp, element.value⟩] := List.mergeSort_singleton _
  have hseries : Series.ofSamples [⟨element.labels, element.value, element.timestamp⟩] =
      [⟨element.labels, [⟨element.timestamp, element.value⟩]⟩] := by
    conv_rhs => rw [← hsorted]
    rfl
  have hnewest : newestPoints [(⟨element.timestamp, element.value⟩ : Point)] =
      [⟨element.timestamp, element.value⟩] := by
    simp [newestPoints]
  refine Context.selectInstant_eq_ok_iff.mpr ⟨matchers, hmatchers, ?_⟩
  rw [Store.select, h, hseries, List.flatMap_singleton, newestSamples, hnewest]
  rfl

/-- The errors of a job with one code. -/
def codedErrors : InstantSample :=
  ⟨.ofList [(nameLabel, "errors"), ("code", "500"), ("job", "a")], 1000, 6⟩

/-- The limit of the job. -/
def jobLimit : InstantSample := ⟨.ofList [(nameLabel, "limits"), ("job", "a")], 1000, 3⟩

/-- A store of both. -/
def limited : Store :=
  .addAll .empty ([codedErrors, jobLimit].map fun element =>
    ⟨element.labels, element.value, element.timestamp⟩)

/-- The selector of a metric. -/
def ofMetric (name : String) : Expr := .selector ⟨some name, [], [], .none⟩

/-- A quotient that is matched by the job, with the left side grouped. -/
def perJob (left right : String) : Expr :=
  .binary (.arithmetic .divide) ⟨false, some (.including ["job"]), some (.left, [])⟩
    (ofMetric left) (ofMetric right)

theorem evalInstant_errors :
    evalInstant .standard limited (ofMetric "errors") 1500 = .ok (.vector [codedErrors]) := by
  have hselect : (⟨limited, 300000, 1500, 1500, 1500⟩ : Context).selectInstant
      ⟨some "errors", [], [], .none⟩ = .ok [codedErrors] := selectInstant_of_matching_eq rfl rfl
  exact congrArg (Except.map Value.vector) hselect

theorem evalInstant_limits :
    evalInstant .standard limited (ofMetric "limits") 1500 = .ok (.vector [jobLimit]) := by
  have hselect : (⟨limited, 300000, 1500, 1500, 1500⟩ : Context).selectInstant
      ⟨some "limits", [], [], .none⟩ = .ok [jobLimit] := selectInstant_of_matching_eq rfl rfl
  exact congrArg (Except.map Value.vector) hselect

theorem evalInstant_perJob {left right : String} {lefts rights : Vector} {answer : Vector}
    (hleft : evalInstant .standard limited (ofMetric left) 1500 = .ok (.vector lefts))
    (hright : evalInstant .standard limited (ofMetric right) 1500 = .ok (.vector rights))
    (h : vectorVector (.arithmetic .divide) ⟨false, some (.including ["job"]), some (.left, [])⟩
      1500 lefts rights = .ok answer) :
    evalInstant .standard limited (perJob left right) 1500 = .ok (.vector answer) := by
  rw [evalInstant] at hleft hright
  rw [evalInstant, perJob, Expr.eval, hleft, hright]
  exact congrArg (fun outcome => evaluated (outcome.map Value.vector)) h

/-- The limit has no label beside those that it is matched by, and keeps them. -/
theorem limit_keeps_labels :
    ∃ element, evalInstant .standard limited (perJob "limits" "errors") 1500 =
      .ok (.vector [element]) ∧ element.KeepsLabels jobLimit := by
  have hanswer : evalInstant .standard limited (perJob "limits" "errors") 1500 = .ok (.vector
      [⟨.ofList [("job", "a")], 1500, jobLimit.value / codedErrors.value⟩]) :=
    evalInstant_perJob evalInstant_limits evalInstant_errors rfl
  obtain ⟨leftValue, rightValue, hleft, hright, hcomes⟩ :=
    evalInstant_grouped .standard limited (.arithmetic .divide) false (some (.including ["job"]))
      .left [] (ofMetric "limits") (ofMetric "errors") 1500 hanswer
  obtain rfl : leftValue = .vector [jobLimit] :=
    Except.ok.inj (hleft.symm.trans evalInstant_limits)
  obtain rfl : rightValue = .vector [codedErrors] :=
    Except.ok.inj (hright.symm.trans evalInstant_errors)
  obtain ⟨pairs, honce, hpairs⟩ := hcomes
  cases hpairs with
  | @cons _ pair _ _ hpair hrest =>
    have hgrouped : pair.1 = jobLimit := List.mem_singleton.mp (honce.left pair List.mem_cons_self)
    have hkeeps := hpair.2
    rw [ManySide.of, hgrouped] at hkeeps
    exact ⟨_, hanswer, hkeeps.mpr (by decide)⟩

/-- The errors lose their code: the query is answered with the labels that both sides have. -/
theorem instantQuery_group_left :
    let query := "errors / on(job) group_left limits"
    parse query = .ok (perJob "errors" "limits") ∧ limited.Filed ∧
      evalInstant .standard limited (ofMetric "errors") 1500 = .ok (.vector [codedErrors]) ∧
      ∃ element, instantQuery .standard limited query 1500 = .ok (.vector [element]) ∧
        ¬ element.KeepsLabels codedErrors := by
  intro query
  have hparse : parse query = .ok (perJob "errors" "limits") := by cbv
  have hanswer : evalInstant .standard limited (perJob "errors" "limits") 1500 = .ok (.vector
      [⟨.ofList [("job", "a")], 1500, codedErrors.value / jobLimit.value⟩]) :=
    evalInstant_perJob evalInstant_errors evalInstant_limits rfl
  have hquery : instantQuery .standard limited query 1500 = .ok (.vector
      [⟨.ofList [("job", "a")], 1500, codedErrors.value / jobLimit.value⟩]) := by
    rw [instantQuery, hparse]
    exact hanswer
  refine ⟨hparse, Store.filed_empty.addAll _, evalInstant_errors, _, hquery, ?_⟩
  rw [InstantSample.KeepsLabels]
  decide

end MetricBench.Query
