import MetricBench.Proofs.Query.Elements
import MetricBench.Proofs.Query.Selectors
import MetricBench.Proofs.Store.Observation

/-!
# Where labels come from

Evaluation drops labels but does not make up names for them.  So a label name of a result is one of
the store's, or stands in a condition of the expression, from where the absence of a series takes its
labels.
-/

namespace MetricBench.Query

variable {kind : String → Prop}

/-- Whether all labels of a vector have names of a kind. -/
def EachElement (kind : String → Prop) (vector : Vector) : Prop :=
  ∀ element ∈ vector, element.labels.EachName kind

/-- Whether all labels of series have names of a kind. -/
def EachSeries (kind : String → Prop) (series : List Series) : Prop :=
  ∀ one ∈ series, one.labels.EachName kind

/-- Whether all labels of a value have names of a kind. -/
def Value.EachName (kind : String → Prop) : Value → Prop
  | .vector elements => EachElement kind elements
  | .matrix series => EachSeries kind series
  | .scalar _ | .string _ => True

/-! ### Elements -/

/-- Elements that derive from others have no other labels. -/
theorem EachElement.of_derives {vector result : Vector} (h : EachElement kind vector) {instant : Int}
    {passes : Bool} (hderives : EachDerives instant passes vector result) :
    EachElement kind result := by
  intro element helement
  obtain ⟨source, hsource, hderives⟩ := hderives element helement
  exact (h source hsource).of_includes hderives.labels

theorem Value.EachName.elements {value : Value} (h : value.EachName kind) :
    EachElement kind value.elements := by
  cases value with
  | vector samples => exact h
  | _ => exact fun _ helement => nomatch helement

theorem Value.MadeOf.eachName {value : Value}
    (h : value.MadeOf fun element => element.labels.EachName kind) : value.EachName kind := by
  cases value with
  | vector samples => exact h
  | matrix series => cases h
  | _ => trivial

/-! ### Operators -/

theorem yields_applyBinary {left right : Value} (hleft : left.EachName kind)
    (hright : right.EachName kind) (op : BinaryOp) (modifier : BinaryModifier) (instant : Int) :
    Yields (Value.EachName kind) (applyBinary op modifier instant left right) := by
  refine (derives_applyBinary op modifier instant left right).imp fun value hvalue => ?_
  refine (hvalue.imp fun element helement => ?_).eachName
  rcases helement with ⟨source, hsource, hderives⟩ | ⟨source, hsource, hderives⟩
  · exact (hleft.elements source hsource).of_includes hderives.labels
  · exact (hright.elements source hsource).of_includes hderives.labels

theorem yields_negate {value : Value} (h : value.EachName kind) :
    Yields (Value.EachName kind) (negate value) := by
  cases value with
  | scalar number => exact yields_ok trivial
  | vector samples =>
    refine yields_ok fun element helement => ?_
    obtain ⟨sample, hsample, rfl⟩ := List.mem_map.mp helement
    exact (h sample hsample).withoutName
  | matrix series => exact yields_error _ _
  | string text => exact yields_error _ _

theorem yields_evaluated {α : Type} {property : α → Prop} {outcome : Except EvalError α}
    (h : Yields property outcome) : Yields property (evaluated outcome) := by
  cases outcome with
  | ok value => exact yields_ok (h value rfl)
  | error failure => exact yields_error _ _

theorem EachElement.yields_apply {vector : Vector} (h : EachElement kind vector) (op : AggregateOp)
    (grouping : Option Grouping) (instant : Int) (parameter : Option Double) :
    Yields (EachElement kind) (evaluated (op.apply grouping instant parameter vector)) :=
  (yields_evaluated (derives_apply op grouping instant parameter vector)).imp fun _ hderives =>
    h.of_derives hderives

/-! ### Calls -/

theorem yields_asVector {value : Value} (h : value.EachName kind) (context : String) :
    Yields (EachElement kind) (value.asVector context) := by
  cases value with
  | vector samples => exact yields_ok h
  | _ => exact yields_error _ _

theorem yields_asMatrix {value : Value} (h : value.EachName kind) (context : String) :
    Yields (EachSeries kind) (value.asMatrix context) := by
  cases value with
  | matrix series => exact yields_ok h
  | _ => exact yields_error _ _

/-- Whether the labels that an argument has or that stand for its absence have names of a kind. -/
structure Argument.EachName (kind : String → Prop) (argument : Argument) : Prop where
  value : Yields (Value.EachName kind) argument.value
  absent : (absentLabels argument.expr).EachName kind

section

variable {function : Function} {arguments : List Argument}
variable (h : ∀ argument ∈ arguments, argument.EachName kind)

include h

theorem yields_argument (place : Nat) :
    Yields (Argument.EachName kind) (argument function arguments place) := fun chosen hchosen =>
  h chosen (List.mem_of_getElem? (argument_eq_ok_iff.mp hchosen))

theorem yields_vectorArgument (place : Nat) :
    Yields (EachElement kind) (vectorArgument function arguments place) := by
  refine (yields_argument h place).bind fun chosen hchosen => ?_
  exact hchosen.value.bind fun value hvalue => yields_asVector hvalue function.name

theorem yields_rangeArgument (place : Nat) :
    Yields (fun found => EachSeries kind found.1) (rangeArgument function arguments place) := by
  refine (yields_argument h place).bind fun chosen hchosen => ?_
  split
  · exact hchosen.value.bind fun value hvalue =>
      (yields_asMatrix hvalue function.name).bind fun series hseries => yields_ok hseries
  · exact yields_error _ _

theorem yields_applyFunction (instant : Int) :
    Yields (Value.EachName kind) (applyFunction function arguments instant) := by
  refine (yields_fromArguments function arguments instant).imp fun value hvalue => ?_
  refine (hvalue.imp fun element helement => ?_).eachName
  cases helement with
  | ofVector hvector hsource hderives =>
    exact (yields_vectorArgument h 0 _ hvector _ hsource).of_includes hderives.labels
  | ofRange hfound hseries value =>
    exact (yields_rangeArgument h _ _ hfound _ hseries).withoutName
  | ofAbsence hchosen value => exact (yields_argument h 0 _ hchosen).absent
  | single value => exact Labels.eachName_empty

end

/-! ### Expressions -/

/-- Whether all plain conditions of an expression's selectors are about labels of a kind. -/
def Expr.EachCondition (kind : String → Prop) (expr : Expr) : Prop :=
  ∀ selector ∈ expr.selectors, ∀ condition ∈ selector.conditions, kind condition.name

theorem Expr.EachCondition.absentLabels {expr : Expr} (h : expr.EachCondition kind) :
    (absentLabels expr).EachName kind := by
  cases expr with
  | selector selector =>
    apply Labels.eachName_ofList
    intro binding hbinding
    obtain ⟨condition, hcondition, hsome⟩ := List.mem_filterMap.mp hbinding
    split_ifs at hsome
    cases hsome
    exact h selector (List.mem_singleton_self selector) condition hcondition
  | _ => exact Labels.eachName_empty

/-- A selected series has the labels of a stored sample. -/
theorem exists_sample_of_mem_select {store : Store} {matchers : List Matcher} {start stop : Int}
    {series : Series} (h : series ∈ store.select matchers start stop) :
    ∃ sample ∈ store.samples, sample.labels = series.labels := by
  obtain ⟨⟨labels, members⟩, hentry, rfl⟩ := List.mem_map.mp h
  rw [SortedMap.mem_entries_iff, SortedMap.find?_groupBy] at hentry
  split_ifs at hentry with hnone
  obtain ⟨sample, hsample⟩ := List.exists_mem_of_ne_nil _ hnone
  obtain ⟨hmatching, hlabels⟩ := List.mem_filter.mp hsample
  exact ⟨sample, Store.mem_samples_of_mem_matching hmatching, of_decide_eq_true hlabels⟩

section

variable {context : Context}
variable (h : ∀ sample ∈ context.store.samples, sample.labels.EachName kind)

include h

theorem Context.yields_selectWindow (selector : Selector) (width : Int) :
    Yields (EachSeries kind) (context.selectWindow selector width) := by
  refine yields_bind _ fun matchers => yields_ok fun series hseries => ?_
  obtain ⟨sample, hsample, hlabels⟩ := exists_sample_of_mem_select hseries
  rw [← hlabels]
  exact h sample hsample

theorem Context.yields_selectInstant (selector : Selector) :
    Yields (EachElement kind) (context.selectInstant selector) := by
  refine (Context.yields_selectWindow h selector context.lookback).bind fun found hfound =>
    yields_ok fun element helement => ?_
  obtain ⟨series, hseries, hnewest⟩ := List.mem_flatMap.mp helement
  obtain ⟨point, -, rfl⟩ := List.mem_map.mp hnewest
  exact hfound series hseries

end

mutual

/-- The labels of a result have names of a kind when those of the store have and the conditions of
the expression are about such labels. -/
theorem Expr.yields_eval {context : Context}
    (h : ∀ sample ∈ context.store.samples, sample.labels.EachName kind) :
    (expr : Expr) → expr.EachCondition kind → Yields (Value.EachName kind) (expr.eval context)
  | .number _, _ => yields_ok trivial
  | .string _, _ => yields_ok trivial
  | .paren inner, hexpr => Expr.yields_eval h inner hexpr
  | .negation inner, hexpr =>
    (Expr.yields_eval h inner hexpr).bind fun _ hvalue => yields_negate hvalue
  | .selector selector, _ => (Context.yields_selectInstant h selector).map fun _ hvector => hvector
  | .range selector width, _ =>
    (Context.yields_selectWindow h selector width).map fun _ hseries => hseries
  | .subquery _ _, _ => yields_error _ _
  | .aggregate op grouping inner, hexpr => by
    have hinner := Expr.yields_eval h inner hexpr
    exact hinner.bind fun value hvalue => (yields_asVector hvalue op.name).bind fun vector hvector =>
      (hvector.yields_apply op grouping context.instant none).map fun _ hresult => hresult
  | .aggregateBy op grouping parameter inner, hexpr => by
    have hinner := Expr.yields_eval h inner fun selector hselector =>
      hexpr selector (List.mem_append_right _ hselector)
    exact yields_bind _ fun parameterValue => yields_bind _ fun number =>
      hinner.bind fun value hvalue => (yields_asVector hvalue op.name).bind fun vector hvector =>
        (hvector.yields_apply op grouping context.instant (some number)).map fun _ hresult => hresult
  | .binary op modifier left right, hexpr => by
    have hleft := Expr.yields_eval h left fun selector hselector =>
      hexpr selector (List.mem_append_left _ hselector)
    have hright := Expr.yields_eval h right fun selector hselector =>
      hexpr selector (List.mem_append_right _ hselector)
    exact hleft.bind fun leftValue hleftValue => hright.bind fun rightValue hrightValue =>
      yields_evaluated (yields_applyBinary hleftValue hrightValue op modifier _)
  | .call function arguments, hexpr =>
    yields_applyFunction (eachName_evalArguments h arguments hexpr) _
  | .extension, _ => yields_error _ _

/-- The same for the arguments of a call. -/
theorem eachName_evalArguments {context : Context}
    (h : ∀ sample ∈ context.store.samples, sample.labels.EachName kind) :
    (arguments : List Expr) →
    (∀ selector ∈ argumentSelectors arguments, ∀ condition ∈ selector.conditions,
      kind condition.name) →
    ∀ argument ∈ evalArguments context arguments, argument.EachName kind
  | [], _ => fun _ hargument => nomatch hargument
  | first :: rest, hexpr => by
    intro argument hargument
    have hfirst : first.EachCondition kind := fun selector hselector =>
      hexpr selector (List.mem_append_left _ hselector)
    rcases List.mem_cons.mp hargument with rfl | hmem
    · exact ⟨Expr.yields_eval h first hfirst, hfirst.absentLabels⟩
    · exact eachName_evalArguments h rest
        (fun selector hselector => hexpr selector (List.mem_append_right _ hselector)) argument hmem

end

end MetricBench.Query
