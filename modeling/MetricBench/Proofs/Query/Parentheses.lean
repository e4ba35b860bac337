import MetricBench.Proofs.Query.GroupedMatching

/-!
# Parentheses

Parentheses around a part of an expression change neither its value nor whether it is a comparison
that filters.  The exceptions are arguments whose form a function looks at: the ranges of functions of
ranges, and the selector whose labels stand for its absence.  In parentheses such an argument is not
recognized.
-/

namespace MetricBench.Query

/-! ### Forms that functions look at -/

/-- The width of an expression that is a range. -/
def Expr.rangeWidth? : Expr → Option Int
  | .range _ width => some width
  | _ => none

/-- What a function reads off the form of an argument, besides its value: the width of a range, and
the labels that stand for the absence of what a selector selects. -/
def Function.reads (function : Function) (place : Nat) (expr : Expr) : Option Int × Labels :=
  match function, place with
  | .range _, 0 => (expr.rangeWidth?, .empty)
  | .quantileOverTime, 1 => (expr.rangeWidth?, .empty)
  | .absent, 0 => (none, absentLabels expr)
  | _, _ => (none, .empty)

/-- Whether expressions differ neither for a function nor in their values, as arguments of a call. -/
structure ArgumentsAlike (function : Function) (arguments others : List Argument) : Prop where
  length : arguments.length = others.length
  value : ∀ {place : Nat} {argument other : Argument}, arguments[place]? = some argument →
    others[place]? = some other → argument.value = other.value
  reads : ∀ {place : Nat} {argument other : Argument}, arguments[place]? = some argument →
    others[place]? = some other →
      function.reads place argument.expr = function.reads place other.expr

section

variable {function : Function} {arguments others : List Argument} {α : Type}
variable (h : ArgumentsAlike function arguments others)

include h

theorem ArgumentsAlike.bind_argument {place : Nat} {next after : Argument → Except QueryError α}
    (hnext : ∀ argument other, argument.value = other.value →
      function.reads place argument.expr = function.reads place other.expr →
        next argument = after other) :
    (argument function arguments place >>= next) = (argument function others place >>= after) := by
  rw [argument, argument]
  cases hfirst : arguments[place]? with
  | none =>
    have hother : others[place]? = none := by
      rw [List.getElem?_eq_none_iff] at hfirst ⊢
      exact h.length ▸ hfirst
    rw [hother]
    rfl
  | some chosen =>
    obtain ⟨other, hother⟩ : ∃ other, others[place]? = some other := by
      obtain ⟨hplace, -⟩ := List.getElem?_eq_some_iff.mp hfirst
      exact ⟨_, List.getElem?_eq_getElem (h.length ▸ hplace)⟩
    rw [hother]
    exact hnext chosen other (h.value hfirst hother) (h.reads hfirst hother)

theorem ArgumentsAlike.vectorArgument_eq (place : Nat) :
    vectorArgument function arguments place = vectorArgument function others place :=
  h.bind_argument fun argument other hvalue _ => by rw [hvalue]

theorem ArgumentsAlike.scalarArgument_eq (place : Nat) :
    scalarArgument function arguments place = scalarArgument function others place :=
  h.bind_argument fun argument other hvalue _ => by rw [hvalue]

theorem ArgumentsAlike.rangeArgument_eq (place : Nat)
    (hreads : ∀ expr, function.reads place expr = (expr.rangeWidth?, .empty)) :
    rangeArgument function arguments place = rangeArgument function others place := by
  refine h.bind_argument fun argument other hvalue hsame => ?_
  rw [hreads, hreads, Prod.mk.injEq] at hsame
  have hrange (chosen : Argument) :
      (match chosen.expr with
        | .range _ width => do
          .ok (← (← chosen.value).asMatrix function.name, width)
        | _ => failing (.rangeExpected function.name) : Except QueryError (List Series × Int)) =
      match chosen.expr.rangeWidth? with
        | some width => do .ok (← (← chosen.value).asMatrix function.name, width)
        | none => failing (.rangeExpected function.name) := by
    cases chosen.expr <;> rfl
  refine (hrange argument).trans (Eq.trans ?_ (hrange other).symm)
  rw [hvalue, hsame.1]

theorem ArgumentsAlike.applyFunction_eq (instant : Int) :
    applyFunction function arguments instant = applyFunction function others instant := by
  cases function with
  | time => rfl
  | absent =>
    have hlabels : (argument .absent arguments 0 >>= fun chosen =>
          .ok (.vector [⟨absentLabels chosen.expr, instant, 1.0⟩]) : Except QueryError Value) =
        argument .absent others 0 >>= fun chosen =>
          .ok (.vector [⟨absentLabels chosen.expr, instant, 1.0⟩]) := by
      refine h.bind_argument fun argument other _ hsame => ?_
      rw [Function.reads, Function.reads, Prod.mk.injEq] at hsame
      rw [hsame.2]
    simp only [applyFunction, h.vectorArgument_eq]
    refine bind_congr fun vector => ?_
    split_ifs
    · rfl
    · exact hlabels
  | quantileOverTime =>
    simp only [applyFunction, h.scalarArgument_eq, h.rangeArgument_eq 1 fun _ => rfl]
  | range reducer => simp only [applyFunction, h.rangeArgument_eq 0 fun _ => rfl]
  | unsupported name => exact h.bind_argument fun _ _ _ _ => rfl
  | _ => simp only [applyFunction, h.vectorArgument_eq, h.scalarArgument_eq, h.length]

end

/-! ### Places in an expression -/

/-- A form of expressions with a place for one expression. -/
inductive Frame where
  | paren
  | negation
  | subquery (timing : Timing)
  | aggregate (op : AggregateOp) (grouping : Option Grouping)
  | parameter (op : AggregateOp) (grouping : Option Grouping) (inner : Expr)
  | aggregateBy (op : AggregateOp) (grouping : Option Grouping) (parameter : Expr)
  | left (op : BinaryOp) (modifier : BinaryModifier) (right : Expr)
  | right (op : BinaryOp) (modifier : BinaryModifier) (left : Expr)
  | argument (function : Function) (before after : List Expr)

namespace Frame

/-- The form with an expression in its place. -/
def fill : Frame → Expr → Expr
  | paren, expr => .paren expr
  | negation, expr => .negation expr
  | subquery timing, expr => .subquery expr timing
  | aggregate op grouping, expr => .aggregate op grouping expr
  | parameter op grouping inner, expr => .aggregateBy op grouping expr inner
  | aggregateBy op grouping number, expr => .aggregateBy op grouping number expr
  | left op modifier other, expr => .binary op modifier expr other
  | right op modifier other, expr => .binary op modifier other expr
  | argument function before after, expr => .call function (before ++ expr :: after)

/-- What a form reads off the expression in its place, besides its value. -/
def reads : Frame → Expr → Option Int × Labels
  | argument function before _, expr => function.reads before.length expr
  | _, _ => (none, .empty)

/-- Whether a form looks at the form of the expression in its place. -/
def LooksAt (frame : Frame) (expr : Expr) : Prop := frame.reads expr ≠ (none, .empty)

end Frame

/-- Nested forms, from the innermost on, with an expression in the innermost place. -/
def plug (place : List Frame) (expr : Expr) : Expr :=
  place.foldl (fun inner frame => frame.fill inner) expr

/-! ### Expressions that stand for one another -/

/-- Whether two expressions have the same value or failure wherever they are evaluated. -/
def SameValues (expr other : Expr) : Prop := ∀ context, expr.eval context = other.eval context

theorem evalArguments_eq_map (context : Context) (arguments : List Expr) :
    evalArguments context arguments =
      arguments.map fun argument => ⟨argument, argument.eval context⟩ := by
  induction arguments with
  | nil => rfl
  | cons first rest ih => rw [evalArguments, ih, List.map_cons]

theorem argumentsAlike_of_sameValues {function : Function} {before after : List Expr}
    {expr other : Expr} (h : SameValues expr other)
    (hreads : function.reads before.length expr = function.reads before.length other)
    (context : Context) :
    ArgumentsAlike function (evalArguments context (before ++ expr :: after))
      (evalArguments context (before ++ other :: after)) := by
  rw [evalArguments_eq_map, evalArguments_eq_map]
  -- the lists of arguments differ in one place only
  have hplace {place : Nat} {first second : Expr}
      (hfirst : (before ++ expr :: after)[place]? = some first)
      (hsecond : (before ++ other :: after)[place]? = some second) :
      first = second ∨ place = before.length ∧ first = expr ∧ second = other := by
    rw [List.getElem?_append] at hfirst hsecond
    split_ifs at hfirst hsecond with hbefore
    · exact .inl (Option.some.inj (hfirst.symm.trans hsecond))
    · rw [List.getElem?_cons] at hfirst hsecond
      split_ifs at hfirst hsecond with hhere
      · exact .inr ⟨by omega, (Option.some.inj hfirst).symm, (Option.some.inj hsecond).symm⟩
      · exact .inl (Option.some.inj (hfirst.symm.trans hsecond))
  refine ⟨by simp, ?value, ?reads⟩
  case value =>
    intro place argument another hargument hanother
    rw [List.getElem?_map, Option.map_eq_some_iff] at hargument hanother
    obtain ⟨first, hfirst, rfl⟩ := hargument
    obtain ⟨second, hsecond, rfl⟩ := hanother
    rcases hplace hfirst hsecond with rfl | ⟨-, rfl, rfl⟩
    · rfl
    · exact h context
  case reads =>
    intro place argument another hargument hanother
    rw [List.getElem?_map, Option.map_eq_some_iff] at hargument hanother
    obtain ⟨first, hfirst, rfl⟩ := hargument
    obtain ⟨second, hsecond, rfl⟩ := hanother
    rcases hplace hfirst hsecond with rfl | ⟨rfl, rfl, rfl⟩
    · rfl
    · exact hreads

namespace Frame

/-- A form is neither a selector nor a range, so no function reads anything off it. -/
theorem reads_fill (outer frame : Frame) (expr : Expr) :
    outer.reads (frame.fill expr) = (none, .empty) := by
  have hwidth : (frame.fill expr).rangeWidth? = none := by cases frame <;> rfl
  have hlabels : absentLabels (frame.fill expr) = .empty := by cases frame <;> rfl
  cases outer with
  | argument function before after =>
    change function.reads before.length (frame.fill expr) = _
    unfold Function.reads
    split
    · rw [hwidth]
    · rw [hwidth]
    · rw [hlabels]
    · rfl
  | _ => rfl

theorem sameValues_fill {expr other : Expr} (h : SameValues expr other) {frame : Frame}
    (hreads : frame.reads expr = frame.reads other) :
    SameValues (frame.fill expr) (frame.fill other) := by
  intro context
  cases frame with
  | paren => exact h context
  | subquery timing => rfl
  | argument function before after =>
    rw [fill, fill, Expr.eval, Expr.eval]
    exact (argumentsAlike_of_sameValues h hreads context).applyFunction_eq context.instant
  | _ => simp only [fill, Expr.eval, h context]

theorem isFilterComparison_fill {expr other : Expr}
    (h : expr.isFilterComparison = other.isFilterComparison) (frame : Frame) :
    (frame.fill expr).isFilterComparison = (frame.fill other).isFilterComparison := by
  cases frame with
  | paren => exact h
  | left op modifier right => cases op <;> rfl
  | right op modifier left => cases op <;> rfl
  | _ => rfl

end Frame

/-- Expressions that the innermost form does not tell apart are not told apart by any other one. -/
theorem sameValues_plug {place : List Frame} {expr other : Expr} (h : SameValues expr other)
    (hreads : ∀ frame ∈ place.head?, frame.reads expr = frame.reads other) :
    SameValues (plug place expr) (plug place other) := by
  induction place generalizing expr other with
  | nil => exact h
  | cons frame outer ih =>
    -- the next form has a form in its place, whatever stands inside of that
    refine ih (Frame.sameValues_fill h (hreads frame rfl)) fun next _ => ?_
    rw [Frame.reads_fill, Frame.reads_fill]

theorem isFilterComparison_plug (place : List Frame) {expr other : Expr}
    (h : expr.isFilterComparison = other.isFilterComparison) :
    (plug place expr).isFilterComparison = (plug place other).isFilterComparison := by
  induction place generalizing expr other with
  | nil => exact h
  | cons frame outer ih => exact ih (frame.isFilterComparison_fill h)

/-- Parentheses around any part of an expression leave alone whether it is a comparison that filters.
They leave its value and the answer to the query alone too, unless the part is an argument whose form
the function looks at. -/
theorem parentheses_transparent (place : List Frame) (expr : Expr) :
    (plug place (.paren expr)).isFilterComparison = (plug place expr).isFilterComparison ∧
    ((∀ frame ∈ place.head?, ¬ frame.LooksAt expr) →
      SameValues (plug place (.paren expr)) (plug place expr) ∧
      ∀ query wrapped, parse query = .ok (plug place expr) →
        parse wrapped = .ok (plug place (.paren expr)) →
        ∀ settings store instant,
          instantQuery settings store wrapped instant =
            instantQuery settings store query instant) := by
  have hparen : SameValues (.paren expr) expr := fun _ => rfl
  refine ⟨isFilterComparison_plug place rfl, fun hplace => ?_⟩
  have hvalues : SameValues (plug place (.paren expr)) (plug place expr) := by
    refine sameValues_plug hparen fun frame hframe => ?_
    exact (frame.reads_fill .paren expr).trans (not_ne_iff.mp (hplace frame hframe)).symm
  refine ⟨hvalues, ?_⟩
  intro query wrapped hquery hwrapped settings store instant
  rw [instantQuery, instantQuery, hquery, hwrapped]
  exact hvalues _

/-- The absence of a negated vector is the same with parentheses around the vector. -/
theorem absent_negation_parenthesized :
    let place : List Frame := [.negation, .argument .absent [] []]
    parse "absent(-limits)" = .ok (plug place (ofMetric "limits")) ∧
      parse "absent(-(limits))" = .ok (plug place (.paren (ofMetric "limits"))) ∧
      (∀ frame ∈ place.head?, ¬ frame.LooksAt (ofMetric "limits")) ∧
      instantQuery .standard limited "absent(-(limits))" 1500 =
        instantQuery .standard limited "absent(-limits)" 1500 := by
  intro place
  have hquery : parse "absent(-limits)" = .ok (plug place (ofMetric "limits")) := by cbv
  have hwrapped : parse "absent(-(limits))" = .ok (plug place (.paren (ofMetric "limits"))) := by cbv
  have hplace : ∀ frame ∈ place.head?, ¬ frame.LooksAt (ofMetric "limits") := by
    rintro frame ⟨⟩
    exact not_ne_iff.mpr rfl
  refine ⟨hquery, hwrapped, hplace, ?_⟩
  exact ((parentheses_transparent place (ofMetric "limits")).2 hplace).2 _ _ hquery hwrapped
    .standard limited 1500

/-- In parentheses a range is not recognized: a query that is answered without them is refused. -/
theorem rate_range_parenthesized :
    let place : List Frame := [.argument (.range .rate) [] []]
    let range : Expr := .range ⟨some "limits", [], [], .none⟩ 300000
    parse "rate(limits[5m])" = .ok (plug place range) ∧
      parse "rate((limits[5m]))" = .ok (plug place (.paren range)) ∧
      instantQuery .standard .empty "rate(limits[5m])" 1500 = .ok (.vector []) ∧
      instantQuery .standard .empty "rate((limits[5m]))" 1500 =
        .error (.evaluation (.rangeExpected "rate")) := by
  intro place range
  have hquery : parse "rate(limits[5m])" = .ok (plug place range) := by cbv
  have hwrapped : parse "rate((limits[5m]))" = .ok (plug place (.paren range)) := by cbv
  refine ⟨hquery, hwrapped, ?answered, ?refused⟩
  case answered =>
    rw [instantQuery, hquery]
    rfl
  case refused =>
    rw [instantQuery, hwrapped]
    rfl

end MetricBench.Query
