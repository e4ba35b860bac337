import MetricBench.Proofs.Edit.Restamp
import MetricBench.Proofs.Query.ShiftedCalls
import MetricBench.Query.Engine

/-!
# Evaluation in shifted time

An expression that names no instant and does not ask for the time reads the store at distances from
the instant at which it is evaluated.  So over a store whose samples have all moved by one distance
it has, at the instant moved by this distance, its former value with moved timestamps.  Only a
window that would begin before the least signed word breaks this, for it is cut off there.
-/

namespace MetricBench.Query

open Number (leastSigned)

/-! ### Expressions without an instant -/

/-- Whether a timing is not fixed to a literal instant. -/
def Timing.relative (timing : Timing) : Bool :=
  match timing.instant with
  | some (.time _) => false
  | _ => true

mutual

/-- Whether an expression contains no literal instant and no function that asks for the time. -/
def Expr.relative : Expr → Bool
  | .number _ => true
  | .string _ => true
  | .paren inner => inner.relative
  | .negation inner => inner.relative
  | .selector selector => selector.timing.relative
  | .range selector _ => selector.timing.relative
  | .subquery inner timing => inner.relative && timing.relative
  | .aggregate _ _ inner => inner.relative
  | .aggregateBy _ _ parameter inner => parameter.relative && inner.relative
  | .binary _ _ left right => left.relative && right.relative
  | .call function arguments =>
    function ≠ .time && function ≠ .timestamp && argumentsRelative arguments
  | .extension => true

/-- The same of the arguments of a call. -/
def argumentsRelative : List Expr → Bool
  | [] => true
  | argument :: rest => argument.relative && argumentsRelative rest

end

/-! ### Windows -/

/-- The context in which all instants have moved by one distance. -/
def Context.shifted (context : Context) (delta : Int) : Context where
  store := context.store.shifted delta
  lookback := context.lookback
  instant := context.instant + delta
  start := context.start + delta
  stop := context.stop + delta

/-- Whether the window that a selector comes to read is not cut off at the least signed word. -/
def Context.Unclamped (context : Context) (selector : Selector) (width : Int) : Prop :=
  ∀ matchers, selector.matchers = .ok matchers →
    leastSigned ≤ selector.timing.readingInstant context - width

section

variable {context : Context} {delta : Int}

theorem Timing.readingInstant_shifted {timing : Timing} (h : timing.relative = true) :
    timing.readingInstant (context.shifted delta) = timing.readingInstant context + delta := by
  obtain ⟨instant, offset⟩ := timing
  have hmove : ∀ base : Int, base + delta - offset.getD 0 = base - offset.getD 0 + delta := by
    intro base
    omega
  cases instant with
  | none => exact hmove _
  | some fixed =>
    cases fixed with
    | time literal => cases h
    | start => exact hmove _
    | stop => exact hmove _

theorem windowStart_shifted {instant width : Int} (hbefore : leastSigned ≤ instant - width)
    (hafter : leastSigned ≤ instant + delta - width) :
    windowStart (instant + delta) width = windowStart instant width + delta := by
  unfold windowStart
  omega

theorem Context.selectWindow_shifted {selector : Selector} {width : Int}
    (hrelative : selector.timing.relative = true) (hbefore : context.Unclamped selector width)
    (hafter : (context.shifted delta).Unclamped selector width) :
    (context.shifted delta).selectWindow selector width =
      (context.selectWindow selector width).map (·.map (·.shifted delta)) := by
  unfold Context.selectWindow
  refine bind_eq_map_bind fun matchers hmatchers => congrArg Except.ok ?_
  have hbegins := hafter matchers hmatchers
  rw [Timing.readingInstant_shifted hrelative] at hbegins ⊢
  rw [windowStart_shifted (hbefore matchers hmatchers) hbegins]
  exact context.store.select_shifted matchers _ _ delta

theorem newestPoints_shifted (points : List Point) :
    newestPoints (points.map (·.shifted delta)) = (newestPoints points).map (·.shifted delta) := by
  rw [newestPoints, newestPoints, List.getLast?_map]
  cases points.getLast? with
  | none => rfl
  | some newest =>
    have hbefore : ∀ point : Point,
        decide ((point.shifted delta).timestamp < (newest.shifted delta).timestamp) =
          decide (point.timestamp < newest.timestamp) := by
      intro point
      simp [Point.shifted]
    simp only [Option.map_some, List.dropWhile_map, Function.comp_def, hbefore]

theorem newestSamples_shifted (series : Series) :
    newestSamples (series.shifted delta) = (newestSamples series).map (·.shifted delta) := by
  simp only [newestSamples, Series.shifted, newestPoints_shifted, List.map_map]
  rfl

theorem Context.selectInstant_shifted {selector : Selector}
    (hrelative : selector.timing.relative = true)
    (hbefore : context.Unclamped selector context.lookback)
    (hafter : (context.shifted delta).Unclamped selector context.lookback) :
    (context.shifted delta).selectInstant selector =
      (context.selectInstant selector).map (·.map (·.shifted delta)) := by
  unfold Context.selectInstant
  rw [show (context.shifted delta).lookback = context.lookback from rfl,
    selectWindow_shifted hrelative hbefore hafter]
  refine map_bind_eq_map_bind fun series _ => congrArg Except.ok ?_
  simp only [List.flatMap_map, List.map_flatMap, newestSamples_shifted]

end

/-! ### Expressions -/

mutual

/-- Whether no window that the evaluation of an expression comes to read is cut off.  What stands
behind a failure is not read. -/
def Expr.Unclamped (context : Context) : Expr → Prop
  | .number _ => True
  | .string _ => True
  | .paren inner => inner.Unclamped context
  | .negation inner => inner.Unclamped context
  | .selector selector => context.Unclamped selector context.lookback
  | .range selector width => context.Unclamped selector width
  | .subquery _ _ => True
  | .aggregate _ _ inner => inner.Unclamped context
  | .aggregateBy _ _ parameter inner =>
    parameter.Unclamped context ∧
      ∀ value, parameter.eval context = .ok value → inner.Unclamped context
  | .binary _ _ left right =>
    left.Unclamped context ∧ ∀ value, left.eval context = .ok value → right.Unclamped context
  | .call function arguments =>
    (∃ name, function = .unsupported name) ∨ ArgumentsUnclamped context arguments
  | .extension => True

/-- The same of the arguments of a call. -/
def ArgumentsUnclamped (context : Context) : List Expr → Prop
  | [] => True
  | argument :: rest =>
    argument.Unclamped context ∧
      ∀ value, argument.eval context = .ok value → ArgumentsUnclamped context rest

end

mutual

/-- The value of an expression without an instant moves with the context. -/
theorem Expr.eval_shifted {context : Context} {delta : Int} :
    (expr : Expr) → expr.relative = true → expr.Unclamped context →
      expr.Unclamped (context.shifted delta) →
        expr.eval (context.shifted delta) = (expr.eval context).map (·.shifted delta)
  | .number _, _, _, _ => rfl
  | .string _, _, _, _ => rfl
  | .paren inner, hrelative, hbefore, hafter =>
    Expr.eval_shifted inner hrelative hbefore hafter
  | .negation inner, hrelative, hbefore, hafter => by
    rw [Expr.eval, Expr.eval, Expr.eval_shifted inner hrelative hbefore hafter]
    exact map_bind_eq_map_bind fun value _ => negate_shifted delta value
  | .selector selector, hrelative, hbefore, hafter => by
    rw [Expr.eval, Expr.eval, Context.selectInstant_shifted hrelative hbefore hafter]
    cases context.selectInstant selector <;> rfl
  | .range selector width, hrelative, hbefore, hafter => by
    rw [Expr.eval, Expr.eval, Context.selectWindow_shifted hrelative hbefore hafter]
    cases context.selectWindow selector width <;> rfl
  | .subquery _ _, _, _, _ => rfl
  | .aggregate op grouping inner, hrelative, hbefore, hafter => by
    rw [Expr.eval, Expr.eval, Expr.eval_shifted inner hrelative hbefore hafter]
    apply map_bind_eq_map_bind
    intro value _
    rw [Value.asVector_shifted]
    apply map_bind_eq_map_bind
    intro vector _
    exact evaluated_map_vector_shifted delta
      (op.apply_shifted context.instant delta grouping none vector)
  | .aggregateBy op grouping parameter inner, hrelative, hbefore, hafter => by
    simp only [Expr.relative, Bool.and_eq_true] at hrelative
    have hparameter := Expr.eval_shifted parameter hrelative.1 hbefore.1 hafter.1
    rw [Expr.eval, Expr.eval, hparameter]
    apply map_bind_eq_map_bind
    intro value hvalue
    rw [hvalue] at hparameter
    rw [Value.asScalar_shifted]
    apply bind_eq_map_bind
    intro number _
    rw [Expr.eval_shifted inner hrelative.2 (hbefore.2 _ hvalue) (hafter.2 _ hparameter)]
    apply map_bind_eq_map_bind
    intro operand _
    rw [Value.asVector_shifted]
    apply map_bind_eq_map_bind
    intro vector _
    exact evaluated_map_vector_shifted delta
      (op.apply_shifted context.instant delta grouping (some number) vector)
  | .binary op modifier left right, hrelative, hbefore, hafter => by
    simp only [Expr.relative, Bool.and_eq_true] at hrelative
    have hleft := Expr.eval_shifted left hrelative.1 hbefore.1 hafter.1
    rw [Expr.eval, Expr.eval, hleft]
    apply map_bind_eq_map_bind
    intro first hfirst
    rw [hfirst] at hleft
    rw [Expr.eval_shifted right hrelative.2 (hbefore.2 _ hfirst) (hafter.2 _ hleft)]
    apply map_bind_eq_map_bind
    intro second _
    exact evaluated_shifted delta
      (applyBinary_shifted context.instant delta op modifier first second)
  | .call function arguments, hrelative, hbefore, hafter => by
    simp only [Expr.relative, Bool.and_eq_true, decide_eq_true_eq] at hrelative
    obtain ⟨⟨htime, htimestamp⟩, harguments⟩ := hrelative
    rw [Expr.eval, Expr.eval]
    -- a function that cannot be evaluated fails without reading its arguments
    by_cases hread : ∃ name, function = .unsupported name
    · obtain ⟨name, rfl⟩ := hread
      cases arguments <;> rfl
    · have hmove := argumentsMove arguments harguments (hbefore.resolve_left hread)
        (hafter.resolve_left hread)
      exact applyFunction_shifted context.instant delta htime htimestamp hmove
  | .extension, _, _, _ => rfl

/-- The values of the arguments of a call move with the context. -/
theorem argumentsMove {context : Context} {delta : Int} :
    (arguments : List Expr) → argumentsRelative arguments = true →
      ArgumentsUnclamped context arguments → ArgumentsUnclamped (context.shifted delta) arguments →
        ArgumentsMove delta (evalArguments (context.shifted delta) arguments)
          (evalArguments context arguments)
  | [], _, _, _ => ⟨rfl, fun h _ => by cases h⟩
  | argument :: rest, hrelative, hbefore, hafter => by
    simp only [argumentsRelative, Bool.and_eq_true] at hrelative
    have hargument := Expr.eval_shifted argument hrelative.1 hbefore.1 hafter.1
    refine ⟨?front, ?behind⟩
    case front =>
      simp [evalArguments, Argument.shifted, hargument]
    case behind =>
      intro chosen value hchosen hvalue
      simp only [evalArguments, List.getElem?_cons_zero, Option.some.injEq] at hchosen
      subst hchosen
      dsimp only at hvalue
      rw [hvalue] at hargument
      have hrest := argumentsMove rest hrelative.2 (hbefore.2 _ hvalue) (hafter.2 _ hargument)
      simpa [evalArguments] using hrest.first

end

/-! ### Queries -/

/-- Whether a query names no instant and does not ask for the time. -/
def Relative (query : String) : Prop := ∀ expr, parse query = .ok expr → expr.relative = true

/-- Whether no window that a query reads at an instant is cut off. -/
def Unclamped (settings : Settings) (store : Store) (query : String) (instant : Int) : Prop :=
  ∀ expr, parse query = .ok expr →
    expr.Unclamped ⟨store, settings.lookbackMillis, instant, instant, instant⟩

/-- Whether a second store answers a query at an instant moved by one distance as the first one does
at the instant itself, but with moved timestamps, as long as neither run comes to a window that is
cut off. -/
def AnswersShifted (settings : Settings) (query : String) (first second : Store) (delta : Int) :
    Prop :=
  ∀ instant, Unclamped settings first query instant →
    Unclamped settings second query (instant + delta) →
      instantQuery settings second query (instant + delta) =
        (instantQuery settings first query instant).map (·.shifted delta)

theorem Relative.answersShifted {query : String} (h : Relative query) (settings : Settings)
    (store : Store) (delta : Int) :
    AnswersShifted settings query store (store.shifted delta) delta := by
  intro instant hbefore hafter
  apply bind_eq_map_bind
  intro expr hparse
  exact Expr.eval_shifted expr (h expr hparse) (hbefore expr hparse) (hafter expr hparse)

theorem Relative.answersShifted_of_restamped {query : String} (h : Relative query)
    (settings : Settings) {kept restamped : Store} {target distance : Int}
    (hrestamped : Edit.Restamped kept restamped target distance) :
    AnswersShifted settings query kept restamped distance := by
  rw [hrestamped.moved]
  exact h.answersShifted settings kept distance

/-- A query without an instant is answered over a shifted store, at the shifted instant, as it is
over the store, with shifted timestamps, and fails alike.  So a snapshot that is re-stamped when it
is loaded or saved answers it as the same snapshot with its own timestamps does. -/
theorem answers_shift {query : String} (h : Relative query) (settings : Settings) :
    (∀ store delta, AnswersShifted settings query store (store.shifted delta) delta) ∧
      (∀ document filter target now report restamped,
        Edit.load .empty document filter (.set target) now = .ok (report, restamped) →
        ∃ kept distance, Edit.load .empty document filter .keep now = .ok (report, kept) ∧
          Edit.Restamped kept restamped target distance ∧
          AnswersShifted settings query kept restamped distance) ∧
      (∀ store : Store, store.Readable → ∀ filter target savedAt snapshot,
        Edit.save store filter (.set target) savedAt = .ok snapshot → ∀ loadedAt,
        ∃ plain kept restamped distance, Edit.save store filter .keep savedAt = .ok plain ∧
          Edit.ReadsBack plain loadedAt kept ∧ Edit.ReadsBack snapshot loadedAt restamped ∧
          Edit.Restamped kept restamped target distance ∧
          AnswersShifted settings query kept restamped distance) := by
  refine ⟨h.answersShifted settings, ?loaded, ?saved⟩
  case loaded =>
    intro document filter target now report restamped hload
    obtain ⟨kept, distance, hkept, hrestamped⟩ := Edit.load_set hload
    exact ⟨kept, distance, hkept, hrestamped, h.answersShifted_of_restamped settings hrestamped⟩
  case saved =>
    intro store hreadable filter target savedAt snapshot hsave loadedAt
    obtain ⟨plain, kept, restamped, distance, hplain, hkept, hread, hrestamped⟩ :=
      Edit.save_set hreadable hsave loadedAt
    exact ⟨plain, kept, restamped, distance, hplain, hkept, hread, hrestamped,
      h.answersShifted_of_restamped settings hrestamped⟩

/-- The samples of a store moved by a minute have their rate a minute later, and so have those that
are loaded with the newest of them set to an instant. -/
theorem unsorted_rate_shifted :
    Relative "rate(up[5s] offset 1s)" ∧
      Unclamped .standard .unsorted "rate(up[5s] offset 1s)" 3000 ∧
      Unclamped .standard (Store.unsorted.shifted 60000) "rate(up[5s] offset 1s)" 63000 ∧
      instantQuery .standard (Store.unsorted.shifted 60000) "rate(up[5s] offset 1s)" 63000 =
        (instantQuery .standard .unsorted "rate(up[5s] offset 1s)" 3000).map (·.shifted 60000) ∧
      ∃ report restamped kept distance,
        Edit.load .empty Store.unsorted.document none (.set 62000) 0 = .ok (report, restamped) ∧
        Edit.Restamped kept restamped 62000 distance ∧
        AnswersShifted .standard "rate(up[5s] offset 1s)" kept restamped distance := by
  have hparse : parse "rate(up[5s] offset 1s)" = .ok (.call (.range .rate)
      [.range ⟨some "up", [], [], ⟨none, some 1000⟩⟩ 5000]) := by cbv
  have hrelative : Relative "rate(up[5s] offset 1s)" := by
    intro expr hexpr
    rw [hparse, Except.ok.injEq] at hexpr
    rw [← hexpr]
    rfl
  have hunclamped : ∀ store instant, 0 ≤ instant →
      Unclamped .standard store "rate(up[5s] offset 1s)" instant := by
    intro store instant hinstant expr hexpr
    rw [hparse, Except.ok.injEq] at hexpr
    rw [← hexpr]
    refine .inr ⟨fun _ _ => ?_, fun _ _ => trivial⟩
    simp only [Timing.readingInstant, Timing.base, Option.getD_some, Number.leastSigned]
    omega
  have hbefore := hunclamped .unsorted 3000 (by decide)
  have hafter := hunclamped (Store.unsorted.shifted 60000) 63000 (by decide)
  obtain ⟨hshifted, hloaded, -⟩ := answers_shift hrelative .standard
  obtain ⟨report, restamped, hload⟩ : ∃ report restamped,
      Edit.load .empty Store.unsorted.document none (.set 62000) 0 = .ok (report, restamped) :=
    ⟨_, _, rfl⟩
  obtain ⟨kept, distance, -, hrestamped, hanswers⟩ := hloaded _ _ _ _ _ _ hload
  exact ⟨hrelative, hbefore, hafter, hshifted .unsorted 60000 3000 hbefore hafter,
    report, restamped, kept, distance, hload, hrestamped, hanswers⟩

end MetricBench.Query
