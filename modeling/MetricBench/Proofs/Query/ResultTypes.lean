import MetricBench.Proofs.Query.LabelSources
import MetricBench.Proofs.Rules.InPlace
import MetricBench.Proofs.Store.Selection

/-!
# Types of results

The type of a result is the type of its expression, which is known from the form alone: store,
instant and lookback have no part in it, and neither does the language accepting the expression: an
aggregation may lack its parameter or have one too many, and an operator or an aggregation may be
unknown.  So what can be plotted at one step of a range of instants can be plotted at every other one, and a
rule that has been evaluated once gives results of the same type in every later pass.
-/

namespace MetricBench.Query

/-- Whether a value has a type. -/
def OfType (type : ValueType) (value : Value) : Prop := value.type = type

/-- The type of what an operator makes of values of two types. -/
def operatorType (left right : ValueType) : ValueType :=
  if left = .scalar ∧ right = .scalar then .scalar else .vector

/-! ### Operators and functions -/

theorem yields_vector {ε : Type} (outcome : Except ε Vector) :
    Yields (OfType .vector) (outcome.map .vector) :=
  (yields_self outcome).map fun _ _ => rfl

theorem yields_type_negate (value : Value) : Yields (OfType value.type) (negate value) := by
  cases value with
  | scalar number => exact yields_ok rfl
  | vector samples => exact yields_ok rfl
  | matrix series => exact yields_error _ _
  | string text => exact yields_error _ _

theorem yields_type_applyBinary (op : BinaryOp) (modifier : BinaryModifier) (instant : Int)
    (left right : Value) :
    Yields (OfType (operatorType left.type right.type))
      (applyBinary op modifier instant left right) := by
  cases left with
  | scalar a =>
    cases right with
    | scalar b => exact (yields_self (scalarScalar op a b)).map fun _ _ => rfl
    | vector samples => exact yields_vector _
    | matrix series => exact yields_error _ _
    | string text => exact yields_error _ _
  | vector samples =>
    cases right with
    | scalar b => exact yields_vector _
    | vector others => exact yields_vector _
    | matrix series => exact yields_error _ _
    | string text => exact yields_error _ _
  | matrix series => exact yields_error _ _
  | string text => exact yields_error _ _

theorem yields_type_applyFunction (function : Function) (arguments : List Argument)
    (instant : Int) :
    Yields (OfType function.resultType) (applyFunction function arguments instant) := by
  cases function with
  | time => exact yields_ok rfl
  | vector => exact yields_bind _ fun number => yields_ok rfl
  | scalar =>
    refine yields_bind _ fun vector => ?_
    split
    · exact yields_ok rfl
    · exact yields_ok rfl
  | absent =>
    refine yields_bind _ fun vector => ?_
    split_ifs
    · exact yields_ok rfl
    · exact yields_bind _ fun chosen => yields_ok rfl
  | timestamp => exact yields_bind _ fun vector => yields_ok rfl
  | sort => exact yields_bind _ fun vector => yields_ok rfl
  | sortDescending => exact yields_bind _ fun vector => yields_ok rfl
  | number number => exact yields_bind _ fun vector => yields_ok rfl
  | round =>
    refine yields_bind _ fun vector => ?_
    dsimp only
    split_ifs
    · exact yields_ok rfl
    · exact yields_bind _ fun nearest => yields_ok rfl
  | clampMin => exact yields_bind _ fun vector => yields_bind _ fun bound => yields_ok rfl
  | clampMax => exact yields_bind _ fun vector => yields_bind _ fun bound => yields_ok rfl
  | quantileOverTime =>
    exact yields_bind _ fun fraction => yields_bind _ fun found => yields_ok rfl
  | range reducer => exact yields_bind _ fun found => yields_ok rfl
  | unsupported name => exact yields_bind _ fun _ => yields_error _ _

/-! ### Expressions -/

/-- An expression has a value of its type, if it has one. -/
theorem Expr.yields_type (context : Context) :
    (expr : Expr) → Yields (OfType expr.type) (expr.eval context)
  | .number _ => yields_ok rfl
  | .string _ => yields_ok rfl
  | .paren inner => Expr.yields_type context inner
  | .negation inner =>
    (Expr.yields_type context inner).bind fun value hvalue => by
      have hnegated := yields_type_negate value
      rwa [show value.type = inner.type from hvalue] at hnegated
  | .selector chosen => yields_vector (context.selectInstant chosen)
  | .range chosen width => (yields_self (context.selectWindow chosen width)).map fun _ _ => rfl
  | .subquery _ _ => yields_error _ _
  | .aggregate _ _ _ =>
    yields_bind _ fun _ => yields_bind _ fun _ => yields_vector _
  | .aggregateBy _ _ _ _ =>
    yields_bind _ fun _ => yields_bind _ fun _ => yields_bind _ fun _ => yields_bind _ fun _ =>
      yields_vector _
  | .binary op modifier left right =>
    (Expr.yields_type context left).bind fun leftValue hleft =>
      (Expr.yields_type context right).bind fun rightValue hright => by
        have hresult := yields_type_applyBinary op modifier context.instant leftValue rightValue
        rw [show leftValue.type = left.type from hleft,
          show rightValue.type = right.type from hright] at hresult
        exact yields_evaluated hresult
  | .call _ _ => yields_type_applyFunction _ _ _
  | .extension => yields_error _ _

/-! ### Values that can be plotted or recorded -/

/-- The types of values at an instant, in contrast to ranges and texts. -/
def ValueType.IsInstant (type : ValueType) : Prop := type = .vector ∨ type = .scalar

theorem exists_stepPoints_iff (instant : Int) {value : Value} :
    (∃ points, stepPoints instant value = .ok points) ↔ value.type.IsInstant := by
  cases value <;> simp [stepPoints, failing, Value.type, ValueType.IsInstant]

theorem exists_components_iff (instant : Int) {value : Value} :
    (∃ results, Rules.components instant value = .ok results) ↔ value.type.IsInstant := by
  cases value <;> simp [Rules.components, Value.type, ValueType.IsInstant]

/-- What a rule finds comes from a value of its expression, which has the type of the expression. -/
theorem exists_value_of_evaluate {rule : Rules.Rule} {expr : Expr}
    (hparse : parse rule.expr = .ok expr) {settings : Settings} {store : Store} {instant : Int}
    {written : Rules.Written} (h : rule.evaluate settings store instant = .ok written) :
    ∃ value, evalInstant settings store expr instant = .ok value ∧ value.type = expr.type ∧
      expr.type.IsInstant := by
  rw [Rules.InPlace.evaluate_of_parse _ _ _ hparse, map_eq_ok_iff] at h
  obtain ⟨results, hfound, -⟩ := h
  obtain ⟨value, hvalue, hresults⟩ := bind_eq_ok_iff.mp hfound
  rw [instantQuery, hparse] at hvalue
  have hanswer : evalInstant settings store expr instant = .ok value :=
    mapError_eq_ok_iff.mp hvalue
  have htype : value.type = expr.type := Expr.yields_type _ expr value hanswer
  exact ⟨value, hanswer, htype, htype ▸ (exists_components_iff instant).mp ⟨results, hresults⟩⟩

/-- A rule finds nothing to record only if its expression does not have the type of a value at an
instant. -/
theorem not_isInstant_of_notRecordable {rule : Rules.Rule} {expr : Expr}
    (hparse : parse rule.expr = .ok expr) {settings : Settings} {store : Store} {instant : Int}
    {type : ValueType} (h : rule.evaluate settings store instant = .error (.notRecordable type)) :
    ¬ expr.type.IsInstant := by
  rw [Rules.InPlace.evaluate_of_parse _ _ _ hparse, map_eq_error_iff] at h
  rw [Rules.InPlace.found, instantQuery, hparse] at h
  change (evalInstant settings store expr instant).mapError _ >>= _ = _ at h
  cases heval : evalInstant settings store expr instant with
  | error failure =>
    rw [heval] at h
    cases h
  | ok value =>
    have htype : value.type = expr.type := Expr.yields_type _ expr value heval
    rw [heval] at h
    change Rules.components instant value = _ at h
    rw [← htype, ← exists_components_iff instant, h]
    rintro ⟨results, hresults⟩
    cases hresults

/-- The type of a result is that of the form of its expression, in whatever context.  So at two steps
of a range of instants the values have one type, and both can be plotted or neither.  A rule that has
been evaluated once is never refused for the type of its results in another pass. -/
theorem result_types_static (expr : Expr) :
    (∀ context value, expr.eval context = .ok value → value.type = expr.type) ∧
    (∀ (settings : Settings) store start stop step,
      let answer (instant : Int) : Except QueryError Value :=
        expr.eval ⟨store, settings.lookbackMillis, instant, start, stop⟩
      ∀ first ∈ stepInstants start stop step, ∀ later ∈ stepInstants start stop step,
        ∀ value other, answer first = .ok value → answer later = .ok other →
          value.type = other.type ∧
          ((∃ points, stepPoints first value = .ok points) ↔
            ∃ points, stepPoints later other = .ok points)) ∧
    (∀ rule : Rules.Rule, parse rule.expr = .ok expr →
      ∀ settings store instant written, rule.evaluate settings store instant = .ok written →
        (∃ value, evalInstant settings store expr instant = .ok value ∧ value.type = expr.type) ∧
        ∀ settings store instant type,
          rule.evaluate settings store instant ≠ .error (.notRecordable type)) := by
  have htype : ∀ context value, expr.eval context = .ok value → value.type = expr.type :=
    fun context => Expr.yields_type context expr
  refine ⟨htype, ?range, ?rule⟩
  case range =>
    intro settings store start stop step answer first _ later _ value other hvalue hother
    have hsame : value.type = other.type :=
      (htype _ value hvalue).trans (htype _ other hother).symm
    refine ⟨hsame, ?_⟩
    rw [exists_stepPoints_iff, exists_stepPoints_iff, hsame]
  case rule =>
    intro rule hparse settings store instant written hwritten
    obtain ⟨value, hvalue, hof, hinstant⟩ := exists_value_of_evaluate hparse hwritten
    refine ⟨⟨value, hvalue, hof⟩, ?_⟩
    intro settings store instant type hrefused
    exact not_isInstant_of_notRecordable hparse hrefused hinstant

/-- A rule that records the time. -/
def recordsTime : Rules.Rule := ⟨.recording, "now", "time()", .empty, .empty⟩

/-- The time is a scalar over any store, so a rule that records it is never refused for its type. -/
theorem time_recordable :
    parse recordsTime.expr = .ok (.call .time []) ∧
      (∃ written, recordsTime.evaluate .standard .empty 1000 = .ok written) ∧
      (∃ value, evalInstant .standard .mixed (.call .time []) 2000 = .ok value ∧
        value.type = .scalar) ∧
      ∀ type, recordsTime.evaluate .standard .mixed 2000 ≠ .error (.notRecordable type) := by
  have hparse : parse recordsTime.expr = .ok (.call .time []) := by cbv
  obtain ⟨htype, -, hrule⟩ := result_types_static (.call .time [])
  have hvalue : ∃ value, evalInstant .standard .mixed (.call .time []) 2000 = .ok value :=
    ⟨_, rfl⟩
  obtain ⟨value, hvalue⟩ := hvalue
  have hwritten : ∃ written, recordsTime.evaluate .standard .empty 1000 = .ok written := by
    rw [Rules.InPlace.evaluate_of_parse _ _ _ hparse, Rules.InPlace.found, instantQuery, hparse]
    exact ⟨_, rfl⟩
  obtain ⟨written, hwritten⟩ := hwritten
  refine ⟨hparse, ⟨written, hwritten⟩, ⟨value, hvalue, htype _ value hvalue⟩, ?_⟩
  exact (hrule recordsTime hparse _ _ _ written hwritten).2 .standard .mixed 2000

end MetricBench.Query
