import MetricBench.Proofs.Query.GroupedMatching
import MetricBench.Proofs.Query.ResultTypes

/-!
# Timestamps of results

An element of a result either is computed, and has the instant of the evaluation, or passes on a stored
sample with its timestamp.  Labels may be left out on the way.  The value stays that of the sample
unless a negation is met: a negated sample keeps its timestamp, although its value was never observed.
-/

namespace MetricBench.Query

/-! ### Elements that pass on a sample -/

/-- Whether an element passes on a stored sample: it has the timestamp of the sample, no labels beside
those of the sample, and its value after at most so many negations. -/
structure InstantSample.PassesOn (negations : Nat) (element : InstantSample) (sample : Sample) :
    Prop where
  timestamp : element.timestamp = sample.timestamp
  labels : sample.labels.Includes element.labels
  value : ∃ count ≤ negations, element.value = Neg.neg^[count] sample.value

/-- Whether the timestamp of an element is accounted for: it is the instant of the evaluation, or
that of a stored sample which the element passes on. -/
def InstantSample.AccountedFor (context : Context) (negations : Nat) (element : InstantSample) :
    Prop :=
  element.timestamp = context.instant ∨
    ∃ sample ∈ context.store.samples, element.PassesOn negations sample

/-- Whether all timestamps of a value are accounted for, if it is a vector. -/
def Value.AccountedFor (context : Context) (negations : Nat) (value : Value) : Prop :=
  ∀ element ∈ value.elements, element.AccountedFor context negations

section

variable {context : Context} {negations : Nat} {element source : InstantSample}

/-- An element that is passed on has met as many negations as its source. -/
theorem InstantSample.AccountedFor.of_derives (h : source.AccountedFor context negations)
    {passes : Bool} (hderives : element.DerivesFrom context.instant passes source) {more : Nat}
    (hmore : passes = true → negations ≤ more) : element.AccountedFor context more := by
  rcases hderives.origin with hcomputed | ⟨hpasses, htimestamp, hvalue⟩
  · exact .inl hcomputed
  · rw [AccountedFor, htimestamp]
    refine h.imp_right ?_
    rintro ⟨sample, hsample, hsource⟩
    obtain ⟨count, hcount, hnegated⟩ := hsource.value
    exact ⟨sample, hsample, htimestamp.trans hsource.timestamp,
      hsource.labels.trans hderives.labels, count, hcount.trans (hmore hpasses),
      hvalue.trans hnegated⟩

theorem InstantSample.AccountedFor.negated (h : source.AccountedFor context negations) :
    InstantSample.AccountedFor context (negations + 1)
      ⟨source.labels.withoutName, source.timestamp, -source.value⟩ := by
  refine h.imp_right ?_
  rintro ⟨sample, hsample, hsource⟩
  obtain ⟨count, hcount, hvalue⟩ := hsource.value
  refine ⟨sample, hsample, hsource.timestamp,
    hsource.labels.trans (source.labels.includes_filter _), count + 1,
    Nat.add_le_add_right hcount 1, ?_⟩
  rw [Function.iterate_succ_apply', ← hvalue]

theorem Value.MadeOf.accountedFor {value : Value}
    (h : value.MadeOf (InstantSample.AccountedFor context negations)) :
    value.AccountedFor context negations := by
  cases value with
  | vector samples => exact h
  | _ => exact fun _ helement => nomatch helement

theorem accountedFor_scalar (number : Double) :
    (Value.scalar number).AccountedFor context negations := fun _ helement => nomatch helement

theorem yields_accountedFor_negate {value : Value} (h : value.AccountedFor context negations) :
    Yields (Value.AccountedFor context (negations + 1)) (negate value) := by
  cases value with
  | scalar number => exact yields_ok (accountedFor_scalar _)
  | vector samples =>
    refine yields_ok fun element helement => ?_
    obtain ⟨sample, hsample, rfl⟩ := List.mem_map.mp helement
    exact (h sample hsample).negated
  | matrix series => exact yields_error _ _
  | string text => exact yields_error _ _

theorem yields_accountedFor_applyBinary {left right : Value} {leftNegations rightNegations : Nat}
    (hleft : left.AccountedFor context leftNegations)
    (hright : right.AccountedFor context rightNegations) (op : BinaryOp)
    (modifier : BinaryModifier) :
    Yields (Value.AccountedFor context
        (max (if op.passesLeft modifier left.type then leftNegations else 0)
          (if op.passesRight modifier left.type then rightNegations else 0)))
      (applyBinary op modifier context.instant left right) := by
  refine (derives_applyBinary op modifier context.instant left right).imp fun value hvalue => ?_
  refine (hvalue.imp fun element helement => ?_).accountedFor
  rcases helement with ⟨source, hsource, hderives⟩ | ⟨source, hsource, hderives⟩
  · refine (hleft source hsource).of_derives hderives fun hpasses => ?_
    rw [if_pos hpasses]
    exact le_max_left _ _
  · refine (hright source hsource).of_derives hderives fun hpasses => ?_
    rw [if_pos hpasses]
    exact le_max_right _ _

theorem yields_accountedFor_apply {vector : Vector}
    (h : (Value.vector vector).AccountedFor context negations) (op : AggregateOp)
    (grouping : Option Grouping) (parameter : Option Double) :
    Yields (fun result => (Value.vector result).AccountedFor context
        (if op.passes then negations else 0))
      (op.apply grouping context.instant parameter vector) := by
  refine (derives_apply op grouping context.instant parameter vector).imp
    fun result hresult element helement => ?_
  obtain ⟨source, hsource, hderives⟩ := hresult element helement
  refine (h source hsource).of_derives hderives fun hpasses => ?_
  rw [if_pos hpasses]

/-- The first argument of a call that passes elements on accounts for their timestamps. -/
theorem yields_accountedFor_applyFunction (function : Function) {arguments : List Argument}
    (h : ∀ first, arguments[0]? = some first →
      Yields (Value.AccountedFor context negations) first.value) :
    Yields (Value.AccountedFor context (if function.passes then negations else 0))
      (applyFunction function arguments context.instant) := by
  refine (yields_fromArguments function arguments context.instant).imp fun value hvalue => ?_
  refine (hvalue.imp fun element helement => ?_).accountedFor
  cases helement with
  | ofVector hvector hsource hderives =>
    obtain ⟨first, hfirst, hvalue⟩ := exists_of_vectorArgument hvector
    refine (h first hfirst _ hvalue _ hsource).of_derives hderives fun hpasses => ?_
    rw [if_pos hpasses]
  | ofRange hfound hseries value => exact .inl rfl
  | ofAbsence hchosen value => exact .inl rfl
  | single value => exact .inl rfl

end

/-! ### Expressions -/

mutual

/-- How many negations the value of a stored sample meets at most that comes to the result of an
expression with its timestamp. -/
def Expr.negations : Expr → Nat
  | .paren inner => inner.negations
  | .negation inner => inner.negations + 1
  | .aggregate op _ inner | .aggregateBy op _ _ inner => if op.passes then inner.negations else 0
  | .binary op modifier left right =>
    max (if op.passesLeft modifier left.type then left.negations else 0)
      (if op.passesRight modifier left.type then right.negations else 0)
  | .call function arguments => if function.passes then firstNegations arguments else 0
  | .number _ | .string _ | .selector _ | .range _ _ | .subquery _ _ | .extension => 0

/-- The same for the first argument of a call. -/
def firstNegations : List Expr → Nat
  | [] => 0
  | first :: _ => first.negations

end

theorem yields_accountedFor_selectInstant (context : Context) (selector : Selector) :
    Yields (fun vector => (Value.vector vector).AccountedFor context 0)
      (context.selectInstant selector) := by
  intro vector hvector element helement
  exact .inr ⟨_, Context.exists_sample_of_mem hvector helement, rfl, Labels.includes_refl _,
    0, le_rfl, rfl⟩

mutual

/-- The timestamps of a value are accounted for, with the negations of its expression. -/
theorem Expr.yields_accountedFor (context : Context) :
    (expr : Expr) → Yields (Value.AccountedFor context expr.negations) (expr.eval context)
  | .number _ => yields_ok (accountedFor_scalar _)
  | .string _ => yields_ok fun _ helement => nomatch helement
  | .paren inner => Expr.yields_accountedFor context inner
  | .negation inner =>
    (Expr.yields_accountedFor context inner).bind fun _ hvalue =>
      yields_accountedFor_negate hvalue
  | .selector selector => (yields_accountedFor_selectInstant context selector).map fun _ h => h
  | .range selector width => (yields_self (context.selectWindow selector width)).map
      fun _ _ _ helement => nomatch helement
  | .subquery _ _ => yields_error _ _
  | .aggregate op grouping inner =>
    (Expr.yields_accountedFor context inner).bind fun value hvalue =>
      (yields_self _).bind fun vector hvector => by
        rw [eq_vector_of_asVector hvector] at hvalue
        have hresult := yields_accountedFor_apply hvalue op grouping none
        exact (yields_evaluated hresult).map fun _ h => h
  | .aggregateBy op grouping parameter inner =>
    yields_bind _ fun _ => yields_bind _ fun number =>
      (Expr.yields_accountedFor context inner).bind fun value hvalue =>
        (yields_self _).bind fun vector hvector => by
          rw [eq_vector_of_asVector hvector] at hvalue
          have hresult := yields_accountedFor_apply hvalue op grouping (some number)
          exact (yields_evaluated hresult).map fun _ h => h
  | .binary op modifier left right =>
    ((Expr.yields_accountedFor context left).and (Expr.yields_type context left)).bind
      fun leftValue hleft => (Expr.yields_accountedFor context right).bind
        fun rightValue hright => by
          -- which side a filter passes on depends on the type of the left one
          have hresult := yields_accountedFor_applyBinary hleft.1 hright op modifier
          rw [show leftValue.type = left.type from hleft.2] at hresult
          exact yields_evaluated hresult
  | .call function arguments =>
    yields_accountedFor_applyFunction function
      (yields_accountedFor_evalArguments context arguments)
  | .extension => yields_error _ _

/-- The same for the first argument of a call. -/
theorem yields_accountedFor_evalArguments (context : Context) :
    (arguments : List Expr) → ∀ first, (evalArguments context arguments)[0]? = some first →
      Yields (Value.AccountedFor context (firstNegations arguments)) first.value
  | [] => fun _ hfirst => nomatch hfirst
  | argument :: _ => by
    rintro first ⟨⟩
    exact Expr.yields_accountedFor context argument

end

/-- Every element of a result is computed at the instant of the evaluation or passes on a stored
sample, with its timestamp and after at most the negations of the expression.  Where no negation is
passed on the value is that of the sample. -/
theorem evalInstant_timestamps (settings : Settings) (store : Store) (expr : Expr) (instant : Int)
    {vector : Vector} (h : evalInstant settings store expr instant = .ok (.vector vector)) :
    (∀ element ∈ vector, element.timestamp = instant ∨
      ∃ sample ∈ store.samples, element.PassesOn expr.negations sample) ∧
    (expr.negations = 0 → ∀ element ∈ vector, element.timestamp = instant ∨
      ∃ sample ∈ store.samples, element.timestamp = sample.timestamp ∧
        element.value = sample.value ∧ sample.labels.Includes element.labels) := by
  have haccounted : ∀ element ∈ vector, element.timestamp = instant ∨
      ∃ sample ∈ store.samples, element.PassesOn expr.negations sample :=
    Expr.yields_accountedFor _ expr (.vector vector) h
  refine ⟨haccounted, fun hnone element helement => (haccounted element helement).imp_right ?_⟩
  rintro ⟨sample, hsample, hpasses⟩
  obtain ⟨count, hcount, hvalue⟩ := hpasses.value
  obtain rfl : count = 0 := Nat.eq_zero_of_le_zero (hnone ▸ hcount)
  exact ⟨sample, hsample, hpasses.timestamp, hvalue, hpasses.labels⟩

/-- The elements of a vector of limits above two. -/
def limitsAboveTwo : Expr := .binary (.comparison .greater) .none (ofMetric "limits") (.number 2)

/-- A filter passes the limit on as it is stored. -/
theorem limitsAboveTwo_passes_on :
    evalInstant .standard limited limitsAboveTwo 1500 = .ok (.vector [jobLimit]) ∧
      limitsAboveTwo.negations = 0 ∧ jobLimit.timestamp ≠ 1500 ∧
      ∃ sample ∈ limited.samples, jobLimit.timestamp = sample.timestamp ∧
        jobLimit.value = sample.value := by
  have hanswer : evalInstant .standard limited limitsAboveTwo 1500 = .ok (.vector [jobLimit]) := by
    have hlimits := evalInstant_limits
    rw [evalInstant] at hlimits
    rw [evalInstant, limitsAboveTwo, Expr.eval, hlimits]
    rfl
  have hnone : limitsAboveTwo.negations = 0 := rfl
  have hcomputed : jobLimit.timestamp ≠ 1500 := by decide
  refine ⟨hanswer, hnone, hcomputed, ?_⟩
  have hpassed := (evalInstant_timestamps .standard limited limitsAboveTwo 1500 hanswer).2 hnone
    jobLimit (List.mem_singleton_self _)
  obtain ⟨sample, hsample, htimestamp, hvalue, -⟩ := hpassed.resolve_left hcomputed
  exact ⟨sample, hsample, htimestamp, hvalue⟩

/-- The negation of the limit has the timestamp of the limit, when no sample had its value. -/
theorem instantQuery_negation :
    let query := "-limits"
    parse query = .ok (.negation (ofMetric "limits")) ∧
      ∃ element, instantQuery .standard limited query 1500 = .ok (.vector [element]) ∧
        element.timestamp ≠ 1500 ∧
        ¬ ∃ sample ∈ limited.samples, sample.timestamp = element.timestamp ∧
          sample.value = element.value := by
  intro query
  have hparse : parse query = .ok (.negation (ofMetric "limits")) := by cbv
  have hanswer : instantQuery .standard limited query 1500 =
      .ok (.vector [⟨.ofList [("job", "a")], 1000, -3⟩]) := by
    have hlimits := evalInstant_limits
    rw [evalInstant] at hlimits
    rw [instantQuery, hparse]
    change (Expr.eval _ (ofMetric "limits")).bind negate = _
    rw [hlimits]
    rfl
  refine ⟨hparse, _, hanswer, by decide, ?_⟩
  have hvalues : ∀ sample ∈ limited.samples, sample.value ≠ -3 := by decide
  rintro ⟨sample, hsample, -, hvalue⟩
  exact hvalues sample hsample hvalue

end MetricBench.Query
