import MetricBench.Proofs.Labels
import MetricBench.Proofs.Outcome
import MetricBench.Proofs.Query.Groups
import MetricBench.Query.Evaluation

/-!
# Where elements come from

An element that an aggregation, an operator or a function gives derives from an element of an operand:
it has no labels beside those of its source, and it either is computed at the instant of the evaluation
or is passed on with the timestamp and the value of its source.  Functions of ranges and a few others
make elements of their own.
-/

namespace MetricBench.Query

/-- Whether an element derives from another one.  Where elements are not passed on it is computed. -/
structure InstantSample.DerivesFrom (instant : Int) (passes : Bool)
    (element source : InstantSample) : Prop where
  labels : source.labels.Includes element.labels
  origin : element.timestamp = instant ∨
    passes = true ∧ element.timestamp = source.timestamp ∧ element.value = source.value

/-- Whether all elements of a result derive from elements of a vector. -/
def EachDerives (instant : Int) (passes : Bool) (vector result : Vector) : Prop :=
  ∀ element ∈ result, ∃ source ∈ vector, element.DerivesFrom instant passes source

/-- Whether a value is a scalar, or a vector that is made of elements of a kind. -/
def Value.MadeOf (kind : InstantSample → Prop) : Value → Prop
  | .vector samples => ∀ element ∈ samples, kind element
  | .scalar _ => True
  | .matrix _ | .string _ => False

/-- The elements of a value. -/
def Value.elements : Value → Vector
  | .vector samples => samples
  | .scalar _ | .matrix _ | .string _ => []

section

variable {instant : Int} {passes : Bool} {vector : Vector}

theorem derivesFrom_self (hpasses : passes = true) (element : InstantSample) :
    element.DerivesFrom instant passes element :=
  ⟨element.labels.includes_refl, .inr ⟨hpasses, rfl, rfl⟩⟩

theorem derivesFrom_computed (sample : InstantSample) (value : Double) :
    (sample.computed instant value).DerivesFrom instant passes sample :=
  ⟨sample.labels.includes_filter _, .inl rfl⟩

theorem InstantSample.DerivesFrom.mono {more : Bool} {element source : InstantSample}
    (h : element.DerivesFrom instant passes source) (hmore : passes = true → more = true) :
    element.DerivesFrom instant more source :=
  ⟨h.labels, h.origin.imp_right fun hpassed => ⟨hmore hpassed.1, hpassed.2⟩⟩

theorem InstantSample.DerivesFrom.computed {element source : InstantSample}
    (h : element.DerivesFrom instant false source) : element.timestamp = instant :=
  h.origin.resolve_right fun hpassed => Bool.false_ne_true hpassed.1

theorem eachDerives_nil : EachDerives instant passes vector [] := fun _ h => nomatch h

theorem eachDerives_of_subset (hpasses : passes = true) {result : Vector}
    (h : result ⊆ vector) : EachDerives instant passes vector result :=
  fun element helement => ⟨element, h helement, derivesFrom_self hpasses element⟩

theorem eachDerives_computed (value : InstantSample → Double) :
    EachDerives instant passes vector
      (vector.map fun sample => sample.computed instant (value sample)) := by
  intro element helement
  obtain ⟨sample, hsample, rfl⟩ := List.mem_map.mp helement
  exact ⟨sample, hsample, derivesFrom_computed sample _⟩

theorem Value.MadeOf.imp {kind other : InstantSample → Prop} {value : Value}
    (h : value.MadeOf kind) (himp : ∀ element, kind element → other element) :
    value.MadeOf other := by
  cases value with
  | vector samples => exact fun element helement => himp element (h element helement)
  | scalar number => trivial
  | matrix series => cases h
  | string text => cases h

end

/-! ### Aggregations -/

/-- Whether an aggregation passes elements on. -/
def AggregateOp.passes : AggregateOp → Bool
  | .topk | .bottomk => true
  | .reduce _ | .quantile | .unsupported _ => false

theorem includes_groupKey (grouping : Option Grouping) (labels : Labels) :
    labels.Includes (groupKey grouping labels) := by
  match grouping with
  | none => exact labels.includes_empty
  | some (.including names) => exact labels.includes_filter _
  | some (.excluding names) => exact labels.includes_filter _

/-- A group has the labels that one of its elements is put into it by, and its elements are those of
the vector. -/
theorem exists_of_mem_groups {grouping : Option Grouping} {vector : Vector}
    {group : Labels × Vector} (h : group ∈ groups grouping vector) :
    (∃ element ∈ vector, groupKey grouping element.labels = group.1) ∧ group.2 ⊆ vector := by
  obtain ⟨hlabels, hmembers⟩ := mem_groups_iff.mp h
  refine ⟨List.mem_map.mp hlabels, ?_⟩
  rw [hmembers]
  exact List.filter_subset_self _

theorem eachDerives_reduceGroups (reduce : List Double → Double) (grouping : Option Grouping)
    (instant : Int) (vector : Vector) :
    EachDerives instant false vector (reduceGroups reduce grouping instant vector) := by
  intro element helement
  obtain ⟨⟨labels, members⟩, hgroup, rfl⟩ := List.mem_map.mp helement
  obtain ⟨⟨member, hmember, hkey⟩, -⟩ := exists_of_mem_groups hgroup
  have hlabels := includes_groupKey grouping member.labels
  rw [hkey] at hlabels
  exact ⟨member, hmember, hlabels, .inl rfl⟩

theorem selectExtreme_subset (greatest : Bool) (size : Double) (members : Vector) :
    selectExtreme greatest size members ⊆ members := by
  intro element helement
  unfold selectExtreme at helement
  split at helement
  case isTrue => cases helement
  case isFalse => exact List.mem_mergeSort.mp (List.mem_of_mem_take helement)

theorem selectGroups_subset (greatest : Bool) (size : Double) (grouping : Option Grouping)
    (vector : Vector) : selectGroups greatest size grouping vector ⊆ vector := by
  intro element helement
  obtain ⟨group, hgroup, hmem⟩ := List.mem_flatMap.mp helement
  exact (exists_of_mem_groups hgroup).2 (selectExtreme_subset _ _ _ hmem)

theorem derives_apply (op : AggregateOp) (grouping : Option Grouping) (instant : Int)
    (parameter : Option Double) (vector : Vector) :
    Yields (EachDerives instant op.passes vector) (op.apply grouping instant parameter vector) := by
  cases op with
  | topk => exact yields_ok (eachDerives_of_subset rfl (selectGroups_subset true _ _ _))
  | bottomk => exact yields_ok (eachDerives_of_subset rfl (selectGroups_subset false _ _ _))
  | reduce aggregation => exact yields_ok (eachDerives_reduceGroups _ grouping instant vector)
  | quantile => exact yields_ok (eachDerives_reduceGroups _ grouping instant vector)
  | unsupported name =>
    simp only [AggregateOp.apply, AggregateOp.reduction?]
    split_ifs
    · exact yields_ok eachDerives_nil
    · exact yields_error _ _

/-! ### Operators -/

/-- Whether an operator computes with the numbers of its sides or compares them. -/
def BinaryOp.takesNumbers : BinaryOp → Bool
  | .arithmetic _ | .comparison _ => true
  | .set _ | .unknown _ => false

/-- Whether an operator is a comparison that filters. -/
def BinaryOp.filters (returnsNumber : Bool) : BinaryOp → Bool
  | .comparison _ => !returnsNumber
  | .arithmetic _ | .set _ | .unknown _ => false

/-- Whether an operator passes on elements of the left side.  A filter does unless this side is a
scalar. -/
def BinaryOp.passesLeft (modifier : BinaryModifier) (leftType : ValueType) : BinaryOp → Bool
  | .set _ => true
  | op => op.filters modifier.returnsNumber && leftType != .scalar

/-- Whether an operator passes on elements of the right side.  A filter does when the left side is a
scalar. -/
def BinaryOp.passesRight (modifier : BinaryModifier) (leftType : ValueType) : BinaryOp → Bool
  | .set op => op = .or
  | op => op.filters modifier.returnsNumber && leftType = .scalar

theorem BinaryOp.passesLeft_of_filters {op : BinaryOp} {modifier : BinaryModifier}
    (h : op.filters modifier.returnsNumber = true) {leftType : ValueType}
    (htype : leftType ≠ .scalar) : op.passesLeft modifier leftType = true := by
  cases op with
  | comparison op => simp [passesLeft, h, htype]
  | _ => cases h

theorem BinaryOp.passesRight_of_filters {op : BinaryOp} {modifier : BinaryModifier}
    (h : op.filters modifier.returnsNumber = true) : op.passesRight modifier .scalar = true := by
  cases op with
  | comparison op => simp [passesRight, h]
  | _ => cases h

theorem derives_vectorScalar (op : BinaryOp) (returnsNumber swapped : Bool) (instant : Int)
    (vector : Vector) (scalar : Double) :
    Yields (EachDerives instant (op.filters returnsNumber) vector)
      (vectorScalar op returnsNumber swapped instant vector scalar) := by
  cases op with
  | arithmetic op => exact yields_ok (eachDerives_computed _)
  | comparison op =>
    cases returnsNumber with
    | true => exact yields_ok (eachDerives_computed _)
    | false => exact yields_ok (eachDerives_of_subset rfl (List.filter_subset_self _))
  | set _ | unknown _ =>
    simp only [vectorScalar]
    split_ifs
    · exact yields_ok eachDerives_nil
    · exact yields_error _ _

theorem includes_resultLabels (keepsName : Bool) (matching : Option Grouping) (labels : Labels) :
    labels.Includes (resultLabels keepsName matching labels) := by
  have hkept : labels.Includes (if keepsName then labels else labels.withoutName) := by
    split_ifs
    · exact labels.includes_refl
    · exact labels.includes_filter _
  match matching with
  | none => exact hkept
  | some (.including names) => exact hkept.trans (Labels.includes_filter _ _)
  | some (.excluding names) => exact hkept.trans (Labels.includes_filter _ _)

theorem derivesFrom_of_combine {op : BinaryOp} {modifier : BinaryModifier} {instant : Int}
    {pair : InstantSample × InstantSample} {element : InstantSample}
    (h : combine? op modifier instant pair = some element) :
    element.DerivesFrom instant (op.filters modifier.returnsNumber) pair.1 := by
  cases op with
  | arithmetic op =>
    cases h
    exact ⟨includes_resultLabels _ _ _, .inl rfl⟩
  | comparison op =>
    simp only [combine?] at h
    split_ifs at h with hnumber
    · cases h
      exact ⟨includes_resultLabels _ _ _, .inl rfl⟩
    · cases h
      have hfilters : (BinaryOp.comparison op).filters modifier.returnsNumber = true := by
        simpa [BinaryOp.filters] using hnumber
      exact ⟨includes_resultLabels _ _ _, .inr ⟨hfilters, rfl, rfl⟩⟩
  | set _ | unknown _ => cases h

theorem mem_of_mem_matched {matching : Option Grouping} {left right : Vector}
    {pair : InstantSample × InstantSample} (h : pair ∈ matched matching left right) :
    pair.1 ∈ left ∧ pair.2 ∈ right ∧
      matchKey matching pair.1.labels = matchKey matching pair.2.labels := by
  obtain ⟨sample, hsample, hpair⟩ := List.mem_filterMap.mp h
  obtain ⟨other, hother, rfl⟩ := Option.map_eq_some_iff.mp hpair
  have hkey := List.find?_some hother
  exact ⟨hsample, List.mem_of_find?_eq_some hother, (of_decide_eq_true hkey).symm⟩

/-- Nothing is repeated when the elements are different from one another and from those seen. -/
theorem firstRepeated?_eq_none_iff {α : Type} [DecidableEq α] {seen elements : List α} :
    firstRepeated? seen elements = none ↔
      elements.Nodup ∧ ∀ element ∈ elements, element ∉ seen := by
  induction elements generalizing seen with
  | nil => exact iff_of_true rfl ⟨List.nodup_nil, List.forall_mem_nil _⟩
  | cons head rest ih =>
    rw [firstRepeated?, List.nodup_cons, List.forall_mem_cons]
    split_ifs with hseen
    · exact iff_of_false nofun fun h => h.2.1 (List.contains_iff_mem.mp hseen)
    · rw [List.contains_iff_mem] at hseen
      rw [ih]
      simp only [List.mem_cons, not_or]
      constructor
      · rintro ⟨hnodup, hrest⟩
        exact ⟨⟨fun hmem => (hrest head hmem).1 rfl, hnodup⟩, hseen,
          fun element helement => (hrest element helement).2⟩
      · rintro ⟨⟨hhead, hnodup⟩, -, hrest⟩
        exact ⟨hnodup, fun element helement =>
          ⟨fun heq => hhead (heq ▸ helement), hrest element helement⟩⟩

theorem firstRepeated?_nil_eq_none_iff {keys : List Labels} :
    firstRepeated? [] keys = none ↔ keys.Nodup := by
  rw [firstRepeated?_eq_none_iff]
  exact and_iff_left fun _ _ => List.not_mem_nil

/-- Elements match those of the right vector when no key is repeated there. -/
theorem matchToRight_eq_ok_iff {matching : Option Grouping} {left right : Vector}
    {pairs : List (InstantSample × InstantSample)} :
    matchToRight matching left right = .ok pairs ↔
      (right.map fun sample => matchKey matching sample.labels).Nodup ∧
        pairs = matched matching left right := by
  unfold matchToRight
  split
  case h_1 repeated hright =>
    refine iff_of_false nofun fun h => ?_
    cases (firstRepeated?_nil_eq_none_iff.mpr h.1).symm.trans hright
  case h_2 hright =>
    rw [and_iff_right (firstRepeated?_nil_eq_none_iff.mp hright), Except.ok.injEq, eq_comm]

/-- Elements match one to one when no key is repeated on the right, nor on the left among the pairs that
match at all. -/
theorem matchOneToOne_eq_ok_iff {matching : Option Grouping} {left right : Vector}
    {pairs : List (InstantSample × InstantSample)} :
    matchOneToOne matching left right = .ok pairs ↔
      (right.map fun sample => matchKey matching sample.labels).Nodup ∧
        (pairs.map fun pair => matchKey matching pair.1.labels).Nodup ∧
        pairs = matched matching left right := by
  rw [matchOneToOne, bind_eq_ok_iff]
  constructor
  · rintro ⟨found, hfound, hpairs⟩
    obtain ⟨hright, rfl⟩ := matchToRight_eq_ok_iff.mp hfound
    split at hpairs
    case h_1 => cases hpairs
    case h_2 hleft =>
      cases hpairs
      exact ⟨hright, firstRepeated?_nil_eq_none_iff.mp hleft, rfl⟩
  · rintro ⟨hright, hleft, rfl⟩
    refine ⟨_, matchToRight_eq_ok_iff.mpr ⟨hright, rfl⟩, ?_⟩
    rw [firstRepeated?_nil_eq_none_iff.mpr hleft]

theorem yields_matchOneToOne (matching : Option Grouping) (left right : Vector) :
    Yields (· = matched matching left right) (matchOneToOne matching left right) :=
  fun _ hpairs => (matchOneToOne_eq_ok_iff.mp hpairs).2.2

theorem eachDerives_combine (op : BinaryOp) (modifier : BinaryModifier) (instant : Int)
    (left right : Vector) :
    EachDerives instant (op.filters modifier.returnsNumber) left
      ((matched modifier.matching left right).filterMap (combine? op modifier instant)) := by
  intro element helement
  obtain ⟨pair, hpair, hcombine⟩ := List.mem_filterMap.mp helement
  exact ⟨pair.1, (mem_of_mem_matched hpair).1, derivesFrom_of_combine hcombine⟩

theorem mem_of_mem_setOperation {op : SetOp} {matching : Option Grouping} {lefts rights : Vector}
    {element : InstantSample} (h : element ∈ setOperation op matching lefts rights) :
    element ∈ lefts ∨ op = .or ∧ element ∈ rights := by
  cases op with
  | and => exact .inl (List.mem_filter.mp h).1
  | «unless» => exact .inl (List.mem_filter.mp h).1
  | or => exact (List.mem_append.mp h).imp_right fun hmem => ⟨rfl, (List.mem_filter.mp hmem).1⟩

/-- Whether an element derives from an element of one of the two sides of an operator. -/
def InstantSample.DerivesFromSides (instant : Int) (passesLeft passesRight : Bool)
    (lefts rights : Vector) (element : InstantSample) : Prop :=
  (∃ source ∈ lefts, element.DerivesFrom instant passesLeft source) ∨
    ∃ source ∈ rights, element.DerivesFrom instant passesRight source

section

variable (op : BinaryOp) (modifier : BinaryModifier) (instant : Int)

theorem derives_vectorVector (lefts rights : Vector) :
    Yields (fun result => ∀ element ∈ result, element.DerivesFromSides instant
        (op.passesLeft modifier .vector) (op.passesRight modifier .vector) lefts rights)
      (vectorVector op modifier instant lefts rights) := by
  have hcombined (op : BinaryOp) :
      Yields (fun result => ∀ element ∈ result, element.DerivesFromSides instant
          (op.passesLeft modifier .vector) (op.passesRight modifier .vector) lefts rights)
        (matchOneToOne modifier.matching lefts rights >>= fun pairs =>
          (.ok (pairs.filterMap (combine? op modifier instant)) : Except EvalError Vector)) := by
    refine (yields_matchOneToOne modifier.matching lefts rights).bind fun pairs hpairs => ?_
    rw [hpairs]
    refine yields_ok fun element helement => ?_
    obtain ⟨source, hsource, hderives⟩ :=
      eachDerives_combine op modifier instant _ _ element helement
    exact .inl ⟨source, hsource,
      hderives.mono fun hfilters => op.passesLeft_of_filters hfilters nofun⟩
  cases op with
  | arithmetic op => exact hcombined _
  | comparison op => exact hcombined _
  | set op =>
    refine yields_ok fun element helement => ?_
    rcases mem_of_mem_setOperation helement with hmem | ⟨hor, hmem⟩
    · exact .inl ⟨element, hmem, derivesFrom_self rfl element⟩
    · exact .inr ⟨element, hmem, derivesFrom_self (decide_eq_true hor) element⟩
  | unknown name =>
    refine (yields_self _).bind fun pairs _ => ?_
    split_ifs
    · exact yields_ok (List.forall_mem_nil _)
    · exact yields_error _ _

theorem derives_applyBinary (left right : Value) :
    Yields (Value.MadeOf (InstantSample.DerivesFromSides instant
        (op.passesLeft modifier left.type) (op.passesRight modifier left.type)
        left.elements right.elements))
      (applyBinary op modifier instant left right) := by
  cases left with
  | scalar a =>
    cases right with
    | scalar b => exact (yields_self (scalarScalar op a b)).map fun _ _ => trivial
    | vector samples =>
      have hresult := derives_vectorScalar op modifier.returnsNumber true instant samples a
      refine hresult.map fun result hderives element helement => ?_
      obtain ⟨source, hsource, hderives⟩ := hderives element helement
      exact .inr ⟨source, hsource, hderives.mono op.passesRight_of_filters⟩
    | matrix series => exact yields_error _ _
    | string text => exact yields_error _ _
  | vector samples =>
    cases right with
    | scalar b =>
      have hresult := derives_vectorScalar op modifier.returnsNumber false instant samples b
      refine hresult.map fun result hderives element helement => ?_
      obtain ⟨source, hsource, hderives⟩ := hderives element helement
      exact .inl ⟨source, hsource,
        hderives.mono fun hfilters => op.passesLeft_of_filters hfilters nofun⟩
    | vector others =>
      exact (derives_vectorVector op modifier instant samples others).map fun _ h => h
    | matrix series => exact yields_error _ _
    | string text => exact yields_error _ _
  | matrix series => exact yields_error _ _
  | string text => exact yields_error _ _

end

/-! ### Functions -/

/-- Whether a function passes elements on: only sorting does. -/
def Function.passes : Function → Bool
  | .sort | .sortDescending => true
  | _ => false

/-- Whether an element comes from the arguments of a function, or is one of its own. -/
inductive FromArguments (function : Function) (arguments : List Argument) (instant : Int) :
    InstantSample → Prop where
  | ofVector {vector : Vector} {source element : InstantSample}
      (hvector : vectorArgument function arguments 0 = .ok vector) (hsource : source ∈ vector)
      (hderives : element.DerivesFrom instant function.passes source) :
      FromArguments function arguments instant element
  | ofRange {place : Nat} {found : List Series × Int} {series : Series}
      (hfound : rangeArgument function arguments place = .ok found) (hseries : series ∈ found.1)
      (value : Double) :
      FromArguments function arguments instant ⟨series.labels.withoutName, instant, value⟩
  | ofAbsence {chosen : Argument} (hchosen : argument function arguments 0 = .ok chosen)
      (value : Double) :
      FromArguments function arguments instant ⟨absentLabels chosen.expr, instant, value⟩
  | single (value : Double) : FromArguments function arguments instant ⟨.empty, instant, value⟩

section

variable {function : Function} {arguments : List Argument} {instant : Int}

theorem argument_eq_ok_iff {place : Nat} {chosen : Argument} :
    argument function arguments place = .ok chosen ↔ arguments[place]? = some chosen := by
  rw [argument]
  split
  case h_1 found hfound => rw [hfound, Except.ok.injEq, Option.some.injEq]
  case h_2 hnone => simp [hnone, failing]

theorem eq_vector_of_asVector {value : Value} {context : String} {samples : Vector}
    (h : value.asVector context = .ok samples) : value = .vector samples := by
  cases value with
  | vector others =>
    cases h
    rfl
  | _ => cases h

/-- A vector argument is an argument whose value is the vector. -/
theorem exists_of_vectorArgument {place : Nat} {vector : Vector}
    (h : vectorArgument function arguments place = .ok vector) :
    ∃ chosen, arguments[place]? = some chosen ∧ chosen.value = .ok (.vector vector) := by
  obtain ⟨chosen, hchosen, h⟩ := bind_eq_ok_iff.mp h
  obtain ⟨value, hvalue, hvector⟩ := bind_eq_ok_iff.mp h
  rw [eq_vector_of_asVector hvector] at hvalue
  exact ⟨chosen, argument_eq_ok_iff.mp hchosen, hvalue⟩

theorem FromArguments.of_eachDerives {vector result : Vector}
    (hvector : vectorArgument function arguments 0 = .ok vector)
    (h : EachDerives instant function.passes vector result) :
    ∀ element ∈ result, FromArguments function arguments instant element := by
  intro element helement
  obtain ⟨source, hsource, hderives⟩ := h element helement
  exact .ofVector hvector hsource hderives

theorem FromArguments.of_overSeries {place : Nat} {found : List Series × Int}
    (hfound : rangeArgument function arguments place = .ok found) (leastPoints : Nat)
    (reduce : List Point → Option Double) :
    ∀ element ∈ overSeries instant leastPoints reduce found.1,
      FromArguments function arguments instant element := by
  intro element helement
  obtain ⟨series, hseries, hresult⟩ := List.mem_filterMap.mp helement
  split_ifs at hresult
  obtain ⟨value, -, rfl⟩ := Option.map_eq_some_iff.mp hresult
  exact .ofRange hfound hseries value

end

theorem yields_fromArguments (function : Function) (arguments : List Argument) (instant : Int) :
    Yields (Value.MadeOf (FromArguments function arguments instant))
      (applyFunction function arguments instant) := by
  have hmapped {vector : Vector} (hvector : vectorArgument function arguments 0 = .ok vector)
      (f : Double → Double) : ∀ element ∈ mapValues instant f vector,
        FromArguments function arguments instant element :=
    .of_eachDerives hvector (eachDerives_computed _)
  cases function with
  | time => exact yields_ok trivial
  | vector =>
    refine yields_bind _ fun number => yields_ok fun element helement => ?_
    rw [List.mem_singleton.mp helement]
    exact .single number
  | scalar =>
    refine yields_bind _ fun vector => ?_
    split
    · exact yields_ok trivial
    · exact yields_ok trivial
  | absent =>
    refine yields_bind _ fun vector => ?_
    split_ifs
    · exact yields_ok fun element helement => nomatch helement
    · refine (yields_self _).bind fun chosen hchosen => yields_ok fun element helement => ?_
      rw [List.mem_singleton.mp helement]
      exact .ofAbsence hchosen _
  | timestamp =>
    exact (yields_self _).bind fun vector hvector =>
      yields_ok (.of_eachDerives hvector (eachDerives_computed _))
  | sort =>
    exact (yields_self _).bind fun vector hvector =>
      yields_ok (.of_eachDerives hvector (eachDerives_of_subset rfl fun element helement =>
        List.mem_mergeSort.mp helement))
  | sortDescending =>
    exact (yields_self _).bind fun vector hvector =>
      yields_ok (.of_eachDerives hvector (eachDerives_of_subset rfl fun element helement =>
        List.mem_mergeSort.mp (List.mem_reverse.mp helement)))
  | number number =>
    exact (yields_self _).bind fun vector hvector => yields_ok (hmapped hvector _)
  | round =>
    refine (yields_self _).bind fun vector hvector => ?_
    dsimp only
    split_ifs
    · exact yields_ok (hmapped hvector _)
    · exact yields_bind _ fun nearest => yields_ok (hmapped hvector _)
  | clampMin =>
    exact (yields_self _).bind fun vector hvector =>
      yields_bind _ fun bound => yields_ok (hmapped hvector _)
  | clampMax =>
    exact (yields_self _).bind fun vector hvector =>
      yields_bind _ fun bound => yields_ok (hmapped hvector _)
  | quantileOverTime =>
    exact yields_bind _ fun fraction => (yields_self _).bind fun found hfound =>
      yields_ok (.of_overSeries hfound _ _)
  | range reducer =>
    exact (yields_self _).bind fun found hfound => yields_ok (.of_overSeries hfound _ _)
  | unsupported name => exact yields_bind _ fun _ => yields_error _ _

end MetricBench.Query
