import MetricBench.Proofs.Query.SetOperators

/-!
# Complementary label names

Labels can be chosen by the names that are taken or by the names that are left out.  Where the names that
are left out are all others that occur, the metric name among them, both choices give the same labels: the
same keys of elements, the same labels of results and the same groups.  So operators between vectors answer
alike, or fail alike.
-/

namespace MetricBench.Query

/-! ### Two choices of the same labels -/

/-- Of the given names, the metric name among them, some are taken and all others are left out; the metric
name is left out. -/
structure Complementary (names taken leftOut : List String) : Prop where
  nameLabel_mem : nameLabel ∈ names
  nameLabel_not_mem : nameLabel ∉ taken
  mem_leftOut_iff : ∀ name, name ∈ leftOut ↔ name ∈ names ∧ name ∉ taken

/-- Whether an element has labels of the given names only. -/
def InstantSample.Within (names : List String) (element : InstantSample) : Prop :=
  element.labels.EachName (· ∈ names)

section

variable {names taken leftOut : List String}

theorem Complementary.nameLabel_mem_leftOut (h : Complementary names taken leftOut) :
    nameLabel ∈ leftOut :=
  (h.mem_leftOut_iff nameLabel).mpr ⟨h.nameLabel_mem, h.nameLabel_not_mem⟩

theorem Complementary.contains_eq (h : Complementary names taken leftOut) {name : String}
    (hname : name ∈ names) : taken.contains name = !leftOut.contains name := by
  rw [Bool.eq_iff_iff, Bool.not_eq_true', ← Bool.not_eq_true, List.contains_iff_mem,
    List.contains_iff_mem, h.mem_leftOut_iff]
  tauto

/-- The metric name is among the names that are left out, so it need not be asked for. -/
theorem Complementary.contains_eq_and (h : Complementary names taken leftOut) {name : String}
    (hname : name ∈ names) :
    taken.contains name = (name != nameLabel && !leftOut.contains name) := by
  rw [h.contains_eq hname]
  by_cases hlabel : name = nameLabel
  · have hleft : leftOut.contains name = true := by
      rw [hlabel, List.contains_iff_mem]
      exact h.nameLabel_mem_leftOut
    rw [hleft, Bool.not_true, Bool.and_false]
  · rw [bne_iff_ne.mpr hlabel, Bool.true_and]

variable {labels : Labels}

theorem groupKey_complementary (h : Complementary names taken leftOut)
    (hlabels : labels.EachName (· ∈ names)) :
    groupKey (some (.including taken)) labels = groupKey (some (.excluding leftOut)) labels :=
  Labels.restrict_congr fun name hname => h.contains_eq_and (hlabels name hname)

theorem matchKey_complementary (h : Complementary names taken leftOut)
    (hlabels : labels.EachName (· ∈ names)) :
    matchKey (some (.including taken)) labels = matchKey (some (.excluding leftOut)) labels :=
  Labels.restrict_congr fun name hname => h.contains_eq_and (hlabels name hname)

/-- A result that keeps the metric name loses it here, as it is among the names that are left out. -/
theorem resultLabels_complementary (h : Complementary names taken leftOut)
    (hlabels : labels.EachName (· ∈ names)) (keepsName : Bool) :
    resultLabels keepsName (some (.including taken)) labels =
      resultLabels keepsName (some (.excluding leftOut)) labels := by
  have hkept : Labels.EachName (· ∈ names) (if keepsName then labels else labels.withoutName) := by
    split_ifs
    · exact hlabels
    · exact hlabels.withoutName
  exact Labels.restrict_congr fun name hname => h.contains_eq (hkept name hname)

end

/-! ### Operators between vectors -/

section

variable {matching other : Option Grouping} {lefts rights : Vector}
  (hleft : ∀ element ∈ lefts, element.key matching = element.key other)
  (hright : ∀ element ∈ rights, element.key matching = element.key other)

include hleft hright

theorem matched_congr : matched matching lefts rights = matched other lefts rights := by
  apply List.filterMap_congr
  intro element helement
  have hpartner : partner? matching rights element = partner? other rights element := by
    rw [partner?, partner?, hleft element helement]
    apply List.find?_congr
    intro partner hpartner
    rw [hright partner hpartner]
  exact congrArg (Option.map fun partner => (element, partner)) hpartner

theorem matchToRight_congr :
    matchToRight matching lefts rights = matchToRight other lefts rights := by
  have hkeys : (rights.map fun element => matchKey matching element.labels) =
      rights.map fun element => matchKey other element.labels :=
    List.map_congr_left hright
  simp only [matchToRight, hkeys, matched_congr hleft hright]

theorem matchOneToOne_congr :
    matchOneToOne matching lefts rights = matchOneToOne other lefts rights := by
  have hpairs : ((matched other lefts rights).map fun pair => matchKey matching pair.1.labels) =
      (matched other lefts rights).map fun pair => matchKey other pair.1.labels := by
    apply List.map_congr_left
    intro pair hpair
    exact hleft pair.1 (mem_of_mem_matched hpair).1
  rw [matchOneToOne, matchOneToOne, matchToRight_congr hleft hright]
  refine bind_congr_of_ok fun pairs hmatch => ?_
  obtain ⟨-, rfl⟩ := matchToRight_eq_ok_iff.mp hmatch
  rw [hpairs]

omit hleft in
theorem keys_congr : rights.map (·.key matching) = rights.map (·.key other) :=
  List.map_congr_left hright

theorem withPartner_congr_keys :
    withPartner matching lefts rights = withPartner other lefts rights := by
  apply List.filter_congr
  intro element helement
  rw [keys_congr hright, hleft element helement]

theorem withoutPartner_congr_keys :
    withoutPartner matching lefts rights = withoutPartner other lefts rights := by
  apply List.filter_congr
  intro element helement
  rw [keys_congr hright, hleft element helement]

theorem setOperation_congr (op : SetOp) :
    setOperation op matching lefts rights = setOperation op other lefts rights := by
  cases op with
  | and =>
    rw [setOperation_and, setOperation_and]
    exact withPartner_congr_keys hleft hright
  | «unless» =>
    rw [setOperation_unless, setOperation_unless]
    exact withoutPartner_congr_keys hleft hright
  | or =>
    rw [setOperation_or, setOperation_or]
    exact congrArg (lefts ++ ·) (withoutPartner_congr_keys hright hleft)

theorem vectorVector_congr
    (hresult : ∀ element ∈ lefts, ∀ keepsName, resultLabels keepsName matching element.labels =
      resultLabels keepsName other element.labels)
    (op : BinaryOp) (returnsNumber : Bool) (many : Option (ManySide × List String))
    (instant : Int) :
    vectorVector op ⟨returnsNumber, matching, many⟩ instant lefts rights =
      vectorVector op ⟨returnsNumber, other, many⟩ instant lefts rights := by
  have hpairs (op : BinaryOp) : ∀ pair ∈ matched other lefts rights,
      combine? op ⟨returnsNumber, matching, many⟩ instant pair =
        combine? op ⟨returnsNumber, other, many⟩ instant pair := by
    intro pair hpair
    have hlabels := hresult pair.1 (mem_of_mem_matched hpair).1
    cases op with
    | arithmetic op => simp only [combine?, hlabels]
    | comparison op => simp only [combine?, hlabels]
    | set _ | unknown _ => rfl
  have hanswer (op : BinaryOp) :
      (matchOneToOne matching lefts rights >>= fun pairs =>
        (.ok (pairs.filterMap (combine? op ⟨returnsNumber, matching, many⟩ instant)) :
          Except EvalError Vector)) =
      matchOneToOne other lefts rights >>= fun pairs =>
        .ok (pairs.filterMap (combine? op ⟨returnsNumber, other, many⟩ instant)) := by
    rw [matchOneToOne_congr hleft hright]
    refine bind_congr_of_ok fun pairs hmatch => ?_
    obtain ⟨-, -, rfl⟩ := matchOneToOne_eq_ok_iff.mp hmatch
    exact congrArg Except.ok (List.filterMap_congr (hpairs op))
  cases op with
  | arithmetic op => exact hanswer _
  | comparison op => exact hanswer _
  | set op => exact congrArg Except.ok (setOperation_congr hleft hright op)
  | unknown name => simp only [vectorVector, matchToRight_congr hleft hright]

end

/-- For vectors with labels of the given names only, it is the same whether elements are matched by the names
that are taken or by all but those that are left out: each operator gives the same elements with the same
labels in the same order, or the same failure, and so does each expression with such operands. -/
theorem vectorVector_including_eq_excluding {names taken leftOut : List String}
    (h : Complementary names taken leftOut) {lefts rights : Vector}
    (hleft : ∀ element ∈ lefts, element.Within names)
    (hright : ∀ element ∈ rights, element.Within names) (op : BinaryOp) (returnsNumber : Bool)
    (many : Option (ManySide × List String)) :
    let including : BinaryModifier := ⟨returnsNumber, some (.including taken), many⟩
    let excluding : BinaryModifier := ⟨returnsNumber, some (.excluding leftOut), many⟩
    (∀ instant, vectorVector op including instant lefts rights =
        vectorVector op excluding instant lefts rights) ∧
      ∀ context left right, left.eval context = .ok (.vector lefts) →
        right.eval context = .ok (.vector rights) →
        (Expr.binary op including left right).eval context =
          (Expr.binary op excluding left right).eval context := by
  intro including excluding
  have hkeys (vector : Vector) (hvector : ∀ element ∈ vector, element.Within names) :
      ∀ element ∈ vector, element.key (some (.including taken)) =
        element.key (some (.excluding leftOut)) :=
    fun element helement => matchKey_complementary h (hvector element helement)
  have hlabels : ∀ element ∈ lefts, ∀ keepsName,
      resultLabels keepsName (some (.including taken)) element.labels =
        resultLabels keepsName (some (.excluding leftOut)) element.labels :=
    fun element helement => resultLabels_complementary h (hleft element helement)
  have hvectors (instant : Int) : vectorVector op including instant lefts rights =
      vectorVector op excluding instant lefts rights :=
    vectorVector_congr (hkeys lefts hleft) (hkeys rights hright) hlabels op returnsNumber many instant
  refine ⟨hvectors, fun context left right hleftValue hrightValue => ?_⟩
  rw [Expr.eval, Expr.eval, hleftValue, hrightValue]
  exact congrArg (fun answer => evaluated (answer.map Value.vector)) (hvectors context.instant)

/-- The errors of a job are divided by its limit whether they are matched by the job or by all but the name
and the code. -/
theorem errors_per_limit_without_code :
    let names := [nameLabel, "code", "job"]
    let including : BinaryModifier := ⟨false, some (.including ["job"]), none⟩
    let excluding : BinaryModifier := ⟨false, some (.excluding [nameLabel, "code"]), none⟩
    let quotient : Vector := [⟨.ofList [("job", "a")], 1500, 6 / 3⟩]
    Complementary names ["job"] [nameLabel, "code"] ∧ codedErrors.Within names ∧
      jobLimit.Within names ∧
      vectorVector (.arithmetic .divide) including 1500 [codedErrors] [jobLimit] = .ok quotient ∧
      vectorVector (.arithmetic .divide) excluding 1500 [codedErrors] [jobLimit] = .ok quotient := by
  intro names including excluding quotient
  have hnames : Complementary names ["job"] [nameLabel, "code"] := by
    refine ⟨by decide, by decide, fun name => ?_⟩
    by_cases hjob : name = "job"
    · rw [hjob]
      decide
    · simp [names, hjob]
  have herrors : ∀ name ∈ codedErrors.labels.keys, name ∈ names := by decide
  have hlimit : ∀ name ∈ jobLimit.labels.keys, name ∈ names := by decide
  have hquotient : vectorVector (.arithmetic .divide) including 1500 [codedErrors] [jobLimit] =
      .ok quotient := by rfl
  obtain ⟨hsame, -⟩ := vectorVector_including_eq_excluding hnames
    (List.forall_mem_singleton.mpr herrors) (List.forall_mem_singleton.mpr hlimit)
    (.arithmetic .divide) false none
  exact ⟨hnames, herrors, hlimit, hquotient, (hsame 1500).symm.trans hquotient⟩

end MetricBench.Query
