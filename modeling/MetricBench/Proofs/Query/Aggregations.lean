import MetricBench.Proofs.Number.WholePart
import MetricBench.Proofs.Query.ComplementaryNames
import MetricBench.Proofs.Query.Groups

/-!
# Aggregations of groups

An aggregation gives one element for each group of its vector, with what the values of the group are reduced
to.  So nothing is lost or counted twice, and the result is the same when labels are chosen by the names that
are taken or by those that are left out.
-/

namespace MetricBench.Query

open Number (ofNat rational?)
open SortedMap (StrictlyIncreasing)

/-- A vector with one element for each group of another: at the instant, with what the values of all elements
of the group are reduced to. -/
structure ReducesGroups (reduce : List Double → Double) (grouping : Option Grouping) (instant : Int)
    (vector result : Vector) : Prop where
  increasing : StrictlyIncreasing (result.map (·.labels))
  mem_labels_iff : ∀ labels, labels ∈ result.map (·.labels) ↔ labels ∈ vector.map (·.group grouping)
  timestamp_eq : ∀ element ∈ result, element.timestamp = instant
  value_eq : ∀ element ∈ result,
    element.value = reduce ((membersOf grouping vector element.labels).map (·.value))
  members_perm : (result.flatMap fun element => membersOf grouping vector element.labels).Perm vector

section

variable {grouping other : Option Grouping} {vector : Vector}

theorem reduceGroups_eq (reduce : List Double → Double) (instant : Int) :
    reduceGroups reduce grouping instant vector =
      (SortedMap.distinct (vector.map (·.group grouping))).map fun labels =>
        ⟨labels, instant, reduce ((membersOf grouping vector labels).map (·.value))⟩ := by
  rw [reduceGroups, groups_eq, List.map_map]
  rfl

theorem reducesGroups_reduceGroups (reduce : List Double → Double) (instant : Int) :
    ReducesGroups reduce grouping instant vector (reduceGroups reduce grouping instant vector) := by
  have hlabels : (reduceGroups reduce grouping instant vector).map (·.labels) =
      SortedMap.distinct (vector.map (·.group grouping)) := by
    rw [reduceGroups_eq, List.map_map]
    exact List.map_id _
  constructor
  case increasing =>
    rw [hlabels]
    exact SortedMap.strictlyIncreasing_distinct _
  case mem_labels_iff =>
    intro labels
    rw [hlabels, SortedMap.mem_distinct_iff]
  case timestamp_eq =>
    intro element helement
    obtain ⟨group, -, rfl⟩ := List.mem_map.mp helement
    rfl
  case value_eq =>
    intro element helement
    rw [reduceGroups_eq] at helement
    obtain ⟨labels, -, rfl⟩ := List.mem_map.mp helement
    rfl
  case members_perm =>
    have hmembers : (groups grouping vector).flatMap (·.2) =
        (reduceGroups reduce grouping instant vector).flatMap fun element =>
          membersOf grouping vector element.labels := by
      rw [reduceGroups_eq, groups_eq, List.flatMap_map, List.flatMap_map]
    rw [← hmembers]
    exact flatMap_groups_perm

theorem reduceGroups_congr (h : groups grouping vector = groups other vector)
    (reduce : List Double → Double) (instant : Int) :
    reduceGroups reduce grouping instant vector = reduceGroups reduce other instant vector := by
  rw [reduceGroups, reduceGroups, h]

theorem apply_congr (h : groups grouping vector = groups other vector) (op : AggregateOp)
    (instant : Int) (parameter : Option Double) :
    op.apply grouping instant parameter vector = op.apply other instant parameter vector := by
  cases op with
  | topk | bottomk => simp only [AggregateOp.apply, selectGroups, h]
  | reduce aggregation => exact congrArg Except.ok (reduceGroups_congr h _ instant)
  | quantile => exact congrArg Except.ok (reduceGroups_congr h _ instant)
  | unsupported name => rfl

theorem apply_of_reduction {op : AggregateOp} {parameter : Option Double}
    {reduce : List Double → Double} (h : op.reduction? parameter = some reduce) (instant : Int) :
    op.apply grouping instant parameter vector =
      .ok (reduceGroups reduce grouping instant vector) := by
  cases op with
  | topk | bottomk | unsupported _ => cases h
  | reduce | quantile =>
    cases h
    rfl

theorem ReducesGroups.eq_nil_iff {reduce : List Double → Double} {instant : Int} {result : Vector}
    (h : ReducesGroups reduce grouping instant vector result) : result = [] ↔ vector = [] := by
  constructor
  · rintro rfl
    exact List.nil_perm.mp h.members_perm
  · rintro rfl
    exact List.map_eq_nil_iff.mp (List.eq_nil_iff_forall_not_mem.mpr fun labels hlabels =>
      List.not_mem_nil ((h.mem_labels_iff labels).mp hlabels))

/-- Counts are the numbers of the members of groups. -/
theorem map_value_reduceGroups_count (instant : Int) :
    (reduceGroups Query.count grouping instant vector).map (·.value) =
      ((groups grouping vector).map (·.2.length)).map ofNat := by
  rw [reduceGroups, List.map_map, List.map_map]
  apply List.map_congr_left
  intro group _
  exact congrArg ofNat (List.length_map _)

end

/-- Counts of few elements in all stand for themselves. -/
theorem rational?_counts {counts : List Nat} (h : counts.sum ≤ 2 ^ 53) :
    (counts.map ofNat).map rational? = counts.map fun count : Nat => some (count : ℚ) := by
  rw [List.map_map]
  apply List.map_congr_left
  intro count hcount
  exact Number.rational?_ofNat ((List.single_le_sum (fun _ _ => Nat.zero_le _) count hcount).trans h)

/-! ### Aggregations -/

/-- The expressions that reduce each group of a vector to a number, with what they reduce the values of a
group by: all aggregations of a vector that can be evaluated but those that pass elements on.  A parameter
may be missing or not be read. -/
inductive Reduces (context : Context) (grouping : Option Grouping) (vector : Vector) :
    Expr → (List Double → Double) → Prop
  | plain {op : AggregateOp} {inner : Expr} {reduce : List Double → Double}
    (h : inner.eval context = .ok (.vector vector)) (hreduce : op.reduction? none = some reduce) :
    Reduces context grouping vector (.aggregate op grouping inner) reduce
  | withParameter {op : AggregateOp} {parameter inner : Expr} {number : Double}
    {reduce : List Double → Double} (hparameter : parameter.eval context = .ok (.scalar number))
    (h : inner.eval context = .ok (.vector vector))
    (hreduce : op.reduction? (some number) = some reduce) :
    Reduces context grouping vector (.aggregateBy op grouping parameter inner) reduce

section

variable {context : Context} {grouping : Option Grouping} {vector : Vector} {inner : Expr}

theorem eval_aggregate (h : inner.eval context = .ok (.vector vector)) (op : AggregateOp) :
    (Expr.aggregate op grouping inner).eval context =
      (evaluated (op.apply grouping context.instant none vector)).map .vector := by
  rw [Expr.eval, h]
  rfl

theorem eval_aggregateBy (h : inner.eval context = .ok (.vector vector)) (op : AggregateOp)
    (parameter : Expr) :
    (Expr.aggregateBy op grouping parameter inner).eval context =
      (parameter.eval context >>= (·.asScalar op.name)) >>= fun number =>
        (evaluated (op.apply grouping context.instant (some number) vector)).map .vector := by
  rw [Expr.eval, h]
  cases parameter.eval context <;> rfl

theorem eval_of_reduces {expr : Expr} {reduce : List Double → Double}
    (h : Reduces context grouping vector expr reduce) :
    expr.eval context = .ok (.vector (reduceGroups reduce grouping context.instant vector)) := by
  cases h with
  | plain hinner hreduce =>
    rw [eval_aggregate hinner, apply_of_reduction hreduce]
    rfl
  | withParameter hparameter hinner hreduce =>
    rw [eval_aggregateBy hinner, hparameter]
    exact congrArg (fun outcome => (evaluated outcome).map Value.vector) (apply_of_reduction hreduce _)

/-- An aggregation gives one element for each group of its vector, with what it reduces the values of the
group to.  So counts add up to the number of elements.  With labels chosen by the names that are taken or by
all others left out it gives the same, and so do the aggregations that pass elements on. -/
theorem aggregations_partition (context : Context) (vector : Vector) :
    (∀ grouping expr reduce, Reduces context grouping vector expr reduce →
      ∃ result, expr.eval context = .ok (.vector result) ∧
        ReducesGroups reduce grouping context.instant vector result ∧ (result = [] ↔ vector = [])) ∧
    (∀ grouping inner, inner.eval context = .ok (.vector vector) →
      ∃ (result : Vector) (counts : List Nat),
        (Expr.aggregate (.reduce .count) grouping inner).eval context = .ok (.vector result) ∧
        result.map (·.value) = counts.map ofNat ∧ counts.sum = vector.length ∧
        (vector.length ≤ 2 ^ 53 →
          result.map (fun element => rational? element.value) =
            counts.map fun count : Nat => some (count : ℚ))) ∧
    ∀ names taken leftOut, Complementary names taken leftOut →
      (∀ element ∈ vector, element.Within names) →
      ∀ inner, inner.eval context = .ok (.vector vector) →
        (∀ op, (Expr.aggregate op (some (.including taken)) inner).eval context =
          (Expr.aggregate op (some (.excluding leftOut)) inner).eval context) ∧
        ∀ op parameter,
          (Expr.aggregateBy op (some (.including taken)) parameter inner).eval context =
            (Expr.aggregateBy op (some (.excluding leftOut)) parameter inner).eval context := by
  refine ⟨?reduces, ?counts, ?same⟩
  case reduces =>
    intro grouping expr reduce hreduces
    have hresult : ReducesGroups reduce grouping context.instant vector
        (reduceGroups reduce grouping context.instant vector) :=
      reducesGroups_reduceGroups reduce context.instant
    exact ⟨_, eval_of_reduces hreduces, hresult, hresult.eq_nil_iff⟩
  case counts =>
    intro grouping inner hinner
    have hcounts : (reduceGroups Query.count grouping context.instant vector).map (·.value) =
        ((groups grouping vector).map fun group => group.2.length).map ofNat :=
      map_value_reduceGroups_count context.instant
    refine ⟨_, _, eval_of_reduces (.plain hinner rfl), hcounts, sum_length_groups, fun hlength => ?_⟩
    rw [← rational?_counts (sum_length_groups.trans_le hlength), ← hcounts, List.map_map]
    rfl
  case same =>
    intro names taken leftOut hnames hvector inner hinner
    have hgroups : groups (some (.including taken)) vector =
        groups (some (.excluding leftOut)) vector :=
      groups_congr fun element helement => groupKey_complementary hnames (hvector element helement)
    constructor
    · intro op
      rw [eval_aggregate hinner, eval_aggregate hinner, apply_congr hgroups]
    · intro op parameter
      simp only [eval_aggregateBy hinner, apply_congr hgroups]

end

/-- The loads of three hosts, two of them with the same job. -/
def hostLoads : Vector :=
  [("a", "api", 1), ("b", "api", 3), ("c", "db", 8)].map fun (host, job, value) =>
    ⟨.ofList [(nameLabel, "load"), ("host", host), ("job", job)], 1000, value⟩

/-- The loads are counted by their jobs, or without their names and hosts. -/
theorem loads_counted_by_job :
    let stored := hostLoads.map fun element => ⟨element.labels, element.value, element.timestamp⟩
    let context : Context := ⟨Store.empty.addAll stored, 600, 1500, 1500, 1500⟩
    let load : Expr := .selector ⟨some "load", [], [], .none⟩
    let counted (grouping : Grouping) :=
      (Expr.aggregate (.reduce .count) (some grouping) load).eval context
    let counts : Vector := [⟨.ofList [("job", "api")], 1500, 2⟩, ⟨.ofList [("job", "db")], 1500, 1⟩]
    load.eval context = .ok (.vector hostLoads) ∧
      Complementary [nameLabel, "host", "job"] ["job"] [nameLabel, "host"] ∧
      (∀ element ∈ hostLoads, element.Within [nameLabel, "host", "job"]) ∧
      counted (.including ["job"]) = .ok (.vector counts) ∧
      counted (.excluding [nameLabel, "host"]) = .ok (.vector counts) ∧
      ReducesGroups Query.count (some (.including ["job"])) 1500 hostLoads counts ∧
      ∃ numbers : List Nat, numbers.sum = hostLoads.length ∧
        counts.map (fun element => rational? element.value) =
          numbers.map fun number : Nat => some (number : ℚ) := by
  intro stored context load counted counts
  have hfound : context.selectInstant ⟨some "load", [], [], .none⟩ = .ok hostLoads := by
    with_unfolding_all rfl
  have hload : load.eval context = .ok (.vector hostLoads) := by
    rw [Expr.eval, hfound]
    rfl
  have hnames : Complementary [nameLabel, "host", "job"] ["job"] [nameLabel, "host"] := by
    refine ⟨by decide, by decide, fun name => ?_⟩
    by_cases hjob : name = "job"
    · rw [hjob]
      decide
    · simp [hjob]
  have hwithin : ∀ element ∈ hostLoads, element.Within [nameLabel, "host", "job"] := by
    change ∀ element ∈ hostLoads, ∀ name ∈ element.labels.keys, name ∈ [nameLabel, "host", "job"]
    decide
  have hreduction : (AggregateOp.reduce .count).reduction? none = some Query.count := rfl
  obtain ⟨hreduces, hcount, hsame⟩ := aggregations_partition context hostLoads
  obtain ⟨result, hresult, hgroups, -⟩ :=
    hreduces (some (.including ["job"])) _ _ (.plain hload hreduction)
  have hcounts : counted (.including ["job"]) = .ok (.vector counts) := by
    change (Expr.aggregate (.reduce .count) (some (.including ["job"])) load).eval context = _
    rw [eval_aggregate hload]
    rfl
  have hunique {result : Vector} (h : counted (.including ["job"]) = .ok (.vector result)) :
      result = counts := by
    have hboth := h.symm.trans hcounts
    cases hboth
    rfl
  obtain ⟨counted, numbers, hcounted, -, hsum, hexact⟩ :=
    hcount (some (.including ["job"])) load hload
  obtain ⟨hplain, -⟩ := hsame _ _ _ hnames hwithin load hload
  exact ⟨hload, hnames, hwithin, hcounts, (hplain (.reduce .count)).symm.trans hcounts,
    hunique hresult ▸ hgroups, numbers, hsum, hunique hcounted ▸ hexact (by decide)⟩

end MetricBench.Query
