import MetricBench.Proofs.Query.GroupedMatching

/-!
# One-to-one matching

An operator between two vectors pairs elements that agree in the labels they are matched by, their key.
It fails when a key is repeated on the right, or on the left among elements that have a partner.  Then
each element on the left has one partner at most, so the order of the right vector is of no importance,
and that of the left one is the order of the answer.
-/

namespace MetricBench.Query

/-! ### Elements by their keys -/

/-- The labels that an element is matched by. -/
def InstantSample.key (matching : Option Grouping) (element : InstantSample) : Labels :=
  matchKey matching element.labels

/-- The elements whose key occurs in another vector. -/
def withPartner (matching : Option Grouping) (lefts rights : Vector) : Vector :=
  lefts.filter fun element => element.key matching ∈ rights.map (·.key matching)

/-- The elements whose key does not occur in another vector. -/
def withoutPartner (matching : Option Grouping) (lefts rights : Vector) : Vector :=
  lefts.filter fun element => element.key matching ∉ rights.map (·.key matching)

/-- The first element of a vector that has the key of an element. -/
def partner? (matching : Option Grouping) (rights : Vector) (element : InstantSample) :
    Option InstantSample :=
  rights.find? fun other => other.key matching = element.key matching

section

variable {matching : Option Grouping} {lefts rights : Vector} {element : InstantSample}

theorem isSome_partner? :
    (partner? matching rights element).isSome =
      decide (element.key matching ∈ rights.map (·.key matching)) := by
  rw [Bool.eq_iff_iff, partner?, List.find?_isSome, decide_eq_true_eq, List.mem_map]
  simp only [decide_eq_true_eq]

theorem mem_of_partner? {other : InstantSample} (h : partner? matching rights element = some other) :
    other ∈ rights ∧ other.key matching = element.key matching := by
  have hkey := List.find?_some h
  exact ⟨List.mem_of_find?_eq_some h, of_decide_eq_true hkey⟩

/-- Where keys are not repeated a partner is known by its key. -/
theorem partner?_eq_some_iff (hnodup : (rights.map (·.key matching)).Nodup)
    {other : InstantSample} :
    partner? matching rights element = some other ↔
      other ∈ rights ∧ other.key matching = element.key matching := by
  refine ⟨mem_of_partner?, ?_⟩
  rintro ⟨hother, hkey⟩
  have hsome : (partner? matching rights element).isSome = true := by
    rw [isSome_partner?, decide_eq_true_eq, ← hkey]
    exact List.mem_map_of_mem hother
  obtain ⟨first, hfirst⟩ := Option.isSome_iff_exists.mp hsome
  obtain ⟨hmem, hsame⟩ := mem_of_partner? hfirst
  rw [hfirst, List.inj_on_of_nodup_map hnodup hmem hother (hsame.trans hkey.symm)]

theorem partner?_perm {others : Vector} (hperm : rights.Perm others)
    (hnodup : (rights.map (·.key matching)).Nodup) :
    partner? matching others = partner? matching rights := by
  funext element
  refine Option.ext fun other => ?_
  rw [partner?_eq_some_iff hnodup, partner?_eq_some_iff ((hperm.map _).nodup_iff.mp hnodup),
    hperm.mem_iff]

theorem withPartner_perm_right {others : Vector} (hperm : rights.Perm others) :
    withPartner matching lefts others = withPartner matching lefts rights := by
  refine List.filter_congr fun element _ => ?_
  rw [decide_eq_decide]
  exact (hperm.map _).mem_iff.symm

/-! ### Matched pairs -/

theorem map_fst_matched : (matched matching lefts rights).map (·.1) =
    withPartner matching lefts rights := by
  have hpartner : ∀ element ∈ lefts,
      ((partner? matching rights element).map fun other => (element, other)).map (·.1) =
        Option.guard (fun one => decide (one.key matching ∈ rights.map (·.key matching)))
          element := by
    intro element _
    rw [Option.guard, ← isSome_partner?]
    cases partner? matching rights element <;> rfl
  rw [matched, List.map_filterMap, withPartner, ← List.filterMap_eq_filter]
  exact List.filterMap_congr hpartner

theorem keys_matched :
    (matched matching lefts rights).map (fun pair => matchKey matching pair.1.labels) =
      (withPartner matching lefts rights).map (·.key matching) := by
  rw [← map_fst_matched, List.map_map]
  rfl

end

/-! ### Answers -/

/-- What an operator makes of elements that each have a partner, in their order.  Numbers are computed at
the instant, and the elements lose the metric name.  A comparison that filters passes on the elements for
which it holds. -/
def BinaryOp.Combines (op : BinaryOp) (modifier : BinaryModifier) (instant : Int)
    (partner : InstantSample → InstantSample) (elements output : Vector) : Prop :=
  match op with
  | .arithmetic op =>
    output = elements.map fun element =>
      ⟨resultLabels false modifier.matching element.labels, instant,
        op.apply element.value (partner element).value⟩
  | .comparison op =>
    let holds (element : InstantSample) := op.holds element.value (partner element).value
    if modifier.returnsNumber then
      output = elements.map fun element =>
        ⟨resultLabels false modifier.matching element.labels, instant, truthNumber (holds element)⟩
    else
      output = (elements.filter holds).map fun element =>
        { element with labels := resultLabels true modifier.matching element.labels }
  | .set _ | .unknown _ => False

section

variable {op : BinaryOp} (hop : op.takesNumbers = true)
variable {modifier : BinaryModifier} {instant : Int} {lefts rights : Vector}

/-- What an operator makes of an element when it has a partner in the right vector. -/
def combined? (op : BinaryOp) (modifier : BinaryModifier) (instant : Int) (rights : Vector)
    (element : InstantSample) : Option InstantSample :=
  (partner? modifier.matching rights element).bind fun other =>
    combine? op modifier instant (element, other)

theorem combined?_perm {others : Vector} (hperm : rights.Perm others)
    (hright : (rights.map (·.key modifier.matching)).Nodup) :
    combined? op modifier instant others = combined? op modifier instant rights := by
  funext element
  rw [combined?, combined?, partner?_perm hperm hright]

include hop

theorem vectorVector_eq_ok_iff {output : Vector} :
    vectorVector op modifier instant lefts rights = .ok output ↔
      (rights.map (·.key modifier.matching)).Nodup ∧
        ((withPartner modifier.matching lefts rights).map (·.key modifier.matching)).Nodup ∧
        output = lefts.filterMap (combined? op modifier instant rights) := by
  have hvector : vectorVector op modifier instant lefts rights =
      matchOneToOne modifier.matching lefts rights >>= fun pairs =>
        .ok (pairs.filterMap (combine? op modifier instant)) := by
    cases op with
    | arithmetic op => rfl
    | comparison op => rfl
    | set _ | unknown _ => cases hop
  have hcombined : (matched modifier.matching lefts rights).filterMap
      (combine? op modifier instant) = lefts.filterMap (combined? op modifier instant rights) := by
    rw [matched, List.filterMap_filterMap]
    refine List.filterMap_congr fun element _ => ?_
    rw [Option.bind_map]
    rfl
  rw [hvector, bind_eq_ok_iff]
  constructor
  · rintro ⟨pairs, hpairs, houtput⟩
    obtain ⟨hright, hleft, rfl⟩ := matchOneToOne_eq_ok_iff.mp hpairs
    cases houtput
    exact ⟨hright, keys_matched ▸ hleft, hcombined⟩
  · rintro ⟨hright, hleft, rfl⟩
    rw [← keys_matched] at hleft
    exact ⟨_, matchOneToOne_eq_ok_iff.mpr ⟨hright, hleft, rfl⟩, by rw [hcombined]⟩

theorem vectorVector_fails_iff :
    (∃ failure, vectorVector op modifier instant lefts rights = .error failure) ↔
      ¬ (rights.map (·.key modifier.matching)).Nodup ∨
        ¬ ((withPartner modifier.matching lefts rights).map (·.key modifier.matching)).Nodup := by
  rw [← not_and_or]
  constructor
  · rintro ⟨failure, hfailure⟩ ⟨hright, hleft⟩
    have hok : vectorVector op modifier instant lefts rights = .ok _ :=
      (vectorVector_eq_ok_iff hop).mpr ⟨hright, hleft, rfl⟩
    cases hok.symm.trans hfailure
  · intro hrepeated
    cases hresult : vectorVector op modifier instant lefts rights with
    | error failure => exact ⟨failure, rfl⟩
    | ok output =>
      obtain ⟨hright, hleft, -⟩ := (vectorVector_eq_ok_iff hop).mp hresult
      exact absurd ⟨hright, hleft⟩ hrepeated

theorem combines_combined {partner : InstantSample → InstantSample}
    (hpartner : ∀ element ∈ withPartner modifier.matching lefts rights,
      partner? modifier.matching rights element = some (partner element)) :
    op.Combines modifier instant partner (withPartner modifier.matching lefts rights)
      (lefts.filterMap (combined? op modifier instant rights)) := by
  have hpaired : lefts.filterMap (combined? op modifier instant rights) =
      (withPartner modifier.matching lefts rights).filterMap fun element =>
        combine? op modifier instant (element, partner element) := by
    rw [withPartner, List.filterMap_filter]
    -- an element without a partner gives nothing on either side
    refine List.filterMap_congr fun element helement => ?_
    rw [combined?, ← isSome_partner?]
    cases hother : partner? modifier.matching rights element with
    | none => rfl
    | some other =>
      have hkey : (partner? modifier.matching rights element).isSome = true := by rw [hother]; rfl
      rw [isSome_partner?] at hkey
      have hsame := hpartner element (List.mem_filter.mpr ⟨helement, hkey⟩)
      rw [hother, Option.some.injEq] at hsame
      rw [hsame]
      rfl
  rw [hpaired]
  cases op with
  | arithmetic op => exact congrFun List.filterMap_eq_map _
  | comparison op =>
    simp only [BinaryOp.Combines, combine?]
    split_ifs with hnumber
    · exact congrFun List.filterMap_eq_map _
    · rw [← List.filterMap_eq_map, List.filterMap_filter]
      rfl
  | set _ | unknown _ => cases hop

/-- The partners of a successful match: the elements on the right with the same keys. -/
theorem exists_partner (hright : (rights.map (·.key modifier.matching)).Nodup) :
    ∃ partner : InstantSample → InstantSample,
      (∀ element ∈ withPartner modifier.matching lefts rights, ∀ other,
        other = partner element ↔
          other ∈ rights ∧ other.key modifier.matching = element.key modifier.matching) ∧
      op.Combines modifier instant partner (withPartner modifier.matching lefts rights)
        (lefts.filterMap (combined? op modifier instant rights)) := by
  -- an element without a partner may stand for it, as it is not asked for its partner
  let partner (element : InstantSample) : InstantSample :=
    (partner? modifier.matching rights element).getD element
  have hpartner : ∀ element ∈ withPartner modifier.matching lefts rights,
      partner? modifier.matching rights element = some (partner element) := by
    intro element helement
    have hkey := (List.mem_filter.mp helement).2
    rw [← isSome_partner?] at hkey
    obtain ⟨other, hother⟩ := Option.isSome_iff_exists.mp hkey
    simp only [partner, hother, Option.getD_some]
  refine ⟨partner, fun element helement other => ?_, combines_combined hop hpartner⟩
  rw [← partner?_eq_some_iff hright, hpartner element helement, Option.some.injEq, eq_comm]

end

/-- Operators that take numbers match one to one.  They fail exactly when two elements on the right
agree in their key, or two on the left whose key occurs on the right.  Otherwise each element on the left
whose key occurs on the right has one partner, the element with this key, and the answer holds what the
operator makes of these elements and their partners, in the order of the left vector.  Another order of
the right vector changes nothing, and another order of the left one changes the order of the answer in the
same way. -/
theorem vectorVector_one_to_one {op : BinaryOp} (hop : op.takesNumbers = true)
    (modifier : BinaryModifier) (instant : Int) (lefts rights : Vector) :
    let key (element : InstantSample) := element.key modifier.matching
    let paired := withPartner modifier.matching lefts rights
    let answer (lefts rights : Vector) := vectorVector op modifier instant lefts rights
    ((∃ failure, answer lefts rights = .error failure) ↔
        ¬ (rights.map key).Nodup ∨ ¬ (paired.map key).Nodup) ∧
      (∀ output, answer lefts rights = .ok output → ∃ partner : InstantSample → InstantSample,
        (∀ element ∈ paired, ∀ other,
          other = partner element ↔ other ∈ rights ∧ key other = key element) ∧
        op.Combines modifier instant partner paired output) ∧
      (∀ others, rights.Perm others → ∀ output,
        answer lefts others = .ok output ↔ answer lefts rights = .ok output) ∧
      ∃ make : InstantSample → Option InstantSample, ∀ others, lefts.Perm others →
        ((∃ failure, answer others rights = .error failure) ↔
          ∃ failure, answer lefts rights = .error failure) ∧
        ∀ output, answer others rights = .ok output →
          output = others.filterMap make ∧ (lefts.filterMap make).Perm output := by
  intro key paired answer
  refine ⟨vectorVector_fails_iff hop, fun output houtput => ?partners, fun others hperm output => ?rights,
    combined? op modifier instant rights, fun others hperm => ⟨?fails, fun output houtput => ?lefts⟩⟩
  case partners =>
    obtain ⟨hright, -, rfl⟩ := (vectorVector_eq_ok_iff hop).mp houtput
    exact exists_partner hop hright
  case rights =>
    rw [vectorVector_eq_ok_iff hop, vectorVector_eq_ok_iff hop, (hperm.map key).nodup_iff,
      withPartner_perm_right hperm]
    refine and_congr_right fun hright => ?_
    rw [combined?_perm hperm ((hperm.map key).nodup_iff.mpr hright)]
  case fails =>
    have hpaired : (withPartner modifier.matching lefts rights).Perm
        (withPartner modifier.matching others rights) := hperm.filter _
    rw [vectorVector_fails_iff hop, vectorVector_fails_iff hop, (hpaired.map _).nodup_iff]
  case lefts =>
    obtain ⟨-, -, rfl⟩ := (vectorVector_eq_ok_iff hop).mp houtput
    exact ⟨rfl, hperm.filterMap _⟩

/-- The errors of three jobs. -/
def jobErrors : Vector :=
  [("a", 6), ("b", 2), ("c", 1)].map fun (job, value) =>
    ⟨.ofList [(nameLabel, "errors"), ("job", job)], 1000, value⟩

/-- The limits of two of them, in another order. -/
def jobLimits : Vector :=
  [("b", 4), ("a", 3)].map fun (job, value) =>
    ⟨.ofList [(nameLabel, "limits"), ("job", job)], 1000, value⟩

/-- The errors that have a limit are divided by it, in the order of the errors. -/
theorem errors_over_limits :
    let quotient (lefts rights : Vector) :=
      vectorVector (.arithmetic .divide) ⟨false, none, none⟩ 1500 lefts rights
    let output : Vector :=
      [⟨.ofList [("job", "a")], 1500, 6 / 3⟩, ⟨.ofList [("job", "b")], 1500, 2 / 4⟩]
    BinaryOp.takesNumbers (.arithmetic .divide) = true ∧
      quotient jobErrors jobLimits = .ok output ∧
      quotient jobErrors jobLimits.reverse = .ok output ∧
      ∃ failure, quotient jobErrors (jobLimits ++ jobLimits) = .error failure := by
  intro quotient output
  have hop : BinaryOp.takesNumbers (.arithmetic .divide) = true := rfl
  have houtput : quotient jobErrors jobLimits = .ok output := by rfl
  obtain ⟨-, -, hrights, -⟩ :=
    vectorVector_one_to_one hop ⟨false, none, none⟩ 1500 jobErrors jobLimits
  obtain ⟨hfails, -⟩ :=
    vectorVector_one_to_one hop ⟨false, none, none⟩ 1500 jobErrors (jobLimits ++ jobLimits)
  refine ⟨hop, houtput, (hrights _ jobLimits.reverse_perm.symm output).mpr houtput,
    hfails.mpr (.inl ?_)⟩
  decide

end MetricBench.Query
