import MetricBench.Proofs.Query.OneToOne

/-!
# Set operators

A set operator asks of the elements on one side whether their keys occur on the other.  So `and` and
`unless` split the left vector in two, `or` adds to it what is new on the right, and all that counts of the
other side is its set of keys.  The laws of sets follow, though vectors have an order and may repeat keys.
-/

namespace MetricBench.Query

section

variable (matching : Option Grouping) (lefts rights others : Vector)

theorem any_key_eq (element : InstantSample) :
    (rights.any fun other => matchKey matching other.labels = matchKey matching element.labels) =
      decide (element.key matching ∈ rights.map (·.key matching)) := by
  rw [Bool.eq_iff_iff, List.any_eq_true, decide_eq_true_eq, List.mem_map]
  simp only [decide_eq_true_eq]
  rfl

theorem setOperation_and :
    setOperation .and matching lefts rights = withPartner matching lefts rights :=
  List.filter_congr fun element _ => any_key_eq matching rights element

theorem setOperation_unless :
    setOperation .unless matching lefts rights = withoutPartner matching lefts rights := by
  apply List.filter_congr
  intro element _
  exact (congrArg not (any_key_eq matching rights element)).trans decide_not.symm

theorem setOperation_or :
    setOperation .or matching lefts rights = lefts ++ withoutPartner matching rights lefts :=
  congrArg (lefts ++ ·) (setOperation_unless matching rights lefts)

/-! ### Keys of the parts -/

theorem withPartner_append_withoutPartner_perm :
    (withPartner matching lefts rights ++ withoutPartner matching lefts rights).Perm lefts := by
  simp only [withPartner, withoutPartner, decide_not]
  exact List.filter_append_perm _ lefts

theorem mem_withPartner_iff {element : InstantSample} :
    element ∈ withPartner matching lefts rights ↔
      element ∈ lefts ∧ element.key matching ∈ rights.map (·.key matching) := by
  rw [withPartner, List.mem_filter, decide_eq_true_eq]

theorem mem_withoutPartner_iff {element : InstantSample} :
    element ∈ withoutPartner matching lefts rights ↔
      element ∈ lefts ∧ element.key matching ∉ rights.map (·.key matching) := by
  rw [withoutPartner, List.mem_filter, decide_eq_true_eq]

/-- The keys of a vector and of what is new in another are the keys of both. -/
theorem mem_keys_append_withoutPartner {key : Labels} :
    key ∈ (lefts ++ withoutPartner matching rights lefts).map (·.key matching) ↔
      key ∈ lefts.map (·.key matching) ∨ key ∈ rights.map (·.key matching) := by
  rw [List.map_append, List.mem_append]
  constructor
  · rintro (hleft | hnew)
    · exact .inl hleft
    · obtain ⟨element, helement, rfl⟩ := List.mem_map.mp hnew
      exact .inr (List.mem_map_of_mem (mem_withoutPartner_iff _ _ _ |>.mp helement).1)
  · rintro (hleft | hright)
    · exact .inl hleft
    · by_cases hleft : key ∈ lefts.map (·.key matching)
      · exact .inl hleft
      · obtain ⟨element, helement, rfl⟩ := List.mem_map.mp hright
        exact .inr (List.mem_map_of_mem (mem_withoutPartner_iff _ _ _ |>.mpr ⟨helement, hleft⟩))

variable {matching lefts rights others}

/-- Vectors with the same keys are alike as partners. -/
theorem withPartner_congr
    (h : ∀ key, key ∈ others.map (·.key matching) ↔ key ∈ rights.map (·.key matching)) :
    withPartner matching lefts others = withPartner matching lefts rights := by
  apply List.filter_congr
  intro element _
  rw [decide_eq_decide]
  exact h (element.key matching)

theorem withoutPartner_congr
    (h : ∀ key, key ∈ others.map (·.key matching) ↔ key ∈ rights.map (·.key matching)) :
    withoutPartner matching lefts others = withoutPartner matching lefts rights := by
  apply List.filter_congr
  intro element _
  rw [decide_eq_decide]
  exact not_congr (h (element.key matching))

variable (matching lefts rights others)

theorem withPartner_withPartner :
    withPartner matching (withPartner matching lefts rights) rights =
      withPartner matching lefts rights := by
  simp only [withPartner, List.filter_filter, Bool.and_self]

theorem withoutPartner_withoutPartner :
    withoutPartner matching (withoutPartner matching lefts rights) rights =
      withoutPartner matching lefts rights := by
  simp only [withoutPartner, List.filter_filter, Bool.and_self]

theorem withoutPartner_withPartner :
    withoutPartner matching (withPartner matching lefts rights) rights = [] := by
  apply List.filter_eq_nil_iff.mpr
  intro element helement
  simpa using (mem_withPartner_iff _ _ _ |>.mp helement).2

/-- What is new against two vectors is new against the one and then against the other. -/
theorem withoutPartner_append_withoutPartner :
    withoutPartner matching others (lefts ++ withoutPartner matching rights lefts) =
      withoutPartner matching (withoutPartner matching others rights) lefts := by
  have hkeys (element : InstantSample) :
      element.key matching ∉ (lefts ++ withoutPartner matching rights lefts).map (·.key matching) ↔
        element.key matching ∉ lefts.map (·.key matching) ∧
          element.key matching ∉ rights.map (·.key matching) := by
    rw [mem_keys_append_withoutPartner, not_or]
  calc withoutPartner matching others (lefts ++ withoutPartner matching rights lefts)
      = others.filter (fun element => decide (element.key matching ∉ lefts.map (·.key matching)) &&
          decide (element.key matching ∉ rights.map (·.key matching))) := by
        apply List.filter_congr
        intro element _
        rw [← Bool.decide_and, decide_eq_decide]
        exact hkeys element
    _ = withoutPartner matching (withoutPartner matching others rights) lefts :=
        List.filter_filter.symm

end

/-- The laws of set operators, for vectors with any order and any repetitions.  `and` and `unless` split the
left vector by whether its keys occur on the right, and `or` is the left vector followed by what is new on
the right.  A vector on the right counts by its set of keys only: `and` and `unless` are idempotent in it and
exclude one another, and `or` is associative. -/
theorem setOperation_laws (matching : Option Grouping) (lefts rights others : Vector) :
    let both (lefts rights : Vector) := setOperation .and matching lefts rights
    let except (lefts rights : Vector) := setOperation .unless matching lefts rights
    let either (lefts rights : Vector) := setOperation .or matching lefts rights
    let keys (vector : Vector) : Finset Labels := (vector.map (·.key matching)).toFinset
    ((both lefts rights).Sublist lefts ∧ (except lefts rights).Sublist lefts ∧
        (both lefts rights ++ except lefts rights).Perm lefts ∧
        (both lefts rights).Disjoint (except lefts rights)) ∧
      (either lefts rights = lefts ++ except rights lefts ∧
        (either lefts rights).length = lefts.length + (except rights lefts).length) ∧
      (∀ element ∈ lefts, element ∈ both lefts rights ↔
        ∃ other ∈ rights, other.key matching = element.key matching) ∧
      (keys others = keys rights →
        both lefts others = both lefts rights ∧ except lefts others = except lefts rights) ∧
      (both (both lefts rights) rights = both lefts rights ∧
        except (except lefts rights) rights = except lefts rights ∧
        except (both lefts rights) rights = []) ∧
      either (either lefts rights) others = either lefts (either rights others) := by
  simp only [setOperation_and, setOperation_unless, setOperation_or]
  refine ⟨⟨List.filter_sublist, List.filter_sublist, ?partition, ?disjoint⟩, ⟨trivial, List.length_append⟩,
    fun element helement => ?occurs, fun hkeys => ?keys, ⟨?andTwice, ?unlessTwice, ?neither⟩, ?assoc⟩
  case partition => exact withPartner_append_withoutPartner_perm matching lefts rights
  case disjoint =>
    intro element hboth hexcept
    exact (mem_withoutPartner_iff _ _ _ |>.mp hexcept).2 (mem_withPartner_iff _ _ _ |>.mp hboth).2
  case occurs =>
    rw [mem_withPartner_iff, List.mem_map]
    exact and_iff_right helement
  case keys =>
    have hsame : ∀ key, key ∈ others.map (·.key matching) ↔ key ∈ rights.map (·.key matching) := by
      intro key
      rw [← List.mem_toFinset, hkeys, List.mem_toFinset]
    exact ⟨withPartner_congr hsame, withoutPartner_congr hsame⟩
  case andTwice => exact withPartner_withPartner matching lefts rights
  case unlessTwice => exact withoutPartner_withoutPartner matching lefts rights
  case neither => exact withoutPartner_withPartner matching lefts rights
  case assoc =>
    have hright : withoutPartner matching (rights ++ withoutPartner matching others rights) lefts =
        withoutPartner matching rights lefts ++
          withoutPartner matching (withoutPartner matching others rights) lefts :=
      List.filter_append _ _
    rw [hright, withoutPartner_append_withoutPartner, List.append_assoc]

/-- The errors of the jobs that have a limit and those of the job that has none, however often the limits
are given. -/
theorem errors_split_by_limits :
    let both (lefts rights : Vector) := setOperation .and none lefts rights
    let except (lefts rights : Vector) := setOperation .unless none lefts rights
    let keys (vector : Vector) : Finset Labels := (vector.map (·.key none)).toFinset
    let repeated := jobLimits.reverse ++ jobLimits
    keys repeated = keys jobLimits ∧
      both jobErrors repeated = jobErrors.take 2 ∧ except jobErrors repeated = jobErrors.drop 2 ∧
      ∀ element ∈ jobErrors, element ∈ jobErrors.take 2 ↔
        ∃ other ∈ jobLimits, other.key none = element.key none := by
  intro both except keys repeated
  have hkeys : keys repeated = keys jobLimits := by decide
  have hboth : both jobErrors jobLimits = jobErrors.take 2 := by rfl
  have hexcept : except jobErrors jobLimits = jobErrors.drop 2 := by rfl
  obtain ⟨-, -, hoccurs, hsame, -, -⟩ := setOperation_laws none jobErrors jobLimits repeated
  obtain ⟨hsameBoth, hsameExcept⟩ := hsame hkeys
  refine ⟨hkeys, hsameBoth.trans hboth, hsameExcept.trans hexcept, fun element helement => ?_⟩
  rw [← hboth]
  exact hoccurs element helement

end MetricBench.Query
