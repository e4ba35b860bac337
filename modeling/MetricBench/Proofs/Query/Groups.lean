import MetricBench.Proofs.SortedMap
import MetricBench.Query.Aggregation

/-!
# Groups of a vector

Each element of a vector is put into one group: there is a group for each choice of labels that occurs, in
the order of the labels, and it has the elements with these labels in their order.
-/

namespace MetricBench.Query

open SortedMap (StrictlyIncreasing)

/-- The labels that an element is put into a group by. -/
def InstantSample.group (grouping : Option Grouping) (element : InstantSample) : Labels :=
  groupKey grouping element.labels

/-- The elements of a group, in the order of the vector. -/
def membersOf (grouping : Option Grouping) (vector : Vector) (labels : Labels) : Vector :=
  vector.filter fun element => element.group grouping = labels

section

variable {grouping other : Option Grouping} {vector : Vector}

/-- The groups are those of the labels that occur, each with all its members. -/
theorem mem_groups_iff {group : Labels × Vector} :
    group ∈ groups grouping vector ↔
      group.1 ∈ vector.map (·.group grouping) ∧ group.2 = membersOf grouping vector group.1 := by
  obtain ⟨labels, members⟩ := group
  rw [groups, SortedMap.mem_entries_iff, SortedMap.find?_groupBy]
  change (if membersOf grouping vector labels = [] then none
    else some (membersOf grouping vector labels)) = some members ↔ _
  have hnone : membersOf grouping vector labels = [] ↔ labels ∉ vector.map (·.group grouping) := by
    rw [membersOf, List.filter_eq_nil_iff, List.mem_map]
    simp only [decide_eq_true_eq, not_exists, not_and]
  split_ifs with hempty
  · exact iff_of_false nofun fun h => hnone.mp hempty h.1
  · rw [Option.some.injEq, eq_comm, iff_and_self]
    exact fun _ => not_not.mp (mt hnone.mpr hempty)

/-- There is one group for each choice of labels, in the order of the labels. -/
theorem groups_eq :
    groups grouping vector = (SortedMap.distinct (vector.map (·.group grouping))).map fun labels =>
      (labels, membersOf grouping vector labels) := by
  have hlabels : (groups grouping vector).map (·.1) =
      SortedMap.distinct (vector.map (·.group grouping)) := by
    have hincreasing : StrictlyIncreasing ((groups grouping vector).map (·.1)) :=
      SortedMap.strictlyIncreasing_keys _
    apply SortedMap.eq_of_mem_iff hincreasing (SortedMap.strictlyIncreasing_distinct _)
    intro labels
    rw [List.mem_map, SortedMap.mem_distinct_iff]
    constructor
    · rintro ⟨group, hgroup, rfl⟩
      exact (mem_groups_iff.mp hgroup).1
    · intro hlabels
      exact ⟨(labels, membersOf grouping vector labels), mem_groups_iff.mpr ⟨hlabels, rfl⟩, rfl⟩
  rw [← hlabels, List.map_map]
  refine (List.map_id' _).symm.trans (List.map_congr_left fun group hgroup => ?_)
  exact Prod.ext rfl (mem_groups_iff.mp hgroup).2

theorem flatMap_groups_perm : ((groups grouping vector).flatMap (·.2)).Perm vector :=
  SortedMap.flatMap_groupBy_perm (·.group grouping) vector

theorem sum_length_groups : ((groups grouping vector).map (·.2.length)).sum = vector.length :=
  calc ((groups grouping vector).map (·.2.length)).sum
      = ((groups grouping vector).flatMap (·.2)).length := List.length_flatMap.symm
    _ = vector.length := flatMap_groups_perm.length_eq

/-- Groups by keys that agree on all elements are the same. -/
theorem groups_congr (h : ∀ element ∈ vector, element.group grouping = element.group other) :
    groups grouping vector = groups other vector := by
  have hgroups : SortedMap.groupBy (·.group grouping) vector =
      SortedMap.groupBy (·.group other) vector := by
    apply List.foldr_ext
    intro element helement _
    simp only [h element helement]
  exact congrArg SortedMap.entries hgroups

end

end MetricBench.Query
