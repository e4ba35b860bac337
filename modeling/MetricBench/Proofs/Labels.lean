import MetricBench.Labels
import MetricBench.Proofs.SortedMap

/-!
# Names of labels

Whether all names of a label set are of a kind is kept when labels are left out, and when labels with
names of the kind are added.  Labels that are left out by their names can be left out in any order,
and what is left is included in the label set.
-/

namespace MetricBench

/-- Whether all names of a label set are of a kind. -/
def Labels.EachName (kind : String → Prop) (labels : Labels) : Prop :=
  ∀ name ∈ labels.keys, kind name

namespace Labels

variable {kind : String → Prop} {labels : Labels}

theorem eachName_empty : EachName kind .empty := fun _ hname => nomatch hname

theorem EachName.filter (h : labels.EachName kind) (keep : String → String → Bool) :
    EachName kind (SortedMap.filter labels keep) := by
  intro name hname
  obtain ⟨entry, hentry, rfl⟩ := List.mem_map.mp hname
  exact h entry.1 (List.mem_map_of_mem (List.mem_filter.mp hentry).1)

theorem EachName.withoutName (h : labels.EachName kind) : labels.withoutName.EachName kind :=
  h.filter _

theorem EachName.restrict (h : labels.EachName kind) (keep : String → Bool) :
    (labels.restrict keep).EachName kind :=
  h.filter _

theorem EachName.insert (h : labels.EachName kind) {name : String} (hname : kind name)
    (value : String) : EachName kind (SortedMap.insert labels name value) := by
  intro other hother
  rcases SortedMap.mem_keys_insert.mp hother with rfl | hmem
  · exact hname
  · exact h other hmem

theorem EachName.foldl_insert (h : labels.EachName kind) {bindings : List (String × String)}
    (hbindings : ∀ binding ∈ bindings, kind binding.1) :
    EachName kind (bindings.foldl (fun map binding => map.insert binding.1 binding.2) labels) := by
  intro name hname
  rcases (SortedMap.mem_keys_foldl_insert bindings labels).mp hname with hnew | hold
  · obtain ⟨binding, hbinding, rfl⟩ := List.mem_map.mp hnew
    exact hbindings binding hbinding
  · exact h name hold

theorem eachName_ofList {bindings : List (String × String)}
    (h : ∀ binding ∈ bindings, kind binding.1) : EachName kind (.ofList bindings) :=
  eachName_empty.foldl_insert h

/-! ### Labels of a label set -/

/-- Whether a label set has all labels of another one, with the same values. -/
def Includes (labels fewer : Labels) : Prop :=
  ∀ name value, fewer.find? name = some value → labels.find? name = some value

theorem includes_refl (labels : Labels) : labels.Includes labels := fun _ _ h => h

theorem Includes.trans {fewer fewest : Labels} (h : labels.Includes fewer)
    (hfewest : fewer.Includes fewest) : labels.Includes fewest :=
  fun name value hvalue => h name value (hfewest name value hvalue)

theorem includes_empty (labels : Labels) : labels.Includes .empty := fun _ _ h => nomatch h

theorem includes_filter (labels : Labels) (keep : String → String → Bool) :
    labels.Includes (SortedMap.filter labels keep) := by
  intro name value hvalue
  rw [SortedMap.find?_filter, Option.filter_eq_some_iff] at hvalue
  exact hvalue.1

theorem EachName.of_includes {fewer : Labels} (h : labels.EachName kind)
    (hfewer : labels.Includes fewer) : fewer.EachName kind := by
  intro name hname
  obtain ⟨value, hvalue⟩ := SortedMap.mem_keys_iff.mp hname
  exact h name (SortedMap.mem_keys_iff.mpr ⟨value, hfewer name value hvalue⟩)

/-! ### Labels that are left out -/

theorem withoutName_withoutName (labels : Labels) :
    labels.withoutName.withoutName = labels.withoutName := by
  apply SortedMap.ext
  simp [withoutName, SortedMap.erase, SortedMap.filter]

theorem withoutName_eq_self {labels : Labels} (h : labels.metricName? = none) :
    labels.withoutName = labels := by
  refine SortedMap.ext_find? fun name => ?_
  by_cases hname : name = nameLabel
  · subst hname
    exact (SortedMap.find?_erase_self labels nameLabel).trans h.symm
  · exact SortedMap.find?_erase_of_ne labels hname

theorem withoutName_restrict (labels : Labels) (keep : String → Bool) :
    (labels.restrict keep).withoutName = labels.withoutName.restrict keep :=
  SortedMap.ext (List.filter_comm _ _ labels.entries)

theorem metricName?_restrict {keep : String → Bool} (h : keep nameLabel = false) (labels : Labels) :
    (labels.restrict keep).metricName? = none := by
  rw [metricName?, restrict, SortedMap.find?_filter, h]
  cases labels.find? nameLabel <;> rfl

/-- Which names are kept is asked for the names of the label set only. -/
theorem restrict_congr {labels : Labels} {keep other : String → Bool}
    (h : ∀ name ∈ labels.keys, keep name = other name) :
    labels.restrict keep = labels.restrict other := by
  apply SortedMap.ext
  apply List.filter_congr
  intro entry hentry
  exact h entry.1 (List.mem_map_of_mem hentry)

/-- Nothing is left out when all names are to be kept, and only then. -/
theorem restrict_eq_self_iff {labels : Labels} {keep : String → Bool} :
    labels.restrict keep = labels ↔ ∀ name ∈ labels.keys, keep name = true := by
  rw [SortedMap.keys, List.forall_mem_map, ← List.filter_eq_self]
  constructor
  · exact congrArg SortedMap.entries
  · exact fun h => SortedMap.ext h

end Labels

end MetricBench
