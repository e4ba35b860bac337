import Mathlib
import MetricBench.SortedMap

/-!
# Maps through their lookups

A sorted map is determined by its lookups, and a strictly increasing list by its members.  From
these two facts follow the equalities of maps and of listings that the other modules need.
-/

namespace MetricBench.SortedMap

open Std

variable {κ α β : Type} [Ord κ]

/-- The order in which the keys of a map stand. -/
def StrictlyIncreasing (keys : List κ) : Prop :=
  keys.Pairwise fun left right => compare left right = .lt

theorem strictlyIncreasing_keys (map : SortedMap κ α) : StrictlyIncreasing map.keys :=
  List.pairwise_map.mpr map.sorted

variable [TransOrd κ] [LawfulEqOrd κ]

/-! ### Members -/

omit [TransOrd κ] in
theorem mem_iff_lookup? {key : κ} {value : α} {entries : List (κ × α)}
    (h : entries.Pairwise (fun left right => compare left.1 right.1 = .lt)) :
    (key, value) ∈ entries ↔ lookup? key entries = some value := by
  induction entries with
  | nil => simp [lookup?]
  | cons head rest ih =>
    obtain ⟨other, first⟩ := head
    obtain ⟨hhead, hrest⟩ := List.pairwise_cons.mp h
    by_cases heq : key = other
    · subst heq
      have hnot : (key, value) ∉ rest := by
        intro hmem
        have hlt := hhead _ hmem
        simp at hlt
      simp [lookup?, hnot, eq_comm]
    · simp [lookup?, heq, ih hrest]

omit [TransOrd κ] in
/-- The entries of a map are its bindings. -/
theorem mem_entries_iff {map : SortedMap κ α} {key : κ} {value : α} :
    (key, value) ∈ map.entries ↔ map.find? key = some value :=
  mem_iff_lookup? map.sorted

omit [TransOrd κ] in
theorem mem_keys_iff {map : SortedMap κ α} {key : κ} :
    key ∈ map.keys ↔ ∃ value, map.find? key = some value := by
  simp only [keys, List.mem_map, Prod.exists, exists_and_right, exists_eq_right, mem_entries_iff]

omit [TransOrd κ] in
theorem mem_values_iff {map : SortedMap κ α} {value : α} :
    value ∈ map.values ↔ ∃ key, map.find? key = some value := by
  simp only [values, List.mem_map, Prod.exists, exists_eq_right, mem_entries_iff]

omit [TransOrd κ] [LawfulEqOrd κ] in
theorem contains_iff {map : SortedMap κ α} {key : κ} :
    map.contains key = true ↔ ∃ value, map.find? key = some value := by
  rw [contains, Option.isSome_iff_exists]

omit [TransOrd κ] in
theorem isEmpty_iff {map : SortedMap κ α} :
    map.isEmpty = true ↔ ∀ key, map.find? key = none := by
  rw [isEmpty, List.isEmpty_iff]
  constructor
  · intro h key
    simp [find?, h, lookup?]
  · intro h
    rw [List.eq_nil_iff_forall_not_mem]
    rintro ⟨key, value⟩ hmem
    rw [mem_entries_iff, h key] at hmem
    cases hmem

/-! ### Equality -/

omit [Ord κ] [TransOrd κ] [LawfulEqOrd κ] in
/-- A list that a strict order arranges is determined by its members. -/
theorem eq_of_mem_iff_of_pairwise {R : κ → κ → Prop} {left right : List κ}
    (hasymm : ∀ {first second}, R first second → ¬ R second first) (hleft : left.Pairwise R)
    (hright : right.Pairwise R) (h : ∀ element, element ∈ left ↔ element ∈ right) :
    left = right := by
  have hne : ∀ {first second}, R first second → first ≠ second := by
    rintro first _ hr rfl
    exact hasymm hr hr
  have hperm : left.Perm right :=
    (List.perm_ext_iff_of_nodup (hleft.imp hne) (hright.imp hne)).mpr h
  exact hperm.eq_of_pairwise (fun _ _ _ _ hr hs => absurd hs (hasymm hr)) hleft hright

omit [LawfulEqOrd κ] in
theorem not_lt_of_lt {first second : κ} (h : compare first second = .lt) :
    ¬ compare second first = .lt := by
  rw [OrientedOrd.eq_swap, h]
  decide

omit [LawfulEqOrd κ] in
/-- Two lists in strictly increasing order with the same members are the same list. -/
theorem eq_of_mem_iff {left right : List κ} (hleft : StrictlyIncreasing left)
    (hright : StrictlyIncreasing right) (h : ∀ key, key ∈ left ↔ key ∈ right) : left = right :=
  eq_of_mem_iff_of_pairwise not_lt_of_lt hleft hright h

/-- Two maps with the same lookups are the same map. -/
theorem ext_find? {left right : SortedMap κ α} (h : ∀ key, left.find? key = right.find? key) :
    left = right := by
  refine ext (eq_of_mem_iff_of_pairwise not_lt_of_lt left.sorted right.sorted ?_)
  rintro ⟨key, value⟩
  rw [mem_entries_iff, mem_entries_iff, h key]

omit [LawfulEqOrd κ] in
/-- Entries that can only be those of one key stand alike in every order of the entries. -/
theorem filter_eq_of_perm {map : SortedMap κ α} {visits : List (κ × α)}
    (hperm : visits.Perm map.entries) {keep : κ × α → Bool}
    (hkeep : ∀ first second, keep first = true → keep second = true → first.1 = second.1) :
    visits.filter keep = map.entries.filter keep := by
  have halone : (map.entries.filter keep).Pairwise fun _ _ => False := by
    refine (map.sorted.filter keep).imp_of_mem ?_
    intro first second hfirst hsecond hlt
    have hsame : first.1 = second.1 :=
      hkeep first second (List.mem_filter.mp hfirst).2 (List.mem_filter.mp hsecond).2
    rw [hsame] at hlt
    exact not_lt_of_lt hlt hlt
  have hvisits : (visits.filter keep).Perm (map.entries.filter keep) := hperm.filter keep
  have halike : (visits.filter keep).Pairwise fun _ _ => False :=
    (hvisits.pairwise_iff (fun himpossible => himpossible)).mpr halone
  exact hvisits.eq_of_pairwise (fun _ _ _ _ himpossible => himpossible.elim) halike halone

/-! ### Lists of keys and groups -/

theorem mem_keys_insert {map : SortedMap κ α} {key other : κ} {value : α} :
    other ∈ (map.insert key value).keys ↔ other = key ∨ other ∈ map.keys := by
  by_cases h : other = key
  · subst h
    simp [mem_keys_iff]
  · simp [mem_keys_iff, find?_insert_of_ne _ _ h, h]

theorem mem_keys_foldl_insert (bindings : List (κ × α)) (map : SortedMap κ α) {key : κ} :
    key ∈ (bindings.foldl (fun map binding => map.insert binding.1 binding.2) map).keys ↔
      key ∈ bindings.map (·.1) ∨ key ∈ map.keys := by
  induction bindings generalizing map with
  | nil => simp
  | cons head rest ih =>
    rw [List.foldl_cons, ih, mem_keys_insert, List.map_cons, List.mem_cons]
    tauto

/-- What a list binds takes the place of what a map binds. -/
theorem find?_foldl_insert (bindings : List (κ × α)) (base : SortedMap κ α) (key : κ) :
    (bindings.foldl (fun map binding => map.insert binding.1 binding.2) base).find? key =
      (find? (.ofList bindings) key).or (base.find? key) := by
  have hempty (base : SortedMap κ α) :
      base.find? key = (find? (.empty : SortedMap κ α) key).or (base.find? key) := rfl
  rw [ofList]
  induction bindings generalizing base with
  | nil => exact hempty base
  | cons binding rest ih =>
    rw [List.foldl_cons, List.foldl_cons, ih (base.insert _ _), ih (SortedMap.insert _ _ _),
      Option.or_assoc]
    by_cases hkey : key = binding.1
    · rw [hkey, find?_insert_self, find?_insert_self, Option.some_or]
    · rw [find?_insert_of_ne _ _ hkey, find?_insert_of_ne _ _ hkey]
      exact congrArg _ (hempty base)

/-- Of the bindings of a key in a list the last one counts. -/
theorem find?_ofList [DecidableEq κ] (bindings : List (κ × α)) (key : κ) :
    (ofList bindings).find? key =
      ((bindings.filter fun binding => binding.1 = key).map (·.2)).getLast? := by
  induction bindings using List.reverseRecOn with
  | nil => rfl
  | append_singleton rest binding ih =>
    have hlast : ofList (rest ++ [binding]) = (ofList rest).insert binding.1 binding.2 := by
      rw [ofList, List.foldl_append]
      rfl
    rw [hlast, List.filter_append, List.map_append]
    by_cases hkey : binding.1 = key
    · rw [List.filter_cons_of_pos (by simpa using hkey), ← hkey, find?_insert_self]
      exact List.getLast?_concat.symm
    · rw [List.filter_cons_of_neg (by simpa using hkey), List.filter_nil, List.map_nil,
        List.append_nil, find?_insert_of_ne _ _ (Ne.symm hkey), ih]

/-- The bindings of a map, inserted into another map, take the place of what that map binds. -/
theorem find?_foldl_insert_entries (map base : SortedMap κ α) (key : κ) :
    (map.entries.foldl (fun map binding => map.insert binding.1 binding.2) base).find? key =
      (map.find? key).or (base.find? key) := by
  obtain ⟨entries, hsorted⟩ := map
  rw [find?]
  change _ = (lookup? key entries).or (base.find? key)
  induction entries generalizing base with
  | nil => rfl
  | cons head rest ih =>
    obtain ⟨other, value⟩ := head
    obtain ⟨hhead, hrest⟩ := List.pairwise_cons.mp hsorted
    rw [List.foldl_cons]
    refine (ih (base.insert other value) hrest).trans ?_
    by_cases heq : key = other
    · subst heq
      have hnone : lookup? key rest = none := lookup?_eq_none_of_lt hhead
      simp [lookup?, hnone]
    · rw [find?_insert_of_ne _ _ heq]
      simp [lookup?, heq]

theorem find?_foldl_insert_of_not_mem {bindings : List (κ × α)} {key : κ}
    (h : key ∉ bindings.map (·.1)) (base : SortedMap κ α) :
    (bindings.foldl (fun map binding => map.insert binding.1 binding.2) base).find? key =
      base.find? key := by
  induction bindings generalizing base with
  | nil => rfl
  | cons binding rest ih =>
    rw [List.map_cons, List.mem_cons, not_or] at h
    rw [List.foldl_cons, ih h.2, find?_insert_of_ne _ _ h.1]

/-- Of bindings with different keys none takes the place of another. -/
theorem find?_foldl_insert_of_mem {bindings : List (κ × α)}
    (hnodup : (bindings.map (·.1)).Nodup) {key : κ} {value : α} (h : (key, value) ∈ bindings)
    (base : SortedMap κ α) :
    (bindings.foldl (fun map binding => map.insert binding.1 binding.2) base).find? key =
      some value := by
  induction bindings generalizing base with
  | nil => cases h
  | cons binding rest ih =>
    obtain ⟨hnew, hrest⟩ := List.nodup_cons.mp hnodup
    rw [List.foldl_cons]
    rcases List.mem_cons.mp h with rfl | hmem
    · rw [find?_foldl_insert_of_not_mem hnew, find?_insert_self]
    · exact ih hrest hmem _

omit [TransOrd κ] in
theorem find?_foldl_erase [DecidableEq κ] (keys : List κ) (map : SortedMap κ α) (key : κ) :
    (keys.foldl (fun map gone => map.erase gone) map).find? key =
      if key ∈ keys then none else map.find? key := by
  induction keys generalizing map with
  | nil => rfl
  | cons first rest ih =>
    rw [List.foldl_cons, ih]
    by_cases hkey : key = first
    · subst hkey
      simp
    · simp [hkey, find?_erase_of_ne _ hkey]

theorem mem_distinct_iff {elements : List κ} {key : κ} :
    key ∈ distinct elements ↔ key ∈ elements := by
  rw [distinct, ofList, mem_keys_foldl_insert]
  simp [keys, empty]

omit [LawfulEqOrd κ] in
theorem strictlyIncreasing_distinct (elements : List κ) :
    StrictlyIncreasing (distinct elements) :=
  strictlyIncreasing_keys _

omit [LawfulEqOrd κ] in
theorem StrictlyIncreasing.nodup {keys : List κ} (h : StrictlyIncreasing keys) : keys.Nodup := by
  refine h.imp ?_
  rintro first _ hlt rfl
  exact not_lt_of_lt hlt hlt

/-- As many elements are listed as there are different ones. -/
theorem length_distinct [DecidableEq κ] (elements : List κ) :
    (distinct elements).length = elements.toFinset.card := by
  have hsame : elements.toFinset = (distinct elements).toFinset := by
    ext key
    rw [List.mem_toFinset, List.mem_toFinset, mem_distinct_iff]
  rw [hsame, List.toFinset_card_of_nodup (strictlyIncreasing_distinct elements).nodup]

/-- A group is bound exactly when it has members. -/
theorem find?_groupBy [DecidableEq κ] (key : α → κ) (elements : List α) (wanted : κ) :
    (groupBy key elements).find? wanted =
      if (elements.filter fun element => key element = wanted) = [] then none
      else some (elements.filter fun element => key element = wanted) := by
  induction elements with
  | nil => simp [groupBy]
  | cons head rest ih =>
    by_cases h : key head = wanted
    · subst h
      have hrest := getD_find?_groupBy key rest (key head)
      simp only [groupBy, List.foldr_cons, find?_upsert_self] at hrest ⊢
      simp [hrest]
    · have hne : wanted ≠ key head := fun heq => h heq.symm
      simp only [groupBy, List.foldr_cons] at ih ⊢
      rw [find?_upsert_of_ne _ _ hne, ih]
      simp [h]

omit [TransOrd κ] [LawfulEqOrd κ] in
/-- Elements that are added to the list of one key are added to all lists together. -/
theorem flatMap_upsertEntry_perm (key : κ) (added : List α) (update : Option (List α) → List α)
    (hupdate : ∀ former, (update former).Perm (added ++ former.getD []))
    (entries : List (κ × List α)) :
    ((upsertEntry key update entries).flatMap (·.2)).Perm (added ++ entries.flatMap (·.2)) := by
  induction entries with
  | nil => simpa [upsertEntry] using hupdate none
  | cons head rest ih =>
    obtain ⟨other, elements⟩ := head
    rw [upsertEntry, List.flatMap_cons]
    split
    case h_1 => simpa using (hupdate none).append_right (elements ++ rest.flatMap (·.2))
    case h_2 =>
      rw [List.flatMap_cons, ← List.append_assoc]
      exact (hupdate (some elements)).append_right _
    case h_3 =>
      rw [List.flatMap_cons]
      exact (ih.append_left elements).trans (List.perm_append_comm_assoc _ _ _)

omit [LawfulEqOrd κ] in
/-- Groups hold each element once. -/
theorem flatMap_groupBy_perm (key : α → κ) (elements : List α) :
    ((groupBy key elements).entries.flatMap (·.2)).Perm elements := by
  induction elements with
  | nil => exact List.Perm.refl []
  | cons head rest ih =>
    have hupsert := flatMap_upsertEntry_perm (key head) [head]
      (fun former => head :: former.getD []) (fun former => List.Perm.refl _)
      (groupBy key rest).entries
    exact hupsert.trans (ih.cons head)

/-- Changed elements are put into groups by the keys that they have then. -/
theorem groupBy_map [DecidableEq κ] (key : α → κ) (change : β → α) (elements : List β) :
    groupBy key (elements.map change) =
      (groupBy (fun element => key (change element)) elements).mapValues
        fun _ members => members.map change := by
  refine ext_find? fun wanted => ?_
  rw [find?_mapValues, find?_groupBy, find?_groupBy, List.filter_map]
  have hkeep : ((fun element => decide (key element = wanted)) ∘ change) =
      fun element => decide (key (change element) = wanted) := rfl
  rw [hkeep]
  by_cases hnone : (elements.filter fun element => key (change element) = wanted) = []
  · simp [hnone]
  · simp only [List.map_eq_nil_iff, hnone, if_false, Option.map_some]

/-! ### Other keys in the same order -/

section

variable {μ : Type} [Ord μ] [TransOrd μ] [LawfulEqOrd μ] {change : κ → μ}

omit [TransOrd κ] [LawfulEqOrd κ] [TransOrd μ] [LawfulEqOrd μ] in
theorem upsertEntry_map_key {key : κ} {entries : List (κ × α)}
    (h : ∀ entry ∈ entries, compare (change key) (change entry.1) = compare key entry.1)
    (update : Option α → α) :
    upsertEntry (change key) update (entries.map fun entry => (change entry.1, entry.2)) =
      (upsertEntry key update entries).map fun entry => (change entry.1, entry.2) := by
  induction entries with
  | nil => rfl
  | cons head rest ih =>
    obtain ⟨hhead, hrest⟩ := List.forall_mem_cons.mp h
    rw [List.map_cons, upsertEntry, upsertEntry, hhead, ih hrest]
    cases compare key head.1 with
    | lt => rfl
    | eq => rfl
    | gt => rfl

omit [LawfulEqOrd μ] in
/-- Groups stand in the same places when keys are changed and their order is kept. -/
theorem entries_groupBy_change [DecidableEq κ] (change : κ → μ) (key : α → κ) {elements : List α}
    (h : ∀ first ∈ elements, ∀ second ∈ elements,
      compare (change (key first)) (change (key second)) = compare (key first) (key second)) :
    (groupBy (fun element => change (key element)) elements).entries =
      (groupBy key elements).entries.map fun entry => (change entry.1, entry.2) := by
  induction elements with
  | nil => rfl
  | cons head rest ih =>
    have hrest : ∀ first ∈ rest, ∀ second ∈ rest,
        compare (change (key first)) (change (key second)) = compare (key first) (key second) :=
      fun first hfirst second hsecond =>
        h first (List.mem_cons_of_mem head hfirst) second (List.mem_cons_of_mem head hsecond)
    have hkeys : ∀ entry ∈ (groupBy key rest).entries,
        compare (change (key head)) (change entry.1) = compare (key head) entry.1 := by
      rintro ⟨wanted, members⟩ hentry
      rw [mem_entries_iff, find?_groupBy] at hentry
      split_ifs at hentry with hnone
      obtain ⟨element, helement⟩ := List.exists_mem_of_ne_nil _ hnone
      obtain ⟨hmem, hwanted⟩ := List.mem_filter.mp helement
      rw [← of_decide_eq_true hwanted]
      exact h head List.mem_cons_self element (List.mem_cons_of_mem head hmem)
    exact (congrArg _ (ih hrest)).trans (upsertEntry_map_key hkeys _)

end

/-! ### The order of maps with another value -/

/-- What is bound to a key stands first, or further on and then behind a smaller key. -/
theorem first_or_rest_of_lookup? {key : κ} {former : α} {head : κ × α} {rest : List (κ × α)}
    (hsorted : (head :: rest).Pairwise fun first second => compare first.1 second.1 = .lt)
    (h : lookup? key (head :: rest) = some former) :
    head = (key, former) ∨ compare key head.1 = .gt ∧ lookup? key rest = some former := by
  obtain ⟨other, value⟩ := head
  obtain ⟨hhead, -⟩ := List.pairwise_cons.mp hsorted
  rw [lookup?] at h
  cases hcompare : compare key other with
  | lt =>
    have hnone : lookup? key rest = none :=
      lookup?_eq_none_of_lt fun entry hentry => TransCmp.lt_trans hcompare (hhead entry hentry)
    rw [hcompare, if_neg (by decide), hnone] at h
    cases h
  | eq =>
    rw [hcompare, if_pos rfl, Option.some.injEq] at h
    exact .inl (Prod.ext (LawfulEqOrd.eq_of_compare hcompare).symm h)
  | gt =>
    rw [hcompare, if_neg (by decide)] at h
    exact .inr ⟨rfl, h⟩

variable [Ord α] [LawfulEqOrd α] {key : κ} {former : α}

/-- The value of a key that two lists of entries bind alike does not decide their order. -/
theorem compareLex_upsertEntry {left right : List (κ × α)}
    (hleft : left.Pairwise fun first second => compare first.1 second.1 = .lt)
    (hright : right.Pairwise fun first second => compare first.1 second.1 = .lt)
    (hfirst : lookup? key left = some former) (hsecond : lookup? key right = some former)
    (value : α) :
    List.compareLex compareBindings (upsertEntry key (fun _ => value) left)
        (upsertEntry key (fun _ => value) right) =
      List.compareLex compareBindings left right := by
  induction left generalizing right with
  | nil => cases hfirst
  | cons one lefts ih =>
    cases right with
    | nil => cases hsecond
    | cons other rights =>
      rcases first_or_rest_of_lookup? hleft hfirst with rfl | ⟨hone, hlefts⟩
      · rcases first_or_rest_of_lookup? hright hsecond with rfl | ⟨hother, hrights⟩
        · have hself (value : α) : compareBindings (key, value) (key, value) = .eq :=
            ReflCmp.compare_self
          simp only [upsertEntry, compare_self, List.compareLex_cons_cons, hself]
        · simp [upsertEntry, hother, List.compareLex_cons_cons, compareBindings, compareLex,
            compareOn]
      · have hlt : compare one.1 key = .lt := OrientedCmp.lt_of_gt hone
        rcases first_or_rest_of_lookup? hright hsecond with rfl | ⟨hother, hrights⟩
        · simp [upsertEntry, hone, hlt, List.compareLex_cons_cons, compareBindings, compareLex,
            compareOn]
        · have hrest := ih (List.pairwise_cons.mp hleft).2 (List.pairwise_cons.mp hright).2 hlefts
            hrights
          simp only [upsertEntry, hone, hother, List.compareLex_cons_cons, hrest]

/-- Maps that bind a key alike stay in the order in which they are when the key is bound anew. -/
theorem compare_insert {left right : SortedMap κ α} (hleft : left.find? key = some former)
    (hright : right.find? key = some former) (value : α) :
    compare (left.insert key value) (right.insert key value) = compare left right :=
  compareLex_upsertEntry left.sorted right.sorted hleft hright value

end MetricBench.SortedMap
