/-!
# Sorted maps

A finite map is the list of its entries in strictly increasing key order, so two maps with the
same bindings are the same value and a walk over a map always visits its keys in order.  The lemmas
say how lookup and membership see each operation.
-/

namespace MetricBench

open Std

/-- A finite map from keys to values, held in strictly increasing key order. -/
structure SortedMap (κ : Type) (α : Type) [Ord κ] where
  entries : List (κ × α)
  sorted : entries.Pairwise (fun left right => compare left.1 right.1 = .lt)

namespace SortedMap

variable {κ α β : Type} [Ord κ]

@[ext]
theorem ext {left right : SortedMap κ α} (h : left.entries = right.entries) : left = right := by
  cases left
  cases right
  simp_all

instance [DecidableEq κ] [DecidableEq α] : DecidableEq (SortedMap κ α) := fun left right =>
  decidable_of_iff (left.entries = right.entries) ⟨ext, fun h => h ▸ rfl⟩

/-- The map without bindings. -/
def empty : SortedMap κ α := ⟨[], .nil⟩

instance : Inhabited (SortedMap κ α) := ⟨empty⟩

/-- The keys in increasing order. -/
def keys (map : SortedMap κ α) : List κ := map.entries.map (·.1)

/-- The values in the order of their keys. -/
def values (map : SortedMap κ α) : List α := map.entries.map (·.2)

/-- The number of bindings. -/
def size (map : SortedMap κ α) : Nat := map.entries.length

def isEmpty (map : SortedMap κ α) : Bool := map.entries.isEmpty

/-- The first value bound to `key` in a list of entries. -/
def lookup? (key : κ) : List (κ × α) → Option α
  | [] => none
  | (other, value) :: rest =>
    if compare key other = .eq then some value else lookup? key rest

/-- The value bound to `key`. -/
def find? (map : SortedMap κ α) (key : κ) : Option α := lookup? key map.entries

def contains (map : SortedMap κ α) (key : κ) : Bool := (map.find? key).isSome

/-- Binds `key` to `update` of its former value, at its place in the order. -/
def upsertEntry (key : κ) (update : Option α → α) : List (κ × α) → List (κ × α)
  | [] => [(key, update none)]
  | (other, value) :: rest =>
    match compare key other with
    | .lt => (key, update none) :: (other, value) :: rest
    | .eq => (key, update (some value)) :: rest
    | .gt => (other, value) :: upsertEntry key update rest

theorem key_of_mem_upsertEntry {key : κ} {update : Option α → α} {entries : List (κ × α)}
    {entry : κ × α} (h : entry ∈ upsertEntry key update entries) :
    entry.1 = key ∨ ∃ former ∈ entries, former.1 = entry.1 := by
  induction entries with
  | nil => simp_all [upsertEntry]
  | cons head rest ih =>
    obtain ⟨other, value⟩ := head
    rw [upsertEntry] at h
    split at h <;> grind

section

variable [TransOrd κ]

theorem sorted_upsertEntry {key : κ} {update : Option α → α} {entries : List (κ × α)}
    (h : entries.Pairwise (fun left right => compare left.1 right.1 = .lt)) :
    (upsertEntry key update entries).Pairwise
      (fun left right => compare left.1 right.1 = .lt) := by
  induction entries with
  | nil => simp [upsertEntry]
  | cons head rest ih =>
    obtain ⟨other, value⟩ := head
    obtain ⟨hhead, hrest⟩ := List.pairwise_cons.mp h
    rw [upsertEntry]
    split
    · rename_i hlt
      refine List.pairwise_cons.mpr ⟨fun entry hentry => ?_, h⟩
      rcases List.mem_cons.mp hentry with rfl | hmem
      · exact hlt
      · exact TransCmp.lt_trans hlt (hhead entry hmem)
    · rename_i heq
      refine List.pairwise_cons.mpr ⟨fun entry hentry => ?_, hrest⟩
      exact TransCmp.lt_of_eq_of_lt heq (hhead entry hentry)
    · rename_i hgt
      refine List.pairwise_cons.mpr ⟨fun entry hentry => ?_, ih hrest⟩
      rcases key_of_mem_upsertEntry hentry with hkey | ⟨former, hmem, hkey⟩
      · rw [hkey]
        exact OrientedCmp.lt_of_gt hgt
      · rw [← hkey]
        exact hhead former hmem

/-- Binds `key` to `update` of its former value. -/
def upsert (map : SortedMap κ α) (key : κ) (update : Option α → α) : SortedMap κ α :=
  ⟨upsertEntry key update map.entries, sorted_upsertEntry map.sorted⟩

/-- Binds `key` to `value`, whatever it was bound to. -/
def insert (map : SortedMap κ α) (key : κ) (value : α) : SortedMap κ α :=
  map.upsert key fun _ => value

/-- The map of a list of bindings; of two bindings of one key the later wins. -/
def ofList (bindings : List (κ × α)) : SortedMap κ α :=
  bindings.foldl (fun map binding => map.insert binding.1 binding.2) empty

/-- The keys that occur in a list, each once and in increasing order. -/
def distinct (keys : List κ) : List κ := (ofList (keys.map fun key => (key, ()))).keys

end

/-- The bindings that `keep` holds of. -/
def filter (map : SortedMap κ α) (keep : κ → α → Bool) : SortedMap κ α :=
  ⟨map.entries.filter fun entry => keep entry.1 entry.2, map.sorted.filter _⟩

/-- The map without a binding of `key`. -/
def erase (map : SortedMap κ α) (key : κ) : SortedMap κ α :=
  map.filter fun other _ => compare key other != .eq

/-- The map with every value replaced by its image. -/
def mapValues (change : κ → α → β) (map : SortedMap κ α) : SortedMap κ β :=
  ⟨map.entries.map fun entry => (entry.1, change entry.1 entry.2), by
    rw [List.pairwise_map]
    exact map.sorted⟩

/-- The elements of a list by key: every key that occurs is bound to the elements that have it, in
the order of the list. -/
def groupBy [TransOrd κ] (key : α → κ) (elements : List α) : SortedMap κ (List α) :=
  elements.foldr
    (fun element groups => groups.upsert (key element) fun former => element :: former.getD [])
    empty

/-! ### The order of maps -/

/-- Bindings are ordered by their keys and, with equal keys, by their values. -/
def compareBindings [Ord α] : κ × α → κ × α → Ordering :=
  compareLex (compareOn (·.1)) (compareOn (·.2))

/-- Maps are ordered by their bindings, the first difference deciding. -/
instance [Ord α] : Ord (SortedMap κ α) :=
  ⟨fun left right => List.compareLex compareBindings left.entries right.entries⟩

instance [TransOrd κ] [Ord α] [TransOrd α] : TransCmp (compareBindings (κ := κ) (α := α)) :=
  inferInstanceAs (TransCmp (compareLex _ _))

instance [LawfulEqOrd κ] [Ord α] [LawfulEqOrd α] :
    LawfulEqCmp (compareBindings (κ := κ) (α := α)) where
  compare_self := by simp [compareBindings, compareLex, compareOn]
  eq_of_compare {left right} h := by
    simp only [compareBindings, compareLex_eq_eq, compareOn] at h
    exact Prod.ext (LawfulEqOrd.eq_of_compare h.1) (LawfulEqOrd.eq_of_compare h.2)

instance [TransOrd κ] [Ord α] [TransOrd α] : TransOrd (SortedMap κ α) :=
  have entriesOrder : TransCmp (List.compareLex (compareBindings (κ := κ) (α := α))) :=
    inferInstance
  { eq_swap := entriesOrder.eq_swap
    isLE_trans := entriesOrder.isLE_trans }

instance [LawfulEqOrd κ] [Ord α] [LawfulEqOrd α] : LawfulEqOrd (SortedMap κ α) :=
  have entriesOrder : LawfulEqCmp (List.compareLex (compareBindings (κ := κ) (α := α))) :=
    inferInstance
  { compare_self := entriesOrder.compare_self
    eq_of_compare := fun h => ext (entriesOrder.eq_of_compare h) }

/-! ### Lookup through the operations -/

@[simp]
theorem find?_empty (key : κ) : (empty : SortedMap κ α).find? key = none := rfl

variable [TransOrd κ] [LawfulEqOrd κ]

omit [TransOrd κ] [LawfulEqOrd κ] in
theorem lookup?_eq_none_of_lt {key : κ} {entries : List (κ × α)}
    (h : ∀ entry ∈ entries, compare key entry.1 = .lt) : lookup? key entries = none := by
  induction entries with
  | nil => rfl
  | cons head rest ih =>
    have hhead := h head (by simp)
    simp [lookup?, hhead, ih fun entry hentry => h entry (by simp [hentry])]

theorem lookup?_upsertEntry_self (key : κ) (update : Option α → α) {entries : List (κ × α)}
    (h : entries.Pairwise (fun left right => compare left.1 right.1 = .lt)) :
    lookup? key (upsertEntry key update entries) = some (update (lookup? key entries)) := by
  induction entries with
  | nil => simp [upsertEntry, lookup?]
  | cons head rest ih =>
    obtain ⟨other, value⟩ := head
    obtain ⟨hhead, hrest⟩ := List.pairwise_cons.mp h
    rw [upsertEntry]
    split
    · rename_i hlt
      have hnone : lookup? key ((other, value) :: rest) = none := by
        refine lookup?_eq_none_of_lt fun entry hentry => ?_
        rcases List.mem_cons.mp hentry with rfl | hmem
        · exact hlt
        · exact TransCmp.lt_trans hlt (hhead entry hmem)
      rw [hnone]
      simp [lookup?]
    · rename_i heq
      simp [lookup?, heq]
    · rename_i hgt
      simp [lookup?, hgt, ih hrest]

omit [TransOrd κ] in
theorem lookup?_upsertEntry_of_ne {key other : κ} (update : Option α → α) (h : other ≠ key)
    (entries : List (κ × α)) :
    lookup? other (upsertEntry key update entries) = lookup? other entries := by
  induction entries with
  | nil => simp [upsertEntry, lookup?, h]
  | cons head rest ih =>
    obtain ⟨first, value⟩ := head
    rw [upsertEntry]
    split
    · simp [lookup?, h]
    · rename_i heq
      have hkey : key = first := by simpa using heq
      subst hkey
      simp [lookup?, h]
    · simp [lookup?, ih]

@[simp]
theorem find?_upsert_self (map : SortedMap κ α) (key : κ) (update : Option α → α) :
    (map.upsert key update).find? key = some (update (map.find? key)) :=
  lookup?_upsertEntry_self key update map.sorted

theorem find?_upsert_of_ne {key other : κ} (map : SortedMap κ α) (update : Option α → α)
    (h : other ≠ key) : (map.upsert key update).find? other = map.find? other :=
  lookup?_upsertEntry_of_ne update h map.entries

@[simp]
theorem find?_insert_self (map : SortedMap κ α) (key : κ) (value : α) :
    (map.insert key value).find? key = some value := by
  simp [insert]

theorem find?_insert_of_ne {key other : κ} (map : SortedMap κ α) (value : α)
    (h : other ≠ key) : (map.insert key value).find? other = map.find? other :=
  find?_upsert_of_ne map _ h

omit [TransOrd κ] in
theorem lookup?_filter (key : κ) (keep : κ → α → Bool) {entries : List (κ × α)}
    (h : entries.Pairwise (fun left right => compare left.1 right.1 = .lt)) :
    lookup? key (entries.filter fun entry => keep entry.1 entry.2) =
      (lookup? key entries).filter (keep key) := by
  induction entries with
  | nil => rfl
  | cons head rest ih =>
    obtain ⟨other, value⟩ := head
    obtain ⟨hhead, hrest⟩ := List.pairwise_cons.mp h
    by_cases heq : key = other
    · subst heq
      have hnone : lookup? key (rest.filter fun entry => keep entry.1 entry.2) = none :=
        lookup?_eq_none_of_lt fun entry hentry => hhead entry (List.mem_filter.mp hentry).1
      by_cases hkeep : keep key value = true <;> simp [lookup?, hkeep, hnone, Option.filter]
    · by_cases hkeep : keep other value = true <;> simp [lookup?, heq, hkeep, ih hrest]

omit [TransOrd κ] in
@[simp]
theorem find?_filter (map : SortedMap κ α) (keep : κ → α → Bool) (key : κ) :
    (map.filter keep).find? key = (map.find? key).filter (keep key) :=
  lookup?_filter key keep map.sorted

omit [TransOrd κ] in
@[simp]
theorem find?_erase_self (map : SortedMap κ α) (key : κ) : (map.erase key).find? key = none := by
  cases h : map.find? key <;> simp [erase, h]

omit [TransOrd κ] in
theorem find?_erase_of_ne {key other : κ} (map : SortedMap κ α) (h : other ≠ key) :
    (map.erase key).find? other = map.find? other := by
  have hne : key ≠ other := fun heq => h heq.symm
  cases hfind : map.find? other <;> simp [erase, hfind, hne]

omit [TransOrd κ] in
theorem lookup?_map (key : κ) (change : κ → α → β) (entries : List (κ × α)) :
    lookup? key (entries.map fun entry => (entry.1, change entry.1 entry.2)) =
      (lookup? key entries).map (change key) := by
  induction entries with
  | nil => rfl
  | cons head rest ih =>
    obtain ⟨other, value⟩ := head
    by_cases heq : key = other
    · simp [lookup?, heq]
    · simp [lookup?, heq, ih]

omit [TransOrd κ] in
@[simp]
theorem find?_mapValues (map : SortedMap κ α) (change : κ → α → β) (key : κ) :
    (map.mapValues change).find? key = (map.find? key).map (change key) :=
  lookup?_map key change map.entries

/-- A group holds exactly the elements with its key, in their order. -/
theorem getD_find?_groupBy [DecidableEq κ] (key : α → κ) (elements : List α) (wanted : κ) :
    ((groupBy key elements).find? wanted).getD [] =
      elements.filter fun element => key element = wanted := by
  induction elements with
  | nil => rfl
  | cons head rest ih =>
    by_cases h : key head = wanted
    · subst h
      simp [groupBy] at ih ⊢
      exact ih
    · have hne : wanted ≠ key head := fun heq => h heq.symm
      simp only [groupBy, List.foldr_cons] at ih ⊢
      rw [find?_upsert_of_ne _ _ hne, ih]
      simp [h]

end SortedMap

end MetricBench
