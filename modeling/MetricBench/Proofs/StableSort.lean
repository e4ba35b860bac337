import Mathlib

/-!
# Stable sorting

A stable sort keeps the order of elements that tie, so it changes no selection of tied elements;
and a sorted list is known when for each key the elements with that key are.
-/

namespace MetricBench.StableSort

variable {α : Type}

/-- Elements that all tie stay in their order. -/
theorem filter_mergeSort {le : α → α → Bool} {keep : α → Bool}
    (htrans : ∀ first second third, le first second = true → le second third = true →
      le first third = true)
    (htotal : ∀ first second, (le first second || le second first) = true)
    (htied : ∀ first second, keep first = true → keep second = true → le first second = true)
    (elements : List α) : (elements.mergeSort le).filter keep = elements.filter keep := by
  have hsorted : (elements.filter keep).Pairwise fun first second => le first second = true := by
    refine List.pairwise_of_forall_mem_list fun first hfirst second hsecond => ?_
    exact htied first second (List.mem_filter.mp hfirst).2 (List.mem_filter.mp hsecond).2
  have hsublist : (elements.filter keep).Sublist (elements.mergeSort le) :=
    List.sublist_mergeSort htrans htotal hsorted List.filter_sublist
  have hkept : (elements.filter keep).Sublist ((elements.mergeSort le).filter keep) := by
    have hfilter := hsublist.filter keep
    rwa [List.filter_filter, List.filter_congr (fun _ _ => Bool.and_self _)] at hfilter
  have hlength : (elements.filter keep).length = ((elements.mergeSort le).filter keep).length :=
    ((List.mergeSort_perm elements le).filter keep).length_eq.symm
  exact (hkept.eq_of_length hlength).symm

theorem key_head_le {key : α → Int} {head element : α} {rest : List α}
    (h : (head :: rest).Pairwise fun first second => key first ≤ key second)
    (hmem : element ∈ head :: rest) : key head ≤ key element := by
  rcases List.mem_cons.mp hmem with rfl | hrest
  · exact Int.le_refl _
  · exact List.rel_of_pairwise_cons h hrest

theorem key_le_getLast {key : α → Int} {elements : List α} {last element : α}
    (h : elements.Pairwise fun first second => key first ≤ key second)
    (hlast : elements.getLast? = some last) (hmem : element ∈ elements) :
    key element ≤ key last := by
  obtain ⟨before, rfl⟩ := List.getLast?_eq_some_iff.mp hlast
  rcases List.mem_append.mp hmem with hbefore | hself
  · exact (List.pairwise_append.mp h).2.2 element hbefore last (List.mem_singleton_self last)
  · rw [List.mem_singleton.mp hself]

/-- In a sorted list the elements with the greatest key are those behind all with a lesser one. -/
theorem dropWhile_eq_filter {key : α → Int} {greatest : Int} {elements : List α}
    (h : elements.Pairwise fun first second => key first ≤ key second)
    (hbound : ∀ element ∈ elements, key element ≤ greatest) :
    (elements.dropWhile fun element => key element < greatest) =
      elements.filter fun element => key element = greatest := by
  induction elements with
  | nil => rfl
  | cons head rest ih =>
    obtain ⟨hhead, hrest⟩ := List.forall_mem_cons.mp hbound
    by_cases hlt : key head < greatest
    · rw [List.dropWhile_cons_of_pos (by simpa using hlt), ih (List.pairwise_cons.mp h).2 hrest,
        List.filter_cons_of_neg (by simpa using Int.ne_of_lt hlt)]
    · have hall : ∀ element ∈ head :: rest, key element = greatest := fun element hmem =>
        Int.le_antisymm (hbound element hmem)
          (Int.le_trans (Int.not_lt.mp hlt) (key_head_le h hmem))
      rw [List.dropWhile_cons_of_neg (by simpa using hlt),
        List.filter_eq_self.mpr fun element hmem => decide_eq_true (hall element hmem)]

/-- Two sorted lists are equal when their elements of each key are. -/
theorem eq_of_filter_eq {key : α → Int} {left right : List α}
    (hleft : left.Pairwise fun first second => key first ≤ key second)
    (hright : right.Pairwise fun first second => key first ≤ key second)
    (h : ∀ wanted, left.filter (key · = wanted) = right.filter (key · = wanted)) :
    left = right := by
  induction left generalizing right with
  | nil =>
    cases right with
    | nil => rfl
    | cons second others =>
      have hsecond := h (key second)
      simp at hsecond
  | cons first rest ih =>
    cases right with
    | nil =>
      have hfirst := h (key first)
      simp at hfirst
    | cons second others =>
      -- each head has the least key of its list, and each key occurs in both lists
      have hfirstmem : first ∈ second :: others := by
        have hmem : first ∈ (second :: others).filter (key · = key first) := by
          rw [← h (key first)]
          simp
        exact (List.mem_filter.mp hmem).1
      have hsecondmem : second ∈ first :: rest := by
        have hmem : second ∈ (first :: rest).filter (key · = key second) := by
          rw [h (key second)]
          simp
        exact (List.mem_filter.mp hmem).1
      have hkey : key first = key second :=
        Int.le_antisymm (key_head_le hleft hsecondmem) (key_head_le hright hfirstmem)
      have hheads := h (key first)
      simp only [List.filter_cons, hkey, decide_true, if_true, List.cons.injEq] at hheads
      obtain ⟨rfl, htails⟩ := hheads
      have hrests : ∀ wanted, rest.filter (key · = wanted) = others.filter (key · = wanted) := by
        intro wanted
        by_cases hwanted : key first = wanted
        · rw [← hwanted]
          exact htails
        · simpa [List.filter_cons, hwanted] using h wanted
      have htail : rest = others :=
        ih (List.pairwise_cons.mp hleft).2 (List.pairwise_cons.mp hright).2 hrests
      rw [htail]

/-- Sorting by a key gives equal lists when the elements of each key are equal lists. -/
theorem mergeSort_eq_of_filter_eq (key : α → Int) {le : α → α → Bool}
    (hle : ∀ first second, le first second = true ↔ key first ≤ key second) {left right : List α}
    (h : ∀ wanted, left.filter (key · = wanted) = right.filter (key · = wanted)) :
    left.mergeSort le = right.mergeSort le := by
  have htrans : ∀ first second third, le first second = true → le second third = true →
      le first third = true := by
    intro first second third
    simp only [hle]
    exact Int.le_trans
  have htotal : ∀ first second, (le first second || le second first) = true := by
    intro first second
    rw [Bool.or_eq_true, hle, hle]
    exact Int.le_total _ _
  have hsorted : ∀ elements : List α,
      (elements.mergeSort le).Pairwise fun first second => key first ≤ key second := by
    intro elements
    exact (List.pairwise_mergeSort htrans htotal elements).imp (hle _ _).mp
  refine eq_of_filter_eq (hsorted left) (hsorted right) fun wanted => ?_
  have htied : ∀ first second, decide (key first = wanted) = true →
      decide (key second = wanted) = true → le first second = true := by
    intro first second hfirst hsecond
    rw [decide_eq_true_eq] at hfirst hsecond
    exact (hle first second).mpr (Int.le_of_eq (hfirst.trans hsecond.symm))
  rw [filter_mergeSort htrans htotal htied, filter_mergeSort htrans htotal htied, h wanted]

end MetricBench.StableSort
