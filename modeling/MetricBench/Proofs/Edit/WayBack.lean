import MetricBench.Proofs.Edit.Writable
import MetricBench.Proofs.Store.Instants

/-!
# The way back of a series

The samples that are made for a series stand at even distances before its earliest one.  When an
instant on the way back or its distance is no signed word, nothing is made for any series.
-/

namespace MetricBench.Edit

open Number (fitsSigned greatestSigned leastSigned)
open Store (instantsOf earliestInstant? instantsOf_append mem_instantsOf_iff
  earliestInstant?_eq_some_iff)

/-! ### Instants on the way back -/

/-- Instants at even distances before the given one, the latest first. -/
def stepsBack (start step : Int) (steps : Nat) : List Int :=
  (List.range steps).map fun (index : Nat) => start - (index + 1) * step

section

variable {start step : Int} {steps : Nat}

theorem mem_stepsBack_iff {instant : Int} :
    instant ∈ stepsBack start step steps ↔
      ∃ count ≤ steps, 1 ≤ count ∧ instant = start - count * step := by
  simp only [stepsBack, List.mem_map, List.mem_range]
  constructor
  · rintro ⟨index, hindex, rfl⟩
    exact ⟨index + 1, hindex, Nat.le_add_left 1 index, by push_cast; rfl⟩
  · rintro ⟨count, hcount, hone, rfl⟩
    refine ⟨count - 1, by omega, ?_⟩
    push_cast [hone]
    rw [sub_add_cancel]

theorem pairwise_stepsBack (hstep : 0 < step) (start : Int) (steps : Nat) :
    (stepsBack start step steps).Pairwise fun later earlier => earlier < later := by
  refine List.pairwise_map.mpr (List.pairwise_lt_range.imp fun {first second} hlt => ?_)
  have hfurther : ((first : Int) + 1) * step < (second + 1) * step := by
    apply mul_lt_mul_of_pos_right _ hstep
    omega
  omega

/-- Going back further starts where the way back has ended. -/
theorem stepsBack_add (start step : Int) (steps more : Nat) :
    stepsBack start step (steps + more) =
      stepsBack start step steps ++ stepsBack (start - steps * step) step more := by
  rw [stepsBack, List.range_add, List.map_append, List.map_map]
  refine congrArg _ (List.map_congr_left fun index _ => ?_)
  rw [Function.comp_apply]
  push_cast
  ring

theorem lt_of_mem_stepsBack (hstep : 0 < step) {instant : Int}
    (h : instant ∈ stepsBack start step steps) : instant < start := by
  obtain ⟨count, -, hone, rfl⟩ := mem_stepsBack_iff.mp h
  have hsome : 0 < (count : Int) * step := by positivity
  omega

/-- Whether an instant on the way back, or its distance, is no signed word. -/
def LeavesRange (start step : Int) (steps : Nat) : Prop :=
  ∃ count ≤ steps, 1 ≤ count ∧
    (fitsSigned (count * step) = false ∨ fitsSigned (start - count * step) = false)

instance : Decidable (LeavesRange start step steps) :=
  inferInstanceAs (Decidable (∃ count ≤ steps, _))

/-- The way back stays in range when its end does. -/
theorem leavesRange_iff (hsteps : steps ≠ 0) (hstep : 0 < step) (hstart : fitsSigned start = true) :
    LeavesRange start step steps ↔
      fitsSigned (steps * step) = false ∨ fitsSigned (start - steps * step) = false := by
  constructor
  · rintro ⟨count, hcount, hone, hout⟩
    by_contra hend
    have hsome : 0 < (count : Int) * step := by positivity
    have hwithin : (count : Int) * step ≤ steps * step := by gcongr
    simp only [← Bool.not_eq_true, Number.fitsSigned_iff, leastSigned, greatestSigned]
      at hstart hend hout
    omega
  · intro hout
    exact ⟨steps, Nat.le_refl steps, Nat.one_le_iff_ne_zero.mpr hsteps, hout⟩

end

/-! ### One series -/

section

variable (counter : Bool) {steps : Nat} {step : Int} (random : Nat → UInt64)

theorem earliest_le (first : Sample) (rest : List Sample) :
    ∀ sample ∈ first :: rest, (earliest first rest).timestamp ≤ sample.timestamp := by
  rw [earliest]
  induction rest generalizing first with
  | nil => simp
  | cons next others ih =>
    rw [List.foldl_cons]
    split_ifs with hearlier
    · have hnext := ih next
      simp only [List.forall_mem_cons] at hnext ⊢
      exact ⟨Int.le_trans hnext.1 (Int.le_of_lt hearlier), hnext⟩
    · have hfirst := ih first
      simp only [List.forall_mem_cons] at hfirst ⊢
      exact ⟨hfirst.1, Int.le_trans hfirst.1 (not_lt.mp hearlier), hfirst.2⟩

/-- Whether samples are those of one label set, the earliest of them at the given instant. -/
structure StartsAt (start : Int) (labels : Labels) (samples : List Sample) : Prop where
  labelled : ∀ sample ∈ samples, sample.labels = labels
  earliest : earliestInstant? labels samples = some start
  timed : fitsSigned start = true

theorem StartsAt.timestamp_earliest {start : Int} {labels : Labels} {first : Sample}
    {rest : List Sample} (h : StartsAt start labels (first :: rest)) :
    (Edit.earliest first rest).timestamp = start := by
  have hinstants := Store.instantsOf_of_labels h.labelled
  obtain ⟨hmem, hleast⟩ := earliestInstant?_eq_some_iff.mp h.earliest
  rw [hinstants] at hmem hleast
  obtain ⟨sample, hsample, rfl⟩ := List.mem_map.mp hmem
  exact Int.le_antisymm (earliest_le first rest sample hsample)
    (hleast _ (List.mem_map_of_mem (earliest_mem first rest)))

variable {start : Int} {labels : Labels} {samples : List Sample}
  (h : StartsAt start labels samples) (hsteps : steps ≠ 0) (hstep : 0 < step)

include h hsteps hstep

theorem seedSeries_eq_error (hout : LeavesRange start step steps) :
    seedSeries counter steps step random samples = .error .historyOutOfRange := by
  cases samples with
  | nil => cases h.earliest
  | cons first rest =>
    have hend := (leavesRange_iff hsteps hstep h.timed).mp hout
    rw [seedSeries]
    dsimp only
    rw [h.timestamp_earliest, if_pos (by simpa using hend)]

theorem seedSeries_eq_ok (hin : ¬ LeavesRange start step steps) :
    ∃ seeded, seedSeries counter steps step random samples = .ok seeded ∧
      (∀ sample ∈ seeded, sample.labels = labels) ∧
      seeded.map (·.timestamp) = stepsBack start step steps := by
  cases samples with
  | nil => cases h.earliest
  | cons first rest =>
    have hend := mt (leavesRange_iff hsteps hstep h.timed).mpr hin
    rw [seedSeries]
    dsimp only
    rw [h.timestamp_earliest, if_neg (by simpa using hend)]
    refine ⟨_, rfl, fun sample hsample => ?_, ?_⟩
    · obtain ⟨index, hindex, rfl⟩ := List.mem_mapIdx.mp hsample
      exact h.labelled (earliest first rest) (earliest_mem first rest)
    · refine List.ext_getElem ?_ fun index _ _ => ?_
      · simp [stepsBack, length_seededValues]
      · simp [stepsBack]

end

/-! ### All series of a metric -/

section

variable (counter : Bool) {steps : Nat} {step : Int} (random : Nat → UInt64)
  {entries : List (Labels × List Sample)} (hsteps : steps ≠ 0) (hstep : 0 < step)

include hsteps hstep

/-- One series that leaves the range is enough for a refusal, whatever has been made before. -/
theorem seedAll_eq_error (hgroups : ∀ entry ∈ entries, ∃ start, StartsAt start entry.1 entry.2)
    {entry : Labels × List Sample} (hentry : entry ∈ entries) {start : Int}
    (hstart : StartsAt start entry.1 entry.2) (hout : LeavesRange start step steps) (place : Nat) :
    seedAll counter steps step random place (entries.map (·.2)) = .error .historyOutOfRange := by
  induction entries generalizing place with
  | nil => cases hentry
  | cons head rest ih =>
    obtain ⟨⟨first, hfirst⟩, hrest⟩ := List.forall_mem_cons.mp hgroups
    rw [List.map_cons, seedAll, bind_eq_error_iff]
    by_cases hhead : LeavesRange first step steps
    · exact .inl (seedSeries_eq_error _ _ hfirst hsteps hstep hhead)
    · obtain ⟨seeded, hseeded, -⟩ := seedSeries_eq_ok counter
        (fun index => random (place + index)) hfirst hsteps hstep hhead
      have hmem : entry ∈ rest := by
        rcases List.mem_cons.mp hentry with rfl | hmem
        · have hsame := hfirst.earliest.symm.trans hstart.earliest
          rw [Option.some.injEq] at hsame
          exact absurd (hsame ▸ hout) hhead
        · exact hmem
      exact .inr ⟨seeded, hseeded, bind_eq_error_iff.mpr (.inl (ih hrest hmem _))⟩

/-- Without such a series samples are made for every label set, each in its place. -/
theorem seedAll_eq_ok
    (hsorted : entries.Pairwise fun first second => compare first.1 second.1 = .lt)
    (hgroups : ∀ entry ∈ entries, ∃ start, StartsAt start entry.1 entry.2 ∧
      ¬ LeavesRange start step steps) (place : Nat) :
    ∃ seeded, seedAll counter steps step random place (entries.map (·.2)) = .ok seeded ∧
      seeded.length = steps * entries.length ∧
      (∀ sample ∈ seeded, ∃ entry ∈ entries, sample.labels = entry.1) ∧
      ∀ labels, instantsOf labels seeded =
        ((SortedMap.lookup? labels entries).bind (earliestInstant? labels)).elim []
          (stepsBack · step steps) := by
  induction entries generalizing place with
  | nil => exact ⟨[], rfl, by simp, by simp, fun _ => rfl⟩
  | cons head rest ih =>
    obtain ⟨hhead, hothers⟩ := List.pairwise_cons.mp hsorted
    obtain ⟨⟨start, hstart, hin⟩, hrest⟩ := List.forall_mem_cons.mp hgroups
    obtain ⟨seeded, hseeded, hlabels, hinstants⟩ := seedSeries_eq_ok counter
      (fun index => random (place + index)) hstart hsteps hstep hin
    obtain ⟨others, hall, hlength, hfrom, heach⟩ := ih hothers hrest (place + steps)
    refine ⟨seeded ++ others, ?_, ?_, ?_, fun labels => ?_⟩
    · rw [List.map_cons, seedAll]
      exact bind_eq_ok_iff.mpr ⟨seeded, hseeded, bind_eq_ok_iff.mpr ⟨others, hall, rfl⟩⟩
    · have hcount := congrArg List.length hinstants
      rw [List.length_map, stepsBack, List.length_map, List.length_range] at hcount
      rw [List.length_append, hcount, hlength, List.length_cons]
      ring
    · intro sample hsample
      rcases List.mem_append.mp hsample with hnew | hother
      · exact ⟨head, List.mem_cons_self, hlabels sample hnew⟩
      · obtain ⟨entry, hentry, hlabel⟩ := hfrom sample hother
        exact ⟨entry, List.mem_cons_of_mem head hentry, hlabel⟩
    · rw [Store.instantsOf_append, heach, SortedMap.lookup?]
      by_cases hlabel : labels = head.1
      · have hnone : SortedMap.lookup? head.1 rest = none := SortedMap.lookup?_eq_none_of_lt hhead
        subst hlabel
        rw [Store.instantsOf_of_labels hlabels, hinstants, hnone]
        simp [hstart.earliest]
      · have hnot : instantsOf labels seeded = [] :=
          Store.instantsOf_of_other_labels fun sample hsample heq =>
            hlabel (heq.symm.trans (hlabels sample hsample))
        rw [hnot, List.nil_append]
        simp [hlabel]

end

end MetricBench.Edit
