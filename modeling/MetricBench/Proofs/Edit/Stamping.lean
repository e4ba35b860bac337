import MetricBench.Edit.Load
import MetricBench.Edit.Save
import MetricBench.Proofs.Outcome
import MetricBench.Proofs.Store.Stamped

/-!
# Timestamps of a transfer

The timestamps of a transfer are rewritten as one list and then handed out to its samples again.  All
of them are changed by one function, and each comes back to the sample that it was taken from.  So a
load and a save can be described sample by sample.
-/

namespace MetricBench.Edit

open Number (fitsSigned signedWord?)

/-! ### One function for all timestamps -/

namespace TimestampMode

/-- What becomes of each timestamp of a transfer, given all of them.  It is refused when the shift
itself or a shifted timestamp leaves the range of signed words. -/
def plan (mode : TimestampMode) (now : Int) (timestamps : List Int) :
    Except UsageError (Int → Int) :=
  match mode with
  | keep => .ok id
  | remove => .ok fun _ => now
  | set target =>
    match timestamps.max? with
    | none => .ok id
    | some newest =>
      let shift := target - newest
      if fitsSigned shift && timestamps.all fun timestamp => fitsSigned (timestamp + shift) then
        .ok (· + shift)
      else .error (.shiftOutOfRange target newest)

theorem max?_eq_of_perm {timestamps others : List Int} (h : timestamps.Perm others) :
    timestamps.max? = others.max? := by
  apply Option.ext
  intro newest
  simp only [List.max?_eq_some_iff, h.mem_iff]

/-- The order of the timestamps is of no account. -/
theorem plan_perm (mode : TimestampMode) (now : Int) {timestamps others : List Int}
    (h : timestamps.Perm others) : mode.plan now timestamps = mode.plan now others := by
  cases mode with
  | keep => rfl
  | remove => rfl
  | set target =>
    rw [plan, plan, max?_eq_of_perm h]
    simp only [h.all_eq]

theorem shiftAll?_eq (timestamps : List Int) (distance : Int) :
    shiftAll? timestamps distance =
      if timestamps.all fun timestamp => fitsSigned (timestamp + distance) then
        some (timestamps.map (· + distance))
      else none := by
  induction timestamps with
  | nil => rfl
  | cons head rest ih =>
    rw [shiftAll?, List.mapM_cons, ← shiftAll?, ih, signedWord?, List.all_cons, List.map_cons]
    cases fitsSigned (head + distance) with
    | false => rfl
    | true =>
      rw [if_pos rfl, Bool.true_and]
      split_ifs
      · rfl
      · rfl

/-- The list of timestamps is rewritten one timestamp at a time. -/
theorem rewrite_eq (mode : TimestampMode) (now : Int) (timestamps : List Int) :
    mode.rewrite now timestamps =
      (mode.plan now timestamps).map fun stamp => timestamps.map stamp := by
  cases mode with
  | keep => exact congrArg Except.ok (List.map_id timestamps).symm
  | remove => rfl
  | set target =>
    rw [rewrite, plan]
    cases timestamps.max? with
    | none => exact congrArg Except.ok (List.map_id timestamps).symm
    | some newest =>
      dsimp only
      rw [signedWord?]
      cases fitsSigned (target - newest) with
      | false => rfl
      | true =>
        rw [if_pos rfl, Option.bind_some, shiftAll?_eq, Bool.true_and]
        split_ifs
        · rfl
        · rfl

end TimestampMode

/-- A plan makes signed words of signed words. -/
theorem fitsSigned_of_plan {mode : TimestampMode} {now : Int} (hnow : fitsSigned now = true)
    {timestamps : List Int} (h : ∀ timestamp ∈ timestamps, fitsSigned timestamp = true)
    {stamp : Int → Int} (hplan : mode.plan now timestamps = .ok stamp) :
    ∀ timestamp ∈ timestamps, fitsSigned (stamp timestamp) = true := by
  cases mode with
  | keep =>
    cases hplan
    exact h
  | remove =>
    cases hplan
    exact fun _ _ => hnow
  | set target =>
    rw [TimestampMode.plan] at hplan
    split at hplan
    · cases hplan
      exact h
    · dsimp only at hplan
      split_ifs at hplan with hfits
      cases hplan
      rw [Bool.and_eq_true, List.all_eq_true] at hfits
      exact hfits.2

/-! ### Timestamps come back to their samples -/

/-- Timestamps that stand behind those of the samples are not used. -/
theorem stampAll_append (stamp : Int → Int) (samples : List Sample) (others : List Int) :
    stampAll samples ((samples.map (·.timestamp)).map stamp ++ others) =
      samples.map (·.stamped stamp) := by
  induction samples with
  | nil => rfl
  | cons sample rest ih =>
    rw [List.map_cons, List.map_cons, List.map_cons, ← ih]
    rfl

theorem stampAll_map (stamp : Int → Int) (samples : List Sample) :
    stampAll samples ((samples.map (·.timestamp)).map stamp) =
      samples.map (·.stamped stamp) := by
  have happend := stampAll_append stamp samples []
  rwa [List.append_nil] at happend

/-- What is left for the families that follow begins with the timestamps of the first of them. -/
theorem stampFamilies_map (stamp : Int → Int) (families : List (String × List Sample)) :
    stampFamilies (((families.flatMap (·.2)).map (·.timestamp)).map stamp) families =
      families.map fun family => (family.1, family.2.map (·.stamped stamp)) := by
  induction families with
  | nil => rfl
  | cons family rest ih =>
    obtain ⟨name, samples⟩ := family
    have hlength : ((samples.map (·.timestamp)).map stamp).length = samples.length := by
      rw [List.length_map, List.length_map]
    rw [List.flatMap_cons, List.map_append, List.map_append, stampFamilies, stampAll_append,
      List.drop_left' hlength, ih, List.map_cons]

/-! ### Transfers sample by sample -/

theorem load_eq_plan (store : Store) (document : Document) (filter : Option SeriesFilter)
    (mode : TimestampMode) (now : Int) :
    load store document filter mode now = (do
      let accepted := acceptedSamples document filter now
      let stamp ← mode.plan now (accepted.map (·.timestamp))
      let report : LoadReport :=
        ⟨accepted.length, document.observations.length - accepted.length,
          (SortedMap.distinct (accepted.map (·.labels.filedName))).length⟩
      .ok (report, document.help.foldl offerHelp
        (store.addAll (accepted.map (·.stamped stamp))))) := by
  rw [load]
  dsimp only
  rw [TimestampMode.rewrite_eq]
  cases mode.plan now ((acceptedSamples document filter now).map (·.timestamp)) with
  | error error => rfl
  | ok stamp =>
    have hnames : ((acceptedSamples document filter now).map
        (·.stamped stamp)).map (·.labels.filedName) =
          (acceptedSamples document filter now).map (·.labels.filedName) := by
      rw [List.map_map]
      rfl
    simp only [Except.map, bind, Except.bind, stampAll_map, List.length_map, hnames]

theorem save_eq_plan (store : Store) (filter : Option SeriesFilter) (mode : TimestampMode)
    (now : Int) :
    save store filter mode now = (do
      let families := families store filter
      let samples := families.flatMap (·.2)
      let stamp ← mode.plan now (samples.map (·.timestamp))
      .ok ⟨String.join (families.map fun family =>
        Exposition.familyText family.1 (store.helpFor family.1)
          (family.2.map (·.stamped stamp))),
        samples.length, families.length⟩) := by
  rw [save]
  dsimp only
  rw [TimestampMode.rewrite_eq]
  cases mode.plan now (((families store filter).flatMap (·.2)).map (·.timestamp)) with
  | error error => rfl
  | ok stamp =>
    simp only [Except.map, bind, Except.bind, stampFamilies_map]
    rw [List.map_map]
    rfl

end MetricBench.Edit
