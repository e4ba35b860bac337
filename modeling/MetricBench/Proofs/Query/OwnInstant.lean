import MetricBench.Proofs.Query.NewestSamples

/-!
# Samples at the instant of a query

What was observed at the instant of a query is the newest that there can be, so a selector finds all of
it, as long as the window of the lookback holds its own end.  A lookback is accepted when it is not
nothing, but it is counted in whole milliseconds: a shorter one leaves an empty window.  The window is
also empty at the least instant, where it would have to start before all instants.
-/

namespace MetricBench.Query

open Number (clampSigned greatestSigned leastSigned)
open SortedMap (StrictlyIncreasing)

/-! ### Lookbacks -/

theorem Settings.custom_eq_ok_iff {lookback timeout : Option Nat} {settings : Settings} :
    custom lookback timeout = .ok settings ↔
      lookback ≠ some 0 ∧ timeout ≠ some 0 ∧
        settings = ⟨lookback.getD standard.lookback, timeout.getD standard.timeout⟩ := by
  unfold custom
  split_ifs with hlookback htimeout
  · simp [hlookback]
  · simp [htimeout]
  · simp [hlookback, htimeout, eq_comm]

/-- A lookback counts from a millisecond on. -/
theorem Settings.lookbackMillis_pos_iff {settings : Settings} :
    0 < settings.lookbackMillis ↔ 1000000 ≤ settings.lookback := by
  unfold lookbackMillis clampSigned leastSigned greatestSigned
  omega

/-- The window of a lookback holds its end when the lookback counts and the end is not the least
instant. -/
theorem oldest_lt_iff {settings : Settings} {instant : Int} :
    max (instant - settings.lookbackMillis) leastSigned < instant ↔
      1000000 ≤ settings.lookback ∧ leastSigned < instant := by
  rw [← Settings.lookbackMillis_pos_iff, max_lt_iff, sub_lt_self_iff]

/-! ### The newest instant of all -/

/-- A label set that fits a selector tells that the patterns of the selector can be read. -/
theorem Selector.Fits.compiles {selector : Selector} {labels : Labels}
    (h : selector.Fits labels) : selector.Compiles := by
  rintro ⟨name, op, value⟩ hcondition hop
  have hmeets := h.2 _ hcondition
  rcases hop with rfl | rfl
  · exact hmeets.imp fun _ hpattern => hpattern.1
  · exact hmeets.imp fun _ hpattern => hpattern.1

section

variable {store : Store} {labels : Labels} {instant : Int}

theorem newestInstant?_own {oldest : Int} (holdest : oldest < instant)
    (hstored : ∃ sample ∈ store.samples, sample.labels = labels ∧ sample.timestamp = instant) :
    store.newestInstant? labels oldest instant = some instant :=
  Store.newestInstant?_eq_some_iff.mpr
    ⟨⟨holdest, Int.le_refl instant, hstored⟩, fun _ _ _ hbefore => hbefore⟩

variable (settings : Settings) {selector : Selector}

/-- The vector of a selector without timing, label set by label set. -/
theorem evalInstant_selector (hfiled : store.Filed) (htiming : selector.timing = .none)
    (hcompiles : selector.Compiles) (instant : Int) :
    let oldest := max (instant - settings.lookbackMillis) leastSigned
    ∃ found, StrictlyIncreasing found ∧
      (∀ labels, labels ∈ found ↔ selector.Fits labels ∧ ∃ sample ∈ store.samples,
        sample.labels = labels ∧ oldest < sample.timestamp ∧ sample.timestamp ≤ instant) ∧
      evalInstant settings store (.selector selector) instant =
        .ok (.vector (found.flatMap (newestElements store oldest instant))) := by
  let context : Context := ⟨store, settings.lookbackMillis, instant, instant, instant⟩
  have hinstant : selector.timing.readingInstant context = instant := by
    rw [htiming]
    exact Int.sub_zero _
  have hnewest := @Context.exists_newest context selector hfiled hcompiles
  rw [hinstant] at hnewest
  exact hnewest

/-- Where the window does not hold its end it holds nothing. -/
theorem evalInstant_selector_eq_nil (hfiled : store.Filed) (htiming : selector.timing = .none)
    (hcompiles : selector.Compiles)
    (hempty : ¬ (1000000 ≤ settings.lookback ∧ leastSigned < instant)) :
    evalInstant settings store (.selector selector) instant = .ok (.vector []) := by
  obtain ⟨found, -, hfound, hvector⟩ :=
    evalInstant_selector settings hfiled htiming hcompiles instant
  rw [← oldest_lt_iff] at hempty
  have hnone : found = [] := List.eq_nil_iff_forall_not_mem.mpr fun labels hlabels => by
    obtain ⟨-, sample, -, -, hafter, hbefore⟩ := (hfound labels).mp hlabels
    exact hempty (Int.lt_of_lt_of_le hafter hbefore)
  rw [hvector, hnone]
  rfl

end

/-- With any lookback that is accepted and lasts a millisecond at least, a selector without timing sees
at every instant but the least one all that a store has observed there for a label set that fits the
selector, in the order in which it came, and nothing else for this label set.  With a shorter lookback
it sees nothing at all, and the same is true of the least instant.  (At the greatest instant the start
of the window of a shorter lookback is no signed word.)  Whether there is help for metrics without
samples plays no part. -/
theorem selector_sees_own_instant {lookback timeout : Option Nat} {settings : Settings}
    {store : Store} {selector : Selector} {labels : Labels} {instant : Int}
    (hsettings : Settings.custom lookback timeout = .ok settings)
    (hfiled : Store.Filed { store with help := .empty }) (htiming : selector.timing = .none)
    (hfits : selector.Fits labels)
    (hstored : ∃ sample ∈ store.samples, sample.labels = labels ∧ sample.timestamp = instant) :
    let width := lookback.getD Settings.standard.lookback
    ∃ vector, evalInstant settings store (.selector selector) instant = .ok (.vector vector) ∧
      (1000000 ≤ width → leastSigned < instant →
        (vector.filter fun element => element.labels = labels) =
          elementsAt store labels instant) ∧
      (width < 1000000 ∧ instant < greatestSigned ∨ instant = leastSigned → vector = []) := by
  intro width
  have hwidth : settings.lookback = width := by
    rw [(Settings.custom_eq_ok_iff.mp hsettings).2.2]
  obtain ⟨found, hincreasing, hfound, hvector⟩ :=
    evalInstant_selector settings hfiled htiming hfits.compiles instant
  refine ⟨_, hvector, fun hcounts hinstant => ?seen, fun hempty => ?unseen⟩
  case seen =>
    have holdest := oldest_lt_iff.mpr ⟨hwidth.symm ▸ hcounts, hinstant⟩
    obtain ⟨sample, hsample, hlabels, htimestamp⟩ := hstored
    have hmem : labels ∈ found := (hfound labels).mpr
      ⟨hfits, sample, hsample, hlabels, htimestamp.symm ▸ holdest, Int.le_of_eq htimestamp⟩
    have hnewest : Store.newestInstant? { store with help := .empty } labels
        (max (instant - settings.lookbackMillis) leastSigned) instant = some instant :=
      newestInstant?_own holdest ⟨sample, hsample, hlabels, htimestamp⟩
    rw [filter_flatMap_of_mem hincreasing (fun _ _ => labels_of_mem_newestElements) hmem,
      newestElements, hnewest]
    rfl
  case unseen =>
    have hnot : ¬ (1000000 ≤ settings.lookback ∧ leastSigned < instant) := by omega
    have hnil := evalInstant_selector_eq_nil settings hfiled htiming hfits.compiles hnot
    exact Value.vector.inj (Except.ok.inj (hvector.symm.trans hnil))

theorem up_mem_mixed : ⟨.ofList [(nameLabel, "up")], 4, 1000⟩ ∈ Store.mixed.samples := by
  rw [samples_mixed]
  exact .tail _ (.tail _ (.tail _ (.head _)))

/-- With a lookback of a millisecond both samples of one instant are seen there. -/
theorem selector_sees_mixed_instant :
    let brief : Settings := ⟨1000000, Settings.standard.timeout⟩
    let up : Selector := ⟨some "up", [], [], .none⟩
    let plain : Labels := .ofList [(nameLabel, "up")]
    Settings.custom (some 1000000) none = .ok brief ∧
      Store.Filed { Store.mixed with help := .empty } ∧ up.timing = .none ∧ up.Fits plain ∧
      ⟨plain, 4, 1000⟩ ∈ Store.mixed.samples ∧ leastSigned < 1000 ∧
      ∃ vector, evalInstant brief .mixed (.selector up) 1000 = .ok (.vector vector) ∧
        (vector.filter fun element => element.labels = plain) =
          [⟨plain, 1000, 4⟩, ⟨plain, 1000, 5⟩] := by
  intro brief up plain
  have hsettings : Settings.custom (some 1000000) none = .ok brief := by rfl
  have hfiled : Store.Filed { Store.mixed with help := .empty } :=
    Store.filed_empty.addAll Store.mixedSamples
  have hfits : up.Fits plain := Selector.fits_name_iff.mpr rfl
  have hobserved : elementsAt .mixed plain 1000 = [⟨plain, 1000, 4⟩, ⟨plain, 1000, 5⟩] := by
    rw [elementsAt, Store.observed, samples_mixed]
    rfl
  have hlater : leastSigned < 1000 := by decide
  obtain ⟨vector, hvector, hseen, -⟩ :=
    selector_sees_own_instant hsettings hfiled (rfl : up.timing = .none) hfits
      ⟨_, up_mem_mixed, rfl, rfl⟩
  exact ⟨hsettings, hfiled, rfl, hfits, up_mem_mixed, hlater, vector, hvector,
    (hseen (by decide) hlater).trans hobserved⟩

/-- A sample at the least instant. -/
def leastSample : Sample := ⟨.ofList [(nameLabel, "up")], 1, leastSigned⟩

/-- Half a millisecond of lookback is accepted, and hides a sample at the instant of the query.  The
standard lookback hides one at the least instant. -/
theorem selector_misses_own_instant :
    let brief : Settings := ⟨500000, Settings.standard.timeout⟩
    let up : Selector := ⟨some "up", [], [], .none⟩
    let plain : Labels := .ofList [(nameLabel, "up")]
    up.timing = .none ∧ up.Fits plain ∧
      (Settings.custom (some 500000) none = .ok brief ∧ Store.mixed.Filed ∧
        ⟨plain, 4, 1000⟩ ∈ Store.mixed.samples ∧
        evalInstant brief .mixed (.selector up) 1000 = .ok (.vector [])) ∧
      (Store.Filed (.addAll .empty [leastSample]) ∧
        ⟨plain, 1, leastSigned⟩ ∈ Store.samples (.addAll .empty [leastSample]) ∧
        evalInstant .standard (.addAll .empty [leastSample]) (.selector up) leastSigned =
          .ok (.vector [])) := by
  intro brief up plain
  have hcompiles : up.Compiles := Selector.compiles_name "up"
  have hmixed : Store.mixed.Filed := Store.filed_empty.addAll Store.mixedSamples
  have hleast : Store.Filed (.addAll .empty [leastSample]) := Store.filed_empty.addAll [leastSample]
  refine ⟨rfl, Selector.fits_name_iff.mpr rfl, ⟨by rfl, hmixed, up_mem_mixed, ?brief⟩,
    ⟨hleast, .head _, ?least⟩⟩
  case brief => exact evalInstant_selector_eq_nil _ hmixed rfl hcompiles (by decide)
  case least => exact evalInstant_selector_eq_nil _ hleast rfl hcompiles (by decide)

end MetricBench.Query
