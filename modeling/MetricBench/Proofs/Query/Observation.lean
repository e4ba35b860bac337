import MetricBench.Proofs.Edit.SnapshotObservations
import MetricBench.Proofs.Query.ExtremeElements
import MetricBench.Proofs.Query.Selectors
import MetricBench.Query.Engine

/-!
# Answers from observations

A query reads a store only through selections, and these depend only on what the store has observed.
So stores that have observed the same answer every query alike, and so do a store with plain values and
its reload from a snapshot.  The sign of a value that is not a number is not written, although the order of
values sees it.
-/

namespace MetricBench.Query

open Store (SameObservations matchingIn)

/-- Whether two stores answer every query alike: the same value or the same error, at every instant,
over every range and under all settings. -/
structure SameAnswers (first second : Store) : Prop where
  instant : ∀ settings query instant,
    instantQuery settings first query instant = instantQuery settings second query instant
  range : ∀ settings query start stop step,
    rangeQuery settings first query start stop step =
      rangeQuery settings second query start stop step

section

variable {first second : Store}

/-- An expression with the same value at every step has the same series over the range. -/
theorem evalRange_congr {settings : Settings} {expr : Expr} {start stop step : Int}
    (h : ∀ instant, expr.eval ⟨first, settings.lookbackMillis, instant, start, stop⟩ =
      expr.eval ⟨second, settings.lookbackMillis, instant, start, stop⟩) :
    evalRange settings first expr start stop step =
      evalRange settings second expr start stop step := by
  simp only [evalRange, h]

/-- Stores that give the same series to every selection make contexts that agree. -/
theorem agree_of_select_eq
    (h : ∀ matchers start stop,
      first.select matchers start stop = second.select matchers start stop)
    (lookback instant start stop : Int) (selectors : List Selector) :
    Context.Agree ⟨first, lookback, instant, start, stop⟩
      ⟨second, lookback, instant, start, stop⟩ selectors where
  instant := rfl
  lookback := rfl
  window selector _ width := by
    unfold Context.selectWindow
    refine bind_congr fun matchers => congrArg Except.ok ?_
    exact h matchers _ _

/-- Stores that give the same series to every selection answer every query alike. -/
theorem sameAnswers_of_select_eq
    (h : ∀ matchers start stop,
      first.select matchers start stop = second.select matchers start stop) :
    SameAnswers first second where
  instant settings query instant := by
    refine bind_congr fun expr => ?_
    exact Expr.eval_congr expr (agree_of_select_eq h _ _ _ _ _)
  range settings query start stop step := by
    refine bind_congr fun _ => bind_congr fun expr => ?_
    exact evalRange_congr fun _ => Expr.eval_congr expr (agree_of_select_eq h _ _ _ _ _)

end

/-- Buckets that have been arranged and have plain values answer as the store with plain values. -/
theorem sameAnswers_reloaded {store reloaded : Store} (h : store.Filed)
    (hbuckets : reloaded.buckets = store.arranged.plain.buckets) : SameAnswers store.plain reloaded := by
  have hselect := store.plain.sameObservations_arranged.select_eq h.plain h.plain.arranged
  refine sameAnswers_of_select_eq fun matchers start stop => ?_
  rw [hselect, Store.arranged_plain, Store.select, Store.matching, ← hbuckets]
  rfl

/-- Filed stores with the same observations answer every query alike, and so does a reading that
visits the buckets of either of them in another order.  A store whose names may be written has a snapshot,
and the reload of this has the same observations as the store with plain values.  So it answers every query
as the store itself when the values of this are plain: when those that are not numbers have no sign. -/
theorem answers_eq_of_sameObservations {first second : Store} (hfirst : first.Filed)
    (hsecond : second.Filed) (h : SameObservations first second) :
    SameAnswers first second ∧
      (∀ visits : List (String × List Sample),
        visits.Perm first.buckets.entries ∨ visits.Perm second.buckets.entries →
        ∀ matchers start stop,
          Series.ofSamples (matchingIn visits matchers start stop) =
            first.select matchers start stop) ∧
      (first.Writable → ∀ savedAt loadedAt, ∃ snapshot document report reloaded,
        Edit.save first none .keep savedAt = .ok snapshot ∧
        Exposition.read snapshot.text = .ok document ∧
        Edit.load .empty document none .keep loadedAt = .ok (report, reloaded) ∧
        SameAnswers first.plain reloaded ∧
        ((∀ sample ∈ first.samples, Number.plain sample.value = sample.value) →
          SameAnswers first reloaded)) := by
  have hselect := h.select_eq hfirst hsecond
  refine ⟨sameAnswers_of_select_eq hselect, ?visits, ?reloaded⟩
  case visits =>
    intro visits hvisits matchers start stop
    rcases hvisits with hperm | hperm
    · exact hfirst.ofSamples_matchingIn_eq hperm matchers start stop
    · rw [hselect]
      exact hsecond.ofSamples_matchingIn_eq hperm matchers start stop
  case reloaded =>
    intro hwritable savedAt loadedAt
    obtain ⟨snapshot, document, report, reloaded, hsave, hread, hload, hbuckets⟩ :=
      Edit.exists_reloaded hfirst hwritable savedAt loadedAt
    have hanswers := sameAnswers_reloaded hfirst hbuckets
    refine ⟨snapshot, document, report, reloaded, hsave, hread, hload, hanswers, fun hplain => ?_⟩
    rwa [Store.plain_eq_self hplain] at hanswers

/-- The arranged store holds its samples in another order and still has the same sums, and so does the
reload of a snapshot. -/
theorem unsorted_answers_as_arranged :
    Store.unsorted.Filed ∧ Store.unsorted.arranged.Filed ∧ Store.unsorted.Writable ∧
      SameObservations Store.unsorted Store.unsorted.arranged ∧
      rangeQuery .standard .unsorted "sum by (job) (up)" 0 3000 1000 =
        rangeQuery .standard Store.unsorted.arranged "sum by (job) (up)" 0 3000 1000 ∧
      ∃ snapshot document report reloaded,
        Edit.save .unsorted none .keep 0 = .ok snapshot ∧
        Exposition.read snapshot.text = .ok document ∧
        Edit.load .empty document none .keep 0 = .ok (report, reloaded) ∧
        rangeQuery .standard .unsorted "sum by (job) (up)" 0 3000 1000 =
          rangeQuery .standard reloaded "sum by (job) (up)" 0 3000 1000 := by
  have hfirst := Store.filed_unsorted
  have hsecond := hfirst.arranged
  have hwritable := Store.readable_unsorted.writable
  have hsame := Store.unsorted.sameObservations_arranged
  have hplain : ∀ sample ∈ Store.unsorted.samples, Number.plain sample.value = sample.value := by decide
  obtain ⟨hanswers, -, hreload⟩ := answers_eq_of_sameObservations hfirst hsecond hsame
  obtain ⟨snapshot, document, report, reloaded, hsave, hread, hload, -, hreloaded⟩ :=
    hreload hwritable 0 0
  exact ⟨hfirst, hsecond, hwritable, hsame, hanswers.range _ _ _ _ _, snapshot, document, report,
    reloaded, hsave, hread, hload, (hreloaded hplain).range _ _ _ _ _⟩

/-! ### A sign that is not written -/

/-- The targets of two zones at one instant, the first with a value that is not a number and has a sign. -/
def signedSamples : List Sample :=
  [("1", -.nan), ("2", 5)].map fun (zone, value) =>
    ⟨.ofList [(nameLabel, "up"), ("zone", zone)], value, 1000⟩

def signedStore : Store := Store.empty.addAll signedSamples

/-- What a selector of these targets finds for a zone. -/
def zoneUp (zone : String) (value : Double) : InstantSample :=
  ⟨.ofList [(nameLabel, "up"), ("zone", zone)], 1000, value⟩

theorem filed_signedStore : signedStore.Filed := Store.filed_empty.addAll signedSamples

theorem readable_signedStore : signedStore.Readable where
  filed := filed_signedStore
  metrics := by decide
  labels sample hsample label := by
    have hkeys : ∀ sample ∈ signedStore.samples, sample.labels.keys = [nameLabel, "zone"] := by decide
    exact Store.isLabelName_of_keys ⟨by decide, List.all_eq_true.mp (by decide)⟩ (hkeys sample hsample)
  help hhelp := nomatch hhelp
  timed := by decide

/-- The query for the one greatest element takes the first of two unless the second is better. -/
theorem instantQuery_greatest {store : Store} {instant : Int} {first second : InstantSample}
    (h : (⟨store, 300000, instant, instant, instant⟩ : Context).selectInstant
      ⟨some "up", [], [], .none⟩ = .ok [first, second]) :
    instantQuery .standard store "topk(1, up)" instant =
      .ok (.vector [if noWorse true first second then first else second]) := by
  let context : Context := ⟨store, 300000, instant, instant, instant⟩
  let targets : Expr := .selector ⟨some "up", [], [], .none⟩
  have hparse : parse "topk(1, up)" = .ok (.aggregateBy .topk none (.number 1) targets) := by cbv
  have htargets : targets.eval context = .ok (.vector [first, second]) := by
    rw [Expr.eval, h]
    rfl
  have hgroups : groups none [first, second] = [(.empty, [first, second])] := by rfl
  have hone : (Number.truncate 1).toNat = 1 := by rfl
  have hkept : selectGroups true 1 none [first, second] =
      [if noWorse true first second then first else second] := by
    rw [selectGroups, hgroups, List.flatMap_singleton, selectExtreme_eq_take, hone, ranked_pair]
    split <;> rfl
  calc instantQuery .standard store "topk(1, up)" instant
      = (Expr.aggregateBy .topk none (.number 1) targets).eval context := by
        rw [instantQuery, hparse]
        rfl
    _ = .ok (.vector (selectGroups true 1 none [first, second])) := by
        rw [eval_aggregateBy htargets]
        rfl
    _ = .ok (.vector [if noWorse true first second then first else second]) := by rw [hkept]

/-- Below every number in the order of values while it has its sign, the value is above them all once it has
been written and read again. -/
theorem sign_lost_by_reload :
    signedStore.Readable ∧ ∃ snapshot document report reloaded,
      Edit.save signedStore none .keep 0 = .ok snapshot ∧
      Exposition.read snapshot.text = .ok document ∧
      Edit.load .empty document none .keep 0 = .ok (report, reloaded) ∧
      instantQuery .standard signedStore "topk(1, up)" 1000 = .ok (.vector [zoneUp "2" 5]) ∧
      instantQuery .standard reloaded "topk(1, up)" 1000 = .ok (.vector [zoneUp "1" .nan]) ∧
      ¬ SameAnswers signedStore reloaded := by
  have hstored : instantQuery .standard signedStore "topk(1, up)" 1000 =
      .ok (.vector [zoneUp "2" 5]) := by
    have hselected : (⟨signedStore, 300000, 1000, 1000, 1000⟩ : Context).selectInstant
        ⟨some "up", [], [], .none⟩ = .ok [zoneUp "1" (-.nan), zoneUp "2" 5] := by
      with_unfolding_all rfl
    rw [instantQuery_greatest hselected, if_neg (by decide)]
  have hplain : instantQuery .standard signedStore.plain "topk(1, up)" 1000 =
      .ok (.vector [zoneUp "1" .nan]) := by
    have hselected : (⟨signedStore.plain, 300000, 1000, 1000, 1000⟩ : Context).selectInstant
        ⟨some "up", [], [], .none⟩ = .ok [zoneUp "1" .nan, zoneUp "2" 5] := by
      with_unfolding_all rfl
    rw [instantQuery_greatest hselected, if_pos (by decide)]
  obtain ⟨snapshot, document, report, reloaded, hsave, hread, hload, hbuckets⟩ :=
    Edit.exists_reloaded filed_signedStore readable_signedStore.writable 0 0
  have hreloaded : instantQuery .standard reloaded "topk(1, up)" 1000 =
      .ok (.vector [zoneUp "1" .nan]) :=
    ((sameAnswers_reloaded filed_signedStore hbuckets).instant _ _ _).symm.trans hplain
  refine ⟨readable_signedStore, snapshot, document, report, reloaded, hsave, hread, hload, hstored,
    hreloaded, fun hsame => ?_⟩
  have hanswers := hsame.instant .standard "topk(1, up)" 1000
  rw [hstored, hreloaded] at hanswers
  have helements := Value.vector.inj (Except.ok.inj hanswers)
  exact absurd (congrArg (·.map (·.value)) helements) (by decide)

end MetricBench.Query
