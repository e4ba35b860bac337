import MetricBench.Proofs.Edit.SnapshotObservations
import MetricBench.Proofs.Rules.Writable
import MetricBench.Proofs.Session.Run

/-!
# Snapshots of a run

Names come into a session with texts, with responses, with rules and by renaming.  Only a renaming
checks the name it brings, and a text only what stands before its label blocks.  After a run whose
texts, responses and rules bring names, all samples may stand in a snapshot, and every snapshot reads
as the samples that it was written from.
-/

namespace MetricBench

open Edit (notAfter)
open Exposition (IsLabelName isMetricName)
open Number (fitsSigned)
open Rules (RuleSet)

namespace Operation

/-- Whether the instants that an operation is handed are signed words. -/
def Timely : Operation → Prop
  | loadText wall _ _ | importResponse wall _ _ => fitsSigned wall = true
  | evaluateRules wall instant =>
    fitsSigned wall = true ∧ ∀ chosen ∈ instant, fitsSigned chosen = true
  | _ => True

/-- Whether an operation that brings in names unchecked brings in proper ones. -/
def Legible : Operation → Prop
  | loadText _ text _ => Exposition.LegibleText text
  | importResponse _ text _ => QueryResponse.LegibleResponse text
  | activateRules files source =>
    ∀ rules, RuleSet.ofSource files source = .ok rules → ∀ rule ∈ rules.rules, rule.Legible
  | _ => True

end Operation

namespace Session

/-- Whether what a session holds may stand in a snapshot, and what its rules write too. -/
structure Writable (session : Session) : Prop where
  store : session.store.Writable
  rules : ∀ rules ∈ session.rules, ∀ rule ∈ rules.rules, rule.Legible
  clock : ∀ instant ∈ session.clock.pinned, fitsSigned instant = true

variable {session : Session}

theorem writable_start (settings : Query.Settings) {clock : Time.Clock}
    (h : ∀ instant ∈ clock.pinned, fitsSigned instant = true) :
    (start settings clock).Writable where
  store := Store.writable_empty
  rules _ hrules := nomatch hrules
  clock := h

theorem Writable.fitsSigned_now (h : session.Writable) {wall : Int}
    (hwall : fitsSigned wall = true) : fitsSigned (session.now wall) = true := by
  unfold now Time.Clock.now
  cases hpinned : session.clock.pinned with
  | none => exact hwall
  | some instant => exact h.clock instant hpinned

theorem Writable.runPass (h : session.Writable) {rules : RuleSet}
    (hrules : ∀ rule ∈ rules.rules, rule.Legible) {instant : Int}
    (hinstant : fitsSigned instant = true) : (session.runPass rules instant).session.Writable where
  store := Rules.writable_passFrom session.settings hinstant hrules .zero h.store
  rules := h.rules
  clock := h.clock

theorem Writable.ingest (h : session.Writable) {wall : Int} (hwall : fitsSigned wall = true)
    {document : Document} (hdocument : document.Writable) {options : TransferOptions}
    {answered : Answered IngestReport}
    (hingest : session.ingest wall document options = .ok answered) :
    answered.session.Writable := by
  have hnow := h.fitsSigned_now hwall
  unfold Session.ingest at hingest
  obtain ⟨⟨report, store⟩, hload, hpass⟩ := bind_eq_ok_iff.mp hingest
  have hloaded : Writable { session with store := store } :=
    ⟨Edit.writable_load h.store hdocument hnow hload, h.rules, h.clock⟩
  dsimp only at hpass
  split at hpass
  · cases hpass
    exact hloaded
  · cases hpass
    exact hloaded.runPass (h.rules _ (by assumption)) hnow

/-- One operation with proper names and instants keeps a session writable. -/
theorem Writable.perform (h : session.Writable) {operation : Operation}
    (htimely : operation.Timely) (hlegible : operation.Legible) :
    (session.perform operation).Writable := by
  cases operation with
  | loadText wall text options =>
    refine orUnchanged_of Writable h fun answered hload => ?_
    obtain ⟨document, hread, hingest⟩ := bind_eq_ok_iff.mp hload
    have hdocument := Exposition.yields_read hlegible document (Error.lift_eq_ok_iff.mp hread)
    exact h.ingest htimely hdocument (Error.lift_eq_ok_iff.mp hingest)
  | importResponse wall text options =>
    refine orUnchanged_of Writable h fun answered hload => ?_
    obtain ⟨document, hread, hingest⟩ := bind_eq_ok_iff.mp hload
    have hdocument := QueryResponse.yields_read hlegible document hread
    exact h.ingest htimely hdocument (Error.lift_eq_ok_iff.mp hingest)
  | dropSeries filter => exact ⟨h.store.retain _, h.rules, h.clock⟩
  | keepSeries filter => exact ⟨h.store.retain _, h.rules, h.clock⟩
  | rename old new =>
    refine orUnchanged_of Writable h fun answer hrename => ?_
    obtain ⟨⟨count, store⟩, hmoved, hanswer⟩ := bind_eq_ok_iff.mp hrename
    cases hanswer
    exact ⟨Edit.writable_rename h.store hmoved, h.rules, h.clock⟩
  | seed random metric steps step =>
    refine orUnchanged_of Writable h fun answer hseed => ?_
    obtain ⟨⟨report, store⟩, hseeded, hanswer⟩ := bind_eq_ok_iff.mp hseed
    cases hanswer
    exact ⟨Edit.writable_seed h.store hseeded, h.rules, h.clock⟩
  | activateRules files source =>
    refine orUnchanged_of Writable h fun answer hactivate => ?_
    obtain ⟨rules, hrules, hanswer⟩ := bind_eq_ok_iff.mp hactivate
    cases hanswer
    refine ⟨h.store, fun others hothers => ?_, h.clock⟩
    cases hothers
    exact hlegible rules hrules
  | evaluateRules wall instant =>
    refine orUnchanged_of Writable h fun answered hevaluate => ?_
    have hinstant : fitsSigned (instant.getD (session.now wall)) = true := by
      cases instant with
      | none => exact h.fitsSigned_now htimely.1
      | some chosen => exact htimely.2 chosen rfl
    unfold evaluateRules at hevaluate
    split at hevaluate
    · cases hevaluate
    · cases hevaluate
      exact h.runPass (h.rules _ (by assumption)) hinstant
  | clear => exact ⟨Store.writable_empty, h.rules, h.clock⟩

theorem Writable.after (h : session.Writable) {run : List Operation}
    (hrun : ∀ operation ∈ run, operation.Timely ∧ operation.Legible) :
    (session.after run).Writable := by
  induction run generalizing session with
  | nil => exact h
  | cons operation rest ih =>
    obtain ⟨⟨htimely, hlegible⟩, hrest⟩ := List.forall_mem_cons.mp hrun
    exact ih (h.perform htimely hlegible) hrest

/-- The snapshot of a session with a filed store of writable samples reads as these samples with plain
values. -/
theorem Writable.save_read (h : session.Writable) (hfiled : session.store.Filed) (wall : Int) :
    ∃ snapshot document, session.save wall .none = .ok snapshot ∧
      Exposition.read snapshot.text = .ok document ∧
      document.observations = session.store.arranged.plain.samples.map Sample.observation := by
  obtain ⟨document, hread, hobservations⟩ := hfiled.arranged.read_text h.store.arranged
  exact ⟨_, document, Edit.save_eq hfiled _, hread, hobservations⟩

/-- After a run that is handed signed words as instants and brings in metric names and label names
only, whether with texts, responses or rules, the buckets have metric names and all labels have label
names.  Then a snapshot is always read without an error, as so many samples as there are, and under
each name as the samples of its bucket in their order, with plain values. -/
theorem snapshots_readable (settings : Query.Settings) {clock : Time.Clock}
    (hclock : ∀ instant ∈ clock.pinned, fitsSigned instant = true) {run : List Operation}
    (hrun : ∀ operation ∈ run, operation.Timely ∧ operation.Legible) :
    let session := (start settings clock).after run
    (∀ name ∈ session.store.metricNames, isMetricName name.toList = true) ∧
      (∀ sample ∈ session.store.samples, ∀ label ∈ sample.labels.keys, IsLabelName label) ∧
      ∀ wall, ∃ snapshot document, session.save wall .none = .ok snapshot ∧
        Exposition.read snapshot.text = .ok document ∧
        document.observations.length = session.store.sampleCount ∧
        ∀ name, (document.observations.filter fun observation =>
            observation.labels.filedName = name) =
          ((session.store.bucket name).mergeSort notAfter).map (·.plain.observation) := by
  intro session
  have hfiled : session.store.Filed := filed_after Store.filed_empty run
  have hwritable : session.Writable := (writable_start settings hclock).after hrun
  refine ⟨fun name hname => hfiled.isMetricName hwritable.store hname,
    fun sample hsample => (hwritable.store sample hsample).labels.names, fun wall => ?_⟩
  obtain ⟨snapshot, document, hsave, hread, hobservations⟩ := hwritable.save_read hfiled wall
  refine ⟨snapshot, document, hsave, hread, ?_, fun name => ?_⟩
  · calc document.observations.length
      _ = session.store.arranged.sampleCount := by
        rw [hobservations, List.length_map, Store.samples_plain, List.length_map, Store.sampleCount]
      _ = session.store.sampleCount := Store.sampleCount_arranged _
  · rw [hobservations, hfiled.arranged.plain.filter_observations, Store.bucket_plain,
      Store.bucket_arranged, List.map_map]
    rfl

/-- A text with help that does not keep its ends, a label block, and a line without one. -/
def targets : String := "# HELP up Targets \\n\nup\x7bjob=\"a\"\x7d 1 1000\nup 0\n"

theorem legible_targets : Exposition.LegibleText targets := by
  have hlines : Text.lines targets.toList = ["# HELP up Targets \\n".toList,
      "up\x7bjob=\"a\"\x7d 1 1000".toList, "up 0".toList, []] := by decide
  have hplain {line : List Char}
      (h : (Text.cutBefore (fun c => c == '\x7b' || Text.isBlank c)
        (Text.trimChars line)).2.head? ≠ some '\x7b') :
      Exposition.BlockLegible (Text.trimChars line) := by
    intro block hblock
    rw [hblock] at h
    exact absurd rfl h
  intro line hline hcomment
  rw [hlines] at hline
  simp only [List.mem_cons, List.not_mem_nil, or_false] at hline
  rcases hline with rfl | rfl | rfl | rfl
  · exact absurd (by decide) hcomment
  · intro block hblock size found rest hread
    have hcut : (Text.cutBefore (fun c => c == '\x7b' || Text.isBlank c)
        (Text.trimChars "up\x7bjob=\"a\"\x7d 1 1000".toList)).2 =
          '\x7b' :: "job=\"a\"\x7d 1 1000".toList := by decide
    have hnames : ∀ binding ∈ [("job", "a")], IsLabelName binding.1 :=
      List.forall_mem_singleton.mpr ⟨by decide, List.all_eq_true.mp (by decide)⟩
    have hbindings := Exposition.readLabels_bindings hnames size " 1 1000".toList .empty
    cases hcut.symm.trans hblock
    cases hbindings.symm.trans hread
    decide
  · exact hplain (by decide)
  · exact hplain (by decide)

/-- A run that loads the text, renames its metric and asks for a pass without rules. -/
def renameRun : List Operation :=
  [.loadText 0 targets .none, .rename "up" "node:up", .evaluateRules 5 (some 7)]

/-- What was loaded and renamed is read back. -/
theorem renameRun_readable :
    (∀ operation ∈ renameRun, operation.Timely ∧ operation.Legible) ∧
      let session := (start .standard .following).after renameRun
      ∃ snapshot document, session.save 0 .none = .ok snapshot ∧
        Exposition.read snapshot.text = .ok document ∧
        document.observations.length = session.store.sampleCount := by
  have hzero : fitsSigned 0 = true := by decide
  have hpass : (Operation.evaluateRules 5 (some 7)).Timely :=
    ⟨by decide, by rintro _ ⟨rfl⟩; decide⟩
  have hrun : ∀ operation ∈ renameRun, operation.Timely ∧ operation.Legible :=
    List.forall_mem_cons.mpr ⟨⟨hzero, legible_targets⟩, List.forall_mem_cons.mpr
      ⟨⟨trivial, trivial⟩, List.forall_mem_singleton.mpr ⟨hpass, trivial⟩⟩⟩
  have hclock : ∀ instant ∈ Time.Clock.following.pinned, fitsSigned instant = true :=
    fun _ hinstant => by cases hinstant
  obtain ⟨-, -, hsaved⟩ := snapshots_readable .standard hclock hrun
  obtain ⟨snapshot, document, hsave, hread, hlength, -⟩ := hsaved 0
  exact ⟨hrun, snapshot, document, hsave, hread, hlength⟩

/-! ### A name that comes in unchecked -/

/-- A sample line whose label block gives another metric name than the one in front. -/
def misnamedLine : List Char := "up\x7b__name__=\"node up\"\x7d 1 1000".toList

theorem readLine_misnamed : ∃ value, Exposition.readLine misnamedLine =
    .ok ⟨[⟨Labels.named .empty "node up", value, some 1000⟩], []⟩ := by
  obtain ⟨value, hfields⟩ : ∃ value,
      Exposition.readFields " 1 1000".toList = .ok (value, some 1000) := ⟨_, rfl⟩
  have htrim : Text.trimChars misnamedLine = misnamedLine := by decide
  have hcut : Text.cutBefore (fun c => c == '\x7b' || Text.isBlank c) misnamedLine =
      ("up".toList, '\x7b' :: "__name__=\"node up\"\x7d 1 1000".toList) := by decide
  have hnames : ∀ binding ∈ [(nameLabel, "node up")], IsLabelName binding.1 :=
    List.forall_mem_singleton.mpr isLabelName_nameLabel
  have hlabels (size : Nat) :
      Exposition.readLabels size "__name__=\"node up\"\x7d 1 1000".toList
        (Labels.named .empty "up") = .ok (Labels.named .empty "node up", " 1 1000".toList) :=
    Exposition.readLabels_bindings hnames size " 1 1000".toList _
  have hsample : Exposition.readSampleLine misnamedLine =
      .ok ⟨Labels.named .empty "node up", value, some 1000⟩ := by
    rw [Exposition.readSampleLine, hcut]
    change (Exposition.readLabels _ _ _).bind _ = _
    rw [String.ofList_toList, hlabels]
    dsimp only [Except.bind]
    rw [hfields]
    rfl
  refine ⟨value, ?_⟩
  rw [Exposition.readLine, htrim]
  change (Exposition.readSampleLine misnamedLine).map _ = _
  rw [hsample]
  rfl

/-- The line is loaded, and its sample is filed under what is no metric name. -/
theorem misnamed_filed :
    let session := (start .standard .following).after [.loadText 0 (.ofList misnamedLine) .none]
    "node up" ∈ session.store.metricNames ∧ isMetricName "node up".toList = false := by
  obtain ⟨value, hline⟩ := readLine_misnamed
  have hlines : Text.lines (String.ofList misnamedLine).toList = [misnamedLine] := by decide
  have hread : Exposition.read (.ofList misnamedLine) =
      .ok ⟨[⟨Labels.named .empty "node up", value, some 1000⟩], []⟩ := by
    rw [Exposition.read, hlines, Exposition.readLines, hline]
    rfl
  refine ⟨?_, by decide⟩
  rw [Session.after, List.foldl_cons, List.foldl_nil, perform, loadText, hread]
  exact List.mem_singleton_self _

end Session

end MetricBench
