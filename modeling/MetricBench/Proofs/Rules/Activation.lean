import MetricBench.Proofs.Session.Run

/-!
# Active rules

The files of a rule set are walked once.  Every rule that passes its check is put into its group and noted
by what it is called, so what has been noted agrees with the rules that are listed, however the walk is cut
into files and groups.  A walk comes to its end exactly when every entry makes a rule, and a session keeps
the rules of the last walk that did.
-/

namespace MetricBench.Rules

open Files (FileTree)

/-! ### Walks -/

section

variable {ε σ α β : Type} {step : σ → α → Except ε σ}

theorem foldlM_cons_eq_ok_iff {head : α} {rest : List α} {state last : σ} :
    (head :: rest).foldlM step state = .ok last ↔
      ∃ next, step state head = .ok next ∧ rest.foldlM step next = .ok last := by
  rw [List.foldlM_cons]
  exact bind_eq_ok_iff

/-- A walk comes to its end when its elements let every step succeed. -/
theorem exists_foldlM_eq_ok_iff {fine : α → Prop}
    (hstep : ∀ state element, (∃ next, step state element = .ok next) ↔ fine element) (state : σ)
    (elements : List α) :
    (∃ last, elements.foldlM step state = .ok last) ↔ ∀ element ∈ elements, fine element := by
  induction elements generalizing state with
  | nil => exact iff_of_true ⟨state, rfl⟩ (List.forall_mem_nil _)
  | cons head rest ih =>
    simp only [foldlM_cons_eq_ok_iff]
    rw [List.forall_mem_cons, ← hstep state head]
    constructor
    · rintro ⟨last, next, hnext, hrest⟩
      exact ⟨⟨next, hnext⟩, (ih next).mp ⟨last, hrest⟩⟩
    · rintro ⟨⟨next, hnext⟩, hfine⟩
      obtain ⟨last, hrest⟩ := (ih next).mpr hfine
      exact ⟨last, next, hnext, hrest⟩

/-- What its steps add to a state one by one, a walk adds in a row. -/
theorem exists_added {makes : α → β → Prop} (grown : σ → List β → σ → Prop)
    (hnone : ∀ state, grown state [] state)
    (hcons : ∀ {state next last added more}, grown state [added] next → grown next more last →
      grown state ([added] ++ more) last)
    (hstep : ∀ {state element next}, step state element = .ok next →
      ∃ added, makes element added ∧ grown state [added] next)
    {state last : σ} {elements : List α} (h : elements.foldlM step state = .ok last) :
    ∃ added, List.Forall₂ makes elements added ∧ grown state added last := by
  induction elements generalizing state with
  | nil =>
    cases h
    exact ⟨[], .nil, hnone _⟩
  | cons head rest ih =>
    obtain ⟨next, hnext, hrest⟩ := foldlM_cons_eq_ok_iff.mp h
    obtain ⟨added, hmakes, hadded⟩ := hstep hnext
    obtain ⟨more, hothers, hmore⟩ := ih hrest
    exact ⟨added :: more, .cons hmakes hothers, hcons hadded hmore⟩

end

/-! ### Entries -/

/-- Whether an entry is called by a name as a rule of a kind, and as one of no other. -/
def RuleEntry.IsCalled (entry : RuleEntry) (name : String) : RuleKind → Prop
  | .recording => entry.record = some name ∧ entry.alert = none
  | .alerting => entry.record = none ∧ entry.alert = some name

/-- Whether a text has a character that is not a blank. -/
def HasVisible (text : String) : Prop := ∃ c ∈ text.toList, Text.isBlank c = false

/-- Whether an entry can be made a rule: it is called in one way, and neither its name nor its expression
is blank. -/
structure RuleEntry.Proper (entry : RuleEntry) : Prop where
  called : ∃ kind name, entry.IsCalled name kind ∧ HasVisible name
  expr : HasVisible entry.expr

/-- The rule that an entry stands for. -/
structure RuleEntry.Makes (entry : RuleEntry) (rule : Rule) : Prop where
  called : entry.IsCalled rule.name rule.kind
  expr : rule.expr = entry.expr
  labels : rule.labels = entry.labels
  annotations : rule.annotations = entry.annotations

theorem not_hasVisible_iff {text : String} :
    ¬ HasVisible text ↔ text.toList.all Text.isBlank = true := by
  rw [HasVisible, List.all_eq_true]
  push Not
  simp only [ne_eq, Bool.not_eq_false]

theorem title_eq_ok_iff {entry : RuleEntry} {kind : RuleKind} {name : String} :
    Rule.title entry = .ok (kind, name) ↔ entry.IsCalled name kind := by
  rw [Rule.title]
  cases hrecord : entry.record with
  | none =>
    cases halert : entry.alert with
    | none => cases kind <;> simp [RuleEntry.IsCalled, hrecord, halert]
    | some alert => cases kind <;> simp [RuleEntry.IsCalled, hrecord, halert]
  | some record =>
    cases halert : entry.alert with
    | none => cases kind <;> simp [RuleEntry.IsCalled, hrecord, halert]
    | some alert => cases kind <;> simp [RuleEntry.IsCalled, hrecord, halert]

/-- A check passes entries that can be made rules, and makes the rules that they stand for. -/
theorem ofEntry_eq_ok_iff {entry : RuleEntry} {rule : Rule} :
    Rule.ofEntry entry = .ok rule ↔
      entry.Makes rule ∧ HasVisible rule.name ∧ HasVisible entry.expr := by
  rw [Rule.ofEntry, bind_eq_ok_iff]
  constructor
  · rintro ⟨⟨kind, name⟩, htitle, hchecked⟩
    dsimp only at hchecked
    split_ifs at hchecked with hname hexpr
    rw [← not_hasVisible_iff, not_not] at hname hexpr
    cases hchecked
    exact ⟨⟨title_eq_ok_iff.mp htitle, rfl, rfl, rfl⟩, hname, hexpr⟩
  · rintro ⟨⟨hcalled, hsame, hlabels, hannotations⟩, hname, hexpr⟩
    refine ⟨(rule.kind, rule.name), title_eq_ok_iff.mpr hcalled, ?_⟩
    dsimp only
    rw [if_neg (mt not_hasVisible_iff.mpr (not_not.mpr hname)),
      if_neg (mt not_hasVisible_iff.mpr (not_not.mpr hexpr)), ← hsame, ← hlabels, ← hannotations]

theorem exists_ofEntry_iff {entry : RuleEntry} :
    (∃ rule, Rule.ofEntry entry = .ok rule) ↔ entry.Proper := by
  simp only [ofEntry_eq_ok_iff]
  constructor
  · rintro ⟨rule, hmakes, hname, hexpr⟩
    exact ⟨⟨rule.kind, rule.name, hmakes.called, hname⟩, hexpr⟩
  · rintro ⟨⟨kind, name, hcalled, hname⟩, hexpr⟩
    exact ⟨⟨kind, name, entry.expr, entry.labels, entry.annotations⟩, ⟨hcalled, rfl, rfl, rfl⟩,
      hname, hexpr⟩

/-- The group that an entry of a file stands for. -/
structure GroupEntry.Makes (file : String) (entry : GroupEntry) (group : Group) : Prop where
  file : group.file = file
  name : group.name = entry.name
  rules : List.Forall₂ RuleEntry.Makes entry.rules group.rules

namespace Roster

/-! ### Growth -/

/-- How a roster grows: files and groups stand behind those before, and the rules that have come are noted
by what they are called. -/
structure Grown (before : Roster) (files : List String) (groups : List Group) (rules : List Rule)
    (after : Roster) : Prop where
  files : after.files = before.files ++ files
  groups : after.groups = before.groups ++ groups
  names : ∀ name, name ∈ after.recordingNames.keys ↔ name ∈ before.recordingNames.keys ∨
    ∃ rule ∈ rules, rule.kind = .recording ∧ rule.name = name
  alerts : after.alerts = before.alerts ++
    (rules.filter fun rule => rule.kind == .alerting).map fun rule => (rule.name, rule.expr)

theorem Grown.refl (roster : Roster) : roster.Grown [] [] [] roster where
  files := (List.append_nil _).symm
  groups := (List.append_nil _).symm
  names name := by simp
  alerts := (List.append_nil _).symm

theorem Grown.append {first second third : Roster} {files moreFiles : List String}
    {groups moreGroups : List Group} {rules moreRules : List Rule}
    (h : first.Grown files groups rules second)
    (hmore : second.Grown moreFiles moreGroups moreRules third) :
    first.Grown (files ++ moreFiles) (groups ++ moreGroups) (rules ++ moreRules) third where
  files := by rw [hmore.files, h.files, List.append_assoc]
  groups := by rw [hmore.groups, h.groups, List.append_assoc]
  names name := by
    rw [hmore.names, h.names, or_assoc]
    simp only [List.mem_append, or_and_right, exists_or]
  alerts := by
    rw [hmore.alerts, h.alerts, List.filter_append, List.map_append, List.append_assoc]

/-- Noting a rule keeps its name if it records, and its name and expression if it is an alert. -/
theorem grown_note (roster : Roster) (rule : Rule) : roster.Grown [] [] [rule] (roster.note rule) := by
  obtain ⟨kind, name, expr, labels, annotations⟩ := rule
  cases kind with
  | recording =>
    refine ⟨(List.append_nil _).symm, (List.append_nil _).symm, fun other => ?_,
      (List.append_nil _).symm⟩
    change other ∈ (roster.recordingNames.insert name ()).keys ↔ _
    rw [SortedMap.mem_keys_insert]
    simp [or_comm, eq_comm]
  | alerting =>
    refine ⟨(List.append_nil _).symm, (List.append_nil _).symm, fun other => ?_, rfl⟩
    change other ∈ roster.recordingNames.keys ↔ _
    simp

theorem exists_addRule {file group : String} {state next : Roster × List Rule} {entry : RuleEntry}
    (h : addRule file group state entry = .ok next) :
    ∃ rule, entry.Makes rule ∧ state.1.Grown [] [] [rule] next.1 ∧ next.2 = state.2 ++ [rule] := by
  obtain ⟨rule, hrule, hnext⟩ := bind_eq_ok_iff.mp h
  cases hnext
  exact ⟨rule, (ofEntry_eq_ok_iff.mp (mapError_eq_ok_iff.mp hrule)).1, grown_note state.1 rule, rfl⟩

theorem exists_addRule_iff (file group : String) (state : Roster × List Rule) (entry : RuleEntry) :
    (∃ next, addRule file group state entry = .ok next) ↔ entry.Proper := by
  rw [← exists_ofEntry_iff, addRule, exists_bind_ok_iff]
  simp only [mapError_eq_ok_iff]

theorem exists_addGroup {file : String} {before after : Roster} {entry : GroupEntry}
    (h : addGroup file before entry = .ok after) :
    ∃ group, entry.Makes file group ∧ before.Grown [] [group] group.rules after := by
  obtain ⟨⟨noted, rules⟩, hwalk, hafter⟩ := bind_eq_ok_iff.mp h
  cases hafter
  obtain ⟨added, hmakes, hgrown, hrules⟩ := exists_added
    (fun state added last => state.1.Grown [] [] added last.1 ∧ last.2 = state.2 ++ added)
    (fun state => ⟨.refl state.1, (List.append_nil _).symm⟩)
    (fun h hmore => ⟨h.1.append hmore.1, by rw [hmore.2, h.2, List.append_assoc]⟩)
    exists_addRule hwalk
  have hsame : rules = added := hrules
  refine ⟨⟨file, entry.name, rules⟩, ⟨rfl, rfl, hsame ▸ hmakes⟩, ?_⟩
  rw [hsame]
  exact ⟨hgrown.files, by rw [hgrown.groups, List.append_nil], hgrown.names, hgrown.alerts⟩

theorem exists_addGroup_iff (file : String) (before : Roster) (entry : GroupEntry) :
    (∃ after, addGroup file before entry = .ok after) ↔ ∀ rule ∈ entry.rules, rule.Proper := by
  rw [← exists_foldlM_eq_ok_iff (exists_addRule_iff file entry.name) (before, [])]
  exact exists_bind_ok_iff

theorem exists_addFile {before after : Roster} {file : String × RuleFile}
    (h : addFile before file = .ok after) :
    ∃ groups, List.Forall₂ (GroupEntry.Makes file.1) file.2.groups groups ∧
      before.Grown [file.1] groups (groups.flatMap (·.rules)) after := by
  obtain ⟨grown, hwalk, hafter⟩ := bind_eq_ok_iff.mp h
  cases hafter
  have hstep : ∀ {state : Roster} {entry : GroupEntry} {next : Roster},
      addGroup file.1 state entry = .ok next → ∃ group, entry.Makes file.1 group ∧
        state.Grown [] [group] ([group].flatMap (·.rules)) next := by
    intro state entry next hnext
    simp only [List.flatMap_singleton]
    exact exists_addGroup hnext
  obtain ⟨groups, hmakes, hgrown⟩ := exists_added
    (fun state added last => state.Grown [] added (added.flatMap (·.rules)) last) Grown.refl
    (fun h hmore => by rw [List.flatMap_append]; exact h.append hmore) hstep hwalk
  refine ⟨groups, hmakes, ?_⟩
  exact ⟨by rw [hgrown.files, List.append_nil], hgrown.groups, hgrown.names, hgrown.alerts⟩

theorem exists_addFile_iff (before : Roster) (file : String × RuleFile) :
    (∃ after, addFile before file = .ok after) ↔
      ∀ group ∈ file.2.groups, ∀ rule ∈ group.rules, rule.Proper := by
  rw [← exists_foldlM_eq_ok_iff (exists_addGroup_iff file.1) before]
  exact exists_bind_ok_iff

theorem exists_ofFiles_iff (files : List (String × RuleFile)) :
    (∃ roster, ofFiles files = .ok roster) ↔
      ∀ file ∈ files, ∀ group ∈ file.2.groups, ∀ rule ∈ group.rules, rule.Proper :=
  exists_foldlM_eq_ok_iff exists_addFile_iff empty files

/-! ### Listings -/

/-- A roster lists what files hold: their groups and the rules of these, in their order.  It counts the rules
and has noted them by what they are called. -/
structure Lists (roster : Roster) (sources : List (String × RuleFile)) : Prop where
  files : roster.files = sources.map (·.1)
  groups : List.Forall₂ (fun (entry : String × GroupEntry) group => entry.2.Makes entry.1 group)
    (sources.flatMap fun source => source.2.groups.map fun entry => (source.1, entry)) roster.groups
  rules : List.Forall₂ RuleEntry.Makes
    (sources.flatMap fun source => source.2.groups.flatMap (·.rules)) roster.rules
  size : roster.size = roster.rules.length
  names : ∀ name, name ∈ roster.recordingNames.keys ↔
    ∃ rule ∈ roster.rules, rule.kind = .recording ∧ rule.name = name
  alerts : roster.alerts =
    (roster.rules.filter fun rule => rule.kind == .alerting).map fun rule => (rule.name, rule.expr)

end Roster

/-- Counting by groups comes to the number of the rules. -/
theorem RuleSet.size_eq (set : RuleSet) : set.size = set.rules.length := by
  have hcount : ∀ (groups : List Group) (before : Nat),
      groups.foldl (fun count group => count + group.rules.length) before =
        before + (groups.flatMap (·.rules)).length := by
    intro groups
    induction groups with
    | nil => exact fun before => rfl
    | cons group rest ih =>
      intro before
      rw [List.foldl_cons, ih, List.flatMap_cons, List.length_append, Nat.add_assoc]
  rw [size, hcount, Nat.zero_add, rules]

/-- The rules of groups stand for the entries of what these groups stand for. -/
theorem makes_flatMap_rules {entries : List (String × GroupEntry)} {groups : List Group}
    (h : List.Forall₂ (fun (entry : String × GroupEntry) group => entry.2.Makes entry.1 group)
      entries groups) :
    List.Forall₂ RuleEntry.Makes (entries.flatMap (·.2.rules)) (groups.flatMap (·.rules)) := by
  induction h with
  | nil => exact .nil
  | cons hgroup _ ih =>
    rw [List.flatMap_cons, List.flatMap_cons]
    exact List.rel_append hgroup.rules ih

/-- The groups of files stand for their entries, file by file. -/
theorem makes_flatMap_groups {sources : List (String × RuleFile)} {added : List (String × List Group)}
    (h : List.Forall₂ (fun (source : String × RuleFile) (file : String × List Group) =>
      file.1 = source.1 ∧ List.Forall₂ (GroupEntry.Makes source.1) source.2.groups file.2)
      sources added) :
    added.map (·.1) = sources.map (·.1) ∧
      List.Forall₂ (fun (entry : String × GroupEntry) group => entry.2.Makes entry.1 group)
        (sources.flatMap fun source => source.2.groups.map fun entry => (source.1, entry))
        (added.flatMap (·.2)) := by
  induction h with
  | nil => exact ⟨rfl, .nil⟩
  | cons hfile _ ih =>
    rw [List.map_cons, List.map_cons, List.flatMap_cons, List.flatMap_cons, hfile.1, ih.1]
    refine ⟨rfl, List.rel_append ?_ ih.2⟩
    exact List.forall₂_map_left_iff.mpr hfile.2

namespace Roster

theorem lists_of_ofFiles {sources : List (String × RuleFile)} {roster : Roster}
    (h : ofFiles sources = .ok roster) : roster.Lists sources := by
  have hstep : ∀ {state : Roster} {source : String × RuleFile} {next : Roster},
      addFile state source = .ok next → ∃ file : String × List Group,
        (file.1 = source.1 ∧ List.Forall₂ (GroupEntry.Makes source.1) source.2.groups file.2) ∧
        state.Grown ([file].map (·.1)) ([file].flatMap (·.2))
          (([file].flatMap (·.2)).flatMap (·.rules)) next := by
    intro state source next hnext
    obtain ⟨groups, hmakes, hgrown⟩ := exists_addFile hnext
    refine ⟨(source.1, groups), ⟨rfl, hmakes⟩, ?_⟩
    rw [List.flatMap_singleton]
    exact hgrown
  obtain ⟨added, hmakes, hgrown⟩ := exists_added
    (fun state (added : List (String × List Group)) last =>
      state.Grown (added.map (·.1)) (added.flatMap (·.2)) ((added.flatMap (·.2)).flatMap (·.rules))
        last)
    Grown.refl
    (fun h hmore => by
      rw [List.map_append, List.flatMap_append, List.flatMap_append]
      exact h.append hmore)
    hstep h
  obtain ⟨hpaths, hgroups⟩ := makes_flatMap_groups hmakes
  have hentries := makes_flatMap_rules hgroups
  rw [List.flatMap_assoc] at hentries
  simp only [List.flatMap_map] at hentries
  have hlisted : roster.groups = added.flatMap (·.2) := hgrown.groups
  have hrules : roster.rules = (added.flatMap (·.2)).flatMap (·.rules) := by
    rw [RuleSet.rules, hlisted]
  refine ⟨?_, hlisted ▸ hgroups, ?_, roster.toRuleSet.size_eq, ?_, ?_⟩
  · exact hgrown.files.trans hpaths
  · rw [hrules]
    exact hentries
  · intro name
    rw [hgrown.names, hrules]
    exact or_iff_right List.not_mem_nil
  · rw [hgrown.alerts, hrules]
    rfl

/-- What has been noted of the rules is what the set tells of them. -/
theorem Lists.noted {roster : Roster} {sources : List (String × RuleFile)} (h : roster.Lists sources) :
    roster.recordingNames.keys = roster.toRuleSet.recordingNames ∧
      roster.alerts = roster.toRuleSet.alerts := by
  refine ⟨?_, h.alerts⟩
  apply SortedMap.eq_of_mem_iff (SortedMap.strictlyIncreasing_keys _)
    (SortedMap.strictlyIncreasing_distinct _)
  intro name
  rw [h.names, SortedMap.mem_distinct_iff, List.mem_map]
  simp only [RuleSet.rulesOf, List.mem_filter, beq_iff_eq, and_assoc]

end Roster

/-! ### Activations -/

theorem readFiles_eq_ok_iff {tree : FileTree} {paths : List String}
    {files : List (String × RuleFile)} :
    (paths.mapM fun path => readFile tree path >>= fun content => .ok (path, content)) = .ok files ↔
      paths = files.map (·.1) ∧ ∀ file ∈ files, readFile tree file.1 = .ok file.2 := by
  have hread : ∀ {path : String} {file : String × RuleFile},
      (readFile tree path >>= fun content => .ok (path, content)) = .ok file ↔
        path = file.1 ∧ readFile tree file.1 = .ok file.2 := by
    intro path file
    rw [bind_eq_ok_iff]
    constructor
    · rintro ⟨content, hcontent, hfile⟩
      cases hfile
      exact ⟨rfl, hcontent⟩
    · rintro ⟨rfl, hcontent⟩
      exact ⟨file.2, hcontent, rfl⟩
  rw [mapM_eq_ok_iff]
  induction paths generalizing files with
  | nil => cases files <;> simp
  | cons path rest ih =>
    cases files with
    | nil => simp
    | cons file others =>
      rw [List.map_cons, List.map_cons, List.map_cons, List.cons.injEq, List.cons.injEq,
        List.forall_mem_cons]
      exact (and_congr hread ih).trans and_and_and_comm

/-- The set of a source is that of the files that it names, each read from its path. -/
theorem ofSource_eq_ok_iff {tree : FileTree} {source : String} {set : RuleSet} :
    RuleSet.ofSource tree source = .ok set ↔
      ∃ files roster, resolve tree source = .ok (files.map (·.1)) ∧
        (∀ file ∈ files, readFile tree file.1 = .ok file.2) ∧ Roster.ofFiles files = .ok roster ∧
        roster.toRuleSet = set := by
  rw [RuleSet.ofSource, bind_eq_ok_iff]
  constructor
  · rintro ⟨paths, hpaths, hrest⟩
    obtain ⟨files, hfiles, hset⟩ := bind_eq_ok_iff.mp hrest
    obtain ⟨rfl, hcontents⟩ := readFiles_eq_ok_iff.mp hfiles
    obtain ⟨roster, hroster, hsame⟩ := map_eq_ok_iff.mp (Error.lift_eq_ok_iff.mp hset)
    exact ⟨files, roster, hpaths, hcontents, hroster, hsame⟩
  · rintro ⟨files, roster, hpaths, hcontents, hroster, hsame⟩
    refine ⟨files.map (·.1), hpaths, bind_eq_ok_iff.mpr
      ⟨files, readFiles_eq_ok_iff.mpr ⟨rfl, hcontents⟩, ?_⟩⟩
    exact Error.lift_eq_ok_iff.mpr (map_eq_ok_iff.mpr ⟨roster, hroster, hsame⟩)

/-- The set that is active after activations, which have found `former` active. -/
def lastActivated (former : Option RuleSet) (activations : List (FileTree × String)) :
    Option RuleSet :=
  ((activations.filterMap fun activation =>
    (RuleSet.ofSource activation.1 activation.2).toOption).getLast?).or former

theorem lastActivated_cons (former : Option RuleSet) (tree : FileTree) (source : String)
    (rest : List (FileTree × String)) :
    lastActivated former ((tree, source) :: rest) =
      lastActivated ((RuleSet.ofSource tree source).toOption.or former) rest := by
  rw [lastActivated, lastActivated, List.filterMap_cons]
  dsimp only
  cases RuleSet.ofSource tree source with
  | error failure => rfl
  | ok set =>
    change ((set :: _).getLast?).or former = _
    rw [List.getLast?_cons]
    cases (List.filterMap _ rest).getLast? <;> rfl

theorem perform_activateRules (session : Session) (tree : FileTree) (source : String) :
    session.perform (.activateRules tree source) =
      { session with rules := (RuleSet.ofSource tree source).toOption.or session.rules } := by
  rw [Session.perform, Session.activateRules]
  cases RuleSet.ofSource tree source <;> rfl

theorem after_activations (session : Session) (activations : List (FileTree × String)) :
    session.after (activations.map fun activation => .activateRules activation.1 activation.2) =
      { session with rules := lastActivated session.rules activations } := by
  induction activations generalizing session with
  | nil => rfl
  | cons activation rest ih =>
    rw [List.map_cons, Session.after, List.foldl_cons, ← Session.after, ih, perform_activateRules,
      lastActivated_cons]

/-- Files make a set exactly when each of their entries is called in one way, as a recording or as an alert,
by a name that is not blank, and has an expression that is not blank.  The set lists their paths, their
groups and the rules of these in their order, counts the rules, and has noted the names of the recordings and
the alerts with their expressions, just as the rules tell them.  The set of a source is that of the files that
it names.  After any row of activations the set of the last one that succeeded is active, or the former one
if none did. -/
theorem active_rules_listed :
    (∀ sources, (∃ roster, Roster.ofFiles sources = .ok roster) ↔
      ∀ source ∈ sources, ∀ group ∈ source.2.groups, ∀ entry ∈ group.rules, entry.Proper) ∧
    (∀ sources roster, Roster.ofFiles sources = .ok roster → roster.Lists sources ∧
      roster.recordingNames.keys = roster.toRuleSet.recordingNames ∧
      roster.alerts = roster.toRuleSet.alerts) ∧
    (∀ tree source set, RuleSet.ofSource tree source = .ok set ↔
      ∃ files roster, resolve tree source = .ok (files.map (·.1)) ∧
        (∀ file ∈ files, readFile tree file.1 = .ok file.2) ∧ Roster.ofFiles files = .ok roster ∧
        roster.toRuleSet = set) ∧
    ∀ (session : Session) activations,
      session.after (activations.map fun activation => .activateRules activation.1 activation.2) =
        { session with rules := lastActivated session.rules activations } :=
  ⟨Roster.exists_ofFiles_iff,
    fun _ _ h => ⟨Roster.lists_of_ofFiles h, (Roster.lists_of_ofFiles h).noted⟩,
    fun _ _ _ => ofSource_eq_ok_iff, after_activations⟩

/-- Two files, one with a recording, an alert and a group without rules, the other without groups. -/
def twoSources : List (String × RuleFile) :=
  [("a.yml", ⟨[⟨"g", none, [⟨some "total", none, "sum(up)", none, .empty, .empty⟩,
      ⟨none, some "Down", "up == 0", none, .empty, .empty⟩]⟩, ⟨"none", none, []⟩]⟩),
    ("b.yml", ⟨[]⟩)]

/-- The two files make a set with its two rules noted, and a path that leads nowhere keeps the set active. -/
theorem two_sources_listed :
    ∃ roster, Roster.ofFiles twoSources = .ok roster ∧ roster.Lists twoSources ∧
      roster.toRuleSet.recordingNames = ["total"] ∧
      roster.toRuleSet.alerts = [("Down", "up == 0")] ∧
      ∀ session : Session, session.rules = some roster.toRuleSet →
        (session.after [.activateRules ⟨[], .empty⟩ ""]).rules = some roster.toRuleSet := by
  obtain ⟨-, hlists, -, hafter⟩ := active_rules_listed
  have hroster : ∃ roster, Roster.ofFiles twoSources = .ok roster ∧
      roster.recordingNames.keys = ["total"] ∧ roster.alerts = [("Down", "up == 0")] :=
    ⟨_, rfl, by decide, rfl⟩
  obtain ⟨roster, hfiles, hnames, halerts⟩ := hroster
  obtain ⟨hlisted, hsameNames, hsameAlerts⟩ := hlists twoSources roster hfiles
  refine ⟨roster, hfiles, hlisted, hsameNames ▸ hnames, hsameAlerts ▸ halerts, fun session hactive => ?_⟩
  have hmissing : RuleSet.ofSource ⟨[], .empty⟩ "" = .error .io := by rfl
  have hkept := congrArg Session.rules (hafter session [(⟨[], .empty⟩, "")])
  rw [← hactive]
  refine hkept.trans ?_
  dsimp only
  rw [lastActivated_cons, hmissing]
  rfl

end MetricBench.Rules
