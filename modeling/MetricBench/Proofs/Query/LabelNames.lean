import MetricBench.Proofs.Query.LabelSources
import MetricBench.Proofs.Query.NameTokens
import MetricBench.Query.Engine

/-!
# Labels in queries

What is read from legible tokens has conditions on labels with proper names, and each reader leaves
legible tokens to the next one.  So the labels of what a query evaluates to have proper names when
those of the store have.
-/

namespace MetricBench.Query

open Exposition (IsLabelName)

/-! ### Readers -/

section

variable {α β : Type}

/-- Whether what a reader gives, if anything, is of a kind and followed by legible tokens. -/
def Reads (kind : α → Prop) (outcome : Option (α × Tokens)) : Prop :=
  ∀ result rest, outcome = some (result, rest) → kind result ∧ LegibleTokens rest

theorem reads_none (kind : α → Prop) : Reads kind none := fun _ _ h => nomatch h

theorem reads_some {kind : α → Prop} {result : α} {rest : Tokens} (h : kind result)
    (hrest : LegibleTokens rest) : Reads kind (some (result, rest)) := by
  rintro _ _ ⟨⟩
  exact ⟨h, hrest⟩

theorem Reads.bind {before : α → Prop} {kind : β → Prop} {first : Option (α × Tokens)}
    {next : α × Tokens → Option (β × Tokens)} (h : Reads before first)
    (hnext : ∀ result rest, before result → LegibleTokens rest → Reads kind (next (result, rest))) :
    Reads kind (first >>= next) := by
  intro result rest hresult
  obtain ⟨⟨middle, left⟩, hmiddle, hlast⟩ := Option.bind_eq_some_iff.mp hresult
  obtain ⟨hbefore, hleft⟩ := h middle left hmiddle
  exact hnext middle left hbefore hleft result rest hlast

/-- A step that leaves the tokens alone may stand between readers. -/
theorem reads_bind {kind : β → Prop} {first : Option α} {next : α → Option (β × Tokens)}
    (hnext : ∀ value, first = some value → Reads kind (next value)) :
    Reads kind (first >>= next) := by
  intro result rest hresult
  obtain ⟨value, hvalue, hlast⟩ := Option.bind_eq_some_iff.mp hresult
  exact hnext value hvalue result rest hlast

theorem Reads.map {before : α → Prop} {kind : β → Prop} {outcome : Option (α × Tokens)}
    (h : Reads before outcome) {change : α × Tokens → β × Tokens}
    (hchange : ∀ result rest, before result →
      kind (change (result, rest)).1 ∧ (change (result, rest)).2 = rest) :
    Reads kind (outcome.map change) := by
  intro result rest hresult
  obtain ⟨⟨former, left⟩, hformer, heq⟩ := Option.map_eq_some_iff.mp hresult
  obtain ⟨hbefore, hleft⟩ := h former left hformer
  obtain ⟨hkind, hrest⟩ := hchange former left hbefore
  rw [heq] at hkind hrest
  refine ⟨hkind, ?_⟩
  rw [show rest = left from hrest]
  exact hleft

end

/-! ### Labels and modifiers -/

theorem reads_readLabelList {tokens : Tokens} (h : LegibleTokens tokens) :
    Reads (fun _ => True) (readLabelList? tokens) := by
  fun_induction readLabelList? tokens with
  | case1 rest => exact reads_some trivial h.tail
  | case2 token rest hnot ih =>
    exact reads_bind fun label _ => (ih h.tail.tail).bind fun labels left _ hleft =>
      reads_some trivial hleft
  | case3 token rest =>
    intro result left hresult
    obtain ⟨label, -, heq⟩ := Option.map_eq_some_iff.mp hresult
    cases heq
    exact ⟨trivial, h.tail.tail⟩
  | case4 => exact reads_none _

theorem reads_readLabels {tokens : Tokens} (h : LegibleTokens tokens) :
    Reads (fun _ => True) (readLabels? tokens) := by
  unfold readLabels?
  split
  · exact reads_readLabelList h.tail
  · exact reads_none _

theorem reads_readGrouping {tokens : Tokens} (h : LegibleTokens tokens) :
    Reads (fun _ => True) (readGrouping? tokens) := by
  unfold readGrouping?
  split
  · exact (reads_readLabels h.tail).map fun _ _ _ => ⟨trivial, rfl⟩
  · exact (reads_readLabels h.tail).map fun _ _ _ => ⟨trivial, rfl⟩
  · exact reads_some trivial h

theorem reads_readMany {tokens : Tokens} (h : LegibleTokens tokens) :
    Reads (fun _ => True) (readMany? tokens) := by
  unfold readMany?
  split
  · exact (reads_readLabelList h.tail.tail).map fun _ _ _ => ⟨trivial, rfl⟩
  · exact (reads_readLabelList h.tail.tail).map fun _ _ _ => ⟨trivial, rfl⟩
  · exact reads_some trivial h.tail
  · exact reads_some trivial h.tail
  · exact reads_some trivial h

theorem reads_readModifier {tokens : Tokens} (h : LegibleTokens tokens) :
    Reads (fun _ => True) (readModifier? tokens) := by
  unfold readModifier?
  split
  rename_i returnsNumber left heq
  have hleft : LegibleTokens left := by
    split at heq
    · cases heq
      exact h.tail
    · cases heq
      exact h
  dsimp only
  split
  · exact (reads_readLabels hleft.tail).bind fun labels _ _ hlabels =>
      (reads_readMany hlabels).bind fun many _ _ hmany => reads_some trivial hmany
  · exact (reads_readLabels hleft.tail).bind fun labels _ _ hlabels =>
      (reads_readMany hlabels).bind fun many _ _ hmany => reads_some trivial hmany
  · exact reads_some trivial hleft

/-! ### Selectors -/

/-- Whether an expression's conditions are on labels with proper names. -/
abbrev Expr.Legible (expr : Expr) : Prop := expr.EachCondition IsLabelName

/-- Whether plain conditions are on labels with proper names. -/
def Conditions.Legible (conditions : Conditions) : Prop :=
  ∀ condition ∈ conditions.plain, IsLabelName condition.name

theorem name_of_make {name value : String} {op : MatchOp} {condition : LabelMatch}
    (h : LabelMatch.make? name op value = some condition) : condition.name = name := by
  cases op with
  | equal =>
    cases h
    rfl
  | notEqual =>
    cases h
    rfl
  | pattern =>
    obtain ⟨pattern, -, rfl⟩ := Option.map_eq_some_iff.mp h
    rfl
  | notPattern =>
    obtain ⟨pattern, -, rfl⟩ := Option.map_eq_some_iff.mp h
    rfl

theorem Conditions.Legible.add {conditions : Conditions} (h : conditions.Legible)
    {condition : LabelMatch} (hname : IsLabelName condition.name) :
    (conditions.add condition).Legible := by
  unfold Conditions.add
  split
  · intro other hother
    rcases List.mem_append.mp hother with hmem | hmem
    · exact h other hmem
    · rw [List.mem_singleton.mp hmem]
      exact hname
  · exact h

theorem Conditions.legible_addGroup (conditions : Conditions) (condition : LabelMatch) :
    (conditions.addGroup condition).Legible := fun _ hother => nomatch hother

theorem reads_readConditions {found : Conditions} (hfound : found.Legible) {startsGroup : Bool}
    {tokens : Tokens} (h : LegibleTokens tokens) :
    Reads Conditions.Legible (readConditions? found startsGroup tokens) := by
  fun_induction readConditions? found startsGroup tokens with
  | case1 found startsGroup name op value rest ih =>
    refine reads_bind fun op _ => reads_bind fun condition hcondition => ?_
    have hname : IsLabelName condition.name := by
      rw [name_of_make hcondition]
      exact h _ List.mem_cons_self
    have hadded :
        (if startsGroup then found.addGroup condition else found.add condition).Legible := by
      split_ifs
      · exact found.legible_addGroup condition
      · exact hfound.add hname
    specialize ih condition
    have hrest := h.tail.tail.tail
    dsimp only at ih ⊢
    split
    · exact reads_some hadded hrest.tail
    · exact reads_some hadded hrest.tail.tail
    · rename_i left hnobrace
      -- the hypothesis makes the same cases again
      split at ih
      case h_1 heq => cases heq
      case h_2 after heq =>
        cases heq
        exact absurd rfl (hnobrace after)
      case h_3 heq =>
        cases heq
        exact ih hadded hrest.tail
      case h_4 heq => cases heq
      case h_5 hother _ => exact absurd rfl (hother left)
    · exact ih hadded hrest.tail
    · exact reads_none _
  | case2 => exact reads_none _

theorem reads_readSelector (name : Option String) {tokens : Tokens} (h : LegibleTokens tokens) :
    Reads Expr.Legible (readSelector? name tokens) := by
  have hempty : Conditions.Legible ⟨[], []⟩ := fun _ hcondition => nomatch hcondition
  have haccept (conditions : Conditions) (hconditions : conditions.Legible) (rest : Tokens)
      (hrest : LegibleTokens rest) :
      let selector : Selector := ⟨name, conditions.plain, conditions.groups, .none⟩
      Reads Expr.Legible
        (if selector.isAccepted then some (.selector selector, rest) else none) := by
    dsimp only
    split_ifs
    · refine reads_some (fun selector hselector => ?_) hrest
      rw [List.mem_singleton.mp hselector]
      exact hconditions
    · exact reads_none _
  unfold readSelector?
  dsimp only
  split
  · exact haccept _ hempty _ h.tail.tail
  · exact (reads_readConditions hempty h.tail).bind fun conditions rest hconditions hrest =>
      haccept conditions hconditions rest hrest
  · exact haccept _ hempty _ h

/-! ### Expressions built from expressions -/

namespace Expr

variable {inner expr : Expr}

theorem Legible.range (h : inner.Legible) {width : Int} (hrange : inner.range? width = some expr) :
    expr.Legible := by
  unfold range? at hrange
  split at hrange
  · split_ifs at hrange
    cases hrange
    exact h
  · cases hrange

theorem Legible.subquery (h : inner.Legible) (hsubquery : inner.subquery? = some expr) :
    expr.Legible := by
  unfold subquery? at hsubquery
  split_ifs at hsubquery
  cases hsubquery
  exact h

theorem Legible.retimed (h : inner.Legible) {change : Timing → Option Timing}
    (hretimed : inner.retimed? change = some expr) : expr.Legible := by
  cases inner with
  | selector chosen =>
    obtain ⟨timing, -, rfl⟩ := Option.map_eq_some_iff.mp hretimed
    intro selector hselector
    rw [List.mem_singleton.mp hselector]
    exact h chosen (List.mem_singleton_self chosen)
  | range chosen width =>
    obtain ⟨timing, -, rfl⟩ := Option.map_eq_some_iff.mp hretimed
    intro selector hselector
    rw [List.mem_singleton.mp hselector]
    exact h chosen (List.mem_singleton_self chosen)
  | subquery inner timing =>
    obtain ⟨later, -, rfl⟩ := Option.map_eq_some_iff.mp hretimed
    exact h
  | _ => cases hretimed

theorem Legible.negation (h : inner.Legible) (hnegation : inner.negation? = some expr) :
    expr.Legible := by
  unfold negation? at hnegation
  split at hnegation
  · cases hnegation
    exact fun _ hselector => nomatch hselector
  · split at hnegation
    · cases hnegation
      exact h
    · cases hnegation
      exact h
    · cases hnegation

theorem legible_binary {left right : Expr} (hleft : left.Legible) (hright : right.Legible)
    {op : BinaryOp} {modifier : BinaryModifier}
    (hbinary : binary? op modifier left right = some expr) : expr.Legible := by
  unfold binary? at hbinary
  split_ifs at hbinary
  cases hbinary
  intro selector hselector
  rcases List.mem_append.mp hselector with hmem | hmem
  · exact hleft selector hmem
  · exact hright selector hmem

section

variable {arguments : List Expr} (h : ∀ argument ∈ arguments, argument.Legible)

include h

theorem legible_argumentSelectors : ∀ selector ∈ argumentSelectors arguments,
    ∀ condition ∈ selector.conditions, IsLabelName condition.name := by
  induction arguments with
  | nil => exact fun _ hselector => nomatch hselector
  | cons first rest ih =>
    obtain ⟨hfirst, hrest⟩ := List.forall_mem_cons.mp h
    intro selector hselector
    rcases List.mem_append.mp hselector with hmem | hmem
    · exact hfirst selector hmem
    · exact ih hrest selector hmem

theorem legible_call {name : String} (hcall : call? name arguments = some expr) :
    expr.Legible := by
  obtain ⟨signature, -, haccepted⟩ := Option.bind_eq_some_iff.mp hcall
  split_ifs at haccepted
  cases haccepted
  exact legible_argumentSelectors h

theorem legible_aggregation {op : AggregateOp} {grouping : Option Grouping}
    (haggregate : aggregation? op grouping arguments = some expr) : expr.Legible := by
  unfold aggregation? at haggregate
  split at haggregate
  · split_ifs at haggregate
    cases haggregate
    exact (List.forall_mem_cons.mp h).1
  · split_ifs at haggregate
    cases haggregate
    obtain ⟨hparameter, hrest⟩ := List.forall_mem_cons.mp h
    intro selector hselector
    rcases List.mem_append.mp hselector with hmem | hmem
    · exact hparameter selector hmem
    · exact hrest _ List.mem_cons_self selector hmem
  · cases haggregate

end

end Expr

theorem reads_readPostfixes {expr : Expr} (hexpr : expr.Legible) {tokens : Tokens}
    (h : LegibleTokens tokens) : Reads Expr.Legible (readPostfixes? expr tokens) := by
  fun_induction readPostfixes? expr tokens with
  | case1 expr width rest ih =>
    exact reads_bind fun range hrange => ih range (hexpr.range hrange) h.tail.tail.tail
  | case2 expr width rest ih =>
    exact reads_bind fun subquery hsubquery =>
      ih subquery (hexpr.subquery hsubquery) h.tail.tail.tail.tail
  | case3 expr width step rest ih =>
    exact reads_bind fun subquery hsubquery =>
      ih subquery (hexpr.subquery hsubquery) h.tail.tail.tail.tail.tail
  | case4 => exact reads_none _
  | case5 expr text width rest ih =>
    exact reads_bind fun later hlater => ih later (hexpr.retimed hlater) h.tail.tail
  | case6 expr text width rest ih =>
    exact reads_bind fun later hlater => ih later (hexpr.retimed hlater) h.tail.tail.tail
  | case7 => exact reads_none _
  | case8 expr seconds rest ih =>
    exact reads_bind fun instant _ => reads_bind fun later hlater =>
      ih later (hexpr.retimed hlater) h.tail.tail
  | case9 expr seconds rest ih =>
    exact reads_bind fun instant _ => reads_bind fun later hlater =>
      ih later (hexpr.retimed hlater) h.tail.tail.tail
  | case10 expr seconds rest ih =>
    exact reads_bind fun instant _ => reads_bind fun later hlater =>
      ih later (hexpr.retimed hlater) h.tail.tail.tail
  | case11 expr text rest ih =>
    exact reads_bind fun later hlater => ih later (hexpr.retimed hlater) h.tail.tail.tail.tail
  | case12 expr text rest ih =>
    exact reads_bind fun later hlater => ih later (hexpr.retimed hlater) h.tail.tail.tail.tail
  | case13 => exact reads_none _
  | case14 => exact reads_some hexpr h

/-! ### The readers of expressions -/

/-- What the readers with so much fuel give: they call each other with less. -/
structure ReadersLegible (fuel : Nat) : Prop where
  expr : ∀ level {tokens}, LegibleTokens tokens →
    Reads Expr.Legible (readExpr? fuel level tokens)
  operators : ∀ level {left : Expr}, left.Legible → ∀ {tokens}, LegibleTokens tokens →
    Reads Expr.Legible (readOperators? fuel level left tokens)
  operand : ∀ {tokens}, LegibleTokens tokens → Reads Expr.Legible (readOperand? fuel tokens)
  primary : ∀ {tokens}, LegibleTokens tokens → Reads Expr.Legible (readPrimary? fuel tokens)
  aggregation : ∀ {tokens}, LegibleTokens tokens →
    Reads (fun found => ∀ argument ∈ found.2, argument.Legible) (readAggregation? fuel tokens)
  arguments : ∀ {tokens}, LegibleTokens tokens →
    Reads (fun found => ∀ argument ∈ found, argument.Legible) (readArguments? fuel tokens)
  someArguments : ∀ {tokens}, LegibleTokens tokens →
    Reads (fun found => ∀ argument ∈ found, argument.Legible) (readSomeArguments? fuel tokens)

theorem readersLegible_zero : ReadersLegible 0 where
  expr _ _ _ := reads_none _
  operators _ _ _ _ _ := reads_none _
  operand _ := reads_none _
  primary _ := reads_none _
  aggregation _ := reads_none _
  arguments _ := reads_none _
  someArguments _ := reads_none _

namespace ReadersLegible

variable {fuel : Nat} (ih : ReadersLegible fuel) {tokens : Tokens} (h : LegibleTokens tokens)

include ih h

theorem reads_readExpr (level : Nat) : Reads Expr.Legible (readExpr? (fuel + 1) level tokens) :=
  (ih.operand h).bind fun _ _ hleft hrest => ih.operators level hleft hrest

theorem reads_readOperators (level : Nat) {left : Expr} (hleft : left.Legible) :
    Reads Expr.Legible (readOperators? (fuel + 1) level left tokens) := by
  unfold readOperators?
  split
  · exact reads_some hleft h
  · split
    · exact reads_some hleft h
    · split_ifs
      · exact reads_some hleft h
      · exact (reads_readModifier h.tail).bind fun modifier _ _ hmodifier =>
          (ih.expr _ hmodifier).bind fun right _ hright hrest =>
            reads_bind fun joined hjoined =>
              ih.operators level (Expr.legible_binary hleft hright hjoined) hrest

theorem reads_readOperand : Reads Expr.Legible (readOperand? (fuel + 1) tokens) := by
  unfold readOperand?
  split
  · exact ih.expr _ h.tail
  · exact (ih.expr _ h.tail).bind fun inner _ hinner hrest =>
      reads_bind fun negation hnegation => reads_some (hinner.negation hnegation) hrest
  · exact (ih.primary h).bind fun primary _ hprimary hrest => reads_readPostfixes hprimary hrest

theorem reads_readAggregation :
    Reads (fun found => ∀ argument ∈ found.2, argument.Legible)
      (readAggregation? (fuel + 1) tokens) := by
  refine (reads_readGrouping h).bind fun before rest _ hrest => ?_
  dsimp only
  split
  · refine (ih.arguments hrest.tail).bind fun arguments left harguments hleft => ?_
    dsimp only
    split
    · exact reads_some harguments hleft
    · exact (reads_readGrouping hleft).bind fun after _ _ hafter => reads_some harguments hafter
  · exact reads_none _

theorem reads_readArguments :
    Reads (fun found => ∀ argument ∈ found, argument.Legible)
      (readArguments? (fuel + 1) tokens) := by
  unfold readArguments?
  split
  · exact reads_some (fun _ hargument => nomatch hargument) h.tail
  · exact ih.someArguments h

theorem reads_readSomeArguments :
    Reads (fun found => ∀ argument ∈ found, argument.Legible)
      (readSomeArguments? (fuel + 1) tokens) := by
  refine (ih.expr 0 h).bind fun first rest hfirst hrest => ?_
  dsimp only
  split
  · exact reads_some (List.forall_mem_singleton.mpr hfirst) hrest.tail
  · exact (ih.someArguments hrest.tail).bind fun others _ hothers hleft =>
      reads_some (List.forall_mem_cons.mpr ⟨hfirst, hothers⟩) hleft
  · exact reads_none _

theorem reads_readPrimary : Reads Expr.Legible (readPrimary? (fuel + 1) tokens) := by
  have hliteral {literal : Expr} (hnone : literal.selectors = []) : literal.Legible := by
    intro selector hselector
    rw [hnone] at hselector
    cases hselector
  unfold readPrimary?
  split
  case h_1 => exact reads_some (hliteral rfl) h.tail
  case h_2 => exact reads_some (hliteral rfl) h.tail
  case h_3 =>
    refine (ih.expr 0 h.tail).bind fun inner rest hinner hrest => ?_
    dsimp only
    split
    · exact reads_some hinner hrest.tail
    · exact reads_none _
  case h_4 => exact reads_readSelector none h
  case h_5 =>
    exact (ih.arguments h.tail.tail).bind fun arguments _ harguments hrest =>
      reads_bind fun call hcall => reads_some (Expr.legible_call harguments hcall) hrest
  case h_6 => exact reads_readSelector _ h.tail
  case h_7 => exact reads_readSelector _ h.tail
  case h_8 =>
    split_ifs
    · exact (ih.aggregation h.tail).bind fun found _ hfound hrest =>
        reads_bind fun aggregate haggregate =>
          reads_some (Expr.legible_aggregation hfound haggregate) hrest
    · exact reads_readSelector _ h.tail
  case h_9 =>
    split_ifs
    · exact reads_readSelector _ h.tail
    · exact reads_none _
  case h_10 => exact reads_none _

end ReadersLegible

theorem readersLegible (fuel : Nat) : ReadersLegible fuel := by
  induction fuel with
  | zero => exact readersLegible_zero
  | succ fuel ih =>
    exact {
      expr := fun level _ h => ih.reads_readExpr h level
      operators := fun level _ hleft _ h => ih.reads_readOperators h level hleft
      operand := fun h => ih.reads_readOperand h
      primary := fun h => ih.reads_readPrimary h
      aggregation := fun h => ih.reads_readAggregation h
      arguments := fun h => ih.reads_readArguments h
      someArguments := fun h => ih.reads_readSomeArguments h }

theorem Expr.legible_of_read {query : String} {expr : Expr} (h : Expr.read? query = some expr) :
    expr.Legible := by
  obtain ⟨tokens, htokens, hrest⟩ := Option.bind_eq_some_iff.mp h
  obtain ⟨⟨found, left⟩, hfound, heq⟩ := Option.bind_eq_some_iff.mp hrest
  cases left with
  | nil =>
    cases heq
    exact ((readersLegible _).expr 0 (legible_tokens htokens) expr [] hfound).1
  | cons token rest => cases heq

/-- All labels of what a query evaluates to have proper names when those of the store have. -/
theorem yields_evalInstant {settings : Settings} {store : Store}
    (h : ∀ sample ∈ store.samples, sample.labels.EachName IsLabelName) {query : String}
    {expr : Expr} (hparse : parse query = .ok expr) (instant : Int) :
    Yields (Value.EachName IsLabelName) (evalInstant settings store expr instant) := by
  have hread : Expr.read? query = some expr := by
    unfold parse at hparse
    split at hparse
    · cases hparse
      assumption
    · cases hparse
  exact Expr.yields_eval h expr (Expr.legible_of_read hread)

end MetricBench.Query
