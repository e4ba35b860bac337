import MetricBench.Proofs.Number.ExactSums
import MetricBench.Query.RangeFunction

/-!
# The increase of a counter

The increase of a counter is the difference of its ends and all that it has lost at resets.  In exact arithmetic
this closed form is the sum of what the counter has gained from each value to the next, where all of the next
value is gained after a reset; so what is true of sums over neighbours is true of the increase.  With doubles it
is exact for whole numbers that are not too great.
-/

namespace MetricBench.Query

open Number (ofNat rational?)

section

variable {α : Type} [LT α] [DecidableLT α]

/-- The neighbours in which a counter falls, so that it has been reset between them. -/
def falls (values : List α) : List (α × α) := (neighbours values).filter fun pair => pair.2 < pair.1

/-- The increase of a counter with the arithmetic of its values; what is lost at resets is added up from
`nothing`. -/
def increaseFrom [Add α] [Sub α] (nothing : α) (values : List α) : Option α := do
  let first ← values.head?
  let last ← values.getLast?
  some (last - first + ((falls values).map (·.1)).foldl (· + ·) nothing)

/-- What a counter has gained from one value to the next. -/
def gain [Sub α] (previous next : α) : α := if next < previous then next else next - previous

/-- What a counter has gained from each value to the next. -/
def gains [Sub α] (values : List α) : List α := (neighbours values).map fun pair => gain pair.1 pair.2

/-- All that a counter has lost at resets. -/
def lost [Add α] [Zero α] (values : List α) : α := ((falls values).map (·.1)).sum

end

/-- A list of doubles stands for a list of rationals. -/
def StandFor (values : List Double) (exact : List ℚ) : Prop :=
  List.Forall₂ (fun x value => rational? x = some value) values exact

/-! ### Doubles -/

/-- The increase of points is that of their values in the arithmetic of doubles. -/
theorem counterIncrease_eq (points : List Point) :
    counterIncrease points = increaseFrom neutral (values points) := by
  rw [counterIncrease, increaseFrom, values, List.head?_map, List.getLast?_map]
  cases points.head? <;> cases points.getLast? <;> rfl

theorem reduce_resets (width : Int) (points : List Point) :
    RangeFunction.reduce width points .resets = some (ofNat (falls (values points)).length) := by
  rw [RangeFunction.reduce, countNeighbours, List.countP_eq_length_filter]
  rfl

/-! ### Neighbours -/

section

variable {α β : Type} {related : α → β → Prop}

theorem neighbours_cons_cons (first second : α) (rest : List α) :
    neighbours (first :: second :: rest) = (first, second) :: neighbours (second :: rest) := rfl

/-- The neighbours up to an element and those from it on are all neighbours. -/
theorem neighbours_append (before : List α) (boundary : α) (after : List α) :
    neighbours (before ++ boundary :: after) =
      neighbours (before ++ [boundary]) ++ neighbours (boundary :: after) := by
  induction before with
  | nil => rfl
  | cons first before ih =>
    cases before with
    | nil => rfl
    | cons second before => exact congrArg ((first, second) :: ·) ih

theorem forall₂_neighbours {xs : List α} {ys : List β} (h : List.Forall₂ related xs ys) :
    List.Forall₂ (fun pair other => related pair.1 other.1 ∧ related pair.2 other.2) (neighbours xs)
      (neighbours ys) := by
  induction h with
  | nil => exact .nil
  | cons hfirst hrest ih =>
    cases hrest with
    | nil => exact .nil
    | cons hsecond hrest => exact .cons ⟨hfirst, hsecond⟩ ih

/-- Where values have the order of those that they are related to, they fall at the same places. -/
theorem forall₂_falls [LT α] [DecidableLT α] [LT β] [DecidableLT β]
    (hless : ∀ x x' y y', related x y → related x' y' → (x < x' ↔ y < y')) {xs : List α} {ys : List β}
    (h : List.Forall₂ related xs ys) :
    List.Forall₂ (fun pair other => related pair.1 other.1 ∧ related pair.2 other.2) (falls xs)
      (falls ys) := by
  apply List.rel_filter _ (forall₂_neighbours h)
  intro pair other hpair
  have hiff := hless _ _ _ _ hpair.2 hpair.1
  simpa only [decide_eq_true_iff] using hiff

theorem forall₂_getLast {x : α} {y : β} {xs : List α} {ys : List β}
    (h : List.Forall₂ related (x :: xs) (y :: ys)) :
    related ((x :: xs).getLast (List.cons_ne_nil _ _)) ((y :: ys).getLast (List.cons_ne_nil _ _)) := by
  induction xs generalizing x y ys with
  | nil =>
    obtain ⟨hfirst, hrest⟩ := List.forall₂_cons.mp h
    cases hrest
    exact hfirst
  | cons second xs ih =>
    obtain ⟨-, hrest⟩ := List.forall₂_cons.mp h
    cases hrest with
    | cons hsecond hrest =>
      have hlast := ih (List.Forall₂.cons hsecond hrest)
      exact hlast

end

/-! ### Repeated values -/

section

variable {α : Type} [LT α] [DecidableLT α] {value : α}

/-- A counter does not fall at a repeated value. -/
theorem falls_repeated (hself : ¬ value < value) (before after : List α) :
    falls (before ++ value :: value :: after) = falls (before ++ value :: after) := by
  rw [falls, falls, neighbours_append, neighbours_append before value after, neighbours_cons_cons,
    List.filter_append, List.filter_append, List.filter_cons, if_neg (mt of_decide_eq_true hself)]

theorem increaseFrom_repeated [Add α] [Sub α] (hself : ¬ value < value) (nothing : α)
    (before after : List α) :
    increaseFrom nothing (before ++ value :: value :: after) =
      increaseFrom nothing (before ++ value :: after) := by
  have hfirst : (before ++ value :: value :: after).head? = (before ++ value :: after).head? := by
    cases before <;> rfl
  have hlast : (before ++ value :: value :: after).getLast? = (before ++ value :: after).getLast? := by
    rw [List.getLast?_append, List.getLast?_append, List.getLast?_cons_cons]
  rw [increaseFrom, increaseFrom, falls_repeated hself, hfirst, hlast]

end

/-- The increase of points does not change when a value is repeated. -/
theorem counterIncrease_repeated (before after : List Point) (point other : Point)
    (h : other.value = point.value) :
    counterIncrease (before ++ point :: other :: after) = counterIncrease (before ++ point :: after) := by
  have hself : ¬ point.value < point.value := fun hless =>
    absurd (Number.lt_iff.mp hless).2.2 (Int.lt_irrefl _)
  rw [counterIncrease_eq, counterIncrease_eq, values, values, List.map_append, List.map_append,
    List.map_cons, List.map_cons, List.map_cons, h]
  exact increaseFrom_repeated hself neutral _ _

/-! ### Gains -/

section

variable {α : Type} [AddCommGroup α] [LT α] [DecidableLT α]

/-- What is gained from one value to the next is their difference and the value that is lost at a fall. -/
theorem gain_eq (previous next : α) :
    gain previous next = next - previous + if next < previous then previous else 0 := by
  rw [gain]
  split
  case isTrue => exact (sub_add_cancel next previous).symm
  case isFalse => exact (add_zero _).symm

theorem gains_cons_cons (first second : α) (rest : List α) :
    gains (first :: second :: rest) = gain first second :: gains (second :: rest) := rfl

theorem gains_append (before : List α) (boundary : α) (after : List α) :
    gains (before ++ boundary :: after) = gains (before ++ [boundary]) ++ gains (boundary :: after) := by
  rw [gains, neighbours_append, List.map_append]
  rfl

theorem lost_cons_cons (first second : α) (rest : List α) :
    lost (first :: second :: rest) =
      (if second < first then first else 0) + lost (second :: rest) := by
  rw [lost, falls, neighbours_cons_cons, List.filter_cons]
  by_cases hfalls : second < first
  · rw [if_pos (decide_eq_true hfalls), if_pos hfalls]
    rfl
  · rw [if_neg (mt of_decide_eq_true hfalls), if_neg hfalls, zero_add]
    rfl

/-- The differences between neighbours add up to that of the ends, beside all that is lost. -/
theorem sum_gains (first : α) (rest : List α) :
    (gains (first :: rest)).sum =
      (first :: rest).getLast (List.cons_ne_nil _ _) - first + lost (first :: rest) := by
  induction rest generalizing first with
  | nil => exact (add_eq_right.mpr (sub_self first)).symm
  | cons second rest ih =>
    rw [gains_cons_cons, List.sum_cons, ih, gain_eq, lost_cons_cons, List.getLast_cons_cons]
    abel

/-- The closed form of the increase is the sum of all gains. -/
theorem increaseFrom_eq_sum {values : List α} (hne : values ≠ []) :
    increaseFrom 0 values = some (gains values).sum := by
  obtain ⟨first, rest, rfl⟩ := List.exists_cons_of_ne_nil hne
  rw [sum_gains, lost, List.sum_eq_foldl, increaseFrom, List.getLast?_eq_getLast_of_ne_nil hne]
  rfl

theorem increaseFrom_append (before : List α) (boundary : α) (after : List α) :
    ∃ earlier later, increaseFrom 0 (before ++ [boundary]) = some earlier ∧
      increaseFrom 0 (boundary :: after) = some later ∧
      increaseFrom 0 (before ++ boundary :: after) = some (earlier + later) := by
  refine ⟨_, _, increaseFrom_eq_sum (by simp), increaseFrom_eq_sum (by simp), ?_⟩
  rw [increaseFrom_eq_sum (by simp), gains_append, List.sum_append]

end

theorem gains_nonneg {values : List ℚ} (h : ∀ value ∈ values, 0 ≤ value) :
    ∀ gained ∈ gains values, 0 ≤ gained := by
  intro gained hgained
  obtain ⟨⟨previous, next⟩, hpair, rfl⟩ := List.mem_map.mp hgained
  have hnext : 0 ≤ next := h next (List.mem_of_mem_drop (List.of_mem_zip hpair).2)
  rw [gain]
  split
  case isTrue => exact hnext
  case isFalse hgrows => exact sub_nonneg.mpr (not_lt.mp hgrows)

/-! ### Whole numbers -/

/-- The values that a counter has lost at falls and its last value are among its values. -/
theorem sizes_falls_le (first : Int) (rest : List Int) :
    (((falls (first :: rest)).map (·.1)).map Int.natAbs).sum +
        ((first :: rest).getLast (List.cons_ne_nil _ _)).natAbs ≤
      ((first :: rest).map Int.natAbs).sum := by
  induction rest generalizing first with
  | nil => exact (Nat.zero_add _).le
  | cons second rest ih =>
    have hrest := ih second
    rw [falls, neighbours_cons_cons, List.filter_cons, List.getLast_cons_cons, List.map_cons,
      List.sum_cons]
    rw [falls] at hrest
    split
    · rw [List.map_cons, List.map_cons, List.sum_cons]
      omega
    · omega

theorem natAbs_sum_le (numbers : List Int) : numbers.sum.natAbs ≤ (numbers.map Int.natAbs).sum := by
  induction numbers with
  | nil => exact Nat.le_refl 0
  | cons number numbers ih =>
    rw [List.sum_cons, List.map_cons, List.sum_cons]
    omega

/-- The increase of a counter of whole numbers is exact in doubles as long as their sizes come to no more than
`2 ^ 52`. -/
theorem increaseFrom_whole {values : List Double} {numbers : List Int} (hne : numbers ≠ [])
    (hnumbers : StandFor values (numbers.map fun number : Int => (number : ℚ)))
    (hsum : (numbers.map Int.natAbs).sum ≤ 2 ^ 52) :
    ∃ increase, increaseFrom neutral values = some increase ∧
      rational? increase = some ((gains numbers).sum : Int) := by
  have h : List.Forall₂ (fun x (number : Int) => rational? x = some (number : ℚ)) values numbers := by
    rwa [StandFor, List.forall₂_map_right_iff] at hnumbers
  have hfalls : List.Forall₂ (fun x (number : Int) => rational? x = some (number : ℚ))
      ((falls values).map (·.1)) ((falls numbers).map (·.1)) := by
    rw [List.forall₂_map_left_iff, List.forall₂_map_right_iff]
    refine (forall₂_falls (fun x x' number number' hx hx' => ?_) h).imp fun _ _ hpair => hpair.1
    exact (Number.lt_iff_of_rational? hx hx').trans Int.cast_lt
  obtain ⟨first, rest, rfl⟩ := List.exists_cons_of_ne_nil hne
  obtain ⟨x, xs, hfirst, hrest, rfl⟩ := List.forall₂_cons_right_iff.mp h
  have hlast := forall₂_getLast h
  have hends := sizes_falls_le first rest
  have hlost := natAbs_sum_le ((falls (first :: rest)).map (·.1))
  have hfirstSize : first.natAbs ≤ ((first :: rest).map Int.natAbs).sum := by
    rw [List.map_cons, List.sum_cons]
    exact Nat.le_add_right _ _
  have hnothing : rational? neutral = some ((0 : Int) : ℚ) := Number.rational?_zeroOf .negative
  have hresets := Number.rational?_foldl_add hfalls hnothing (by omega)
  rw [Int.zero_add] at hresets
  have hdifference := Number.rational?_sub_whole hlast hfirst (by omega)
  have htotal := Number.rational?_add_whole hdifference hresets (by omega)
  rw [sum_gains, lost]
  refine ⟨_, ?_, htotal⟩
  rw [increaseFrom, List.getLast?_eq_getLast_of_ne_nil (List.cons_ne_nil x xs)]
  rfl

/-- The increase of points is computed from their values with doubles, and resets are counted where something
lost is added.  In exact arithmetic the increase is the sum of what a counter gains from each value to the next,
so it is not negative when no value is, adds up over windows that share a point, and is the same when a value is
repeated, which holds of doubles as well.  Finite doubles fall where the rationals do that they stand for, and
the increase of whole numbers is exact as long as their sizes come to no more than `2 ^ 52`. -/
theorem increase_telescopes :
    (∀ width points,
      RangeFunction.reduce width points .increase = increaseFrom neutral (values points) ∧
      RangeFunction.reduce width points .resets = some (ofNat (falls (values points)).length)) ∧
    (∀ values : List ℚ, values ≠ [] →
      increaseFrom 0 values = some (gains values).sum ∧
      ((∀ value ∈ values, 0 ≤ value) → 0 ≤ (gains values).sum)) ∧
    (∀ (before : List ℚ) (boundary : ℚ) (after : List ℚ),
      ∃ earlier later, increaseFrom 0 (before ++ [boundary]) = some earlier ∧
        increaseFrom 0 (boundary :: after) = some later ∧
        increaseFrom 0 (before ++ boundary :: after) = some (earlier + later)) ∧
    (∀ (before : List ℚ) (value : ℚ) (after : List ℚ),
      increaseFrom 0 (before ++ value :: value :: after) =
        increaseFrom 0 (before ++ value :: after)) ∧
    (∀ before after (point other : Point), other.value = point.value →
      counterIncrease (before ++ point :: other :: after) =
        counterIncrease (before ++ point :: after)) ∧
    (∀ points exact, StandFor (values points) exact →
      List.Forall₂ (fun pair other => rational? pair.1 = some other.1 ∧ rational? pair.2 = some other.2)
        (falls (values points)) (falls exact)) ∧
    ∀ points (numbers : List Int), numbers ≠ [] →
      StandFor (values points) (numbers.map fun number : Int => (number : ℚ)) →
      (numbers.map Int.natAbs).sum ≤ 2 ^ 52 →
      ∃ increase, counterIncrease points = some increase ∧
        rational? increase = some ((gains numbers).sum : Int) := by
  refine ⟨fun width points => ⟨counterIncrease_eq points, reduce_resets width points⟩, ?sums,
    increaseFrom_append, ?repeated, counterIncrease_repeated, ?falls, ?whole⟩
  case sums =>
    intro values hne
    exact ⟨increaseFrom_eq_sum hne, fun hnonneg => List.sum_nonneg (gains_nonneg hnonneg)⟩
  case repeated =>
    intro before value after
    exact increaseFrom_repeated (lt_irrefl value) 0 before after
  case falls =>
    intro points exact hexact
    exact forall₂_falls (fun _ _ _ _ => Number.lt_iff_of_rational?) hexact
  case whole =>
    intro points numbers hne hnumbers hsum
    rw [counterIncrease_eq]
    exact increaseFrom_whole hne hnumbers hsum

/-- A counter of requests is reset once: in two windows, with a value repeated at the point that they share, it
gains as much as in one. -/
theorem requests_with_one_reset :
    let points : List Point := [0.0, 60.0, 120.0, 10.0, 70.0].map fun value => ⟨1000, value⟩
    let numbers : List Int := [0, 60, 120, 10, 70]
    let exact : List ℚ := numbers.map fun number : Int => (number : ℚ)
    StandFor (values points) exact ∧ numbers ≠ [] ∧ (numbers.map Int.natAbs).sum ≤ 2 ^ 52 ∧
      exact ≠ [] ∧ (∀ value ∈ exact, 0 ≤ value) ∧
      (∃ increase, counterIncrease points = some increase ∧ rational? increase = some (190 : Int)) ∧
      RangeFunction.reduce 300000 points .resets = some (ofNat (falls exact).length) ∧
      increaseFrom 0 exact = some 190 ∧ (0 : ℚ) ≤ 190 ∧
      (∃ earlier later : ℚ, increaseFrom 0 [0, 60, 120] = some earlier ∧
        increaseFrom 0 [120, 10, 70] = some later ∧ increaseFrom 0 exact = some (earlier + later)) ∧
      increaseFrom 0 [0, 60, 120, 120, 10, 70] = some (190 : ℚ) ∧
      counterIncrease (points ++ [⟨2000, 70.0⟩]) = counterIncrease points := by
  intro points numbers exact
  obtain ⟨hpoints, hsums, hparts, hrepeated, hsame, hfalls, hwhole⟩ := increase_telescopes
  obtain ⟨-, hresets⟩ := hpoints 300000 points
  have hexact : StandFor (values points) exact := by
    have hvalues : values points = [0, 60, 120, 10, 70].map ofNat := by rfl
    have hcounts : exact = [0, 60, 120, 10, 70].map fun count : Nat => (count : ℚ) := by
      norm_num [exact, numbers]
    have hfew : ∀ count ∈ [0, 60, 120, 10, 70], count ≤ 2 ^ 53 := by decide
    rw [StandFor, hvalues, hcounts, List.forall₂_map_left_iff, List.forall₂_map_right_iff,
      List.forall₂_same]
    exact fun count hcount => Number.rational?_ofNat (hfew count hcount)
  have hne : numbers ≠ [] := List.cons_ne_nil _ _
  have hsmall : (numbers.map Int.natAbs).sum ≤ 2 ^ 52 := by decide
  have hgainsWhole : (gains numbers).sum = 190 := by decide
  have hlist : exact = [0, 60] ++ 120 :: [10, 70] := by norm_num [exact, numbers]
  have hexactNe : exact ≠ [] := List.cons_ne_nil _ _
  have hnonneg : ∀ value ∈ exact, 0 ≤ value := by
    rw [hlist]
    norm_num
  have hgains : (gains exact).sum = 190 := by norm_num [hlist, gains, neighbours, gain]
  obtain ⟨hincrease, hnotNegative⟩ := hsums exact hexactNe
  rw [hgains] at hincrease hnotNegative
  have hdoubles := hwhole points numbers hne hexact hsmall
  rw [hgainsWhole] at hdoubles
  refine ⟨hexact, hne, hsmall, hexactNe, hnonneg, hdoubles, ?_, hincrease, hnotNegative hnonneg, ?_, ?_, ?_⟩
  · rw [hresets, (hfalls points exact hexact).length_eq]
  · rw [hlist]
    exact hparts [0, 60] 120 [10, 70]
  · rw [← hincrease, hlist]
    exact hrepeated [0, 60] 120 [10, 70]
  · exact hsame (points.take 4) [] ⟨1000, 70.0⟩ ⟨2000, 70.0⟩ rfl

end MetricBench.Query
