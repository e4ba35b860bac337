import MetricBench.Number.Double

/-!
# JSON values

A JSON document as a value.  Numbers are doubles, and of several members of an object with one key
only the last is kept.
-/

namespace MetricBench.Json

/-- A JSON value. -/
inductive Value where
  | null
  | bool (value : Bool)
  | number (value : Double)
  | string (text : String)
  | array (elements : List Value)
  | object (members : List (String × Value))

/-- The members of an object that count among those that are written: of several with one key the last. -/
def lastMembers : List (String × Value) → List (String × Value)
  | [] => []
  | member :: rest =>
    if rest.any (·.1 == member.1) then lastMembers rest else member :: lastMembers rest

theorem find?_lastMembers (members : List (String × Value)) (key : String) :
    (lastMembers members).find? (·.1 == key) = members.reverse.find? (·.1 == key) := by
  induction members with
  | nil => rfl
  | cons member rest ih =>
    rw [lastMembers, List.reverse_cons, List.find?_append]
    split
    case isTrue hlater =>
      rw [ih]
      cases hfound : rest.reverse.find? (·.1 == key) with
      | some found => rfl
      | none =>
        -- a later member has the key of this one, and none has the key that is asked for
        obtain ⟨other, hother, hsame⟩ := List.any_eq_true.mp hlater
        have hkey := List.find?_eq_none.mp hfound other (List.mem_reverse.mpr hother)
        rw [beq_iff_eq] at hsame
        rw [hsame] at hkey
        simp [hkey]
    case isFalse hlater =>
      rw [List.find?_cons, ih]
      cases hmember : member.1 == key with
      | true =>
        have hnone : rest.reverse.find? (·.1 == key) = none := by
          rw [List.find?_eq_none]
          intro other hother hsame
          rw [beq_iff_eq] at hmember hsame
          refine hlater (List.any_eq_true.mpr ⟨other, List.mem_reverse.mp hother, ?_⟩)
          rw [hsame, hmember]
          exact beq_self_eq_true key
        simp [hnone, hmember]
      | false => simp [hmember]

namespace Value

/-- The member of an object with the given key. -/
def member? (value : Value) (key : String) : Option Value :=
  match value with
  | object members => (members.find? fun member => member.1 == key).map (·.2)
  | _ => none

def string? : Value → Option String
  | string text => some text
  | _ => none

def number? : Value → Option Double
  | number value => some value
  | _ => none

def array? : Value → Option (List Value)
  | array elements => some elements
  | _ => none

def object? : Value → Option (List (String × Value))
  | object members => some members
  | _ => none

end Value

end MetricBench.Json
