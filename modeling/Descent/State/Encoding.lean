import Descent.State

/-!
States as documents.

A state is written as an object with the fields `index`, `expected` and `context`. It is read from
such an object, whatever other fields stand beside them, and from the array of the three values in
that order. Nothing else reads as a state.
-/

namespace Descent.State

def toValue (s : State) : Value :=
  .obj [("context", .obj s.context.entries), ("expected", .arr (s.expected.map .str)),
    ("index", .nat s.index)]

/-- Reads an offset: an integer that is a 64-bit word. -/
def indexOfValue? : Value → Option Nat
  | .int n => if 0 ≤ n ∧ n ≤ maxWord then some n.toNat else none
  | _ => none

/-- Reads a list of labels: an array of strings. -/
def labelsOfValue? : Value → Option (List String)
  | .arr vs => vs.mapM fun
    | .str s => some s
    | _ => none
  | _ => none

/-- Reads a context: an object with any values. -/
def contextOfValue? : Value → Option (Fields Value)
  | .obj fields => some (.ofList fields)
  | _ => none

/-- Reads a state from its three parts. -/
def ofParts? (index expected context : Value) : Option State := do
  return ⟨← indexOfValue? index, ← labelsOfValue? expected, ← contextOfValue? context⟩

def ofValue? : Value → Option State
  | .obj fields => do
    ofParts? (← findField? "index" fields) (← findField? "expected" fields)
      (← findField? "context" fields)
  | .arr [index, expected, context] => ofParts? index expected context
  | _ => none

/-! ## What reads as a part -/

variable {v index expected context : Value}

theorem indexOfValue?_eq_some_iff {n : Nat} :
    indexOfValue? v = some n ↔ v = .nat n ∧ n ≤ maxWord := by
  cases v with
  | int k =>
    simp only [indexOfValue?, Value.nat, Option.ite_none_right_eq_some, Option.some.injEq,
      Value.int.injEq]
    omega
  | _ => simp [indexOfValue?, Value.nat]

theorem labelsOfValue?_cons_str (t : String) (vs : List Value) :
    labelsOfValue? (.arr (.str t :: vs)) = (labelsOfValue? (.arr vs)).map (t :: ·) := by
  simp only [labelsOfValue?, List.mapM_cons, Option.map_eq_bind]
  rfl

theorem labelsOfValue?_cons_of_ne (h : ∀ t, v ≠ .str t) (vs : List Value) :
    labelsOfValue? (.arr (v :: vs)) = none := by
  simp only [labelsOfValue?, List.mapM_cons]
  cases v with
  | str t => exact absurd rfl (h t)
  | _ => rfl

theorem labelsOfValue?_strings (labels : List String) :
    labelsOfValue? (.arr (labels.map .str)) = some labels := by
  induction labels with
  | nil => rfl
  | cons t labels ih => rw [List.map_cons, labelsOfValue?_cons_str, ih, Option.map_some]

theorem labelsOfValue?_eq_some_iff {labels : List String} :
    labelsOfValue? v = some labels ↔ v = .arr (labels.map .str) := by
  refine ⟨fun h => ?_, fun h => h ▸ labelsOfValue?_strings labels⟩
  cases v with
  | arr vs =>
    induction vs generalizing labels with
    | nil =>
      obtain rfl : [] = labels := Option.some.inj h
      rfl
    | cons l vs ih =>
      by_cases string : ∃ t, l = .str t
      · obtain ⟨t, rfl⟩ := string
        rw [labelsOfValue?_cons_str, Option.map_eq_some_iff] at h
        obtain ⟨labels, h, rfl⟩ := h
        obtain rfl : vs = labels.map .str := Value.arr.inj (ih h)
        rfl
      · rw [labelsOfValue?_cons_of_ne (not_exists.1 string)] at h
        cases h
  | _ => cases h

theorem contextOfValue?_eq_some_iff {fields : Fields Value} :
    contextOfValue? v = some fields ↔ ∃ pairs, v = .obj pairs ∧ .ofList pairs = fields := by
  cases v <;> simp [contextOfValue?]

theorem ofParts?_eq_some_iff {s : State} :
    ofParts? index expected context = some s ↔
      (index = .nat s.index ∧ s.index ≤ maxWord) ∧ expected = .arr (s.expected.map .str) ∧
        ∃ pairs, context = .obj pairs ∧ .ofList pairs = s.context := by
  rw [← indexOfValue?_eq_some_iff, ← labelsOfValue?_eq_some_iff, ← contextOfValue?_eq_some_iff,
    ofParts?]
  obtain ⟨n, labels, fields⟩ := s
  rcases indexOfValue? index with _ | m <;> rcases labelsOfValue? expected with _ | ls <;>
    rcases contextOfValue? context with _ | fs <;> simp

end Descent.State
