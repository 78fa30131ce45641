import Descent.Value

/-!
The state of a parse: an offset, the labels expected there, and a context.

Labels collect while parsers fail at one offset and start over as soon as input matches. The context
holds named values that a grammar writes and reads.
-/

namespace Descent

/-- The state that parsers hand on. -/
@[ext]
structure State where
  /-- The byte offset into the input. -/
  index : Nat
  /-- The labels of what failed at this offset, oldest first. -/
  expected : List String
  /-- The values that the grammar has remembered. -/
  context : Fields Value
  deriving DecidableEq

namespace State

/-- The state that a parse starts from: offset zero, no labels, an empty context. -/
def start : State := ⟨0, [], .empty⟩

instance : Inhabited State := ⟨start⟩

/-- The state after `n` bytes matched: the labels start over. -/
def advance (s : State) (n : Nat) : State := ⟨s.index + n, [], s.context⟩

/-- The state after a failed match: the label is recorded behind the others. -/
def expecting (s : State) (label : String) : State := { s with expected := s.expected ++ [label] }

/-- The state with the labels of another state at its offset. -/
def withExpected (s : State) (labels : List String) : State := { s with expected := labels }

/-- The state at another offset, with its labels and context. -/
def withIndex (s : State) (n : Nat) : State := { s with index := n }

/-- The state in which the context holds `value` under `key`. -/
def withContext (s : State) (key : String) (value : Value) : State :=
  { s with context := s.context.insert key value }

/-- The state in which the context holds nothing under `key`. -/
def withoutContext (s : State) (key : String) : State :=
  { s with context := s.context.erase key }

def lookup? (s : State) (key : String) : Option Value := s.context.find? key

@[simp] theorem index_advance (s : State) (n : Nat) : (s.advance n).index = s.index + n := rfl

@[simp] theorem expected_advance (s : State) (n : Nat) : (s.advance n).expected = [] := rfl

@[simp] theorem context_advance (s : State) (n : Nat) : (s.advance n).context = s.context := rfl

@[simp] theorem index_expecting (s : State) (l : String) : (s.expecting l).index = s.index := rfl

@[simp] theorem expected_expecting (s : State) (l : String) :
    (s.expecting l).expected = s.expected ++ [l] := rfl

@[simp] theorem context_expecting (s : State) (l : String) :
    (s.expecting l).context = s.context := rfl

@[simp] theorem index_withExpected (s : State) (ls : List String) :
    (s.withExpected ls).index = s.index := rfl

@[simp] theorem expected_withExpected (s : State) (ls : List String) :
    (s.withExpected ls).expected = ls := rfl

@[simp] theorem context_withExpected (s : State) (ls : List String) :
    (s.withExpected ls).context = s.context := rfl

@[simp] theorem withExpected_expected (s : State) : s.withExpected s.expected = s := rfl

@[simp] theorem withExpected_withExpected (s : State) (ls ms : List String) :
    (s.withExpected ls).withExpected ms = s.withExpected ms := rfl

/-- A field written is the field read. -/
theorem lookup?_withContext (s : State) (key other : String) (v : Value) :
    (s.withContext key v).lookup? other = if other = key then some v else s.lookup? other :=
  Fields.find?_insert ..

/-- A field removed is gone, and the others stay. -/
theorem lookup?_withoutContext (s : State) (key other : String) :
    (s.withoutContext key).lookup? other = if other = key then none else s.lookup? other :=
  Fields.find?_erase ..

end State

/-- A change that a parser makes to the state without reading input. -/
inductive Change where
  /-- Remember a value in the context. -/
  | put (key : String) (value : Value)
  /-- Forget a value of the context. -/
  | drop (key : String)
  /-- Go to another offset, with labels and context as they are. -/
  | seek (index : Nat)

def State.apply (s : State) : Change → State
  | .put key value => s.withContext key value
  | .drop key => s.withoutContext key
  | .seek index => s.withIndex index

end Descent
