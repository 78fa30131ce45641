import Descent.Input
import Descent.Reply

/-!
Parsers, and those that do not read the input.

A parser turns an input and a state into a run. The ones here succeed, fail, test for the end of the
input, or read and write the state.
-/

namespace Descent

def Parser (α : Type) : Type := Input → State → Run α

namespace Parser

variable {α : Type}

/-- Succeeds with `v` and reads nothing. -/
def pure (v : α) : Parser α := fun _ s => .success v s

/-- Fails where it stands, and expects nothing. -/
def fail : Parser α := fun _ s => .failure s

/-- Never answers: what a reference stands for that no recursion is left for. -/
def exhausted : Parser α := fun _ _ => .exhausted

/-- Succeeds where no input is left, also past the end. -/
def eof : Parser Unit := fun input s =>
  if input.byteLength ≤ s.index then .success () s else .failure (s.expecting "end of input")

def getState : Parser State := fun _ s => .success s s

/-- Replaces the state, whatever it was. -/
def setState (new : State) : Parser Unit := fun _ _ => .success () new

/-- Yields what the context holds under a key. -/
def lookup (key : String) : Parser (Option Value) := fun _ s => .success (s.lookup? key) s

def change (c : Change) : Parser Unit := fun _ s => .success () (s.apply c)

end Parser

end Descent
