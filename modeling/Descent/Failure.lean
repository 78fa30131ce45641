import Descent.Input
import Descent.State

/-!
Reports of what went wrong.

A failure report tells how far the parse came, what would have let it go on there, each label once,
and the input that is left. The other report is that of a repetition that stalled.
-/

namespace Descent

/-- The report of a parse that did not match. -/
structure Failure where
  index : Nat
  /-- What was expected, each label once, in the order of first mention. -/
  expected : List String
  /-- The input from the index on; nothing if the index splits no text. -/
  remaining : List Char
  deriving DecidableEq

namespace Failure

def ofState (input : Input) (s : State) : Failure :=
  ⟨s.index, s.expected.eraseDups, input.suffixD s.index⟩

/-- An enumeration of labels. -/
def enumerate : List String → String
  | [] => "nothing matchable"
  | [a] => a
  | [a, b] => a ++ " or " ++ b
  | labels => ", ".intercalate labels.dropLast ++ ", or " ++ labels.getLastD ""

/-- The report in one sentence. -/
def message (f : Failure) : String :=
  "expected " ++ enumerate f.expected ++ " at offset " ++ Nat.repr f.index

end Failure

/-- The report of a repetition that stalled in the round that started at an offset. -/
def stalledMessage (index : Nat) : String :=
  "repeated parser succeeded at offset " ++ Nat.repr index ++
    " without consuming input; a repeated parser must consume input to terminate"

/-- How the report of a pattern begins that is not well formed. What the full report says behind a
colon, the fault that the engine has found, is left out. -/
def invalidPatternMessage (pattern : String) : String := "invalid pattern `" ++ pattern ++ "`"

end Descent
