import Descent.Result
import Descent.State.Encoding

/-!
Results as documents.
-/

namespace Descent

def Failure.fields (f : Failure) : List (String × Value) :=
  [("index", .nat f.index), ("expected", .arr (f.expected.map .str)),
    ("remaining", .chars f.remaining), ("message", .str f.message)]

def stalledFields (index : Nat) : List (String × Value) :=
  [("error", .str "NonConsumingRepetition"), ("index", .nat index),
    ("message", .str (stalledMessage index))]

def Result.fields : Result Value → List (String × Value)
  | parsed p =>
    [("value", p.value), ("consumed", .chars p.consumed), ("remaining", .chars p.remaining),
      ("state", p.state.toValue)]
  | failed f => ("error", .str "Failed") :: f.fields
  | stalled i => stalledFields i

/-- The fields of the reply of a parser that started at an offset. -/
def Reply.fields (start : Nat) : Reply Value → List (String × Value)
  | success v s =>
    [("success", .bool true), ("value", v), ("moved", .bool (s.index ≠ start)),
      ("state", s.toValue)]
  | failure s =>
    [("success", .bool false), ("moved", .bool (s.index ≠ start)), ("state", s.toValue)]
  | stalled i => stalledFields i

end Descent
