import Descent.Parser

/-!
Parsers one after the other.

Each combinator here runs its parts in order, each from the state that the one before it left, and
ends with the first part that does not succeed.
-/

namespace Descent.Parser

variable {α β γ : Type}

def map (f : α → β) (p : Parser α) : Parser β := fun input s =>
  (p input s).resume (fun v t => .success (f v) t) .failure

/-- Goes on with a parser chosen by the value. -/
def chain (p : Parser α) (next : α → Parser β) : Parser β := fun input s =>
  (p input s).resume (fun v t => next v input t) .failure

def seqRight (p : Parser α) (q : Parser β) : Parser β := fun input s =>
  (p input s).resume (fun _ t => q input t) .failure

def seqLeft (p : Parser α) (q : Parser β) : Parser α := fun input s =>
  (p input s).resume (fun v t => (q input t).resume (fun _ u => .success v u) .failure) .failure

/-- Runs all three and yields the value of the middle one. -/
def between (left : Parser α) (p : Parser β) (right : Parser γ) : Parser β := fun input s =>
  (left input s).resume
    (fun _ t => (p input t).resume
      (fun v u => (right input u).resume (fun _ w => .success v w) .failure) .failure) .failure

def seq : List (Parser α) → Parser (List α)
  | [] => pure []
  | p :: ps => fun input s =>
    (p input s).resume
      (fun v t => (seq ps input t).resume (fun vs u => .success (v :: vs) u) .failure) .failure

/-- Runs a parser and, when it succeeds, takes the whole state back to where it started. -/
def restoring (p : Parser α) : Parser α := fun input s =>
  (p input s).resume (fun v _ => .success v s) .failure

end Descent.Parser
