import Descent.Parser

/-!
Parsers that refer to themselves.

A table of parsers is written as a function from the parsers that the names stand for to the parsers
that define them. `unfold n` resolves the names, `n` levels deep; below that a name has no answer.
`unfold_succ` is the defining equation.
-/

namespace Descent.Parser

variable {ρ α : Type}

/-- How many levels of references are resolved where nothing else limits them. -/
def depthLimit : Nat := 0x100000

/-- How many levels of references share one stack. -/
def levelsPerStack : Nat := 256

/-- The run, computed on a stack of its own. -/
def onFreshStack (r : Unit → Run α) : Run α := (Task.spawn r .dedicated).get

@[simp] theorem onFreshStack_eq (r : Unit → Run α) : onFreshStack r = r () := rfl

/-- The parsers that a table defines, with references resolved `n` levels deep. -/
def unfold (table : (ρ → Parser α) → ρ → Parser α) : Nat → ρ → Parser α
  | 0, _ => exhausted
  | n + 1, rule => fun input s =>
    if n % levelsPerStack = 0 then onFreshStack fun _ => table (unfold table n) rule input s
    else table (unfold table n) rule input s

theorem unfold_zero (table : (ρ → Parser α) → ρ → Parser α) (rule : ρ) :
    unfold table 0 rule = exhausted := rfl

/-- A name stands for its definition, in which names are resolved one level less deep. -/
theorem unfold_succ (table : (ρ → Parser α) → ρ → Parser α) (n : Nat) (rule : ρ) :
    unfold table (n + 1) rule = table (unfold table n) rule := by
  funext input s
  simp [unfold]

end Descent.Parser
