import Descent.Parser.Sequence

/-!
Parsers that look at the input without moving on.
-/

namespace Descent.Parser

variable {α β : Type}

/-- Runs the parser and goes back to the start; a soft failure keeps its labels. -/
def lookahead (p : Parser α) : Parser α := fun input s =>
  (p input s).resume (fun v _ => .success v s) fun failed =>
    if failed.index = s.index then .failure (s.withExpected failed.expected) else .failure s

/-- Succeeds where the parser fails softly and fails where it succeeds, at the start both times. -/
def not (p : Parser α) : Parser Unit := fun input s =>
  (p input s).resume (fun _ _ => .failure s) fun failed =>
    if failed.index = s.index then .success () s else .failure failed

/-- Runs the first parser, where the second must fail softly after it. -/
def notFollowedBy (p : Parser α) (q : Parser β) : Parser α := p.seqLeft q.not

end Descent.Parser
