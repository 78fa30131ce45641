import Descent.Parser
import Descent.Regex.Pattern

/-!
Parsers that read the input.

Each looks at what the input holds from the index on, and fails where that is not defined: past the
end or inside a character. A match, also an empty one, moves the index on by the bytes it takes and
starts the labels over. A failure stays where it is and records a label.
-/

namespace Descent.Parser

/-- Reads what `step?` takes from the rest of the input: a value and a number of bytes. -/
def reading (label : String) (step? : List Char → Option (α × Nat)) : Parser α := fun input s =>
  match (input.suffix? s.index).bind step? with
  | some (v, n) => .success v (s.advance n)
  | none => .failure (s.expecting label)

/-- Reads exactly the given text, which is also the label. -/
def literal (text : String) : Parser String := reading text fun rest =>
  if text.toList.isPrefixOf rest then some (text, utf8Length text.toList) else none

def satisfy (accepts : Char → Bool) (label : String) : Parser Char := reading label fun
  | c :: _ => if accepts c then some (c, c.utf8Size) else none
  | [] => none

/-- Reads as many accepted characters as there are, and at least one. -/
def takeWhile1 (accepts : Char → Bool) (label : String) : Parser (List Char) :=
  reading label fun rest =>
    let run := rest.takeWhile accepts
    if run = [] then none else some (run, utf8Length run)

/-- Reads as many bytes as the leftmost match of a pattern takes, and yields the matched text. -/
def pattern (p : Program) (label : String) : Parser (List Char) := reading label fun rest =>
  (p.find? rest).map fun found => (found.text, utf8Length found.text)

end Descent.Parser
