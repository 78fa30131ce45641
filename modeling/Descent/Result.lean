import Descent.Failure
import Descent.Grammar

/-!
Running a parser on an input.

`Parser.runFrom` runs a parser from a state inside a span of the trace, and reports what was
consumed and what remains, or why the parse did not succeed.
-/

namespace Descent

/-- The report of a parse that succeeded. -/
structure Parsed (α : Type) where
  value : α
  /-- The input between the two indices; nothing if they are out of order or split no text. -/
  consumed : List Char
  /-- The input from the last index on. -/
  remaining : List Char
  state : State

/-- How the run of a parser ends. -/
inductive Result (α : Type) where
  | parsed (p : Parsed α)
  | failed (f : Failure)
  /-- A repetition stalled in the round that started at `index`. -/
  | stalled (index : Nat)

namespace Result

variable {α : Type}

/-- The report of a reply, for a parse that started at an offset. -/
def ofReply (input : Input) (start : Nat) : Reply α → Result α
  | .success v s =>
    .parsed ⟨v, (input.slice? start s.index).getD [], input.suffixD s.index, s⟩
  | .failure s => .failed (.ofState input s)
  | .stalled i => .stalled i

/-- The event that ends the span of a parse. -/
def closing : Result α → Event
  | parsed p => .parseSucceeded p.state.index
  | failed f => .parseFailed f.index f.expected
  | stalled i => .grammarError i

end Result

/-- What running a parser gives: a report, unless the recursion ran too deep, and a log. -/
structure Report (α : Type) where
  result? : Option (Result α)
  log : Log

def Parser.runFrom (p : Parser α) (input : Input) (s : State) : Report α :=
  let span := Span.parse s.index input.byteLength
  let r := p input s
  match r.reply? with
  | some reply =>
    let result := Result.ofReply input s.index reply
    ⟨some result,
      .entry (.enter span) ++ r.log ++ .event result.closing ++ .entry (.exit span)⟩
  | none => ⟨none, .entry (.enter span) ++ r.log⟩

def Parser.run (p : Parser α) (input : Input) : Report α := p.runFrom input .start

end Descent
