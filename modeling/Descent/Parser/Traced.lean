import Descent.Parser

/-!
Named parsers, which the trace shows.
-/

namespace Descent

/-- The event that closes the span of a named parser with the given reply. -/
def Reply.closing : Reply α → Event
  | success _ s => .matched s.index
  | failure s => .failed s.index s.expected.length
  | stalled i => .aborted i

/-- Runs the parser inside a span of the given name, and leaves its reply as it is. -/
def Parser.traced (name : String) (p : Parser α) : Parser α := fun input s =>
  let span := Span.rule name s.index
  let r := p input s
  match r.reply? with
  | some reply =>
    ⟨some reply, .entry (.enter span) ++ r.log ++ .event reply.closing ++ .entry (.exit span)⟩
  | none => ⟨none, .entry (.enter span) ++ r.log⟩

end Descent
