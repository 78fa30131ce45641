import Descent.Failure
import Descent.Text.Quoted
import Descent.Trace

/-!
Traces as documents.

An entry is written as an array: the kind of entry or the level of the event, then a name or
message, then the fields.
-/

namespace Descent

def Span.name : Span → String
  | parse .. => "parse"
  | rule .. => "rule"

/-- What a span tells when it is entered. -/
def Span.fields : Span → List (String × Value)
  | parse start length => [("start", .nat start), ("len", .nat length)]
  | rule name start => [("name", .str name), ("start", .nat start)]

namespace Event

/-- How much attention an event deserves. -/
def level : Event → String
  | stalled _ | grammarError _ => "WARN"
  | parseSucceeded _ | parseFailed .. => "DEBUG"
  | _ => "TRACE"

def message : Event → String
  | firstFailedSoftly _ => "first alternative failed softly, trying second"
  | firstCommitted .. => "first alternative consumed input, committing"
  | alternativeFailedSoftly .. => "alternative failed softly"
  | alternativeCommitted .. => "alternative consumed input, committing"
  | rewound .. => "rewinding failed attempt"
  | stalled _ => "repeated parser consumed no input, aborting parse"
  | matched _ => "matched"
  | failed .. => "failed"
  | aborted _ => "aborted"
  | parseSucceeded _ => "parse succeeded"
  | parseFailed .. => "parse failed"
  | grammarError _ => "grammar error"

def fields : Event → List (String × Value)
  | firstFailedSoftly index => [("index", .nat index)]
  | firstCommitted start reached => [("start", .nat start), ("reached", .nat reached)]
  | alternativeFailedSoftly index position =>
    [("index", .nat index), ("alternative", .nat position)]
  | alternativeCommitted start reached position =>
    [("start", .nat start), ("reached", .nat reached), ("alternative", .nat position)]
  | rewound start reached => [("start", .nat start), ("reached", .nat reached)]
  | stalled index => [("index", .nat index)]
  | matched stop => [("end", .nat stop)]
  | failed stop labels => [("end", .nat stop), ("expected", .nat labels)]
  | aborted index => [("error", .str (stalledMessage index))]
  | parseSucceeded stop => [("end", .nat stop)]
  | parseFailed index expected =>
    [("index", .nat index), ("expected", .str (Text.quoteAll expected))]
  | grammarError index => [("error", .str (stalledMessage index))]

end Event

def Entry.toValue : Entry → Value
  | enter span => .arr [.str "enter", .str span.name, .object span.fields]
  | exit span => .arr [.str "exit", .str span.name]
  | event e => .arr [.str e.level, .str e.message, .object e.fields]

end Descent
