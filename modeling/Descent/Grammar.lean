import Descent.Parser.Choice
import Descent.Parser.Lookahead
import Descent.Parser.Recursive
import Descent.Parser.Repetition
import Descent.Parser.Separated
import Descent.Parser.Sequence
import Descent.Parser.Text
import Descent.Parser.Traced
import Descent.State.Encoding

/-!
Grammars as data.

A grammar is a parser taken apart: it names the combinators it is built from, so that it can be
inspected and transformed. Its references name the rules of a table, the type `ρ` holding the names.
`Grammar.parser` puts the parser together again, and `Grammar.parserWith` resolves the references up
to a depth. All parsers of a grammar yield `Value`s.
-/

namespace Descent

/-- A grammar, whose references are names of type `ρ`. -/
inductive Grammar (ρ : Type) where
  | pure (v : Value)
  | fail
  | eof
  | literal (text : String)
  | satisfy (accepts : Char → Bool) (label : String)
  | takeWhile1 (accepts : Char → Bool) (label : String)
  | pattern (program : Program) (label : String)
  | getState
  | setState (new : State)
  | lookup (key : String)
  | change (c : Change)
  | restoring (p : Grammar ρ)
  | map (f : Value → Value) (p : Grammar ρ)
  | chain (p : Grammar ρ) (next : Value → Grammar ρ)
  | seqRight (p q : Grammar ρ)
  | seqLeft (p q : Grammar ρ)
  | between (left p right : Grammar ρ)
  | seq (ps : List (Grammar ρ))
  | or (p q : Grammar ρ)
  | alt (ps : List (Grammar ρ))
  | attempt (label? : Option String) (p : Grammar ρ)
  | maybe (p : Grammar ρ)
  | lookahead (p : Grammar ρ)
  | not (p : Grammar ρ)
  | times (min : Nat) (max : Option Nat) (p : Grammar ρ)
  | sepBy (nonEmpty : Bool) (p sep : Grammar ρ)
  | traced (name : String) (p : Grammar ρ)
  | ref (rule : ρ)

namespace Grammar

variable {ρ : Type}

/-- The parser of a unit value, with `null` for it. -/
def unit (p : Parser Unit) : Parser Value := p.map fun _ => .null

mutual

/-- The parser that a grammar describes, where `rules` are the parsers of the names. -/
def parser (rules : ρ → Parser Value) : Grammar ρ → Parser Value
  | .pure v => Parser.pure v
  | fail => Parser.fail
  | eof => unit Parser.eof
  | literal text => (Parser.literal text).map .str
  | satisfy accepts label => (Parser.satisfy accepts label).map .char
  | takeWhile1 accepts label => (Parser.takeWhile1 accepts label).map .chars
  | pattern program label => (Parser.pattern program label).map .chars
  | getState => Parser.getState.map State.toValue
  | setState new => unit (Parser.setState new)
  | lookup key => (Parser.lookup key).map .option
  | change c => unit (Parser.change c)
  | restoring p => (p.parser rules).restoring
  | .map f p => (p.parser rules).map f
  | chain p next => (p.parser rules).chain fun v => (next v).parser rules
  | seqRight p q => (p.parser rules).seqRight (q.parser rules)
  | seqLeft p q => (p.parser rules).seqLeft (q.parser rules)
  | between left p right => (left.parser rules).between (p.parser rules) (right.parser rules)
  | .seq ps => (Parser.seq (parsers rules ps)).map .arr
  | or p q => (p.parser rules).or (q.parser rules)
  | alt ps => Parser.alt (parsers rules ps)
  | attempt label? p => (p.parser rules).attempt label?
  | maybe p => (p.parser rules).maybe.map .option
  | lookahead p => (p.parser rules).lookahead
  | not p => unit (p.parser rules).not
  | times min max p => ((p.parser rules).times min max).map .arr
  | sepBy nonEmpty p sep => ((p.parser rules).sepBy nonEmpty (sep.parser rules)).map .arr
  | traced name p => (p.parser rules).traced name
  | ref rule => rules rule

def parsers (rules : ρ → Parser Value) : List (Grammar ρ) → List (Parser Value)
  | [] => []
  | p :: ps => p.parser rules :: parsers rules ps

end

/-- The parser of a rule of a table, with references resolved `depth` levels deep. -/
def ruleParser (table : ρ → Grammar ρ) (depth : Nat) : ρ → Parser Value :=
  Parser.unfold (fun rules rule => (table rule).parser rules) depth

/-- The parser of a grammar over a table of rules, with references resolved `depth` levels deep. -/
def parserWith (table : ρ → Grammar ρ) (depth : Nat) (g : Grammar ρ) : Parser Value :=
  g.parser (ruleParser table depth)

/-! ## Derived grammars -/

/-- Runs the grammar, and yields the given value where it fails softly. -/
def fallback (p : Grammar ρ) (v : Value) : Grammar ρ := p.or (.pure v)

/-- Runs the grammar, where the second must fail softly after it. -/
def notFollowedBy (p q : Grammar ρ) : Grammar ρ := p.seqLeft q.not

/-- Gives the grammar a name that stands for all that it expects. -/
def label (name : String) (p : Grammar ρ) : Grammar ρ := p.attempt (some name)

def many (p : Grammar ρ) : Grammar ρ := p.times 0 none

def atMost (max : Nat) (p : Grammar ρ) : Grammar ρ := p.times 0 (some max)

/-- Repeats the grammar as often as it succeeds, and fails where that is fewer than `min` times. -/
def atLeast (min : Nat) (p : Grammar ρ) : Grammar ρ := p.times min none

/-- Remembers the value of the grammar in the context. -/
def store (key : String) (p : Grammar ρ) : Grammar ρ := p.chain fun v => .change (.put key v)

end Grammar

end Descent
