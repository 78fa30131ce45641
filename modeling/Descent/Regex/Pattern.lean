import Descent.CharSet.Alphabetic
import Descent.CharSet.Named
import Descent.CharSet.Numeric
import Descent.Regex.Normal
import Descent.Regex.Pattern.Bracket
import Descent.Regex.Program
import Descent.Regex.Size

/-!
Patterns: regular expressions as they are written.

A pattern is read from left to right with a stack of the groups that are open. `Regex.ofPattern?`
says which expression a pattern denotes, and has no answer for a pattern that is not well formed,
nests too deep or denotes an expression that is too large. What is deep or large, and which sets of
characters a pattern can name, a `Dialect` says.
-/

namespace Descent

namespace Regex

/-- A part of a sequence, and how deep groups, sequences and repetitions nest in it. -/
structure Part where
  regex : Regex
  depth : Nat

structure Group where
  /-- The flags in force. -/
  flags : Flags
  /-- The number of the group, if it has one. -/
  number : Option Nat
  /-- The alternatives that are complete, newest first. -/
  alternatives : List Part
  /-- The parts of the current alternative, newest first; a setting of flags is `none`. -/
  parts : List (Option Part)

namespace Group

def opened (flags : Flags) (number : Option Nat) : Group := ⟨flags, number, [], []⟩

def push (g : Group) (r : Regex) (depth : Nat) : Group :=
  { g with parts := some ⟨r, depth⟩ :: g.parts }

/-- The current alternative. -/
def current (g : Group) : Part :=
  let parts := (g.parts.filterMap id).reverse
  let depth := (parts.map (·.depth)).foldl max 0
  ⟨sequence (parts.map (·.regex)), if g.parts.length ≤ 1 then depth else depth + 1⟩

/-- Begins another alternative. -/
def alternate (g : Group) : Group :=
  { g with alternatives := g.current :: g.alternatives, parts := [] }

/-- The choice between all alternatives. -/
def whole (g : Group) : Part :=
  match g.alternatives.reverse with
  | [] => g.current
  | first :: others =>
    let others := others ++ [g.current]
    ⟨choice (first.regex :: others.map (·.regex)),
      (others.map (·.depth)).foldl max first.depth + 1⟩

/-- The group as a part of the group around it. -/
def closed (g : Group) : Part :=
  ⟨match g.number with
    | some n => group n g.whole.regex
    | none => g.whole.regex,
   g.whole.depth + 1⟩

/-- Counts the last part; there must be one, and it must not be a setting of flags. -/
def repeatLast? (g : Group) (min : Nat) (max : Option Nat) (greedy : Bool) : Option Group :=
  match g.parts with
  | some last :: parts =>
    let part := ⟨repeated min max (greedy != g.flags.swapGreed) last.regex, last.depth + 1⟩
    some { g with parts := some part :: parts }
  | _ => none

end Group

/-- Reads a question mark, which makes a repetition lazy. -/
def readGreed : List Char → Bool × List Char
  | '?' :: cs => (false, cs)
  | cs => (true, cs)

/-- Reads a number below `2 ^ 32`, with white space around it. -/
def readNumber? (flags : Flags) (cs : List Char) : Option (Nat × List Char) :=
  let rec digits : (fuel : Nat) → (value : Option Nat) → List Char → Option Nat × List Char
    | 0, value, cs => (value, cs)
    | _ + 1, value, [] => (value, [])
    | fuel + 1, value, c :: cs =>
      if c.isDigit then
        digits fuel (some (10 * value.getD 0 + (c.toNat - '0'.toNat))) (flags.skip cs)
      else (value, c :: cs)
  let (value, rest) := digits (cs.length + 1) none (cs.dropWhile CharSet.whiteSpace.contains)
  let rest := flags.skip (rest.dropWhile CharSet.whiteSpace.contains)
  match value with
  | some n => if n < 0x100000000 then some (n, rest) else none
  | none => none

/-- Reads the bounds of a repetition, the opening brace of which has been read. -/
def readBounds? (flags : Flags) (cs : List Char) : Option ((Nat × Option Nat) × List Char) := do
  let (min, cs) ← readNumber? flags (flags.skip cs)
  let (max, cs) ← match cs with
    | ',' :: cs => match flags.skip cs with
      | '\x7d' :: cs => some (none, '\x7d' :: cs)
      | cs => (readNumber? flags cs).map fun (n, cs) => (some n, cs)
    | cs => some (some min, cs)
  match cs with
  | '\x7d' :: cs => if max.all (min ≤ ·) then some ((min, max), flags.skip cs) else none
  | _ => none

/-- Reads the name of a group up to the closing angle bracket. -/
def readGroupName? (name : List Char) : List Char → Option (List Char × List Char)
  | [] => none
  | c :: cs =>
    if c = '>' then if name = [] then none else some (name.reverse, cs)
    else if c = '_' || CharSet.alphabetic.contains c || (name ≠ [] &&
        (c = '.' || c = '[' || c = ']' || CharSet.numeric.contains c)) then
      readGroupName? (c :: name) cs
    else none

/-- What the opening of a group asks for. -/
inductive Opening where
  /-- A group without a number, in which the given flags are in force. -/
  | plain (flags : Flags)
  | numbered
  /-- A group with a number and a name. -/
  | named (name : List Char)
  /-- Flags for the rest of the group around it. -/
  | setting (flags : Flags)

/-- Reads the opening of a group behind its parenthesis. -/
def readOpening? (flags : Flags) (cs : List Char) : Option (Opening × List Char) :=
  match flags.skip cs with
  | '?' :: 'P' :: '<' :: cs => (readGroupName? [] cs).map fun (name, cs) => (.named name, cs)
  | '?' :: '<' :: cs => (readGroupName? [] cs).map fun (name, cs) => (.named name, cs)
  | '?' :: ')' :: _ => none
  | '?' :: cs => do
    let (inner, close, cs) ← flags.read? [] true cs
    return (if close = ')' then .setting inner else .plain inner, cs)
  | cs => some (.numbered, cs)

def Flags.dot (flags : Flags) : CharSet :=
  if flags.dotAll then .all
  else if flags.crlf then (CharSet.ofRanges [(0xa, 0xa), (0xd, 0xd)]).compl
  else (CharSet.single '\n').compl

def Flags.caret (flags : Flags) : Look :=
  if !flags.multiLine then .textStart else if flags.crlf then .lineStartCrlf else .lineStart

def Flags.dollar (flags : Flags) : Look :=
  if !flags.multiLine then .textEnd else if flags.crlf then .lineEndCrlf else .lineEnd

/-- The expression that matches a character. Where only ASCII counts, others have no case. -/
def Flags.literal (flags : Flags) (c : Char) : Regex :=
  if flags.unicode || c.toNat < 128 then ofSet (flags.fold (.single c)) else text [c]

/-- Reads a pattern on, with the innermost open group, those around it, the next number of a group,
and the names in use. -/
def readFrom? (sets : List Char → Option CharSet) :
    (fuel : Nat) → (g : Group) → (outer : List Group) → (next : Nat) →
      (names : List (List Char)) → List Char → Option Part
  | 0, _, _, _, _, _ => none
  | fuel + 1, g, outer, next, names, cs =>
    let flags := g.flags
    match flags.skip cs with
    | [] => if outer.isEmpty then some g.whole else none
    | '(' :: cs =>
      match readOpening? flags cs with
      | some (.plain inner, cs) =>
        readFrom? sets fuel (.opened inner none) (g :: outer) next names cs
      | some (.numbered, cs) =>
        readFrom? sets fuel (.opened flags (some next)) (g :: outer) (next + 1) names cs
      | some (.named name, cs) =>
        if name ∈ names then none
        else
          readFrom? sets fuel (.opened flags (some next)) (g :: outer) (next + 1) (name :: names) cs
      | some (.setting flags, cs) =>
        readFrom? sets fuel { g with flags := flags, parts := none :: g.parts } outer next names cs
      | none => none
    | ')' :: cs =>
      match outer with
      | [] => none
      | around :: outer =>
        readFrom? sets fuel (around.push g.closed.regex g.closed.depth) outer next names cs
    | '|' :: cs => readFrom? sets fuel g.alternate outer next names cs
    | '[' :: cs =>
      match Bracket.read? sets flags cs with
      | some (a, cs) => readFrom? sets fuel (g.push (ofSet a.set) a.depth) outer next names cs
      | none => none
    | '?' :: cs =>
      let (greedy, cs) := readGreed cs
      match g.repeatLast? 0 (some 1) greedy with
      | some g => readFrom? sets fuel g outer next names cs
      | none => none
    | '*' :: cs =>
      let (greedy, cs) := readGreed cs
      match g.repeatLast? 0 none greedy with
      | some g => readFrom? sets fuel g outer next names cs
      | none => none
    | '+' :: cs =>
      let (greedy, cs) := readGreed cs
      match g.repeatLast? 1 none greedy with
      | some g => readFrom? sets fuel g outer next names cs
      | none => none
    | '\x7b' :: cs =>
      match readBounds? flags cs with
      | some ((min, max), cs) =>
        let (greedy, cs) := readGreed cs
        match g.repeatLast? min max greedy with
        | some g => readFrom? sets fuel g outer next names cs
        | none => none
      | none => none
    | '\\' :: cs =>
      match Escape.read? sets flags cs with
      | some (.literal c, cs) =>
        readFrom? sets fuel (g.push (flags.literal c) 0) outer next names cs
      | some (.oneOf set, cs) => readFrom? sets fuel (g.push (ofSet set) 0) outer next names cs
      | some (.condition l, cs) => readFrom? sets fuel (g.push (look l) 0) outer next names cs
      | none => none
    | '.' :: cs =>
      if flags.unicode then readFrom? sets fuel (g.push (ofSet flags.dot) 0) outer next names cs
      else none
    | '^' :: cs => readFrom? sets fuel (g.push (look flags.caret) 0) outer next names cs
    | '$' :: cs => readFrom? sets fuel (g.push (look flags.dollar) 0) outer next names cs
    | c :: cs => readFrom? sets fuel (g.push (flags.literal c) 0) outer next names cs

end Regex

/-- What is settled apart from the syntax of patterns. -/
structure Dialect where
  /-- The set of characters with a name. -/
  named? : List Char → Option CharSet
  /-- Whether a pattern that has been read is accepted. -/
  accepts : Regex.Part → Bool

/-- How deep the parts of a pattern may nest. -/
def Regex.maxDepth : Nat := 250

/-- The dialect with the properties of characters as Unicode 16 has them, and with limits on the
depth and the size of what a pattern denotes. -/
def Dialect.unicode : Dialect where
  named? := CharSet.named?
  accepts part := part.depth ≤ Regex.maxDepth && part.regex.fits

/-- The expression that a pattern denotes, if it is well formed and the dialect accepts it. -/
def Regex.ofPattern? (d : Dialect) (cs : List Char) : Option Regex := do
  let part ← readFrom? d.named? (cs.length + 1) (.opened .initial none) [] 1 [] cs
  if d.accepts part then part.regex else none

/-- A pattern, ready to be searched for at the start of a text.

The written pattern is put between `^(?:` and `)` before it is read, so that its alternatives are
all held at the start, unless the pattern itself closes that group. -/
def Program.ofPattern? (d : Dialect) (pattern : String) : Option Program :=
  (Regex.ofPattern? d ("^(?:".toList ++ pattern.toList ++ [')'])).map .ofRegex

end Descent
