import Descent.Regex.Pattern.Escape

/-!
Bracketed classes of characters.

A class is a union of characters, ranges, escapes, named ASCII classes and nested brackets. Unions
are combined from left to right by intersection, difference and symmetric difference. A class
without members is allowed; it accepts nothing.
-/

namespace Descent.Regex

/-- A class of characters, and how deep its parts nest. -/
structure Bracket where
  set : CharSet
  depth : Nat

namespace Bracket

def ofSet (set : CharSet) : Bracket := ⟨set, 0⟩

/-- The class of one character, which must be ASCII where only ASCII counts. -/
def literal? (flags : Flags) (c : Char) : Option Bracket :=
  if flags.unicode || c.toNat < 128 then some (ofSet (.single c)) else none

/-- The members of a union: what they accept, how many they are, and how deep they nest. -/
structure Members where
  set : CharSet
  count : Nat
  depth : Nat

def Members.none : Members := ⟨.empty, 0, 0⟩

def Members.add (m : Members) (a : Bracket) : Members :=
  ⟨a.set.union m.set, m.count + 1, max m.depth a.depth⟩

def Members.whole (m : Members) : Bracket :=
  ⟨m.set, if m.count ≤ 1 then m.depth else m.depth + 1⟩

/-- An operation between two unions. -/
inductive Operation where
  | intersection
  | difference
  | symmetricDifference

/-- The members that the operation keeps of two classes. -/
def Operation.combine (flags : Flags) (op : Operation) (a b : Bracket) : Bracket :=
  let l := flags.fold a.set
  let r := flags.fold b.set
  ⟨match op with
    | .intersection => l.inter r
    | .difference => l.diff r
    | .symmetricDifference => l.symmDiff r,
   max a.depth b.depth + 1⟩

/-- The characters of a named ASCII class. -/
def ascii? (name : List Char) : Option CharSet :=
  let ranges : Option (List (Char × Char)) := match String.ofList name with
    | "alnum" => some [('0', '9'), ('A', 'Z'), ('a', 'z')]
    | "alpha" => some [('A', 'Z'), ('a', 'z')]
    | "ascii" => some [('\x00', '\x7f')]
    | "blank" => some [('\t', '\t'), (' ', ' ')]
    | "cntrl" => some [('\x00', '\x1f'), ('\x7f', '\x7f')]
    | "digit" => some [('0', '9')]
    | "graph" => some [('!', '~')]
    | "lower" => some [('a', 'z')]
    | "print" => some [(' ', '~')]
    | "punct" => some [('!', '/'), (':', '@'), ('[', '\x60'), ('\x7b', '~')]
    | "space" => some [('\t', '\r'), (' ', ' ')]
    | "upper" => some [('A', 'Z')]
    | "word" => some [('0', '9'), ('A', 'Z'), ('_', '_'), ('a', 'z')]
    | "xdigit" => some [('0', '9'), ('A', 'F'), ('a', 'f')]
    | _ => none
  ranges.map fun ranges => .ofRanges (ranges.map fun (lo, hi) => (lo.toNat, hi.toNat))

/-- Reads the name of an ASCII class, the opening bracket of which has been read. The result tells
whether the class is negated. -/
def readAscii? : List Char → Option (Bool × CharSet × List Char)
  | ':' :: cs =>
    let (negated, cs) := match cs with
      | '^' :: cs => (true, cs)
      | cs => (false, cs)
    match cs.dropWhile (· ≠ ':') with
    | ':' :: ']' :: rest => (ascii? (cs.takeWhile (· ≠ ':'))).map (negated, ·, rest)
    | _ => none
  | _ => none

/-- The class of a set whose case is folded and which is then negated or not. -/
def close? (flags : Flags) (negated : Bool) (set : CharSet) : Option CharSet :=
  if negated then flags.compl? (flags.fold set) else some (flags.fold set)

def readItem? (sets : List Char → Option CharSet) (flags : Flags) :
    List Char → Option (Escape × List Char)
  | [] => none
  | '\\' :: cs => Escape.read? sets flags cs
  | c :: cs => some (.literal c, cs)

/-- Reads a range, or an item if no range begins with it. -/
def readRange? (sets : List Char → Option CharSet) (flags : Flags) (cs : List Char) :
    Option (Bracket × List Char) := do
  let (first, cs) ← readItem? sets flags cs
  let cs := flags.skip cs
  let isRange := match cs with
    | '-' :: rest => flags.peek? rest != some ']' && flags.peek? rest != some '-'
    | _ => false
  if isRange then
    let (last, rest) ← readItem? sets flags (flags.skip cs.tail)
    match first, last with
    | .literal a, .literal b =>
      if a ≤ b ∧ (flags.unicode || b.toNat < 128) then return (ofSet (.range a b), rest) else none
    | _, _ => none
  else match first with
    | .literal c => return (← literal? flags c, cs)
    | .oneOf set => return (ofSet set, cs)
    | .condition _ => none

/-- Reads the hyphens that stand for themselves at the start of a class. -/
def readHyphens? (flags : Flags) : (fuel : Nat) → Members → List Char →
    Option (Members × List Char)
  | 0, _, _ => none
  | _ + 1, _, [] => none
  | fuel + 1, m, c :: cs =>
    if c = '-' then readHyphens? flags fuel (m.add (ofSet (.single '-'))) (flags.skip cs)
    else some (m, c :: cs)

/-- Reads the opening of a class behind its bracket: negation, hyphens, and a closing bracket that
stands for itself. The result tells whether the class is negated. -/
def readOpening? (flags : Flags) (cs : List Char) : Option (Bool × Members × List Char) := do
  let cs := flags.skip cs
  let (negated, cs) := match cs with
    | '^' :: rest => (true, flags.skip rest)
    | cs => (false, cs)
  let (hyphens, rest) ← readHyphens? flags (cs.length + 1) .none cs
  match rest with
  | ']' :: after =>
    if hyphens.count ≠ 0 then return (negated, hyphens, rest)
    else
      let after := flags.skip after
      if after = [] then none else return (negated, hyphens.add (ofSet (.single ']')), after)
  | _ => return (negated, hyphens, rest)

/-- A class that is open: the operation that waits for its second union, if there is one, and the
members of the union that is being read. -/
structure Frame where
  negated : Bool
  pending : Option (Operation × Bracket)
  members : Members

/-- Adds a member to the union that is being read. -/
def Frame.add (f : Frame) (a : Bracket) : Frame := { f with members := f.members.add a }

/-- What the unions read so far amount to. -/
def Frame.whole (flags : Flags) (f : Frame) : Bracket :=
  match f.pending with
  | some (op, left) => op.combine flags left f.members.whole
  | none => f.members.whole

/-- Begins the second union of an operation. -/
def Frame.operate (flags : Flags) (f : Frame) (op : Operation) : Frame :=
  { f with pending := some (op, f.whole flags), members := .none }

/-- The class that a frame describes when its closing bracket is reached. -/
def Frame.close? (flags : Flags) (f : Frame) : Option Bracket :=
  let whole := f.whole flags
  (Bracket.close? flags f.negated whole.set).map fun set => ⟨set, whole.depth + 1⟩

/-- Reads up to the closing bracket of the outermost class; `outer` are the classes around it. -/
def readMembers? (sets : List Char → Option CharSet) (flags : Flags) :
    (fuel : Nat) → (f : Frame) → (outer : List Frame) → List Char → Option (Bracket × List Char)
  | 0, _, _, _ => none
  | fuel + 1, f, outer, cs =>
    match flags.skip cs with
    | [] => none
    | '[' :: rest =>
      match readAscii? rest with
      | some (negated, set, rest) =>
        match close? flags negated set with
        | some set => readMembers? sets flags fuel (f.add (ofSet set)) outer rest
        | none => none
      | none =>
        match readOpening? flags rest with
        | some (negated, members, rest) =>
          readMembers? sets flags fuel ⟨negated, none, members⟩ (f :: outer) rest
        | none => none
    | ']' :: rest =>
      match f.close? flags, outer with
      | some a, [] => some (a, rest)
      | some a, g :: outer => readMembers? sets flags fuel (g.add a) outer rest
      | none, _ => none
    | '&' :: '&' :: rest => readMembers? sets flags fuel (f.operate flags .intersection) outer rest
    | '-' :: '-' :: rest => readMembers? sets flags fuel (f.operate flags .difference) outer rest
    | '~' :: '~' :: rest =>
      readMembers? sets flags fuel (f.operate flags .symmetricDifference) outer rest
    | cs =>
      match readRange? sets flags cs with
      | some (a, rest) => readMembers? sets flags fuel (f.add a) outer rest
      | none => none

/-- Reads a class, the opening bracket of which has been read. -/
def read? (sets : List Char → Option CharSet) (flags : Flags) (cs : List Char) :
    Option (Bracket × List Char) := do
  let (negated, members, rest) ← readOpening? flags cs
  readMembers? sets flags (rest.length + 1) ⟨negated, none, members⟩ [] rest

end Bracket

end Descent.Regex
