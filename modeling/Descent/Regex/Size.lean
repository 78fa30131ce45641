import Descent.CharSet.Encoded
import Descent.Input
import Descent.Regex

/-!
The space that expressions take.

An expression can be laid out as an automaton over bytes, read from left to right or from right to
left. `Regex.size` is the number of bytes that the automaton takes: each state has a fixed size, a
state that tells bytes apart has a transition for each range of bytes, and a state that chooses has
a branch for each choice. `Regex.fits` bounds the size of both automata.
-/

namespace Descent

/-- The direction in which an automaton reads a text. -/
inductive Direction where
  | forward
  | backward
  deriving DecidableEq

def stateSize : Nat := 32

/-- The size of a state that tells ranges of bytes apart. -/
def rangesSize (ranges : Nat) : Nat := stateSize + 8 * ranges

/-- The size of a state that chooses between branches. -/
def branchesSize (branches : Nat) : Nat := stateSize + 4 * branches

/-! ## Sets of characters -/

/-- How many ranges the pieces have, where each shares the beginning of the piece before. -/
def unsharedLength (before : Encoded) : List Encoded → Nat
  | [] => 0
  | piece :: rest =>
    let shared := ((before.zip piece).takeWhile fun (r, s) => r = s).length
    piece.length - shared + unsharedLength piece rest

/-- The pieces by their first range, in order: what follows the range in each of them. -/
def byFirst : List Encoded → List ((Nat × Nat) × List Encoded)
  | [] => []
  | [] :: rest => byFirst rest
  | (r :: piece) :: rest => match byFirst rest with
    | (s, pieces) :: more =>
      if r = s then (r, piece :: pieces) :: more else (r, [piece]) :: (s, pieces) :: more
    | [] => [(r, [piece])]

/-- What may still be read in each state of an automaton for pieces of at most `depth` bytes. -/
def rests : (depth : Nat) → List Encoded → List (List Encoded)
  | 0, _ => []
  | depth + 1, pieces =>
    pieces :: ((byFirst pieces).map (·.2)).flatMap fun rest =>
      if rest.all List.isEmpty then [] else rests depth rest

/-- The size of the automaton for one character of a set. Reading forward, states with the same
continuations are one; reading backward, pieces share the states of their common beginning. -/
def CharSet.size (d : Direction) (set : CharSet) : Nat :=
  if set.isAscii then stateSize + rangesSize set.ranges.size
  else match d with
    | .forward => stateSize +
        ((rests 4 set.encoded).eraseDups.map fun pieces =>
          rangesSize (byFirst pieces).length).foldl (· + ·) 0
    | .backward => stateSize + branchesSize set.encoded.length +
        unsharedLength [] set.encoded * stateSize

/-! ## Choices between texts -/

/-- The words in front of each empty word, and those behind the last one. -/
def cutAtEmpty : List (List Nat) → List (List (List Nat))
  | [] => [[]]
  | w :: ws => match cutAtEmpty ws with
    | chunk :: chunks => if w = [] then [] :: chunk :: chunks else (w :: chunk) :: chunks
    | [] => [[w]]

/-- The words without empty words behind an empty first word. -/
def dropRepeatedEnd : List (List Nat) → List (List Nat)
  | [] :: ws => [] :: ws.dropWhile List.isEmpty
  | ws => ws

/-- The size of the tree that reads one of several words, and then goes on elsewhere. Words that
come before the end of another are told apart from those that come after it. -/
def treeSize : (depth : Nat) → List (List Nat) → Nat
  | 0, _ => 0
  | depth + 1, words =>
    let chunks := cutAtEmpty (dropRepeatedEnd words)
    let full := chunks.filter (· ≠ [])
    let sizes := full.map fun chunk =>
      let heads := (chunk.filterMap List.head?).eraseDups
      let below := heads.map fun b =>
        let tails := (chunk.filter (·.head? = some b)).map List.tail
        if tails.all List.isEmpty then 0 else treeSize depth tails
      (if heads.length = 1 then stateSize else rangesSize heads.length) +
        below.foldl (· + ·) 0
    branchesSize (full.length + (chunks.length - 1)) + sizes.foldl (· + ·) 0

def textsSize (d : Direction) (texts : List (List Char)) : Nat :=
  let words := texts.map fun cs =>
    let bytes := cs.flatMap fun c => (String.utf8EncodeChar c).map UInt8.toNat
    match d with
    | .forward => bytes
    | .backward => bytes.reverse
  stateSize + treeSize ((words.map List.length).foldl max 0) words

/-! ## Expressions -/

namespace Regex

/-- The text that an expression matches, if it is written as a text that is not empty. -/
def text? : Regex → Option (List Char)
  | text (c :: cs) => some (c :: cs)
  | _ => none

/-- The size of the automaton for an expression. As a branch of a choice, an expression counts with
the branch that leads to it, and a choice with the branches of the choice around it. -/
def sizeWithin (d : Direction) : (asBranch : Bool) → Regex → Nat
  | asBranch, r =>
    let branch := if asBranch then 4 else 0
    match r with
    | text cs => branch + max 1 (utf8Length cs) * stateSize
    | oneOf set => branch + set.size d
    | look _ => branch + stateSize
    | group _ r => branch + sizeWithin d false r + if d = .forward then 2 * stateSize else 0
    | seq r s => branch + sizeWithin d false r + sizeWithin d false s
    | alt r s =>
      if asBranch then sizeWithin d true r + sizeWithin d true s
      else match (alt r s).branches.mapM text? with
        | some texts => textsSize d texts
        | none => 2 * stateSize + sizeWithin d true r + sizeWithin d true s
    | count 0 (some 1) _ r => branch + sizeWithin d false r + branchesSize 2 + stateSize
    | count 0 none _ r =>
      branch + sizeWithin d false r + branchesSize 2 +
        if r.mayBeEmpty then branchesSize 2 + stateSize else 0
    | count min none _ r => branch + min * sizeWithin d false r + branchesSize 2
    | count min (some max) _ r =>
      let size := sizeWithin d false r
      branch + (if min = 0 then stateSize else min * size) +
        if min = max then 0 else stateSize + (max - min) * (size + branchesSize 2)

/-- The size of the automaton that searches for an expression: besides the expression there is the
end of the search and, if a match need not begin where the search does, the way to other places.
Reading forward, the ends of the match are marked as well. -/
def size (d : Direction) (r : Regex) : Nat :=
  let search (anchored : Bool) : Nat :=
    if anchored then stateSize else branchesSize 2 + stateSize + rangesSize 1
  stateSize + sizeWithin d false r + match d with
    | .forward => search (r.beginsWith .textStart) + 2 * stateSize
    | .backward => search (r.endsWith .textEnd)

/-- How many bytes the automata for a pattern may take. -/
def maxSize : Nat := 10 * 0x100000

/-- Whether the automata for an expression are small enough. -/
def fits (r : Regex) : Bool := r.size .forward ≤ maxSize && r.size .backward ≤ maxSize

end Regex

end Descent
