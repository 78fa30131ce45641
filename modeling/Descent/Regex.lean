import Descent.CharSet.Word

/-!
Regular expressions.

An expression matches texts, single characters of a set, conditions on its surroundings, sequences,
ordered choices and counted repetitions. Choices and repetitions are ordered: of two ways to match,
the one that comes first counts, where a greedy repetition puts another round first and a lazy one
the way out.
-/

namespace Descent

/-- Which characters make up words. -/
inductive WordKind where
  | ascii
  | unicode
  deriving DecidableEq

def WordKind.contains : WordKind → Char → Bool
  | ascii, c => c.isAlphanum || c = '_'
  | unicode, c => CharSet.word.contains c

/-- A condition on the characters before and after a position; both ends of a text have none. -/
inductive Look where
  | textStart
  | textEnd
  | lineStart
  | lineEnd
  /-- Like `lineStart`, where also a lone carriage return ends a line, and the two together do. -/
  | lineStartCrlf
  /-- Like `lineEnd`, where also a lone carriage return ends a line, and the two together do. -/
  | lineEndCrlf
  | wordBoundary (kind : WordKind)
  | notWordBoundary (kind : WordKind)
  | wordStart (kind : WordKind)
  | wordEnd (kind : WordKind)
  | wordStartHalf (kind : WordKind)
  | wordEndHalf (kind : WordKind)
  deriving DecidableEq

def Look.holds (before after : Option Char) : Look → Bool
  | textStart => before.isNone
  | textEnd => after.isNone
  | lineStart => before.isNone || before == some '\n'
  | lineEnd => after.isNone || after == some '\n'
  | lineStartCrlf =>
    before.isNone || before == some '\n' || (before == some '\r' && after != some '\n')
  | lineEndCrlf => after.isNone || after == some '\r' || (after == some '\n' && before != some '\r')
  | wordBoundary kind => before.any kind.contains != after.any kind.contains
  | notWordBoundary kind => before.any kind.contains == after.any kind.contains
  | wordStart kind => !before.any kind.contains && after.any kind.contains
  | wordEnd kind => before.any kind.contains && !after.any kind.contains
  | wordStartHalf kind => !before.any kind.contains
  | wordEndHalf kind => !after.any kind.contains

inductive Regex where
  /-- Matches the given text. -/
  | text (cs : List Char)
  /-- Matches one character of the set. -/
  | oneOf (set : CharSet)
  /-- Matches the empty text where a condition holds. -/
  | look (l : Look)
  /-- Matches as `r` does; the number tells one group of a pattern from the others. -/
  | group (number : Nat) (r : Regex)
  | seq (r s : Regex)
  /-- Matches as `r` does or, failing that, as `s` does. -/
  | alt (r s : Regex)
  /-- Matches `r` from `min` to `max` times in a row, or without limit. -/
  | count (min : Nat) (max : Option Nat) (greedy : Bool) (r : Regex)
  deriving DecidableEq

namespace Regex

/-! ## Properties -/

/-- Whether the shape of the expression leaves room for an empty match. -/
def mayBeEmpty : Regex → Bool
  | text cs => cs.isEmpty
  | oneOf _ => false
  | look _ => true
  | group _ r => r.mayBeEmpty
  | seq r s => r.mayBeEmpty && s.mayBeEmpty
  | alt r s => r.mayBeEmpty || s.mayBeEmpty
  | count min _ _ r => min == 0 || r.mayBeEmpty

/-- Whether the shape of the expression leaves room for empty matches only. -/
def isZeroWidth : Regex → Bool
  | text cs => cs.isEmpty
  | oneOf _ => false
  | look _ => true
  | group _ r => r.isZeroWidth
  | seq r s => r.isZeroWidth && s.isZeroWidth
  | alt r s => r.isZeroWidth && s.isZeroWidth
  | count _ max _ r => max == some 0 || r.isZeroWidth

/-- Whether every match begins where the condition holds. -/
def beginsWith (l : Look) : Regex → Bool
  | text _ | oneOf _ => false
  | look k => k = l
  | group _ r => r.beginsWith l
  | seq r s => r.beginsWith l || (r.isZeroWidth && s.beginsWith l)
  | alt r s => r.beginsWith l && s.beginsWith l
  | count min _ _ r => min != 0 && r.beginsWith l

/-- Whether every match ends where the condition holds. -/
def endsWith (l : Look) : Regex → Bool
  | text _ | oneOf _ => false
  | look k => k = l
  | group _ r => r.endsWith l
  | seq r s => s.endsWith l || (s.isZeroWidth && r.endsWith l)
  | alt r s => r.endsWith l && s.endsWith l
  | count min _ _ r => min != 0 && r.endsWith l

/-! ## Parts -/

/-- The expressions that a sequence consists of; the empty text has none. -/
def parts : Regex → List Regex
  | seq r s => r.parts ++ s.parts
  | text [] => []
  | r => [r]

def branches : Regex → List Regex
  | alt r s => r.branches ++ s.branches
  | r => [r]

/-- The expressions one after the other. -/
def seqAll : List Regex → Regex
  | [] => text []
  | [r] => r
  | r :: rs => seq r (seqAll rs)

/-- The ordered choice between the first expression and the others. -/
def altAll (r : Regex) : List Regex → Regex
  | [] => r
  | s :: rs => alt r (altAll s rs)

end Regex

end Descent
