/-!
Sets of characters, written as ranges of code points.

The ranges of a set ascend and do not touch, so membership is decided by halving, and two sets with
the same members are equal. `CharSet.ofRanges` and the operations on sets keep this form.
-/

namespace Descent

/-- A set of characters: the code points in the given ranges, both ends included. -/
structure CharSet where
  ranges : Array (Nat × Nat)
  deriving DecidableEq

namespace CharSet

/-! ## Membership -/

/-- Whether a range with a position from `lo` to below `hi` holds the code point. -/
def holdsBetween (ranges : Array (Nat × Nat)) (n : Nat) : (fuel lo hi : Nat) → Bool
  | 0, _, _ => false
  | fuel + 1, lo, hi =>
    if lo < hi then
      let mid := (lo + hi) / 2
      match ranges[mid]? with
      | none => false
      | some (first, last) =>
        if n < first then holdsBetween ranges n fuel lo mid
        else if last < n then holdsBetween ranges n fuel (mid + 1) hi
        else true
    else false

def contains (set : CharSet) (c : Char) : Bool :=
  holdsBetween set.ranges c.toNat set.ranges.size 0 set.ranges.size

/-! ## Building sets -/

/-- Adds a range to ascending ranges; it takes up the ranges that it overlaps or touches. -/
def addRange (lo hi : Nat) : List (Nat × Nat) → List (Nat × Nat)
  | [] => [(lo, hi)]
  | (a, b) :: rest =>
    if hi + 1 < a then (lo, hi) :: (a, b) :: rest
    else if b + 1 < lo then (a, b) :: addRange lo hi rest
    else addRange (min lo a) (max hi b) rest

def addRanges (more ranges : List (Nat × Nat)) : List (Nat × Nat) :=
  more.foldr (fun r => addRange r.1 r.2) ranges

/-- The set of the code points in any of the ranges, which may come in any order. -/
def ofRanges (ranges : List (Nat × Nat)) : CharSet := ⟨(addRanges ranges []).toArray⟩

/-- The code points in some ranges, and every second one of some others. -/
def ofRuns (ranges alternating : List (Nat × Nat)) : CharSet :=
  ofRanges <| ranges ++ alternating.flatMap fun (first, last) =>
    (List.range ((last - first) / 2 + 1)).map fun i => (first + 2 * i, first + 2 * i)

def empty : CharSet := ⟨#[]⟩

/-- The characters from `lo` to `hi`; surrogates are no characters. -/
def range (lo hi : Char) : CharSet :=
  if lo.toNat < 0xd800 ∧ 0xdfff < hi.toNat then ⟨#[(lo.toNat, 0xd7ff), (0xe000, hi.toNat)]⟩
  else ⟨#[(lo.toNat, hi.toNat)]⟩

def single (c : Char) : CharSet := range c c

/-- The only member of a set, if it has just one. -/
def single? (set : CharSet) : Option Char :=
  match set.ranges.toList with
  | [(a, b)] => if a = b then some (Char.ofNat a) else none
  | _ => none

/-! ## Operations -/

def union (s t : CharSet) : CharSet := ⟨(addRanges s.ranges.toList t.ranges.toList).toArray⟩

/-- The code points from `next` on that are in none of the ascending ranges. -/
def gaps (next : Nat) : List (Nat × Nat) → List (Nat × Nat)
  | [] => if next ≤ 0x10ffff then [(next, 0x10ffff)] else []
  | (a, b) :: rest =>
    if next < a then (next, a - 1) :: gaps (b + 1) rest else gaps (b + 1) rest

/-- The characters that are not in a set. -/
def compl (s : CharSet) : CharSet :=
  ⟨(gaps 0 (addRange 0xd800 0xdfff s.ranges.toList)).toArray⟩

def inter (s t : CharSet) : CharSet := (s.compl.union t.compl).compl

def diff (s t : CharSet) : CharSet := (s.compl.union t).compl

def symmDiff (s t : CharSet) : CharSet := (s.diff t).union (t.diff s)

def unionAll (sets : List CharSet) : CharSet :=
  sets.foldr union empty

def all : CharSet := empty.compl

def isAscii (s : CharSet) : Bool := s.ranges.all fun r => r.2 < 0x80

end CharSet

end Descent
