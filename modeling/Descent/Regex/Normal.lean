import Descent.Regex

/-!
Expressions put together in normal form.

The functions here stand for the constructors of `Regex` and leave out what an expression does not
need: texts in a row are one text, sequences and choices do not nest in their own kind, a choice
between single characters is a set, and what can match only the empty text is repeated once at
most. Sequences that all begin alike share their beginning, which is then matched first for all of
them: the way it matches is settled before the choice between the rests.
-/

namespace Descent.Regex

/-- Matches one character of the set. -/
def ofSet (set : CharSet) : Regex :=
  match set.single? with
  | some c => text [c]
  | none => oneOf set

/-- Joins texts that follow one another. -/
def joinTexts : List Regex → List Regex
  | [] => []
  | text cs :: rest => match joinTexts rest with
    | text ds :: more => text (cs ++ ds) :: more
    | more => text cs :: more
  | r :: rest => r :: joinTexts rest

/-- The expressions one after the other. -/
def sequence (rs : List Regex) : Regex := seqAll (joinTexts (rs.flatMap parts))

/-- The character that an expression matches, if it is the text of one character. -/
def character? : Regex → Option Char
  | text [c] => some c
  | _ => none

/-- The set of which an expression matches one character, if it is written as a set. -/
def set? : Regex → Option CharSet
  | oneOf set => some set
  | _ => none

/-- The set of which a choice matches one character, if it is between characters or between sets. -/
def setOfAll? (rs : List Regex) : Option CharSet :=
  match rs.mapM character? with
  | some cs => some (.unionAll (cs.map .single))
  | none => (rs.mapM set?).map .unionAll

/-- The choice between expressions, where beginnings are not shared. -/
def plainChoice (rs : List Regex) : Regex :=
  match rs.flatMap branches with
  | [] => oneOf .empty
  | [r] => r
  | r :: rs => match setOfAll? (r :: rs) with
    | some set => ofSet set
    | none => altAll r rs

/-- The expressions with which both lists begin. -/
def commonStart : List Regex → List Regex → List Regex
  | r :: rs, s :: ss => if r = s then r :: commonStart rs ss else []
  | _, _ => []

def isSeq : Regex → Bool
  | seq _ _ => true
  | _ => false

/-- The expressions with which all of several sequences begin. -/
def sharedStart (rs : List Regex) : List Regex :=
  match rs with
  | r :: s :: rest =>
    if rs.all isSeq then (s :: rest).foldl (fun start t => commonStart start t.parts) r.parts
    else []
  | _ => []

/-- The ordered choice between expressions. -/
def choice (rs : List Regex) : Regex :=
  let rs := rs.flatMap branches
  match sharedStart rs with
  | [] => plainChoice rs
  | start =>
    let rests := rs.map fun r => sequence (r.parts.drop start.length)
    sequence (start ++ [plainChoice rests])

/-- The expression from `min` to `max` times in a row, or without limit. -/
def repeated (min : Nat) (max : Option Nat) (greedy : Bool) (r : Regex) : Regex :=
  let (min, max) := if r.isZeroWidth then (Nat.min min 1, some (Nat.min (max.getD 1) 1))
    else (min, max)
  if min = 0 ∧ max = some 0 then text []
  else if min = 1 ∧ max = some 1 then r
  else count min max greedy r

end Descent.Regex
