import Descent.CharSet.CaseVariants
import Descent.CharSet.DecimalDigit
import Descent.CharSet.WhiteSpace
import Descent.Regex

/-!
Flags of a pattern, and what depends on them: which characters between the parts of a pattern are
skipped, and which characters count as equal, as digits, as white space and as parts of words.
-/

namespace Descent.Regex

/-- The flags in force at a place of a pattern. -/
structure Flags where
  /-- Characters that differ in case only count as equal. -/
  ignoreCase : Bool
  /-- Line breaks are ends of lines for `^` and `$`. -/
  multiLine : Bool
  /-- A dot accepts line breaks too. -/
  dotAll : Bool
  /-- Repetitions are lazy, and those with a question mark greedy. -/
  swapGreed : Bool
  /-- A carriage return is a line break as well. -/
  crlf : Bool
  /-- White space and comments between the parts of the pattern are skipped. -/
  ignoreSpace : Bool
  /-- Classes of characters are those of Unicode, not of ASCII. -/
  unicode : Bool
  deriving DecidableEq

namespace Flags

def initial : Flags := ⟨false, false, false, false, false, false, true⟩

/-- The flags after the flag with the given letter is set or cleared. -/
def set? (flags : Flags) (letter : Char) (on : Bool) : Option Flags :=
  match letter with
  | 'i' => some { flags with ignoreCase := on }
  | 'm' => some { flags with multiLine := on }
  | 's' => some { flags with dotAll := on }
  | 'U' => some { flags with swapGreed := on }
  | 'R' => some { flags with crlf := on }
  | 'x' => some { flags with ignoreSpace := on }
  | 'u' => some { flags with unicode := on }
  | _ => none

/-- Reads flag letters up to the colon or parenthesis that ends them.

`seen` holds the letters and the sign read so far, none of which may stand twice, and `on` tells
whether the next letter sets its flag. The result has the closing character and what follows it. -/
def read? (flags : Flags) (seen : List Char) (on : Bool) :
    List Char → Option (Flags × Char × List Char)
  | [] => none
  | c :: cs =>
    if c = ':' ∨ c = ')' then
      if seen.head? = some '-' then none else some (flags, c, cs)
    else if c ∈ seen then none
    else if c = '-' then read? flags (c :: seen) false cs
    else match flags.set? c on with
      | some flags => read? flags (c :: seen) on cs
      | none => none

/-- The text after the white space and comments in front of it; `comment` holds inside a comment. -/
def dropSpace (comment : Bool) : List Char → List Char
  | [] => []
  | c :: cs =>
    if comment then dropSpace (c ≠ '\n') cs
    else if CharSet.whiteSpace.contains c then dropSpace false cs
    else if c = '#' then dropSpace true cs
    else c :: cs

/-- The text after what the flags say is to be skipped. -/
def skip (flags : Flags) (cs : List Char) : List Char :=
  if flags.ignoreSpace then dropSpace false cs else cs

/-- The next character behind white space and signs of a comment, in a text that begins behind the
current character. What follows such a sign counts, although it is part of the comment, and so does
the first character where there is none but white space and signs. -/
def peek? (flags : Flags) (cs : List Char) : Option Char :=
  let rec seek (comment : Bool) : List Char → Option Char
    | [] => none
    | c :: cs =>
      if CharSet.whiteSpace.contains c then seek comment cs
      else if c = '#' ∧ !comment then seek true cs
      else some c
  if flags.ignoreSpace then seek false cs <|> cs.head? else cs.head?

/-! ## Sets of characters -/

/-- The members of a set and the characters that the flags take to be equal to one. -/
def fold (flags : Flags) (set : CharSet) : CharSet :=
  if flags.ignoreCase then
    set.withPartners (if flags.unicode then caseRules else asciiCaseRules)
  else set

/-- The complement of a set, which is refused where only ASCII counts. -/
def compl? (flags : Flags) (set : CharSet) : Option CharSet :=
  if flags.unicode then some set.compl else none

def digit (flags : Flags) : CharSet :=
  if flags.unicode then CharSet.decimalDigit else .range '0' '9'

def space (flags : Flags) : CharSet :=
  if flags.unicode then CharSet.whiteSpace else .ofRanges [(0x9, 0xd), (0x20, 0x20)]

/-- The characters that make up words. -/
def wordKind (flags : Flags) : WordKind := if flags.unicode then .unicode else .ascii

def word (flags : Flags) : CharSet :=
  if flags.unicode then CharSet.word
  else .ofRanges [(0x30, 0x39), (0x41, 0x5a), (0x5f, 0x5f), (0x61, 0x7a)]

end Flags

end Descent.Regex
