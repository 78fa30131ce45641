import Descent.CharSet.GraphemeExtend
import Descent.CharSet.Unprintable
import Descent.Text.Hex

/-!
Quoted text.

A text is quoted between double quotes. Quotes, backslashes and the common controls are escaped with
a backslash; other characters that have no printed form of their own, and marks that would join the
character in front, are written as code points in hexadecimal.
-/

namespace Descent.Text

/-- The halfwidth sound marks, which extend the letter in front but have a form of their own. -/
def halfwidthSoundMarks : CharSet := .range '\uff9e' '\uff9f'

/-- Whether a character is written as its code point. -/
def needsCodePoint (c : Char) : Bool :=
  CharSet.unprintable.contains c ||
    (CharSet.graphemeExtend.contains c && !halfwidthSoundMarks.contains c)

/-- The characters that stand for a character between quotes. -/
def escape (c : Char) : List Char :=
  match c with
  | '"' => ['\\', '"']
  | '\\' => ['\\', '\\']
  | '\n' => ['\\', 'n']
  | '\r' => ['\\', 'r']
  | '\t' => ['\\', 't']
  | '\x00' => ['\\', '0']
  | c => if needsCodePoint c then ['\\', 'u', '\x7b'] ++ hexDigits c.toNat ++ ['\x7d'] else [c]

def quote (cs : List Char) : List Char := ['"'] ++ cs.flatMap escape ++ ['"']

/-- The quoted forms of texts, in brackets and separated by commas. -/
def quoteAll (texts : List String) : String :=
  "[" ++ ", ".intercalate (texts.map fun t => String.ofList (quote t.toList)) ++ "]"

end Descent.Text
