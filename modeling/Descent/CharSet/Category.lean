import Descent.CharSet.Category.Format
import Descent.CharSet.Category.Letter
import Descent.CharSet.Category.Mark
import Descent.CharSet.Category.Number
import Descent.CharSet.Category.Punctuation
import Descent.CharSet.Category.Symbol
import Descent.CharSet.DecimalDigit

/-!
General categories: a partition of all code points by the kind of character, as Unicode 16 has it.

`Category.named?` finds a category, or a group of them, by its long or short name.
-/

namespace Descent.CharSet.Category

def casedLetter : CharSet := unionAll [uppercaseLetter, lowercaseLetter, titlecaseLetter]

def letter : CharSet := unionAll [casedLetter, modifierLetter, otherLetter]

def mark : CharSet := unionAll [nonspacingMark, spacingMark, enclosingMark]

def number : CharSet := unionAll [decimalDigit, letterNumber, otherNumber]

def punctuation : CharSet :=
  unionAll [connectorPunctuation, dashPunctuation, openPunctuation, closePunctuation,
    initialPunctuation, finalPunctuation, otherPunctuation]

def symbol : CharSet := unionAll [mathSymbol, currencySymbol, modifierSymbol, otherSymbol]

def separator : CharSet := unionAll [spaceSeparator, lineSeparator, paragraphSeparator]

/-- Code points that no character is assigned to. -/
def unassigned : CharSet :=
  (unionAll
    [letter, mark, number, punctuation, symbol, separator, control, format, privateUse]).compl

/-- Controls, format characters, characters for private use and unassigned code points. -/
def other : CharSet := unionAll [control, format, privateUse, unassigned]

/-- The set of a category; names are in small letters, without spaces. -/
def named? : String → Option CharSet
  | "any" => some all
  | "assigned" => some unassigned.compl
  | "ascii" => some (range '\x00' '\x7f')
  | "l" | "letter" => some letter
  | "lc" | "casedletter" => some casedLetter
  | "lu" | "uppercaseletter" => some uppercaseLetter
  | "ll" | "lowercaseletter" => some lowercaseLetter
  | "lt" | "titlecaseletter" => some titlecaseLetter
  | "lm" | "modifierletter" => some modifierLetter
  | "lo" | "otherletter" => some otherLetter
  | "m" | "mark" | "combiningmark" => some mark
  | "mn" | "nonspacingmark" => some nonspacingMark
  | "mc" | "spacingmark" => some spacingMark
  | "me" | "enclosingmark" => some enclosingMark
  | "n" | "number" => some number
  | "nd" | "decimalnumber" | "digit" => some decimalDigit
  | "nl" | "letternumber" => some letterNumber
  | "no" | "othernumber" => some otherNumber
  | "p" | "punctuation" | "punct" => some punctuation
  | "pc" | "connectorpunctuation" => some connectorPunctuation
  | "pd" | "dashpunctuation" => some dashPunctuation
  | "ps" | "openpunctuation" => some openPunctuation
  | "pe" | "closepunctuation" => some closePunctuation
  | "pi" | "initialpunctuation" => some initialPunctuation
  | "pf" | "finalpunctuation" => some finalPunctuation
  | "po" | "otherpunctuation" => some otherPunctuation
  | "s" | "symbol" => some symbol
  | "sm" | "mathsymbol" => some mathSymbol
  | "sc" | "currencysymbol" => some currencySymbol
  | "sk" | "modifiersymbol" => some modifierSymbol
  | "so" | "othersymbol" => some otherSymbol
  | "z" | "separator" => some separator
  | "zs" | "spaceseparator" => some spaceSeparator
  | "zl" | "lineseparator" => some lineSeparator
  | "zp" | "paragraphseparator" => some paragraphSeparator
  | "c" | "other" => some other
  | "cc" | "control" | "cntrl" => some control
  | "cf" | "format" => some format
  | "co" | "privateuse" => some privateUse
  | "cn" | "unassigned" => some unassigned
  | _ => none

end Descent.CharSet.Category
