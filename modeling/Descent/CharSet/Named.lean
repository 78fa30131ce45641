import Descent.CharSet.Age
import Descent.CharSet.Category
import Descent.CharSet.Property
import Descent.CharSet.Script
import Descent.CharSet.Segmentation

/-!
Sets of characters that have a name: the name of a category, a script or a property of characters,
or that of a property with a value, such as an age.

Names are compared without regard to case, spaces, hyphens, low lines and characters beyond ASCII,
and a leading `is` does not count.
-/

namespace Descent.CharSet

/-- The form in which names are compared. The name `isc` is kept, for `c` alone is another. -/
def plainName (name : List Char) : String :=
  let plain (cs : List Char) : List Char :=
    (cs.filter fun c => c.toNat < 0x80 && c != ' ' && c != '_' && c != '-').map Char.toLower
  match name with
  | i :: s :: rest =>
    if (i = 'i' ∨ i = 'I') ∧ (s = 's' ∨ s = 'S') then
      String.ofList (if plain rest = ['c'] then ['i', 's', 'c'] else plain rest)
    else String.ofList (plain name)
  | _ => String.ofList (plain name)

/-- The set with the name of a property, a category or a script. -/
def plainNamed? (name : List Char) : Option CharSet :=
  let name := plainName name
  Property.named? name <|> Category.named? name <|> (Script.named? name).map Script.set

/-- The set of the characters for which a property has a value. -/
def withValue? (property value : List Char) : Option CharSet :=
  let value := plainName value
  match plainName property with
  | "gc" | "generalcategory" => Category.named? value
  | "sc" | "script" => (Script.named? value).map Script.set
  | "scx" | "scriptextensions" => (Script.named? value).map Script.usedSet
  | "age" => Age.named? value
  | "gcb" | "graphemeclusterbreak" => GraphemeBreak.named? value
  | "wb" | "wordbreak" => WordBreak.named? value
  | "sb" | "sentencebreak" => SentenceBreak.named? value
  | _ => none

/-- Cuts a name at the first sign of inequality. -/
def cutAtInequality? (front : List Char) : List Char → Option (List Char × List Char)
  | '!' :: '=' :: rest => some (front.reverse, rest)
  | c :: rest => cutAtInequality? (c :: front) rest
  | [] => none

/-- Cuts a name at the first place with the given character. -/
def cutAt? (c : Char) (name : List Char) : Option (List Char × List Char) :=
  if c ∈ name then some (name.takeWhile (· ≠ c), (name.dropWhile (· ≠ c)).tail) else none

/-- The set with a name, which may consist of a property and a value. Whether the two are said to
be equal or to differ makes no difference. -/
def named? (name : List Char) : Option CharSet :=
  match cutAtInequality? [] name <|> cutAt? ':' name <|> cutAt? '=' name with
  | some (property, value) => withValue? property value
  | none => plainNamed? name

end Descent.CharSet
