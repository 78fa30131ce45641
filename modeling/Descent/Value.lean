import Descent.Fields
import Descent.Word

/-!
Values: what a parser yields and what a state remembers.

A matched text or character is a string, a parser without a result yields `null`, an optional value
is an empty or a one-element array, and a sequence or repetition yields an array. Equality of values
is decidable, and `Value.text` reads a value back as the text in it.
-/

namespace Descent

/-- A value in the shape of a JSON document. -/
inductive Value where
  | null
  | bool (b : Bool)
  | int (n : Int)
  /-- A number not written as an integer: `mantissa` divided by ten to the power `exponent`. -/
  | decimal (mantissa : Int) (exponent : Nat)
  | str (s : String)
  | arr (elems : List Value)
  /-- Named fields, in ascending order of their names. -/
  | obj (fields : List (String × Value))

namespace Value

instance : Inhabited Value := ⟨null⟩

/-! ## Equality -/

mutual

def decEq : (v w : Value) → Decidable (v = w)
  | null, null => .isTrue rfl
  | bool a, bool b => decidable_of_iff (a = b) (by simp)
  | int a, int b => decidable_of_iff (a = b) (by simp)
  | decimal a m, decimal b n => decidable_of_iff (a = b ∧ m = n) (by simp)
  | str a, str b => decidable_of_iff (a = b) (by simp)
  | arr a, arr b => match decEqElems a b with
    | .isTrue h => .isTrue (by rw [h])
    | .isFalse h => .isFalse (by simpa using h)
  | obj a, obj b => match decEqFields a b with
    | .isTrue h => .isTrue (by rw [h])
    | .isFalse h => .isFalse (by simpa using h)
  | null, bool _ | null, int _ | null, decimal .. | null, str _ | null, arr _ | null, obj _
  | bool _, null | bool _, int _ | bool _, decimal .. | bool _, str _ | bool _, arr _
  | bool _, obj _ | int _, null | int _, bool _ | int _, decimal .. | int _, str _ | int _, arr _
  | int _, obj _ | decimal .., null | decimal .., bool _ | decimal .., int _ | decimal .., str _
  | decimal .., arr _ | decimal .., obj _ | str _, null | str _, bool _ | str _, int _
  | str _, decimal .. | str _, arr _ | str _, obj _ | arr _, null | arr _, bool _ | arr _, int _
  | arr _, decimal .. | arr _, str _ | arr _, obj _ | obj _, null | obj _, bool _ | obj _, int _
  | obj _, decimal .. | obj _, str _ | obj _, arr _ => .isFalse nofun

def decEqElems : (vs ws : List Value) → Decidable (vs = ws)
  | [], [] => .isTrue rfl
  | v :: vs, w :: ws => match decEq v w, decEqElems vs ws with
    | .isTrue h, .isTrue t => .isTrue (by rw [h, t])
    | .isFalse h, _ => .isFalse (by simp [h])
    | _, .isFalse t => .isFalse (by simp [t])
  | [], _ :: _ | _ :: _, [] => .isFalse nofun

def decEqFields : (vs ws : List (String × Value)) → Decidable (vs = ws)
  | [], [] => .isTrue rfl
  | (a, v) :: vs, (b, w) :: ws => match decEq v w, decEqFields vs ws with
    | .isTrue h, .isTrue t => decidable_of_iff (a = b) (by simp [h, t])
    | .isFalse h, _ => .isFalse (by simp [h])
    | _, .isFalse t => .isFalse (by simp [t])
  | [], _ :: _ | _ :: _, [] => .isFalse nofun

end

instance : DecidableEq Value := decEq

/-! ## Building values -/

def char (c : Char) : Value := str (String.singleton c)

def chars (cs : List Char) : Value := str (String.ofList cs)

def nat (n : Nat) : Value := int n

/-- A value that may be missing: an array of no or one element. -/
def option : Option Value → Value
  | none => arr []
  | some v => arr [v]

/-- The array that holds just the given value. -/
def wrap (v : Value) : Value := arr [v]

/-- The object with the given fields; of two fields with one name the later counts. -/
def object (fields : List (String × Value)) : Value := obj (Fields.ofList fields).entries

/-- The value marked with a name. -/
def tagged (name : String) (v : Value) : Value := obj [("tag", str name), ("value", v)]

/-! ## Reading values -/

mutual

/-- The characters of the strings in a value, from left to right; objects count for nothing. -/
def toChars : Value → List Char
  | str s => s.toList
  | arr vs => elemsToChars vs
  | _ => []

/-- The characters of a list of values, one value after the other. -/
def elemsToChars : List Value → List Char
  | [] => []
  | v :: vs => v.toChars ++ elemsToChars vs

end

theorem elemsToChars_eq_flatMap (vs : List Value) : elemsToChars vs = vs.flatMap toChars := by
  induction vs with
  | nil => rfl
  | cons v vs ih => simp [elemsToChars, ih]

/-- The text in a value: a string is its own text, an array's is its elements' texts joined. -/
def text (v : Value) : String := String.ofList v.toChars

/-- The number that ASCII digits denote. -/
def natOfDigits (digits : List Char) : Nat :=
  digits.foldl (fun n c => 10 * n + (c.toNat - '0'.toNat)) 0

/-- The number that a non-empty run of ASCII digits denotes, if it is a 64-bit word. -/
def decimalNat? (cs : List Char) : Option Nat :=
  if cs ≠ [] ∧ cs.all Char.isDigit ∧ natOfDigits cs ≤ maxWord then some (natOfDigits cs) else none

/-- The natural number in a value: an integer from zero on, or a text of digits. -/
def nat? : Value → Option Nat
  | int n => if 0 ≤ n then some n.toNat else none
  | decimal .. => none
  | v => decimalNat? v.toChars

/-- The number of elements of an array, else the number of characters of the value's text. -/
def count : Value → Nat
  | arr vs => vs.length
  | v => v.toChars.length

/-- One more than the number in a value, but never more than the greatest word. -/
def successor (v : Value) : Nat := min (v.nat?.getD 0 + 1) maxWord

mutual

/-- How deep arrays and objects nest in a value. -/
def depth : Value → Nat
  | arr vs => elemsDepth vs + 1
  | obj fields => fieldsDepth fields + 1
  | _ => 1

/-- How deep the deepest value of a list is. -/
def elemsDepth : List Value → Nat
  | [] => 0
  | v :: vs => max v.depth (elemsDepth vs)

/-- How deep the deepest value of a list of fields is. -/
def fieldsDepth : List (String × Value) → Nat
  | [] => 0
  | (_, v) :: fields => max v.depth (fieldsDepth fields)

end

/-- An array with its elements in reverse order; other values are unchanged. -/
def reverse : Value → Value
  | arr vs => arr vs.reverse
  | v => v

end Value

end Descent
