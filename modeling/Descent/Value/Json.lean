import Descent.Text.Hex
import Descent.Value

/-!
Values as text, in the JSON format.

`Value.ofJson?` reads a document and `Value.toJson` writes one. A number is an integer if it is
written without a point and without an exponent, is not a zero with a sign, and fits into 64 bits.
Documents that nest too deep are refused.
-/

namespace Descent.Value

/-! ## Numbers -/

/-- A decimal number without needless zeros behind the point, of which one place is always kept. -/
def trimmed (mantissa : Nat) : (places : Nat) → Nat × Nat
  | 0 => (10 * mantissa, 1)
  | 1 => (mantissa, 1)
  | places + 2 =>
    if mantissa % 10 = 0 then trimmed (mantissa / 10) (places + 1) else (mantissa, places + 2)

/-- The digits `digits` times ten to the power `scale`, as a number that is no integer. Numbers from
`10 ^ 309` on are out of range, and those far below one count as zero. -/
def ofDecimal? (negative : Bool) (digits : List Char) (scale : Int) : Option Value :=
  let digits := digits.dropWhile (· = '0')
  let size := digits.length + scale
  if digits = [] ∨ size < -400 then some (decimal 0 1)
  else if 309 < size then none
  else
    let (mantissa, places) := trimmed (natOfDigits digits * Nat.pow 10 scale.toNat) (-scale).toNat
    some (decimal (if negative then -mantissa else mantissa) places)

/-- The number with the given digits in front of the point. -/
def ofWhole? (negative : Bool) (digits : List Char) : Option Value :=
  let n := natOfDigits digits
  if negative then
    if 0 < n ∧ n ≤ 0x8000000000000000 then some (int (-n)) else ofDecimal? true digits 0
  else if n ≤ maxWord then some (int n) else ofDecimal? false digits 0

/-- Reads digits, and at least one. -/
def readDigits? (cs : List Char) : Option (List Char × List Char) :=
  let digits := cs.takeWhile Char.isDigit
  if digits = [] then none else some (digits, cs.dropWhile Char.isDigit)

/-- Reads the places behind a point, if there is a point. -/
def readPlaces? : List Char → Option (List Char × List Char)
  | '.' :: cs => readDigits? cs
  | cs => some ([], cs)

/-- Reads an exponent, if there is one. -/
def readExponent? (cs : List Char) : Option (Option Int × List Char) :=
  match cs with
  | e :: rest =>
    if e = 'e' ∨ e = 'E' then
      match rest with
      | '+' :: rest => (readDigits? rest).map fun (ds, rest) => (some ↑(natOfDigits ds), rest)
      | '-' :: rest => (readDigits? rest).map fun (ds, rest) => (some (-natOfDigits ds), rest)
      | rest => (readDigits? rest).map fun (ds, rest) => (some ↑(natOfDigits ds), rest)
    else some (none, cs)
  | [] => some (none, [])

def readNumber? (cs : List Char) : Option (Value × List Char) := do
  let (negative, cs) := match cs with
    | '-' :: cs => (true, cs)
    | cs => (false, cs)
  let (whole, cs) ← readDigits? cs
  let (places, cs) ← readPlaces? cs
  let (exponent, cs) ← readExponent? cs
  if whole.head? = some '0' ∧ whole.length ≠ 1 then none
  else if places = [] ∧ exponent = none then return (← ofWhole? negative whole, cs)
  else return (← ofDecimal? negative (whole ++ places) (exponent.getD 0 - places.length), cs)

/-! ## Strings -/

/-- Reads four hexadecimal digits. -/
def readUnit? : List Char → Option (Nat × List Char)
  | a :: b :: c :: d :: cs => do
    let ds ← [a, b, c, d].mapM Text.hexDigitValue?
    return (ds.foldl (fun n d => 16 * n + d) 0, cs)
  | _ => none

/-- Reads the rest of an escape by code point; one beyond four digits takes two escapes. -/
def readCodePoint? (cs : List Char) : Option (Char × List Char) := do
  let (n, cs) ← readUnit? cs
  if 0xd800 ≤ n ∧ n < 0xdc00 then
    match cs with
    | '\\' :: 'u' :: cs =>
      let (m, cs) ← readUnit? cs
      if 0xdc00 ≤ m ∧ m < 0xe000 then
        return (Char.ofNat (0x10000 + 0x400 * (n - 0xd800) + (m - 0xdc00)), cs)
      else none
    | _ => none
  else if 0xdc00 ≤ n ∧ n < 0xe000 then none
  else return (Char.ofNat n, cs)

/-- Reads an escape, the backslash of which has been read. -/
def readEscape? : List Char → Option (Char × List Char)
  | 'u' :: cs => readCodePoint? cs
  | c :: cs => match c with
    | '"' | '\\' | '/' => some (c, cs)
    | 'b' => some ('\x08', cs)
    | 'f' => some ('\x0c', cs)
    | 'n' => some ('\n', cs)
    | 'r' => some ('\r', cs)
    | 't' => some ('\t', cs)
    | _ => none
  | [] => none

/-- Reads a string behind its opening quote, with the characters read so far, newest first. -/
def readString? : (fuel : Nat) → (front : List Char) → List Char → Option (String × List Char)
  | 0, _, _ | _, _, [] => none
  | fuel + 1, front, c :: cs =>
    if c = '"' then some (String.ofList front.reverse, cs)
    else if c = '\\' then
      match readEscape? cs with
      | some (c, cs) => readString? fuel (c :: front) cs
      | none => none
    else if c.toNat < 0x20 then none
    else readString? fuel (c :: front) cs

/-! ## Documents -/

/-- How deep arrays and objects may nest in a document. -/
def maxNesting : Nat := 127

/-- The text behind the white space in front of it. -/
def skipBlank (cs : List Char) : List Char :=
  cs.dropWhile fun c => c = ' ' ∨ c = '\t' ∨ c = '\n' ∨ c = '\r'

mutual

/-- Reads a value in which arrays and objects nest up to a depth. -/
def readValue? : (fuel depth : Nat) → List Char → Option (Value × List Char)
  | 0, _, _ => none
  | fuel + 1, depth, cs =>
    match skipBlank cs, depth with
    | 'n' :: 'u' :: 'l' :: 'l' :: cs, _ => some (null, cs)
    | 't' :: 'r' :: 'u' :: 'e' :: cs, _ => some (bool true, cs)
    | 'f' :: 'a' :: 'l' :: 's' :: 'e' :: cs, _ => some (bool false, cs)
    | '"' :: cs, _ => (readString? (cs.length + 1) [] cs).map fun (s, cs) => (str s, cs)
    | '[' :: cs, depth + 1 =>
      match skipBlank cs with
      | ']' :: cs => some (arr [], cs)
      | cs => readElems? fuel depth [] cs
    | '\x7b' :: cs, depth + 1 =>
      match skipBlank cs with
      | '\x7d' :: cs => some (obj [], cs)
      | cs => readFields? fuel depth [] cs
    | cs, _ => readNumber? cs

/-- Reads the rest of an array, with the elements read so far, newest first. -/
def readElems? : (fuel depth : Nat) → (front : List Value) → List Char →
    Option (Value × List Char)
  | 0, _, _, _ => none
  | fuel + 1, depth, front, cs =>
    match readValue? fuel depth cs with
    | none => none
    | some (v, cs) => match skipBlank cs with
      | ',' :: cs => readElems? fuel depth (v :: front) cs
      | ']' :: cs => some (arr (v :: front).reverse, cs)
      | _ => none

/-- Reads the rest of an object, with the fields read so far, newest first. -/
def readFields? : (fuel depth : Nat) → (front : List (String × Value)) → List Char →
    Option (Value × List Char)
  | 0, _, _, _ => none
  | fuel + 1, depth, front, cs =>
    match skipBlank cs with
    | '"' :: cs => match readString? (cs.length + 1) [] cs with
      | none => none
      | some (name, cs) => match skipBlank cs with
        | ':' :: cs => match readValue? fuel depth cs with
          | none => none
          | some (v, cs) => match skipBlank cs with
            | ',' :: cs => readFields? fuel depth ((name, v) :: front) cs
            | '\x7d' :: cs => some (object ((name, v) :: front).reverse, cs)
            | _ => none
        | _ => none
    | _ => none

end

def ofJson? (text : String) : Option Value :=
  let cs := text.toList
  match readValue? (2 * cs.length + 1) maxNesting cs with
  | some (v, rest) => if skipBlank rest = [] then some v else none
  | none => none

/-! ## Writing -/

/-- The characters that stand for a character in a string. -/
def quoteChar (c : Char) : List Char :=
  if c = '"' ∨ c = '\\' then ['\\', c]
  else if c.toNat < 0x20 then
    ['\\', 'u', '0', '0', Nat.digitChar (c.toNat / 16), Nat.digitChar (c.toNat % 16)]
  else [c]

def writeString (s : String) (out : String) : String :=
  (s.foldl (fun out c => (quoteChar c).foldl String.push out) (out.push '"')).push '"'

def decimalText (mantissa : Int) (places : Nat) : String :=
  let n := mantissa.natAbs
  let fraction := toString (n % Nat.pow 10 places)
  let zeros := String.ofList (List.replicate (places - fraction.length) '0')
  (if mantissa < 0 then "-" else "") ++ toString (n / Nat.pow 10 places) ++ "." ++ zeros ++ fraction

mutual

def write : Value → (out : String) → String
  | null, out => out ++ "null"
  | bool b, out => out ++ if b then "true" else "false"
  | int n, out => out ++ toString n
  | decimal mantissa places, out => out ++ decimalText mantissa places
  | str s, out => writeString s out
  | arr [], out => out ++ "[]"
  | arr (v :: vs), out => (writeElems vs (write v (out.push '['))).push ']'
  | obj [], out => out ++ "\x7b\x7d"
  | obj ((name, v) :: fields), out =>
    (writeFields fields (write v ((writeString name (out.push '\x7b')).push ':'))).push '\x7d'

/-- Adds the further elements of an array to a text. -/
def writeElems : List Value → (out : String) → String
  | [], out => out
  | v :: vs, out => writeElems vs (write v (out.push ','))

/-- Adds the further fields of an object to a text. -/
def writeFields : List (String × Value) → (out : String) → String
  | [], out => out
  | (name, v) :: fields, out =>
    writeFields fields (write v ((writeString name (out.push ',')).push ':'))

end

def toJson (v : Value) : String := v.write ""

end Descent.Value
