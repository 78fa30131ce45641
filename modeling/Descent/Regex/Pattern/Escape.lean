import Descent.Regex.Pattern.Flags
import Descent.Text.Hex

/-!
Escapes: what a backslash and the characters behind it stand for.

A punctuation character stands for itself, some letters for a character, a set or a condition, `p`
and `P` introduce the name of a set, and `x`, `u` and `U` a code point in hexadecimal. All other
letters and all digits are refused. Which names there are, and for which sets, the readers of
escapes are told as `sets`.
-/

namespace Descent.Regex

inductive Escape where
  | literal (c : Char)
  | oneOf (set : CharSet)
  | condition (l : Look)

namespace Escape

/-- The character with a code point, if there is one. -/
def charOfNat? (n : Nat) : Option Char :=
  if n.isValidChar then some (Char.ofNat n) else none

/-- Reads exactly `n` hexadecimal digits, behind a number read so far. -/
def readDigits? (flags : Flags) : (n : Nat) → (value : Nat) → List Char → Option (Char × List Char)
  | 0, value, cs => (charOfNat? value).map (·, cs)
  | n + 1, value, c :: cs => do
    let d ← Text.hexDigitValue? c
    let cs := flags.skip cs
    if n ≠ 0 ∧ cs = [] then none else readDigits? flags n (16 * value + d) cs
  | _ + 1, _, [] => none

/-- Reads hexadecimal digits up to a closing brace, behind a number if one was begun. -/
def readBraced? (flags : Flags) : (fuel : Nat) → (value : Option Nat) → List Char →
    Option (Char × List Char)
  | 0, _, _ => none
  | fuel + 1, value, cs =>
    match flags.skip cs with
    | [] => none
    | c :: cs =>
      if c = '\x7d' then do
        let c ← charOfNat? (← value)
        return (c, flags.skip cs)
      else do
        let d ← Text.hexDigitValue? c
        readBraced? flags fuel (some (16 * value.getD 0 + d)) cs

/-- Reads a code point of `n` hexadecimal digits, or of any number of them between braces. -/
def readHex? (flags : Flags) (n : Nat) (cs : List Char) : Option (Char × List Char) :=
  match flags.skip cs with
  | '\x7b' :: cs => readBraced? flags (cs.length + 1) none cs
  | cs => readDigits? flags n 0 cs

/-- Reads the rest of the name of a condition between braces. -/
def readLookName? (flags : Flags) : (fuel : Nat) → (name : List Char) → List Char →
    Option (List Char × List Char)
  | 0, _, _ => none
  | _ + 1, _, [] => none
  | fuel + 1, name, c :: cs =>
    if c.isAlpha || c = '-' then readLookName? flags fuel (c :: name) (flags.skip cs)
    else if c = '\x7d' then some (name.reverse, cs)
    else none

/-- Reads what may follow `\b`: the name of a kind of word boundary between braces.

Braces that do not begin with a letter or a hyphen are no name, and stay for a repetition. -/
def readBoundary? (flags : Flags) (cs : List Char) : Option (Look × List Char) :=
  match cs with
  | '\x7b' :: rest =>
    match flags.skip rest with
    | [] => none
    | c :: rest =>
      if c.isAlpha || c = '-' then do
        let (name, rest) ← readLookName? flags (rest.length + 2) [] (c :: rest)
        match String.ofList name with
        | "start" => some (.wordStart flags.wordKind, rest)
        | "end" => some (.wordEnd flags.wordKind, rest)
        | "start-half" => some (.wordStartHalf flags.wordKind, rest)
        | "end-half" => some (.wordEndHalf flags.wordKind, rest)
        | _ => none
      else some (.wordBoundary flags.wordKind, cs)
  | _ => some (.wordBoundary flags.wordKind, cs)

/-- Reads the characters up to a closing brace. -/
def readBraces? (flags : Flags) : (fuel : Nat) → (front : List Char) → List Char →
    Option (List Char × List Char)
  | 0, _, _ => none
  | _ + 1, _, [] => none
  | fuel + 1, front, c :: cs =>
    if c = '\x7d' then some (front.reverse, cs)
    else readBraces? flags fuel (c :: front) (flags.skip cs)

/-- Reads the name of a set: one character, or several between braces. -/
def readName? (flags : Flags) (cs : List Char) : Option (List Char × List Char) :=
  match flags.skip cs with
  | [] | '\\' :: _ => none
  | '\x7b' :: cs =>
    let cs := flags.skip cs
    readBraces? flags (cs.length + 1) [] cs
  | c :: cs => some ([c], flags.skip cs)

/-- Reads a set by its name; where only ASCII counts, sets have no names. -/
def readSet? (sets : List Char → Option CharSet) (flags : Flags) (cs : List Char) :
    Option (CharSet × List Char) := do
  let (name, rest) ← readName? flags cs
  let set ← sets name
  if flags.unicode then return (flags.fold set, rest) else none

/-- Reads a code point of two hexadecimal digits, which must be ASCII where only ASCII counts, or of
any number of digits between braces. -/
def readByte? (flags : Flags) (cs : List Char) : Option (Char × List Char) := do
  let (c, rest) ← readHex? flags 2 cs
  if flags.unicode || c.toNat < 128 || (flags.skip cs).head? = some '\x7b' then some (c, rest)
  else none

/-- Reads an escape, the backslash of which has been read. -/
def read? (sets : List Char → Option CharSet) (flags : Flags) :
    List Char → Option (Escape × List Char)
  | [] => none
  | 'x' :: cs => (readByte? flags cs).map fun (c, cs) => (.literal c, cs)
  | 'u' :: cs => (readHex? flags 4 cs).map fun (c, cs) => (.literal c, cs)
  | 'U' :: cs => (readHex? flags 8 cs).map fun (c, cs) => (.literal c, cs)
  | 'p' :: cs => (readSet? sets flags cs).map fun (set, cs) => (.oneOf set, cs)
  | 'P' :: cs => (readSet? sets flags cs).map fun (set, cs) => (.oneOf set.compl, cs)
  | 'd' :: cs => some (.oneOf flags.digit, cs)
  | 's' :: cs => some (.oneOf flags.space, cs)
  | 'w' :: cs => some (.oneOf flags.word, cs)
  | 'D' :: cs => (flags.compl? flags.digit).map fun set => (.oneOf set, cs)
  | 'S' :: cs => (flags.compl? flags.space).map fun set => (.oneOf set, cs)
  | 'W' :: cs => (flags.compl? flags.word).map fun set => (.oneOf set, cs)
  | 'a' :: cs => some (.literal '\x07', cs)
  | 'f' :: cs => some (.literal '\x0c', cs)
  | 't' :: cs => some (.literal '\t', cs)
  | 'n' :: cs => some (.literal '\n', cs)
  | 'r' :: cs => some (.literal '\r', cs)
  | 'v' :: cs => some (.literal '\x0b', cs)
  | 'A' :: cs => some (.condition .textStart, cs)
  | 'z' :: cs => some (.condition .textEnd, cs)
  | 'b' :: cs => (readBoundary? flags cs).map fun (l, cs) => (.condition l, cs)
  | 'B' :: cs => some (.condition (.notWordBoundary flags.wordKind), cs)
  | '<' :: cs => some (.condition (.wordStart flags.wordKind), cs)
  | '>' :: cs => some (.condition (.wordEnd flags.wordKind), cs)
  | c :: cs => if c.toNat < 128 ∧ !c.isAlphanum then some (.literal c, cs) else none

end Escape

end Descent.Regex
