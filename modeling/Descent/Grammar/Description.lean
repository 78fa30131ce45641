import Descent.CharSet.Alphabetic
import Descent.CharSet.Numeric
import Descent.CharSet.WhiteSpace
import Descent.Grammar

/-!
Grammars described by documents.

A description is an array: a kind, then the arguments of that kind. `Grammar.ofValue` reads one, and
fails at the first fault, from left to right. Arguments beyond those of the kind are ignored.
-/

namespace Descent

/-- Why a description is refused. -/
inductive Fault where
  /-- A part is missing, unknown or of the wrong shape. -/
  | malformed
  /-- A state is not written as one. -/
  | badState
  /-- A pattern is not well formed. -/
  | invalidPattern (pattern : String)
  deriving DecidableEq

namespace Description

variable {ρ : Type}

/-! ## Arguments -/

/-- Turns a missing result into a malformed part. -/
def orMalformed : Option α → Except Fault α
  | some a => .ok a
  | none => .error .malformed

/-- The argument at a position. -/
def arg (args : List Value) (i : Nat) : Except Fault Value := orMalformed args[i]?

def asText : Value → Except Fault String
  | .str s => .ok s
  | _ => .error .malformed

/-- Reads a count or an offset. -/
def asWord (v : Value) : Except Fault Nat := orMalformed (State.indexOfValue? v)

def asElems : Value → Except Fault (List Value)
  | .arr vs => .ok vs
  | _ => .error .malformed

def asState (v : Value) : Except Fault State :=
  match State.ofValue? v with
  | some s => .ok s
  | none => .error .badState

def textArg (args : List Value) (i : Nat) : Except Fault String := do asText (← arg args i)

def wordArg (args : List Value) (i : Nat) : Except Fault Nat := do asWord (← arg args i)

/-- The label at a position, or the given one if there is none. -/
def labelArg (args : List Value) (i : Nat) (default : String) : Except Fault String :=
  match args[i]? with
  | some v => asText v
  | none => .ok default

/-! ## Characters and values -/

/-- Reads a character, written as a text of just that character. -/
def asChar (v : Value) : Except Fault Char := do
  match (← asText v).toList with
  | [c] => return c
  | _ => .error .malformed

/-- Reads a condition on characters. -/
def asCondition : Value → Except Fault (Char → Bool)
  | .arr (.str "in" :: args) => do
    let chars ← textArg args 0
    return fun c => c ∈ chars.toList
  | .arr (.str "not_in" :: args) => do
    let chars ← textArg args 0
    return fun c => c ∉ chars.toList
  | .arr (.str "range" :: args) => do
    let lo ← asChar (← arg args 0)
    let hi ← asChar (← arg args 1)
    return fun c => lo ≤ c && c ≤ hi
  | .arr (.str "all" :: _) => .ok fun _ => true
  | .arr (.str "none" :: _) => .ok fun _ => false
  | _ => .error .malformed

/-- Whether the character is alphabetic or numeric. -/
def isAlphanumeric (c : Char) : Bool := CharSet.alphabetic.contains c || CharSet.numeric.contains c

/-- The function with the given name that changes values. -/
def functionNamed : String → Except Fault (Value → Value)
  | "id" => .ok id
  | "null" => .ok fun _ => .null
  | "text" => .ok fun v => .str v.text
  | "count" => .ok fun v => .nat v.count
  | "bytes" => .ok fun v => .nat (utf8Length v.toChars)
  | "int" => .ok fun v => (v.nat?.map Value.nat).getD .null
  | "inc" => .ok fun v => .nat v.successor
  | "wrap" => .ok Value.wrap
  | "reverse" => .ok Value.reverse
  | _ => .error .malformed

/-! ## Kinds -/

/-- Kinds that read one character or a run of characters. -/
def characters? (kind : String) (args : List Value) : Option (Except Fault (Grammar ρ)) :=
  let one (accepts : Char → Bool) (label : String) : Option (Except Fault (Grammar ρ)) :=
    some do return .satisfy accepts (← labelArg args 0 label)
  let run (accepts : Char → Bool) (label : String) : Option (Except Fault (Grammar ρ)) :=
    some do return .takeWhile1 accepts (← labelArg args 0 label)
  match kind with
  | "none_of" => some do
    let chars ← textArg args 0
    return .satisfy (· ∉ chars.toList) (← labelArg args 1 ("none of " ++ chars))
  | "one_of" => some do
    let chars ← textArg args 0
    return .satisfy (· ∈ chars.toList) (← labelArg args 1 ("one of " ++ chars))
  | "satisfy" => some do
    let accepts ← asCondition (← arg args 0)
    let label ← textArg args 1
    return .satisfy accepts (← labelArg args 2 label)
  | "take_while1" => some do
    let accepts ← asCondition (← arg args 0)
    let label ← textArg args 1
    return .takeWhile1 accepts (← labelArg args 2 label)
  | "any_char" => some (.ok (.satisfy (fun _ => true) "any character"))
  | "digit" => one Char.isDigit "digit"
  | "unicode_digit" => one CharSet.numeric.contains "digit"
  | "letter" => one CharSet.alphabetic.contains "letter"
  | "alphanumeric" => one isAlphanumeric "letter or digit"
  | "nonletter" => one (fun c => !c.isAlpha) "nonletter"
  | "whitespace" => one CharSet.whiteSpace.contains "whitespace"
  | "digits" => run Char.isDigit "digits"
  | "letters" => run Char.isAlpha "letters"
  | "spaces" => some (.ok (.many (.satisfy CharSet.whiteSpace.contains "whitespace")))
  | _ => none

/-- The other kinds without parts that are grammars. -/
def leaf? (resolve : String → Option ρ) (kind : String) (args : List Value) :
    Option (Except Fault (Grammar ρ)) :=
  match kind with
  | "pure" => some do return .pure (← arg args 0)
  | "fail" | "FAIL" | "ZERO" => some (.ok .fail)
  | "eof" => some (.ok .eof)
  | "string" => some do return .literal (← textArg args 0)
  | "regexp" => some do
    let pattern ← textArg args 0
    match Program.ofPattern? .unicode pattern with
    | some program => return .pattern program (← labelArg args 1 ("/" ++ pattern ++ "/"))
    | none => .error (.invalidPattern pattern)
  | "get_state" => some (.ok .getState)
  | "set_state" => some do return .setState (← asState (← arg args 0))
  | "context" => some do return .lookup (← textArg args 0)
  | "put" => some do
    let key ← textArg args 0
    return .change (.put key (← arg args 1))
  | "drop" => some do return .change (.drop (← textArg args 0))
  | "seek" => some do return .change (.seek (← wordArg args 0))
  | "ref" => some do return .ref (← orMalformed (resolve (← textArg args 0)))
  | _ => none

/-- The grammar of the first case whose key is the text of the value, or else the other one. -/
def select (cases : List (String × Grammar ρ)) (other : Grammar ρ) (v : Value) : Grammar ρ :=
  (findField? v.text cases).getD other

/-- Kinds that run one part after the other. -/
def sequence? (sub : Value → Except Fault (Grammar ρ)) (kind : String) (args : List Value) :
    Option (Except Fault (Grammar ρ)) :=
  let node (i : Nat) : Except Fault (Grammar ρ) := do sub (← arg args i)
  let seq (fits : Nat → Bool) : Option (Except Fault (Grammar ρ)) := some do
    let parts ← asElems (← arg args 0)
    if fits parts.length then return .seq (← parts.mapM sub) else .error .malformed
  match kind with
  | "map" => some do
    let f ← functionNamed (← textArg args 0)
    return .map f (← node 1)
  | "tag" => some do
    let name ← textArg args 0
    return .map (.tagged name) (← node 1)
  | "chain" => some do
    let p ← node 0
    let q ← node 1
    return .chain p fun _ => q
  | "chain_pair" => some do
    let p ← node 0
    let q ← node 1
    return .chain p fun v => .map (fun w => .arr [v, w]) q
  | "chain_string" => some do return .chain (← node 0) fun v => .literal v.text
  | "chain_times" => some do
    let p ← node 0
    let q ← node 1
    return .chain p fun v => .times (v.nat?.getD 0) (some (v.nat?.getD 0)) q
  | "chain_case" => some do
    let p ← node 0
    let cases ← match ← arg args 1 with
      | .obj fields => fields.mapM fun (key, v) => return (key, ← sub v)
      | _ => .error .malformed
    let other ← node 2
    return .chain p (select cases other)
  | "by_hand" => some do return .restoring (← node 0)
  | "store" => some do
    let key ← textArg args 0
    return .store key (← node 1)
  | "then" => some do return .seqRight (← node 0) (← node 1)
  | "skip" => some do return .seqLeft (← node 0) (← node 1)
  | "between" => some do return .between (← node 0) (← node 1) (← node 2)
  | "seq" => seq fun _ => true
  | "seq_array" => seq (· ≤ 4)
  | "seq_tuple" => seq fun n => 1 ≤ n && n ≤ 8
  | _ => none

/-- Kinds that choose between parts, look ahead or repeat, and those that change nothing. -/
def control? (sub : Value → Except Fault (Grammar ρ)) (kind : String) (args : List Value) :
    Option (Except Fault (Grammar ρ)) :=
  let node (i : Nat) : Except Fault (Grammar ρ) := do sub (← arg args i)
  let alt (fits : Nat → Bool) : Option (Except Fault (Grammar ρ)) := some do
    let parts ← asElems (← arg args 0)
    if fits parts.length then return .alt (← parts.mapM sub) else .error .malformed
  match kind with
  | "or" => some do return .or (← node 0) (← node 1)
  | "fallback" => some do
    let p ← node 0
    return .fallback p (← arg args 1)
  | "alt" => alt fun _ => true
  | "alt_array" => alt (· ≤ 4)
  | "alt_tuple" => alt fun n => 1 ≤ n && n ≤ 8
  | "attempt" => some do return .attempt none (← node 0)
  | "label" => some do
    let name ← textArg args 0
    return .label name (← node 1)
  | "maybe" => some do return .maybe (← node 0)
  | "lookahead" => some do return .lookahead (← node 0)
  | "not" => some do return .not (← node 0)
  | "not_followed_by" => some do return .notFollowedBy (← node 0) (← node 1)
  | "many" => some do return .many (← node 0)
  | "at_most" => some do
    let n ← wordArg args 0
    return .atMost n (← node 1)
  | "at_least" => some do
    let n ← wordArg args 0
    return .atLeast n (← node 1)
  | "times" => some do
    let n ← wordArg args 0
    return .times n (some n) (← node 1)
  | "times_between" => some do
    let min ← wordArg args 0
    let max ← wordArg args 1
    return .times min (some max) (← node 2)
  | "sep_by" => some do return .sepBy false (← node 0) (← node 1)
  | "sep_by1" => some do return .sepBy true (← node 0) (← node 1)
  | "boxed" | "box" | "arc" => some (node 0)
  | "traced" => some do
    let name ← textArg args 0
    return .traced name (← node 1)
  | _ => none

/-- Reads a grammar of the given kind, with `sub` for its parts. -/
def ofKind (resolve : String → Option ρ) (sub : Value → Except Fault (Grammar ρ)) (kind : String)
    (args : List Value) : Except Fault (Grammar ρ) :=
  (characters? kind args <|> leaf? resolve kind args <|> sequence? sub kind args <|>
    control? sub kind args).getD (.error .malformed)

/-- Reads a grammar in which parts nest up to a depth. -/
def read (resolve : String → Option ρ) : (depth : Nat) → Value → Except Fault (Grammar ρ)
  | depth + 1, .arr (.str kind :: args) => ofKind resolve (read resolve depth) kind args
  | _, _ => .error .malformed

end Description

/-- Reads the grammar that a document describes; `resolve` looks up the names of rules. -/
def Grammar.ofValue (resolve : String → Option ρ) (v : Value) : Except Fault (Grammar ρ) :=
  Description.read resolve v.depth v

end Descent
