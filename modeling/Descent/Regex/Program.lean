import Descent.IndexSet
import Descent.Regex

/-!
Programs that search for a regular expression.

A program is a list of instructions with relative targets. Where an instruction has two ways to go
on, the first is preferred. Every instruction is followed at most once at a position of the text: a
second way to it could only repeat what the first one finds.
-/

namespace Descent

/-- An instruction. Targets count from the instruction itself. -/
inductive Inst where
  /-- Reads an accepted character and goes on with the next instruction. -/
  | char (accepts : Char → Bool)
  /-- Goes on with the next instruction where the condition holds. -/
  | look (l : Look)
  /-- Goes on with the first target, or else with the second. -/
  | split (first second : Int)
  | jump (target : Int)
  /-- Ends a match. -/
  | accept

namespace Regex

/-- Goes to `more` for another round or to `done`, in the order of preference. -/
def choose (greedy : Bool) (more done : Int) : Inst :=
  if greedy then .split more done else .split done more

/-- Runs the code and then again as often as wanted. -/
def codePlus (greedy : Bool) (code : List Inst) : List Inst :=
  code ++ [choose greedy (-code.length) 1]

/-- Runs the code or passes it by. -/
def codeOption (greedy : Bool) (code : List Inst) : List Inst :=
  choose greedy 1 (code.length + 1) :: code

/-- Runs the code as often as wanted. -/
def codeStar (greedy mayBeEmpty : Bool) (code : List Inst) : List Inst :=
  if mayBeEmpty then codeOption greedy (codePlus greedy code)
  else choose greedy 1 (code.length + 2) :: code ++ [.jump (-(code.length + 1))]

/-- Runs the code up to `n` times; each way out leads behind the last copy. -/
def codeUpTo (greedy : Bool) (code : List Inst) (n : Nat) : List Inst :=
  (List.range n).flatMap fun i : Nat => choose greedy 1 ↑((n - i) * (code.length + 1)) :: code

/-- Runs the code exactly `n` times. -/
def codeTimes (code : List Inst) (n : Nat) : List Inst := (List.replicate n code).flatten

/-- The instructions that match an expression and then leave at their end. -/
def code : Regex → List Inst
  | text cs => cs.map fun c => .char (· == c)
  | oneOf set => [.char set.contains]
  | look l => [.look l]
  | group _ r => r.code
  | seq r s => r.code ++ s.code
  | alt r s =>
    let first := r.code
    let second := s.code
    .split 1 (first.length + 2) :: first ++ .jump (second.length + 1) :: second
  | count 0 none greedy r => codeStar greedy r.mayBeEmpty r.code
  | count (min + 1) none greedy r => codeTimes r.code min ++ codePlus greedy r.code
  | count min (some max) greedy r =>
    codeTimes r.code min ++ codeUpTo greedy r.code (max - min)

end Regex

/-- An attempt at a match: the next instruction, and how many characters it has skipped. -/
structure Attempt where
  target : Nat
  skipped : Nat

structure Program where
  insts : Array Inst
  /-- Whether a match can begin after the start of the text. -/
  floating : Bool

namespace Program

/-- Follows attempts up to the instructions that read a character or end a match.

The stack holds the attempts still to follow, in order of preference, and `seen` the instructions
that were followed. -/
def follow (insts : Array Inst) (holds : Look → Bool) :
    (fuel : Nat) → (stack : List Attempt) → (seen : IndexSet) → (ready : List Attempt) →
    List Attempt
  | 0, _, _, ready => ready.reverse
  | _ + 1, [], _, ready => ready.reverse
  | fuel + 1, a :: stack, seen, ready =>
    if seen.contains a.target then follow insts holds fuel stack seen ready
    else
      let seen := seen.insert a.target
      let goto (d : Int) : Attempt := { a with target := (a.target + d).toNat }
      match insts[a.target]? with
      | some (.char _) | some Inst.accept => follow insts holds fuel stack seen (a :: ready)
      | some (.look l) =>
        follow insts holds fuel (if holds l then goto 1 :: stack else stack) seen ready
      | some (.jump d) => follow insts holds fuel (goto d :: stack) seen ready
      | some (.split d e) => follow insts holds fuel (goto d :: goto e :: stack) seen ready
      | none => follow insts holds fuel stack seen ready

/-- Follows attempts at a position, each instruction at most once. -/
def followAll (insts : Array Inst) (holds : Look → Bool) (stack : List Attempt) : List Attempt :=
  follow insts holds (2 * insts.size + stack.length + 1) stack (.none insts.size) []

def ofRegex (r : Regex) : Program :=
  ⟨(r.code ++ [Inst.accept]).toArray, !r.beginsWith .textStart⟩

/-- The attempts in front of the first that ends a match, and that one. -/
def untilAccept (insts : Array Inst) : List Attempt → List Attempt × Option Attempt
  | [] => ([], none)
  | a :: rest =>
    match insts[a.target]? with
    | some Inst.accept => ([], some a)
    | _ =>
      let (live, accepted) := untilAccept insts rest
      (a :: live, accepted)

/-- The attempts that read the character, one instruction on. -/
def read (insts : Array Inst) (c : Char) (attempts : List Attempt) : List Attempt :=
  attempts.filterMap fun a =>
    match insts[a.target]? with
    | some (Inst.char accepts) => if accepts c then some ⟨a.target + 1, a.skipped⟩ else none
    | _ => none

/-- Searches on from a position, with the attempts that are under way there.

`found` is the preferred match so far, as the numbers of characters before it and before its end. -/
def searchFrom (p : Program) (pos : Nat) (ready : List Attempt) (found : Option (Nat × Nat)) :
    List Char → Option (Nat × Nat)
  | [] => match (untilAccept p.insts ready).2 with
    | some a => some (a.skipped, pos)
    | none => found
  | c :: rest =>
    let (live, accepted) := untilAccept p.insts ready
    let found := match accepted with
      | some a => some (a.skipped, pos)
      | none => found
    let moved := read p.insts c live
    let begun := if p.floating && found.isNone then moved ++ [⟨0, pos + 1⟩] else moved
    if begun.isEmpty then found
    else
      searchFrom p (pos + 1) (followAll p.insts (·.holds (some c) rest.head?) begun) found rest

/-- A match: what stands in front of it, and what it matched. -/
structure Found where
  before : List Char
  text : List Char

/-- The leftmost match in a text, and of those the preferred one. -/
def find? (p : Program) (cs : List Char) : Option Found :=
  let ready := followAll p.insts (·.holds none cs.head?) [⟨0, 0⟩]
  (searchFrom p 0 ready none cs).map fun (start, stop) =>
    ⟨cs.take start, (cs.drop start).take (stop - start)⟩

end Program

end Descent
