import Descent.Parser.Choice
import Descent.Parser.Recursive
import Descent.Parser.Repetition
import Descent.Parser.Sequence
import Descent.Parser.Text
import Descent.Parser.Traced
import Descent.Regex.Pattern

/-!
A small markup language: runs of text, commands, and groups in braces nested to any depth.

A command is a backslash with a run of ASCII letters or with one other character. `Braces.document`
parses a list of nodes, and `Braces.grammar` a whole input.
-/

namespace Descent.Braces

/-- A part of a document. -/
inductive Node where
  | text (chars : List Char)
  /-- A command, with its backslash. -/
  | command (name : List Char)
  | group (children : List Node)

def asciiLetters : CharSet := .ofRanges [(0x41, 0x5a), (0x61, 0x7a)]

/-- A backslash and a character that is not an ASCII letter. -/
def symbolRegex : Regex :=
  .seq (.look .textStart) (.seq (.text ['\\']) (.oneOf asciiLetters.compl))

/-- A backslash and a run of ASCII letters. -/
def wordRegex : Regex :=
  .seq (.look .textStart) (.seq (.text ['\\']) (.count 1 none true (.oneOf asciiLetters)))

theorem ofPattern?_symbol :
    Program.ofPattern? .unicode "\\\\[^a-zA-Z]" = some (.ofRegex symbolRegex) := by
  have reads : Regex.ofPattern? .unicode "^(?:\\\\[^a-zA-Z])".toList = some symbolRegex := by
    decide +kernel
  exact congrArg (Option.map Program.ofRegex) reads

theorem ofPattern?_word :
    Program.ofPattern? .unicode "\\\\[a-zA-Z]+" = some (.ofRegex wordRegex) := by
  have reads : Regex.ofPattern? .unicode "^(?:\\\\[a-zA-Z]+)".toList = some wordRegex := by
    decide +kernel
  exact congrArg (Option.map Program.ofRegex) reads

def command : Parser (List Char) :=
  .alt [
    .pattern (.ofRegex symbolRegex) "control symbol",
    .pattern (.ofRegex wordRegex) "control word"]

/-- Parses a run of text. -/
def text : Parser (List Char) :=
  (Parser.satisfy (fun c => c ∉ ['{', '}', '\\']) "text").atLeast 1

/-- Parses nodes, where `inner` parses what stands in a group. -/
def nodes (inner : Parser (List Node)) : Parser (List Node) :=
  Parser.many <| .alt [
    command.map .command,
    text.map .text,
    (((Parser.literal "\x7b").between inner (Parser.literal "\x7d")).map .group).traced "group"]

/-- Parses nodes in which groups nest up to a depth. -/
def document (depth : Nat) : Parser (List Node) :=
  Parser.unfold (fun inner (_ : Unit) => nodes (inner ())) depth ()

/-- Parses a whole input in which groups nest up to a depth. -/
def grammar (depth : Nat) : Parser (List Node) := (document depth).seqLeft .eof

end Descent.Braces
