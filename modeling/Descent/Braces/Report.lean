import Descent.Braces
import Descent.Result
import Descent.Text.Quoted

/-!
What the brace language's command line prints: the tree of an input, or what was expected where.
-/

namespace Descent.Braces

/-- Two spaces for each level. -/
def indent (depth : Nat) : String := String.ofList (List.replicate (2 * depth) ' ')

mutual

/-- The lines that show a node, indented to a depth. -/
def Node.lines (depth : Nat) : Node → List String
  | text chars => [indent depth ++ "text " ++ String.ofList (Text.quote chars)]
  | command name => [indent depth ++ "command " ++ String.ofList name]
  | group children => (indent depth ++ "group") :: Node.linesAll (depth + 1) children

/-- The lines that show nodes, indented to a depth. -/
def Node.linesAll (depth : Nat) : List Node → List String
  | [] => []
  | node :: nodes => node.lines depth ++ Node.linesAll depth nodes

end

/-- Lines, each with a line feed at its end. -/
def ofLines (lines : List String) : String := String.join (lines.map (· ++ "\n"))

/-- What a run of the program leaves: an exit code and two texts. -/
structure Output where
  exitCode : Nat
  stdout : String
  stderr : String

/-- The input of a run without an argument. -/
def sample : String := "Hi, \x7bmom\x7d! There are some \x7bnested \x7bbraces\x7d\x7d here."

/-- What a run prints for the end of a parse. -/
def Output.ofResult : Result (List Node) → Output
  | .parsed p => ⟨0, ofLines (Node.linesAll 0 p.value), ""⟩
  | .failed f =>
    ⟨1, "", ofLines [f.message, "  at: " ++ String.ofList (Text.quote f.remaining)]⟩
  | .stalled i => ⟨1, "", ofLines ["invalid grammar: " ++ stalledMessage i]⟩

/-- Runs the program on an input; there is no output if groups nest too deep. -/
def output? (input : String) : Option Output :=
  ((grammar Parser.depthLimit).run (.ofString input)).result?.map .ofResult

end Descent.Braces
