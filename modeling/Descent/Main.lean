import Descent.Braces.Report

/-!
The command line of the brace language: shows the tree of its argument.
-/

/-- Runs the brace language on the first argument, or on a sample without one. -/
def main (args : List String) : IO UInt32 := do
  match Descent.Braces.output? (args.headD Descent.Braces.sample) with
  | some out =>
    IO.print out.stdout
    IO.eprint out.stderr
    return out.exitCode.toUInt32
  | none =>
    IO.eprintln "groups nest too deep"
    return 1
