import Descent.Grammar.Description

/-!
Tables of rules.

The rules of a table may refer to each other by name. A name is resolved once, when its description
is read, so that a grammar over a table holds positions and cannot refer to a rule that is not
there.
-/

namespace Descent

/-- Rules that may refer to each other, named by their positions. -/
structure RuleTable where
  count : Nat
  names : Vector String count
  rules : Vector (Grammar (Fin count)) count

namespace RuleTable

def empty : RuleTable := ⟨0, #v[], #v[]⟩

def resolve (table : RuleTable) (name : String) : Option (Fin table.count) :=
  table.names.finIdxOf? name

def rule (table : RuleTable) (i : Fin table.count) : Grammar (Fin table.count) :=
  table.rules[i]

/-- Reads a table of rules, in ascending order of their names. -/
def ofFields (fields : Fields Value) : Except Fault RuleTable := do
  let entries : Vector (String × Value) fields.entries.toArray.size := ⟨fields.entries.toArray, rfl⟩
  let names := entries.map (·.1)
  let rules ← entries.mapM fun e => Grammar.ofValue names.finIdxOf? e.2
  return ⟨_, names, rules⟩

/-- The parser of a grammar over the rules of the table. -/
def parser (table : RuleTable) (g : Grammar (Fin table.count)) : Parser Value :=
  g.parserWith table.rule Parser.depthLimit

end RuleTable

end Descent
