import Descent.Parser

/-!
Choices between parsers.

A failure is soft when it left the index where the parser started. A choice recovers from a soft
failure only: it goes on from the state where it started, with the labels of the failure. Any other
failure stands, unless `attempt` takes it back.
-/

namespace Descent.Parser

variable {α : Type}

/-- Goes on after a soft failure of a part that started at `start`, and lets any other stand. -/
def recover (start failed : State) (next : State → Run α) (committed : Log) : Run α :=
  if failed.index = start.index then next (start.withExpected failed.expected)
  else ⟨some (.failure failed), committed⟩

/-- Runs the second parser where the first failed softly. -/
def or (p q : Parser α) : Parser α := fun input s =>
  (p input s).resume .success fun failed =>
    recover s failed (fun t => (q input t).after (.event (.firstFailedSoftly s.index)))
      (.event (.firstCommitted s.index failed.index))

/-- Runs the alternatives from position `i` on, for a choice that started at `start`. -/
def altFrom (start : State) (i : Nat) : List (Parser α) → Parser α
  | [] => fail
  | p :: ps => fun input s =>
    (p input s).resume .success fun failed =>
      recover start failed
        (fun t => (altFrom start (i + 1) ps input t).after
          (.event (.alternativeFailedSoftly start.index i)))
        (.event (.alternativeCommitted start.index failed.index i))

/-- Runs the alternatives in order until one does not fail softly; fails if there is none. -/
def alt (ps : List (Parser α)) : Parser α := fun input s => altFrom s 0 ps input s

/-- Runs the parser, and yields the given value where it fails softly. -/
def fallback (p : Parser α) (v : α) : Parser α := p.or (pure v)

/-- Takes every failure back to the state at the start, with a label of its own if it has one. -/
def attempt (label? : Option String) (p : Parser α) : Parser α := fun input s =>
  (p input s).resume .success fun failed =>
    let rewound := match label? with
      | some label => s.expecting label
      | none => s
    if failed.index = s.index then .failure rewound
    else (Run.failure rewound).after (.event (.rewound s.index failed.index))

/-- Runs the parser, and yields nothing where it fails softly. -/
def maybe (p : Parser α) : Parser (Option α) := fun input s =>
  (p input s).resume (fun v t => .success (some v) t) fun failed =>
    recover s failed (fun t => .success none t) .empty

end Descent.Parser
