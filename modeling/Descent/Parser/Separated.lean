import Descent.Parser.Choice

/-!
Lists with separators.

A round is a separator and an item. The list ends before a round that fails without moving on from
where the round started, and a round that succeeds must move on, as in any repetition.
-/

namespace Descent.Parser

variable {α β : Type}

/-- Up to `n` more rounds of a separator and an item, behind the values and the log so far. -/
def separatedRounds (p : Parser α) (sep : Parser β) (input : Input) :
    Nat → List α → Log → State → Run (List α)
  | 0, done, log, s => ⟨some (.success done.reverse s), log⟩
  | n + 1, done, log, s =>
    let stop (failed : State) : Reply (List α) :=
      if failed.index = s.index then .success done.reverse (s.withExpected failed.expected)
      else .failure failed
    let between := sep input s
    let log := log ++ between.log
    match between.reply? with
    | some (.success _ t) =>
      let item := p input t
      let log := log ++ item.log
      match item.reply? with
      | some (.success v u) =>
        if s.index < u.index then separatedRounds p sep input n (v :: done) log u
        else ⟨some (.stalled s.index), log ++ .event (.stalled s.index)⟩
      | some (.failure u) => ⟨some (stop u), log⟩
      | some (.stalled i) => ⟨some (.stalled i), log⟩
      | none => ⟨none, log⟩
    | some (.failure t) => ⟨some (stop t), log⟩
    | some (.stalled i) => ⟨some (.stalled i), log⟩
    | none => ⟨none, log⟩

/-- Values of earlier rounds stand in front of those of the rounds to come. -/
theorem reply?_separatedRounds (p : Parser α) (sep : Parser β) (input : Input) (n : Nat)
    (done : List α) (log : Log) (s : State) :
    (separatedRounds p sep input n done log s).reply? =
      (separatedRounds p sep input n [] .empty s).reply?.map (.map (done.reverse ++ ·)) := by
  induction n generalizing done log s with
  | zero => simp [separatedRounds, Reply.map]
  | succ n ih =>
    simp only [separatedRounds]
    split
    · split
      · rename_i v u _
        split
        · rw [ih (v :: done), ih [v]]
          simp [Function.comp_def, Reply.map_map]
        · rfl
      · split <;> simp [Reply.map]
      · rfl
      · rfl
    · split <;> simp [Reply.map]
    · rfl
    · rfl

/-- Items with separators between them; an empty list only if `nonEmpty` does not forbid it. -/
def sepBy (nonEmpty : Bool) (p : Parser α) (sep : Parser β) : Parser (List α) := fun input s =>
  (p input s).resume (fun v t => separatedRounds p sep input input.maxRounds [v] .empty t)
    fun failed =>
      if nonEmpty then .failure failed
      else recover s failed (fun t => .success [] t) .empty

end Descent.Parser
