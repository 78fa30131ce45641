import Descent.Parser

/-!
Repetition.

Every round must move the index on. A round that succeeds without doing so ends the whole parse, for
the grammar would repeat it for ever. A soft failure ends the repetition, with the state of that
failure; any other failure stands.
-/

namespace Descent.Parser

variable {α : Type}

/-- Up to `n` more rounds, behind the values, newest first, and the log of the rounds so far. -/
def rounds (p : Parser α) (input : Input) : Nat → List α → Log → State → Run (List α)
  | 0, done, log, s => ⟨some (.success done.reverse s), log⟩
  | n + 1, done, log, s =>
    let r := p input s
    let log := log ++ r.log
    match r.reply? with
    | some (.success v t) =>
      if s.index < t.index then rounds p input n (v :: done) log t
      else ⟨some (.stalled s.index), log ++ .event (.stalled s.index)⟩
    | some (.failure t) =>
      if t.index = s.index then ⟨some (.success done.reverse t), log⟩
      else ⟨some (.failure t), log⟩
    | some (.stalled i) => ⟨some (.stalled i), log⟩
    | none => ⟨none, log⟩

/-- Values of earlier rounds stand in front of those of the rounds to come. -/
theorem reply?_rounds (p : Parser α) (input : Input) (n : Nat) (done : List α) (log : Log)
    (s : State) : (rounds p input n done log s).reply? =
      (rounds p input n [] .empty s).reply?.map (.map (done.reverse ++ ·)) := by
  induction n generalizing done log s with
  | zero => simp [rounds, Reply.map]
  | succ n ih =>
    simp only [rounds]
    split
    · rename_i v t _
      split
      · rw [ih (v :: done), ih [v]]
        simp [Function.comp_def, Reply.map_map]
      · rfl
    · split <;> simp [Reply.map]
    · rfl
    · rfl

def atMost (max : Nat) (p : Parser α) : Parser (List α) := fun input s =>
  rounds p input max [] .empty s

theorem reply?_atMost_zero (p : Parser α) (input : Input) (s : State) :
    (p.atMost 0 input s).reply? = some (.success [] s) := rfl

/-- A repetition is its first round followed by a repetition with one round less. -/
theorem reply?_atMost_succ (p : Parser α) (n : Nat) (input : Input) (s : State) :
    (p.atMost (n + 1) input s).reply? =
      match (p input s).reply? with
      | some (.success v t) =>
        if s.index < t.index then (p.atMost n input t).reply?.map (.map (v :: ·))
        else some (.stalled s.index)
      | some (.failure t) => if t.index = s.index then some (.success [] t) else some (.failure t)
      | some (.stalled i) => some (.stalled i)
      | none => none := by
  simp only [atMost, rounds]
  split
  · split
    · rw [reply?_rounds]
      rfl
    · rfl
  · split <;> rfl
  · rfl
  · rfl

/-- Repeats the parser as often as it succeeds.

Rounds move the index on, so there are never more of them than indices. -/
def many (p : Parser α) : Parser (List α) := fun input s => p.atMost input.maxRounds input s

/-- Repeats the parser, up to `max` times if there is such a limit, and fails where it ends after
fewer than `min` times. -/
def times (min : Nat) (max : Option Nat) (p : Parser α) : Parser (List α) := fun input s =>
  (match max with
    | some max => p.atMost max input s
    | none => p.many input s).resume
    (fun vs t => if vs.length < min then .failure t else .success vs t) .failure

/-- Repeats the parser as often as it succeeds, and fails where that is fewer than `min` times. -/
def atLeast (min : Nat) (p : Parser α) : Parser (List α) := p.times min none

/-- Without a least number of rounds, the rounds alone decide. -/
theorem reply?_times_zero (max : Nat) (p : Parser α) (input : Input) (s : State) :
    (p.times 0 (some max) input s).reply? = (p.atMost max input s).reply? := by
  rw [times, Run.reply?_resume]
  split <;> simp_all

end Descent.Parser
