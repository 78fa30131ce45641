import Descent.Proofs.Confined

/-!
# The rounds of a repetition

A repetition runs its parser from one state after the other: each round starts where the one before
it has moved on to. `Parser.roundStarts` lists these states, and the trace of a repetition shows the
runs from them and nothing else (`toList_log_atMost`). Since rounds move on, there are no more of
them than indices from the start to the greatest word (`length_roundStarts_le`), whatever the parser
does.
-/

namespace Descent

variable {α β : Type}

@[simp] theorem Reply.index_map (f : α → β) (r : Reply α) : (r.map f).index = r.index := by
  cases r <;> rfl

namespace Parser

/-- The states from which a repetition of up to `n` rounds runs the parser, in order. -/
def roundStarts (p : Parser α) (input : Input) : Nat → State → List State
  | 0, _ => []
  | n + 1, s =>
    match (p input s).reply? with
    | some (.success _ t) => if s.index < t.index then s :: roundStarts p input n t else [s]
    | _ => [s]

/-- What the trace shows of a round: the run of the parser, and a note if it succeeded without
moving on. -/
def roundEntries (p : Parser α) (input : Input) (s : State) : List Entry :=
  (p input s).log.toList ++
    match (p input s).reply? with
    | some (.success _ t) => if s.index < t.index then [] else [.event (.stalled s.index)]
    | _ => []

/-- The last round of a repetition starts at `u`, and fails at `f` without moving on. -/
structure EndsSoftly (p : Parser α) (input : Input) (n : Nat) (s u f : State) : Prop where
  last : (p.roundStarts input n s).getLast? = some u
  fails : (p input u).reply? = some (.failure f)
  stayed : f.index = u.index

/-- From every state at a word, the parser answers, and at a word. -/
def AnswersInWords (p : Parser α) (input : Input) : Prop :=
  ∀ s : State, s.index ≤ maxWord → ∃ r, (p input s).reply? = some r ∧ r.index ≤ maxWord

variable {p : Parser α} {input : Input} {n : Nat} {s t u f : State} {v : α} {vs : List α}

/-! ## The first round -/

theorem roundStarts_succ_of_moved (hp : (p input s).reply? = some (.success v t))
    (moved : s.index < t.index) :
    p.roundStarts input (n + 1) s = s :: p.roundStarts input n t := by
  simp only [roundStarts, hp, if_pos moved]

theorem roundStarts_succ_of_not_moved
    (hp : ∀ v t, (p input s).reply? = some (.success v t) → ¬ s.index < t.index) :
    p.roundStarts input (n + 1) s = [s] := by
  rw [roundStarts]
  split
  · rename_i v t hr
    exact if_neg (hp v t hr)
  · rfl

theorem cases_of_atMost_succ_success
    (h : (p.atMost (n + 1) input s).reply? = some (.success vs t)) :
    (∃ v u ws, (p input s).reply? = some (.success v u) ∧ s.index < u.index ∧
      (p.atMost n input u).reply? = some (.success ws t) ∧ vs = v :: ws) ∨
    ((p input s).reply? = some (.failure t) ∧ t.index = s.index ∧ vs = []) := by
  rw [reply?_atMost_succ] at h
  rcases hp : (p input s).reply? with _ | ⟨v, u⟩ | u | i <;> rw [hp] at h
  · cases h
  · dsimp only at h
    split at h
    · rename_i moved
      obtain ⟨r, hr, e⟩ := Option.map_eq_some_iff.1 h
      cases r <;> cases e
      exact .inl ⟨v, u, _, rfl, moved, hr, rfl⟩
    · cases h
  · dsimp only at h
    split at h
    · rename_i stayed
      cases h
      exact .inr ⟨rfl, stayed, rfl⟩
    · cases h
  · cases h

theorem endsSoftly_succ_of_moved (hp : (p input s).reply? = some (.success v t))
    (moved : s.index < t.index) :
    p.EndsSoftly input (n + 1) s u f ↔ p.EndsSoftly input n t u f := by
  have last : (p.roundStarts input (n + 1) s).getLast? =
      some ((p.roundStarts input n t).getLast?.getD s) := by
    rw [roundStarts_succ_of_moved hp moved, List.getLast?_cons]
  constructor
  · intro h
    refine ⟨?_, h.fails, h.stayed⟩
    -- the first round is not the last, since it does not fail
    have hu : (p.roundStarts input n t).getLast?.getD s = u :=
      Option.some.inj (last.symm.trans h.last)
    cases e : (p.roundStarts input n t).getLast? with
    | none =>
      rw [e] at hu
      obtain rfl : s = u := hu
      cases hp.symm.trans h.fails
    | some x =>
      rw [e] at hu
      exact congrArg some hu
  · intro h
    refine ⟨?_, h.fails, h.stayed⟩
    rw [last, h.last]
    rfl

theorem endsSoftly_succ_of_failure (hp : (p input s).reply? = some (.failure f))
    (stayed : f.index = s.index) : p.EndsSoftly input (n + 1) s s f where
  last := by
    rw [roundStarts_succ_of_not_moved fun v t hr => by rw [hp] at hr; cases hr]
    rfl
  fails := hp
  stayed := stayed

/-! ## What the trace shows -/

theorem toList_log_rounds (done : List α) (log : Log) :
    (rounds p input n done log s).log.toList =
      log.toList ++ (p.roundStarts input n s).flatMap (p.roundEntries input) := by
  induction n generalizing done log s with
  | zero => simp [rounds, roundStarts]
  | succ n ih =>
    simp only [rounds, roundStarts]
    rcases hp : (p input s).reply? with _ | ⟨v, t⟩ | t | i
    · simp [roundEntries, hp]
    · by_cases moved : s.index < t.index
      · simp [roundEntries, hp, moved, ih]
      · simp [roundEntries, hp, moved]
    · dsimp only
      split <;> simp [roundEntries, hp]
    · simp [roundEntries, hp]

/-- The trace of a repetition is that of its rounds. -/
theorem toList_log_atMost : (p.atMost n input s).log.toList =
    (p.roundStarts input n s).flatMap (p.roundEntries input) := toList_log_rounds [] .empty

/-! ## How many rounds there are -/

/-- Rounds go up to the greatest word at most, one index at a time. -/
theorem length_roundStarts_le (answers : p.AnswersInWords input) (hs : s.index ≤ maxWord) :
    (p.roundStarts input n s).length ≤ min n (maxWord + 1 - s.index) := by
  induction n generalizing s with
  | zero => simp [roundStarts]
  | succ n ih =>
    by_cases first : ∃ v t, (p input s).reply? = some (.success v t) ∧ s.index < t.index
    · obtain ⟨v, t, hp, moved⟩ := first
      obtain ⟨r, hr, ht⟩ := answers s hs
      obtain rfl : r = .success v t := Option.some.inj (hr.symm.trans hp)
      have later := ih (s := t) ht
      rw [roundStarts_succ_of_moved hp moved, List.length_cons]
      omega
    · rw [roundStarts_succ_of_not_moved fun v t hp moved => first ⟨v, t, hp, moved⟩]
      rw [List.length_singleton]
      omega

theorem AnswersInWords.atMost (answers : p.AnswersInWords input) (n : Nat) :
    (p.atMost n).AnswersInWords input := by
  intro s hs
  induction n generalizing s with
  | zero => exact ⟨_, rfl, hs⟩
  | succ n ih =>
    rw [reply?_atMost_succ]
    obtain ⟨r, hr, hi⟩ := answers s hs
    rw [hr]
    cases r with
    | success v t =>
      obtain ⟨r, hr, hj⟩ := ih t hi
      dsimp only
      split
      · exact ⟨r.map (v :: ·), by rw [hr]; rfl, by rwa [Reply.index_map]⟩
      · exact ⟨_, rfl, hs⟩
    | failure t =>
      dsimp only
      split <;> exact ⟨_, rfl, hi⟩
    | stalled i => exact ⟨_, rfl, hi⟩

/-! ## Where a repetition succeeds -/

theorem length_le_of_atMost_success (h : (p.atMost n input s).reply? = some (.success vs t)) :
    vs.length ≤ n := by
  induction n generalizing s vs with
  | zero =>
    cases h
    exact Nat.le_refl 0
  | succ n ih =>
    rcases cases_of_atMost_succ_success h with ⟨v, u, ws, -, -, hw, rfl⟩ | ⟨-, -, rfl⟩
    · exact Nat.succ_le_succ (ih hw)
    · exact Nat.zero_le _

theorem add_length_le_of_atMost_success
    (h : (p.atMost n input s).reply? = some (.success vs t)) : s.index + vs.length ≤ t.index := by
  induction n generalizing s vs with
  | zero =>
    cases h
    exact Nat.le_refl _
  | succ n ih =>
    rcases cases_of_atMost_succ_success h with ⟨v, u, ws, -, moved, hw, rfl⟩ | ⟨-, stayed, rfl⟩
    · have later := ih hw
      rw [List.length_cons]
      omega
    · exact Nat.le_of_eq stayed.symm

/-- A repetition that succeeds before it reaches its limit ends with the failure of its last
round. -/
theorem endsSoftly_of_atMost_success (h : (p.atMost n input s).reply? = some (.success vs t)) :
    vs.length = n ∨ ∃ u, p.EndsSoftly input n s u t := by
  induction n generalizing s vs with
  | zero =>
    cases h
    exact .inl rfl
  | succ n ih =>
    rcases cases_of_atMost_succ_success h with ⟨v, u, ws, hp, moved, hw, rfl⟩ | ⟨hp, stayed, rfl⟩
    · rcases ih hw with full | ⟨x, soft⟩
      · exact .inl (congrArg (· + 1) full)
      · exact .inr ⟨x, (endsSoftly_succ_of_moved hp moved).2 soft⟩
    · exact .inr ⟨s, endsSoftly_succ_of_failure hp stayed⟩

end Parser

end Descent
