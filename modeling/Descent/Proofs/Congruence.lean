import Descent.Grammar

/-!
# Parsers that reply the same

Two parsers reply the same if on every input and from every state they end with the same reply, or
both have none; what they note in the trace may differ. Every combinator keeps this: from parts that
reply the same it makes parsers that do. The laws at the end say which combinators can be written
with others.
-/

namespace Descent

variable {α β ρ : Type}

/-- Runs with the same reply go on the same, if what they go on with replies the same. -/
theorem Run.reply?_resume_congr {r r' : Run α} {f f' : α → State → Run β} {k k' : State → Run β}
    (hr : r.reply? = r'.reply?) (hf : ∀ v t, (f v t).reply? = (f' v t).reply?)
    (hk : ∀ t, (k t).reply? = (k' t).reply?) :
    (r.resume f k).reply? = (r'.resume f' k').reply? := by
  rw [reply?_resume, reply?_resume, hr]
  rcases r'.reply? with _ | ⟨v, t⟩ | t | i
  · rfl
  · exact hf v t
  · exact hk t
  · rfl

namespace Parser

/-- The parsers give the same reply, or both give none, on every input and from every state. -/
def SameReplies (p q : Parser α) : Prop := ∀ input s, (p input s).reply? = (q input s).reply?

/-- What a choice does after a failure of a part, up to the trace. -/
theorem reply?_recover_congr {start failed : State} {next next' : State → Run α}
    {committed committed' : Log} (hn : ∀ t, (next t).reply? = (next' t).reply?) :
    (recover start failed next committed).reply? =
      (recover start failed next' committed').reply? := by
  unfold recover
  split
  · exact hn _
  · rfl

theorem reply?_traced (name : String) (p : Parser α) (input : Input) (s : State) :
    (p.traced name input s).reply? = (p input s).reply? := by
  simp only [traced]
  rcases (p input s).reply? with _ | r <;> rfl

namespace SameReplies

variable {p p' q q' : Parser α}

theorem refl (p : Parser α) : p.SameReplies p := fun _ _ => rfl

theorem symm (h : p.SameReplies p') : p'.SameReplies p := fun input s => (h input s).symm

theorem trans {r : Parser α} (hp : p.SameReplies q) (hq : q.SameReplies r) : p.SameReplies r :=
  fun input s => (hp input s).trans (hq input s)

/-! ## One part after the other -/

theorem map (h : p.SameReplies p') (f : α → β) : (p.map f).SameReplies (p'.map f) :=
  fun input s => Run.reply?_resume_congr (h input s) (fun _ _ => rfl) fun _ => rfl

theorem chain {next next' : α → Parser β} (h : p.SameReplies p')
    (hn : ∀ v, (next v).SameReplies (next' v)) : (p.chain next).SameReplies (p'.chain next') :=
  fun input s => Run.reply?_resume_congr (h input s) (fun v t => hn v input t) fun _ => rfl

theorem restoring (h : p.SameReplies p') : p.restoring.SameReplies p'.restoring :=
  fun input s => Run.reply?_resume_congr (h input s) (fun _ _ => rfl) fun _ => rfl

/-! ## Choice and lookahead -/

theorem or (hp : p.SameReplies p') (hq : q.SameReplies q') :
    (p.or q).SameReplies (p'.or q') := by
  intro input s
  refine Run.reply?_resume_congr (hp input s) (fun _ _ => rfl) fun failed => ?_
  exact reply?_recover_congr fun t => hq input t

theorem attempt (h : p.SameReplies p') (label? : Option String) :
    (p.attempt label?).SameReplies (p'.attempt label?) :=
  fun input s => Run.reply?_resume_congr (h input s) (fun _ _ => rfl) fun _ => rfl

theorem lookahead (h : p.SameReplies p') : p.lookahead.SameReplies p'.lookahead :=
  fun input s => Run.reply?_resume_congr (h input s) (fun _ _ => rfl) fun _ => rfl

theorem not (h : p.SameReplies p') : p.not.SameReplies p'.not :=
  fun input s => Run.reply?_resume_congr (h input s) (fun _ _ => rfl) fun _ => rfl

/-! ## Repetition -/

theorem atMost (h : p.SameReplies p') (n : Nat) : (p.atMost n).SameReplies (p'.atMost n) := by
  intro input s
  induction n generalizing s with
  | zero => rfl
  | succ n ih =>
    rw [reply?_atMost_succ, reply?_atMost_succ, h input s]
    rcases (p' input s).reply? with _ | ⟨v, t⟩ | t | i
    · rfl
    · show (if _ then _ else _) = if _ then _ else _
      rw [ih t]
    · rfl
    · rfl

theorem times (h : p.SameReplies p') (min : Nat) (max : Option Nat) :
    (p.times min max).SameReplies (p'.times min max) := by
  intro input s
  refine Run.reply?_resume_congr ?_ (fun _ _ => rfl) fun _ => rfl
  cases max with
  | none => exact h.atMost input.maxRounds input s
  | some max => exact h.atMost max input s

/-- The first round of a list with separators, and then the rounds to come. -/
theorem separatedRounds {sep sep' : Parser β} (hp : p.SameReplies p') (hs : sep.SameReplies sep')
    (input : Input) (n : Nat) (done : List α) (log log' : Log) (s : State) :
    (Parser.separatedRounds p sep input n done log s).reply? =
      (Parser.separatedRounds p' sep' input n done log' s).reply? := by
  induction n generalizing done log log' s with
  | zero => rfl
  | succ n ih =>
    simp only [Parser.separatedRounds, hs input s]
    rcases (sep' input s).reply? with _ | ⟨_, t⟩ | t | i
    · rfl
    · simp only [hp input t]
      rcases (p' input t).reply? with _ | ⟨v, u⟩ | u | i
      · rfl
      · dsimp only
        split
        · exact ih ..
        · rfl
      · rfl
      · rfl
    · rfl
    · rfl

theorem sepBy {sep sep' : Parser β} (hp : p.SameReplies p') (hs : sep.SameReplies sep')
    (nonEmpty : Bool) : (p.sepBy nonEmpty sep).SameReplies (p'.sepBy nonEmpty sep') := by
  intro input s
  refine Run.reply?_resume_congr (hp input s) (fun v t => ?_) fun _ => rfl
  exact separatedRounds hp hs ..

/-! ## Names -/

theorem traced (h : p.SameReplies p') (name : String) :
    (p.traced name).SameReplies (p'.traced name) := by
  intro input s
  rw [reply?_traced, reply?_traced]
  exact h input s

/-- Names that stand for parsers which reply the same, given names that do. -/
theorem unfold {table table' : (ρ → Parser α) → ρ → Parser α}
    (h : ∀ rules rules' : ρ → Parser α, (∀ rule, (rules rule).SameReplies (rules' rule)) →
      ∀ rule, (table rules rule).SameReplies (table' rules' rule)) (depth : Nat) (rule : ρ) :
    (Parser.unfold table depth rule).SameReplies (Parser.unfold table' depth rule) := by
  induction depth generalizing rule with
  | zero => exact refl _
  | succ n ih =>
    rw [unfold_succ, unfold_succ]
    exact h _ _ ih rule

end SameReplies

/-! ## Laws of the combinators -/

theorem reply?_seq_cons (p : Parser α) (ps : List (Parser α)) (input : Input) (s : State) :
    (seq (p :: ps) input s).reply? =
      match (p input s).reply? with
      | some (.success v t) => (seq ps input t).reply?.map (.map (v :: ·))
      | some (.failure t) => some (.failure t)
      | some (.stalled i) => some (.stalled i)
      | none => none := by
  rw [seq, Run.reply?_resume]
  rcases (p input s).reply? with _ | ⟨v, t⟩ | t | i
  · rfl
  · dsimp only
    rw [Run.reply?_resume]
    rcases (seq ps input t).reply? with _ | ⟨vs, u⟩ | u | i <;> rfl
  · rfl
  · rfl

theorem seq_cons (p : Parser α) (ps : List (Parser α)) (f : List α → β) :
    ((seq (p :: ps)).map f).SameReplies
      (p.chain fun v => (seq ps).map fun vs => f (v :: vs)) := by
  intro input s
  simp only [map, seq, chain, Run.reply?_resume]
  rcases (p input s).reply? with _ | ⟨v, t⟩ | t | i
  · rfl
  · dsimp only
    rcases (seq ps input t).reply? with _ | ⟨vs, u⟩ | u | i <;> rfl
  · rfl
  · rfl

theorem maybe_eq_or (p : Parser α) (f : Option α → β) :
    (p.maybe.map f).SameReplies ((p.map fun v => f (some v)).or (pure (f none))) := by
  intro input s
  simp only [map, maybe, or, Run.reply?_resume]
  rcases (p input s).reply? with _ | ⟨v, t⟩ | t | i
  · rfl
  · rfl
  · by_cases soft : t.index = s.index
    · simp only [Run.reply?_failure, recover, if_pos soft]
      rfl
    · simp only [Run.reply?_failure, recover, if_neg soft]
  · rfl

/-- The alternatives of a choice need no more of its start than the index and the context. -/
theorem reply?_altFrom {start start' : State} (index : start.index = start'.index)
    (context : start.context = start'.context) (i j : Nat) (ps : List (Parser α)) (input : Input)
    (s : State) : (altFrom start i ps input s).reply? = (altFrom start' j ps input s).reply? := by
  induction ps generalizing i j s with
  | nil => rfl
  | cons p ps ih =>
    refine Run.reply?_resume_congr rfl (fun _ _ => rfl) fun failed => ?_
    have same : start.withExpected failed.expected = start'.withExpected failed.expected :=
      State.ext index rfl context
    unfold recover
    rw [index, same]
    by_cases soft : failed.index = start'.index
    · rw [if_pos soft, if_pos soft]
      exact ih (i + 1) (j + 1) _
    · rw [if_neg soft, if_neg soft]

theorem alt_cons (p : Parser α) (ps : List (Parser α)) :
    (alt (p :: ps)).SameReplies (p.or (alt ps)) := by
  intro input s
  refine Run.reply?_resume_congr rfl (fun _ _ => rfl) fun failed => ?_
  unfold recover
  by_cases soft : failed.index = s.index
  · rw [if_pos soft, if_pos soft]
    have same : s.index = (s.withExpected failed.expected).index := rfl
    exact reply?_altFrom same rfl 1 0 ps input _
  · rw [if_neg soft, if_neg soft]

end Parser

end Descent
