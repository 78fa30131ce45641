import Descent.Parser.Text
import Descent.Proofs.Unrolling

/-!
# Lists with separators, by repetition

The rounds of a list with separators are those of a repetition of a separator and an item, and a
list is an item and as many such rounds as there are (`sepBy_agrees`). There is one difference. A
repetition goes on with the state of the failure that ends it; a list goes back to where its last
round started, and takes over no more than the labels. So the two may succeed in different contexts,
and in nothing else do they differ.
-/

namespace Descent

variable {α β γ : Type}

/-- The replies are the same, apart from the states in which they succeed. -/
inductive Reply.Agrees (R : State → State → Prop) : Reply α → Reply α → Prop where
  | success (v : α) {s t : State} (h : R s t) : Agrees R (.success v s) (.success v t)
  | failure (s : State) : Agrees R (.failure s) (.failure s)
  | stalled (i : Nat) : Agrees R (.stalled i) (.stalled i)

/-- The states are the same, unless a last round ended softly: one that started at `u` and failed at
`f`, where `ends u f`. Then the first state has the context from before that round, and the second
is the state of its failure. -/
structure State.UndoesLast (ends : State → State → Prop) (s t : State) : Prop where
  index : s.index = t.index
  expected : s.expected = t.expected
  context_of_not : (∀ u f, ¬ ends u f) → s.context = t.context
  context_of : ∀ u f, ends u f → s.context = u.context ∧ t = f

theorem Reply.Agrees.map {R : State → State → Prop} {r r' : Reply α} (h : r.Agrees R r')
    (f : α → β) : (r.map f).Agrees R (r'.map f) := by
  cases h with
  | success v h => exact .success (f v) h
  | failure s => exact .failure s
  | stalled i => exact .stalled i

theorem Reply.Agrees.rel_map {R : State → State → Prop} {x y : Option (Reply α)}
    (h : Option.Rel (Reply.Agrees R) x y) (f : α → β) :
    Option.Rel (Reply.Agrees R) (x.map (.map f)) (y.map (.map f)) := by
  cases h with
  | some h => exact .some (h.map f)
  | none => exact .none

theorem State.UndoesLast.refl {ends : State → State → Prop} (h : ∀ u f, ¬ ends u f) (s : State) :
    s.UndoesLast ends s where
  index := rfl
  expected := rfl
  context_of_not _ := rfl
  context_of u f hu := absurd hu (h u f)

namespace Parser

variable {p : Parser α} {sep : Parser β} {input : Input} {n : Nat} {s : State}

/-- The list that begins with the item, and goes on with separators and items. -/
def listFrom (p : Parser α) (sep : Parser β) (v : α) : Parser (List α) :=
  (sep.seqRight p).many.map (v :: ·)

/-- The last round of a list with separators starts at `u`, and fails at `f` without moving on. -/
def ListEndsSoftly (p : Parser α) (sep : Parser β) (input : Input) (s u f : State) : Prop :=
  ∃ v t, (p input s).reply? = some (.success v t) ∧
    (sep.seqRight p).EndsSoftly input input.maxRounds t u f

/-- The rounds of a list are a first round, of a separator and an item, and the rounds to come. -/
theorem reply?_separatedRounds_succ (p : Parser α) (sep : Parser β) (input : Input) (n : Nat)
    (s : State) : (separatedRounds p sep input (n + 1) [] .empty s).reply? =
      match (sep.seqRight p input s).reply? with
      | some (.success v u) =>
        if s.index < u.index then
          (separatedRounds p sep input n [] .empty u).reply?.map (.map (v :: ·))
        else some (.stalled s.index)
      | some (.failure f) =>
        if f.index = s.index then some (.success [] (s.withExpected f.expected))
        else some (.failure f)
      | some (.stalled i) => some (.stalled i)
      | none => none := by
  simp only [separatedRounds, seqRight, Run.reply?_resume]
  rcases (sep input s).reply? with _ | ⟨w, t⟩ | t | i
  · rfl
  · rcases hp : (p input t).reply? with _ | ⟨v, u⟩ | u | i <;> simp only [hp]
    · by_cases moved : s.index < u.index
      · simp only [if_pos moved]
        exact reply?_separatedRounds ..
      · simp only [if_neg moved]
    · exact apply_ite some ..
  · exact apply_ite some ..
  · rfl

theorem separatedRounds_agrees (p : Parser α) (sep : Parser β) (input : Input) (n : Nat)
    (s : State) :
    Option.Rel (Reply.Agrees (State.UndoesLast ((sep.seqRight p).EndsSoftly input n s)))
      (separatedRounds p sep input n [] .empty s).reply?
      ((sep.seqRight p).atMost n input s).reply? := by
  induction n generalizing s with
  | zero =>
    refine .some (.success [] (.refl (fun u f h => ?_) s))
    cases h.last
  | succ n ih =>
    rw [reply?_separatedRounds_succ, reply?_atMost_succ]
    rcases hr : (sep.seqRight p input s).reply? with _ | ⟨v, u⟩ | f | i
    · exact .none
    · by_cases moved : s.index < u.index
      · simp only [if_pos moved]
        have ends : (sep.seqRight p).EndsSoftly input (n + 1) s =
            (sep.seqRight p).EndsSoftly input n u := by
          funext x f
          exact propext (endsSoftly_succ_of_moved hr moved)
        rw [ends]
        exact Reply.Agrees.rel_map (ih u) (v :: ·)
      · simp only [if_neg moved]
        exact .some (.stalled _)
    · by_cases soft : f.index = s.index
      · simp only [if_pos soft]
        have last : (sep.seqRight p).EndsSoftly input (n + 1) s s f :=
          endsSoftly_succ_of_failure hr soft
        refine .some (.success [] ⟨soft.symm, rfl, fun h => absurd last (h s f), fun u x h => ?_⟩)
        obtain rfl : s = u := Option.some.inj (last.last.symm.trans h.last)
        have same := last.fails.symm.trans h.fails
        cases same
        exact ⟨rfl, rfl⟩
      · simp only [if_neg soft]
        exact .some (.failure f)
    · exact .some (.stalled i)

theorem listFrom_agrees {v : α} {t : State} (hp : (p input s).reply? = some (.success v t)) :
    Option.Rel (Reply.Agrees (State.UndoesLast (p.ListEndsSoftly sep input s)))
      (separatedRounds p sep input input.maxRounds [v] .empty t).reply?
      (p.listFrom sep v input t).reply? := by
  have ends : p.ListEndsSoftly sep input s =
      (sep.seqRight p).EndsSoftly input input.maxRounds t := by
    funext u f
    refine propext ⟨?_, fun h => ⟨v, t, hp, h⟩⟩
    rintro ⟨w, t', hp', h⟩
    cases hp.symm.trans hp'
    exact h
  rw [ends, reply?_separatedRounds, listFrom, reply?_map]
  show Option.Rel _ _ (((sep.seqRight p).atMost input.maxRounds input t).reply?.map _)
  exact Reply.Agrees.rel_map (separatedRounds_agrees p sep input input.maxRounds t) (v :: ·)

/-- A list with separators agrees with its defining equation: an item, if there is one, and then as
many separators with an item as there are. The replies are the same, the states of failures
included, and so are the states of successes, unless the last round has failed without moving on:
then the list has the context from before that round. -/
theorem sepBy_agrees (p : Parser α) (sep : Parser β) (input : Input) (s : State) :
    Option.Rel (Reply.Agrees (State.UndoesLast (p.ListEndsSoftly sep input s)))
      (p.sepBy false sep input s).reply?
      ((p.maybe.chain fun
        | none => pure []
        | some v => p.listFrom sep v) input s).reply? ∧
    Option.Rel (Reply.Agrees (State.UndoesLast (p.ListEndsSoftly sep input s)))
      (p.sepBy true sep input s).reply?
      ((p.chain fun v => p.listFrom sep v) input s).reply? := by
  simp only [sepBy, chain, maybe, Run.reply?_resume]
  rcases hp : (p input s).reply? with _ | ⟨v, t⟩ | f | i
  · exact ⟨.none, .none⟩
  · exact ⟨listFrom_agrees hp, listFrom_agrees hp⟩
  · refine ⟨?_, .some (.failure f)⟩
    by_cases soft : f.index = s.index
    · simp only [recover, if_pos soft]
      refine .some (.success [] (.refl (fun u x h => ?_) _))
      obtain ⟨v, t, ht, -⟩ := h
      cases hp.symm.trans ht
    · simp only [recover, if_neg soft]
      exact .some (.failure f)
  · exact ⟨.some (.stalled i), .some (.stalled i)⟩

/-- The separator puts something into the context, and no item follows it. The list forgets what the
separator has put there, and the repetition does not. -/
example :
    let p := literal "a"
    let sep := change (.put "k" (.int 1))
    (p.sepBy true sep (.ofChars ['a']) .start).reply? =
        some (.success ["a"] ⟨1, ["a"], .empty⟩) ∧
      ((p.chain fun v => p.listFrom sep v) (.ofChars ['a']) .start).reply? =
        some (.success ["a"] ⟨1, ["a"], .ofList [("k", .int 1)]⟩) := ⟨rfl, rfl⟩

end Parser

end Descent
