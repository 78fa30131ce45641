import Descent.Proofs.Congruence

/-!
# Groups of alternatives

Alternatives can be regrouped freely (`alternatives_regroup`): their order matters, and not which of
them stand in a group of their own. A group that fails softly hands on the labels that it started
with and those of its alternatives, as its alternatives would have done without it.

Where each alternative takes its failures back, the first one that does not fail decides, however
far those before it have read (`alt_attempts`). Of an alternative that failed, its label is left, if
it has one, and nothing else.
-/

namespace Descent

variable {α : Type}

namespace Parser

theorem reply?_or (p q : Parser α) (input : Input) (s : State) :
    (p.or q input s).reply? =
      match (p input s).reply? with
      | some (.failure t) =>
        if t.index = s.index then (q input (s.withExpected t.expected)).reply?
        else some (.failure t)
      | r => r := by
  rw [or, Run.reply?_resume]
  rcases (p input s).reply? with _ | ⟨v, t⟩ | t | i
  · rfl
  · rfl
  · exact apply_ite Run.reply? ..
  · rfl

/-! ## Regrouping -/

theorem fail_or (p : Parser α) : (fail.or p).SameReplies p := by
  intro input s
  rw [reply?_or]
  exact if_pos rfl

theorem or_assoc (p q r : Parser α) : ((p.or q).or r).SameReplies (p.or (q.or r)) := by
  intro input s
  rw [reply?_or, reply?_or, reply?_or]
  rcases (p input s).reply? with _ | ⟨v, t⟩ | t | i
  · rfl
  · rfl
  · by_cases soft : t.index = s.index
    · -- the inner choice starts where the outer one does, with the labels of the first failure
      simp only [if_pos soft, reply?_or]
      rcases (q input (s.withExpected t.expected)).reply? with _ | ⟨v, u⟩ | u | i <;> rfl
    · simp only [if_neg soft]
  · rfl

theorem alt_append (ps qs : List (Parser α)) :
    (alt (ps ++ qs)).SameReplies ((alt ps).or (alt qs)) := by
  induction ps with
  | nil => exact (fail_or (alt qs)).symm
  | cons p ps ih =>
    have first : (alt (p :: (ps ++ qs))).SameReplies (p.or ((alt ps).or (alt qs))) :=
      (alt_cons p (ps ++ qs)).trans (.or (.refl p) ih)
    have whole : (p.or (alt ps)).SameReplies (alt (p :: ps)) := (alt_cons p ps).symm
    exact first.trans ((or_assoc p _ _).symm.trans (whole.or (.refl _)))

/-- Alternatives in a row may be put into a group of their own, also into an empty one; a list of
them may be cut in two; and nested choices lean to either side. -/
theorem alternatives_regroup :
    (∀ ps qs rs : List (Parser α),
      (alt (ps ++ qs ++ rs)).SameReplies (alt (ps ++ [alt qs] ++ rs)) ∧
        (alt (ps ++ qs)).SameReplies ((alt ps).or (alt qs))) ∧
    ∀ p q r : Parser α, ((p.or q).or r).SameReplies (p.or (q.or r)) := by
  refine ⟨fun ps qs rs => ⟨?_, alt_append ps qs⟩, or_assoc⟩
  have apart : (alt (qs ++ rs)).SameReplies (alt (alt qs :: rs)) :=
    (alt_append qs rs).trans (alt_cons (alt qs) rs).symm
  have behind : ((alt ps).or (alt (qs ++ rs))).SameReplies (alt (ps ++ alt qs :: rs)) :=
    .trans (.or (.refl _) apart) (alt_append ps (alt qs :: rs)).symm
  rw [List.append_assoc, List.append_assoc, List.singleton_append]
  exact (alt_append ps (qs ++ rs)).trans behind

/-- A group of a single alternative is more than the alternative: where that one fails softly, the
group takes back what it has put into the context. -/
example :
    let p : Parser Unit := (change (.put "k" (.int 1))).seqRight fail
    (p (.ofChars []) .start).reply? = some (.failure ⟨0, [], .ofList [("k", .int 1)]⟩) ∧
      (alt [p] (.ofChars []) .start).reply? = some (.failure ⟨0, [], .empty⟩) := ⟨rfl, rfl⟩

end Parser

/-! ## Alternatives that take their failures back -/

/-- The state with labels behind the others. -/
def State.expectingAll (s : State) (labels : List String) : State :=
  s.withExpected (s.expected ++ labels)

@[simp] theorem State.expectingAll_nil (s : State) : s.expectingAll [] = s := by
  rw [expectingAll, List.append_nil, withExpected_expected]

@[simp] theorem State.expectingAll_expectingAll (s : State) (ls ms : List String) :
    (s.expectingAll ls).expectingAll ms = s.expectingAll (ls ++ ms) := by
  simp [expectingAll]

namespace Parser

/-- The alternatives, each with a label or without one, and each taking its failures back. -/
def attempts (ps : List (Option String × Parser α)) : List (Parser α) :=
  ps.map fun (label?, p) => p.attempt label?

def labels (ps : List (Option String × Parser α)) : List String := ps.filterMap Prod.fst

/-- Each of the alternatives fails, run from the state with the labels of those before it. -/
def FailInTurn (ps : List (Option String × Parser α)) (input : Input) (s : State) : Prop :=
  ∀ front label? p back, ps = front ++ (label?, p) :: back →
    ∃ t, (p input (s.expectingAll (labels front))).reply? = some (.failure t)

variable {ps : List (Option String × Parser α)} {label? : Option String} {p : Parser α}
  {input : Input} {s : State}

theorem labels_cons : labels ((label?, p) :: ps) = label?.toList ++ labels ps := by
  cases label? <;> rfl

theorem failInTurn_nil : FailInTurn ([] : List (Option String × Parser α)) input s :=
  fun _ _ _ _ e => absurd e (by simp)

theorem FailInTurn.cons {t : State} (first : (p input s).reply? = some (.failure t))
    (others : FailInTurn ps input (s.expectingAll label?.toList)) :
    FailInTurn ((label?, p) :: ps) input s := by
  rintro (_ | ⟨a, front⟩) label'? q back e
  · cases e
    exact ⟨t, by rw [← first]; simp [labels]⟩
  · obtain ⟨rfl, rfl⟩ := List.cons.inj e
    have := others front label'? q back rfl
    rwa [State.expectingAll_expectingAll, ← labels_cons] at this

/-- An attempt that fails leaves its label behind, and no more of where it has been. -/
theorem reply?_attempt (label? : Option String) (p : Parser α) (input : Input) (s : State) :
    (p.attempt label? input s).reply? =
      match (p input s).reply? with
      | some (.failure _) => some (.failure (s.expectingAll label?.toList))
      | r => r := by
  unfold attempt
  rw [Run.reply?_resume]
  rcases (p input s).reply? with _ | ⟨v, t⟩ | t | i
  · rfl
  · rfl
  · -- the failure is the same with and without an event that tells of the rewinding
    dsimp only
    cases label? with
    | some label => split <;> rfl
    | none =>
      show _ = some (Reply.failure (s.expectingAll []))
      rw [s.expectingAll_nil]
      split <;> rfl
  · rfl

theorem reply?_alt_attempts_cons (label? : Option String) (p : Parser α)
    (ps : List (Option String × Parser α)) (input : Input) (s : State) :
    (alt (attempts ((label?, p) :: ps)) input s).reply? =
      match (p input s).reply? with
      | some (.failure _) => (alt (attempts ps) input (s.expectingAll label?.toList)).reply?
      | r => r := by
  have first := alt_cons (p.attempt label?) (attempts ps) input s
  rw [reply?_or, reply?_attempt] at first
  refine first.trans ?_
  rcases (p input s).reply? with _ | ⟨v, t⟩ | t | i
  · rfl
  · rfl
  · exact if_pos rfl
  · rfl

/-- A choice between attempts is settled by the first that does not fail, run from the start with
the labels of those before it: what that one replies, the choice replies. If there is none, the
choice fails at the start, with all labels in order. -/
theorem alt_attempts (ps : List (Option String × Parser α)) (input : Input) (s : State) :
    (FailInTurn ps input s ∧
      (alt (attempts ps) input s).reply? = some (.failure (s.expectingAll (labels ps)))) ∨
    ∃ front label? p back, ps = front ++ (label?, p) :: back ∧ FailInTurn front input s ∧
      (∀ t, (p input (s.expectingAll (labels front))).reply? ≠ some (.failure t)) ∧
      (alt (attempts ps) input s).reply? =
        (p input (s.expectingAll (labels front))).reply? := by
  induction ps generalizing s with
  | nil =>
    refine .inl ⟨failInTurn_nil, ?_⟩
    show some (Reply.failure s) = some (.failure (s.expectingAll []))
    rw [State.expectingAll_nil]
  | cons a ps ih =>
    obtain ⟨label?, p⟩ := a
    rw [reply?_alt_attempts_cons]
    by_cases fails : ∃ t, (p input s).reply? = some (.failure t)
    · obtain ⟨t, ht⟩ := fails
      rw [ht]
      rcases ih (s.expectingAll label?.toList) with ⟨all, e⟩ | ⟨front, l, q, back, rfl, all, not, e⟩
      · refine .inl ⟨all.cons ht, ?_⟩
        rw [e, State.expectingAll_expectingAll, labels_cons]
      · refine .inr ⟨(label?, p) :: front, l, q, back, rfl, all.cons ht, ?_, ?_⟩
        · rwa [labels_cons, ← State.expectingAll_expectingAll]
        · rw [labels_cons, ← State.expectingAll_expectingAll]
          exact e
    · have stands : ∀ t, (p input s).reply? ≠ some (.failure t) := fun t ht => fails ⟨t, ht⟩
      refine .inr ⟨[], label?, p, ps, rfl, failInTurn_nil, ?_, ?_⟩
      · rwa [labels, List.filterMap_nil, State.expectingAll_nil]
      · rw [labels, List.filterMap_nil, State.expectingAll_nil]
        rcases hp : (p input s).reply? with _ | ⟨v, t⟩ | t | i
        · rfl
        · rfl
        · exact absurd hp (stands t)
        · rfl

end Parser

end Descent
