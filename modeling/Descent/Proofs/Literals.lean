import Descent.Proofs.Alternatives
import Descent.Proofs.Landing
import Descent.Proofs.Unrolling

/-!
# Literals

A literal is read where its text stands in the input, and fails everywhere else, at offsets that
split no text too (`reply?_literal_eq`). A text stands at an offset if its pieces do, each where the
one before it ends (`standsAt_append`). So a literal replies like the sequence of the pieces into
which its text is cut, wherever that is done, once a failure of the sequence is taken back to the
start (`literal_pieces`).
-/

namespace Descent

/-! ## Texts at an offset -/

namespace Input

/-- The text stands in the input from the offset on. -/
def StandsAt (input : Input) (i : Nat) (cs : List Char) : Prop :=
  input.Holds i cs (i + utf8Length cs)

variable {input : Input} {i : Nat} {cs ds rest : List Char}

theorem standsAt_iff : input.StandsAt i cs ↔ ∃ back, input.suffix? i = some (cs ++ back) := by
  constructor
  · rintro ⟨back, hb, -⟩
    exact ⟨back, hb⟩
  · rintro ⟨back, hb⟩
    exact ⟨back, hb, rfl⟩

/-- What stands at a boundary are the first parts of what follows. -/
theorem standsAt_iff_begins (here : input.suffix? i = some rest) :
    input.StandsAt i cs ↔ cs <+: rest := by
  rw [standsAt_iff, here]
  constructor
  · rintro ⟨back, e⟩
    exact ⟨back, (Option.some.inj e).symm⟩
  · rintro ⟨back, e⟩
    exact ⟨back, congrArg some e.symm⟩

theorem StandsAt.start (h : input.StandsAt i cs) : input.Boundary i := by
  obtain ⟨back, hb⟩ := standsAt_iff.1 h
  exact boundary_iff.2 ⟨_, hb⟩

instance : Decidable (input.StandsAt i cs) :=
  decidable_of_iff ((input.suffix? i).any (cs.isPrefixOf ·) = true) <| by
    rcases h : input.suffix? i with _ | rest
    · simp [standsAt_iff, h]
    · simp [standsAt_iff_begins h]

theorem standsAt_append : input.StandsAt i (cs ++ ds) ↔
    input.StandsAt i cs ∧ input.StandsAt (i + utf8Length cs) ds := by
  constructor
  · intro h
    obtain ⟨back, hb⟩ := standsAt_iff.1 h
    rw [List.append_assoc] at hb
    exact ⟨standsAt_iff.2 ⟨_, hb⟩, standsAt_iff.2 ⟨_, suffix?_add hb⟩⟩
  · rintro ⟨first, second⟩
    have whole := first.append second
    rwa [Nat.add_assoc, ← utf8Length_append] at whole

end Input

namespace Parser

variable {input : Input} {s : State} {rest : List Char}

theorem reply?_literal (here : input.suffix? s.index = some rest) (text : String) :
    (literal text input s).reply? =
      if text.toList <+: rest then some (.success text (s.advance (utf8Length text.toList)))
      else some (.failure (s.expecting text)) := by
  rw [literal, reading, here, Option.bind_some]
  by_cases reads : text.toList <+: rest
  · rw [if_pos reads, if_pos (List.isPrefixOf_iff_prefix.2 reads)]
    rfl
  · rw [if_neg reads, if_neg fun h => reads (List.isPrefixOf_iff_prefix.1 h)]
    rfl

theorem reply?_literal_eq (text : String) (input : Input) (s : State) :
    (literal text input s).reply? =
      if input.StandsAt s.index text.toList then
        some (.success text (s.advance (utf8Length text.toList)))
      else some (.failure (s.expecting text)) := by
  rcases here : input.suffix? s.index with _ | rest
  · -- no text is left to read from
    have nowhere : ¬ input.StandsAt s.index text.toList := by
      rw [Input.standsAt_iff, here]
      simp
    rw [if_neg nowhere, literal, reading, here]
    rfl
  · rw [reply?_literal here]
    simp only [Input.standsAt_iff_begins here]

end Parser

/-! ## Literals cut into pieces -/

@[simp] theorem State.advance_advance (s : State) (m n : Nat) :
    (s.advance m).advance n = s.advance (m + n) := by
  simp [State.advance, Nat.add_assoc]

theorem State.advance_zero {s : State} (fresh : s.expected = []) : s.advance 0 = s := by
  unfold advance
  rw [← fresh]
  rfl

namespace Parser

variable {input : Input} {s : State}

theorem toList_join_cons (w : String) (ws : List String) :
    (String.join (w :: ws)).toList = w.toList ++ (String.join ws).toList := by
  rw [String.join_cons, String.toList_append]

/-- The pieces of a text are read one after the other from the state if they stand there end to end,
and if they do not, one of them fails. -/
def ReadsPieces (ws : List String) (input : Input) (s : State) : Prop :=
  ∃ t, (seq (ws.map literal) input s).reply? =
    if input.StandsAt s.index (String.join ws).toList then
      some (.success ws (s.advance (utf8Length (String.join ws).toList)))
    else some (.failure t)

/-- No piece reads nothing, which drops no labels. -/
theorem ReadsPieces.nil (start : input.Boundary s.index) (fresh : s.expected = []) :
    ReadsPieces [] input s := by
  have empty : input.StandsAt s.index (String.join []).toList := .nil start rfl
  have stays : s.advance (utf8Length (String.join []).toList) = s := s.advance_zero fresh
  refine ⟨s, ?_⟩
  rw [if_pos empty, stays]
  rfl

theorem ReadsPieces.cons {w : String} {ws : List String}
    (others : input.StandsAt s.index w.toList →
      ReadsPieces ws input (s.advance (utf8Length w.toList))) :
    ReadsPieces (w :: ws) input s := by
  unfold ReadsPieces
  rw [List.map_cons, reply?_seq_cons, reply?_literal_eq]
  simp only [toList_join_cons, Input.standsAt_append]
  by_cases first : input.StandsAt s.index w.toList
  · obtain ⟨t, ht⟩ := others first
    refine ⟨t, ?_⟩
    simp only [first, if_true, true_and, ht]
    by_cases rest : input.StandsAt (s.advance (utf8Length w.toList)).index (String.join ws).toList
    · rw [if_pos rest, if_pos (show input.StandsAt (s.index + utf8Length w.toList) _ from rest),
        State.advance_advance, utf8Length_append]
      rfl
    · rw [if_neg rest, if_neg (show ¬ input.StandsAt (s.index + utf8Length w.toList) _ from rest)]
      rfl
  · refine ⟨s.expecting w, ?_⟩
    simp only [first, if_false, false_and]

theorem readsPieces_of_fresh (ws : List String) (start : input.Boundary s.index)
    (fresh : s.expected = []) : ReadsPieces ws input s := by
  induction ws generalizing s with
  | nil => exact .nil start fresh
  | cons w ws ih => exact .cons fun first => ih first.boundary rfl

/-- A literal replies like the pieces into which its text is cut, of which there is at least one and
some may be empty. Where the text stands both read it, and drop the labels that there were; and
anywhere else, at an offset that splits no text too, both fail at the start, with the whole text as
a label behind the others. -/
theorem literal_pieces (w : String) (ws : List String) (input : Input) (s : State) :
    let text := String.join (w :: ws)
    (((seq ((w :: ws).map literal)).map String.join).attempt (some text) input s).reply? =
        (literal text input s).reply? ∧
      (literal text input s).reply? =
        if input.StandsAt s.index text.toList then
          some (.success text ⟨s.index + utf8Length text.toList, [], s.context⟩)
        else some (.failure ⟨s.index, s.expected ++ [text], s.context⟩) := by
  intro text
  refine ⟨?_, reply?_literal_eq text input s⟩
  -- the first piece is read from any state, and the others from one without labels
  obtain ⟨t, ht⟩ : ReadsPieces (w :: ws) input s :=
    .cons fun first => readsPieces_of_fresh ws first.boundary rfl
  rw [reply?_attempt, reply?_map, ht, reply?_literal_eq]
  by_cases stands : input.StandsAt s.index text.toList
  · rw [if_pos stands, if_pos stands]
    rfl
  · rw [if_neg stands, if_neg stands]
    rfl

/-- No pieces at all read nothing too, but they keep the labels, which a literal drops. -/
example :
    let s : State := ⟨0, ["a"], .empty⟩
    (((seq ([].map literal)).map String.join).attempt (some "") (.ofChars []) s).reply? =
        some (.success "" s) ∧
      (literal "" (.ofChars []) s).reply? = some (.success "" .start) := ⟨rfl, rfl⟩

end Parser

end Descent
