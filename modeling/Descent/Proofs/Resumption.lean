import Descent.Proofs.Calls
import Descent.Proofs.Rereading
import Descent.Proofs.Unrolling

/-!
# Parses that are resumed

A parse can be taken in pieces: each run starts from the state in which the one before it has ended.
`RunsInTurn` says that such runs all succeed. A sequence of the same parsers replies as the runs do
(`RunsInTurn.reply?_seq_append`), whatever they are, since the state is all that one run hands on to
the next. That the report of the sequence also shows as consumed what the runs have consumed
together (`runFrom_seq`) asks for grammars that keep the index and patterns that match where they
search from, for then the slices of the runs stand end to end.
-/

namespace Descent

variable {α ρ : Type}

/-- A report of a success shows the value and the state, and what the input holds between the
indices and behind them. -/
theorem Result.ofReply_eq_parsed_iff {input : Input} {i : Nat} {x : Reply α} {r : Parsed α} :
    ofReply input i x = .parsed r ↔ x = .success r.value r.state ∧
      r.consumed = (input.slice? i r.state.index).getD [] ∧
      r.remaining = input.suffixD r.state.index := by
  constructor
  · intro h
    cases x with
    | success v t =>
      cases h
      exact ⟨rfl, rfl, rfl⟩
    | failure t => cases h
    | stalled i => cases h
  · rintro ⟨rfl, consumed, remaining⟩
    rw [ofReply, ← consumed, ← remaining]

/-! ## Runs one after the other -/

namespace Parser

/-- The runs of the parsers in turn, each from the state in which the one before it has ended, all
succeed. They give the reports in the list and end in the last state. -/
inductive RunsInTurn (input : Input) :
    List (Parser α) → State → List (Parsed α) → State → Prop where
  | nil (s : State) : RunsInTurn input [] s [] s
  | cons {p : Parser α} {ps : List (Parser α)} {s t : State} {r : Parsed α} {rs : List (Parsed α)}
    (first : (p.runFrom input s).result? = some (.parsed r))
    (others : RunsInTurn input ps r.state rs t) : RunsInTurn input (p :: ps) s (r :: rs) t

variable {input : Input} {p : Parser α} {ps : List (Parser α)} {s t : State} {r : Parsed α}
  {rs : List (Parsed α)}

theorem result?_runFrom_eq_parsed_iff : (p.runFrom input s).result? = some (.parsed r) ↔
    (p input s).reply? = some (.success r.value r.state) ∧
      r.consumed = (input.slice? s.index r.state.index).getD [] ∧
      r.remaining = input.suffixD r.state.index := by
  rw [result?_runFrom_eq, Option.map_eq_some_iff]
  simp only [Result.ofReply_eq_parsed_iff]
  constructor
  · rintro ⟨x, hx, rfl, shown⟩
    exact ⟨hx, shown⟩
  · rintro ⟨hx, shown⟩
    exact ⟨_, hx, rfl, shown⟩

namespace RunsInTurn

theorem reply?_seq_append (h : RunsInTurn input ps s rs t) (qs : List (Parser α)) :
    (seq (ps ++ qs) input s).reply? =
      (seq qs input t).reply?.map (.map (rs.map (·.value) ++ ·)) := by
  induction h with
  | nil s =>
    simp only [List.nil_append, List.map_nil]
    rcases (seq qs input s).reply? with _ | ⟨vs, u⟩ | u | i <;> rfl
  | @cons p ps s t r rs first others ih =>
    rw [List.cons_append, reply?_seq_cons, (result?_runFrom_eq_parsed_iff.1 first).1]
    dsimp only
    rw [ih]
    rcases (seq qs input t).reply? with _ | ⟨vs, u⟩ | u | i <;> rfl

theorem reply?_seq (h : RunsInTurn input ps s rs t) :
    (seq ps input s).reply? = some (.success (rs.map (·.value)) t) := by
  have whole := h.reply?_seq_append []
  rw [List.append_nil] at whole
  rw [whole]
  simp [seq, pure, Reply.map]

theorem suffixD_eq (h : RunsInTurn input ps s rs t) : input.suffixD t.index =
    (rs.getLast?.map (·.remaining)).getD (input.suffixD s.index) := by
  induction h with
  | nil s => rfl
  | @cons p ps s t r rs first others ih =>
    rw [ih, ← (result?_runFrom_eq_parsed_iff.1 first).2.2, List.getLast?_cons]
    rcases rs.getLast? with _ | last <;> rfl

end RunsInTurn

end Parser

/-! ## Sequences of grammars -/

namespace Grammar

variable {table : ρ → Grammar ρ} {depth : Nat} {input : Input} {s t : State}
  {ps : List (Grammar ρ)} {rs : List (Parsed Value)}

theorem parsers_eq_map (rules : ρ → Parser Value) (ps : List (Grammar ρ)) :
    parsers rules ps = ps.map (·.parser rules) := by
  induction ps with
  | nil => rfl
  | cons p ps ih => rw [parsers, ih, List.map_cons]

theorem reply?_parserWith_seq (ps : List (Grammar ρ)) :
    ((Grammar.seq ps).parserWith table depth input s).reply? =
      (Parser.seq (ps.map (·.parserWith table depth)) input s).reply?.map (.map .arr) := by
  rw [← Parser.reply?_map, parserWith, parser, parsers_eq_map]
  rfl

/-- What runs of grammars in turn consume stands end to end in the input, from where the first run
starts to where the last one ends. -/
theorem holds_consumed {done : List Value → State → Plan ρ}
    (runs : Parser.RunsInTurn input (ps.map (·.parserWith table depth)) s rs t)
    (start : input.Boundary s.index)
    (stays : ∀ p u, (Plan.sequence ps s done).Reaches table input p u →
      p.KeepsIndex table input u ∧ p.Anchored table input u) :
    input.Holds s.index (rs.flatMap (·.consumed)) t.index := by
  induction ps generalizing s rs done with
  | nil =>
    cases runs
    exact .nil start rfl
  | cons p ps ih =>
    cases runs with
    | @cons _ _ _ _ r rs first others =>
      obtain ⟨keeps, anchored⟩ := stays p s .here
      obtain ⟨reply, consumed, -⟩ := Parser.result?_runFrom_eq_parsed_iff.1 first
      have replies : p.Replies table input s (.success r.value r.state) := ⟨depth, reply⟩
      have within : input.BoundaryFrom s.index r.state.index :=
        Replies.boundaryFrom keeps anchored start replies
      have own : input.Holds s.index r.consumed r.state.index := by
        rw [consumed]
        exact start.holds_slice within.1 within.2
      have others_stay : ∀ q u, (Plan.sequence ps r.state fun vs => done (r.value :: vs)).Reaches
          table input q u → q.KeepsIndex table input u ∧ q.Anchored table input u :=
        fun q u hq => stays q u (.success replies hq)
      rw [List.flatMap_cons]
      exact own.append (ih others own.boundary others_stay)

/-- Runs in turn, each from the state in which the one before it has ended, report what one run of
the sequence reports. If all succeed, so does the sequence, with the list of their values and with
the state and the remaining text of the last; and if setting the state never changes the index in
it, and patterns match where they search from, it consumes what they consume, joined. The first run
that does not succeed reports what the sequence reports, be it a failure or a repetition that
stalls. -/
theorem runFrom_seq (ps : List (Grammar ρ)) (s : State) :
    (∀ rs t, Parser.RunsInTurn input (ps.map (·.parserWith table depth)) s rs t →
      input.Boundary s.index → (Grammar.seq ps).KeepsIndex table input s →
      (Grammar.seq ps).Anchored table input s →
      (((Grammar.seq ps).parserWith table depth).runFrom input s).result? = some (.parsed
        { value := .arr (rs.map (·.value))
          consumed := rs.flatMap (·.consumed)
          remaining := (rs.getLast?.map (·.remaining)).getD (input.suffixD s.index)
          state := t })) ∧
    ∀ front p back rs t e, ps = front ++ p :: back →
      Parser.RunsInTurn input (front.map (·.parserWith table depth)) s rs t →
      ((p.parserWith table depth).runFrom input t).result? = some e → (∀ r, e ≠ .parsed r) →
      (((Grammar.seq ps).parserWith table depth).runFrom input s).result? = some e := by
  constructor
  · intro rs t runs start keeps anchored
    have reply : ((Grammar.seq ps).parserWith table depth input s).reply? =
        some (.success (.arr (rs.map (·.value))) t) := by
      rw [reply?_parserWith_seq, runs.reply?_seq]
      rfl
    have answers : (Grammar.seq ps).Replies table input s _ := ⟨depth, reply⟩
    have consumed : input.Holds s.index (rs.flatMap (·.consumed)) t.index :=
      holds_consumed runs start fun p u hp =>
        ⟨forall_of_reaches keeps answers hp, forall_of_reaches anchored answers hp⟩
    rw [Parser.result?_runFrom_eq_parsed_iff]
    refine ⟨reply, ?_, runs.suffixD_eq.symm⟩
    rw [consumed.slice?]
    rfl
  · rintro front p back rs t e rfl runs last error
    rw [Parser.result?_runFrom_eq, reply?_parserWith_seq, List.map_append, List.map_cons,
      runs.reply?_seq_append, Parser.reply?_seq_cons]
    rw [Parser.result?_runFrom_eq] at last
    obtain ⟨x, hx, rfl⟩ := Option.map_eq_some_iff.1 last
    rw [hx]
    cases x with
    | success v u => exact absurd rfl (error _)
    | failure u => rfl
    | stalled i => rfl

/-- Remembers a letter, and reads digits and another letter behind it. -/
def numbered : List (Grammar Empty) :=
  [.store "k" (.literal "é"), .many (.satisfy Char.isDigit "digit"), .literal "ü"]

theorem numbered_everywhere {c : Grammar Empty → Prop}
    (free : ∀ p : Grammar Empty, ¬ p.FixesIndex → ¬ p.SeesBeyond → c p) :
    (Grammar.seq numbered).Everywhere c := by
  refine .intro (free _ nofun nofun) fun p hp => ?_
  simp only [Part, numbered, List.mem_cons, List.not_mem_nil, or_false] at hp
  rcases hp with rfl | rfl | rfl
  · refine .intro (free _ nofun nofun) fun p hp => ?_
    rcases hp with rfl | ⟨v, rfl⟩
    · exact .intro (free _ nofun nofun) nofun
    · exact .intro (free _ nofun nofun) nofun
  · refine .intro (free _ nofun nofun) fun p hp => ?_
    obtain rfl : p = .satisfy Char.isDigit "digit" := hp
    exact .intro (free _ nofun nofun) nofun
  · exact .intro (free _ nofun nofun) nofun

/-- The letter in the context and the label of a missing digit go from one run to the next. On the
first input all three runs succeed, and on the second the last one fails. -/
theorem runFrom_seq_numbered :
    let input := Input.ofChars ['a', 'é', '1', '2', 'ü', '!']
    let other := Input.ofChars ['a', 'é', '1', '2', 'x']
    let s : State := ⟨1, ["a"], .empty⟩
    let context : Fields Value := .ofList [("k", .str "é")]
    let reports : List (Parsed Value) :=
      [⟨.null, ['é'], ['1', '2', 'ü', '!'], ⟨3, [], context⟩⟩,
        ⟨.arr [.str "1", .str "2"], ['1', '2'], ['ü', '!'], ⟨5, ["digit"], context⟩⟩,
        ⟨.str "ü", ['ü'], ['!'], ⟨7, [], context⟩⟩]
    let whole := (Grammar.seq numbered).parserWith Empty.elim 0
    Parser.RunsInTurn input (numbered.map (·.parserWith Empty.elim 0)) s reports ⟨7, [], context⟩ ∧
      input.Boundary s.index ∧ (Grammar.seq numbered).KeepsIndex Empty.elim input s ∧
      (Grammar.seq numbered).Anchored Empty.elim input s ∧
      (whole.runFrom input s).result? = some (.parsed
        ⟨.arr (reports.map (·.value)), ['é', '1', '2', 'ü'], ['!'], ⟨7, [], context⟩⟩) ∧
      (whole.runFrom other s).result? = some (.failed ⟨5, ["digit", "ü"], ['x']⟩) := by
  intro input other s context reports whole
  have runs : Parser.RunsInTurn input (numbered.map (·.parserWith Empty.elim 0)) s reports
      ⟨7, [], context⟩ := .cons rfl (.cons rfl (.cons rfl (.nil _)))
  have start : input.Boundary s.index := ⟨['a'], ['é', '1', '2', 'ü', '!'], rfl, rfl⟩
  have keeps : (Grammar.seq numbered).KeepsIndex Empty.elim input s :=
    keepsIndex_of_everywhere nofun (numbered_everywhere fun _ h _ => h) s
  have anchored : (Grammar.seq numbered).Anchored Empty.elim input s :=
    anchored_of_everywhere nofun (numbered_everywhere fun _ _ h => h) s
  refine ⟨runs, start, keeps, anchored, ?_, ?_⟩
  · exact (runFrom_seq numbered s).1 _ _ runs start keeps anchored
  · exact (runFrom_seq numbered s).2
      [.store "k" (.literal "é"), .many (.satisfy Char.isDigit "digit")] (.literal "ü") [] _ _ _ rfl
      (.cons rfl (.cons rfl (.nil _))) rfl nofun

end Grammar

end Descent
