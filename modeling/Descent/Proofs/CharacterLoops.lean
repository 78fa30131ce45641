import Mathlib.Order.Bounds.Defs
import Descent.Proofs.Literals

/-!
# Loops over characters

Many repetitions read one character in each round, for as long as what is left of the input meets a
condition. `StepsWhile` says this of the parser of the rounds, and `StepsWhile.reply?_atMost` is the
law of the loop: it reads up to the first offset at which the condition fails.

Two loops are instances. Where the condition is on the next character alone, the loop reads the same
as the scan of a whole run of characters (`takeWhile1_agrees`). Where the condition is that some
text does not stand here, the loop searches for its first occurrence (`untilText_reads`).
-/

namespace Descent

/-! ## One character after the other -/

/-- The state after the characters have been read one at a time. -/
def State.past (s : State) (cs : List Char) : State :=
  cs.foldl (fun t c => t.advance c.utf8Size) s

namespace State

@[simp] theorem past_nil (s : State) : s.past [] = s := rfl

@[simp] theorem past_cons (s : State) (c : Char) (cs : List Char) :
    s.past (c :: cs) = (s.advance c.utf8Size).past cs := rfl

/-- Characters read one at a time lead as far as the same characters read at once. -/
theorem past_eq_advance (s : State) {cs : List Char} (some : cs ≠ []) :
    s.past cs = s.advance (utf8Length cs) := by
  induction cs generalizing s with
  | nil => exact absurd rfl some
  | cons c cs ih =>
    rw [past_cons, utf8Length_cons]
    by_cases last : cs = []
    · rw [last, past_nil, utf8Length_nil, Nat.add_zero]
    · rw [ih _ last, advance_advance]

@[simp] theorem index_past (s : State) (cs : List Char) :
    (s.past cs).index = s.index + utf8Length cs := by
  by_cases none : cs = []
  · rw [none]
    rfl
  · rw [past_eq_advance s none]
    rfl

@[simp] theorem context_past (s : State) (cs : List Char) :
    (s.past cs).context = s.context := by
  by_cases none : cs = []
  · rw [none]
    rfl
  · rw [past_eq_advance s none]
    rfl

end State

/-- An offset inside a text that follows another offset leaves an end of that text. -/
theorem Input.suffix?_inside {input : Input} {i k : Nat} {front back : List Char}
    (hi : input.suffix? i = some (front ++ back)) (hk : input.Boundary k) (from_ : i ≤ k)
    (inside : k < i + utf8Length front) :
    ∃ y, y <:+ front ∧ y ≠ [] ∧ input.suffix? k = some (y ++ back) := by
  obtain ⟨before, e, rfl⟩ := suffix?_eq_some_iff.1 hi
  obtain ⟨before', rest, e', rfl⟩ := hk
  obtain ⟨x, rfl, -⟩ := exists_append_of_utf8Length_le (e.symm.trans e') from_
  have split : x ++ rest = front ++ back := by
    rw [e, List.append_assoc] at e'
    exact (List.append_cancel_left e').symm
  rw [utf8Length_append, Nat.add_lt_add_iff_left] at inside
  obtain ⟨y, rfl, rfl⟩ := exists_append_of_utf8Length_le split (Nat.le_of_lt inside)
  refine ⟨y, List.suffix_append x y, ?_, suffix?_eq_some_iff.2 ⟨before ++ x, e', rfl⟩⟩
  rintro rfl
  rw [List.append_nil] at inside
  exact absurd inside (Nat.lt_irrefl _)

namespace Parser

/-- The parser reads the next character while what is left of the input meets a condition. Where it
does not, and at the end at the latest, the parser fails where it stands, in the state `halt`. -/
structure StepsWhile (p : Parser Char) (input : Input) (goesOn : List Char → Prop)
    (halt : State → List Char → State) : Prop where
  reads : ∀ (s : State) (c : Char) (rest : List Char), input.suffix? s.index = some (c :: rest) →
    goesOn (c :: rest) → (p input s).reply? = some (.success c (s.advance c.utf8Size))
  halts : ∀ (s : State) (rest : List Char), input.suffix? s.index = some rest → ¬ goesOn rest →
    (p input s).reply? = some (.failure (halt s rest))
  stays : ∀ s rest, (halt s rest).index = s.index
  ends : ¬ goesOn []

variable {p : Parser Char} {input : Input} {goesOn : List Char → Prop}
  {halt : State → List Char → State} {s : State} {rest : List Char} {n : Nat}

/-- A loop over characters reads as many as there are up to where the condition fails, and ends with
the failure there. -/
theorem StepsWhile.reply?_atMost (h : p.StepsWhile input goesOn halt)
    (here : input.suffix? s.index = some rest) (room : rest.length < n) :
    ∃ front back, rest = front ++ back ∧ (∀ y, y <:+ front → y ≠ [] → goesOn (y ++ back)) ∧
      ¬ goesOn back ∧
      (p.atMost n input s).reply? = some (.success front (halt (s.past front) back)) := by
  induction n generalizing s rest with
  | zero => exact absurd room (Nat.not_lt_zero _)
  | succ n ih =>
    by_cases more : goesOn rest
    · cases rest with
      | nil => exact absurd more h.ends
      | cons c rest =>
        have next : input.suffix? (s.advance c.utf8Size).index = some rest :=
          Input.suffix?_cons here
        obtain ⟨front, back, rfl, held, stop, e⟩ := ih next (Nat.lt_of_succ_lt_succ room)
        refine ⟨c :: front, back, rfl, fun y hy some => ?_, stop, ?_⟩
        · rcases List.suffix_cons_iff.1 hy with rfl | hy
          · exact more
          · exact held y hy some
        · have moved : s.index < (s.advance c.utf8Size).index := by
            have := c.utf8Size_pos
            rw [State.index_advance]
            omega
          rw [reply?_atMost_succ, h.reads s c _ here more]
          simp only [if_pos moved, e]
          rfl
    · refine ⟨[], rest, rfl, fun y hy some => ?_, more, ?_⟩
      · exact absurd (List.suffix_nil.1 hy) some
      · rw [reply?_atMost_succ, h.halts s rest here more]
        exact if_pos (h.stays s rest)

theorem StepsWhile.reply?_many (h : p.StepsWhile input goesOn halt)
    (here : input.suffix? s.index = some rest) :
    ∃ front back, rest = front ++ back ∧ (∀ y, y <:+ front → y ≠ [] → goesOn (y ++ back)) ∧
      ¬ goesOn back ∧
      (p.many input s).reply? = some (.success front (halt (s.past front) back)) :=
  h.reply?_atMost here (Input.length_lt_maxRounds here)

/-! ## Runs of characters -/

/-- The text begins with an accepted character. -/
def BeginsWith (accepts : Char → Bool) (rest : List Char) : Prop :=
  ∃ c ∈ rest.head?, accepts c = true

variable {accepts : Char → Bool} {label : String}

theorem satisfy_stepsWhile (accepts : Char → Bool) (label : String) (input : Input) :
    (satisfy accepts label).StepsWhile input (BeginsWith accepts) fun s _ => s.expecting label where
  reads s c rest here more := by
    have accepted : accepts c = true := by
      obtain ⟨d, hd, h⟩ := more
      cases hd
      exact h
    unfold satisfy reading
    rw [here, Option.bind_some]
    simp only [if_pos accepted]
    rfl
  halts s rest here stop := by
    unfold satisfy reading
    rw [here, Option.bind_some]
    cases rest with
    | nil => rfl
    | cons c rest =>
      have refused : ¬ accepts c = true := fun h => stop ⟨c, rfl, h⟩
      simp only [if_neg refused]
      rfl
  stays _ _ := rfl
  ends := by
    rintro ⟨c, hc, -⟩
    cases hc

/-- A text that goes on with accepted characters up to a part that does not is the whole run. -/
theorem takeWhile_eq_front {front back : List Char}
    (held : ∀ y, y <:+ front → y ≠ [] → BeginsWith accepts (y ++ back))
    (stop : ¬ BeginsWith accepts back) : (front ++ back).takeWhile accepts = front := by
  have all : ∀ c ∈ front, accepts c = true := by
    intro c hc
    obtain ⟨x, y, rfl⟩ := List.append_of_mem hc
    obtain ⟨d, hd, accepted⟩ := held (c :: y) (List.suffix_append x _) (List.cons_ne_nil c y)
    cases hd
    exact accepted
  rw [List.takeWhile_append_of_pos all]
  cases back with
  | nil => rw [List.takeWhile_nil, List.append_nil]
  | cons c back =>
    have refused : ¬ accepts c = true := fun h => stop ⟨c, rfl, h⟩
    rw [List.takeWhile_cons_of_neg refused, List.append_nil]

theorem reply?_many_of_failure {α : Type} {p : Parser α} {t : State}
    (h : (p input s).reply? = some (.failure t)) (soft : t.index = s.index) :
    (p.many input s).reply? = some (.success [] t) := by
  obtain ⟨n, hn⟩ : ∃ n, input.maxRounds = n + 1 := by
    refine ⟨input.maxRounds - 1, ?_⟩
    unfold Input.maxRounds
    omega
  rw [many, hn, reply?_atMost_succ, h]
  exact if_pos soft

/-- The repetition of an accepted character reads the whole run of them, which may be empty, and
ends with the label of the character that is missing. -/
theorem reply?_many_satisfy (accepts : Char → Bool) (label : String) (input : Input) (s : State) :
    let run := (input.suffixD s.index).takeWhile accepts
    ((satisfy accepts label).many input s).reply? =
      some (.success run ((s.past run).expecting label)) := by
  rcases here : input.suffix? s.index with _ | rest
  · have first : (satisfy accepts label input s).reply? = some (.failure (s.expecting label)) := by
      unfold satisfy reading
      rw [here]
      rfl
    rw [Input.suffixD, here]
    exact reply?_many_of_failure first rfl
  · obtain ⟨front, back, rfl, held, stop, e⟩ :=
      (satisfy_stepsWhile accepts label input).reply?_many here
    rw [Input.suffixD, here, Option.getD_some, takeWhile_eq_front held stop]
    exact e

theorem lands_many_satisfy {i : Nat} (here : input.suffix? i = some rest) :
    (satisfy accepts label).many.Lands input i (some (rest.takeWhile accepts))
      (i + utf8Length (rest.takeWhile accepts)) := by
  rintro s rfl
  have left : input.suffixD s.index = rest := by
    rw [Input.suffixD, here]
    rfl
  refine ⟨(s.past (rest.takeWhile accepts)).expecting label, s.index_past _, ?_⟩
  rw [reply?_many_satisfy, left]
  rfl

theorem reply?_takeWhile1 (accepts : Char → Bool) (label : String) (input : Input) (s : State) :
    let run := (input.suffixD s.index).takeWhile accepts
    (takeWhile1 accepts label input s).reply? =
      if run = [] then some (.failure (s.expecting label))
      else some (.success run (s.advance (utf8Length run))) := by
  intro run
  unfold takeWhile1 reading
  rcases here : input.suffix? s.index with _ | rest
  · have none : run = [] := by simp [run, Input.suffixD, here]
    rw [if_pos none]
    rfl
  · have same : run = rest.takeWhile accepts := by simp [run, Input.suffixD, here]
    rw [same, Option.bind_some]
    by_cases none : rest.takeWhile accepts = []
    · simp only [if_pos none]
      rfl
    · simp only [if_neg none]
      rfl

theorem holds_run (accepts : Char → Bool) (input : Input) (s : State)
    (some : (input.suffixD s.index).takeWhile accepts ≠ []) :
    let run := (input.suffixD s.index).takeWhile accepts
    input.Holds s.index run (s.index + utf8Length run) := by
  intro run
  rcases here : input.suffix? s.index with _ | rest
  · simp [Input.suffixD, here] at some
  · have split : rest = run ++ rest.dropWhile accepts := by simp [run, Input.suffixD, here]
    exact ⟨_, here.trans (congrArg Option.some split), rfl⟩

/-- The scan of a run of accepted characters and the repetition of an accepted character, of which
there must be one at least, read the same from every state: the longest run of such characters. If
it is empty, as it is at an offset that splits no text, both fail at the start, with the label
behind the others. Otherwise both yield it, as the slice of the input between the indices where they
start and end, and keep the context; the scan ends without labels and the repetition with the label
of the character that ended it. -/
theorem takeWhile1_agrees (accepts : Char → Bool) (label : String) (input : Input) (s : State) :
    let run := (input.suffixD s.index).takeWhile accepts
    let scan := (takeWhile1 accepts label input s).reply?
    let loop := ((satisfy accepts label).atLeast 1 input s).reply?
    (run = [] ∧ scan = some (.failure ⟨s.index, s.expected ++ [label], s.context⟩) ∧
      loop = some (.failure ⟨s.index, s.expected ++ [label], s.context⟩)) ∨
    (run ≠ [] ∧ input.slice? s.index (s.index + utf8Length run) = some run ∧
      scan = some (.success run ⟨s.index + utf8Length run, [], s.context⟩) ∧
      loop = some (.success run ⟨s.index + utf8Length run, [label], s.context⟩)) := by
  intro run scan loop
  have hscan : scan = _ := reply?_takeWhile1 accepts label input s
  have hloop : loop = if run.length < 1 then some (.failure ((s.past run).expecting label))
      else some (.success run ((s.past run).expecting label)) := by
    have rounds := reply?_many_satisfy accepts label input s
    show (Parser.times 1 none _ input s).reply? = _
    rw [times, Run.reply?_resume, rounds]
    exact apply_ite Run.reply? ..
  by_cases none : run = []
  · refine .inl ⟨none, hscan.trans (if_pos none), ?_⟩
    rw [hloop, none]
    rfl
  · have one : ¬ run.length < 1 := by
      have := List.length_pos_iff.2 none
      omega
    refine .inr ⟨none, (holds_run accepts input s none).slice?, hscan.trans (if_neg none), ?_⟩
    rw [hloop, if_neg one, s.past_eq_advance none]
    rfl

/-! ## Up to a text -/

/-- Reads a character in front of which the text does not stand. -/
def charBefore (text : String) : Parser Char :=
  (literal text).not.seqRight (satisfy (fun _ => true) "any character")

/-- Reads all characters up to where the text stands, or to the end of the input. -/
def untilText (text : String) : Parser (List Char) := (charBefore text).many

variable {text : String}

theorem reply?_not {α : Type} (p : Parser α) (input : Input) (s : State) :
    (p.not input s).reply? =
      match (p input s).reply? with
      | some (.success _ _) => some (.failure s)
      | some (.failure t) => if t.index = s.index then some (.success () s) else some (.failure t)
      | some (.stalled i) => some (.stalled i)
      | none => none := by
  unfold Parser.not
  rw [Run.reply?_resume]
  rcases (p input s).reply? with _ | ⟨v, t⟩ | t | i
  · rfl
  · rfl
  · exact apply_ite Run.reply? ..
  · rfl

theorem reply?_not_literal (here : input.suffix? s.index = some rest) (text : String) :
    ((literal text).not input s).reply? =
      if text.toList <+: rest then some (.failure s) else some (.success () s) := by
  rw [reply?_not, reply?_literal here]
  by_cases begins : text.toList <+: rest
  · rw [if_pos begins, if_pos begins]
  · rw [if_neg begins, if_neg begins]
    exact if_pos rfl

theorem charBefore_stepsWhile (text : String) (input : Input) :
    (charBefore text).StepsWhile input (fun rest => rest ≠ [] ∧ ¬ text.toList <+: rest)
      fun s rest => if text.toList <+: rest then s else s.expecting "any character" where
  reads s c rest here more := by
    rw [charBefore, seqRight, Run.reply?_resume, reply?_not_literal here, if_neg more.2]
    exact (satisfy_stepsWhile _ _ input).reads s c rest here ⟨c, rfl, rfl⟩
  halts s rest here stop := by
    rw [charBefore, seqRight, Run.reply?_resume, reply?_not_literal here]
    by_cases begins : text.toList <+: rest
    · rw [if_pos begins, if_pos begins]
      rfl
    · have none : rest = [] := Classical.byContradiction fun some => stop ⟨some, begins⟩
      subst none
      rw [if_neg begins, if_neg begins]
      exact (satisfy_stepsWhile _ _ input).halts s [] here (satisfy_stepsWhile _ "" input).ends
  stays s rest := by split <;> rfl
  ends h := h.1 rfl

/-- The repetition of a character before a text succeeds from every boundary and keeps the context.
It ends at the least boundary from its start on where the text stands, or at the end of the input if
there is none, and it yields all characters up to there. -/
theorem untilText_reads (text : String) (start : input.Boundary s.index) :
    ∃ cs t, (untilText text input s).reply? = some (.success cs t) ∧ t.context = s.context ∧
      input.slice? s.index t.index = some cs ∧
      (IsLeast {k | input.Boundary k ∧ s.index ≤ k ∧ input.StandsAt k text.toList} t.index ∨
        (∀ k, s.index ≤ k → ¬ input.StandsAt k text.toList) ∧ t.index = input.byteLength) := by
  obtain ⟨rest, here⟩ := Input.boundary_iff.1 start
  obtain ⟨front, back, rfl, held, stop, e⟩ := (charBefore_stepsWhile text input).reply?_many here
  have read : input.Holds s.index front (s.index + utf8Length front) := ⟨back, here, rfl⟩
  have behind : input.suffix? (s.index + utf8Length front) = some back := Input.suffix?_add here
  -- at each boundary inside what has been read the text was found not to stand
  have first : ∀ k, s.index ≤ k → input.StandsAt k text.toList →
      s.index + utf8Length front ≤ k := by
    intro k from_ stands
    refine Nat.le_of_not_lt fun inside => ?_
    obtain ⟨y, hy, some, hk⟩ := Input.suffix?_inside here stands.start from_ inside
    exact (held y hy some).2 ((Input.standsAt_iff_begins hk).1 stands)
  have stopped : (if text.toList <+: back then s.past front
      else (s.past front).expecting "any character").index = s.index + utf8Length front :=
    ((charBefore_stepsWhile text input).stays _ back).trans (s.index_past front)
  refine ⟨front, _, e, ?_, ?_, ?_⟩
  · split
    · exact s.context_past front
    · exact s.context_past front
  · rw [stopped]
    exact read.slice?
  · rw [stopped]
    by_cases begins : text.toList <+: back
    · refine .inl ⟨⟨read.boundary, Nat.le_add_right _ _, ?_⟩, fun k hk => first k hk.2.1 hk.2.2⟩
      exact (Input.standsAt_iff_begins behind).2 begins
    · have none : back = [] := Classical.byContradiction fun some => stop ⟨some, begins⟩
      subst none
      have last := Input.add_utf8Length_of_suffix? behind
      rw [utf8Length_nil, Nat.add_zero] at last
      refine .inr ⟨fun k from_ stands => ?_, last⟩
      have atEnd : k = s.index + utf8Length front :=
        Nat.le_antisymm (last ▸ stands.start.le) (first k from_ stands)
      subst atEnd
      exact begins ((Input.standsAt_iff_begins behind).1 stands)

/-- The search for the end of a comment starts behind a letter, goes past another one and past a
star that no slash follows, and finds the first of two ends. -/
theorem untilText_reads_comment :
    let input := Input.ofChars ['é', 'ü', '*', '*', '/', '*', '/']
    let s : State := ⟨2, ["a"], .ofList [("k", .int 1)]⟩
    input.Boundary s.index ∧
      (untilText "*/" input s).reply? =
        some (.success ['ü', '*'] ⟨5, [], .ofList [("k", .int 1)]⟩) ∧
      IsLeast {k | input.Boundary k ∧ s.index ≤ k ∧ input.StandsAt k "*/".toList} 5 ∧
      input.slice? 2 5 = some ['ü', '*'] := by
  intro input s
  have start : input.Boundary s.index := ⟨['é'], ['ü', '*', '*', '/', '*', '/'], rfl, rfl⟩
  have reply : (untilText "*/" input s).reply? =
      some (.success ['ü', '*'] ⟨5, [], .ofList [("k", .int 1)]⟩) := by decide +kernel
  obtain ⟨cs, t, e, -, slice, least | ⟨none, -⟩⟩ := untilText_reads "*/" start
  · cases reply.symm.trans e
    exact ⟨start, reply, least, slice⟩
  · exact absurd (by decide +kernel) (none 5 (by decide))

end Parser

end Descent
