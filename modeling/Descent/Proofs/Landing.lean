import Descent.Proofs.Boundary
import Descent.Proofs.Congruence

/-!
# Where parsers land

`Parser.Lands` says with which value and at which index a parser ends from every state at an index,
whatever the labels and the context of that state are. There is one law for each combinator, so that
where a composed parser lands is computed from where its parts do.
-/

namespace Descent

variable {α β γ : Type}

theorem Input.suffix?_add {input : Input} {i : Nat} {front back : List Char}
    (h : input.suffix? i = some (front ++ back)) :
    input.suffix? (i + utf8Length front) = some back := by
  rw [suffix?_eq_some_iff] at h ⊢
  obtain ⟨before, e, rfl⟩ := h
  refine ⟨before ++ front, ?_, utf8Length_append before front⟩
  rw [e, List.append_assoc]

theorem Input.suffix?_cons {input : Input} {i : Nat} {c : Char} {rest : List Char}
    (h : input.suffix? i = some (c :: rest)) : input.suffix? (i + c.utf8Size) = some rest := by
  rw [← List.singleton_append] at h
  exact suffix?_add h

theorem Input.suffix?_zero (cs : List Char) : (ofChars cs).suffix? 0 = some cs := by
  rw [suffix?_eq, chars_ofChars, suffixAt_zero]

theorem length_le_utf8Length (cs : List Char) : cs.length ≤ utf8Length cs := by
  induction cs with
  | nil => exact Nat.le_refl 0
  | cons c cs ih =>
    have := c.utf8Size_pos
    rw [List.length_cons, utf8Length_cons]
    omega

theorem Input.length_lt_maxRounds {input : Input} {i : Nat} {rest : List Char}
    (h : input.suffix? i = some rest) : rest.length < input.maxRounds := by
  have := length_le_utf8Length rest
  have := add_utf8Length_of_suffix? h
  unfold maxRounds
  omega

/-- The success at the state with the value, or the failure there if there is no value. -/
def Reply.ofValue? (v? : Option α) (s : State) : Reply α :=
  match v? with
  | some v => success v s
  | none => failure s

namespace Parser

/-- From every state at index `i` the parser ends at index `j`: it succeeds with the value, or it
fails if there is none. -/
def Lands (p : Parser α) (input : Input) (i : Nat) (v? : Option α) (j : Nat) : Prop :=
  ∀ s : State, s.index = i → ∃ t : State, t.index = j ∧ (p input s).reply? = some (.ofValue? v? t)

variable {p q : Parser α} {input : Input} {i j k n : Nat} {v : α} {v? : Option α}

theorem Lands.congr (h : p.Lands input i v? j) (same : q.SameReplies p) :
    q.Lands input i v? j := by
  intro s hs
  obtain ⟨t, ht, e⟩ := h s hs
  exact ⟨t, ht, (same input s).trans e⟩

/-! ## Readers -/

variable {label : String} {step? : List Char → Option (α × Nat)} {rest : List Char}

theorem lands_reading (h : input.suffix? i = some rest) (step : step? rest = some (v, n)) :
    (reading label step?).Lands input i (some v) (i + n) := by
  rintro s rfl
  refine ⟨s.advance n, rfl, ?_⟩
  unfold reading
  rw [h, Option.bind_some, step]
  rfl

theorem lands_reading_none (h : input.suffix? i = some rest) (step : step? rest = none) :
    (reading label step?).Lands input i none i := by
  rintro s rfl
  refine ⟨s.expecting label, rfl, ?_⟩
  unfold reading
  rw [h, Option.bind_some, step]
  rfl

theorem lands_literal {text : String} {back : List Char}
    (h : input.suffix? i = some (text.toList ++ back)) :
    (literal text).Lands input i (some text) (i + utf8Length text.toList) := by
  apply lands_reading h
  rw [if_pos (List.isPrefixOf_iff_prefix.2 (List.prefix_append _ _))]

theorem lands_literal_none {text : String} (h : input.suffix? i = some rest)
    (other : ¬ text.toList <+: rest) : (literal text).Lands input i none i := by
  apply lands_reading_none h
  rw [if_neg fun e => other (List.isPrefixOf_iff_prefix.1 e)]

theorem lands_eof : eof.Lands input input.byteLength (some ()) input.byteLength := by
  intro s hs
  refine ⟨s, hs, ?_⟩
  unfold eof
  rw [if_pos (Nat.le_of_eq hs.symm)]
  rfl

theorem lands_eof_none (h : i < input.byteLength) : eof.Lands input i none i := by
  rintro s rfl
  refine ⟨s.expecting "end of input", rfl, ?_⟩
  unfold eof
  rw [if_neg (Nat.not_le_of_lt h)]
  rfl

/-! ## One part after the other -/

theorem Lands.resume {r : Parser β} {w? : Option β} {succeed : State → α → State → Run β}
    {fail : State → State → Run β} (hp : p.Lands input i v? j)
    (hr : ∀ s, r input s = (p input s).resume (succeed s) (fail s))
    (next : ∀ s t : State, s.index = i → t.index = j → ∃ u : State, u.index = k ∧
      (v?.elim (fail s t) (succeed s · t)).reply? = some (.ofValue? w? u)) :
    r.Lands input i w? k := by
  intro s hs
  obtain ⟨t, ht, e⟩ := hp s hs
  obtain ⟨u, hu, e'⟩ := next s t hs ht
  refine ⟨u, hu, ?_⟩
  rw [hr, Run.reply?_resume, e, ← e']
  cases v? <;> rfl

theorem Lands.map (h : p.Lands input i v? j) (f : α → β) :
    (p.map f).Lands input i (v?.map f) j := by
  refine h.resume (fun _ => rfl) fun s t _ ht => ⟨t, ht, ?_⟩
  cases v? <;> rfl

theorem Lands.traced (h : p.Lands input i v? j) (name : String) :
    (p.traced name).Lands input i v? j := h.congr fun input s => reply?_traced name p input s

theorem Lands.seqLeft {r : Parser β} {w? : Option β} (hp : p.Lands input i (some v) j)
    (hr : r.Lands input j w? k) : (p.seqLeft r).Lands input i (w?.map fun _ => v) k := by
  refine hp.resume (fun _ => rfl) fun s t _ ht => ?_
  obtain ⟨u, hu, e⟩ := hr t ht
  refine ⟨u, hu, ?_⟩
  show (Run.resume _ _ _).reply? = _
  rw [Run.reply?_resume, e]
  cases w? <;> rfl

theorem Lands.seqLeft_none (hp : p.Lands input i none j) (r : Parser β) :
    (p.seqLeft r).Lands input i none j :=
  hp.resume (fun _ => rfl) fun _ t _ ht => ⟨t, ht, rfl⟩

theorem Lands.between {left : Parser β} {right : Parser γ} {w : β}
    (hl : left.Lands input i (some w) j) (h : (p.seqLeft right).Lands input j v? k) :
    (left.between p right).Lands input i v? k :=
  hl.resume (fun _ => rfl) fun _ t _ ht => h t ht

theorem Lands.between_none {left : Parser β} (hl : left.Lands input i none j) (p : Parser α)
    (right : Parser γ) : (left.between p right).Lands input i none j :=
  hl.resume (fun _ => rfl) fun _ t _ ht => ⟨t, ht, rfl⟩

/-! ## Choices -/

theorem lands_alt_nil : (alt [] : Parser α).Lands input i none i :=
  fun s hs => ⟨s, hs, rfl⟩

theorem Lands.alt_head (h : p.Lands input i v? j) (decided : v? = none → i ≠ j)
    (ps : List (Parser α)) : (alt (p :: ps)).Lands input i v? j := by
  refine h.resume (fun _ => rfl) fun s t hs ht => ⟨t, ht, ?_⟩
  cases v? with
  | some v => rfl
  | none =>
    have moved : t.index ≠ s.index := by
      rw [ht, hs]
      exact (decided rfl).symm
    rw [Option.elim_none, recover, if_neg moved]
    rfl

/-- Behind a first alternative that fails where it starts the others decide. -/
theorem Lands.alt_tail {ps : List (Parser α)} (soft : p.Lands input i none i)
    (h : (alt ps).Lands input i v? j) : (alt (p :: ps)).Lands input i v? j := by
  refine Lands.congr (soft.resume (fun _ => rfl) fun s t hs ht => ?_) (alt_cons p ps)
  obtain ⟨u, hu, e⟩ := h (s.withExpected t.expected) hs
  refine ⟨u, hu, ?_⟩
  rw [Option.elim_none, recover, if_pos (ht.trans hs.symm)]
  exact e

/-! ## Repetitions -/

variable {vs? : Option (List α)}

theorem Lands.atMost_stop (h : p.Lands input i none i) (n : Nat) :
    (p.atMost (n + 1)).Lands input i (some []) i := by
  intro s hs
  obtain ⟨t, ht, e⟩ := h s hs
  refine ⟨t, ht, ?_⟩
  rw [reply?_atMost_succ, e]
  exact if_pos (ht.trans hs.symm)

theorem Lands.atMost_fail (h : p.Lands input i none j) (moved : i ≠ j) (n : Nat) :
    (p.atMost (n + 1)).Lands input i none j := by
  intro s hs
  obtain ⟨t, ht, e⟩ := h s hs
  refine ⟨t, ht, ?_⟩
  rw [reply?_atMost_succ, e]
  apply if_neg
  rw [ht, hs]
  exact moved.symm

theorem Lands.atMost_round (h : p.Lands input i (some v) j) (moved : i < j)
    (hn : (p.atMost n).Lands input j vs? k) :
    (p.atMost (n + 1)).Lands input i (vs?.map (v :: ·)) k := by
  intro s hs
  obtain ⟨t, ht, e⟩ := h s hs
  obtain ⟨u, hu, e'⟩ := hn t ht
  refine ⟨u, hu, ?_⟩
  rw [reply?_atMost_succ, e]
  show (if s.index < t.index then _ else _) = _
  rw [ht, hs, if_pos moved, e']
  cases vs? <;> rfl

theorem Lands.many (h : (p.atMost input.maxRounds).Lands input i vs? j) :
    p.many.Lands input i vs? j := h

theorem Lands.atLeast {vs : List α} (h : (p.atMost input.maxRounds).Lands input i (some vs) j)
    (min : Nat) :
    (p.atLeast min).Lands input i (if vs.length < min then none else some vs) j := by
  refine h.many.resume (fun _ => rfl) fun s t _ ht => ⟨t, ht, ?_⟩
  show (if vs.length < min then Run.failure t else Run.success vs t).reply? = _
  by_cases few : vs.length < min
  · rw [if_pos few, if_pos few]
    rfl
  · rw [if_neg few, if_neg few]
    rfl

/-! ## Whole runs -/

theorem Lands.run_parsed (h : p.Lands input 0 (some v) j) :
    ∃ r : Parsed α, (p.run input).result? = some (.parsed r) ∧ r.value = v ∧ r.state.index = j := by
  obtain ⟨t, ht, e⟩ := h .start rfl
  have reply : (p input .start).reply? = some (.success v t) := e
  simp only [run, runFrom, reply]
  exact ⟨_, rfl, rfl, ht⟩

theorem Lands.run_failed (h : p.Lands input 0 none j) :
    ∃ f : Failure, (p.run input).result? = some (.failed f) ∧ f.index = j := by
  obtain ⟨t, ht, e⟩ := h .start rfl
  have reply : (p input .start).reply? = some (.failure t) := e
  simp only [run, runFrom, reply]
  exact ⟨_, rfl, ht⟩

end Parser

end Descent
