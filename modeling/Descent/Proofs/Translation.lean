import Descent.Proofs.Lockstep
import Descent.Result

/-!
# Parses of what follows a boundary

Where a grammar neither shows its state nor goes to a given index, a parse from behind a boundary of
the input is the parse of the text that follows the boundary, with all indices shifted.
-/

namespace Descent

variable {ρ α : Type}

/-! ## Shifted indices -/

/-- The state `k` indices further on. -/
def State.shift (k : Nat) (s : State) : State := { s with index := s.index + k }

/-- The reply at a state `k` indices further on. -/
def Reply.shift (k : Nat) : Reply α → Reply α
  | success v s => success v (s.shift k)
  | failure s => failure (s.shift k)
  | stalled i => stalled (i + k)

/-- The report with its indices `k` further on, and the same pieces of the input. -/
def Result.shift (k : Nat) : Result α → Result α
  | parsed p => parsed { p with state := p.state.shift k }
  | failed f => failed { f with index := f.index + k }
  | stalled i => stalled (i + k)

/-! ## Tails of an input -/

theorem suffixAt_append_add (front rest : List Char) (n : Nat) :
    suffixAt (front ++ rest) (n + utf8Length front) = suffixAt rest n := by
  induction front with
  | nil => rfl
  | cons c front ih =>
    obtain ⟨m, hm⟩ : ∃ m, c.utf8Size = m + 1 := ⟨c.utf8Size - 1, by have := c.utf8Size_pos; omega⟩
    have hn : n + utf8Length (c :: front) = n + utf8Length front + m + 1 := by
      rw [utf8Length_cons]
      omega
    rw [List.cons_append, hn, suffixAt, if_pos (by omega), ← ih]
    congr 1
    omega

namespace Input

variable {input rest : Input} {k : Nat}

theorem hasTail_of_suffix? {cs : List Char} (h : input.suffix? k = some cs) :
    input.HasTail (.ofChars cs) k := by
  obtain ⟨front, e, rfl⟩ := suffix?_eq_some_iff.1 h
  constructor
  · intro i
    rw [suffix?_eq, suffix?_eq, e, chars_ofChars, suffixAt_append_add]
  · rw [byteLength_eq, byteLength_eq, e, chars_ofChars, utf8Length_append, Nat.add_comm]

namespace HasTail

theorem slice?_add (tail : input.HasTail rest k) (i j : Nat) :
    input.slice? (i + k) (j + k) = rest.slice? i j := by
  rw [slice?, slice?, tail.suffix?_add, Nat.add_sub_add_right]
  by_cases h : i ≤ j
  · rw [if_pos h, if_pos (by omega)]
  · rw [if_neg h, if_neg (by omega)]

theorem suffixD_add (tail : input.HasTail rest k) (i : Nat) :
    input.suffixD (i + k) = rest.suffixD i := by
  rw [suffixD, suffixD, tail.suffix?_add]

/-- Reports show the same pieces of an input and of its tail. -/
theorem ofReply_shift (tail : input.HasTail rest k) (start : Nat) (r : Reply α) :
    Result.ofReply input (start + k) (r.shift k) = (Result.ofReply rest start r).shift k := by
  cases r with
  | success v s =>
    simp only [Reply.shift, Result.ofReply, Result.shift, State.shift, tail.slice?_add,
      tail.suffixD_add]
  | failure s =>
    simp only [Reply.shift, Result.ofReply, Result.shift, Failure.ofState, State.shift,
      tail.suffixD_add]
  | stalled i => rfl

end HasTail

end Input

/-! ## Shifted parses -/

theorem Abreast.eq_shift {input : Input} {k : Nat} {s u w : State}
    (h : Abreast input k (s.shift k) s u w) : u = w.shift k := by
  obtain ⟨X, ⟨hu, hw⟩ | ⟨hu, hw⟩⟩ := h.expected
  · exact State.ext h.index (hu.trans hw.symm) h.context
  · exact State.ext h.index (hu.trans hw.symm) h.context

theorem Reply.Abreast.eq_shift {input : Input} {k : Nat} {s : State} {r r' : Reply Value}
    (h : r.Abreast input k (s.shift k) s r') : r = r'.shift k := by
  cases h with
  | success v h => rw [h.eq_shift, Reply.shift]
  | failure h => rw [h.eq_shift, Reply.shift]
  | stalled i => rfl

namespace Grammar

/-- A parse from behind a boundary replies as the parse of what follows the boundary, with indices
shifted: the values, the labels and the context are the same, and so is what the reports show as
consumed and as remaining. -/
theorem parserWith_shift {table : ρ → Grammar ρ} {input : Input} {rest : List Char} {k : Nat}
    {g : Grammar ρ}
    (htable : ∀ rule, (table rule).Everywhere fun p => ¬ p.ShowsState ∧ ¬ p.FixesIndex)
    (hg : g.Everywhere fun p => ¬ p.ShowsState ∧ ¬ p.FixesIndex)
    (boundary : input.suffix? k = some rest) (s : State) (depth : Nat) :
    (g.parserWith table depth input (s.shift k)).reply? =
        (g.parserWith table depth (.ofChars rest) s).reply?.map (.shift k) ∧
      ((g.parserWith table depth).runFrom input (s.shift k)).result? =
        ((g.parserWith table depth).runFrom (.ofChars rest) s).result?.map (.shift k) := by
  have tail : input.HasTail (.ofChars rest) k := Input.hasTail_of_suffix? boundary
  have level : ∀ p : Grammar ρ, ¬ p.ShowsState ∧ ¬ p.FixesIndex → p.Level k :=
    fun p hp => ⟨hp.1, .inr hp.2⟩
  have start : Abreast input k (s.shift k) s (s.shift k) s := .refl rfl rfl
  have replies := parserWith_abreast tail (fun rule => (htable rule).imp level) depth
    (hg.imp level) start
  have shifted : (g.parserWith table depth input (s.shift k)).reply? =
      (g.parserWith table depth (.ofChars rest) s).reply?.map (.shift k) := by
    revert replies
    generalize (g.parserWith table depth input (s.shift k)).reply? = a
    generalize (g.parserWith table depth (.ofChars rest) s).reply? = b
    rintro (h | _)
    · rw [h.eq_shift, Option.map_some]
    · rfl
  refine ⟨shifted, ?_⟩
  simp only [Parser.runFrom, shifted]
  rcases (g.parserWith table depth (.ofChars rest) s).reply? with _ | r
  · rfl
  · exact congrArg some (tail.ofReply_shift s.index r)

/-- Behind the two bytes of a first character, a repetition up to the end of the input. -/
theorem parserWith_shift_repetition :
    let g : Grammar Empty := .seqLeft (.many (.literal "b")) .eof
    (g.parserWith Empty.elim 0 (.ofChars ['b', 'b']) .start).reply? =
        some (.success (.arr [.str "b", .str "b"]) ⟨2, ["b"], .empty⟩) ∧
      (g.parserWith Empty.elim 0 (.ofChars ['é', 'b', 'b']) ⟨2, [], .empty⟩).reply? =
        some (.success (.arr [.str "b", .str "b"]) ⟨4, ["b"], .empty⟩) ∧
      ((g.parserWith Empty.elim 0).runFrom (.ofChars ['é', 'b', 'b']) ⟨2, [], .empty⟩).result? =
        some (.parsed ⟨.arr [.str "b", .str "b"], ['b', 'b'], [], ⟨4, ["b"], .empty⟩⟩) := by
  intro g
  have hg : g.Everywhere fun p => ¬ p.ShowsState ∧ ¬ p.FixesIndex := by
    refine .intro ⟨nofun, nofun⟩ fun p hp => ?_
    rcases hp with rfl | rfl
    · refine .intro ⟨nofun, nofun⟩ fun p hp => ?_
      obtain rfl : p = _ := hp
      exact .intro ⟨nofun, nofun⟩ nofun
    · exact .intro ⟨nofun, nofun⟩ nofun
  have boundary : (Input.ofChars ['é', 'b', 'b']).suffix? 2 = some ['b', 'b'] := rfl
  have htable : ∀ rule : Empty, (Empty.elim rule : Grammar Empty).Everywhere fun p =>
      ¬ p.ShowsState ∧ ¬ p.FixesIndex := nofun
  obtain ⟨reply, result⟩ := parserWith_shift htable hg boundary .start 0
  exact ⟨rfl, reply, result⟩

end Grammar

end Descent
