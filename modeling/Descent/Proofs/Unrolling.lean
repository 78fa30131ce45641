import Descent.Proofs.Congruence
import Descent.Proofs.Rounds

/-!
# Repetitions unrolled

A repetition can be cut anywhere: so many rounds and then so many more are as many rounds as both
together (`atMost_add`), and what comes after the cut starts from the very state that the uncut
repetition would have had. An exact number of rounds is a sequence of as many copies of the parser,
unless a round stays where it started (`times_agrees_with_seq`), since only a repetition minds that.
-/

namespace Descent

variable {α β γ : Type}

theorem Run.reply?_resume_resume (r : Run α) (f : α → State → Run β) (k : State → Run β)
    (g : β → State → Run γ) :
    ((r.resume f k).resume g .failure).reply? =
      (r.resume (fun v t => (f v t).resume g .failure)
        fun t => (k t).resume g .failure).reply? := by
  simp only [reply?_resume]
  rcases r.reply? with _ | ⟨v, t⟩ | t | i <;> rfl

namespace Parser

/-! ## Parsers one after the other -/

theorem chain_chain (p : Parser α) (f : α → Parser β) (g : β → Parser γ) :
    ((p.chain f).chain g).SameReplies (p.chain fun v => (f v).chain g) :=
  fun _ _ => Run.reply?_resume_resume ..

theorem chain_pure (p : Parser α) : (p.chain pure).SameReplies p := by
  intro input s
  rw [chain, Run.reply?_resume]
  rcases (p input s).reply? with _ | ⟨v, t⟩ | t | i <;> rfl

theorem map_chain (p : Parser α) (f : α → β) (g : β → Parser γ) :
    ((p.map f).chain g).SameReplies (p.chain fun v => g (f v)) :=
  fun _ _ => Run.reply?_resume_resume ..

theorem chain_map (p : Parser α) (f : α → Parser β) (g : β → γ) :
    ((p.chain f).map g).SameReplies (p.chain fun v => (f v).map g) :=
  fun _ _ => Run.reply?_resume_resume ..

theorem map_map (p : Parser α) (f : α → β) (g : β → γ) :
    ((p.map f).map g).SameReplies (p.map fun v => g (f v)) := fun _ _ => Run.reply?_resume_resume ..

theorem map_id (p : Parser α) : (p.map fun v => v).SameReplies p := by
  intro input s
  rw [map, Run.reply?_resume]
  rcases (p input s).reply? with _ | ⟨v, t⟩ | t | i <;> rfl

theorem reply?_map (p : Parser α) (f : α → β) (input : Input) (s : State) :
    (p.map f input s).reply? = (p input s).reply?.map (.map f) := by
  rw [map, Run.reply?_resume]
  rcases (p input s).reply? with _ | ⟨v, t⟩ | t | i <;> rfl

theorem reply?_chain (p : Parser α) (f : α → Parser β) (input : Input) (s : State) :
    (p.chain f input s).reply? =
      match (p input s).reply? with
      | some (.success v t) => (f v input t).reply?
      | some (.failure t) => some (.failure t)
      | some (.stalled i) => some (.stalled i)
      | none => none := Run.reply?_resume ..

/-- What goes on with the values of a parser matters for those alone that it yields. -/
theorem reply?_chain_congr {p : Parser α} {f g : α → Parser β} {input : Input} {s : State}
    (h : ∀ v t, (p input s).reply? = some (.success v t) →
      (f v input t).reply? = (g v input t).reply?) :
    (p.chain f input s).reply? = (p.chain g input s).reply? := by
  rw [reply?_chain, reply?_chain]
  rcases hp : (p input s).reply? with _ | ⟨v, t⟩ | t | i
  · rfl
  · exact h v t hp
  · rfl
  · rfl

/-! ## Cutting a repetition -/

/-- Up to `m + n` rounds are up to `m` rounds and, if there were as many, up to `n` more. -/
theorem atMost_add (p : Parser α) (m n : Nat) :
    (p.atMost (m + n)).SameReplies
      ((p.atMost m).chain fun xs =>
        if xs.length < m then pure xs else (p.atMost n).map (xs ++ ·)) := by
  intro input s
  induction m generalizing s with
  | zero =>
    rw [Nat.zero_add, reply?_chain, reply?_atMost_zero]
    exact (map_id (p.atMost n) input s).symm
  | succ m ih =>
    rw [Nat.succ_add, reply?_atMost_succ, reply?_chain, reply?_atMost_succ]
    rcases (p input s).reply? with _ | ⟨v, t⟩ | t | i
    · rfl
    · dsimp only
      split
      · rw [ih t, ← reply?_map, ← reply?_map, ← reply?_chain]
        refine (chain_map _ _ _ input t).trans (.trans ?_ (map_chain _ _ _ input t).symm)
        refine reply?_chain_congr fun xs u _ => ?_
        -- the value of the first round counts on one side of the cut
        by_cases cut : xs.length < m
        · have cut' : (v :: xs).length < m + 1 := Nat.succ_lt_succ cut
          rw [if_pos cut, if_pos cut']
          rfl
        · have cut' : ¬ (v :: xs).length < m + 1 := fun h => cut (Nat.lt_of_succ_lt_succ h)
          rw [if_neg cut, if_neg cut']
          exact map_map _ _ _ input u
      · rfl
    · dsimp only
      split <;> rfl
    · rfl

theorem reply?_atMost_add {p : Parser α} {input : Input} {s : State} {m : Nat}
    (short : ∀ vs t, (p.atMost m input s).reply? = some (.success vs t) → vs.length < m) (n : Nat) :
    (p.atMost (m + n) input s).reply? = (p.atMost m input s).reply? := by
  rw [atMost_add p m n input s]
  refine (reply?_chain_congr fun vs t h => ?_).trans (chain_pure _ input s)
  rw [if_pos (short vs t h)]

theorem reply?_atMost_eq {p : Parser α} {input : Input} {s : State} {m n : Nat}
    (hm : ∀ vs t, (p.atMost m input s).reply? = some (.success vs t) → vs.length < m)
    (hn : ∀ vs t, (p.atMost n input s).reply? = some (.success vs t) → vs.length < n) :
    (p.atMost m input s).reply? = (p.atMost n input s).reply? := by
  rw [← reply?_atMost_add hm n, ← reply?_atMost_add hn m, Nat.add_comm]

/-- Yields the values if there are `n` of them at least, and fails otherwise. -/
def enough (n : Nat) (vs : List α) : Parser (List α) := if vs.length < n then fail else pure vs

theorem times_eq_chain (p : Parser α) (min max : Nat) :
    (p.times min (some max)).SameReplies ((p.atMost max).chain (enough min)) := by
  refine fun input s => Run.reply?_resume_congr rfl (fun vs t => ?_) fun _ => rfl
  rw [enough]
  split <;> rfl

/-- Values in front of those of the rounds to come count for as many as they are. -/
theorem map_chain_enough (p : Parser (List α)) (k : Nat) (xs : List α) :
    ((p.map (xs ++ ·)).chain (enough (xs.length + k))).SameReplies
      ((p.chain (enough k)).map (xs ++ ·)) := by
  intro input s
  refine (map_chain _ _ _ input s).trans (.trans ?_ (chain_map _ _ _ input s).symm)
  refine reply?_chain_congr fun ys t _ => ?_
  simp only [enough, List.length_append, Nat.add_lt_add_iff_left]
  split <;> rfl

/-- From `m + k` to `m + n` rounds are `m` rounds and then from `k` to `n` more. -/
theorem times_add (p : Parser α) (m k n : Nat) :
    (p.times (m + k) (some (m + n))).SameReplies
      ((p.times m (some m)).chain fun xs => (p.times k (some n)).map (xs ++ ·)) := by
  intro input s
  calc (p.times (m + k) (some (m + n)) input s).reply?
      = ((p.atMost (m + n)).chain (enough (m + k)) input s).reply? := times_eq_chain _ _ _ input s
    _ = ((p.atMost m).chain (fun xs => (if xs.length < m then pure xs else
          (p.atMost n).map (xs ++ ·)).chain (enough (m + k))) input s).reply? :=
        ((atMost_add p m n).chain fun _ => .refl _).trans (chain_chain _ _ _) input s
    _ = ((p.atMost m).chain (fun xs => (enough m xs).chain fun xs =>
          (p.times k (some n)).map (xs ++ ·)) input s).reply? := by
        refine reply?_chain_congr fun xs t h => ?_
        rw [enough]
        split
        · rename_i short
          show (enough (m + k) xs input t).reply? = some (.failure t)
          rw [enough, if_pos (Nat.lt_of_lt_of_le short (Nat.le_add_right m k))]
          rfl
        · -- all `m` rounds in front of the cut were made
          rename_i full
          obtain rfl : xs.length = m :=
            Nat.le_antisymm (length_le_of_atMost_success h) (Nat.le_of_not_lt full)
          refine (map_chain_enough _ k xs input t).trans ?_
          exact ((times_eq_chain p k n).map _).symm input t
    _ = ((p.times m (some m)).chain (fun xs =>
          (p.times k (some n)).map (xs ++ ·)) input s).reply? :=
        ((chain_chain _ _ _).symm.trans
          ((times_eq_chain p m m).symm.chain fun _ => .refl _)) input s

/-- Rounds without a limit, of which there must be `n`, are `n` rounds and then as many as there
are, if a limit does not end them. -/
theorem reply?_atLeast {p : Parser α} {input : Input} {s : State}
    (short : ∀ vs t, (p.many input s).reply? = some (.success vs t) →
      vs.length < input.maxRounds) (n : Nat) :
    (p.atLeast n input s).reply? =
      (((p.times n (some n)).chain fun xs => p.many.map (xs ++ ·)) input s).reply? := by
  calc (p.atLeast n input s).reply?
      = (p.times (n + 0) (some (n + input.maxRounds)) input s).reply? := by
        refine Run.reply?_resume_congr ?_ (fun _ _ => rfl) fun _ => rfl
        rw [Nat.add_comm]
        exact (reply?_atMost_add short n).symm
    _ = (((p.times n (some n)).chain fun xs =>
          (p.times 0 (some input.maxRounds)).map (xs ++ ·)) input s).reply? :=
        times_add p n 0 input.maxRounds input s
    _ = (((p.times n (some n)).chain fun xs => p.many.map (xs ++ ·)) input s).reply? := by
        refine reply?_chain_congr fun xs t _ => ?_
        rw [reply?_map, reply?_map, reply?_times_zero]
        rfl

/-! ## Rounds and copies -/

theorem reply?_times_succ (p : Parser α) (n : Nat) (input : Input) (s : State) :
    (p.times (n + 1) (some (n + 1)) input s).reply? =
      match (p input s).reply? with
      | some (.success v t) =>
        if s.index < t.index then (p.times n (some n) input t).reply?.map (.map (v :: ·))
        else some (.stalled s.index)
      | some (.failure t) => some (.failure t)
      | some (.stalled i) => some (.stalled i)
      | none => none := by
  rw [times, Run.reply?_resume, reply?_atMost_succ]
  rcases (p input s).reply? with _ | ⟨v, t⟩ | t | i
  · rfl
  · by_cases moved : s.index < t.index
    · simp only [if_pos moved, times, Run.reply?_resume]
      rcases (p.atMost n input t).reply? with _ | ⟨vs, u⟩ | u | i
      · rfl
      · simp only [Option.map_some, Reply.map, List.length_cons, Nat.add_lt_add_iff_right]
        split <;> rfl
      · rfl
      · rfl
    · simp only [if_neg moved]
  · by_cases soft : t.index = s.index
    · -- the rounds are over, and there were too few
      simp only [if_pos soft, List.length_nil, if_pos n.succ_pos]
      rfl
    · simp only [if_neg soft]
      rfl
  · rfl

/-- An exact number of rounds replies as a sequence of as many copies of the parser, unless one of
the rounds succeeds without moving on, which is then what the repetition replies. -/
theorem times_agrees_with_seq (p : Parser α) (n : Nat) (input : Input) (s : State) :
    (∃ u ∈ p.roundStarts input n s, ∃ v t, (p input u).reply? = some (.success v t) ∧
      ¬ u.index < t.index ∧ (p.times n (some n) input s).reply? = some (.stalled u.index)) ∨
    (p.times n (some n) input s).reply? = (seq (List.replicate n p) input s).reply? := by
  induction n generalizing s with
  | zero => exact .inr rfl
  | succ n ih =>
    rw [reply?_times_succ, List.replicate_succ, seq, Run.reply?_resume]
    rcases hp : (p input s).reply? with _ | ⟨v, t⟩ | t | i
    · exact .inr rfl
    · by_cases moved : s.index < t.index
      · simp only [if_pos moved, roundStarts_succ_of_moved hp moved, Run.reply?_resume]
        rcases ih t with ⟨u, hu, w, x, hw, stays, e⟩ | e
        · refine .inl ⟨u, List.mem_cons_of_mem s hu, w, x, hw, stays, ?_⟩
          rw [e]
          rfl
        · refine .inr ?_
          rw [e]
          rcases (seq (List.replicate n p) input t).reply? with _ | ⟨ws, x⟩ | x | i <;> rfl
      · refine .inl ⟨s, ?_, v, t, hp, moved, if_neg moved⟩
        rw [roundStarts_succ_of_not_moved fun w x hw => by rw [hp] at hw; cases hw; exact moved]
        exact List.mem_singleton_self s
    · exact .inr rfl
    · exact .inr rfl

end Parser

end Descent
