import Descent.Proofs.LeftRecursion
import Descent.Proofs.Offsets
import Descent.Proofs.Unrolling

/-!
# Limits of repetitions

A repetition halts, and no limit on its rounds is needed for that: its rounds move the index on.
Where they also stay within the input, as those of a grammar do that keeps the index, a limit above
the number of bytes that are left is the same as none (`repetition_halts`). So nothing is lost where
a repetition is cut into pieces and a limit stands on each piece (`rounds_add_up`).
-/

namespace Descent

variable {ρ : Type} {table : ρ → Grammar ρ} {input : Input}

theorem Input.sub_lt_maxRounds (input : Input) (i : Nat) :
    input.byteLength - i < input.maxRounds := by
  rw [maxRounds]
  omega

namespace Grammar

variable {g : Grammar ρ} {s : State} {depth n : Nat}

/-- A parse that keeps the index does not go back, and goes no further than to the end of the
input. -/
theorem Replies.within {r : Reply Value} (keeps : g.KeepsIndex table input s)
    (parse : g.Replies table input s r) : input.Within s.index r.index := by
  obtain ⟨h, ho⟩ := replies_iff_observed.1 parse
  refine (ho.confined (G := input.Within s.index) (fun x hx => ?_) (.refl input s.index)).1
  cases x with
  | called p u =>
    intro hu
    have keepsIndex : (Occurrence.called p u).KeepsIndex := keeps r h ho _ hx
    refine ⟨fun i hi => keepsIndex.index_eq hi ▸ hu, fun reader hp v n hn => ?_⟩
    have inside : u.index + n ≤ input.byteLength := add_le_byteLength hp hn
    exact ⟨Nat.le_trans hu.le (Nat.le_add_right _ _), Nat.le_trans inside (Nat.le_max_right _ _)⟩
  | _ => exact trivial

theorem keepsIndex_times (keeps : ∀ u, g.KeepsIndex table input u) (min : Nat) (max : Option Nat)
    (s : State) : (times min max g).KeepsIndex table input s := by
  rintro r h ⟨_ | n, hn⟩ x hx
  · cases hn
  obtain ⟨k, hk, rfl⟩ := observe_succ_eq_some.1 hn
  simp only [List.cons_append, List.mem_cons, List.mem_append, List.not_mem_nil, or_false] at hx
  rcases hx with rfl | hx | rfl
  · exact trivial
  · rcases Plan.shows_of_mem hk x hx with ⟨_, _, rfl⟩ | ⟨_, rfl⟩ | ⟨p, u, r', h', hp, ho, hx⟩
    · exact trivial
    · exact trivial
    · -- the rounds run nothing but the grammar that is repeated
      have rounds : ((times min max g).plan table input s).Only (· = g) := by
        refine Plan.only_rounds rfl fun vs t => ?_
        split <;> exact trivial
      obtain rfl : p = g := hp.of_only rounds
      exact keeps u r' h' ⟨n, ho⟩ x hx
  · exact trivial

theorem reply?_parserWith_times_zero (max : Option Nat) :
    ((times 0 max g).parserWith table depth input s).reply? =
      ((g.parserWith table depth).atMost (max.getD input.maxRounds) input s).reply?.map
        (.map .arr) := by
  rw [← Parser.reply?_times_zero, ← Parser.reply?_map]
  cases max <;> rfl

/-- A repetition of a grammar that keeps the index has no more values than there are bytes left, and
so does not reach a limit above their number. -/
theorem length_lt_of_keepsIndex (keeps : ∀ u, g.KeepsIndex table input u)
    (limit : input.byteLength - s.index < n) (vs : List Value) (t : State)
    (h : ((g.parserWith table depth).atMost n input s).reply? = some (.success vs t)) :
    vs.length < n := by
  have whole : (g.atMost n).Replies table input s (.success (.arr vs) t) := by
    refine ⟨depth, ?_⟩
    rw [atMost, reply?_parserWith_times_zero, Option.getD_some, h]
    rfl
  have within : t.index ≤ max s.index input.byteLength :=
    (whole.within (keepsIndex_times keeps 0 (some n) s)).le_max
  have paid : s.index + vs.length ≤ t.index := Parser.add_length_le_of_atMost_success h
  omega

end Grammar

namespace Parser

/-- The repetition of a parser that answers in words halts with an answer, and runs the parser no
more often than the limit says, and than there are words from the start on. Where it succeeds, each
value is worth an index at least, and it reaches its limit or ends with a run that fails without
moving on. For a grammar that keeps the index, all limits above the number of bytes that are left
are the same, and as good as none. -/
theorem repetition_halts :
    (∀ {α : Type} {p : Parser α} {input : Input} {s : State} (n : Nat),
      p.AnswersInWords input → s.index ≤ maxWord →
        (∃ r, (p.atMost n input s).reply? = some r) ∧
        (p.atMost n input s).log.toList =
          (p.roundStarts input n s).flatMap (p.roundEntries input) ∧
        (p.roundStarts input n s).length ≤ min n (maxWord + 1 - s.index) ∧
        ∀ vs t, (p.atMost n input s).reply? = some (.success vs t) →
          vs.length ≤ n ∧ s.index + vs.length ≤ t.index ∧
            (vs.length = n ∨ ∃ u, p.EndsSoftly input n s u t)) ∧
    ∀ {ρ : Type} {table : ρ → Grammar ρ} {g : Grammar ρ} {input : Input} (depth : Nat) (s : State)
      (n : Nat), (∀ u, g.KeepsIndex table input u) → input.byteLength - s.index < n →
        ((g.atMost n).parserWith table depth input s).reply? =
          (g.many.parserWith table depth input s).reply? := by
  refine ⟨fun n answers hs => ⟨?_, toList_log_atMost,
    length_roundStarts_le answers hs, fun vs t h => ?_⟩, fun depth s n keeps hn => ?_⟩
  · obtain ⟨r, hr, -⟩ := answers.atMost n _ hs
    exact ⟨r, hr⟩
  · exact ⟨length_le_of_atMost_success h, add_length_le_of_atMost_success h,
      endsSoftly_of_atMost_success h⟩
  · rw [Grammar.atMost, Grammar.many, Grammar.reply?_parserWith_times_zero,
      Grammar.reply?_parserWith_times_zero]
    refine congrArg _ (reply?_atMost_eq (Grammar.length_lt_of_keepsIndex keeps hn) ?_)
    exact Grammar.length_lt_of_keepsIndex keeps (Input.sub_lt_maxRounds _ _)

/-- Goes two indices on from before index 4, fails there, and goes back to the start from behind. -/
def leaps : Parser Nat := fun _ s =>
  if s.index < 4 then .success s.index (s.withIndex (s.index + 2))
  else if s.index = 4 then .failure s
  else .success s.index (s.withIndex 0)

theorem leaps_answersInWords (input : Input) : leaps.AnswersInWords input := by
  intro s hs
  rw [leaps]
  split
  · rename_i before
    refine ⟨_, rfl, ?_⟩
    show s.index + 2 ≤ maxWord
    unfold maxWord
    omega
  · split
    · exact ⟨_, rfl, hs⟩
    · exact ⟨_, rfl, Nat.zero_le _⟩

/-- Reads two letters, or fails where it started. -/
def letterPair : Grammar Empty := .attempt none (.seqRight (.literal "a") (.literal "b"))

theorem letterPair_keepsIndex (input : Input) (s : State) :
    letterPair.KeepsIndex Empty.elim input s := by
  refine Grammar.keepsIndex_of_everywhere nofun ?_ s
  rw [letterPair]
  refine .intro nofun fun p hp => ?_
  obtain rfl : p = .seqRight (.literal "a") (.literal "b") := hp
  refine .intro nofun fun q hq => ?_
  rcases hq with rfl | rfl <;> exact .intro nofun nofun

/-- Two leaps lead to the index where the third fails. Of pairs of letters there are two, be there a
limit above the number of bytes or none. -/
theorem repetition_halts_leaps :
    let input := Input.ofChars ['a', 'b', 'a', 'b', 'a']
    leaps.AnswersInWords input ∧ State.start.index ≤ maxWord ∧
      (leaps.atMost 9 input .start).reply? = some (.success [0, 2] ⟨4, [], .empty⟩) ∧
      (leaps.roundStarts input 9 .start).length ≤ 9 ∧
      (∃ u, leaps.EndsSoftly input 9 .start u ⟨4, [], .empty⟩) ∧
      (∀ u, letterPair.KeepsIndex Empty.elim input u) ∧
      input.byteLength - State.start.index < 6 ∧
      ((letterPair.atMost 6).parserWith Empty.elim 0 input .start).reply? =
        (letterPair.many.parserWith Empty.elim 0 input .start).reply? := by
  intro input
  have answers : leaps.AnswersInWords input := leaps_answersInWords input
  have start : State.start.index ≤ maxWord := Nat.zero_le _
  have keeps : ∀ u, letterPair.KeepsIndex Empty.elim input u := letterPair_keepsIndex input
  have bytes : input.byteLength - State.start.index < 6 := by decide
  have reply : (leaps.atMost 9 input .start).reply? = some (.success [0, 2] ⟨4, [], .empty⟩) := rfl
  obtain ⟨-, -, runs, success⟩ := repetition_halts.1 9 answers start
  obtain ⟨-, -, full | soft⟩ := success _ _ reply
  · cases full
  · exact ⟨answers, start, reply, Nat.le_trans runs (Nat.min_le_left _ _), soft, keeps, bytes,
      repetition_halts.2 0 .start 6 keeps bytes⟩

/-- The numbers of rounds add up. A repetition can be cut behind any number of rounds, be they the
most that it may have, or exactly as many as it must have, or as many as it must have at least. The
last asks that no limit ends a repetition without one, and none does if the parser is that of a
grammar that keeps the index. -/
theorem rounds_add_up :
    (∀ {α : Type} (p : Parser α),
      (∀ m n, (p.atMost (m + n)).SameReplies
        ((p.atMost m).chain fun xs =>
          if xs.length < m then .pure xs else (p.atMost n).map (xs ++ ·))) ∧
      (∀ m n, (p.times (m + n) (some (m + n))).SameReplies
        ((p.times m (some m)).chain fun xs => (p.times n (some n)).map (xs ++ ·))) ∧
      ∀ n input s, (∀ vs t, (p.many input s).reply? = some (.success vs t) →
          vs.length < input.maxRounds) →
        (p.atLeast n input s).reply? =
          (((p.times n (some n)).chain fun xs => p.many.map (xs ++ ·)) input s).reply?) ∧
    ∀ {ρ : Type} {table : ρ → Grammar ρ} {g : Grammar ρ} {input : Input} (depth : Nat) (s : State),
      (∀ u, g.KeepsIndex table input u) → ∀ vs t,
        ((g.parserWith table depth).many input s).reply? = some (.success vs t) →
          vs.length < input.maxRounds := by
  refine ⟨fun p => ⟨p.atMost_add, fun m n => p.times_add m n n, fun n input s short => ?_⟩,
    fun depth s keeps => ?_⟩
  · exact reply?_atLeast short n
  · exact Grammar.length_lt_of_keepsIndex keeps (Input.sub_lt_maxRounds _ _)

/-- Of three pairs of letters there are one and then two more, which is at least one. -/
theorem rounds_add_up_letterPair :
    let input := Input.ofChars ['a', 'b', 'a', 'b', 'a', 'b']
    let p := letterPair.parserWith Empty.elim 0
    (∀ u, letterPair.KeepsIndex Empty.elim input u) ∧
      (∀ vs t, (p.many input .start).reply? = some (.success vs t) →
        vs.length < input.maxRounds) ∧
      (p.atLeast 1 input .start).reply? =
        some (.success [.str "b", .str "b", .str "b"] ⟨6, [], .empty⟩) ∧
      (((p.times 1 (some 1)).chain fun xs => p.many.map (xs ++ ·)) input .start).reply? =
        some (.success [.str "b", .str "b", .str "b"] ⟨6, [], .empty⟩) := by
  intro input p
  have keeps : ∀ u, letterPair.KeepsIndex Empty.elim input u := letterPair_keepsIndex input
  have short : ∀ vs t, (p.many input .start).reply? = some (.success vs t) →
      vs.length < input.maxRounds := rounds_add_up.2 0 .start keeps
  have reply : (p.atLeast 1 input .start).reply? =
      some (.success [.str "b", .str "b", .str "b"] ⟨6, [], .empty⟩) := rfl
  exact ⟨keeps, short, reply, ((rounds_add_up.1 p).2.2 1 input .start short).symm.trans reply⟩

end Parser

end Descent
