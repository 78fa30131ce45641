import Descent.Proofs.Calls
import Descent.Proofs.Forward

/-!
# Left recursion

A part of a grammar stands on the left if the grammar may run it before an earlier part has moved
on: every earlier part may succeed where it started (`Grammar.MayStay`). A grammar refers left to
the rules that its left parts name, and theirs. A table has no left recursion if its rules can be
ranked so that every rule refers left only to rules of smaller rank.

`Plan.Climbs` is what a plan keeps to while its parts end: it never goes back behind the index where
it started, and what it runs at that index are left parts.
-/

namespace Descent

variable {ρ : Type}

/-- A parse from the first index may end at the second: it does not go back, and it reads no further
than to the end of the input. -/
structure Input.Within (input : Input) (i j : Nat) : Prop where
  le : i ≤ j
  le_max : j ≤ max i input.byteLength

namespace Input

variable {input : Input} {i j k : Nat}

theorem Within.refl (input : Input) (i : Nat) : input.Within i i := ⟨Nat.le_refl i, by omega⟩

theorem Within.trans (hij : input.Within i j) (hjk : input.Within j k) : input.Within i k := by
  have := hij.le_max
  have := hjk.le_max
  exact ⟨Nat.le_trans hij.le hjk.le, by omega⟩

theorem Within.bytes_lt (h : input.Within i j) (moved : i < j) :
    input.byteLength - j < input.byteLength - i := by
  have := h.le_max
  omega

theorem Within.rounds_lt (h : input.Within i j) : j - i < input.maxRounds := by
  have := h.le_max
  unfold maxRounds
  omega

end Input

namespace Grammar

/-! ## Left parts -/

/-- The grammar may yield the value without moving on, somewhere in some input. -/
def YieldsInPlace (table : ρ → Grammar ρ) (g : Grammar ρ) (v : Value) : Prop :=
  ∃ input s t, g.KeepsIndex table input s ∧ g.Replies table input s (.success v t) ∧
    ¬ s.index < t.index

/-- The grammar may succeed without moving on. -/
def MayStay (table : ρ → Grammar ρ) (g : Grammar ρ) : Prop := ∃ v, g.YieldsInPlace table v

/-- The grammar may run the part before an earlier part of it has moved on. -/
def LeftPart (table : ρ → Grammar ρ) (p : Grammar ρ) : Grammar ρ → Prop
  | restoring q | .map _ q | attempt _ q | maybe q | lookahead q | not q | traced _ q => p = q
  | times _ max q => max ≠ some 0 ∧ p = q
  | chain q next => p = q ∨ ∃ v, q.YieldsInPlace table v ∧ p = next v
  | seqRight q r | seqLeft q r | sepBy _ q r => p = q ∨ q.MayStay table ∧ p = r
  | or q r => p = q ∨ p = r
  | between l q r => p = l ∨ l.MayStay table ∧ (p = q ∨ q.MayStay table ∧ p = r)
  | .seq ps => ∃ front back, ps = front ++ p :: back ∧ ∀ q ∈ front, q.MayStay table
  | alt ps => p ∈ ps
  | _ => False

/-- The grammar may run the reference before an earlier part of it has moved on. -/
inductive LeftRef (table : ρ → Grammar ρ) (rule : ρ) : Grammar ρ → Prop where
  | here : LeftRef table rule (.ref rule)
  | part {p g : Grammar ρ} (left : LeftPart table p g) (next : LeftRef table rule p) :
    LeftRef table rule g

/-- The rules can be ranked so that every rule refers left only to rules of smaller rank. -/
def LeftRecursionFree (table : ρ → Grammar ρ) : Prop :=
  ∃ (ι : Type) (order : WellFoundedRelation ι) (rank : ρ → ι),
    ∀ rule rule', LeftRef table rule' (table rule) → order.rel (rank rule') (rank rule)

theorem LeftRef.cases {table : ρ → Grammar ρ} {rule : ρ} {g : Grammar ρ}
    (h : LeftRef table rule g) :
    g = .ref rule ∨ ∃ p, LeftPart table p g ∧ LeftRef table rule p := by
  cases h with
  | here => exact .inl rfl
  | part left next => exact .inr ⟨_, left, next⟩

/-- A grammar that reads, and takes at least a byte when it does, must move on to succeed. -/
theorem not_mayStay_of_reader? {table : ρ → Grammar ρ} {g : Grammar ρ} {reader : Reader}
    (hg : g.reader? = some reader)
    (takes : ∀ rest v n, reader.step? rest = some (v, n) → 0 < n) : ¬ g.MayStay table := by
  rintro ⟨v, input, s, t, -, parse, stays⟩
  obtain ⟨h, n, hn⟩ := replies_iff_observed.1 parse
  cases n with
  | zero => cases hn
  | succ n =>
    obtain ⟨k, hk, -⟩ := observe_succ_eq_some.1 hn
    rw [plan_of_reader? hg] at hk
    unfold Reader.plan at hk
    split at hk
    · rename_i w n found
      obtain ⟨rest, -, step⟩ := Option.bind_eq_some_iff.1 found
      cases hk
      have := takes rest v n step
      apply stays
      rw [State.index_advance]
      omega
    · cases hk

theorem not_mayStay_literal (table : ρ → Grammar ρ) {text : String} (h : text.toList ≠ []) :
    ¬ (literal text : Grammar ρ).MayStay table := by
  apply not_mayStay_of_reader? rfl
  intro rest v n step
  simp only [Reader.literal] at step
  split at step
  · cases step
    apply Nat.pos_of_ne_zero
    intro empty
    exact h (eq_nil_of_utf8Length_eq_zero empty)
  · cases step

end Grammar

namespace Plan

variable {table : ρ → Grammar ρ} {input : Input} {i : Nat} {L : Grammar ρ → Prop} {s : State}

/-- The plan never goes back behind the index `i`, as long as its parts do not go back behind where
they start, and what it runs at `i` itself is one of the given grammars. -/
def Climbs (table : ρ → Grammar ρ) (input : Input) (i : Nat) (L : Grammar ρ → Prop) :
    Plan ρ → Prop
  | .succeed _ s | .fail s => input.Within i s.index
  | .invoke g s onSuccess onFailure =>
    input.Within i s.index ∧ (s.index = i → L g) ∧
    (∀ v t, input.Within s.index t.index → (t.index = s.index → g.YieldsInPlace table v) →
      (onSuccess v t).Climbs table input i L) ∧
    ∀ t, input.Within s.index t.index → (onFailure t).Climbs table input i L
  | .round start stop next => input.Within i start ∧ (start < stop → next.Climbs table input i L)
  | .note _ next => next.Climbs table input i L

/-- A plan that climbs comes to its end if every grammar that it reaches does, and it ends where a
parse from the index may end. -/
theorem ends_of_climbs {plan : Plan ρ} (climbs : plan.Climbs table input i L)
    (keeps : ∀ g s, plan.Reaches table input g s → g.KeepsIndex table input s)
    (runs : ∀ g s, plan.Reaches table input g s → input.Within i s.index → (s.index = i → L g) →
      ∃ r, g.Replies table input s r ∧ input.Within s.index r.index) :
    ∃ r, plan.Ends table input r ∧ input.Within i r.index := by
  induction plan with
  | succeed v s => exact ⟨_, .succeed v s, climbs⟩
  | fail s => exact ⟨_, .fail s, climbs⟩
  | invoke g s onSuccess onFailure ihs ihf =>
    obtain ⟨within, left, onS, onF⟩ := climbs
    obtain ⟨r, hr, ends⟩ := runs g s .here within left
    cases r with
    | success v t =>
      have stays : t.index = s.index → g.YieldsInPlace table v := fun e =>
        ⟨input, s, t, keeps g s .here, hr, by omega⟩
      obtain ⟨r, hends, hwithin⟩ := ihs v t (onS v t ends stays)
        (fun p u hp => keeps p u (.success hr hp)) fun p u hp => runs p u (.success hr hp)
      exact ⟨r, .invoke_success hr hends, hwithin⟩
    | failure t =>
      obtain ⟨r, hends, hwithin⟩ := ihf t (onF t ends)
        (fun p u hp => keeps p u (.failure hr hp)) fun p u hp => runs p u (.failure hr hp)
      exact ⟨r, .invoke_failure hr hends, hwithin⟩
    | stalled j => exact ⟨_, .invoke_stalled hr, within.trans ends⟩
  | round start stop next ih =>
    by_cases moved : start < stop
    · obtain ⟨r, hends, hwithin⟩ := ih (climbs.2 moved)
        (fun p u hp => keeps p u (.round moved hp)) fun p u hp => runs p u (.round moved hp)
      exact ⟨r, .round moved hends, hwithin⟩
    · exact ⟨_, .round_stalled moved, climbs.1⟩
  | note e next ih =>
    obtain ⟨r, hends, hwithin⟩ := ih climbs (fun p u hp => keeps p u (.note hp))
      fun p u hp => runs p u (.note hp)
    exact ⟨r, .note e hends, hwithin⟩

/-! ## The loops -/

theorem climbs_recover {start failed : State} {next : State → Plan ρ} {committed : Plan ρ}
    (hn : ∀ t, t.index = start.index → (next t).Climbs table input i L)
    (hc : committed.Climbs table input i L) :
    (recover start failed next committed).Climbs table input i L := by
  unfold recover
  split
  · exact hn _ rfl
  · exact hc

theorem climbs_read {reader : Reader} (stays : reader.StaysWithin) (s : State) :
    (reader.plan input s : Plan ρ).Climbs table input s.index L := by
  unfold Reader.plan
  split
  · rename_i v n h
    obtain ⟨rest, hr, hstep⟩ := Option.bind_eq_some_iff.1 h
    have hn : n ≤ utf8Length rest := stays rest v n hstep
    have hl : s.index + utf8Length rest = input.byteLength := Input.add_utf8Length_of_suffix? hr
    refine ⟨Nat.le_add_right _ _, ?_⟩
    rw [State.index_advance]
    omega
  · exact .refl input s.index

/-- The grammars of a sequence stand on the left as long as those in front may stay. -/
theorem climbs_sequence {ps : List (Grammar ρ)} {done : List Value → State → Plan ρ}
    (hs : input.Within i s.index)
    (left : s.index = i → ∀ front p back, ps = front ++ p :: back →
      (∀ q ∈ front, q.MayStay table) → L p)
    (hd : ∀ vs t, input.Within i t.index → (done vs t).Climbs table input i L) :
    (sequence ps s done).Climbs table input i L := by
  induction ps generalizing s done with
  | nil => exact hd _ _ hs
  | cons p ps ih =>
    refine ⟨hs, fun e => left e [] p ps rfl nofun, fun v t ht stays => ?_, fun t ht => hs.trans ht⟩
    refine ih (hs.trans ht) (fun e front q back hps hfront => ?_) fun vs u hu => hd _ _ hu
    -- who is still at `i` behind `p` was there before, so that `p` has stayed
    have back_at : s.index = i := Nat.le_antisymm (e ▸ ht.le) hs.le
    apply left back_at (p :: front) q back (by rw [hps, List.cons_append])
    exact List.forall_mem_cons.2 ⟨⟨v, stays (e.trans back_at.symm)⟩, hfront⟩

theorem climbs_alternatives {start : State} {n : Nat} {ps : List (Grammar ρ)}
    (hstart : input.Within i start.index) (hs : input.Within i s.index) (left : ∀ p ∈ ps, L p) :
    (alternatives start n ps s).Climbs table input i L := by
  induction ps generalizing n s with
  | nil => exact hs
  | cons p ps ih =>
    obtain ⟨hp, hps⟩ := List.forall_mem_cons.1 left
    refine ⟨hs, fun _ => hp, fun _ _ ht _ => hs.trans ht, fun t ht => ?_⟩
    exact climbs_recover (fun u hu => ih (hu ▸ hstart) hps) (hs.trans ht)

/-- Only the first round stands on the left, since every round moves on. -/
theorem climbs_rounds {p : Grammar ρ} {n : Nat} {done : List Value → State → Plan ρ}
    (hs : input.Within i s.index) (left : s.index = i → n ≠ 0 → L p)
    (hd : ∀ vs t, input.Within i t.index → (done vs t).Climbs table input i L) :
    (rounds p n s done).Climbs table input i L := by
  induction n generalizing s done with
  | zero => exact hd _ _ hs
  | succ n ih =>
    refine ⟨hs, fun e => left e n.succ_ne_zero, fun v t ht _ => ⟨hs, fun moved => ?_⟩,
      fun t ht => ?_⟩
    · refine ih (hs.trans ht) (fun e => ?_) fun vs u hu => hd _ _ hu
      have := hs.le
      omega
    · dsimp only
      split
      · exact hd _ _ (hs.trans ht)
      · exact hs.trans ht

theorem climbs_separatedRounds {p sep : Grammar ρ} {n : Nat} {done : List Value → State → Plan ρ}
    (hs : input.Within i s.index) (hp : L p) (left : s.index = i → L sep)
    (hd : ∀ vs t, input.Within i t.index → (done vs t).Climbs table input i L) :
    (separatedRounds p sep n s done).Climbs table input i L := by
  induction n generalizing s done with
  | zero => exact hd _ _ hs
  | succ n ih =>
    have stop (failed : State) (hf : input.Within i failed.index) :
        (recover s failed (done []) (.fail failed)).Climbs table input i L :=
      climbs_recover (fun t ht => hd _ _ (ht ▸ hs)) hf
    refine ⟨hs, left, fun _ t ht _ => ?_, fun t ht => stop t (hs.trans ht)⟩
    refine ⟨hs.trans ht, fun _ => hp, fun v u hu _ => ⟨hs, fun moved => ?_⟩,
      fun u hu => stop u ((hs.trans ht).trans hu)⟩
    refine ih ((hs.trans ht).trans hu) (fun e => ?_) fun vs w hw => hd _ _ hw
    have := hs.le
    omega

end Plan

namespace Grammar

variable {table : ρ → Grammar ρ} {input : Input}

theorem LeftPart.part {p g : Grammar ρ} (h : LeftPart table p g) : Part p g := by
  cases g with
  | restoring | map | attempt | maybe | lookahead | not | traced | or | alt => exact h
  | times => exact h.2
  | chain => exact h.imp_right fun ⟨v, _, e⟩ => ⟨v, e⟩
  | seqRight | seqLeft | sepBy => exact h.imp_right And.right
  | between => exact h.imp_right fun ⟨_, h⟩ => h.imp_right And.right
  | seq ps =>
    obtain ⟨front, back, rfl, -⟩ := h
    exact List.mem_append_right _ List.mem_cons_self
  | _ => exact h.elim

theorem getD_maxRounds_ne_zero {max : Option Nat} (h : max.getD input.maxRounds ≠ 0) :
    max ≠ some 0 := by
  rintro rfl
  exact h rfl

/-- What the plan of a grammar runs at the index where it starts are the left parts of the grammar,
and for a reference the rule that it names. -/
theorem climbs_plan {g : Grammar ρ} {s : State} (keeps : (Occurrence.called g s).KeepsIndex) :
    (g.plan table input s).Climbs table input s.index fun p =>
      LeftPart table p g ∨ ∃ rule, g = .ref rule ∧ p = table rule := by
  have here : input.Within s.index s.index := .refl input s.index
  cases g with
  | pure | fail | getState | lookup => exact here
  | eof =>
    rw [plan]
    split <;> exact here
  | literal text =>
    exact Plan.climbs_read (Reader.staysWithin_of_takesFrom (Reader.literal_takesFrom text)) s
  | satisfy accepts label =>
    exact Plan.climbs_read
      (Reader.staysWithin_of_takesFrom (Reader.satisfy_takesFrom accepts label)) s
  | takeWhile1 accepts label =>
    exact Plan.climbs_read
      (Reader.staysWithin_of_takesFrom (Reader.takeWhile1_takesFrom accepts label)) s
  | pattern program label => exact Plan.climbs_read (Reader.pattern_staysWithin program label) s
  | setState new =>
    have e : new.index = s.index := keeps
    exact e ▸ here
  | change c =>
    cases c with
    | put | drop => exact here
    | seek n =>
      obtain rfl : n = s.index := keeps
      exact here
  | restoring p => exact ⟨here, fun _ => .inl rfl, fun _ _ _ _ => here, fun _ ht => ht⟩
  | map | traced => exact ⟨here, fun _ => .inl rfl, fun _ _ ht _ => ht, fun _ ht => ht⟩
  | ref rule => exact ⟨here, fun _ => .inr ⟨rule, rfl, rfl⟩, fun _ _ ht _ => ht, fun _ ht => ht⟩
  | chain p next =>
    refine ⟨here, fun _ => .inl (.inl rfl), fun v t ht stays => ?_, fun _ ht => ht⟩
    exact ⟨ht, fun e => .inl (.inr ⟨v, stays e, rfl⟩), fun _ _ hu _ => ht.trans hu,
      fun _ hu => ht.trans hu⟩
  | seqRight | seqLeft =>
    refine ⟨here, fun _ => .inl (.inl rfl), fun v t ht stays => ?_, fun _ ht => ht⟩
    exact ⟨ht, fun e => .inl (.inr ⟨⟨v, stays e⟩, rfl⟩), fun _ _ hu _ => ht.trans hu,
      fun _ hu => ht.trans hu⟩
  | between l p r =>
    refine ⟨here, fun _ => .inl (.inl rfl), fun v t ht stays => ?_, fun _ ht => ht⟩
    refine ⟨ht, fun e => .inl (.inr ⟨⟨v, stays e⟩, .inl rfl⟩), fun w u hu stays' => ?_,
      fun _ hu => ht.trans hu⟩
    refine ⟨ht.trans hu, fun e => ?_, fun _ _ hx _ => (ht.trans hu).trans hx,
      fun _ hx => (ht.trans hu).trans hx⟩
    -- who is still at the start behind both has not moved on over either of them
    have ht' : t.index = s.index := Nat.le_antisymm (e ▸ hu.le) ht.le
    exact .inl (.inr ⟨⟨v, stays ht'⟩, .inr ⟨⟨w, stays' (e.trans ht'.symm)⟩, rfl⟩⟩)
  | seq ps =>
    refine Plan.climbs_sequence here (fun _ front p back hps hfront => ?_) fun _ _ ht => ht
    exact .inl ⟨front, back, hps, hfront⟩
  | or p q =>
    refine ⟨here, fun _ => .inl (.inl rfl), fun _ _ ht _ => ht, fun t ht => ?_⟩
    refine Plan.climbs_recover (fun u hu => ?_) ht
    have hu' : input.Within s.index u.index := hu ▸ here
    exact ⟨hu', fun _ => .inl (.inr rfl), fun _ _ hw _ => hu'.trans hw, fun _ hw => hu'.trans hw⟩
  | alt ps => exact Plan.climbs_alternatives here here fun p hp => .inl hp
  | attempt label? p =>
    refine ⟨here, fun _ => .inl rfl, fun _ _ ht _ => ht, fun t _ => ?_⟩
    cases label? <;> dsimp only <;> split <;> exact here
  | maybe p =>
    refine ⟨here, fun _ => .inl rfl, fun _ _ ht _ => ht, fun t ht => ?_⟩
    exact Plan.climbs_recover (fun u hu => show input.Within _ u.index from hu ▸ here) ht
  | lookahead p =>
    refine ⟨here, fun _ => .inl rfl, fun _ _ _ _ => here, fun t _ => ?_⟩
    dsimp only
    split <;> exact here
  | not p =>
    refine ⟨here, fun _ => .inl rfl, fun _ _ _ _ => here, fun t ht => ?_⟩
    dsimp only
    split
    · exact here
    · exact ht
  | times min max p =>
    refine Plan.climbs_rounds here (fun _ hn => .inl ⟨getD_maxRounds_ne_zero hn, rfl⟩)
      fun vs t ht => ?_
    split <;> exact ht
  | sepBy nonEmpty p sep =>
    refine ⟨here, fun _ => .inl (.inl rfl), fun v t ht stays => ?_, fun t ht => ?_⟩
    · exact Plan.climbs_separatedRounds ht (.inl (.inl rfl))
        (fun e => .inl (.inr ⟨⟨v, stays e⟩, rfl⟩)) fun _ _ hu => hu
    · dsimp only
      split
      · exact ht
      · exact Plan.climbs_recover (fun u hu => show input.Within _ u.index from hu ▸ here) ht

end Grammar

end Descent
