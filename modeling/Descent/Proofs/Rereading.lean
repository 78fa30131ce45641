import Descent.Proofs.Probes

/-!
# Parses of a text that was read before

A grammar that gives nothing back and never sees beyond what it takes answers the same when the
input is cut off anywhere behind the index where it stopped (`answer_of_cutTo`). So the text that a
parse consumed can be parsed again, by itself or with any first part of what followed it.

Two things depend on the length of the input: what readers find, and how many rounds a repetition
without a limit may take. The first is `Reader.Local`. The second makes no difference, because a
round moves on: `follow_rounds_of_sameLimit` says that a limit that is not reached may be any other
such limit.
-/

namespace Descent

variable {ρ ι : Type}

/-! ## What readers find in a text that is cut off -/

namespace Reader

/-- What follows the text that the reader takes makes no difference to it. -/
structure Local (reader : Reader) : Prop where
  matched : ∀ front back v n, reader.step? (front ++ back) = some (v, n) → n ≤ utf8Length front →
    reader.step? front = some (v, n)
  missed : ∀ front back, reader.step? (front ++ back) = none → reader.step? front = none

theorem literal_local (text : String) : (literal text).Local where
  matched front back v n h hn := by
    simp only [literal] at h ⊢
    split at h
    · rename_i hp
      cases h
      obtain ⟨rest, hrest⟩ := List.isPrefixOf_iff_prefix.1 hp
      obtain ⟨m, rfl, -⟩ := exists_append_of_utf8Length_le hrest hn
      rw [if_pos (List.isPrefixOf_iff_prefix.2 (List.prefix_append _ _))]
    · cases h
  missed front back h := by
    simp only [literal] at h ⊢
    split at h
    · cases h
    · rename_i hp
      rw [if_neg fun hf => hp (List.isPrefixOf_iff_prefix.2 ?_)]
      exact (List.isPrefixOf_iff_prefix.1 hf).trans (List.prefix_append _ _)

theorem satisfy_local (accepts : Char → Bool) (label : String) : (satisfy accepts label).Local where
  matched front back v n h hn := by
    rcases front with _ | ⟨c, front⟩
    · rcases back with _ | ⟨c, back⟩
      · cases h
      · -- the character lies behind the front, which is too short for it
        simp only [satisfy, List.nil_append] at h
        split at h
        · cases h
          have := c.utf8Size_pos
          rw [utf8Length_nil] at hn
          omega
        · cases h
    · exact h
  missed front back h := by
    rcases front with _ | ⟨c, front⟩
    · rfl
    · exact h

theorem takeWhile_append_of_le {accepts : Char → Bool} {front back : List Char}
    (h : utf8Length ((front ++ back).takeWhile accepts) ≤ utf8Length front) :
    (front ++ back).takeWhile accepts = front.takeWhile accepts := by
  rw [List.takeWhile_append] at h ⊢
  split at h
  · rename_i all
    rw [utf8Length_append] at h
    have none : back.takeWhile accepts = [] := eq_nil_of_utf8Length_eq_zero (by omega)
    rw [if_pos all, none, List.append_nil]
    exact ((List.takeWhile_prefix accepts).eq_of_length all).symm
  · rename_i some
    rw [if_neg some]

theorem takeWhile1_local (accepts : Char → Bool) (label : String) :
    (takeWhile1 accepts label).Local where
  matched front back v n h hn := by
    simp only [takeWhile1] at h ⊢
    split at h
    · cases h
    · rename_i some
      cases h
      rw [takeWhile_append_of_le hn] at some ⊢
      rw [if_neg some]
  missed front back h := by
    simp only [takeWhile1] at h ⊢
    split at h
    · rename_i none
      have front_none : front.takeWhile accepts = [] := by
        rw [takeWhile_append_of_le (by rw [none]; exact Nat.zero_le _)] at none
        exact none
      rw [if_pos front_none]
    · cases h

end Reader

namespace Input

/-- The second input is the first, cut off behind one of its characters. -/
def CutTo (input cut : Input) : Prop := ∃ back, input.chars = cut.chars ++ back

theorem suffixAt_append_of_le (front back : List Char) {i : Nat} (h : i ≤ utf8Length front) :
    suffixAt (front ++ back) i = (suffixAt front i).map (· ++ back) := by
  fun_induction suffixAt front i with
  | case1 cs => rw [suffixAt_zero, Option.map_some]
  | case2 n => cases h
  | case3 c cs n le ih =>
    rw [List.cons_append, suffixAt, if_pos le, ih (by rw [utf8Length_cons] at h; omega)]
  | case4 c cs n gt => rw [List.cons_append, suffixAt, if_neg gt, Option.map_none]

namespace CutTo

variable {input cut : Input}

theorem byteLength_le (h : input.CutTo cut) : cut.byteLength ≤ input.byteLength := by
  obtain ⟨back, e⟩ := h
  rw [byteLength_eq, byteLength_eq, e, utf8Length_append]
  exact Nat.le_add_right _ _

/-- Up to the cut the second input holds what the first does, without what is cut off. -/
theorem suffix?_eq (h : input.CutTo cut) :
    ∃ back, ∀ i ≤ cut.byteLength, input.suffix? i = (cut.suffix? i).map (· ++ back) := by
  obtain ⟨back, e⟩ := h
  refine ⟨back, fun i hi => ?_⟩
  rw [Input.suffix?_eq, Input.suffix?_eq, e]
  exact suffixAt_append_of_le _ _ (byteLength_eq cut ▸ hi)

end CutTo

end Input

/-! ## Plans followed up to a bound -/

namespace Plan

/-- What is invoked never answers at an index before the one that it started at. -/
def Rises (P : Grammar ρ → Prop)
    (call : Grammar ρ → State → Option (Reply Value × List ι)) : Prop :=
  ∀ g s r l, P g → call g s = some (r, l) → s.index ≤ r.index

variable {P : Grammar ρ → Prop} {emit : Occurrence ρ → List ι}
  {call call' : Grammar ρ → State → Option (Reply Value × List ι)} {s : State} {r : Reply Value}
  {l : List ι}

theorem Continues.le_index (rises : Rises P call) {p : Plan ρ} (hp : p.Continues s)
    (only : p.Only P) (hf : p.follow emit call = some (r, l)) : s.index ≤ r.index := by
  induction p generalizing s r l with
  | succeed v t | fail t =>
    cases hf
    exact Nat.le_of_eq hp.index.symm
  | invoke g t onSuccess onFailure ihs ihf =>
    obtain ⟨ht, hsucceed, hfail⟩ := hp
    obtain ⟨hg, hps, hpf⟩ := only
    rw [← ht.index]
    rcases follow_invoke_eq_some.1 hf with
      ⟨v, u, m, k, hc, hk, rfl⟩ | ⟨u, m, k, hc, hk, rfl⟩ | ⟨i, hc, rfl⟩
    · exact Nat.le_trans (rises _ _ _ _ hg hc) (ihs v u (hsucceed v u) (hps v u) hk)
    · exact Nat.le_trans (rises _ _ _ _ hg hc) (ihf u (hfail u) (hpf u) hk)
    · exact rises _ _ _ _ hg hc
  | round start stop next ih =>
    obtain ⟨hs, hn⟩ := hp
    rcases follow_round_eq_some.1 hf with ⟨-, k, hk, rfl⟩ | ⟨stays, rfl, rfl⟩
    · exact ih hn only hk
    · show s.index ≤ start
      omega
  | note e next ih =>
    obtain ⟨k, hk, rfl⟩ := prepend_eq_some.1 hf
    exact ih hp only hk

/-- A plan that ends no further than a bound ends the same with any calls that answer the same up to
the bound. -/
theorem Continues.follow_of_le {bound : Nat} (rises : Rises P call)
    (agree : ∀ g s r l, P g → call g s = some (r, l) → r.index ≤ bound → call' g s = some (r, l))
    {p : Plan ρ} (hp : p.Continues s) (only : p.Only P) (hf : p.follow emit call = some (r, l))
    (hr : r.index ≤ bound) : p.follow emit call' = some (r, l) := by
  induction p generalizing s r l with
  | succeed v t | fail t => exact hf
  | invoke g t onSuccess onFailure ihs ihf =>
    obtain ⟨ht, hsucceed, hfail⟩ := hp
    obtain ⟨hg, hps, hpf⟩ := only
    -- what follows an invocation ends no earlier, so that the invocation is within the bound too
    refine follow_invoke_eq_some.2 ?_
    rcases follow_invoke_eq_some.1 hf with
      ⟨v, u, m, k, hc, hk, rfl⟩ | ⟨u, m, k, hc, hk, rfl⟩ | ⟨i, hc, rfl⟩
    · have hu : u.index ≤ r.index := (hsucceed v u).le_index rises (hps v u) hk
      exact .inl ⟨v, u, m, k, agree _ _ _ _ hg hc (Nat.le_trans hu hr),
        ihs v u (hsucceed v u) (hps v u) hk hr, rfl⟩
    · have hu : u.index ≤ r.index := (hfail u).le_index rises (hpf u) hk
      exact .inr (.inl ⟨u, m, k, agree _ _ _ _ hg hc (Nat.le_trans hu hr),
        ihf u (hfail u) (hpf u) hk hr, rfl⟩)
    · exact .inr (.inr ⟨i, agree _ _ _ _ hg hc hr, rfl⟩)
  | round start stop next ih =>
    refine follow_round_eq_some.2 ?_
    rcases follow_round_eq_some.1 hf with ⟨moved, k, hk, rfl⟩ | ⟨stays, rfl, rfl⟩
    · exact .inl ⟨moved, k, ih hp.2 only hk hr, rfl⟩
    · exact .inr ⟨stays, rfl, rfl⟩
  | note e next ih =>
    obtain ⟨k, hk, rfl⟩ := prepend_eq_some.1 hf
    exact prepend_eq_some.2 ⟨k, ih hp only hk hr, rfl⟩

/-- Two limits on the rounds from the index of the state on that a parse up to `stop` cannot tell
apart: they are the same, or there is not enough room for as many rounds. -/
def SameLimit (s : State) (stop n m : Nat) : Prop :=
  n = m ∨ stop < s.index + n ∧ stop < s.index + m

theorem SameLimit.eq_zero {stop m : Nat} (limit : SameLimit s stop 0 m) (hs : s.index ≤ stop) :
    m = 0 := by
  rcases limit with e | ⟨hn, -⟩ <;> omega

/-- There may be one more round, and behind it the limits are again the same. -/
theorem SameLimit.next {stop n m : Nat} (limit : SameLimit s stop (n + 1) m)
    (hs : s.index ≤ stop) :
    ∃ k, m = k + 1 ∧ ∀ t : State, s.index < t.index → SameLimit t stop n k := by
  rcases limit with e | ⟨hn, hm⟩
  · exact ⟨n, e.symm, fun _ _ => .inl rfl⟩
  · obtain ⟨k, rfl⟩ : ∃ k, m = k + 1 := ⟨m - 1, by omega⟩
    exact ⟨k, rfl, fun t ht => .inr ⟨by omega, by omega⟩⟩

theorem follow_rounds_of_sameLimit (rises : Rises P call) {p : Grammar ρ} (hp : P p) {n m : Nat}
    {done : List Value → State → Plan ρ} (hd : ∀ vs t, (done vs t).Continues t)
    (only : ∀ vs t, (done vs t).Only P) (hf : (rounds p n s done).follow emit call = some (r, l))
    (limit : SameLimit s r.index n m) : (rounds p m s done).follow emit call = some (r, l) := by
  induction n generalizing m s r l done with
  | zero =>
    have hle : s.index ≤ r.index := (hd [] s).le_index rises (only [] s) hf
    obtain rfl := limit.eq_zero hle
    exact hf
  | succ n ih =>
    have hle := (continues_rounds hd).le_index rises (only_rounds hp only) hf
    obtain ⟨m, rfl, next⟩ := limit.next hle
    refine follow_invoke_eq_some.2 ?_
    rcases follow_invoke_eq_some.1 hf with
      ⟨v, t, k, k', hc, hk, rfl⟩ | ⟨t, k, k', hc, hk, rfl⟩ | ⟨i, hc, rfl⟩
    · refine .inl ⟨v, t, k, k', hc, follow_round_eq_some.2 ?_, rfl⟩
      rcases follow_round_eq_some.1 hk with ⟨moved, k'', hk'', rfl⟩ | ⟨stays, rfl, rfl⟩
      · have again := ih (fun vs => hd (v :: vs)) (fun vs => only (v :: vs)) hk'' (next t moved)
        exact .inl ⟨moved, k'', again, rfl⟩
      · exact .inr ⟨stays, rfl, rfl⟩
    · exact .inr (.inl ⟨t, k, k', hc, hk, rfl⟩)
    · exact .inr (.inr ⟨i, hc, rfl⟩)

theorem follow_separatedRounds_of_sameLimit (rises : Rises P call) {p sep : Grammar ρ} (hp : P p)
    (hsep : P sep) {n m : Nat} {done : List Value → State → Plan ρ}
    (hd : ∀ vs t u, t.SameSpot u → (done vs t).Continues u) (only : ∀ vs t, (done vs t).Only P)
    (hf : (separatedRounds p sep n s done).follow emit call = some (r, l))
    (limit : SameLimit s r.index n m) :
    (separatedRounds p sep m s done).follow emit call = some (r, l) := by
  induction n generalizing m s r l done with
  | zero =>
    have hle : s.index ≤ r.index := (hd [] s s (.refl s)).le_index rises (only [] s) hf
    obtain rfl := limit.eq_zero hle
    exact hf
  | succ n ih =>
    have hle := (continues_separatedRounds hd).le_index rises (only_separatedRounds hp hsep only) hf
    obtain ⟨m, rfl, next⟩ := limit.next hle
    refine follow_invoke_eq_some.2 ?_
    rcases follow_invoke_eq_some.1 hf with
      ⟨v, t, k, k', hc, hk, rfl⟩ | ⟨t, k, k', hc, hk, rfl⟩ | ⟨i, hc, rfl⟩
    · -- the item decides as the round of a repetition does
      refine .inl ⟨v, t, k, k', hc, follow_invoke_eq_some.2 ?_, rfl⟩
      rcases follow_invoke_eq_some.1 hk with
        ⟨w, u, k₁, k₂, hc', hk', rfl⟩ | ⟨u, k₁, k₂, hc', hk', rfl⟩ | ⟨i, hc', rfl⟩
      · refine .inl ⟨w, u, k₁, k₂, hc', follow_round_eq_some.2 ?_, rfl⟩
        rcases follow_round_eq_some.1 hk' with ⟨moved, k₃, hk₃, rfl⟩ | ⟨stays, rfl, rfl⟩
        · have again := ih (fun vs => hd (w :: vs)) (fun vs => only (w :: vs)) hk₃ (next u moved)
          exact .inl ⟨moved, k₃, again, rfl⟩
        · exact .inr ⟨stays, rfl, rfl⟩
      · exact .inr (.inl ⟨u, k₁, k₂, hc', hk', rfl⟩)
      · exact .inr (.inr ⟨i, hc', rfl⟩)
    · exact .inr (.inl ⟨t, k, k', hc, hk, rfl⟩)
    · exact .inr (.inr ⟨i, hc, rfl⟩)

end Plan

/-! ## Plans in an input that is cut off -/

namespace Grammar

/-- The answer of the grammar may depend on what follows all that is read. -/
def SeesBeyond : Grammar ρ → Prop
  | eof | pattern .. => True
  | _ => False

/-- The grammar neither gives anything back nor sees beyond what it takes. -/
def Repeatable (g : Grammar ρ) : Prop := ¬ g.GoesBack ∧ ¬ g.SeesBeyond

variable {table : ρ → Grammar ρ} {input cut : Input} {emit : Occurrence ρ → List ι}
  {call call' : Grammar ρ → State → Option (Reply Value × List ι)} {g : Grammar ρ} {s : State}
  {r : Reply Value} {l : List ι}

theorem local_of_reader? (near : ¬ g.SeesBeyond) {reader : Reader} (hg : g.reader? = some reader) :
    reader.Local := by
  cases g with
  | literal text =>
    cases hg
    exact Reader.literal_local text
  | satisfy accepts label =>
    cases hg
    exact Reader.satisfy_local accepts label
  | takeWhile1 accepts label =>
    cases hg
    exact Reader.takeWhile1_local accepts label
  | pattern => exact absurd trivial near
  | _ => cases hg

theorem follow_read_of_cutTo (hcut : input.CutTo cut) {reader : Reader} (hl : reader.Local)
    (hf : (reader.plan input s : Plan ρ).follow emit call = some (r, l))
    (hr : r.index ≤ cut.byteLength) :
    (reader.plan cut s : Plan ρ).follow emit call' = some (r, l) := by
  obtain ⟨back, hback⟩ := hcut.suffix?_eq
  rw [Reader.plan] at hf ⊢
  rcases hstep : (input.suffix? s.index).bind reader.step? with _ | ⟨v, n⟩ <;> rw [hstep] at hf
  · cases hf
    have hs : s.index ≤ cut.byteLength := hr
    have missed : (cut.suffix? s.index).bind reader.step? = none := by
      rw [hback _ hs] at hstep
      rcases hrest : cut.suffix? s.index with _ | rest
      · rfl
      · rw [hrest] at hstep
        exact hl.missed rest back hstep
    rw [missed]
    rfl
  · cases hf
    have hn : s.index + n ≤ cut.byteLength := hr
    have matched : (cut.suffix? s.index).bind reader.step? = some (v, n) := by
      rw [hback _ (by omega)] at hstep
      rcases hrest : cut.suffix? s.index with _ | rest
      · rw [hrest] at hstep
        cases hstep
      · rw [hrest] at hstep
        have := Input.add_utf8Length_of_suffix? hrest
        exact hl.matched rest back v n hstep (by omega)
    rw [matched]
    rfl

/-- The plans of a composed grammar differ only in a limit that is not reached. -/
theorem follow_plan_of_cutTo (hcut : input.CutTo cut) (rises : Plan.Rises (InvokedBy table g) call)
    (composed : g.reader? = none) (noEnd : g ≠ eof)
    (hf : (g.plan table input s).follow emit call = some (r, l))
    (hr : r.index ≤ cut.byteLength) : (g.plan table cut s).follow emit call = some (r, l) := by
  have limit : ∀ t : State, Plan.SameLimit t r.index input.maxRounds cut.maxRounds := fun t => by
    have := hcut.byteLength_le
    refine .inr ⟨?_, ?_⟩ <;> simp only [Input.maxRounds] <;> omega
  cases g with
  | times min max p =>
    rcases max with _ | n
    · refine Plan.follow_rounds_of_sameLimit rises (.inl rfl) (fun vs t => ?_) (fun vs t => ?_) hf
        (limit s)
      · split <;> exact .refl t
      · split <;> exact trivial
    · exact hf
  | sepBy nonEmpty p sep =>
    refine Plan.follow_invoke_eq_some.2 ?_
    rcases Plan.follow_invoke_eq_some.1 hf with
      ⟨v, t, k, k', hc, hk, rfl⟩ | ⟨t, k, k', hc, hk, rfl⟩ | ⟨i, hc, rfl⟩
    · refine .inl ⟨v, t, k, k', hc, ?_, rfl⟩
      exact Plan.follow_separatedRounds_of_sameLimit rises (.inl (.inl rfl)) (.inl (.inr rfl))
        (fun _ _ _ ht => ht) (fun _ _ => trivial) hk (limit t)
    · exact .inr (.inl ⟨t, k, k', hc, hk, rfl⟩)
    · exact .inr (.inr ⟨i, hc, rfl⟩)
  | eof => exact absurd rfl noEnd
  | literal | satisfy | takeWhile1 | pattern => cases composed
  | _ => exact hf

/-- One layer of a repeatable grammar answers the same in the input that is cut off, if all that it
invokes does. -/
theorem follow_of_cutTo (hcut : input.CutTo cut) (repeatable : g.Repeatable)
    (rises : Plan.Rises (InvokedBy table g) call)
    (agree : ∀ p t x k, InvokedBy table g p → call p t = some (x, k) → x.index ≤ cut.byteLength →
      call' p t = some (x, k))
    (hf : (g.plan table input s).follow emit call = some (r, l)) (hr : r.index ≤ cut.byteLength) :
    (g.plan table cut s).follow emit call' = some (r, l) := by
  rcases hg : g.reader? with _ | reader
  · have noEnd : g ≠ eof := fun e => repeatable.2 (e ▸ trivial)
    have hf := follow_plan_of_cutTo hcut rises hg noEnd hf hr
    exact (continues_plan repeatable.1 hg noEnd).follow_of_le rises agree (plan_only ..) hf hr
  · rw [plan_of_reader? hg] at hf ⊢
    exact follow_read_of_cutTo hcut (local_of_reader? repeatable.2 hg) hf hr

/-! ## Whole parses -/

variable {rules : ρ → Parser Value} {depth : Nat}

theorem le_index_of_answer (htable : ∀ rule, (table rule).Everywhere Repeatable)
    (hg : g.Everywhere Repeatable) {l : List Entry}
    (ha : answer (ruleParser table depth) input g s = some (r, l)) : s.index ≤ r.index := by
  obtain ⟨h, ho, -⟩ := observed_of_answer ha
  have forward : ∀ p : Grammar ρ, p.Repeatable → ¬ p.GoesBack := fun _ hp => hp.1
  exact (ho.logged (fun rule => (htable rule).imp forward) (hg.imp forward)).le_index

/-- If the references that are answered are answered the same in the input that is cut off, so is
every grammar. -/
theorem answer_of_cutTo_of_references (hcut : input.CutTo cut)
    (htable : ∀ rule, (table rule).Everywhere Repeatable)
    (href : ∀ rule s r l, answer (ruleParser table depth) input (.ref rule) s = some (r, l) →
      r.index ≤ cut.byteLength → answer (ruleParser table depth) cut (.ref rule) s = some (r, l))
    (hg : g.Everywhere Repeatable) {l : List Entry}
    (ha : answer (ruleParser table depth) input g s = some (r, l))
    (hr : r.index ≤ cut.byteLength) :
    answer (ruleParser table depth) cut g s = some (r, l) := by
  induction g using wellFounded_part.induction generalizing s r l with
  | _ g ih =>
    by_cases isRef : ∃ rule, g = .ref rule
    · obtain ⟨rule, rfl⟩ := isRef
      exact href rule s r l ha hr
    have noRef : ∀ rule, g ≠ .ref rule := fun rule e => isRef ⟨rule, e⟩
    have part : ∀ p, InvokedBy table g p → Part p g := fun p hp =>
      hp.resolve_right fun ⟨rule, e, _⟩ => noRef rule e
    rw [answer_eq_invocation table noRef, invocation_eq_some] at ha ⊢
    obtain ⟨k, hk, rfl⟩ := ha
    have rises : Plan.Rises (InvokedBy table g) (answer (ruleParser table depth) input) :=
      fun p t x m hp hc => le_index_of_answer htable (hg.part (part p hp)) hc
    refine ⟨k, follow_of_cutTo hcut hg.here rises (fun p t x m hp hc => ?_) hk hr, rfl⟩
    exact ih p (part p hp) (hg.part (part p hp)) hc

/-- A parse that ends no further than the cut replies the same when the input is cut off. -/
theorem answer_of_cutTo (hcut : input.CutTo cut)
    (htable : ∀ rule, (table rule).Everywhere Repeatable) (hg : g.Everywhere Repeatable)
    {l : List Entry} (ha : answer (ruleParser table depth) input g s = some (r, l))
    (hr : r.index ≤ cut.byteLength) :
    answer (ruleParser table depth) cut g s = some (r, l) := by
  induction depth generalizing g s r l with
  | zero =>
    exact answer_of_cutTo_of_references hcut htable (fun rule s r l h => by cases h) hg ha hr
  | succ n ih =>
    refine answer_of_cutTo_of_references hcut htable (fun rule s r l h hr => ?_) hg ha hr
    rw [answer_ref] at h ⊢
    exact ih (htable rule) h hr

/-- Without patterns nothing can match ahead of where it is searched from. -/
theorem anchored_of_everywhere (htable : ∀ rule, (table rule).Everywhere fun p => ¬ p.SeesBeyond)
    (hg : g.Everywhere fun p => ¬ p.SeesBeyond) (s : State) : g.Anchored table input s := by
  intro r h ho x hx
  cases x with
  | called p t =>
    have hp : ¬ p.SeesBeyond := called_everywhere htable hg ho p t hx
    cases p with
    | pattern => exact absurd trivial hp
    | _ => exact trivial
  | _ => exact trivial

theorem Repeatable.keeps {p : Grammar ρ} (hp : p.Repeatable) : ¬ p.FixesIndex := by
  rintro hf
  cases p with
  | setState => exact hp.1 trivial
  | change c =>
    cases c with
    | seek => exact hp.1 trivial
    | _ => exact hf
  | _ => exact hf

/-- A run that reports a success splits the input behind what it consumed. -/
theorem success_of_run (htable : ∀ rule, (table rule).Everywhere Repeatable)
    (hg : g.Everywhere Repeatable) {p : Parsed Value}
    (parse : ((g.parserWith table depth).run input).result? = some (.parsed p)) :
    (g.parserWith table depth input .start).reply? = some (.success p.value p.state) ∧
      input.chars = p.consumed ++ p.remaining ∧ p.state.index = utf8Length p.consumed := by
  rcases reply : (g.parserWith table depth input .start).reply? with _ | r
  · simp only [Parser.run, Parser.runFrom, reply] at parse
    cases parse
  have result : some (.parsed p) = some (Result.ofReply input 0 r) :=
    parse.symm.trans (result?_runFrom reply)
  have boundary : input.Boundary State.start.index := ⟨[], input.chars, rfl, rfl⟩
  have keeps : g.KeepsIndex table input .start := keepsIndex_of_everywhere
    (fun rule => (htable rule).imp fun _ hp => hp.keeps) (hg.imp fun _ hp => hp.keeps) .start
  have anchored : g.Anchored table input .start := anchored_of_everywhere
    (fun rule => (htable rule).imp fun _ hp => hp.2) (hg.imp fun _ hp => hp.2) .start
  have splits := Result.splitsInput_ofReply boundary
    (Replies.boundaryFrom keeps anchored boundary ⟨depth, reply⟩)
  cases r with
  | success v t =>
    obtain rfl := Result.parsed.inj (Option.some.inj result)
    obtain ⟨front, hfront, hindex, hchars⟩ := splits
    obtain rfl : front = [] := eq_nil_of_utf8Length_eq_zero hfront
    exact ⟨rfl, hchars.symm, hindex.symm⟩
  | failure t => cases result
  | stalled i => cases result

/-- A success that ends behind a first part of an input is reported from any input cut off there or
further on. -/
theorem run_of_success (htable : ∀ rule, (table rule).Everywhere Repeatable)
    (hg : g.Everywhere Repeatable) {v : Value} {t : State} {consumed rest back : List Char}
    (reply : (g.parserWith table depth input .start).reply? = some (.success v t))
    (ht : t.index = utf8Length consumed) (split : input.chars = consumed ++ rest ++ back) :
    ((g.parserWith table depth).run (.ofChars (consumed ++ rest))).result? =
      some (.parsed ⟨v, consumed, rest, t⟩) := by
  have hcut : input.CutTo (.ofChars (consumed ++ rest)) := ⟨back, split⟩
  have within : t.index ≤ (Input.ofChars (consumed ++ rest)).byteLength := by
    rw [Input.byteLength_eq, Input.chars_ofChars, utf8Length_append]
    omega
  have again := answer_of_cutTo hcut htable hg (Run.outcome?_eq_some.2 ⟨reply, rfl⟩) within
  refine (result?_runFrom (Run.outcome?_eq_some.1 again).1).trans (congrArg some ?_)
  have slice : (Input.ofChars (consumed ++ rest)).slice? 0 (utf8Length consumed) = some consumed :=
    Input.slice?_eq_some (show _ = [] ++ consumed ++ rest from rfl)
  have after : (Input.ofChars (consumed ++ rest)).suffixD (utf8Length consumed) = rest :=
    Input.suffixD_eq rfl
  show Result.ofReply _ 0 _ = _
  simp only [Result.ofReply, ht, slice, after, Option.getD_some]

/-- What a parse has consumed is parsed again with the same value, labels and context, by itself or
with any first part of what followed it. -/
theorem run_consumed (htable : ∀ rule, (table rule).Everywhere Repeatable)
    (hg : g.Everywhere Repeatable) {p : Parsed Value}
    (parse : ((g.parserWith table depth).run input).result? = some (.parsed p)) :
    input.chars = p.consumed ++ p.remaining ∧
      (∀ front back, input.chars = front ++ back → utf8Length p.consumed ≤ utf8Length front →
        ∃ rest, front = p.consumed ++ rest ∧
          ((g.parserWith table depth).run (.ofChars front)).result? =
            some (.parsed { p with remaining := rest })) ∧
      ((g.parserWith table depth).run (.ofChars p.consumed)).result? =
        some (.parsed { p with remaining := [] }) := by
  obtain ⟨reply, chars, index⟩ := success_of_run htable hg parse
  have again : ∀ front back, input.chars = front ++ back →
      utf8Length p.consumed ≤ utf8Length front → ∃ rest, front = p.consumed ++ rest ∧
        ((g.parserWith table depth).run (.ofChars front)).result? =
          some (.parsed { p with remaining := rest }) := by
    intro front back split hle
    obtain ⟨rest, rfl, -⟩ := exists_append_of_utf8Length_le (chars.symm.trans split) hle
    exact ⟨rest, rfl, run_of_success htable hg reply index split⟩
  obtain ⟨rest, e, alone⟩ := again p.consumed p.remaining chars (Nat.le_refl _)
  obtain rfl : rest = [] := List.self_eq_append_right.1 e
  exact ⟨chars, again, alone⟩

/-- Numbers with commas between them. -/
def numbers : Unit → Grammar Unit := fun _ =>
  .seq [.takeWhile1 Char.isDigit "number", .maybe (.seqRight (.literal ",") (.ref ()))]

/-- Behind two numbers neither a semicolon nor what follows it makes a difference. -/
theorem run_consumed_numbers :
    ∃ p : Parsed Value,
      (((Grammar.ref ()).parserWith numbers 2).run
        (.ofChars ['1', ',', '2', '3', ';', 'é'])).result? = some (.parsed p) ∧
      p.consumed = ['1', ',', '2', '3'] ∧ p.state = ⟨4, [","], .empty⟩ ∧
      (((Grammar.ref ()).parserWith numbers 2).run (.ofChars ['1', ',', '2', '3', ';'])).result? =
        some (.parsed { p with remaining := [';'] }) ∧
      (((Grammar.ref ()).parserWith numbers 2).run (.ofChars ['1', ',', '2', '3'])).result? =
        some (.parsed { p with remaining := [] }) := by
  have htable : ∀ rule, (numbers rule).Everywhere Repeatable := by
    intro rule
    refine .intro ⟨nofun, nofun⟩ fun p hp => ?_
    rcases List.mem_cons.1 hp with rfl | hp
    · exact .intro ⟨nofun, nofun⟩ nofun
    · obtain rfl := List.mem_singleton.1 hp
      refine .intro ⟨nofun, nofun⟩ fun p hp => ?_
      obtain rfl : p = _ := hp
      refine .intro ⟨nofun, nofun⟩ fun p hp => ?_
      rcases hp with rfl | rfl <;> exact .intro ⟨nofun, nofun⟩ nofun
  have hg : (Grammar.ref () : Grammar Unit).Everywhere Repeatable := .intro ⟨nofun, nofun⟩ nofun
  have parse : (((Grammar.ref ()).parserWith numbers 2).run
      (.ofChars ['1', ',', '2', '3', ';', 'é'])).result? = some (.parsed ⟨.arr [.str "1",
        .arr [.arr [.str "23", .arr []]]], ['1', ',', '2', '3'], [';', 'é'], ⟨4, [","], .empty⟩⟩) :=
    rfl
  obtain ⟨-, again, alone⟩ := run_consumed htable hg parse
  obtain ⟨rest, e, longer⟩ := again ['1', ',', '2', '3', ';'] ['é'] rfl (by decide)
  obtain rfl : [';'] = rest := by simpa using e
  exact ⟨_, parse, rfl, rfl, longer, alone⟩

end Grammar

end Descent
