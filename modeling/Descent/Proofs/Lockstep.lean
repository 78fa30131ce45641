import Descent.Proofs.Boundary
import Descent.Proofs.Promise

/-!
# Parses in lockstep

Two parses of a grammar keep abreast: one from `s` on an input, the other from `t` on what the input
holds from offset `k` on, where `s` is `k` indices ahead of `t` and the contexts are the same. The
labels may differ. What they turn into is the same for both parses from the first match on, and
until then the parses put the same labels behind those that they started with; this is the relation
`Abreast`, which takes four states.

Two conditions on grammars keep the parses abreast: none yields its state as a value, and none goes
to a given index, unless `k` is zero. `lockstep_plan` says that then the plans of a grammar go the
same way, and `parserWith_abreast` that its parsers do, at every depth of resolved references.
-/

namespace Descent

variable {ρ ι : Type}

namespace Grammar

/-- The grammar goes the same way in parses that are `k` indices apart. -/
def Level (k : Nat) (g : Grammar ρ) : Prop := ¬ g.ShowsState ∧ (k = 0 ∨ ¬ g.FixesIndex)

end Grammar

/-- The second input is what the first holds from the offset on. -/
structure Input.HasTail (input rest : Input) (k : Nat) : Prop where
  suffix?_add : ∀ i, input.suffix? (i + k) = rest.suffix? i
  byteLength_eq : input.byteLength = rest.byteLength + k

theorem Input.hasTail_self (input : Input) : input.HasTail input 0 := ⟨fun _ => rfl, rfl⟩

/-- Up to `n` and up to `m` rounds from the index on are the same: there is not enough input for as
many, unless the numbers are equal. -/
def Input.SameRounds (input : Input) (k i n m : Nat) : Prop :=
  n = m ∨ k ≠ 0 ∧ input.byteLength - i < n ∧ input.byteLength - i < m

namespace Input.SameRounds

variable {input : Input} {k i n m : Nat}

theorem eq_zero (h : input.SameRounds k i 0 m) : m = 0 := by
  rcases h with rfl | h
  · rfl
  · omega

/-- After a round that moved on inside the input the rounds that are left are still the same. -/
theorem next (h : input.SameRounds k i (n + 1) m) :
    ∃ l, m = l + 1 ∧ ∀ j, i < j → (k = 0 ∨ j ≤ max i input.byteLength) →
      input.SameRounds k j n l := by
  rcases h with rfl | ⟨hk, hn, hm⟩
  · exact ⟨n, rfl, fun _ _ _ => .inl rfl⟩
  · refine ⟨m - 1, by omega, fun j hj hb => .inr ⟨hk, ?_⟩⟩
    omega

end Input.SameRounds

/-- Repetitions without a limit run the same number of rounds in both inputs. -/
theorem Input.HasTail.sameRounds {input rest : Input} {k : Nat} (tail : input.HasTail rest k)
    (i : Nat) (limit? : Option Nat) : input.SameRounds k (i + k) (limit?.getD input.maxRounds)
      (limit?.getD rest.maxRounds) := by
  have hlength := tail.byteLength_eq
  rcases limit? with _ | n
  · show input.SameRounds k (i + k) input.maxRounds rest.maxRounds
    simp only [SameRounds, maxRounds]
    by_cases hk : k = 0
    · exact .inl (by omega)
    · exact .inr ⟨hk, by omega⟩
  · exact .inl rfl

/-! ## States -/

/-- Two parses have come from `s` and `t` to `u` and `w`, and keep abreast. -/
structure Abreast (input : Input) (k : Nat) (s t u w : State) : Prop where
  index : u.index = w.index + k
  context : u.context = w.context
  /-- The labels since the last match, or those put behind what the parses started with. -/
  expected : ∃ X, u.expected = X ∧ w.expected = X ∨
    u.expected = s.expected ++ X ∧ w.expected = t.expected ++ X
  /-- What keeps a repetition from taking more rounds in one input than are allowed in the other. -/
  bound : k = 0 ∨ u.index ≤ max s.index input.byteLength

namespace Abreast

variable {input : Input} {k : Nat} {s t u w x y : State}

theorem refl (index : s.index = t.index + k) (context : s.context = t.context) :
    Abreast input k s t s t where
  index := index
  context := context
  expected := ⟨[], .inr ⟨by simp, by simp⟩⟩
  bound := .inr (Nat.le_max_left ..)

theorem here (h : Abreast input k s t u w) : Abreast input k u w u w := refl h.index h.context

theorem trans (h : Abreast input k s t u w) (h' : Abreast input k u w x y) :
    Abreast input k s t x y where
  index := h'.index
  context := h'.context
  expected := by
    -- once both parses have the same labels, they keep them the same
    obtain ⟨X, ⟨hu, hw⟩ | ⟨hu, hw⟩⟩ := h.expected
    · obtain ⟨Y, ⟨hx, hy⟩ | ⟨hx, hy⟩⟩ := h'.expected
      · exact ⟨Y, .inl ⟨hx, hy⟩⟩
      · exact ⟨X ++ Y, .inl ⟨by rw [hx, hu], by rw [hy, hw]⟩⟩
    · obtain ⟨Y, ⟨hx, hy⟩ | ⟨hx, hy⟩⟩ := h'.expected
      · exact ⟨Y, .inl ⟨hx, hy⟩⟩
      · refine ⟨X ++ Y, .inr ⟨?_, ?_⟩⟩
        · rw [hx, hu, List.append_assoc]
        · rw [hy, hw, List.append_assoc]
  bound := by
    have h₁ := h.bound
    have h₂ := h'.bound
    omega

theorem expecting (h : Abreast input k s t u w) (label : String) :
    Abreast input k s t (u.expecting label) (w.expecting label) :=
  h.trans ⟨h.index, h.context, ⟨[label], .inr ⟨rfl, rfl⟩⟩, .inr (Nat.le_max_left ..)⟩

theorem advance (h : Abreast input k s t u w) {n : Nat} (hn : u.index + n ≤ input.byteLength) :
    Abreast input k s t (u.advance n) (w.advance n) where
  index := by
    have := h.index
    simp only [State.index_advance]
    omega
  context := h.context
  expected := ⟨[], .inl ⟨rfl, rfl⟩⟩
  bound := .inr (Nat.le_trans hn (Nat.le_max_right ..))

theorem withExpected (h : Abreast input k s t u w) (h' : Abreast input k s t x y) :
    Abreast input k s t (u.withExpected x.expected) (w.withExpected y.expected) :=
  ⟨h.index, h.context, h'.expected, h.bound⟩

/-- A change of the state that goes to no given index, or to the same one in both parses. -/
theorem apply (h : Abreast input k s t u w) {c : Change}
    (hc : k = 0 ∨ ¬ (Grammar.change c : Grammar ρ).FixesIndex) :
    Abreast input k s t (u.apply c) (w.apply c) := by
  cases c with
  | put key v =>
    exact ⟨h.index, congrArg (·.insert key v) h.context, h.expected, h.bound⟩
  | drop key => exact ⟨h.index, congrArg (·.erase key) h.context, h.expected, h.bound⟩
  | seek i =>
    obtain rfl : k = 0 := hc.resolve_right fun hc => hc trivial
    exact ⟨rfl, h.context, h.expected, .inl rfl⟩

theorem index_eq_iff (h : Abreast input k s t u w) {s' t' : State}
    (h' : Abreast input k s' t' x y) : u.index = x.index ↔ w.index = y.index := by
  have h₁ := h.index
  have h₂ := h'.index
  omega

end Abreast

/-- Two parses that keep abreast answer the same. -/
inductive Reply.Abreast (input : Input) (k : Nat) (s t : State) : Reply Value → Reply Value → Prop
  | success (v : Value) {u w : State} (h : Descent.Abreast input k s t u w) :
    Reply.Abreast input k s t (.success v u) (.success v w)
  | failure {u w : State} (h : Descent.Abreast input k s t u w) :
    Reply.Abreast input k s t (.failure u) (.failure w)
  | stalled (i : Nat) : Reply.Abreast input k s t (.stalled (i + k)) (.stalled i)

/-! ## Plans -/

/-- Two plans go the same way, as long as what they invoke keeps abreast. -/
inductive Plan.Lockstep (input : Input) (k : Nat) (s t : State) : Plan ρ → Plan ρ → Prop
  | succeed (v : Value) {u w : State} (h : Abreast input k s t u w) :
    Lockstep input k s t (.succeed v u) (.succeed v w)
  | fail {u w : State} (h : Abreast input k s t u w) : Lockstep input k s t (.fail u) (.fail w)
  | invoke (g : Grammar ρ) {u w : State} {onSuccess onSuccess' : Value → State → Plan ρ}
    {onFailure onFailure' : State → Plan ρ} (h : Abreast input k u w u w)
    (hsucceed : ∀ v x y, Abreast input k u w x y →
      Lockstep input k s t (onSuccess v x) (onSuccess' v y))
    (hfail : ∀ x y, Abreast input k u w x y → Lockstep input k s t (onFailure x) (onFailure' y)) :
    Lockstep input k s t (.invoke g u onSuccess onFailure) (.invoke g w onSuccess' onFailure')
  | round {start stop start' stop' : Nat} {p p' : Plan ρ} (hstart : start = start' + k)
    (hstop : stop = stop' + k) (h : start < stop → Lockstep input k s t p p') :
    Lockstep input k s t (.round start stop p) (.round start' stop' p')
  | note (e e' : Event) {p p' : Plan ρ} (h : Lockstep input k s t p p') :
    Lockstep input k s t (.note e p) (.note e' p')

namespace Plan.Lockstep

variable {input rest : Input} {k : Nat} {s t u w : State}

theorem branch {c c' : Prop} [Decidable c] [Decidable c'] (hc : c ↔ c') {p p' q q' : Plan ρ}
    (hp : Lockstep input k s t p p') (hq : Lockstep input k s t q q') :
    Lockstep input k s t (if c then p else q) (if c' then p' else q') := by
  by_cases h : c
  · rw [if_pos h, if_pos (hc.1 h)]
    exact hp
  · rw [if_neg h, if_neg (mt hc.2 h)]
    exact hq

theorem recover {start start' failed failed' : State} {next next' : State → Plan ρ}
    {committed committed' : Plan ρ} (hs : Abreast input k s t start start')
    (hf : Abreast input k s t failed failed')
    (hn : ∀ x y, Abreast input k s t x y → Lockstep input k s t (next x) (next' y))
    (hc : Lockstep input k s t committed committed') :
    Lockstep input k s t (Plan.recover start failed next committed)
      (Plan.recover start' failed' next' committed') := by
  unfold Plan.recover
  exact branch (hf.index_eq_iff hs) (hn _ _ (hs.withExpected hf)) hc

/-- Goes on from where an invocation leads, measured from where the plans started. -/
theorem run (h : Abreast input k s t u w) (g : Grammar ρ)
    {onSuccess onSuccess' : Value → State → Plan ρ} {onFailure onFailure' : State → Plan ρ}
    (hsucceed : ∀ v x y, Abreast input k s t x y →
      Lockstep input k s t (onSuccess v x) (onSuccess' v y))
    (hfail : ∀ x y, Abreast input k s t x y → Lockstep input k s t (onFailure x) (onFailure' y)) :
    Lockstep input k s t (.invoke g u onSuccess onFailure) (.invoke g w onSuccess' onFailure') :=
  .invoke g h.here (fun v x y hx => hsucceed v x y (h.trans hx))
    fun x y hx => hfail x y (h.trans hx)

theorem reader {reader : Reader} (tail : input.HasTail rest k) (within : reader.StaysWithin)
    (h : Abreast input k s t u w) :
    Lockstep input k s t (reader.plan input u : Plan ρ) (reader.plan rest w) := by
  unfold Reader.plan
  rw [h.index, tail.suffix?_add]
  rcases hr : (rest.suffix? w.index).bind reader.step? with _ | ⟨v, n⟩
  · exact .fail (h.expecting _)
  · obtain ⟨cs, hcs, hstep⟩ := Option.bind_eq_some_iff.1 hr
    rw [← tail.suffix?_add, ← h.index] at hcs
    have := within cs v n hstep
    have := Input.add_utf8Length_of_suffix? hcs
    exact .succeed v (h.advance (by omega))

theorem sequence {ps : List (Grammar ρ)} {done done' : List Value → State → Plan ρ}
    (h : Abreast input k s t u w)
    (hd : ∀ vs x y, Abreast input k s t x y → Lockstep input k s t (done vs x) (done' vs y)) :
    Lockstep input k s t (Plan.sequence ps u done) (Plan.sequence ps w done') := by
  induction ps generalizing u w done done' with
  | nil => exact hd [] u w h
  | cons p ps ih =>
    refine run h p (fun v x y hx => ?_) fun _ _ => .fail
    exact ih hx fun vs => hd (v :: vs)

theorem alternatives {start start' : State} {i : Nat} {ps : List (Grammar ρ)}
    (hs : Abreast input k s t start start') (h : Abreast input k s t u w) :
    Lockstep input k s t (Plan.alternatives start i ps u) (Plan.alternatives start' i ps w) := by
  induction ps generalizing i u w with
  | nil => exact .fail h
  | cons p ps ih =>
    refine run h p (fun v _ _ => .succeed v) fun x y hx => ?_
    exact recover hs hx (fun _ _ hx => .note _ _ (ih hx)) (.note _ _ (.fail hx))

theorem rounds {p : Grammar ρ} {n m : Nat} {done done' : List Value → State → Plan ρ}
    (h : Abreast input k s t u w) (hn : input.SameRounds k u.index n m)
    (hd : ∀ vs x y, Abreast input k s t x y → Lockstep input k s t (done vs x) (done' vs y)) :
    Lockstep input k s t (Plan.rounds p n u done) (Plan.rounds p m w done') := by
  induction n generalizing m u w done done' with
  | zero =>
    obtain rfl := hn.eq_zero
    exact hd [] u w h
  | succ n ih =>
    obtain ⟨m, rfl, hnext⟩ := hn.next
    -- not by `run`: the bound on the rounds that are left comes from the start of this one
    refine .invoke p h.here (fun v x y hx => ?_) fun x y hx => ?_
    · refine .round h.index hx.index fun moved => ?_
      exact ih (h.trans hx) (hnext x.index moved hx.bound) fun vs => hd (v :: vs)
    · exact branch (hx.index_eq_iff h) (hd [] x y (h.trans hx)) (.fail (h.trans hx))

theorem separatedRounds {p sep : Grammar ρ} {n m : Nat}
    {done done' : List Value → State → Plan ρ} (h : Abreast input k s t u w)
    (hn : input.SameRounds k u.index n m)
    (hd : ∀ vs x y, Abreast input k s t x y → Lockstep input k s t (done vs x) (done' vs y)) :
    Lockstep input k s t (Plan.separatedRounds p sep n u done)
      (Plan.separatedRounds p sep m w done') := by
  induction n generalizing m u w done done' with
  | zero =>
    obtain rfl := hn.eq_zero
    exact hd [] u w h
  | succ n ih =>
    obtain ⟨m, rfl, hnext⟩ := hn.next
    have stop : ∀ x y, Abreast input k s t x y →
        Lockstep input k s t (Plan.recover u x (done []) (.fail x))
          (Plan.recover w y (done' []) (.fail y)) :=
      fun x y hx => recover h hx (hd []) (.fail hx)
    refine .invoke sep h.here (fun _ x y hx => ?_) fun x y hx => stop x y (h.trans hx)
    refine .invoke p hx.here (fun v x' y' hx' => ?_)
      fun x' y' hx' => stop x' y' ((h.trans hx).trans hx')
    refine .round h.index hx'.index fun moved => ?_
    have hux := hx.trans hx'
    exact ih (h.trans hux) (hnext x'.index moved hux.bound) fun vs => hd (v :: vs)

end Plan.Lockstep

namespace Grammar

variable {table : ρ → Grammar ρ} {input rest : Input} {k : Nat} {s t : State}

/-- The plans of a grammar go the same way in two parses that keep abreast. -/
theorem lockstep_plan (tail : input.HasTail rest k) {g : Grammar ρ} (hg : g.Level k)
    (h : Abreast input k s t s t) :
    Plan.Lockstep input k s t (g.plan table input s) (g.plan table rest t) := by
  cases g with
  | pure v => exact .succeed v h
  | fail => exact .fail h
  | eof =>
    have hi := h.index
    have hl := tail.byteLength_eq
    have atEnd : input.byteLength ≤ s.index ↔ rest.byteLength ≤ t.index := by omega
    exact .branch atEnd (.succeed .null h) (.fail (h.expecting _))
  | literal text =>
    refine .reader tail (Reader.staysWithin_of_takesFrom ?_) h
    exact Reader.literal_takesFrom text
  | satisfy accepts label =>
    refine .reader tail (Reader.staysWithin_of_takesFrom ?_) h
    exact Reader.satisfy_takesFrom accepts label
  | takeWhile1 accepts label =>
    refine .reader tail (Reader.staysWithin_of_takesFrom ?_) h
    exact Reader.takeWhile1_takesFrom accepts label
  | pattern program label => exact .reader tail (Reader.pattern_staysWithin program label) h
  | getState => exact absurd trivial hg.1
  | setState new =>
    obtain rfl : k = 0 := hg.2.resolve_right fun hf => hf trivial
    exact .succeed .null ⟨rfl, rfl, ⟨new.expected, .inl ⟨rfl, rfl⟩⟩, .inl rfl⟩
  | lookup key =>
    have hl : s.lookup? key = t.lookup? key := congrArg (·.find? key) h.context
    rw [plan, plan, hl]
    exact .succeed _ h
  | change c => exact .succeed .null (h.apply hg.2)
  | restoring p => exact .run h p (fun v _ _ _ => .succeed v h) fun _ _ => .fail
  | map f p => exact .run h p (fun v _ _ => .succeed (f v)) fun _ _ => .fail
  | traced name p => exact .run h p (fun v _ _ => .succeed v) fun _ _ => .fail
  | ref rule => exact .run h (table rule) (fun v _ _ => .succeed v) fun _ _ => .fail
  | chain p next =>
    refine .run h p (fun v _ _ hx => ?_) fun _ _ => .fail
    exact .run hx (next v) (fun v _ _ => .succeed v) fun _ _ => .fail
  | seqRight p q =>
    refine .run h p (fun _ _ _ hx => ?_) fun _ _ => .fail
    exact .run hx q (fun v _ _ => .succeed v) fun _ _ => .fail
  | seqLeft p q =>
    refine .run h p (fun v _ _ hx => ?_) fun _ _ => .fail
    exact .run hx q (fun _ _ _ => .succeed v) fun _ _ => .fail
  | between left p right =>
    refine .run h left (fun _ _ _ hx => ?_) fun _ _ => .fail
    refine .run hx p (fun v _ _ hy => ?_) fun _ _ => .fail
    exact .run hy right (fun _ _ _ => .succeed v) fun _ _ => .fail
  | seq ps => exact .sequence h fun vs _ _ => .succeed (.arr vs)
  | or p q =>
    refine .run h p (fun v _ _ => .succeed v) fun x y hx => ?_
    refine .recover h hx (fun _ _ hx => .note _ _ ?_) (.note _ _ (.fail hx))
    exact .run hx q (fun v _ _ => .succeed v) fun _ _ => .fail
  | alt ps => exact .alternatives h h
  | attempt label? p =>
    refine .run h p (fun v _ _ => .succeed v) fun x y hx => ?_
    cases label? with
    | none => exact .branch (hx.index_eq_iff h) (.fail h) (.note _ _ (.fail h))
    | some label =>
      have failed := Plan.Lockstep.fail (ρ := ρ) (h.expecting label)
      exact .branch (hx.index_eq_iff h) failed (.note _ _ failed)
  | maybe p =>
    refine .run h p (fun v _ _ => .succeed _) fun x y hx => ?_
    exact .recover h hx (fun _ _ => .succeed _) (.fail hx)
  | lookahead p =>
    refine .run h p (fun v _ _ _ => .succeed v h) fun x y hx => ?_
    exact .branch (hx.index_eq_iff h) (.fail (h.withExpected hx)) (.fail h)
  | not p =>
    refine .run h p (fun _ _ _ _ => .fail h) fun x y hx => ?_
    exact .branch (hx.index_eq_iff h) (.succeed .null h) (.fail hx)
  | times min max p =>
    refine .rounds h ?_ fun vs x y hx => ?_
    · rw [h.index]
      exact tail.sameRounds _ max
    · split
      · exact .fail hx
      · exact .succeed (.arr vs) hx
  | sepBy nonEmpty p sep =>
    refine .run h p (fun v x y hx => ?_) fun x y hx => ?_
    · refine .separatedRounds hx ?_ fun vs _ _ => .succeed (.arr (v :: vs))
      rw [hx.index]
      exact tail.sameRounds _ none
    · cases nonEmpty with
      | true => exact .fail hx
      | false => exact .recover h hx (fun _ _ => .succeed (.arr [])) (.fail hx)

end Grammar

/-! ## Parses -/

/-- Neither parse is answered, or both are and keep abreast. -/
def AnswersAbreast (input : Input) (k : Nat) (s t : State) :
    Option (Reply Value × List ι) → Option (Reply Value × List ι) → Prop :=
  Option.Rel fun x y => x.1.Abreast input k s t y.1

namespace AnswersAbreast

variable {input : Input} {k : Nat} {s t : State} {a b : Option (Reply Value × List ι)}

theorem prepend (h : AnswersAbreast input k s t a b) (l m : List ι) :
    AnswersAbreast input k s t (prepend l a) (prepend m b) := by
  cases h with
  | some h => exact .some h
  | none => exact .none

theorem map (h : AnswersAbreast input k s t a b) (f g : Reply Value × List ι → List ι) :
    AnswersAbreast input k s t (a.map fun x => (x.1, f x)) (b.map fun x => (x.1, g x)) := by
  cases h with
  | some h => exact .some h
  | none => exact .none

end AnswersAbreast

theorem Plan.Lockstep.follow {input : Input} {k : Nat} {s t : State} {P : Grammar ρ → Prop}
    {emit : Occurrence ρ → List ι}
    {call call' : Grammar ρ → State → Option (Reply Value × List ι)}
    (hcall : ∀ g u w, P g → Abreast input k u w u w →
      AnswersAbreast input k u w (call g u) (call' g w))
    {p p' : Plan ρ} (hl : Lockstep input k s t p p') (hp : p.Only P) :
    AnswersAbreast input k s t (p.follow emit call) (p'.follow emit call') := by
  induction hl with
  | succeed v h => exact .some (.success v h)
  | fail h => exact .some (.failure h)
  | @invoke g u w _ _ _ _ h _ _ ihs ihf =>
    obtain ⟨hg, hps, hpf⟩ := hp
    have ha := hcall g u w hg h
    simp only [Plan.follow]
    generalize call g u = a, call' g w = b at ha
    cases ha with
    | none => exact .none
    | @some a b ha =>
      obtain ⟨r, l⟩ := a
      obtain ⟨r', l'⟩ := b
      cases ha with
      | success v hx => exact (ihs v _ _ hx (hps v _)).prepend l l'
      | failure hx => exact (ihf _ _ hx (hpf _)).prepend l l'
      | stalled i => exact .some (.stalled i)
  | @round start stop start' stop' _ _ hstart hstop _ ih =>
    simp only [Plan.follow]
    by_cases moved : start < stop
    · rw [if_pos moved, if_pos (by omega)]
      exact (ih moved hp).prepend _ _
    · rw [if_neg moved, if_neg (by omega)]
      subst hstart
      exact .some (.stalled start')
  | note e e' _ ih => exact (ih hp).prepend _ _

namespace Grammar

variable {table : ρ → Grammar ρ} {input rest : Input} {k : Nat}

theorem abreast_of_references (table : ρ → Grammar ρ) (tail : input.HasTail rest k)
    {rules : ρ → Parser Value}
    (href : ∀ rule s t, Abreast input k s t s t → AnswersAbreast input k s t
      (answer rules input (.ref rule) s) (answer rules rest (.ref rule) t))
    {g : Grammar ρ} (hg : g.Everywhere (Level k)) {s t : State} (h : Abreast input k s t s t) :
    AnswersAbreast input k s t (answer rules input g s) (answer rules rest g t) := by
  induction g using wellFounded_part.induction generalizing s t with
  | _ g ih =>
    by_cases isRef : ∃ rule, g = .ref rule
    · obtain ⟨rule, rfl⟩ := isRef
      exact href rule s t h
    have noRef : ∀ rule, g ≠ .ref rule := fun rule e => isRef ⟨rule, e⟩
    rw [answer_eq_invocation table noRef, answer_eq_invocation table noRef]
    have parts := plan_only table input s g
    refine AnswersAbreast.map (Plan.Lockstep.follow (fun p u w hp hu => ?_)
      (lockstep_plan tail hg.here h) parts) _ _
    rcases hp with hp | ⟨rule, e, _⟩
    · exact ih p hp (hg.part hp) hu
    · exact absurd e (noRef rule)

/-- Parses from states abreast of each other answer abreast of each other, or both do not answer, at
every depth of resolved references. -/
theorem answers_abreast (tail : input.HasTail rest k)
    (htable : ∀ rule, (table rule).Everywhere (Level k)) (depth : Nat) {g : Grammar ρ}
    (hg : g.Everywhere (Level k)) {s t : State} (h : Abreast input k s t s t) :
    AnswersAbreast input k s t (answer (ruleParser table depth) input g s)
      (answer (ruleParser table depth) rest g t) := by
  induction depth generalizing g s t with
  | zero =>
    refine abreast_of_references table tail (fun rule s t _ => ?_) hg h
    rw [answer_ref_zero, answer_ref_zero]
    exact .none
  | succ n ih =>
    refine abreast_of_references table tail (fun rule s t h => ?_) hg h
    rw [answer_ref, answer_ref]
    exact ih (htable rule) h

theorem parserWith_abreast (tail : input.HasTail rest k)
    (htable : ∀ rule, (table rule).Everywhere (Level k)) (depth : Nat) {g : Grammar ρ}
    (hg : g.Everywhere (Level k)) {s t : State} (h : Abreast input k s t s t) :
    Option.Rel (Reply.Abreast input k s t) (g.parserWith table depth input s).reply?
      (g.parserWith table depth rest t).reply? := by
  have ha := answers_abreast tail htable depth hg h
  simp only [answer, Run.outcome?, AnswersAbreast] at ha
  rw [parserWith]
  rcases hr : (g.parser (ruleParser table depth) input s).reply? <;>
    rcases hr' : (g.parser (ruleParser table depth) rest t).reply? <;> rw [hr, hr'] at ha
  · exact .none
  · cases ha
  · cases ha
  · cases ha with
    | some ha => exact .some ha

end Grammar

end Descent
