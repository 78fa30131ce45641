import Descent.Grammar

/-!
# Plans: what a grammar does, one invocation at a time

`Grammar.plan` takes one layer off a grammar: which grammars it invokes, from which states, and how
it goes on when they succeed or fail. Loops become chains of invocations. A plan has no case for a
stalled repetition: wherever an invocation or a round stalls, the plan is over. That the parsers of
a grammar follow its plan is proved in `Descent.Proofs.Adequacy`.

`Part` relates a grammar to the grammars it is built from. It is well founded (`wellFounded_part`),
and a plan invokes nothing else (`plan_only`), references apart.
-/

namespace Descent

/-- What a grammar does from a state on. -/
inductive Plan (ρ : Type) where
  | succeed (v : Value) (s : State)
  | fail (s : State)
  /-- Runs `g` from `s` and goes on from where it succeeds or fails. -/
  | invoke (g : Grammar ρ) (s : State) (onSuccess : Value → State → Plan ρ)
    (onFailure : State → Plan ρ)
  /-- Ends a round of a repetition that succeeded; goes on only if the round moved on. -/
  | round (start stop : Nat) (next : Plan ρ)
  /-- Notes an event in the trace. -/
  | note (e : Event) (next : Plan ρ)

/-! ## Reading -/

/-- How a grammar reads the input: the label it fails with, and the value and the number of bytes
that it takes from the rest of the input. -/
structure Reader where
  label : String
  step? : List Char → Option (Value × Nat)

namespace Reader

def literal (text : String) : Reader :=
  ⟨text, fun rest =>
    if text.toList.isPrefixOf rest then some (.str text, utf8Length text.toList) else none⟩

def satisfy (accepts : Char → Bool) (label : String) : Reader :=
  ⟨label, fun
    | c :: _ => if accepts c then some (.char c, c.utf8Size) else none
    | [] => none⟩

def takeWhile1 (accepts : Char → Bool) (label : String) : Reader :=
  ⟨label, fun rest =>
    if rest.takeWhile accepts = [] then none
    else some (.chars (rest.takeWhile accepts), utf8Length (rest.takeWhile accepts))⟩

/-- Reads as many bytes as the leftmost match of a pattern takes. -/
def pattern (p : Program) (label : String) : Reader :=
  ⟨label, fun rest => (p.find? rest).map fun found => (.chars found.text, utf8Length found.text)⟩

/-- Reads at the index of the state, or fails there. -/
def plan (reader : Reader) (input : Input) (s : State) : Plan ρ :=
  match (input.suffix? s.index).bind reader.step? with
  | some (v, n) => .succeed v (s.advance n)
  | none => .fail (s.expecting reader.label)

end Reader

/-! ## The plan of a grammar -/

namespace Plan

variable {ρ : Type}

/-- Goes on after a soft failure of a part that started at `start`, else as `committed` says. -/
def recover (start failed : State) (next : State → Plan ρ) (committed : Plan ρ) : Plan ρ :=
  if failed.index = start.index then next (start.withExpected failed.expected) else committed

/-- Runs all grammars in order, then goes on with the list of their values. -/
def sequence : List (Grammar ρ) → State → (List Value → State → Plan ρ) → Plan ρ
  | [], s, done => done [] s
  | p :: ps, s, done => .invoke p s (fun v t => sequence ps t fun vs u => done (v :: vs) u) .fail

/-- Runs the alternatives from position `i` on, for a choice that started at `start`. -/
def alternatives (start : State) : Nat → List (Grammar ρ) → State → Plan ρ
  | _, [], s => .fail s
  | i, p :: ps, s => .invoke p s .succeed fun failed =>
    recover start failed
      (fun t => .note (.alternativeFailedSoftly start.index i) (alternatives start (i + 1) ps t))
      (.note (.alternativeCommitted start.index failed.index i) (.fail failed))

/-- Runs up to `n` rounds, then goes on with the list of their values. -/
def rounds (p : Grammar ρ) : Nat → State → (List Value → State → Plan ρ) → Plan ρ
  | 0, s, done => done [] s
  | n + 1, s, done => .invoke p s
    (fun v t => .round s.index t.index (rounds p n t fun vs u => done (v :: vs) u))
    fun t => if t.index = s.index then done [] t else .fail t

/-- Runs up to `n` rounds of a separator and an item, then goes on with the list of the items. -/
def separatedRounds (p sep : Grammar ρ) : Nat → State → (List Value → State → Plan ρ) → Plan ρ
  | 0, s, done => done [] s
  | n + 1, s, done =>
    let stop (failed : State) : Plan ρ := recover s failed (done []) (.fail failed)
    .invoke sep s
      (fun _ t => .invoke p t
        (fun v u => .round s.index u.index (separatedRounds p sep n u fun vs w => done (v :: vs) w))
        stop)
      stop

end Plan

namespace Grammar

variable {ρ : Type}

/-- What a grammar does from a state on, over a table of rules. -/
def plan (table : ρ → Grammar ρ) (input : Input) (s : State) : Grammar ρ → Plan ρ
  | .pure v => .succeed v s
  | fail => .fail s
  | eof =>
    if input.byteLength ≤ s.index then .succeed .null s else .fail (s.expecting "end of input")
  | literal text => (Reader.literal text).plan input s
  | satisfy accepts label => (Reader.satisfy accepts label).plan input s
  | takeWhile1 accepts label => (Reader.takeWhile1 accepts label).plan input s
  | pattern program label => (Reader.pattern program label).plan input s
  | getState => .succeed s.toValue s
  | setState new => .succeed .null new
  | lookup key => .succeed (.option (s.lookup? key)) s
  | change c => .succeed .null (s.apply c)
  | restoring p => .invoke p s (fun v _ => .succeed v s) .fail
  | .map f p => .invoke p s (fun v t => .succeed (f v) t) .fail
  | chain p next => .invoke p s (fun v t => .invoke (next v) t .succeed .fail) .fail
  | seqRight p q => .invoke p s (fun _ t => .invoke q t .succeed .fail) .fail
  | seqLeft p q => .invoke p s (fun v t => .invoke q t (fun _ u => .succeed v u) .fail) .fail
  | between left p right => .invoke left s
    (fun _ t => .invoke p t
      (fun v u => .invoke right u (fun _ w => .succeed v w) .fail) .fail) .fail
  | .seq ps => Plan.sequence ps s fun vs t => .succeed (.arr vs) t
  | or p q => .invoke p s .succeed fun failed =>
    Plan.recover s failed
      (fun t => .note (.firstFailedSoftly s.index) (.invoke q t .succeed .fail))
      (.note (.firstCommitted s.index failed.index) (.fail failed))
  | alt ps => Plan.alternatives s 0 ps s
  | attempt label? p => .invoke p s .succeed fun failed =>
    let rewound := match label? with
      | some label => s.expecting label
      | none => s
    if failed.index = s.index then .fail rewound
    else .note (.rewound s.index failed.index) (.fail rewound)
  | maybe p => .invoke p s (fun v t => .succeed (.option (some v)) t) fun failed =>
    Plan.recover s failed (fun t => .succeed (.option none) t) (.fail failed)
  | lookahead p => .invoke p s (fun v _ => .succeed v s) fun failed =>
    if failed.index = s.index then .fail (s.withExpected failed.expected) else .fail s
  | not p => .invoke p s (fun _ _ => .fail s) fun failed =>
    if failed.index = s.index then .succeed .null s else .fail failed
  | times min max p => Plan.rounds p (max.getD input.maxRounds) s fun vs t =>
    if vs.length < min then .fail t else .succeed (.arr vs) t
  | sepBy nonEmpty p sep => .invoke p s
    (fun v t =>
      Plan.separatedRounds p sep input.maxRounds t fun vs u => .succeed (.arr (v :: vs)) u)
    fun failed =>
      if nonEmpty then .fail failed
      else Plan.recover s failed (fun t => .succeed (.arr []) t) (.fail failed)
  | traced _ p => .invoke p s .succeed .fail
  | ref rule => .invoke (table rule) s .succeed .fail

/-! ## The parts of a grammar -/

/-- The grammar is one that the other is immediately built from. -/
def Part (p : Grammar ρ) : Grammar ρ → Prop
  | restoring q | .map _ q | attempt _ q | maybe q | lookahead q | not q | times _ _ q
  | traced _ q => p = q
  | chain q next => p = q ∨ ∃ v, p = next v
  | seqRight q r | seqLeft q r | or q r | sepBy _ q r => p = q ∨ p = r
  | between l q r => p = l ∨ p = q ∨ p = r
  | .seq ps | alt ps => p ∈ ps
  | _ => False

mutual

theorem acc_part : (g : Grammar ρ) → Acc Part g
  | .pure _ | fail | eof | literal _ | satisfy .. | takeWhile1 .. | pattern .. | getState
  | setState _ | lookup _ | change _ | ref _ => ⟨_, fun _ h => False.elim h⟩
  | restoring q | .map _ q | attempt _ q | maybe q | lookahead q | not q | times _ _ q
  | traced _ q => ⟨_, fun _ h => h ▸ acc_part q⟩
  | chain q next => ⟨_, fun _ h => h.elim (· ▸ acc_part q) fun ⟨v, hv⟩ => hv ▸ acc_part (next v)⟩
  | seqRight q r | seqLeft q r | or q r | sepBy _ q r =>
    ⟨_, fun _ h => h.elim (· ▸ acc_part q) (· ▸ acc_part r)⟩
  | between l q r =>
    ⟨_, fun _ h => h.elim (· ▸ acc_part l) (·.elim (· ▸ acc_part q) (· ▸ acc_part r))⟩
  | .seq ps | alt ps => ⟨_, fun p h => acc_part_of_mem ps p h⟩

theorem acc_part_of_mem : (ps : List (Grammar ρ)) → (p : Grammar ρ) → p ∈ ps → Acc Part p
  | [], _, h => by cases h
  | q :: ps, p, h => by
    rcases List.mem_cons.1 h with e | h
    · exact e ▸ acc_part q
    · exact acc_part_of_mem ps p h

end

theorem wellFounded_part : WellFounded (Part (ρ := ρ)) := ⟨acc_part⟩

end Grammar

/-! ## What a plan invokes -/

namespace Plan

variable {ρ : Type} {P : Grammar ρ → Prop}

/-- All grammars that the plan may invoke have the property. -/
def Only (P : Grammar ρ → Prop) : Plan ρ → Prop
  | .succeed .. | .fail _ => True
  | .invoke g _ onSuccess onFailure =>
    P g ∧ (∀ v t, (onSuccess v t).Only P) ∧ ∀ t, (onFailure t).Only P
  | .round _ _ next | .note _ next => next.Only P

theorem only_recover {start failed : State} {next : State → Plan ρ} {committed : Plan ρ}
    (hn : ∀ t, (next t).Only P) (hc : committed.Only P) :
    (recover start failed next committed).Only P := by
  unfold recover
  split
  · exact hn _
  · exact hc

theorem only_read (reader : Reader) (input : Input) (s : State) :
    (reader.plan input s : Plan ρ).Only P := by
  unfold Reader.plan
  split <;> exact trivial

theorem only_sequence {ps : List (Grammar ρ)} {s : State} {done : List Value → State → Plan ρ}
    (hp : ∀ p ∈ ps, P p) (hd : ∀ vs t, (done vs t).Only P) : (sequence ps s done).Only P := by
  induction ps generalizing s done with
  | nil => exact hd _ _
  | cons p ps ih =>
    exact ⟨hp p (by simp), fun v t => ih (fun q hq => hp q (by simp [hq])) fun vs u => hd _ _,
      fun _ => trivial⟩

theorem only_alternatives {start : State} {i : Nat} {ps : List (Grammar ρ)} {s : State}
    (hp : ∀ p ∈ ps, P p) : (alternatives start i ps s).Only P := by
  induction ps generalizing i s with
  | nil => exact trivial
  | cons p ps ih =>
    exact ⟨hp p (by simp), fun _ _ => trivial,
      fun _ => only_recover (fun _ => ih fun q hq => hp q (by simp [hq])) trivial⟩

theorem only_rounds {p : Grammar ρ} {n : Nat} {s : State} {done : List Value → State → Plan ρ}
    (hp : P p) (hd : ∀ vs t, (done vs t).Only P) : (rounds p n s done).Only P := by
  induction n generalizing s done with
  | zero => exact hd _ _
  | succ n ih =>
    refine ⟨hp, fun v t => ih fun vs u => hd _ _, fun t => ?_⟩
    dsimp only
    split
    · exact hd _ _
    · exact trivial

theorem only_separatedRounds {p sep : Grammar ρ} {n : Nat} {s : State}
    {done : List Value → State → Plan ρ} (hp : P p) (hsep : P sep)
    (hd : ∀ vs t, (done vs t).Only P) : (separatedRounds p sep n s done).Only P := by
  induction n generalizing s done with
  | zero => exact hd _ _
  | succ n ih =>
    have stop : ∀ failed, (recover s failed (done []) (.fail failed)).Only P :=
      fun _ => only_recover (hd _) trivial
    exact ⟨hsep, fun _ t => ⟨hp, fun v u => ih fun vs w => hd _ _, stop⟩, stop⟩

end Plan

namespace Grammar

variable {ρ : Type}

/-- A plan invokes the parts of the grammar, and for a reference the rule that it names. -/
theorem plan_only (table : ρ → Grammar ρ) (input : Input) (s : State) (g : Grammar ρ) :
    (g.plan table input s).Only fun p => Part p g ∨ ∃ rule, g = .ref rule ∧ p = table rule := by
  cases g with
  | pure | fail | getState | setState | lookup | change => exact trivial
  | eof =>
    rw [plan]
    split <;> exact trivial
  | literal | satisfy | takeWhile1 | pattern => exact Plan.only_read ..
  | restoring | map | traced => exact ⟨.inl rfl, fun _ _ => trivial, fun _ => trivial⟩
  | chain p next =>
    exact ⟨.inl (.inl rfl), fun v _ => ⟨.inl (.inr ⟨v, rfl⟩), fun _ _ => trivial, fun _ => trivial⟩,
      fun _ => trivial⟩
  | seqRight | seqLeft =>
    exact ⟨.inl (.inl rfl), fun _ _ => ⟨.inl (.inr rfl), fun _ _ => trivial, fun _ => trivial⟩,
      fun _ => trivial⟩
  | between =>
    exact ⟨.inl (.inl rfl), fun _ _ => ⟨.inl (.inr (.inl rfl)),
      fun _ _ => ⟨.inl (.inr (.inr rfl)), fun _ _ => trivial, fun _ => trivial⟩,
      fun _ => trivial⟩, fun _ => trivial⟩
  | seq ps => exact Plan.only_sequence (fun p hp => .inl hp) fun _ _ => trivial
  | or =>
    exact ⟨.inl (.inl rfl), fun _ _ => trivial, fun _ => Plan.only_recover
      (fun _ => ⟨.inl (.inr rfl), fun _ _ => trivial, fun _ => trivial⟩) trivial⟩
  | alt ps => exact Plan.only_alternatives fun p hp => .inl hp
  | attempt | lookahead | not =>
    refine ⟨.inl rfl, fun _ _ => trivial, fun _ => ?_⟩
    dsimp only
    split <;> exact trivial
  | maybe =>
    exact ⟨.inl rfl, fun _ _ => trivial, fun _ => Plan.only_recover (fun _ => trivial) trivial⟩
  | times min max p =>
    refine Plan.only_rounds (.inl rfl) fun vs t => ?_
    split <;> exact trivial
  | sepBy nonEmpty p sep =>
    refine ⟨.inl (.inl rfl), fun v t =>
      Plan.only_separatedRounds (.inl (.inl rfl)) (.inl (.inr rfl)) fun _ _ => trivial, fun _ => ?_⟩
    dsimp only
    split
    · exact trivial
    · exact Plan.only_recover (fun _ => trivial) trivial
  | ref rule => exact ⟨.inr ⟨rule, rfl, rfl⟩, fun _ _ => trivial, fun _ => trivial⟩

end Grammar

end Descent
