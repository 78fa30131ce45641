import Descent.Proofs.Adequacy

/-!
# What a failed part has put into the context

Choices, optional parts, negations, separated lists and repetitions go on after a part of them that
failed softly. `Grammar.steps?` lists the runs of the parts, for any parsers that the names stand
for; a part may change the context as it likes before it fails.

In all of them the parts run in the context that the successful parts so far have left
(`Threads`), and so does the grammar end, with two exceptions (`success_resumes`). A repetition ends
with the failure that ends it, context and all (`EndsWithRounds`). And in a separated list it is the
whole round of a separator and an item that is undone: where the item fails, the list ends where the
round started, and what the separator did is gone too (`EndsWithList`). In every case the runs of
the parts leave no choice for the context at the end (`Resumes.context_eq`).
-/

namespace Descent

variable {ρ : Type}

/-! ## The runs of the parts -/

/-- What a plan replies depends on no more than the replies of what it invokes. -/
theorem Plan.map_fst_follow {ι κ : Type} (emit : Occurrence ρ → List ι)
    (emit' : Occurrence ρ → List κ)
    {call : Grammar ρ → State → Option (Reply Value × List ι)}
    {call' : Grammar ρ → State → Option (Reply Value × List κ)}
    (hcall : ∀ g s, (call g s).map Prod.fst = (call' g s).map Prod.fst) (p : Plan ρ) :
    (p.follow emit call).map Prod.fst = (p.follow emit' call').map Prod.fst := by
  have fst_prepend : ∀ {ι : Type} (l : List ι) (o : Option (Reply Value × List ι)),
      (prepend l o).map Prod.fst = o.map Prod.fst := fun l o => by cases o <;> rfl
  induction p with
  | succeed | fail => rfl
  | invoke g s onSuccess onFailure ihs ihf =>
    have answers := hcall g s
    simp only [follow]
    generalize call g s = x, call' g s = y at answers ⊢
    rcases x with _ | ⟨r, l⟩ <;> rcases y with _ | ⟨r', l'⟩
    · rfl
    · cases answers
    · cases answers
    · obtain rfl : r = r' := Option.some.inj answers
      cases r with
      | success v t => rw [fst_prepend, fst_prepend, ihs]
      | failure t => rw [fst_prepend, fst_prepend, ihf]
      | stalled i => rfl
  | round start stop next ih =>
    simp only [follow]
    split
    · rw [fst_prepend, fst_prepend, ih]
    · rfl
  | note e next ih => rw [follow, follow, fst_prepend, fst_prepend, ih]

namespace Grammar

variable (rules : ρ → Parser Value) (input : Input)

/-- The run of a part as a single step. -/
def step? (g : Grammar ρ) (s : State) : Option (Reply Value × List (Occurrence ρ)) :=
  (g.parser rules input s).reply?.map fun r => (r, [.returned g s r])

/-- The reply of a grammar and the runs of its parts until then, where `rules` are the parsers of
the names. -/
def steps? (g : Grammar ρ) (s : State) : Option (Reply Value × List (Occurrence ρ)) :=
  (g.plan ref input s).follow (fun x => [x]) (step? rules input)

variable {rules input}

theorem map_fst_steps? {g : Grammar ρ} (hg : ∀ rule, g ≠ ref rule) (s : State) :
    (g.steps? rules input s).map Prod.fst = (g.parser rules input s).reply? := by
  have step : ∀ (p : Grammar ρ) u,
      (step? rules input p u).map Prod.fst = (answer rules input p u).map Prod.fst := by
    intro p u
    simp [step?, answer, Run.outcome?, Function.comp_def]
  have whole : (answer rules input g s).map Prod.fst = _ :=
    congrArg (Option.map Prod.fst) (answer_eq_invocation ref hg s)
  rw [steps?, Plan.map_fst_follow _ Occurrence.entries step]
  simpa [answer, Run.outcome?, invocation, Function.comp_def] using whole.symm

end Grammar

/-! ## Contexts that parts hand on -/

namespace Occurrence

/-- A part that runs does so from the context. -/
def StartsIn (c : Fields Value) : Occurrence ρ → Prop
  | returned _ s _ => s.context = c
  | _ => True

/-- The context after the occurrence: the one that a part has left if it succeeded, else the one
from before. -/
def contextAfter (c : Fields Value) : Occurrence ρ → Fields Value
  | returned _ _ (.success _ t) => t.context
  | _ => c

/-- No part fails. -/
def Succeeds : Occurrence ρ → Prop
  | returned _ _ (.failure _) => False
  | _ => True

end Occurrence

/-- From the first context to the last, each part runs in the context that the successful parts
before it have left. -/
def Threads : Fields Value → List (Occurrence ρ) → Fields Value → Prop
  | c, [], d => c = d
  | c, x :: l, d => x.StartsIn c ∧ Threads (x.contextAfter c) l d

theorem Threads.eq {c d d' : Fields Value} {l : List (Occurrence ρ)} (h : Threads c l d)
    (h' : Threads c l d') : d = d' := by
  induction l generalizing c with
  | nil => exact h.symm.trans h'
  | cons x l ih => exact ih h.2 h'.2

theorem Threads.concat {c d : Fields Value} {l : List (Occurrence ρ)} {x : Occurrence ρ}
    (h : Threads c l d) (hx : x.StartsIn d) : Threads c (l ++ [x]) (x.contextAfter d) := by
  induction l generalizing c with
  | nil =>
    obtain rfl : c = d := h
    exact ⟨hx, rfl⟩
  | cons y l ih => exact ⟨h.1, ih h.2⟩

/-! ## Plans that succeed -/

namespace Plan

/-- If the plan succeeds, `Q` holds of all that has occurred, behind `l`, and of the last state. -/
def Succeeds (Q : List (Occurrence ρ) → State → Prop) : List (Occurrence ρ) → Plan ρ → Prop
  | l, .succeed _ s => Q l s
  | _, .fail _ => True
  | l, .invoke g s onSuccess onFailure =>
    (∀ v t, Succeeds Q (l ++ [.returned g s (.success v t)]) (onSuccess v t)) ∧
      ∀ t, Succeeds Q (l ++ [.returned g s (.failure t)]) (onFailure t)
  | l, .round start stop next => Succeeds Q (l ++ [.round start stop]) next
  | l, .note e next => Succeeds Q (l ++ [.noted e]) next

variable {Q : List (Occurrence ρ) → State → Prop} {l h : List (Occurrence ρ)}

theorem Succeeds.follow {rules : ρ → Parser Value} {input : Input} {p : Plan ρ}
    (hp : p.Succeeds Q l) {v : Value} {t : State}
    (hf : p.follow (fun x => [x]) (Grammar.step? rules input) = some (.success v t, h)) :
    Q (l ++ h) t := by
  have returned : ∀ {g : Grammar ρ} {s r k}, Grammar.step? rules input g s = some (r, k) →
      k = [.returned g s r] := by
    intro g s r k hk
    obtain ⟨r', -, e⟩ := Option.map_eq_some_iff.1 hk
    cases e
    rfl
  induction p generalizing l h with
  | succeed w s =>
    cases hf
    rw [List.append_nil]
    exact hp
  | fail s => cases hf
  | invoke g s onSuccess onFailure ihs ihf =>
    rcases follow_invoke_eq_some.1 hf with
      ⟨w, u, m, k, hc, hk, rfl⟩ | ⟨u, m, k, hc, hk, rfl⟩ | ⟨i, -, e⟩
    · rw [returned hc, ← List.append_assoc]
      exact ihs w u (hp.1 w u) hk
    · rw [returned hc, ← List.append_assoc]
      exact ihf u (hp.2 u) hk
    · cases e
  | round start stop next ih =>
    rcases follow_round_eq_some.1 hf with ⟨-, k, hk, rfl⟩ | ⟨-, e, -⟩
    · rw [← List.append_assoc]
      exact ih hp hk
    · cases e
  | note e next ih =>
    obtain ⟨k, hk, rfl⟩ := prepend_eq_some.1 hf
    rw [← List.append_assoc]
    exact ih hp hk

/-- A choice succeeds in the context of the alternative that does, run where the choice started. -/
theorem succeeds_alternatives {c : Fields Value} {start : State} {i : Nat} {ps : List (Grammar ρ)}
    {s : State} (hl : Threads c l s.context) (hs : s.context = start.context) :
    (alternatives start i ps s).Succeeds (fun h t => Threads c h t.context) l := by
  induction ps generalizing i s l with
  | nil => exact trivial
  | cons p ps ih =>
    refine ⟨fun v t => hl.concat rfl, fun t => ?_⟩
    dsimp only [recover]
    split
    · have failed : Threads c (l ++ [.returned p s (.failure t)]) s.context := hl.concat rfl
      exact ih (hs ▸ failed.concat trivial) rfl
    · exact trivial

end Plan

/-! ## Grammars that recover -/

/-- The rounds of a repetition all succeed, or the last fails where it started, and the repetition
ends with the state of that failure. -/
def EndsWithRounds (c : Fields Value) (p : Grammar ρ) (h : List (Occurrence ρ)) (t : State) :
    Prop :=
  ∃ l, (∀ x ∈ l, x.Succeeds) ∧ (h = l ∧ Threads c l t.context ∨
    ∃ u, h = l ++ [.returned p u (.failure t)] ∧ t.index = u.index ∧ Threads c l u.context)

/-- The first item of a list and whole rounds of a separator and an item behind it. All of them
succeed, each in the state that the one before has left. -/
inductive WholeRounds (c : Fields Value) (p sep : Grammar ρ) : List (Occurrence ρ) → State → Prop
  | item {s t : State} {v : Value} (start : s.context = c) :
    WholeRounds c p sep [.returned p s (.success v t)] t
  | round {l : List (Occurrence ρ)} {s t u : State} {v w : Value}
    (before : WholeRounds c p sep l s) :
    WholeRounds c p sep (l ++ [.returned sep s (.success v t), .returned p t (.success w u),
      .round s.index u.index]) u

/-- How a list ends: without an item, at the limit of rounds, or before a round in which the
separator or the item fails where the round started. That round is undone as a whole: where the item
fails, the list ends in the state from before the separator, but for the labels. -/
inductive EndsWithList (c : Fields Value) (p sep : Grammar ρ) :
    List (Occurrence ρ) → State → Prop
  | empty {s f : State} (start : s.context = c) (soft : f.index = s.index) :
    EndsWithList c p sep [.returned p s (.failure f)] (s.withExpected f.expected)
  | limit {l : List (Occurrence ρ)} {s : State} (rounds : WholeRounds c p sep l s) :
    EndsWithList c p sep l s
  | separator {l : List (Occurrence ρ)} {s f : State} (rounds : WholeRounds c p sep l s)
    (soft : f.index = s.index) :
    EndsWithList c p sep (l ++ [.returned sep s (.failure f)]) (s.withExpected f.expected)
  | item {l : List (Occurrence ρ)} {s t f : State} {v : Value} (rounds : WholeRounds c p sep l s)
    (soft : f.index = s.index) :
    EndsWithList c p sep (l ++ [.returned sep s (.success v t), .returned p t (.failure f)])
      (s.withExpected f.expected)

section

variable {c : Fields Value} {p sep : Grammar ρ} {l : List (Occurrence ρ)} {s s' t t' : State}

theorem EndsWithRounds.context_eq (h : EndsWithRounds c p l t) (h' : EndsWithRounds c p l t') :
    t.context = t'.context := by
  obtain ⟨k, ok, ⟨rfl, threads⟩ | ⟨u, rfl, -, -⟩⟩ := h
  · obtain ⟨k', ok', ⟨rfl, threads'⟩ | ⟨u', rfl, -, -⟩⟩ := h'
    · exact threads.eq threads'
    · exact absurd (ok (.returned p u' (.failure t')) (by simp)) id
  · obtain ⟨k', ok', ⟨rfl, -⟩ | ⟨u', e, -, -⟩⟩ := h'
    · exact absurd (ok' (.returned p u (.failure t)) (by simp)) id
    · cases List.append_inj_right' e rfl
      rfl

theorem WholeRounds.succeeds (h : WholeRounds c p sep l s) : ∀ x ∈ l, x.Succeeds := by
  induction h with
  | item => simp [Occurrence.Succeeds]
  | round _ ih => simpa [or_imp, forall_and, Occurrence.Succeeds] using ih

theorem WholeRounds.length_mod (h : WholeRounds c p sep l s) : l.length % 3 = 1 := by
  induction h with
  | item => rfl
  | round _ ih => simpa using ih

theorem WholeRounds.eq (h : WholeRounds c p sep l s) (h' : WholeRounds c p sep l s') :
    s = s' := by
  generalize e : l = k at h'
  cases h <;> cases h'
  case item.item =>
    cases e
    rfl
  case round.round =>
    cases List.append_inj_right' e rfl
    rfl
  -- rounds are more than a first item
  all_goals
    have count := congrArg List.length e
    simp at count

/-- The number of runs tells how a list has ended, and the last of them where. -/
theorem EndsWithList.context_eq (h : EndsWithList c p sep l t) (h' : EndsWithList c p sep l t') :
    t.context = t'.context := by
  generalize e : l = k at h'
  have count := congrArg List.length e
  cases h <;> cases h'
  case empty.empty =>
    cases e
    rfl
  case limit.limit rounds rounds' => rw [rounds.eq (e ▸ rounds')]
  case separator.separator | item.item =>
    cases List.append_inj_right' e rfl
    rfl
  case empty.limit | limit.empty =>
    have rounds : WholeRounds c p sep _ _ := ‹_›
    exact absurd (rounds.succeeds _ (e ▸ List.mem_singleton_self _)) id
  -- in all other cases the numbers of runs differ
  all_goals grind [WholeRounds.length_mod]

end

namespace Plan

variable {Q : List (Occurrence ρ) → State → Prop} {l : List (Occurrence ρ)} {c : Fields Value}
  {p sep : Grammar ρ} {n : Nat} {s : State} {done : List Value → State → Plan ρ}

theorem succeeds_rounds (hl : Threads c l s.context) (ok : ∀ x ∈ l, x.Succeeds)
    (hd : ∀ vs t k, EndsWithRounds c p k t → (done vs t).Succeeds Q k) :
    (rounds p n s done).Succeeds Q l := by
  induction n generalizing s l done with
  | zero => exact hd _ _ _ ⟨l, ok, .inl ⟨rfl, hl⟩⟩
  | succ n ih =>
    refine ⟨fun v t => ?_, fun t => ?_⟩
    · have item : Threads c (l ++ [.returned p s (.success v t)]) t.context := hl.concat rfl
      refine ih (item.concat trivial) ?_ fun vs => hd (v :: vs)
      simpa [or_imp, forall_and, Occurrence.Succeeds] using ok
    · dsimp only
      split
      · rename_i stayed
        exact hd _ _ _ ⟨l, ok, .inr ⟨s, rfl, stayed, hl⟩⟩
      · exact trivial

theorem succeeds_separatedRounds (hl : WholeRounds c p sep l s)
    (hd : ∀ vs t k, EndsWithList c p sep k t → (done vs t).Succeeds Q k) :
    (separatedRounds p sep n s done).Succeeds Q l := by
  induction n generalizing s l done with
  | zero => exact hd _ _ _ (.limit hl)
  | succ n ih =>
    refine ⟨fun v t => ⟨fun w u => ?_, fun f => ?_⟩, fun f => ?_⟩
    · have round := WholeRounds.round (t := t) (u := u) (v := v) (w := w) hl
      refine ih ?_ fun vs => hd (w :: vs)
      simpa using round
    · -- the item is measured from the start of the round, and so is what is undone
      dsimp only [recover]
      split
      · rename_i stayed
        rw [List.append_assoc]
        exact hd _ _ _ (.item hl stayed)
      · exact trivial
    · dsimp only [recover]
      split
      · rename_i stayed
        exact hd _ _ _ (.separator hl stayed)
      · exact trivial

end Plan

namespace Grammar

/-- The grammar may succeed after a part of it failed. -/
def Recovers : Grammar ρ → Prop
  | or .. | alt _ | maybe _ | not _ | times .. | sepBy .. => True
  | _ => False

/-- From which context and in which state a grammar that recovers succeeds, after the runs of its
parts. -/
def Resumes (c : Fields Value) (h : List (Occurrence ρ)) (t : State) : Grammar ρ → Prop
  | times _ _ p => EndsWithRounds c p h t
  | sepBy _ p sep => EndsWithList c p sep h t
  | _ => Threads c h t.context

variable {input : Input} {g : Grammar ρ} {s : State}

theorem Resumes.context_eq {c : Fields Value} {h : List (Occurrence ρ)} {t t' : State}
    (ht : g.Resumes c h t) (ht' : g.Resumes c h t') : t.context = t'.context := by
  cases g with
  | times => exact EndsWithRounds.context_eq ht ht'
  | sepBy => exact EndsWithList.context_eq ht ht'
  | _ => exact Threads.eq ht ht'

theorem succeeds_plan (hg : g.Recovers) (table : ρ → Grammar ρ) :
    (g.plan table input s).Succeeds (fun h t => g.Resumes s.context h t) [] := by
  have hs : Threads s.context ([] : List (Occurrence ρ)) s.context := rfl
  cases g with
  | or p q =>
    refine ⟨fun v t => hs.concat rfl, fun t => ?_⟩
    dsimp only [Plan.recover]
    split
    · have failed : Threads s.context [.returned p s (.failure t)] s.context := hs.concat rfl
      have noted := failed.concat (x := .noted (.firstFailedSoftly s.index)) trivial
      exact ⟨fun v u => noted.concat rfl, fun _ => trivial⟩
    · exact trivial
  | alt => exact Plan.succeeds_alternatives hs rfl
  | maybe p =>
    refine ⟨fun v t => hs.concat rfl, fun t => ?_⟩
    dsimp only [Plan.recover]
    split
    · exact hs.concat (x := .returned p s (.failure t)) rfl
    · exact trivial
  | not p =>
    refine ⟨fun _ _ => trivial, fun t => ?_⟩
    dsimp only
    split
    · exact hs.concat (x := .returned p s (.failure t)) rfl
    · exact trivial
  | times min max p =>
    refine Plan.succeeds_rounds hs nofun fun vs t k hk => ?_
    split
    · exact trivial
    · exact hk
  | sepBy nonEmpty p sep =>
    refine ⟨fun v t => ?_, fun t => ?_⟩
    · exact Plan.succeeds_separatedRounds (.item rfl) fun vs u k hk => hk
    · dsimp only [Plan.recover]
      split
      · exact trivial
      · split
        · rename_i stayed
          exact EndsWithList.empty rfl stayed
        · exact trivial
  | _ => exact hg.elim

/-- A grammar that recovers from soft failures succeeds in the context that those parts of it have
left that succeeded, whatever parsers its parts are, and runs each part in the context that they
have left so far. Two of them differ: a repetition ends with the state of the failure that ends it,
and a list undoes a last round as a whole. No other context goes with the same runs of the parts. -/
theorem success_resumes {rules : ρ → Parser Value} (hg : g.Recovers) {v : Value} {t : State}
    (parse : (g.parser rules input s).reply? = some (.success v t)) :
    ∃ h, g.steps? rules input s = some (.success v t, h) ∧ g.Resumes s.context h t ∧
      ∀ t', g.Resumes s.context h t' → t'.context = t.context := by
  have named : ∀ rule, g ≠ ref rule := fun rule e => by
    subst e
    exact hg
  have whole := (map_fst_steps? named s).trans parse
  obtain ⟨⟨r, h⟩, hh, rfl⟩ := Option.map_eq_some_iff.1 whole
  have resumes : g.Resumes s.context h t := (succeeds_plan hg ref).follow hh
  exact ⟨h, hh, resumes, fun t' ht' => Resumes.context_eq ht' resumes⟩

/-- Two alternatives put something into the context and fail. The third finds nothing there. -/
theorem success_resumes_alternatives :
    let put (n : Int) : Grammar Empty := .change (.put "k" (.int n))
    let g : Grammar Empty := .alt [.seqRight (put 1) (.literal "x"), .seqRight (put 2) .fail,
      .lookup "k"]
    g.Recovers ∧
      (g.parser Empty.elim (.ofChars []) .start).reply? =
        some (.success (.option none) ⟨0, ["x"], .empty⟩) ∧
      ∃ h, g.steps? Empty.elim (.ofChars []) .start =
          some (.success (.option none) ⟨0, ["x"], .empty⟩, h) ∧
        Threads .empty h .empty := by
  intro put g
  have parse : (g.parser Empty.elim (.ofChars []) .start).reply? =
      some (.success (.option none) ⟨0, ["x"], .empty⟩) := rfl
  obtain ⟨h, steps, resumes, -⟩ := success_resumes (g := g) trivial parse
  exact ⟨trivial, parse, h, steps, resumes⟩

/-- A repetition ends in the context that its last part has failed in, and a list forgets what its
last separator has put into the context when it succeeded. -/
theorem success_not_threads :
    let context : Fields Value := .ofList [("k", .int 1)]
    let put : Grammar Empty := .change (.put "k" (.int 1))
    let g : Grammar Empty := .many (.seqRight put (.literal "x"))
    let g' : Grammar Empty := .sepBy false (.literal "a") put
    (g.Recovers ∧
      (g.parser Empty.elim (.ofChars []) .start).reply? =
        some (.success (.arr []) ⟨0, ["x"], context⟩) ∧
      ∃ h, g.steps? Empty.elim (.ofChars []) .start =
          some (.success (.arr []) ⟨0, ["x"], context⟩, h) ∧
        ¬ Threads .empty h context) ∧
    (g'.Recovers ∧
      (g'.parser Empty.elim (.ofChars ['a', 'b']) .start).reply? =
        some (.success (.arr [.str "a"]) ⟨1, ["a"], .empty⟩) ∧
      ∃ h, g'.steps? Empty.elim (.ofChars ['a', 'b']) .start =
          some (.success (.arr [.str "a"]) ⟨1, ["a"], .empty⟩, h) ∧
        ¬ Threads .empty h .empty) := by
  intro context put g g'
  refine ⟨⟨trivial, rfl, _, rfl, ?_⟩, trivial, rfl, _, rfl, ?_⟩
  · rintro ⟨-, same⟩
    have same : .empty = context := same
    exact absurd same (by decide)
  · rintro ⟨-, -, -, same⟩
    have same : context = .empty := same
    exact absurd same (by decide)

end Grammar

end Descent
