import Descent.Proofs.Promise

/-!
# Grammars that give nothing back

A grammar without negation, without a way to take failures back and without a way to set the index
goes on exactly where its parts end: each part starts at the index and with the labels that the part
before it left, whether that succeeded or failed (`Plan.Continues`). Choices and separated lists
seem to go back, but only when the index is still where they started, and then they take the labels
over.
-/

namespace Descent

variable {ρ : Type}

/-- The states have the same index and the same labels. -/
structure State.SameSpot (s t : State) : Prop where
  index : s.index = t.index
  expected : s.expected = t.expected

theorem State.SameSpot.refl (s : State) : s.SameSpot s := ⟨rfl, rfl⟩

namespace Grammar

/-- The grammar may end before an index that a part of it has reached, or with labels from there. -/
def GoesBack : Grammar ρ → Prop
  | attempt .. | lookahead _ | not _ | restoring _ | setState _ | change (.seek _) => True
  | _ => False

/-- How the grammar reads the input, if it is one that does. -/
def reader? : Grammar ρ → Option Reader
  | literal text => some (.literal text)
  | satisfy accepts label => some (.satisfy accepts label)
  | takeWhile1 accepts label => some (.takeWhile1 accepts label)
  | pattern program label => some (.pattern program label)
  | _ => none

theorem plan_of_reader? {g : Grammar ρ} {reader : Reader} (h : g.reader? = some reader)
    (table : ρ → Grammar ρ) (input : Input) (s : State) :
    g.plan table input s = reader.plan input s := by
  cases g with
  | literal | satisfy | takeWhile1 | pattern =>
    cases h
    rfl
  | _ => cases h

end Grammar

namespace Plan

/-- The plan goes on at the spot of the state, and at the spot that an invocation leads to. -/
def Continues (s : State) : Plan ρ → Prop
  | .succeed _ t | .fail t => t.SameSpot s
  | .invoke _ t onSuccess onFailure => t.SameSpot s ∧
    (∀ v u, (onSuccess v u).Continues u) ∧ ∀ u, (onFailure u).Continues u
  | .round _ stop next => stop = s.index ∧ next.Continues s
  | .note _ next => next.Continues s

variable {s : State}

theorem continues_run {g : Grammar ρ} {onSuccess : Value → State → Plan ρ}
    (hsucceed : ∀ v u, (onSuccess v u).Continues u) : (invoke g s onSuccess .fail).Continues s :=
  ⟨.refl s, hsucceed, .refl⟩

/-- A choice goes on at the spot of the failure that it recovers from. -/
theorem continues_recover {start failed : State} {next : State → Plan ρ} {committed : Plan ρ}
    (hn : ∀ t, t.SameSpot failed → (next t).Continues failed) (hc : committed.Continues failed) :
    (recover start failed next committed).Continues failed := by
  unfold recover
  split
  · rename_i stayed
    exact hn _ ⟨stayed.symm, rfl⟩
  · exact hc

theorem continues_sequence {ps : List (Grammar ρ)} {done : List Value → State → Plan ρ}
    (hd : ∀ vs t, (done vs t).Continues t) : (sequence ps s done).Continues s := by
  induction ps generalizing s done with
  | nil => exact hd _ _
  | cons p ps ih => exact continues_run fun v u => ih fun vs => hd (v :: vs)

theorem continues_alternatives {start t : State} {i : Nat} {ps : List (Grammar ρ)}
    (hs : t.SameSpot s) : (alternatives start i ps t).Continues s := by
  induction ps generalizing i s t with
  | nil => exact hs
  | cons p ps ih =>
    exact ⟨hs, fun _ u => .refl u, fun u => continues_recover (fun _ ht => ih ht) (.refl u)⟩

theorem continues_rounds {p : Grammar ρ} {n : Nat} {done : List Value → State → Plan ρ}
    (hd : ∀ vs t, (done vs t).Continues t) : (rounds p n s done).Continues s := by
  induction n generalizing s done with
  | zero => exact hd _ _
  | succ n ih =>
    refine ⟨.refl s, fun v u => ⟨rfl, ih fun vs => hd (v :: vs)⟩, fun u => ?_⟩
    dsimp only
    split
    · exact hd _ _
    · exact .refl u

theorem continues_separatedRounds {p sep : Grammar ρ} {n : Nat}
    {done : List Value → State → Plan ρ} (hd : ∀ vs t u, t.SameSpot u → (done vs t).Continues u) :
    (separatedRounds p sep n s done).Continues s := by
  induction n generalizing s done with
  | zero => exact hd _ _ _ (.refl s)
  | succ n ih =>
    have stop : ∀ u, (recover s u (done []) (.fail u)).Continues u :=
      fun u => continues_recover (fun t ht => hd _ _ _ ht) (.refl u)
    exact ⟨.refl s, fun _ t => ⟨.refl t, fun v u => ⟨rfl, ih fun vs => hd (v :: vs)⟩, stop⟩, stop⟩

end Plan

namespace Grammar

/-- The plan of a grammar that gives nothing back goes on where its parts end, unless it is one that
looks at the input itself. -/
theorem continues_plan {table : ρ → Grammar ρ} {input : Input} {g : Grammar ρ} {s : State}
    (forward : ¬ g.GoesBack) (composed : g.reader? = none) (noEnd : g ≠ eof) :
    (g.plan table input s).Continues s := by
  cases g with
  | pure | fail | getState | lookup => exact .refl s
  | eof => exact absurd rfl noEnd
  | literal | satisfy | takeWhile1 | pattern => cases composed
  | change c =>
    cases c with
    | put | drop => exact ⟨rfl, rfl⟩
    | seek => exact absurd trivial forward
  | setState | restoring | attempt | lookahead | not => exact absurd trivial forward
  | map | traced | ref => exact Plan.continues_run fun _ u => .refl u
  | chain | seqRight | seqLeft =>
    exact Plan.continues_run fun _ _ => Plan.continues_run fun _ u => .refl u
  | between =>
    exact Plan.continues_run fun _ _ => Plan.continues_run fun _ _ =>
      Plan.continues_run fun _ u => .refl u
  | seq => exact Plan.continues_sequence fun _ t => .refl t
  | or p q =>
    refine ⟨.refl s, fun _ u => .refl u, fun u => Plan.continues_recover (fun t ht => ?_) (.refl u)⟩
    exact ⟨ht, fun _ u => .refl u, .refl⟩
  | alt => exact Plan.continues_alternatives (.refl s)
  | maybe =>
    refine ⟨.refl s, fun _ u => .refl u, fun u => ?_⟩
    exact Plan.continues_recover (fun _ ht => ht) (.refl u)
  | times =>
    refine Plan.continues_rounds fun vs t => ?_
    split <;> exact .refl t
  | sepBy nonEmpty p sep =>
    refine ⟨.refl s, fun v u => Plan.continues_separatedRounds fun _ _ _ ht => ht, fun u => ?_⟩
    cases nonEmpty with
    | true => exact .refl u
    | false => exact Plan.continues_recover (fun _ ht => ht) (.refl u)

end Grammar

end Descent
