import Descent.Proofs.Lockstep

/-!
# Labels do not steer a parse

A grammar that does not show its state runs the same whatever labels the start state has. Of two
parses from states that differ in their labels alone, the labels at the end are the same, or what
was put behind those of the start is.
-/

namespace Descent

variable {ρ : Type}

/-- Two states that differ in their labels at most: some are the same, and in front of them stand
either none or `L` and `M`. -/
structure State.SameButLabels (L M : List String) (u w : State) : Prop where
  index : u.index = w.index
  context : u.context = w.context
  expected : ∃ X, u.expected = X ∧ w.expected = X ∨ u.expected = L ++ X ∧ w.expected = M ++ X

/-- Two replies with the same value whose states differ in their labels at most. -/
def Reply.SameButLabels (L M : List String) : Reply Value → Reply Value → Prop
  | success v u, success v' w => v = v' ∧ u.SameButLabels L M w
  | failure u, failure w => u.SameButLabels L M w
  | stalled i, stalled j => i = j
  | _, _ => False

theorem Abreast.sameButLabels {input : Input} {s t u w : State} (h : Abreast input 0 s t u w) :
    u.SameButLabels s.expected t.expected w := ⟨h.index, h.context, h.expected⟩

theorem Reply.Abreast.sameButLabels {input : Input} {s t : State} {r r' : Reply Value}
    (h : r.Abreast input 0 s t r') : r.SameButLabels s.expected t.expected r' := by
  cases h with
  | success v h => exact ⟨rfl, h.sameButLabels⟩
  | failure h => exact h.sameButLabels
  | stalled i => exact rfl

namespace Grammar

/-- Parses from two states that differ in their labels alone end alike: either both are not
answered, or they reply the same, with the same labels at the end, or with the same labels behind
those of the two start states. -/
theorem parserWith_sameButLabels {table : ρ → Grammar ρ} {input : Input} {g : Grammar ρ}
    {s t : State} (htable : ∀ rule, (table rule).Everywhere fun p => ¬ p.ShowsState)
    (hg : g.Everywhere fun p => ¬ p.ShowsState) (index : s.index = t.index)
    (context : s.context = t.context) (depth : Nat) :
    Option.Rel (Reply.SameButLabels s.expected t.expected)
      (g.parserWith table depth input s).reply? (g.parserWith table depth input t).reply? := by
  have level : ∀ p : Grammar ρ, ¬ p.ShowsState → p.Level 0 := fun p hp => ⟨hp, .inl rfl⟩
  have start : Abreast input 0 s t s t := .refl index context
  have replies := parserWith_abreast input.hasTail_self (fun rule => (htable rule).imp level) depth
    (hg.imp level) start
  revert replies
  generalize (g.parserWith table depth input s).reply? = a
  generalize (g.parserWith table depth input t).reply? = b
  rintro (h | _)
  · exact .some h.sameButLabels
  · exact .none

/-- Letters `a`, and then `b` or nothing. -/
def letters : Unit → Grammar Unit := fun _ =>
  .or (.seqRight (.literal "a") (.ref ())) (.maybe (.literal "b"))

theorem letters_everywhere {c : Grammar Unit → Prop} (or : ∀ p q, c (.or p q))
    (seqRight : ∀ p q, c (.seqRight p q)) (maybe : ∀ p, c (.maybe p))
    (literal : ∀ a, c (.literal a)) (ref : c (.ref ())) (rule : Unit) :
    (letters rule).Everywhere c := by
  have leaf : ∀ a, (Grammar.literal a : Grammar Unit).Everywhere c := fun a =>
    .intro (literal a) nofun
  refine .intro (or _ _) fun p hp => ?_
  rcases hp with rfl | rfl
  · refine .intro (seqRight _ _) fun p hp => ?_
    rcases hp with rfl | rfl
    · exact leaf "a"
    · exact .intro ref nofun
  · refine .intro (maybe _) fun p hp => ?_
    obtain rfl : p = _ := hp
    exact leaf "b"

/-- Where nothing matches, both parses put the labels `a` and `b` behind those they started with. -/
theorem parserWith_sameButLabels_letters :
    ((Grammar.ref ()).parserWith letters 2 (.ofChars ['c']) ⟨0, ["x"], .empty⟩).reply? =
        some (.success (.option none) ⟨0, ["x", "a", "b"], .empty⟩) ∧
      ((Grammar.ref ()).parserWith letters 2 (.ofChars ['c']) ⟨0, ["y", "z"], .empty⟩).reply? =
        some (.success (.option none) ⟨0, ["y", "z", "a", "b"], .empty⟩) ∧
      Reply.SameButLabels ["x"] ["y", "z"] (.success (.option none) ⟨0, ["x", "a", "b"], .empty⟩)
        (.success (.option none) ⟨0, ["y", "z", "a", "b"], .empty⟩) := by
  have htable := letters_everywhere (c := fun p => ¬ p.ShowsState) nofun nofun nofun nofun nofun
  have hg : (Grammar.ref () : Grammar Unit).Everywhere fun p => ¬ p.ShowsState :=
    .intro nofun nofun
  have replies : Option.Rel (Reply.SameButLabels ["x"] ["y", "z"])
      ((Grammar.ref ()).parserWith letters 2 (.ofChars ['c']) ⟨0, ["x"], .empty⟩).reply?
      ((Grammar.ref ()).parserWith letters 2 (.ofChars ['c']) ⟨0, ["y", "z"], .empty⟩).reply? :=
    parserWith_sameButLabels (s := ⟨0, ["x"], .empty⟩) (t := ⟨0, ["y", "z"], .empty⟩) htable hg
      rfl rfl 2
  refine ⟨rfl, rfl, ?_⟩
  cases replies with
  | some h => exact h

end Grammar

end Descent
