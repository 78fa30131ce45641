import Descent.Proofs.Congruence
import Descent.Proofs.Promise

/-!
# A core language for grammars

Most combinators can be written with three: `chain` for one part after the other, `or` for choices,
and `pure` for values. `Grammar.desugar` rewrites a grammar so, at every depth. The rewritten
grammar replies the same, over rules that are rewritten too (`parserWith_desugar`); only the trace
tells them apart, since a choice between many alternatives notes other events than nested choices
between two.
-/

namespace Descent

variable {ρ : Type}

namespace Grammar

/-! ## The rewriting -/

/-- Runs the grammars in order, and yields the array of the given values and theirs. -/
def collect : List Value → List (Grammar ρ) → Grammar ρ
  | vs, [] => .pure (.arr vs)
  | vs, p :: ps => .chain p fun v => collect (vs ++ [v]) ps

/-- Nested choices between the grammars, and a failure behind the last of them. -/
def firstOf : List (Grammar ρ) → Grammar ρ
  | [] => .fail
  | p :: ps => .or p (firstOf ps)

mutual

/-- The grammar written with `chain`, `or` and `pure` wherever these can do. -/
def desugar : Grammar ρ → Grammar ρ
  | .map f p => .chain p.desugar fun v => .pure (f v)
  | seqRight p q => .chain p.desugar fun _ => q.desugar
  | seqLeft p q => .chain p.desugar fun v => .chain q.desugar fun _ => .pure v
  | between left p right =>
    .chain left.desugar fun _ => .chain p.desugar fun v => .chain right.desugar fun _ => .pure v
  | .seq ps => collect [] (desugarAll ps)
  | alt ps => firstOf (desugarAll ps)
  | maybe p => .or (.chain p.desugar fun v => .pure (.option (some v))) (.pure (.option none))
  | chain p next => .chain p.desugar fun v => (next v).desugar
  | or p q => .or p.desugar q.desugar
  | restoring p => .restoring p.desugar
  | attempt label? p => .attempt label? p.desugar
  | lookahead p => .lookahead p.desugar
  | not p => .not p.desugar
  | times min max p => .times min max p.desugar
  | sepBy nonEmpty p sep => .sepBy nonEmpty p.desugar sep.desugar
  | traced name p => .traced name p.desugar
  | .pure v => .pure v
  | fail => .fail
  | eof => .eof
  | literal text => .literal text
  | satisfy accepts label => .satisfy accepts label
  | takeWhile1 accepts label => .takeWhile1 accepts label
  | pattern program label => .pattern program label
  | getState => .getState
  | setState new => .setState new
  | lookup key => .lookup key
  | change c => .change c
  | ref rule => .ref rule

def desugarAll : List (Grammar ρ) → List (Grammar ρ)
  | [] => []
  | p :: ps => p.desugar :: desugarAll ps

end

theorem desugar_fallback (p : Grammar ρ) (v : Value) :
    (p.fallback v).desugar = .or p.desugar (.pure v) := rfl

theorem desugar_notFollowedBy (p q : Grammar ρ) : (p.notFollowedBy q).desugar =
    .chain p.desugar fun v => .chain (.not q.desugar) fun _ => .pure v := rfl

/-! ## What is left -/

/-- The grammar is of a kind that is left when grammars are rewritten. -/
def IsCore : Grammar ρ → Prop
  | .map .. | seqRight .. | seqLeft .. | between .. | .seq _ | alt _ | maybe _ => False
  | _ => True

theorem pure_everywhere_isCore (v : Value) : (.pure v : Grammar ρ).Everywhere IsCore :=
  .intro trivial nofun

theorem chain_everywhere_isCore {p : Grammar ρ} {next : Value → Grammar ρ}
    (hp : p.Everywhere IsCore) (hn : ∀ v, (next v).Everywhere IsCore) :
    (chain p next).Everywhere IsCore := by
  refine .intro trivial fun q hq => ?_
  rcases hq with rfl | ⟨v, rfl⟩
  · exact hp
  · exact hn v

theorem or_everywhere_isCore {p q : Grammar ρ} (hp : p.Everywhere IsCore)
    (hq : q.Everywhere IsCore) : (or p q).Everywhere IsCore := by
  refine .intro trivial fun r hr => ?_
  rcases hr with rfl | rfl
  · exact hp
  · exact hq

theorem collect_everywhere_isCore {ps : List (Grammar ρ)}
    (hp : ∀ p ∈ ps, p.desugar.Everywhere IsCore) (vs : List Value) :
    (collect vs (desugarAll ps)).Everywhere IsCore := by
  induction ps generalizing vs with
  | nil => exact pure_everywhere_isCore _
  | cons p ps ih =>
    refine chain_everywhere_isCore (hp p (by simp)) fun v => ?_
    exact ih (fun q hq => hp q (by simp [hq])) (vs ++ [v])

theorem firstOf_everywhere_isCore {ps : List (Grammar ρ)}
    (hp : ∀ p ∈ ps, p.desugar.Everywhere IsCore) :
    (firstOf (desugarAll ps)).Everywhere IsCore := by
  induction ps with
  | nil => exact .intro trivial nofun
  | cons p ps ih =>
    exact or_everywhere_isCore (hp p (by simp)) (ih fun q hq => hp q (by simp [hq]))

/-- A rewritten grammar has no part of a kind that can be written with the others. -/
theorem desugar_everywhere_isCore (g : Grammar ρ) : g.desugar.Everywhere IsCore := by
  induction g using wellFounded_part.induction with
  | _ g ih =>
    cases g with
    | pure | fail | eof | literal | satisfy | takeWhile1 | pattern | getState | setState | lookup
    | change | ref => exact .intro trivial nofun
    | restoring p | attempt _ p | lookahead p | not p | times _ _ p | traced _ p =>
      refine .intro trivial fun q hq => ?_
      obtain rfl : q = p.desugar := hq
      exact ih p rfl
    | sepBy _ p q =>
      refine .intro trivial fun r hr => ?_
      rcases hr with rfl | rfl
      · exact ih p (.inl rfl)
      · exact ih q (.inr rfl)
    | map f p =>
      exact chain_everywhere_isCore (ih p rfl) fun v => pure_everywhere_isCore _
    | chain p next =>
      exact chain_everywhere_isCore (ih p (.inl rfl)) fun v => ih (next v) (.inr ⟨v, rfl⟩)
    | seqRight p q => exact chain_everywhere_isCore (ih p (.inl rfl)) fun _ => ih q (.inr rfl)
    | seqLeft p q =>
      refine chain_everywhere_isCore (ih p (.inl rfl)) fun v => ?_
      exact chain_everywhere_isCore (ih q (.inr rfl)) fun _ => pure_everywhere_isCore v
    | between left p right =>
      refine chain_everywhere_isCore (ih left (.inl rfl)) fun _ => ?_
      refine chain_everywhere_isCore (ih p (.inr (.inl rfl))) fun v => ?_
      exact chain_everywhere_isCore (ih right (.inr (.inr rfl))) fun _ => pure_everywhere_isCore v
    | seq ps => exact collect_everywhere_isCore ih []
    | or p q => exact or_everywhere_isCore (ih p (.inl rfl)) (ih q (.inr rfl))
    | alt ps => exact firstOf_everywhere_isCore ih
    | maybe p =>
      refine or_everywhere_isCore ?_ (pure_everywhere_isCore _)
      exact chain_everywhere_isCore (ih p rfl) fun v => pure_everywhere_isCore _

end Grammar

/-! ## Rewritten grammars reply the same -/

namespace Grammar

variable {rules rules' : ρ → Parser Value}

theorem collect_sameReplies {ps : List (Grammar ρ)}
    (hp : ∀ p ∈ ps, (p.desugar.parser rules').SameReplies (p.parser rules)) (vs : List Value) :
    ((collect vs (desugarAll ps)).parser rules').SameReplies
      ((Parser.seq (parsers rules ps)).map fun ws => Value.arr (vs ++ ws)) := by
  induction ps generalizing vs with
  | nil =>
    intro input s
    show some (Reply.success (Value.arr vs) s) = some (.success (.arr (vs ++ [])) s)
    rw [List.append_nil]
  | cons p ps ih =>
    refine .trans (.chain (hp p (by simp)) fun v => ?_) (Parser.seq_cons _ _ _).symm
    have rest := ih (fun q hq => hp q (by simp [hq])) (vs ++ [v])
    simpa only [List.append_assoc, List.singleton_append] using rest

theorem firstOf_sameReplies {ps : List (Grammar ρ)}
    (hp : ∀ p ∈ ps, (p.desugar.parser rules').SameReplies (p.parser rules)) :
    ((firstOf (desugarAll ps)).parser rules').SameReplies (Parser.alt (parsers rules ps)) := by
  induction ps with
  | nil => exact .refl _
  | cons p ps ih =>
    refine .trans (.or (hp p (by simp)) (ih fun q hq => hp q (by simp [hq]))) ?_
    exact (Parser.alt_cons _ _).symm

theorem desugar_sameReplies (hrules : ∀ rule, (rules' rule).SameReplies (rules rule))
    (g : Grammar ρ) : (g.desugar.parser rules').SameReplies (g.parser rules) := by
  induction g using wellFounded_part.induction with
  | _ g ih =>
    cases g with
    | pure | fail | eof | literal | satisfy | takeWhile1 | pattern | getState | setState | lookup
    | change => exact .refl _
    | ref rule => exact hrules rule
    | restoring p => exact (ih p rfl).restoring
    | map f p => exact (ih p rfl).map f
    | chain p next => exact (ih p (.inl rfl)).chain fun v => ih (next v) (.inr ⟨v, rfl⟩)
    | seqRight p q => exact (ih p (.inl rfl)).chain fun _ => ih q (.inr rfl)
    | seqLeft p q => exact (ih p (.inl rfl)).chain fun v => (ih q (.inr rfl)).map fun _ => v
    | between left p right =>
      refine (ih left (.inl rfl)).chain fun _ => (ih p (.inr (.inl rfl))).chain fun v => ?_
      exact (ih right (.inr (.inr rfl))).map fun _ => v
    | seq ps => exact collect_sameReplies ih []
    | or p q => exact (ih p (.inl rfl)).or (ih q (.inr rfl))
    | alt ps => exact firstOf_sameReplies ih
    | attempt label? p => exact (ih p rfl).attempt label?
    | maybe p =>
      refine .trans (.or ((ih p rfl).map _) (.refl _)) ?_
      exact (Parser.maybe_eq_or (p.parser rules) Value.option).symm
    | lookahead p => exact (ih p rfl).lookahead
    | not p => exact (ih p rfl).not.map _
    | times min max p => exact ((ih p rfl).times min max).map _
    | sepBy nonEmpty p sep => exact ((ih p (.inl rfl)).sepBy (ih sep (.inr rfl)) nonEmpty).map _
    | traced name p => exact (ih p rfl).traced name

/-- A grammar rewritten at every depth, over rules that are rewritten too, replies as the grammar
does: on every input, from every state, and however deep references are resolved. Nothing of what
can be written with `chain`, `or` and `pure` is left in it. -/
theorem parserWith_desugar (table : ρ → Grammar ρ) (g : Grammar ρ) (depth : Nat) (input : Input)
    (s : State) :
    (g.desugar.parserWith (fun rule => (table rule).desugar) depth input s).reply? =
        (g.parserWith table depth input s).reply? ∧
      g.desugar.Everywhere IsCore ∧ ∀ rule, (table rule).desugar.Everywhere IsCore := by
  have rules : ∀ rule, (ruleParser (fun rule => (table rule).desugar) depth rule).SameReplies
      (ruleParser table depth rule) :=
    .unfold (fun _ _ h rule => desugar_sameReplies h (table rule)) depth
  refine ⟨desugar_sameReplies rules g input s, desugar_everywhere_isCore g, fun rule => ?_⟩
  exact desugar_everywhere_isCore (table rule)

end Grammar

end Descent
