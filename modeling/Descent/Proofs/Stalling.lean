import Descent.Proofs.Adequacy

/-!
# A repetition that stalls ends the whole parse

A round of a repetition that succeeds without moving on ends the parse with the index at which the
round started, and nothing else does. `Guarded` is the invariant: it holds of the reply and the
history of every run, because what a plan goes on with starts from a quiet history.
-/

namespace Descent

variable {ρ : Type}

namespace Occurrence

/-- A grammar answers that a repetition stalled in the round that started at `i`. -/
def Stalls (i : Nat) : Occurrence ρ → Prop
  | returned _ _ r => r = .stalled i
  | _ => False

/-- A round that started at `i` succeeds without moving on. -/
def Stays (i : Nat) : Occurrence ρ → Prop
  | round start stop => start = i ∧ stop ≤ start
  | _ => False

end Occurrence

/-- The reply is a stalled repetition exactly if a round stayed where it started, and then nothing
occurs any more but that the grammars under way answer so. -/
structure Guarded (r : Reply Value) (h : List (Occurrence ρ)) : Prop where
  stalled_iff : ∀ n, r = .stalled n ↔ ∃ m ≤ n, .round n m ∈ h
  reply_eq : ∀ x ∈ h, ∀ i, x.Stalls i → r = .stalled i
  last : h.Pairwise fun x y => ∀ i, x.Stalls i ∨ x.Stays i → y.Stalls i

/-- Nothing in the history stalls or stays. -/
def Quiet (h : List (Occurrence ρ)) : Prop := ∀ x ∈ h, ∀ i, ¬ (x.Stalls i ∨ x.Stays i)

namespace Guarded

variable {r : Reply Value} {h k : List (Occurrence ρ)}

theorem quiet (hg : Guarded r h) (hr : ∀ i, r ≠ .stalled i) : Quiet h := by
  rintro (⟨g, s⟩ | ⟨g, s, r'⟩ | ⟨start, stop⟩ | e) hx i (hi | hi)
  · exact hi
  · exact hi
  · exact hr i (hg.reply_eq _ hx i hi)
  · exact hi
  · exact hi
  · obtain ⟨rfl, hle⟩ := hi
    exact hr _ ((hg.stalled_iff _).2 ⟨stop, hle, hx⟩)
  · exact hi
  · exact hi

theorem prepend (hh : Quiet h) (hg : Guarded r k) : Guarded r (h ++ k) where
  stalled_iff n := by
    rw [hg.stalled_iff]
    constructor
    · rintro ⟨m, hm, hx⟩
      exact ⟨m, hm, List.mem_append_right _ hx⟩
    · rintro ⟨m, hm, hx⟩
      rcases List.mem_append.1 hx with hx | hx
      · exact absurd (.inr ⟨rfl, hm⟩) (hh _ hx n)
      · exact ⟨m, hm, hx⟩
  reply_eq x hx i hi := by
    rcases List.mem_append.1 hx with hx | hx
    · exact absurd (.inl hi) (hh x hx i)
    · exact hg.reply_eq x hx i hi
  last := by
    refine List.pairwise_append.2 ⟨?_, hg.last, fun x hx y _ i hi => absurd hi (hh x hx i)⟩
    exact List.pairwise_of_forall_mem_list fun x hx y _ i hi => absurd hi (hh x hx i)

theorem append_returned (hg : Guarded r h) (g : Grammar ρ) (s : State) :
    Guarded r (h ++ [.returned g s r]) where
  stalled_iff n := by
    rw [hg.stalled_iff]
    simp
  reply_eq x hx i hi := by
    rcases List.mem_append.1 hx with hx | hx
    · exact hg.reply_eq x hx i hi
    · rw [List.mem_singleton] at hx
      subst hx
      exact hi
  last := by
    refine List.pairwise_append.2 ⟨hg.last, List.pairwise_singleton _ _, fun x hx y hy i hi => ?_⟩
    rw [List.mem_singleton] at hy
    subst hy
    rcases hi with hi | hi
    · exact hg.reply_eq x hx i hi
    · cases x with
      | round start stop =>
        obtain ⟨rfl, hle⟩ := hi
        exact (hg.stalled_iff _).2 ⟨stop, hle, hx⟩
      | _ => exact hi.elim

theorem nil (hr : ∀ i, r ≠ .stalled i) : Guarded r ([] : List (Occurrence ρ)) where
  stalled_iff n := by simp [hr n]
  reply_eq x hx := by cases hx
  last := List.Pairwise.nil

theorem of_round {start stop : Nat} (hr : ¬ start < stop) :
    Guarded (.stalled start) [(.round start stop : Occurrence ρ)] where
  stalled_iff n := by
    simp only [Reply.stalled.injEq, List.mem_singleton, Occurrence.round.injEq]
    constructor
    · rintro rfl
      exact ⟨stop, by omega, rfl, rfl⟩
    · rintro ⟨m, _, rfl, _⟩
      rfl
  reply_eq x hx i hi := by
    rw [List.mem_singleton] at hx
    subst hx
    exact hi.elim
  last := List.pairwise_singleton _ _

theorem follow {call : Grammar ρ → State → Option (Reply Value × List (Occurrence ρ))}
    (hcall : ∀ g s r h, call g s = some (r, h) → Guarded r h) {p : Plan ρ}
    (hp : p.follow (fun x => [x]) call = some (r, h)) : Guarded r h := by
  induction p generalizing r h with
  | succeed v s | fail s =>
    cases hp
    exact nil nofun
  | invoke g s onSuccess onFailure ihs ihf =>
    rcases Plan.follow_invoke_eq_some.1 hp with
      ⟨v, t, l, k, hc, hk, rfl⟩ | ⟨t, l, k, hc, hk, rfl⟩ | ⟨i, hc, rfl⟩
    · exact (ihs v t hk).prepend ((hcall _ _ _ _ hc).quiet nofun)
    · exact (ihf t hk).prepend ((hcall _ _ _ _ hc).quiet nofun)
    · exact hcall _ _ _ _ hc
  | round start stop next ih =>
    rcases Plan.follow_round_eq_some.1 hp with ⟨moved, k, hk, rfl⟩ | ⟨stays, rfl, rfl⟩
    · -- the plan goes on after this round, which is therefore none that stays
      refine (ih hk).prepend fun x hx i hi => ?_
      rw [List.mem_singleton] at hx
      subst hx
      rcases hi with hi | ⟨_, hle⟩
      · exact hi
      · omega
    · exact of_round stays
  | note e next ih =>
    obtain ⟨k, hk, rfl⟩ := prepend_eq_some.1 hp
    exact (ih hk).prepend (by simp [Quiet, Occurrence.Stalls, Occurrence.Stays])

theorem observed {table : ρ → Grammar ρ} {input : Input} {g : Grammar ρ} {s : State}
    (ho : g.Observed table input s r h) : Guarded r h := by
  obtain ⟨n, hn⟩ := ho
  induction n generalizing g s r h with
  | zero => cases hn
  | succ n ih =>
    obtain ⟨k, hk, rfl⟩ := Grammar.observe_succ_eq_some.1 hn
    have called : Quiet [(.called g s : Occurrence ρ)] := by
      simp [Quiet, Occurrence.Stalls, Occurrence.Stays]
    exact ((follow (fun _ _ _ _ => ih) hk).prepend called).append_returned g s

end Guarded

namespace Grammar

/-- A parse ends with a stalled repetition at `n` exactly if a round of a repetition that started at
`n` succeeded without moving on, anywhere in the parse. Once a grammar answers so, at any depth,
the whole parse does, and all that still occurs is that the grammars under way answer the same. -/
theorem stalled_iff_round_stays {table : ρ → Grammar ρ} {input : Input} {g : Grammar ρ} {s : State}
    {depth : Nat} {r : Reply Value}
    (parse : (g.parserWith table depth input s).reply? = some r) :
    ∃ h, g.Observed table input s r h ∧
      (g.parserWith table depth input s).log.toList = h.flatMap Occurrence.entries ∧
      (∀ n, r = .stalled n ↔ ∃ m ≤ n, .round n m ∈ h) ∧
      (∀ x ∈ h, ∀ i, x.Stalls i → r = .stalled i) ∧
      h.Pairwise fun x y => ∀ i, x.Stalls i ∨ x.Stays i → y.Stalls i := by
  obtain ⟨h, ho, hl⟩ := observed_of_answer (Run.outcome?_eq_some.2 ⟨parse, rfl⟩)
  have guarded := Guarded.observed ho
  exact ⟨h, ho, hl.symm, guarded.stalled_iff, guarded.reply_eq, guarded.last⟩

/-- The second round of `many` over an optional letter stays at offset 1, and neither `attempt` nor
the choice around it recovers. -/
theorem stalled_iff_round_stays_optional :
    let g : Grammar Empty := .or (.attempt none (.many (.maybe (.literal "a")))) (.pure .null)
    (g.parserWith Empty.elim 0 (.ofString "ab") .start).reply? = some (.stalled 1) ∧
      ∃ h, g.Observed Empty.elim (.ofString "ab") .start (.stalled 1) h ∧
        ∃ m ≤ 1, .round 1 m ∈ h := by
  intro g
  have parse : (g.parserWith Empty.elim 0 (.ofString "ab") .start).reply? = some (.stalled 1) := rfl
  obtain ⟨h, ho, -, iff, -⟩ := stalled_iff_round_stays parse
  exact ⟨parse, h, ho, (iff 1).1 rfl⟩

end Grammar

end Descent
