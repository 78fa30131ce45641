import Descent.Proofs.Adequacy

/-!
# Promises that whole parses keep

A promise says what holds of a grammar, the state that it runs from, its reply and its history.
`Plan.Ensures` is what a plan ends with if all that it invokes keeps the promise, whatever that may
answer. If the plan of every grammar ensures the promise, then every parse keeps it
(`observed_ensures`).

A condition on the grammars themselves is stated with `Everywhere`: it holds of a grammar and of all
its parts. Then every grammar that a parse runs meets it (`called_everywhere`).
-/

namespace Descent

variable {ρ : Type}

namespace Plan

variable {Φ : Grammar ρ → State → Reply Value → List (Occurrence ρ) → Prop}

/-- What holds when the plan ends, if all that it invokes is as promised. -/
def Ensures (Φ : Grammar ρ → State → Reply Value → List (Occurrence ρ) → Prop) :
    Plan ρ → (Reply Value → List (Occurrence ρ) → Prop) → Prop
  | .succeed v s, post => post (.success v s) []
  | .fail s, post => post (.failure s) []
  | .invoke g s onSuccess onFailure, post =>
    (∀ v t l, Φ g s (.success v t) l →
      (onSuccess v t).Ensures Φ fun r h => post r (l ++ h)) ∧
    (∀ t l, Φ g s (.failure t) l → (onFailure t).Ensures Φ fun r h => post r (l ++ h)) ∧
    ∀ i l, Φ g s (.stalled i) l → post (.stalled i) l
  | .round start stop next, post =>
    if start < stop then next.Ensures Φ fun r h => post r (.round start stop :: h)
    else post (.stalled start) [.round start stop]
  | .note e next, post => next.Ensures Φ fun r h => post r (.noted e :: h)

theorem Ensures.imp {p : Plan ρ} {post post' : Reply Value → List (Occurrence ρ) → Prop}
    (hp : p.Ensures Φ post) (hpost : ∀ r h, post r h → post' r h) : p.Ensures Φ post' := by
  induction p generalizing post post' with
  | succeed v s | fail s => exact hpost _ _ hp
  | invoke g s onSuccess onFailure ihs ihf =>
    obtain ⟨hs, hf, hi⟩ := hp
    refine ⟨fun v t l hl => ihs v t (hs v t l hl) fun r h => hpost _ _, fun t l hl => ?_,
      fun i l hl => hpost _ _ (hi i l hl)⟩
    exact ihf t (hf t l hl) fun r h => hpost _ _
  | round start stop next ih =>
    rw [Ensures] at hp ⊢
    split at hp
    · rename_i moved
      rw [if_pos moved]
      exact ih hp fun r h => hpost _ _
    · rename_i stays
      rw [if_neg stays]
      exact hpost _ _ hp
  | note e next ih => exact ih hp fun r h => hpost _ _

/-- A plan ends as it ensures, if the calls keep the promise wherever all that occurs is allowed. -/
theorem post_of_follow {ok : Occurrence ρ → Prop}
    {call : Grammar ρ → State → Option (Reply Value × List (Occurrence ρ))}
    (hcall : ∀ g s r h, call g s = some (r, h) → (∀ x ∈ h, ok x) → Φ g s r h) {p : Plan ρ}
    {post : Reply Value → List (Occurrence ρ) → Prop} (hp : p.Ensures Φ post) {r : Reply Value}
    {h : List (Occurrence ρ)} (hf : p.follow (fun x => [x]) call = some (r, h))
    (hok : ∀ x ∈ h, ok x) : post r h := by
  induction p generalizing post r h with
  | succeed v s | fail s =>
    cases hf
    exact hp
  | invoke g s onSuccess onFailure ihs ihf =>
    obtain ⟨hs, hf', hi⟩ := hp
    rcases follow_invoke_eq_some.1 hf with
      ⟨v, t, l, k, hc, hk, rfl⟩ | ⟨t, l, k, hc, hk, rfl⟩ | ⟨i, hc, rfl⟩
    · obtain ⟨okl, okk⟩ := List.forall_mem_append.1 hok
      exact ihs v t (hs v t l (hcall _ _ _ _ hc okl)) hk okk
    · obtain ⟨okl, okk⟩ := List.forall_mem_append.1 hok
      exact ihf t (hf' t l (hcall _ _ _ _ hc okl)) hk okk
    · exact hi _ _ (hcall _ _ _ _ hc hok)
  | round start stop next ih =>
    rw [Ensures] at hp
    rcases follow_round_eq_some.1 hf with ⟨moved, k, hk, rfl⟩ | ⟨stays, rfl, rfl⟩
    · rw [if_pos moved] at hp
      exact ih hp hk (List.forall_mem_append.1 hok).2
    · rw [if_neg stays] at hp
      exact hp
  | note e next ih =>
    obtain ⟨k, hk, rfl⟩ := prepend_eq_some.1 hf
    exact ih hp hk (List.forall_mem_append.1 hok).2

end Plan

namespace Grammar

variable {table : ρ → Grammar ρ} {input : Input}

/-- If the plans of all grammars that may run end as promised, wherever what they invoke does, then
so does every parse in which nothing else occurs. -/
theorem observed_ensures {A : Occurrence ρ → Prop} {P : Grammar ρ → State → Prop}
    {Q : Grammar ρ → State → Reply Value → List (Occurrence ρ) → Prop}
    (step : ∀ g s, A (.called g s) → P g s →
      (g.plan table input s).Ensures (fun g s r h => P g s → Q g s r h) fun r h =>
        Q g s r (.called g s :: h ++ [.returned g s r]))
    {g : Grammar ρ} {s : State} {r : Reply Value} {h : List (Occurrence ρ)}
    (ho : g.Observed table input s r h) (hok : ∀ x ∈ h, A x) (hs : P g s) : Q g s r h := by
  obtain ⟨n, hn⟩ := ho
  induction n generalizing g s r h with
  | zero => cases hn
  | succ n ih =>
    obtain ⟨k, hk, rfl⟩ := observe_succ_eq_some.1 hn
    obtain ⟨okc, okk⟩ := List.forall_mem_cons.1 hok
    exact Plan.post_of_follow (fun _ _ _ _ hc hx hs => ih hx hs hc) (step g s okc hs) hk
      (List.forall_mem_append.1 okk).1

/-! ## Conditions on grammars -/

/-- The grammar yields its state as a value. -/
def ShowsState : Grammar ρ → Prop
  | getState => True
  | _ => False

/-- The grammar goes to an index that it was built with. -/
def FixesIndex : Grammar ρ → Prop
  | setState _ | change (.seek _) => True
  | _ => False

/-- The condition holds of the grammar and of all the parts that it is built from. -/
inductive Everywhere (c : Grammar ρ → Prop) : Grammar ρ → Prop where
  | intro {g : Grammar ρ} (here : c g) (parts : ∀ p, Part p g → Everywhere c p) : Everywhere c g

theorem Everywhere.here {c : Grammar ρ → Prop} {g : Grammar ρ} : Everywhere c g → c g
  | .intro h _ => h

theorem Everywhere.part {c : Grammar ρ → Prop} {g p : Grammar ρ} :
    Everywhere c g → Part p g → Everywhere c p
  | .intro _ h, hp => h p hp

theorem Everywhere.imp {c d : Grammar ρ → Prop} (hcd : ∀ g, c g → d g) {g : Grammar ρ}
    (h : Everywhere c g) : Everywhere d g := by
  induction h with
  | intro here _ ih => exact .intro (hcd _ here) ih

/-- The first grammar may invoke the second. -/
def InvokedBy (table : ρ → Grammar ρ) (g p : Grammar ρ) : Prop :=
  Part p g ∨ ∃ rule, g = .ref rule ∧ p = table rule

theorem Everywhere.invoked {c : Grammar ρ → Prop} (htable : ∀ rule, (table rule).Everywhere c)
    {g p : Grammar ρ} (hg : g.Everywhere c) (hp : InvokedBy table g p) : p.Everywhere c := by
  rcases hp with hp | ⟨rule, -, rfl⟩
  · exact hg.part hp
  · exact htable rule

/-- If the parts that a plan may invoke run nothing but grammars that meet a condition, neither does
the plan. -/
theorem called_of_follow {P c : Grammar ρ → Prop}
    {call : Grammar ρ → State → Option (Reply Value × List (Occurrence ρ))}
    (hcall : ∀ g s r h, P g → call g s = some (r, h) → ∀ g' s', .called g' s' ∈ h → c g')
    {p : Plan ρ} (hp : p.Only P) {r : Reply Value} {h : List (Occurrence ρ)}
    (hf : p.follow (fun x => [x]) call = some (r, h)) : ∀ g' s', .called g' s' ∈ h → c g' := by
  induction p generalizing r h with
  | succeed v s | fail s =>
    cases hf
    exact fun _ _ h => by cases h
  | invoke g s onSuccess onFailure ihs ihf =>
    obtain ⟨hg, hps, hpf⟩ := hp
    rcases Plan.follow_invoke_eq_some.1 hf with
      ⟨v, t, l, k, hc, hk, rfl⟩ | ⟨t, l, k, hc, hk, rfl⟩ | ⟨i, hc, rfl⟩
    · intro g' s' hx
      rcases List.mem_append.1 hx with hx | hx
      · exact hcall _ _ _ _ hg hc g' s' hx
      · exact ihs v t (hps v t) hk g' s' hx
    · intro g' s' hx
      rcases List.mem_append.1 hx with hx | hx
      · exact hcall _ _ _ _ hg hc g' s' hx
      · exact ihf t (hpf t) hk g' s' hx
    · exact hcall _ _ _ _ hg hc
  | round start stop next ih =>
    rcases Plan.follow_round_eq_some.1 hf with ⟨moved, k, hk, rfl⟩ | ⟨stays, rfl, rfl⟩
    · intro g' s' hx
      exact ih hp hk g' s' (by simpa using hx)
    · exact fun _ _ h => by simp at h
  | note e next ih =>
    obtain ⟨k, hk, rfl⟩ := prepend_eq_some.1 hf
    intro g' s' hx
    exact ih hp hk g' s' (by simpa using hx)

/-- A condition that holds everywhere in a grammar and in the rules holds of every grammar that a
parse runs. -/
theorem called_everywhere {c : Grammar ρ → Prop} (htable : ∀ rule, (table rule).Everywhere c)
    {g : Grammar ρ} (hg : g.Everywhere c) {s : State} {r : Reply Value} {h : List (Occurrence ρ)}
    (ho : g.Observed table input s r h) : ∀ g' s', .called g' s' ∈ h → c g' := by
  obtain ⟨n, hn⟩ := ho
  induction n generalizing g s r h with
  | zero => cases hn
  | succ n ih =>
    obtain ⟨k, hk, rfl⟩ := observe_succ_eq_some.1 hn
    have parts := plan_only table input s g
    intro g' s' hx
    simp only [List.cons_append, List.mem_cons, List.mem_append, Occurrence.called.injEq,
      List.not_mem_nil, or_false, reduceCtorEq] at hx
    rcases hx with ⟨rfl, rfl⟩ | hx
    · exact hg.here
    · refine called_of_follow (fun p t r h hp hc => ?_) parts hk g' s' hx
      rcases hp with hp | ⟨rule, -, rfl⟩
      · exact ih (hg.part hp) hc
      · exact ih (htable rule) hc

end Grammar

end Descent
