import Descent.Proofs.Ending
import Descent.Proofs.Position

/-!
# What a parse comes to run

`Grammar.Calls` says that the parse of a grammar comes to run another grammar from some state. It
does not ask that the parse ends: only what ran before that call has ended. So it can say of a parse
that may not end what all its calls have in common. Of a parse that ends, the calls are those of its
history (`calls_of_mem`), and every grammar that answers in the history was called and replies so by
itself (`run_of_mem`).
-/

namespace Descent

variable {ρ : Type} {table : ρ → Grammar ρ} {input : Input}

/-- The plan comes to invoke the grammar from the state. -/
inductive Plan.Reaches (table : ρ → Grammar ρ) (input : Input) (p : Grammar ρ) (u : State) :
    Plan ρ → Prop where
  | here {onSuccess : Value → State → Plan ρ} {onFailure : State → Plan ρ} :
    Reaches table input p u (.invoke p u onSuccess onFailure)
  | success {g : Grammar ρ} {s t : State} {v : Value} {onSuccess : Value → State → Plan ρ}
    {onFailure : State → Plan ρ} (reply : g.Replies table input s (.success v t))
    (next : Reaches table input p u (onSuccess v t)) :
    Reaches table input p u (.invoke g s onSuccess onFailure)
  | failure {g : Grammar ρ} {s t : State} {onSuccess : Value → State → Plan ρ}
    {onFailure : State → Plan ρ} (reply : g.Replies table input s (.failure t))
    (next : Reaches table input p u (onFailure t)) :
    Reaches table input p u (.invoke g s onSuccess onFailure)
  | round {start stop : Nat} {plan : Plan ρ} (moved : start < stop)
    (next : Reaches table input p u plan) : Reaches table input p u (.round start stop plan)
  | note {e : Event} {plan : Plan ρ} (next : Reaches table input p u plan) :
    Reaches table input p u (.note e plan)

/-- The parse of the first grammar from the first state comes to run the second from the second. -/
inductive Grammar.Calls (table : ρ → Grammar ρ) (input : Input) (q : Grammar ρ) (w : State) :
    Grammar ρ → State → Prop where
  | self : Calls table input q w q w
  | part {g p : Grammar ρ} {s u : State}
    (reaches : (g.plan table input s).Reaches table input p u)
    (next : Calls table input q w p u) : Calls table input q w g s

namespace Plan

variable {p : Grammar ρ} {u : State}

theorem Reaches.of_only {P : Grammar ρ → Prop} {plan : Plan ρ}
    (h : plan.Reaches table input p u) (only : plan.Only P) : P p := by
  induction h with
  | here => exact only.1
  | success _ _ ih => exact ih (only.2.1 _ _)
  | failure _ _ ih => exact ih (only.2.2 _)
  | round _ _ ih => exact ih only
  | note _ ih => exact ih only

/-- The occurrence is a round or an event, or it belongs to the run of a grammar that the plan
reaches. -/
def Shows (table : ρ → Grammar ρ) (input : Input) (n : Nat) (plan : Plan ρ) (x : Occurrence ρ) :
    Prop :=
  (∃ start stop, x = .round start stop) ∨ (∃ e, x = .noted e) ∨
    ∃ g s r h, plan.Reaches table input g s ∧
      Grammar.observe table input n g s = some (r, h) ∧ x ∈ h

theorem Shows.mono {n : Nat} {plan plan' : Plan ρ} {x : Occurrence ρ}
    (h : plan.Shows table input n x)
    (reaches : ∀ g s, plan.Reaches table input g s → plan'.Reaches table input g s) :
    plan'.Shows table input n x := by
  rcases h with round | noted | ⟨g, s, r, h, hg, hr, hx⟩
  · exact .inl round
  · exact .inr (.inl noted)
  · exact .inr (.inr ⟨g, s, r, h, reaches g s hg, hr, hx⟩)

theorem shows_of_mem {n : Nat} {plan : Plan ρ} {r : Reply Value} {h : List (Occurrence ρ)}
    (hf : plan.follow (fun x => [x]) (Grammar.observe table input n) = some (r, h)) :
    ∀ x ∈ h, plan.Shows table input n x := by
  induction plan generalizing r h with
  | succeed v s | fail s =>
    cases hf
    exact nofun
  | invoke g s onSuccess onFailure ihs ihf =>
    rcases follow_invoke_eq_some.1 hf with
      ⟨v, t, l, k, hc, hk, rfl⟩ | ⟨t, l, k, hc, hk, rfl⟩ | ⟨i, hc, rfl⟩
    · have reply : g.Replies table input s (.success v t) :=
        Grammar.replies_iff_observed.2 ⟨l, n, hc⟩
      refine List.forall_mem_append.2 ⟨fun x hx => ?_, fun x hx => ?_⟩
      · exact .inr (.inr ⟨g, s, _, l, .here, hc, hx⟩)
      · exact (ihs v t hk x hx).mono fun _ _ hp => .success reply hp
    · have reply : g.Replies table input s (.failure t) :=
        Grammar.replies_iff_observed.2 ⟨l, n, hc⟩
      refine List.forall_mem_append.2 ⟨fun x hx => ?_, fun x hx => ?_⟩
      · exact .inr (.inr ⟨g, s, _, l, .here, hc, hx⟩)
      · exact (ihf t hk x hx).mono fun _ _ hp => .failure reply hp
    · exact fun x hx => .inr (.inr ⟨g, s, _, h, .here, hc, hx⟩)
  | round start stop next ih =>
    rcases follow_round_eq_some.1 hf with ⟨moved, k, hk, rfl⟩ | ⟨-, -, rfl⟩
    · refine List.forall_mem_append.2 ⟨List.forall_mem_singleton.2 ?_, fun x hx => ?_⟩
      · exact .inl ⟨start, stop, rfl⟩
      · exact (ih hk x hx).mono fun _ _ hp => .round moved hp
    · exact List.forall_mem_singleton.2 (.inl ⟨start, stop, rfl⟩)
  | note e next ih =>
    obtain ⟨k, hk, rfl⟩ := prepend_eq_some.1 hf
    refine List.forall_mem_append.2 ⟨List.forall_mem_singleton.2 ?_, fun x hx => ?_⟩
    · exact .inr (.inl ⟨e, rfl⟩)
    · exact (ih hk x hx).mono fun _ _ hp => .note hp

/-- What a plan reaches runs to its end while the plan is followed, if the plan comes to its end. -/
theorem Reaches.observed {n : Nat} {plan : Plan ρ} {r : Reply Value} {h : List (Occurrence ρ)}
    (reaches : plan.Reaches table input p u)
    (hf : plan.follow (fun x => [x]) (Grammar.observe table input n) = some (r, h)) :
    ∃ r' k, p.Observed table input u r' k ∧ ∀ x ∈ k, x ∈ h := by
  induction reaches generalizing r h with
  | here =>
    rcases follow_invoke_eq_some.1 hf with
      ⟨v, t, l, k, hc, hk, rfl⟩ | ⟨t, l, k, hc, hk, rfl⟩ | ⟨i, hc, rfl⟩
    · exact ⟨_, l, ⟨n, hc⟩, fun x hx => List.mem_append_left k hx⟩
    · exact ⟨_, l, ⟨n, hc⟩, fun x hx => List.mem_append_left k hx⟩
    · exact ⟨_, h, ⟨n, hc⟩, fun x hx => hx⟩
  | success reply _ ih =>
    rcases follow_invoke_eq_some.1 hf with
      ⟨v, t, l, k, hc, hk, rfl⟩ | ⟨t, l, k, hc, hk, rfl⟩ | ⟨i, hc, rfl⟩
    · cases reply.unique (Grammar.replies_iff_observed.2 ⟨l, n, hc⟩)
      obtain ⟨r', m, ho, hm⟩ := ih hk
      exact ⟨r', m, ho, fun x hx => List.mem_append_right l (hm x hx)⟩
    · cases reply.unique (Grammar.replies_iff_observed.2 ⟨l, n, hc⟩)
    · cases reply.unique (Grammar.replies_iff_observed.2 ⟨h, n, hc⟩)
  | failure reply _ ih =>
    rcases follow_invoke_eq_some.1 hf with
      ⟨v, t, l, k, hc, hk, rfl⟩ | ⟨t, l, k, hc, hk, rfl⟩ | ⟨i, hc, rfl⟩
    · cases reply.unique (Grammar.replies_iff_observed.2 ⟨l, n, hc⟩)
    · cases reply.unique (Grammar.replies_iff_observed.2 ⟨l, n, hc⟩)
      obtain ⟨r', m, ho, hm⟩ := ih hk
      exact ⟨r', m, ho, fun x hx => List.mem_append_right l (hm x hx)⟩
    · cases reply.unique (Grammar.replies_iff_observed.2 ⟨h, n, hc⟩)
  | round moved _ ih =>
    rcases follow_round_eq_some.1 hf with ⟨-, k, hk, rfl⟩ | ⟨stays, -, -⟩
    · obtain ⟨r', m, ho, hm⟩ := ih hk
      exact ⟨r', m, ho, fun x hx => List.mem_append_right _ (hm x hx)⟩
    · exact absurd moved stays
  | note _ ih =>
    obtain ⟨k, hk, rfl⟩ := prepend_eq_some.1 hf
    obtain ⟨r', m, ho, hm⟩ := ih hk
    exact ⟨r', m, ho, fun x hx => List.mem_append_right _ (hm x hx)⟩

end Plan

namespace Grammar

variable {g p q : Grammar ρ} {s u w : State} {r : Reply Value} {h : List (Occurrence ρ)}

theorem Calls.trans (hq : Calls table input q w p u) (hp : Calls table input p u g s) :
    Calls table input q w g s := by
  induction hp with
  | self => exact hq
  | part reaches _ ih => exact .part reaches ih

/-- A grammar that starts to run in the history of a parse is called by the parse. -/
theorem calls_of_mem (ho : g.Observed table input s r h) (hx : .called p u ∈ h) :
    Calls table input p u g s := by
  obtain ⟨n, hn⟩ := ho
  induction n generalizing g s r h with
  | zero => cases hn
  | succ n ih =>
    obtain ⟨k, hk, rfl⟩ := observe_succ_eq_some.1 hn
    simp only [List.cons_append, List.mem_cons, List.mem_append, Occurrence.called.injEq,
      List.not_mem_nil, or_false, reduceCtorEq] at hx
    rcases hx with ⟨rfl, rfl⟩ | hx
    · exact .self
    · rcases Plan.shows_of_mem hk _ hx with ⟨_, _, e⟩ | ⟨_, e⟩ | ⟨g', s', r', k', hp, hc, hx⟩
      · cases e
      · cases e
      · exact .part hp (ih hx hc)

/-- A grammar that answers in the history of a parse was called, and replies so by itself. -/
theorem run_of_mem {r' : Reply Value} (ho : g.Observed table input s r h)
    (hx : .returned p u r' ∈ h) : Calls table input p u g s ∧ p.Replies table input u r' := by
  obtain ⟨n, hn⟩ := ho
  induction n generalizing g s r h with
  | zero => cases hn
  | succ n ih =>
    have whole : g.Replies table input s r := replies_iff_observed.2 ⟨h, _, hn⟩
    obtain ⟨k, hk, rfl⟩ := observe_succ_eq_some.1 hn
    simp only [List.cons_append, List.mem_cons, List.mem_append, Occurrence.returned.injEq,
      List.not_mem_nil, or_false, reduceCtorEq, false_or] at hx
    rcases hx with hx | ⟨rfl, rfl, rfl⟩
    · rcases Plan.shows_of_mem hk _ hx with ⟨_, _, e⟩ | ⟨_, e⟩ | ⟨g', s', r', k', hp, hc, hx⟩
      · cases e
      · cases e
      · obtain ⟨calls, replies⟩ := ih hx hc
        exact ⟨.part hp calls, replies⟩
    · exact ⟨.self, whole⟩

/-- What holds of all that occurs in a parse that ends holds of all that occurs in the parses that
it comes to run. -/
theorem forall_of_reaches {c : Occurrence ρ → Prop}
    (hg : ∀ r h, g.Observed table input s r h → ∀ x ∈ h, c x)
    (answers : g.Replies table input s r)
    (reaches : (g.plan table input s).Reaches table input p u) :
    ∀ r h, p.Observed table input u r h → ∀ x ∈ h, c x := by
  obtain ⟨h, n, hn⟩ := replies_iff_observed.1 answers
  cases n with
  | zero => cases hn
  | succ n =>
    have ho : g.Observed table input s r h := ⟨_, hn⟩
    obtain ⟨k, hk, rfl⟩ := observe_succ_eq_some.1 hn
    obtain ⟨r', m, hp, hm⟩ := reaches.observed hk
    intro r'' h'' hp' x hx
    obtain ⟨-, rfl⟩ := hp'.unique hp
    refine hg r _ ho x ?_
    exact List.mem_append_left _ (List.mem_cons_of_mem _ (hm x hx))

/-! ## Parses that keep the index -/

/-- Setting the state never changes the index in the parse of the grammar from the state, whether
or not the parse ends. -/
def StaysOnCourse (table : ρ → Grammar ρ) (input : Input) (g : Grammar ρ) (s : State) : Prop :=
  ∀ p u, Calls table input p u g s → (Occurrence.called p u).KeepsIndex

theorem StaysOnCourse.called (hs : g.StaysOnCourse table input s)
    (hp : Calls table input p u g s) : p.StaysOnCourse table input u :=
  fun q w hq => hs q w (hq.trans hp)

theorem StaysOnCourse.keepsIndex (hs : g.StaysOnCourse table input s) :
    g.KeepsIndex table input s := by
  intro r h ho x hx
  cases x with
  | called p u => exact hs p u (calls_of_mem ho hx)
  | _ => exact trivial

/-- What a parse calls meets a condition that holds everywhere in its grammar and in the rules. -/
theorem Calls.everywhere {c : Grammar ρ → Prop} (hp : Calls table input p u g s)
    (htable : ∀ rule, (table rule).Everywhere c) (hg : g.Everywhere c) : p.Everywhere c := by
  induction hp with
  | self => exact hg
  | @part g p s u reaches _ ih =>
    have invoked : InvokedBy table g p := reaches.of_only (plan_only table input s g)
    exact ih (hg.invoked htable invoked)

theorem staysOnCourse_of_everywhere
    (htable : ∀ rule, (table rule).Everywhere fun p => ¬ p.FixesIndex)
    (hg : g.Everywhere fun p => ¬ p.FixesIndex) (s : State) : g.StaysOnCourse table input s := by
  intro p u hp
  have free : ¬ p.FixesIndex := (hp.everywhere htable hg).here
  cases p with
  | setState => exact absurd trivial free
  | change c =>
    cases c with
    | put | drop => exact trivial
    | seek => exact absurd trivial free
  | _ => exact trivial

end Grammar

end Descent
