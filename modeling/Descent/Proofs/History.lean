import Descent.Proofs.Plan

/-!
# Histories: everything that occurs during a parse

The history of a parse lists, in order, every run of a grammar at any depth with its start and its
reply, every round of a repetition that succeeded, and every event that the trace notes.
`Grammar.observe` computes it from the plans, with a bound on how deep invocations nest, and
`Grammar.Observed` says that some bound is enough. A parse has at most one history
(`Observed.unique`).
-/

namespace Descent

/-- Something that occurs during a parse. -/
inductive Occurrence (ρ : Type) where
  /-- A grammar starts to run from a state. -/
  | called (g : Grammar ρ) (s : State)
  /-- A grammar that ran from a state answers. -/
  | returned (g : Grammar ρ) (s : State) (r : Reply Value)
  /-- A round of a repetition that started at `start` succeeds at `stop`. -/
  | round (start stop : Nat)
  /-- A choice notes an event. -/
  | noted (e : Event)

variable {ρ ι κ : Type}

/-- What the trace shows of an occurrence. -/
def Occurrence.entries : Occurrence ρ → List Entry
  | called (.traced name _) s => [.enter (.rule name s.index)]
  | returned (.traced name _) s r => [.event r.closing, .exit (.rule name s.index)]
  | round start stop => if start < stop then [] else [.event (.stalled start)]
  | noted e => [.event e]
  | _ => []

/-! ## Following a plan -/

/-- The outcome with a list in front of its own. -/
def prepend (l : List ι) (o : Option (Reply Value × List ι)) : Option (Reply Value × List ι) :=
  o.map fun x => (x.1, l ++ x.2)

@[simp] theorem prepend_none (l : List ι) : prepend l none = none := rfl

@[simp] theorem prepend_some (l m : List ι) (r : Reply Value) :
    prepend l (some (r, m)) = some (r, l ++ m) := rfl

@[simp] theorem prepend_nil (o : Option (Reply Value × List ι)) : prepend [] o = o := by
  cases o <;> rfl

theorem prepend_prepend (l m : List ι) (o : Option (Reply Value × List ι)) :
    prepend l (prepend m o) = prepend (l ++ m) o := by
  cases o <;> simp [prepend]

theorem prepend_eq_some {l m : List ι} {o : Option (Reply Value × List ι)} {r : Reply Value} :
    prepend l o = some (r, m) ↔ ∃ k, o = some (r, k) ∧ m = l ++ k := by
  rcases o with _ | ⟨r', k⟩
  · simp
  · simp only [prepend_some, Option.some.injEq, Prod.mk.injEq]
    constructor
    · rintro ⟨rfl, rfl⟩
      exact ⟨k, ⟨rfl, rfl⟩, rfl⟩
    · rintro ⟨k, ⟨rfl, rfl⟩, rfl⟩
      exact ⟨rfl, rfl⟩

namespace Plan

/-- The reply that a plan ends with and what occurs until then, where `call` answers invocations and
`emit` says what is kept of an occurrence. -/
def follow (emit : Occurrence ρ → List ι)
    (call : Grammar ρ → State → Option (Reply Value × List ι)) :
    Plan ρ → Option (Reply Value × List ι)
  | .succeed v s => some (.success v s, [])
  | .fail s => some (.failure s, [])
  | .invoke g s onSuccess onFailure =>
    match call g s with
    | some (.success v t, l) => prepend l ((onSuccess v t).follow emit call)
    | some (.failure t, l) => prepend l ((onFailure t).follow emit call)
    | some (.stalled i, l) => some (.stalled i, l)
    | none => none
  | .round start stop next =>
    if start < stop then prepend (emit (.round start stop)) (next.follow emit call)
    else some (.stalled start, emit (.round start stop))
  | .note e next => prepend (emit (.noted e)) (next.follow emit call)

theorem follow_invoke (emit : Occurrence ρ → List ι)
    (call : Grammar ρ → State → Option (Reply Value × List ι)) (g : Grammar ρ) (s : State) :
    (invoke g s succeed fail).follow emit call = call g s := by
  rw [follow]
  rcases call g s with _ | ⟨⟨v, t⟩ | t | i, l⟩ <;> simp [follow]

theorem follow_invoke_eq_some {emit : Occurrence ρ → List ι}
    {call : Grammar ρ → State → Option (Reply Value × List ι)} {g : Grammar ρ} {s : State}
    {onSuccess : Value → State → Plan ρ} {onFailure : State → Plan ρ} {r : Reply Value}
    {l : List ι} :
    (invoke g s onSuccess onFailure).follow emit call = some (r, l) ↔
      (∃ v t m k, call g s = some (.success v t, m) ∧
        (onSuccess v t).follow emit call = some (r, k) ∧ l = m ++ k) ∨
      (∃ t m k, call g s = some (.failure t, m) ∧
        (onFailure t).follow emit call = some (r, k) ∧ l = m ++ k) ∨
      ∃ i, call g s = some (.stalled i, l) ∧ r = .stalled i := by
  rw [follow]
  constructor
  · intro h
    rcases hc : call g s with _ | ⟨⟨v, t⟩ | t | i, m⟩ <;> rw [hc] at h
    · cases h
    · obtain ⟨k, hk, rfl⟩ := prepend_eq_some.1 h
      exact .inl ⟨v, t, m, k, rfl, hk, rfl⟩
    · obtain ⟨k, hk, rfl⟩ := prepend_eq_some.1 h
      exact .inr (.inl ⟨t, m, k, rfl, hk, rfl⟩)
    · cases h
      exact .inr (.inr ⟨i, rfl, rfl⟩)
  · rintro (⟨v, t, m, k, hc, hk, rfl⟩ | ⟨t, m, k, hc, hk, rfl⟩ | ⟨i, hc, rfl⟩)
    · rw [hc]
      exact prepend_eq_some.2 ⟨k, hk, rfl⟩
    · rw [hc]
      exact prepend_eq_some.2 ⟨k, hk, rfl⟩
    · rw [hc]

theorem follow_round_eq_some {emit : Occurrence ρ → List ι}
    {call : Grammar ρ → State → Option (Reply Value × List ι)} {start stop : Nat} {next : Plan ρ}
    {r : Reply Value} {l : List ι} :
    (round start stop next).follow emit call = some (r, l) ↔
      (start < stop ∧ ∃ k, next.follow emit call = some (r, k) ∧
        l = emit (.round start stop) ++ k) ∨
      ¬ start < stop ∧ r = .stalled start ∧ l = emit (.round start stop) := by
  rw [follow]
  by_cases moved : start < stop
  · simp [moved, prepend_eq_some]
  · simp [moved, eq_comm]

theorem follow_flatMap {emit : Occurrence ρ → List ι} (f : ι → List κ)
    {call : Grammar ρ → State → Option (Reply Value × List ι)}
    {call' : Grammar ρ → State → Option (Reply Value × List κ)}
    (hcall : ∀ g s r l, call g s = some (r, l) → call' g s = some (r, l.flatMap f))
    {p : Plan ρ} {r : Reply Value} {l : List ι} (h : p.follow emit call = some (r, l)) :
    p.follow (fun x => (emit x).flatMap f) call' = some (r, l.flatMap f) := by
  induction p generalizing r l with
  | succeed v s | fail s =>
    cases h
    rfl
  | invoke g s onSuccess onFailure ihs ihf =>
    rw [follow_invoke_eq_some] at h ⊢
    rcases h with ⟨v, t, m, k, hc, hk, rfl⟩ | ⟨t, m, k, hc, hk, rfl⟩ | ⟨i, hc, rfl⟩
    · exact .inl ⟨v, t, _, _, hcall _ _ _ _ hc, ihs v t hk, List.flatMap_append⟩
    · exact .inr (.inl ⟨t, _, _, hcall _ _ _ _ hc, ihf t hk, List.flatMap_append⟩)
    · exact .inr (.inr ⟨i, hcall _ _ _ _ hc, rfl⟩)
  | round start stop next ih =>
    rw [follow_round_eq_some] at h ⊢
    rcases h with ⟨moved, k, hk, rfl⟩ | ⟨stays, rfl, rfl⟩
    · exact .inl ⟨moved, _, ih hk, List.flatMap_append⟩
    · exact .inr ⟨stays, rfl, rfl⟩
  | note e next ih =>
    obtain ⟨k, hk, rfl⟩ := prepend_eq_some.1 h
    rw [List.flatMap_append]
    exact prepend_eq_some.2 ⟨_, ih hk, rfl⟩

theorem follow_mono {emit : Occurrence ρ → List ι}
    {call call' : Grammar ρ → State → Option (Reply Value × List ι)}
    (hcall : ∀ g s x, call g s = some x → call' g s = some x)
    {p : Plan ρ} {x : Reply Value × List ι} (h : p.follow emit call = some x) :
    p.follow emit call' = some x := by
  have h' := follow_flatMap (fun x => [x])
    (fun g s r l hl => by simpa using hcall g s (r, l) hl) h
  simpa using h'

end Plan

namespace Grammar

/-- A run of a grammar: its plan is followed between its call and its return. -/
def invocation (table : ρ → Grammar ρ) (input : Input) (emit : Occurrence ρ → List ι)
    (call : Grammar ρ → State → Option (Reply Value × List ι)) (g : Grammar ρ) (s : State) :
    Option (Reply Value × List ι) :=
  ((g.plan table input s).follow emit call).map fun x =>
    (x.1, emit (.called g s) ++ x.2 ++ emit (.returned g s x.1))

theorem invocation_eq_some {table : ρ → Grammar ρ} {input : Input} {emit : Occurrence ρ → List ι}
    {call : Grammar ρ → State → Option (Reply Value × List ι)} {g : Grammar ρ} {s : State}
    {r : Reply Value} {l : List ι} :
    g.invocation table input emit call s = some (r, l) ↔
      ∃ k, (g.plan table input s).follow emit call = some (r, k) ∧
        l = emit (.called g s) ++ k ++ emit (.returned g s r) := by
  rw [invocation]
  rcases (g.plan table input s).follow emit call with _ | ⟨r', k⟩
  · simp
  · simp only [Option.map_some, Option.some.injEq, Prod.mk.injEq]
    constructor
    · rintro ⟨rfl, rfl⟩
      exact ⟨k, ⟨rfl, rfl⟩, rfl⟩
    · rintro ⟨k, ⟨rfl, rfl⟩, rfl⟩
      exact ⟨rfl, rfl⟩

theorem invocation_flatMap {table : ρ → Grammar ρ} {input : Input} {emit : Occurrence ρ → List ι}
    (f : ι → List κ) {call : Grammar ρ → State → Option (Reply Value × List ι)}
    {call' : Grammar ρ → State → Option (Reply Value × List κ)}
    (hcall : ∀ g s r l, call g s = some (r, l) → call' g s = some (r, l.flatMap f))
    {g : Grammar ρ} {s : State} {r : Reply Value} {l : List ι}
    (h : g.invocation table input emit call s = some (r, l)) :
    g.invocation table input (fun x => (emit x).flatMap f) call' s = some (r, l.flatMap f) := by
  obtain ⟨k, hk, rfl⟩ := invocation_eq_some.1 h
  exact invocation_eq_some.2 ⟨_, Plan.follow_flatMap f hcall hk, by simp⟩

/-- The reply of a grammar and the history of its parse, if invocations nest less than `n` deep. -/
def observe (table : ρ → Grammar ρ) (input : Input) :
    Nat → Grammar ρ → State → Option (Reply Value × List (Occurrence ρ))
  | 0, _, _ => none
  | n + 1, g, s => g.invocation table input (fun x => [x]) (observe table input n) s

variable {table : ρ → Grammar ρ} {input : Input}

theorem observe_succ_eq_some {n : Nat} {g : Grammar ρ} {s : State} {r : Reply Value}
    {h : List (Occurrence ρ)} :
    observe table input (n + 1) g s = some (r, h) ↔
      ∃ k, (g.plan table input s).follow (fun x => [x]) (observe table input n) = some (r, k) ∧
        h = .called g s :: k ++ [.returned g s r] := invocation_eq_some

theorem observe_succ {n : Nat} {g : Grammar ρ} {s : State} {x : Reply Value × List (Occurrence ρ)}
    (h : observe table input n g s = some x) : observe table input (n + 1) g s = some x := by
  induction n generalizing g s x with
  | zero => cases h
  | succ n ih =>
    obtain ⟨k, hk, hx⟩ := observe_succ_eq_some.1 h
    exact observe_succ_eq_some.2 ⟨k, Plan.follow_mono (fun g s x => ih) hk, hx⟩

theorem observe_mono {n m : Nat} (hn : n ≤ m) {g : Grammar ρ} {s : State}
    {x : Reply Value × List (Occurrence ρ)} (h : observe table input n g s = some x) :
    observe table input m g s = some x := by
  induction hn with
  | refl => exact h
  | step _ ih => exact observe_succ ih

/-- The parse of the grammar from the state ends with the reply and has the history. -/
def Observed (table : ρ → Grammar ρ) (input : Input) (g : Grammar ρ) (s : State) (r : Reply Value)
    (h : List (Occurrence ρ)) : Prop := ∃ n, observe table input n g s = some (r, h)

theorem Observed.unique {g : Grammar ρ} {s : State} {r r' : Reply Value}
    {h h' : List (Occurrence ρ)} (ho : Observed table input g s r h)
    (ho' : Observed table input g s r' h') : r = r' ∧ h = h' := by
  obtain ⟨n, hn⟩ := ho
  obtain ⟨m, hm⟩ := ho'
  have e := (observe_mono (Nat.le_max_left n m) hn).symm.trans
    (observe_mono (Nat.le_max_right n m) hm)
  cases e
  exact ⟨rfl, rfl⟩

end Grammar

end Descent
