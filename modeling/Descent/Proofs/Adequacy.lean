import Descent.Proofs.History

/-!
# Grammars run by their plans

The parser of a grammar answers exactly as following its plan does, and its trace shows exactly the
entries of the history. `answer_eq_invocation` is the equation for one layer: it joins each
combinator with its plan. `replies_iff_observed` joins whole parses: a grammar replies at some depth
of resolved references exactly if it has a history.
-/

namespace Descent

variable {ρ α β γ : Type}

/-! ## Outcomes of runs -/

namespace Run

/-- The reply of a run and the entries that it adds to the trace, if there is a reply. -/
def outcome? (r : Run α) : Option (Reply α × List Entry) := r.reply?.map (·, r.log.toList)

@[simp] theorem outcome?_mk (r : Reply α) (l : Log) :
    (⟨some r, l⟩ : Run α).outcome? = some (r, l.toList) := rfl

@[simp] theorem outcome?_mk_none (l : Log) : (⟨none, l⟩ : Run α).outcome? = none := rfl

@[simp] theorem outcome?_success (v : α) (s : State) :
    (success v s).outcome? = some (.success v s, []) := rfl

@[simp] theorem outcome?_failure (s : State) :
    (failure s : Run α).outcome? = some (.failure s, []) := rfl

@[simp] theorem outcome?_after (l : Log) (r : Run Value) :
    (after l r).outcome? = prepend l.toList r.outcome? := by
  obtain ⟨_ | r, m⟩ := r <;> simp [after, outcome?, prepend]

theorem resume_resume (r : Run α) (f : α → State → Run β) (k : State → Run β)
    (g : β → State → Run γ) :
    ((r.resume f k).resume g .failure).outcome? =
      (r.resume (fun v t => (f v t).resume g .failure)
        fun t => (k t).resume g .failure).outcome? := by
  obtain ⟨_ | ⟨v, t⟩ | t | i, l⟩ := r
  · rfl
  · simp only [resume, after]
    rcases f v t with ⟨_ | ⟨w, u⟩ | u | i, m⟩ <;> simp [outcome?, failure]
  · simp only [resume, after]
    rcases k t with ⟨_ | ⟨w, u⟩ | u | i, m⟩ <;> simp [outcome?, failure]
  · rfl

end Run

theorem Run.outcome?_eq_some {r : Run α} {x : Reply α} {l : List Entry} :
    r.outcome? = some (x, l) ↔ r.reply? = some x ∧ r.log.toList = l := by
  obtain ⟨_ | y, m⟩ := r <;> simp [Run.outcome?]

/-! ## One layer -/

namespace Grammar

variable (rules : ρ → Parser Value) (input : Input)

/-- How the parts of a grammar answer, where `rules` are the parsers of the names. -/
def answer (g : Grammar ρ) (s : State) : Option (Reply Value × List Entry) :=
  (g.parser rules input s).outcome?

/-- A plan followed with the answers of the parts. -/
def traced? (p : Plan ρ) : Option (Reply Value × List Entry) :=
  p.follow Occurrence.entries (answer rules input)

variable {rules input}

theorem outcome?_resume {p : Grammar ρ} {s : State} {succeed : Value → State → Run Value}
    {fail : State → Run Value} {onSuccess : Value → State → Plan ρ} {onFailure : State → Plan ρ}
    (hs : ∀ v t, (succeed v t).outcome? = traced? rules input (onSuccess v t))
    (hf : ∀ t, (fail t).outcome? = traced? rules input (onFailure t)) :
    ((p.parser rules input s).resume succeed fail).outcome? =
      traced? rules input (.invoke p s onSuccess onFailure) := by
  simp only [traced?, Plan.follow, answer]
  rcases p.parser rules input s with ⟨_ | ⟨v, t⟩ | t | i, l⟩
  · rfl
  · simpa [Run.resume, traced?] using congrArg (prepend l.toList) (hs v t)
  · simpa [Run.resume, traced?] using congrArg (prepend l.toList) (hf t)
  · rfl

theorem outcome?_invoke (g : Grammar ρ) (s : State) :
    (g.parser rules input s).outcome? = traced? rules input (.invoke g s .succeed .fail) := by
  simp only [traced?, Plan.follow, answer]
  rcases g.parser rules input s with ⟨_ | ⟨v, t⟩ | t | i, l⟩ <;> simp

theorem outcome?_failure (t : State) :
    (Run.failure t).outcome? = traced? rules input (.fail t : Plan ρ) := rfl

/-- A reader is the parser that reads with the same label and step. -/
theorem outcome?_reading (reader : Reader) (s : State) {step? : List Char → Option (α × Nat)}
    {f : α → Value} (hstep : ∀ rest, reader.step? rest = (step? rest).map (Prod.map f id)) :
    ((Parser.reading reader.label step?).map f input s).outcome? =
      traced? rules input (reader.plan input s : Plan ρ) := by
  simp only [Parser.map, Parser.reading, Reader.plan]
  rcases input.suffix? s.index with _ | rest
  · rfl
  · simp only [Option.bind_some, hstep]
    rcases step? rest with _ | ⟨v, n⟩ <;> rfl

theorem outcome?_seq {ps : List (Grammar ρ)} {s : State} {fin : List Value → State → Run Value}
    {done : List Value → State → Plan ρ}
    (hd : ∀ vs t, (fin vs t).outcome? = traced? rules input (done vs t)) :
    ((Parser.seq (parsers rules ps) input s).resume fin .failure).outcome? =
      traced? rules input (Plan.sequence ps s done) := by
  induction ps generalizing s fin done with
  | nil =>
    simpa [parsers, Parser.seq, Parser.pure, Run.resume, Run.success, Plan.sequence] using hd [] s
  | cons p ps ih =>
    simp only [parsers, Parser.seq, Plan.sequence]
    rw [Run.resume_resume]
    refine outcome?_resume (fun v t => ?_) fun _ => rfl
    rw [Run.resume_resume]
    refine ih fun vs u => ?_
    simpa [Run.resume, Run.success] using hd (v :: vs) u

theorem outcome?_recover {start failed : State} {next : State → Run α} {committed : Log}
    {fin : α → State → Run Value} {onNext : State → Plan ρ} {onCommitted : Plan ρ}
    (hn : ∀ t, ((next t).resume fin .failure).outcome? = traced? rules input (onNext t))
    (hc : some (.failure failed, committed.toList) = traced? rules input onCommitted) :
    ((Parser.recover start failed next committed).resume fin .failure).outcome? =
      traced? rules input (Plan.recover start failed onNext onCommitted) := by
  unfold Parser.recover Plan.recover
  split
  · exact hn _
  · simpa [Run.resume, Run.failure] using hc

theorem outcome?_altFrom {start : State} {i : Nat} {ps : List (Grammar ρ)} {s : State} :
    (Parser.altFrom start i (parsers rules ps) input s).outcome? =
      traced? rules input (Plan.alternatives start i ps s) := by
  induction ps generalizing i s with
  | nil => rfl
  | cons p ps ih =>
    refine outcome?_resume (fun _ _ => rfl) fun failed => ?_
    unfold Parser.recover Plan.recover
    split
    · rw [Run.outcome?_after, ih]
      rfl
    · rfl

theorem outcome?_rounds {p : Grammar ρ} {n : Nat} {a : List Value} {l : Log} {s : State}
    {fin : List Value → State → Run Value} {done : List Value → State → Plan ρ}
    (hd : ∀ vs t, (fin (a.reverse ++ vs) t).outcome? = traced? rules input (done vs t)) :
    ((Parser.rounds (p.parser rules) input n a l s).resume fin .failure).outcome? =
      prepend l.toList (traced? rules input (Plan.rounds p n s done)) := by
  -- `done` takes the values of the rounds to come, and `fin` those of the earlier ones as well
  induction n generalizing a l s done with
  | zero => simpa [Parser.rounds, Run.resume, Plan.rounds] using congrArg (prepend _) (hd [] s)
  | succ n ih =>
    simp only [Parser.rounds, Plan.rounds, traced?, Plan.follow, answer]
    rcases p.parser rules input s with ⟨_ | ⟨v, t⟩ | t | i, m⟩
    · rfl
    · simp only [Run.outcome?_mk]
      split
      · rw [ih (a := v :: a) fun vs u => by simpa using hd (v :: vs) u, Log.toList_append,
          ← prepend_prepend]
        simp [Occurrence.entries, *, traced?]
      · simp [Run.resume, Occurrence.entries, *]
    · simp only [Run.outcome?_mk]
      split
      · rw [← traced?, ← hd [] t]
        simp [Run.resume, prepend_prepend]
      · simp [Run.resume, Run.failure, Plan.follow]
    · simp [Run.resume]

theorem outcome?_separatedRounds {p sep : Grammar ρ} {n : Nat} {a : List Value} {l : Log}
    {s : State} {fin : List Value → State → Run Value} {done : List Value → State → Plan ρ}
    (hd : ∀ vs t, (fin (a.reverse ++ vs) t).outcome? = traced? rules input (done vs t)) :
    ((Parser.separatedRounds (p.parser rules) (sep.parser rules) input n a l s).resume fin
      .failure).outcome? =
        prepend l.toList (traced? rules input (Plan.separatedRounds p sep n s done)) := by
  induction n generalizing a l s done with
  | zero =>
    simpa [Parser.separatedRounds, Run.resume, Plan.separatedRounds] using
      congrArg (prepend _) (hd [] s)
  | succ n ih =>
    -- a round may stop softly at the separator and at the item, in the same way
    have stop : ∀ (failed : State) (m : Log),
        (Run.resume ⟨some (if failed.index = s.index then
            .success a.reverse (s.withExpected failed.expected) else .failure failed), m⟩ fin
          .failure).outcome? =
        prepend m.toList
          (traced? rules input (Plan.recover s failed (done []) (.fail failed))) := by
      intro failed m
      unfold Plan.recover
      split
      · rw [← hd]
        simp [Run.resume]
      · simp [Run.resume, Run.failure, traced?, Plan.follow]
    simp only [Parser.separatedRounds, Plan.separatedRounds, traced?, Plan.follow, answer] at stop ⊢
    rcases sep.parser rules input s with ⟨_ | ⟨_, t⟩ | t | i, m⟩
    · rfl
    · simp only [Run.outcome?_mk]
      rcases p.parser rules input t with ⟨_ | ⟨v, u⟩ | u | i, k⟩
      · rfl
      · simp only [Run.outcome?_mk]
        split
        · rw [ih (a := v :: a) fun vs w => by simpa using hd (v :: vs) w]
          simp [Occurrence.entries, *, traced?, prepend_prepend]
        · simp [Run.resume, Occurrence.entries, *]
      · simp only [Run.outcome?_mk, stop, Log.toList_append, prepend_prepend, List.append_assoc]
      · simp [Run.resume]
    · simp only [Run.outcome?_mk, stop, Log.toList_append, prepend_prepend]
    · simp [Run.resume]

/-- The bracket of a run shows nothing in the trace, unless the grammar is named. -/
theorem entries_bracket {g : Grammar ρ} (hg : ∀ name p, g ≠ .traced name p) (s : State)
    (r : Reply Value) : Occurrence.entries (.called g s) = [] ∧
      Occurrence.entries (.returned g s r) = [] := by
  cases g <;> first | exact ⟨rfl, rfl⟩ | exact absurd rfl (hg _ _)

theorem invocation_entries {table : ρ → Grammar ρ} {g : Grammar ρ} {s : State}
    {call : Grammar ρ → State → Option (Reply Value × List Entry)}
    (hg : ∀ name p, g ≠ .traced name p) :
    g.invocation table input Occurrence.entries call s =
      (g.plan table input s).follow Occurrence.entries call := by
  rw [invocation]
  rcases (g.plan table input s).follow Occurrence.entries call with _ | ⟨r, l⟩
  · rfl
  · simp [entries_bracket hg s r]

theorem outcome?_traced {table : ρ → Grammar ρ} (name : String) (p : Grammar ρ) (s : State) :
    ((traced name p).parser rules input s).outcome? =
      (traced name p).invocation table input Occurrence.entries (answer rules input) s := by
  simp only [parser, Parser.traced, invocation, plan, Plan.follow, answer]
  rcases p.parser rules input s with ⟨_ | ⟨v, t⟩ | t | i, l⟩ <;>
    simp [Run.outcome?, Occurrence.entries]

theorem answer_eq_invocation (table : ρ → Grammar ρ) {g : Grammar ρ} (hg : ∀ rule, g ≠ .ref rule)
    (s : State) : answer rules input g s =
      g.invocation table input Occurrence.entries (answer rules input) s := by
  show (g.parser rules input s).outcome? = _
  by_cases ht : ∃ name p, g = .traced name p
  · obtain ⟨name, p, rfl⟩ := ht
    exact outcome?_traced name p s
  rw [invocation_entries fun name p e => ht ⟨name, p, e⟩, ← traced?]
  cases g with
  | pure | fail | getState | setState | lookup | change => rfl
  | eof =>
    simp only [parser, unit, Parser.map, Parser.eof, plan]
    split <;> rfl
  | literal text =>
    refine outcome?_reading (Reader.literal text) s fun rest => ?_
    simp only [Reader.literal]
    split <;> rfl
  | satisfy accepts label =>
    refine outcome?_reading (Reader.satisfy accepts label) s fun rest => ?_
    rcases rest with _ | ⟨c, _⟩
    · rfl
    · simp only [Reader.satisfy]
      split <;> rfl
  | takeWhile1 accepts label =>
    refine outcome?_reading (Reader.takeWhile1 accepts label) s fun rest => ?_
    simp only [Reader.takeWhile1]
    split <;> rfl
  | pattern program label =>
    refine outcome?_reading (Reader.pattern program label) s fun rest => ?_
    simp only [Reader.pattern]
    rcases program.find? rest <;> rfl
  | restoring p | map f p => exact outcome?_resume (fun _ _ => rfl) outcome?_failure
  | chain p next => exact outcome?_resume (fun v t => outcome?_invoke (next v) t) outcome?_failure
  | seqRight p q => exact outcome?_resume (fun _ t => outcome?_invoke q t) outcome?_failure
  | seqLeft p q =>
    exact outcome?_resume (fun _ _ => outcome?_resume (fun _ _ => rfl) outcome?_failure)
      outcome?_failure
  | between left p right =>
    exact outcome?_resume (fun _ _ => outcome?_resume (fun _ _ =>
      outcome?_resume (fun _ _ => rfl) outcome?_failure) outcome?_failure) outcome?_failure
  | seq ps => exact outcome?_seq fun _ _ => rfl
  | or p q =>
    refine outcome?_resume (fun _ _ => rfl) fun failed => ?_
    unfold Parser.recover Plan.recover
    split
    · rw [Run.outcome?_after, outcome?_invoke]
      rfl
    · rfl
  | alt ps => exact outcome?_altFrom
  | attempt label? p =>
    refine outcome?_resume (fun _ _ => rfl) fun failed => ?_
    cases label? <;> dsimp only <;> split <;> rfl
  | maybe p =>
    refine (Run.resume_resume ..).trans (outcome?_resume (fun _ _ => rfl) fun failed => ?_)
    exact outcome?_recover (fun _ => rfl) rfl
  | lookahead p =>
    refine outcome?_resume (fun _ _ => rfl) fun failed => ?_
    rw [apply_ite Run.outcome?]
    split <;> rfl
  | not p =>
    refine (Run.resume_resume ..).trans (outcome?_resume (fun _ _ => rfl) fun failed => ?_)
    split <;> rfl
  | times min max p =>
    have bounded : ∀ n, (((Parser.rounds (p.parser rules) input n [] .empty s).resume
        (fun vs t => if vs.length < min then .failure t else .success vs t) .failure).resume
        (fun vs t => .success (.arr vs) t) .failure).outcome? =
          traced? rules input (Plan.rounds p n s fun vs t =>
            if vs.length < min then .fail t else .succeed (.arr vs) t) := fun n => by
      refine (Run.resume_resume ..).trans ?_
      refine (outcome?_rounds (l := .empty) fun vs t => ?_).trans (prepend_nil _)
      rw [List.reverse_nil, List.nil_append]
      split <;> rfl
    cases max <;> exact bounded _
  | sepBy nonEmpty p sep =>
    refine (Run.resume_resume ..).trans (outcome?_resume (fun v t => ?_) fun failed => ?_)
    · exact (outcome?_separatedRounds fun vs u => rfl).trans (prepend_nil _)
    · split
      · rfl
      · exact outcome?_recover (fun _ => rfl) rfl
  | traced name p => exact absurd ⟨name, p, rfl⟩ ht
  | ref rule => exact absurd rfl (hg rule)

/-! ## Whole parses -/

variable {table : ρ → Grammar ρ}

theorem answer_ref (n : Nat) (rule : ρ) (s : State) :
    answer (ruleParser table (n + 1)) input (.ref rule) s =
      answer (ruleParser table n) input (table rule) s := by
  rw [answer, parser, ruleParser, Parser.unfold_succ]
  rfl

theorem answer_ref_zero (rule : ρ) (s : State) :
    answer (ruleParser table 0) input (.ref rule) s = none := rfl

/-- A parse with a history is answered at every depth that its history allows. -/
theorem answer_of_observe {m n : Nat} (hn : m ≤ n) {g : Grammar ρ} {s : State} {r : Reply Value}
    {h : List (Occurrence ρ)} (ho : observe table input m g s = some (r, h)) :
    answer (ruleParser table n) input g s = some (r, h.flatMap Occurrence.entries) := by
  induction m generalizing n g s r h with
  | zero => cases ho
  | succ m ih =>
    by_cases hg : ∃ rule, g = .ref rule
    · -- a reference uses up a level of depth, but it is also an invocation of its own
      obtain ⟨rule, rfl⟩ := hg
      obtain ⟨n, rfl⟩ : ∃ k, n = k + 1 := ⟨n - 1, by omega⟩
      obtain ⟨k, hk, rfl⟩ := observe_succ_eq_some.1 ho
      rw [plan, Plan.follow_invoke] at hk
      rw [answer_ref, ih (by omega) hk]
      simp [Occurrence.entries]
    · rw [answer_eq_invocation table fun rule e => hg ⟨rule, e⟩]
      have hm : m ≤ n := by omega
      simpa using invocation_flatMap Occurrence.entries (fun _ _ _ _ hc => ih hm hc) ho

/-- If all that a plan invokes has a history, then so has what the plan does. -/
theorem follow_observe {P : Grammar ρ → Prop}
    {call : Grammar ρ → State → Option (Reply Value × List Entry)}
    (hcall : ∀ g s r l, P g → call g s = some (r, l) →
      ∃ h, Observed table input g s r h ∧ h.flatMap Occurrence.entries = l)
    {p : Plan ρ} (hp : p.Only P) {r : Reply Value} {l : List Entry}
    (hf : p.follow Occurrence.entries call = some (r, l)) :
    ∃ n h, p.follow (fun x => [x]) (observe table input n) = some (r, h) ∧
      h.flatMap Occurrence.entries = l := by
  induction p generalizing r l with
  | succeed v s | fail s =>
    cases hf
    exact ⟨0, [], rfl, rfl⟩
  | invoke g s onSuccess onFailure ihs ihf =>
    obtain ⟨hg, hps, hpf⟩ := hp
    -- what was invoked and what follows, each with a bound of its own
    have join : ∀ {x : Reply Value} {m k : List Entry} {q : Plan ρ},
        call g s = some (x, m) →
        (∃ n h, q.follow (fun x => [x]) (observe table input n) = some (r, h) ∧
          h.flatMap Occurrence.entries = k) →
        ∃ n h h', observe table input n g s = some (x, h) ∧
          q.follow (fun x => [x]) (observe table input n) = some (r, h') ∧
          (h ++ h').flatMap Occurrence.entries = m ++ k := by
      rintro x m k q hc ⟨n₂, h₂, e₂, rfl⟩
      obtain ⟨h₁, ⟨n₁, e₁⟩, rfl⟩ := hcall g s x m hg hc
      refine ⟨max n₁ n₂, h₁, h₂, observe_mono (Nat.le_max_left ..) e₁, ?_, by simp⟩
      exact Plan.follow_mono (fun _ _ _ => observe_mono (Nat.le_max_right ..)) e₂
    rcases Plan.follow_invoke_eq_some.1 hf with
      ⟨v, t, m, k, hc, hk, rfl⟩ | ⟨t, m, k, hc, hk, rfl⟩ | ⟨i, hc, rfl⟩
    · obtain ⟨n, h, h', e, e', eq⟩ := join hc (ihs v t (hps v t) hk)
      exact ⟨n, h ++ h', Plan.follow_invoke_eq_some.2 (.inl ⟨v, t, h, h', e, e', rfl⟩), eq⟩
    · obtain ⟨n, h, h', e, e', eq⟩ := join hc (ihf t (hpf t) hk)
      exact ⟨n, h ++ h', Plan.follow_invoke_eq_some.2 (.inr (.inl ⟨t, h, h', e, e', rfl⟩)), eq⟩
    · obtain ⟨h, ⟨n, e⟩, eq⟩ := hcall g s _ _ hg hc
      exact ⟨n, h, Plan.follow_invoke_eq_some.2 (.inr (.inr ⟨i, e, rfl⟩)), eq⟩
  | round start stop next ih =>
    rcases Plan.follow_round_eq_some.1 hf with ⟨moved, k, hk, rfl⟩ | ⟨stays, rfl, rfl⟩
    · obtain ⟨n, h, e, rfl⟩ := ih hp hk
      exact ⟨n, .round start stop :: h, Plan.follow_round_eq_some.2 (.inl ⟨moved, h, e, rfl⟩),
        by simp⟩
    · exact ⟨0, [.round start stop], Plan.follow_round_eq_some.2 (.inr ⟨stays, rfl, rfl⟩),
        by simp⟩
  | note e next ih =>
    obtain ⟨k, hk, rfl⟩ := prepend_eq_some.1 hf
    obtain ⟨n, h, e', rfl⟩ := ih hp hk
    exact ⟨n, .noted e :: h, by simp [Plan.follow, e'], by simp⟩

theorem observed_of_follow {n : Nat} {g : Grammar ρ} {s : State} {r : Reply Value}
    {k : List (Occurrence ρ)}
    (h : (g.plan table input s).follow (fun x => [x]) (observe table input n) = some (r, k)) :
    Observed table input g s r (.called g s :: k ++ [.returned g s r]) :=
  ⟨n + 1, observe_succ_eq_some.2 ⟨k, h, rfl⟩⟩

theorem observed_of_references {rules : ρ → Parser Value}
    (href : ∀ rule s r l, answer rules input (.ref rule) s = some (r, l) →
      ∃ h, Observed table input (.ref rule) s r h ∧ h.flatMap Occurrence.entries = l)
    {g : Grammar ρ} {s : State} {r : Reply Value} {l : List Entry}
    (ha : answer rules input g s = some (r, l)) :
    ∃ h, Observed table input g s r h ∧ h.flatMap Occurrence.entries = l := by
  -- references apart, a plan invokes only parts of the grammar
  induction g using wellFounded_part.induction generalizing s r l with
  | _ g ih =>
    by_cases hg : ∃ rule, g = .ref rule
    · obtain ⟨rule, rfl⟩ := hg
      exact href rule s r l ha
    rw [answer_eq_invocation table fun rule e => hg ⟨rule, e⟩] at ha
    obtain ⟨k, hk, rfl⟩ := invocation_eq_some.1 ha
    have parts := plan_only table input s g
    obtain ⟨n, h, hf, rfl⟩ := follow_observe
      (fun p s r l hp hc => hp.elim (fun hp => ih p hp hc) fun ⟨rule, e, _⟩ => absurd ⟨rule, e⟩ hg)
      parts hk
    exact ⟨_, observed_of_follow hf, by simp⟩

/-- A parse that is answered has a history, and the history accounts for its trace. -/
theorem observed_of_answer {n : Nat} {g : Grammar ρ} {s : State} {r : Reply Value} {l : List Entry}
    (ha : answer (ruleParser table n) input g s = some (r, l)) :
    ∃ h, Observed table input g s r h ∧ h.flatMap Occurrence.entries = l := by
  induction n generalizing g s r l with
  | zero => exact observed_of_references (fun rule s r l h => by cases h) ha
  | succ n ih =>
    refine observed_of_references (fun rule s r l h => ?_) ha
    rw [answer_ref] at h
    obtain ⟨k, ⟨m, hm⟩, rfl⟩ := ih h
    refine ⟨_, observed_of_follow (n := m) (g := .ref rule) (k := k) ?_, ?_⟩
    · rw [plan, Plan.follow_invoke, hm]
    · simp [Occurrence.entries]

/-- The parse of the grammar from the state ends with the reply, however deep references nest. -/
def Replies (table : ρ → Grammar ρ) (input : Input) (g : Grammar ρ) (s : State) (r : Reply Value) :
    Prop := ∃ depth, (g.parserWith table depth input s).reply? = some r

theorem replies_iff_observed {g : Grammar ρ} {s : State} {r : Reply Value} :
    Replies table input g s r ↔ ∃ h, Observed table input g s r h := by
  constructor
  · rintro ⟨n, hn⟩
    obtain ⟨h, ho, _⟩ := observed_of_answer (Run.outcome?_eq_some.2 ⟨hn, rfl⟩)
    exact ⟨h, ho⟩
  · rintro ⟨h, n, hn⟩
    exact ⟨n, (Run.outcome?_eq_some.1 (answer_of_observe (Nat.le_refl n) hn)).1⟩

theorem Replies.unique {g : Grammar ρ} {s : State} {r r' : Reply Value}
    (hr : Replies table input g s r) (hr' : Replies table input g s r') : r = r' := by
  obtain ⟨h, ho⟩ := replies_iff_observed.1 hr
  obtain ⟨h', ho'⟩ := replies_iff_observed.1 hr'
  exact (ho.unique ho').1

end Grammar

end Descent
