import Descent.Proofs.Calls
import Descent.Proofs.Stalling

/-!
# The shape of a trace

The trace of a parse is one span, and what stands in it are spans of the rules that the parse comes
to run, one after the other or one inside the other (`Grammar.Nests`). A span of a rule ends with
the event that tells how its parser replied, and the span of the parse with the event that tells its
result (`trace_of_runFrom`).

`openSpans?` reads a trace with a stack. Nested spans leave the stack as it is. So the spans that
are open where a repetition stalls are those that are left behind it, each with the news that it is
aborted.
-/

namespace Descent

variable {ρ : Type}

/-! ## Spans that are open -/

/-- The spans that are open behind the entries, the innermost first, if those of the stack are open
before. Only the innermost span may be left. -/
def openSpans? : List Span → List Entry → Option (List Span)
  | stack, [] => some stack
  | stack, .enter span :: l => openSpans? (span :: stack) l
  | [], .exit _ :: _ => none
  | top :: stack, .exit span :: l => if span = top then openSpans? stack l else none
  | stack, .event _ :: l => openSpans? stack l

theorem openSpans?_append (stack : List Span) (l m : List Entry) :
    openSpans? stack (l ++ m) = (openSpans? stack l).bind (openSpans? · m) := by
  induction l generalizing stack with
  | nil => cases stack <;> cases m <;> rfl
  | cons e l ih =>
    cases e with
    | enter span => simpa only [List.cons_append, openSpans?] using ih (span :: stack)
    | exit span =>
      cases stack with
      | nil => rfl
      | cons top stack =>
        simp only [List.cons_append, openSpans?]
        split
        · exact ih stack
        · rfl
    | event e => simpa only [List.cons_append, openSpans?] using ih stack

/-- How a span of a rule is left behind the round at index `i` of a repetition that stalled. -/
def aborting (i : Nat) (span : Span) : List Entry := [.event (.aborted i), .exit span]

/-- Spans that are left in order were the innermost ones, in that order. -/
theorem eq_append_of_openSpans?_aborting {i : Nat} {rules stack rest : List Span}
    (h : openSpans? stack (rules.flatMap (aborting i)) = some rest) : stack = rules ++ rest := by
  induction rules generalizing stack with
  | nil => cases stack <;> exact Option.some.inj h
  | cons span rules ih =>
    cases stack with
    | nil => cases h
    | cons top stack =>
      simp only [List.flatMap_cons, aborting, List.cons_append, List.nil_append, openSpans?] at h
      split at h
      · rename_i e
        rw [ih h, e, List.cons_append]
      · cases h

/-! ## Nested spans -/

/-- The event is the last one of a span. -/
def Event.Closes : Event → Prop
  | matched _ | failed .. | aborted _ | parseSucceeded _ | parseFailed .. | grammarError _ => True
  | _ => False

namespace Grammar

/-- The entries are spans of rules that the parse of `g` from `s` comes to run, and events between
them. The last event in the span of a rule, and no other there, tells the reply of its parser. -/
inductive Nests (table : ρ → Grammar ρ) (input : Input) (g : Grammar ρ) (s : State) :
    List Entry → Prop where
  | nil : Nests table input g s []
  | event {e : Event} {l : List Entry} (inside : ¬ e.Closes) (rest : Nests table input g s l) :
    Nests table input g s (.event e :: l)
  | rule {name : String} {p : Grammar ρ} {t : State} {depth : Nat} {r : Reply Value}
    {inner l : List Entry} (called : Calls table input (.traced name p) t g s)
    (run : (p.parserWith table depth input t).outcome? = some (r, inner))
    (inside : Nests table input g s inner) (rest : Nests table input g s l) :
    Nests table input g s (.enter (.rule name t.index) :: inner ++
      .event r.closing :: .exit (.rule name t.index) :: l)

variable {table : ρ → Grammar ρ} {input : Input} {g p : Grammar ρ} {s u : State} {r : Reply Value}
  {h : List (Occurrence ρ)} {l m : List Entry}

theorem Nests.append (hl : Nests table input g s l) (hm : Nests table input g s m) :
    Nests table input g s (l ++ m) := by
  induction hl with
  | nil => exact hm
  | event inside _ ih => exact .event inside ih
  | rule called run inside _ _ ih => simpa using Nests.rule called run inside ih

theorem Nests.openSpans?_eq (hl : Nests table input g s l) (stack : List Span) :
    openSpans? stack l = some stack := by
  induction hl generalizing stack with
  | nil => cases stack <;> rfl
  | event _ _ ih => cases stack <;> exact ih _
  | rule _ _ _ _ ihi ih =>
    rw [List.cons_append, openSpans?, openSpans?_append, ihi, Option.bind_some, openSpans?,
      openSpans?, if_pos rfl]
    exact ih stack

/-- While a plan is followed, spans nest if they do so in all that it invokes. -/
theorem nests_of_follow {n : Nat} {plan : Plan ρ}
    (hcall : ∀ p u r h, plan.Reaches table input p u → observe table input n p u = some (r, h) →
      (∀ e, .noted e ∈ h → ¬ e.Closes) → Nests table input g s (h.flatMap Occurrence.entries))
    (hf : plan.follow (fun x => [x]) (observe table input n) = some (r, h))
    (noted : ∀ e, .noted e ∈ h → ¬ e.Closes) :
    Nests table input g s (h.flatMap Occurrence.entries) := by
  induction plan generalizing r h with
  | succeed v s | fail s =>
    cases hf
    exact .nil
  | invoke q t onSuccess onFailure ihs ihf =>
    rcases Plan.follow_invoke_eq_some.1 hf with
      ⟨v, w, k, m, hc, hm, rfl⟩ | ⟨w, k, m, hc, hm, rfl⟩ | ⟨i, hc, rfl⟩
    · have reply : q.Replies table input t (.success v w) := replies_iff_observed.2 ⟨k, n, hc⟩
      rw [List.flatMap_append]
      refine (hcall q t _ k .here hc fun e he => noted e (List.mem_append_left _ he)).append ?_
      exact ihs v w (fun p u r h hp => hcall p u r h (.success reply hp)) hm fun e he =>
        noted e (List.mem_append_right _ he)
    · have reply : q.Replies table input t (.failure w) := replies_iff_observed.2 ⟨k, n, hc⟩
      rw [List.flatMap_append]
      refine (hcall q t _ k .here hc fun e he => noted e (List.mem_append_left _ he)).append ?_
      exact ihf w (fun p u r h hp => hcall p u r h (.failure reply hp)) hm fun e he =>
        noted e (List.mem_append_right _ he)
    · exact hcall q t _ h .here hc noted
  | round start stop next ih =>
    rcases Plan.follow_round_eq_some.1 hf with ⟨moved, k, hk, rfl⟩ | ⟨stays, -, rfl⟩
    · simpa [Occurrence.entries, moved] using
        ih (fun p u r h hp => hcall p u r h (.round moved hp)) hk fun e he =>
          noted e (List.mem_append_right _ he)
    · simpa [Occurrence.entries, stays] using Nests.event (by exact id) .nil
  | note e next ih =>
    obtain ⟨k, hk, rfl⟩ := prepend_eq_some.1 hf
    refine .event (noted e (by simp)) ?_
    exact ih (fun p u r h hp => hcall p u r h (.note hp)) hk fun e he =>
      noted e (List.mem_append_right _ he)

theorem nests_of_observe {n : Nat} (calls : Calls table input p u g s)
    (ho : observe table input n p u = some (r, h)) (noted : ∀ e, .noted e ∈ h → ¬ e.Closes) :
    Nests table input g s (h.flatMap Occurrence.entries) := by
  induction n generalizing p u r h with
  | zero => cases ho
  | succ n ih =>
    obtain ⟨k, hk, rfl⟩ := observe_succ_eq_some.1 ho
    have inside : Nests table input g s (k.flatMap Occurrence.entries) := by
      refine nests_of_follow (fun q t r h hq hc => ih ?_ hc) hk fun e he => noted e (by simp [he])
      exact (Calls.part hq .self).trans calls
    by_cases named : ∃ name q, p = .traced name q
    · obtain ⟨name, q, rfl⟩ := named
      rw [plan, Plan.follow_invoke] at hk
      simpa [Occurrence.entries] using
        Nests.rule calls (answer_of_observe (Nat.le_refl n) hk) inside .nil
    · obtain ⟨called, returned⟩ := entries_bracket (fun name q e => named ⟨name, q, e⟩) u r
      simpa [called, returned] using inside

/-- All events that are noted in a parse are those of choices. -/
theorem Observed.noted (ho : g.Observed table input s r h) {e : Event} (he : .noted e ∈ h) :
    e.Confined fun _ => True := by
  refine (ho.confined (G := fun _ => True) (fun x _ => ?_) trivial).2 _ he
  cases x with
  | called => exact fun _ => ⟨fun _ _ => trivial, fun _ _ _ _ _ => trivial⟩
  | _ => exact trivial

theorem Observed.nests (ho : g.Observed table input s r h) :
    Nests table input g s (h.flatMap Occurrence.entries) := by
  obtain ⟨n, hn⟩ := ho
  refine nests_of_observe .self hn fun e he closes => ?_
  have choice : e.Confined fun _ => True := Observed.noted ⟨n, hn⟩ he
  cases e <;> first | exact choice.elim | exact closes.elim

/-! ## Behind a repetition that stalls -/

/-- Answers that a repetition stalled show how spans of rules are left, and nothing else. -/
theorem entries_of_stalls {i : Nat} (stalls : ∀ y ∈ h, y.Stalls i) :
    ∃ rules : List Span, h.flatMap Occurrence.entries = rules.flatMap (aborting i) := by
  induction h with
  | nil => exact ⟨[], rfl⟩
  | cons y h ih =>
    obtain ⟨hy, hh⟩ := List.forall_mem_cons.1 stalls
    obtain ⟨rules, e⟩ := ih hh
    cases y with
    | returned p t r =>
      obtain rfl : r = .stalled i := hy
      by_cases named : ∃ name q, p = .traced name q
      · obtain ⟨name, q, rfl⟩ := named
        refine ⟨.rule name t.index :: rules, ?_⟩
        rw [List.flatMap_cons, List.flatMap_cons, e]
        rfl
      · have nothing := (entries_bracket (fun name q e => named ⟨name, q, e⟩) t (.stalled i)).2
        exact ⟨rules, by rw [List.flatMap_cons, nothing, List.nil_append, e]⟩
    | _ => exact hy.elim

/-- The warning about a repetition is what a round shows that stays where it started. -/
theorem stalled_mem_entries {x : Occurrence ρ}
    (noted : ∀ e, x = .noted e → e.Confined fun _ => True) {i : Nat} :
    .event (.stalled i) ∈ x.entries ↔ x.Stays i := by
  cases x with
  | called p t =>
    cases p <;> simp [Occurrence.entries, Occurrence.Stays]
  | returned p t r =>
    cases p <;> cases r <;> simp [Occurrence.entries, Occurrence.Stays, Reply.closing]
  | round start stop =>
    by_cases moved : start < stop
    · simp [Occurrence.entries, Occurrence.Stays, moved]
    · simp [Occurrence.entries, Occurrence.Stays, moved, Nat.le_of_not_lt moved, eq_comm]
  | noted e =>
    refine ⟨fun he => ?_, False.elim⟩
    obtain rfl : e = .stalled i := by simpa [Occurrence.entries, eq_comm] using he
    exact (noted _ rfl).elim

theorem Observed.stalled_mem_iff (ho : g.Observed table input s r h) {i : Nat} :
    .event (.stalled i) ∈ h.flatMap Occurrence.entries ↔ r = .stalled i := by
  rw [(Guarded.observed ho).stalled_iff, List.mem_flatMap]
  constructor
  · rintro ⟨x, hx, hi⟩
    have stays := (stalled_mem_entries fun e he => ho.noted (he ▸ hx)).1 hi
    cases x with
    | round start stop =>
      obtain ⟨rfl, hle⟩ := stays
      exact ⟨stop, hle, hx⟩
    | _ => exact stays.elim
  · rintro ⟨m, hm, hx⟩
    exact ⟨_, hx, (stalled_mem_entries fun e he => ho.noted (he ▸ hx)).2 ⟨rfl, hm⟩⟩

/-- The trace of a parse that a stalled repetition ends has one warning about it, and what follows
is that the spans open there are left, the innermost first. -/
theorem Observed.aborts {i : Nat} (ho : g.Observed table input s (.stalled i) h) :
    ∃ before rules,
      h.flatMap Occurrence.entries =
        before ++ .event (.stalled i) :: rules.flatMap (aborting i) ∧
      (∀ j, .event (.stalled j) ∉ before) ∧ openSpans? [] before = some rules := by
  have guarded := Guarded.observed ho
  obtain ⟨m, hm, hx⟩ := (guarded.stalled_iff i).1 rfl
  obtain ⟨h₁, h₂, rfl⟩ := List.append_of_mem hx
  obtain ⟨-, last, earlier⟩ := List.pairwise_append.1 guarded.last
  have stalls : ∀ y ∈ h₂, y.Stalls i :=
    fun y hy => (List.pairwise_cons.1 last).1 y hy i (.inr ⟨rfl, hm⟩)
  obtain ⟨rules, e⟩ := entries_of_stalls stalls
  have shape : (h₁ ++ .round i m :: h₂).flatMap Occurrence.entries =
      h₁.flatMap Occurrence.entries ++ .event (.stalled i) :: rules.flatMap (aborting i) := by
    simp [Occurrence.entries, e, Nat.not_lt.2 hm]
  refine ⟨_, rules, shape, fun j hj => ?_, ?_⟩
  · -- a round that stays would let the later one be an answer
    obtain ⟨x, hx, hj⟩ := List.mem_flatMap.1 hj
    have stays := (stalled_mem_entries fun e he => ho.noted (he ▸ List.mem_append_left _ hx)).1 hj
    exact earlier x hx _ List.mem_cons_self j (.inr stays)
  · have closed := ho.nests.openSpans?_eq []
    rw [shape, openSpans?_append] at closed
    obtain ⟨stack, hs, hr⟩ := Option.bind_eq_some_iff.1 closed
    rw [openSpans?] at hr
    rw [hs, eq_append_of_openSpans?_aborting hr, List.append_nil]

/-! ## The trace of a parse -/

/-- The trace of a parse is one span, whose last event tells the result, around nested spans of
rules. It warns of a stalled repetition exactly if that is the result, and then once; all that
follows is that the rules under way are aborted, the innermost first, and with them the parse. -/
theorem trace_of_runFrom {depth : Nat} {result : Result Value}
    (parse : ((g.parserWith table depth).runFrom input s).result? = some result) :
    let log := ((g.parserWith table depth).runFrom input s).log.toList
    ∃ l, log = .enter (.parse s.index input.byteLength) :: l ++
        [.event result.closing, .exit (.parse s.index input.byteLength)] ∧
      Nests table input g s l ∧
      (∀ i, .event (.stalled i) ∈ log ↔ result = .stalled i) ∧
      ∀ i, result = .stalled i → ∃ before rules,
        l = before ++ .event (.stalled i) :: rules.flatMap (aborting i) ∧
        (∀ j, .event (.stalled j) ∉ before) ∧ openSpans? [] before = some rules := by
  intro log
  rcases reply : (g.parserWith table depth input s).reply? with _ | r
  · simp only [Parser.runFrom, reply] at parse
    cases parse
  obtain ⟨h, ho, hl⟩ := observed_of_answer (Run.outcome?_eq_some.2 ⟨reply, rfl⟩)
  change _ = (g.parserWith table depth input s).log.toList at hl
  obtain rfl : Result.ofReply input s.index r = result := by
    simpa only [Parser.runFrom, reply, Option.some.injEq] using parse
  have shape : log = .enter (.parse s.index input.byteLength) :: h.flatMap Occurrence.entries ++
      [.event (Result.ofReply input s.index r).closing,
        .exit (.parse s.index input.byteLength)] := by
    simp [log, Parser.runFrom, reply, hl]
  have stalled_iff : ∀ i, Result.ofReply input s.index r = .stalled i ↔ r = .stalled i := by
    cases r <;> simp [Result.ofReply]
  refine ⟨_, shape, ho.nests, fun i => ?_, fun i hi => ?_⟩
  · have other : (Result.ofReply input s.index r).closing ≠ .stalled i := by
      cases r <;> simp [Result.ofReply, Result.closing]
    rw [stalled_iff, ← ho.stalled_mem_iff, shape]
    simp [other.symm]
  · obtain rfl := (stalled_iff i).1 hi
    exact ho.aborts

/-- A named list of named items that may be left out, inside a named document. -/
def listing : Grammar Empty :=
  .traced "document" (.seqRight (.literal "x")
    (.traced "list" (.many (.traced "item" (.maybe (.literal "a"))))))

/-- The list stalls behind its first item, at offset 2. -/
theorem trace_of_runFrom_listing :
    let run := (listing.parserWith Empty.elim 0).runFrom (.ofChars ['x', 'a', 'b']) .start
    run.result? = some (.stalled 2) ∧ .event (.stalled 2) ∈ run.log.toList ∧
      ∃ before rules, openSpans? [] before = some rules ∧ run.log.toList =
        .enter (.parse 0 3) :: (before ++ .event (.stalled 2) :: rules.flatMap (aborting 2)) ++
          [.event (.grammarError 2), .exit (.parse 0 3)] := by
  intro run
  have parse : run.result? = some (.stalled 2) := rfl
  obtain ⟨l, shape, -, iff, stalls⟩ := trace_of_runFrom parse
  obtain ⟨before, rules, rfl, -, opened⟩ := stalls 2 rfl
  exact ⟨parse, (iff 2).2 rfl, before, rules, opened, shape⟩

end Grammar

end Descent
