import Descent.Proofs.Position

/-!
# Values that spell what was consumed

A grammar that collects what its readers match, and neither drops nor adds any text on the way,
yields a value whose text is the slice of the input from where the parse started to where it ended
(`slice_eq_toChars`). What failed parts have read is in neither of the two: whatever goes on after a
failure does so from where the failed part started, and takes no value from it.
-/

namespace Descent

variable {ρ : Type}

/-! ## Grammars that keep their text -/

namespace Grammar

/-- The grammar adds no text to what its parts have read, and drops none. -/
def Verbatim : Grammar ρ → Prop
  | .pure v => v.toChars = []
  | fail | eof | literal _ | satisfy .. | takeWhile1 .. | pattern .. | .seq _ | or .. | alt _
  | attempt .. | maybe _ | not _ | times .. | traced .. | ref _ => True
  | seqLeft _ q => ∃ p, q = not p
  | _ => False

/-- The grammar `not_followed_by` keeps its text, for what it drops is the value of a negation. -/
example (p q : Grammar ρ) : (notFollowedBy p q).Verbatim := ⟨q, rfl⟩

end Grammar

/-- A success from the index yields the text that the input holds from there to its end, and a
negation succeeds where it started. -/
def Spells (input : Input) (g : Grammar ρ) (s : State) (r : Reply Value) : Prop :=
  ∀ v t, r = .success v t →
    input.Holds s.index v.toChars t.index ∧ ∀ p, g = .not p → t.index = s.index

namespace Plan

variable {input : Input} {i : Nat} {cs : List Char} {s : State} {p : Plan ρ}

/-- The plan succeeds with the text that the input holds from index `i` on, if all that it invokes
does so from where it starts. -/
def Spells (input : Input) (i : Nat) (p : Plan ρ) : Prop :=
  p.Ensures (fun g s r _ => input.Boundary s.index → Descent.Spells input g s r) fun r _ =>
    ∀ v t, r = .success v t → input.Holds i v.toChars t.index

theorem spells_succeed {v : Value} (h : input.Holds i v.toChars s.index) :
    (succeed v s : Plan ρ).Spells input i := by
  intro w t e
  cases e
  exact h

theorem spells_fail : (fail s : Plan ρ).Spells input i := nofun

theorem spells_invoke {g : Grammar ρ} {onSuccess : Value → State → Plan ρ}
    {onFailure : State → Plan ρ} (hs : input.Holds i cs s.index)
    (hsucceed : ∀ v t, input.Holds i (cs ++ v.toChars) t.index → (∀ p, g = .not p →
      t.index = s.index) → (onSuccess v t).Spells input i)
    (hfail : ∀ t, (onFailure t).Spells input i) :
    (invoke g s onSuccess onFailure).Spells input i := by
  refine ⟨fun v t l hl => ?_, fun t l _ => hfail t, fun _ _ _ => nofun⟩
  obtain ⟨holds, stays⟩ := hl hs.boundary v t rfl
  exact hsucceed v t (hs.append holds) stays

/-- An invocation from index `i` itself has no text before it. -/
theorem spells_first {g : Grammar ρ} {onSuccess : Value → State → Plan ρ}
    {onFailure : State → Plan ρ} (hi : input.Boundary i) (hs : s.index = i)
    (hsucceed : ∀ v t, input.Holds i v.toChars t.index → (onSuccess v t).Spells input i)
    (hfail : ∀ t, (onFailure t).Spells input i) :
    (invoke g s onSuccess onFailure).Spells input i := by
  have none : input.Holds i [] s.index := .nil hi hs
  exact spells_invoke none (fun v t ht _ => hsucceed v t ht) hfail

/-- What follows a soft failure starts where the failed part did. -/
theorem spells_recover {start failed : State} {next : State → Plan ρ} {committed : Plan ρ}
    (hn : ∀ t, t.index = start.index → (next t).Spells input i) (hc : committed.Spells input i) :
    (recover start failed next committed).Spells input i := by
  unfold recover
  split
  · exact hn _ rfl
  · exact hc

theorem spells_sequence {ps : List (Grammar ρ)} {done : List Value → State → Plan ρ}
    (hs : input.Holds i cs s.index)
    (hd : ∀ vs t, input.Holds i (cs ++ Value.elemsToChars vs) t.index →
      (done vs t).Spells input i) :
    (sequence ps s done).Spells input i := by
  induction ps generalizing s cs done with
  | nil => exact hd [] s (by rwa [Value.elemsToChars, List.append_nil])
  | cons p ps ih =>
    refine spells_invoke hs (fun v t ht _ => ih ht fun vs u hu => hd (v :: vs) u ?_)
      fun _ => spells_fail
    rwa [Value.elemsToChars, ← List.append_assoc]

theorem spells_alternatives {start : State} {n : Nat} {ps : List (Grammar ρ)}
    (hstart : input.Boundary start.index) (hs : s.index = start.index) :
    (alternatives start n ps s).Spells input start.index := by
  induction ps generalizing n s with
  | nil => exact spells_fail
  | cons p ps ih =>
    exact spells_first hstart hs (fun v t ht => spells_succeed ht) fun t =>
      spells_recover (fun u hu => ih hu) (spells_fail (ρ := ρ))

/-- The failure that ends the rounds is where the last of them ended, and adds nothing. -/
theorem spells_rounds {p : Grammar ρ} {n : Nat} {done : List Value → State → Plan ρ}
    (hs : input.Holds i cs s.index)
    (hd : ∀ vs t, input.Holds i (cs ++ Value.elemsToChars vs) t.index →
      (done vs t).Spells input i) :
    (rounds p n s done).Spells input i := by
  have none : input.Holds i (cs ++ Value.elemsToChars []) s.index := by
    rwa [Value.elemsToChars, List.append_nil]
  induction n generalizing s cs done with
  | zero => exact hd [] s none
  | succ n ih =>
    refine spells_invoke hs (fun v t ht _ => ?_) fun t => ?_
    · have more : ∀ vs u, input.Holds i (cs ++ v.toChars ++ Value.elemsToChars vs) u.index →
          (done (v :: vs) u).Spells input i := by
        intro vs u hu
        exact hd (v :: vs) u (by rwa [Value.elemsToChars, ← List.append_assoc])
      rw [Spells, Ensures]
      split
      · exact ih ht more (by rwa [Value.elemsToChars, List.append_nil])
      · intro w u e
        cases e
    · split
      · rename_i stayed
        exact hd [] t (stayed ▸ none)
      · exact spells_fail

end Plan

namespace Grammar

variable {table : ρ → Grammar ρ} {input : Input} {g : Grammar ρ} {s : State}

/-- The plan of a grammar that keeps its text spells what is read from where it starts. Negations
are left to `Observed.spells`, because more has to be known of them. -/
theorem spells_plan (keeps : g.Verbatim) (asserts : ∀ p, g ≠ .not p)
    (anchored : (Occurrence.called g s).Anchored input) (hs : input.Boundary s.index) :
    (g.plan table input s).Spells input s.index := by
  have read : ∀ reader, g.reader? = some reader → (g.plan table input s).Spells input s.index := by
    intro reader hg
    rw [plan_of_reader? hg, Reader.plan]
    split
    · rename_i v n hn
      obtain ⟨rest, hr, hstep⟩ := Option.bind_eq_some_iff.1 hn
      obtain ⟨back, rfl, rfl⟩ := Occurrence.takesFrom anchored hg hr v n hstep
      exact Plan.spells_succeed ⟨back, hr, rfl⟩
    · exact Plan.spells_fail
  cases g with
  | pure v =>
    have silent : v.toChars = [] := keeps
    exact Plan.spells_succeed (silent ▸ .nil hs rfl)
  | fail => exact Plan.spells_fail
  | eof =>
    rw [plan]
    split
    · exact Plan.spells_succeed (.nil hs rfl)
    · exact Plan.spells_fail
  | literal | satisfy | takeWhile1 | pattern => exact read _ rfl
  | seqLeft p q =>
    -- the part whose value is dropped is a negation, which ends where the other part did
    obtain ⟨q, rfl⟩ := keeps
    refine Plan.spells_first hs rfl (fun v t ht => ?_) fun _ => Plan.spells_fail
    refine Plan.spells_invoke ht (fun _ u _ stays => ?_) fun _ => Plan.spells_fail
    exact Plan.spells_succeed (stays q rfl ▸ ht)
  | seq ps => exact Plan.spells_sequence (.nil hs rfl) fun _ _ ht => Plan.spells_succeed ht
  | or p q =>
    refine Plan.spells_first hs rfl (fun v t ht => Plan.spells_succeed ht) fun t => ?_
    refine Plan.spells_recover (fun u hu => ?_) (Plan.spells_fail (ρ := ρ))
    exact Plan.spells_first (g := q) hs hu (fun v t ht => Plan.spells_succeed ht)
      fun _ => Plan.spells_fail
  | alt ps => exact Plan.spells_alternatives hs rfl
  | attempt label? p =>
    refine Plan.spells_first hs rfl (fun v t ht => Plan.spells_succeed ht) fun t => ?_
    dsimp only
    split <;> exact Plan.spells_fail (ρ := ρ)
  | maybe p =>
    refine Plan.spells_first hs rfl (fun v t ht => Plan.spells_succeed ?_) fun t => ?_
    · rwa [Value.option, Value.toChars, Value.elemsToChars, Value.elemsToChars, List.append_nil]
    · exact Plan.spells_recover (fun u hu => Plan.spells_succeed (.nil hs hu)) Plan.spells_fail
  | not p => exact absurd rfl (asserts p)
  | times min max p =>
    refine Plan.spells_rounds (.nil hs rfl) fun vs t ht => ?_
    split
    · exact Plan.spells_fail
    · exact Plan.spells_succeed ht
  | traced | ref =>
    exact Plan.spells_first hs rfl (fun v t ht => Plan.spells_succeed ht) fun _ => Plan.spells_fail
  | _ => exact keeps.elim

theorem Observed.spells {r : Reply Value} {h : List (Occurrence ρ)}
    (ho : g.Observed table input s r h)
    (keeps : ∀ x ∈ h, x.Anchored input ∧ ∀ p t, x = .called p t → p.Verbatim)
    (hs : input.Boundary s.index) : Spells input g s r := by
  refine observed_ensures (P := fun _ s => input.Boundary s.index)
    (Q := fun g s r _ => Spells input g s r) (fun g s ok hs => ?_) ho keeps hs
  by_cases negation : ∃ p, g = .not p
  · obtain ⟨p, rfl⟩ := negation
    refine ⟨fun _ _ _ _ => nofun, fun t _ _ => ?_, fun _ _ _ => nofun⟩
    dsimp only
    split
    · rintro v u e
      cases e
      exact ⟨.nil hs rfl, fun _ _ => rfl⟩
    · exact nofun
  · have asserts : ∀ p, g ≠ .not p := fun p e => negation ⟨p, e⟩
    refine (spells_plan (ok.2 g s rfl) asserts ok.1 hs).imp fun r _ hr v t e => ⟨hr v t e, ?_⟩
    exact fun p e => absurd e (asserts p)

/-- The text of the value of a parse is the input between the indices where it started and ended,
for every grammar that keeps its text everywhere. -/
theorem slice_eq_toChars {depth : Nat} {v : Value} {t : State}
    (htable : ∀ rule, (table rule).Everywhere Verbatim) (hg : g.Everywhere Verbatim)
    (anchored : g.Anchored table input s) (hs : input.Boundary s.index)
    (parse : (g.parserWith table depth input s).reply? = some (.success v t)) :
    input.slice? s.index t.index = some v.toChars := by
  obtain ⟨h, ho⟩ := replies_iff_observed.1 ⟨depth, parse⟩
  have spells : Spells input g s (.success v t) := ho.spells (fun x hx => by
    refine ⟨anchored _ h ho x hx, fun p u e => ?_⟩
    exact called_everywhere htable hg ho p u (e ▸ hx)) hs
  exact (spells v t rfl).1.slice?

/-- Finds a letter at the start of what it searches. -/
def letterC : Program := .ofRegex (.seq (.look .textStart) (.text ['c']))

/-- A bracket around three letters, behind a dash. -/
def bracketedText : Input := .ofChars ['-', 'ä', 'c', 'c', 'c', 'd', 'é']

/-- Brackets around brackets, the innermost around letters of which the last one, in front of a
`d`, is left to the closing bracket. -/
def bracketed (_ : Unit) : Grammar Unit :=
  .or (.attempt none (.seq [.literal "ä", .ref (), .literal "cd"]))
    (.many (.attempt none (.notFollowedBy (.pattern letterC "c") (.literal "d"))))

theorem bracketed_everywhere {c : Grammar Unit → Prop} (pattern : c (.pattern letterC "c"))
    (composed : ∀ p : Grammar Unit, (∀ program label, p ≠ .pattern program label) →
      p.Verbatim → c p) (rule : Unit) : (bracketed rule).Everywhere c := by
  have leaf (text : String) : (literal text : Grammar Unit).Everywhere c :=
    .intro (composed _ nofun trivial) nofun
  refine .intro (composed _ nofun trivial) fun p hp => ?_
  rcases hp with rfl | rfl
  · refine .intro (composed _ nofun trivial) fun p hp => ?_
    obtain rfl : p = .seq [.literal "ä", .ref (), .literal "cd"] := hp
    refine .intro (composed _ nofun trivial) fun p hp => ?_
    simp only [Part, List.mem_cons, List.not_mem_nil, or_false] at hp
    rcases hp with rfl | rfl | rfl
    · exact leaf "ä"
    · exact .intro (composed _ nofun trivial) nofun
    · exact leaf "cd"
  · refine .intro (composed _ nofun trivial) fun p hp => ?_
    obtain rfl : p = .attempt none (.notFollowedBy (.pattern letterC "c") (.literal "d")) := hp
    refine .intro (composed _ nofun trivial) fun p hp => ?_
    obtain rfl : p = .notFollowedBy (.pattern letterC "c") (.literal "d") := hp
    refine .intro (composed _ nofun ⟨_, rfl⟩) fun p hp => ?_
    rcases hp with rfl | rfl
    · exact .intro pattern nofun
    · refine .intro (composed _ nofun trivial) fun p hp => ?_
      obtain rfl : p = .literal "d" := hp
      exact leaf "d"

/-- The only pattern in the brackets finds its letter at the start, wherever it is searched for. -/
theorem bracketed_anchored :
    (bracketed ()).Anchored bracketed bracketedText ⟨1, [], .empty⟩ := by
  have letters : ∀ rule, (bracketed rule).Everywhere fun p => ∀ program label,
      p = .pattern program label → program = letterC := by
    refine bracketed_everywhere ?_ fun p hp _ program label e => absurd e (hp program label)
    rintro _ _ ⟨⟩
    rfl
  have starts : ∀ i ≤ 9, ((bracketedText.suffix? i).bind letterC.find?).all (·.before = []) := by
    decide +kernel
  intro r h ho x hx
  cases x with
  | called p t =>
    have hp := called_everywhere letters (letters ()) ho p t hx
    cases p with
    | pattern program label =>
      obtain rfl := hp program label rfl
      intro rest hrest found hfound
      have start := starts t.index (Input.boundary_iff.2 ⟨rest, hrest⟩).le
      rw [hrest, Option.bind_some, hfound] at start
      simpa using start
    | _ => exact trivial
  | _ => exact trivial

/-- Two bytes for the bracket, three letters and the `d` are what is between 1 and 7. -/
theorem slice_eq_toChars_bracketed :
    let v := Value.arr [.str "ä", .arr [.str "c", .str "c"], .str "cd"]
    ((bracketed ()).parserWith bracketed 1 bracketedText ⟨1, [], .empty⟩).reply? =
        some (.success v ⟨7, [], .empty⟩) ∧
      bracketedText.slice? 1 7 = some v.toChars := by
  have keeps : ∀ rule, (bracketed rule).Everywhere Verbatim :=
    bracketed_everywhere trivial fun _ _ hp => hp
  have parse : ((bracketed ()).parserWith bracketed 1 bracketedText ⟨1, [], .empty⟩).reply? = some
      (.success (.arr [.str "ä", .arr [.str "c", .str "c"], .str "cd"]) ⟨7, [], .empty⟩) := by
    decide +kernel
  have boundary : bracketedText.Boundary 1 := ⟨['-'], ['ä', 'c', 'c', 'c', 'd', 'é'], rfl, rfl⟩
  exact ⟨parse, slice_eq_toChars keeps (keeps ()) bracketed_anchored boundary parse⟩

end Grammar

end Descent
