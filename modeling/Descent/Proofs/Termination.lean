import Descent.Proofs.LeftRecursion

/-!
# Parses without left recursion end

Over a table without left recursion every parse ends that keeps the index. The measure has three
parts: the bytes that are left, the rank of the rule that runs, and the size of the grammar. What a
plan invokes has moved on, or it is a left part of the grammar, or the rule that a reference names.

That a parse ends does not rest on a limit of rounds. Every round of a repetition takes a byte at
least, so that there are fewer rounds than a repetition without a limit may take
(`Occurrence.PaysForRounds`).
-/

namespace Descent

variable {ρ : Type} {table : ρ → Grammar ρ} {input : Input}

/-- A repetition from index `i` has taken a byte for each of its values, apart from `free` ones. -/
def Reply.PaysFrom (i free : Nat) : Reply Value → Prop
  | success v t => ∃ vs, v = .arr vs ∧ vs.length + i ≤ t.index + free
  | _ => True

/-- A repetition has at most the given number of values. -/
def Reply.Collects (n : Nat) : Reply Value → Prop
  | success v _ => ∃ vs, v = .arr vs ∧ vs.length ≤ n
  | _ => True

/-- Every round of a repetition has taken a byte, and there were fewer than a repetition without a
limit may take. The first item of a separated list is no round. -/
def Occurrence.PaysForRounds (input : Input) : Occurrence ρ → Prop
  | returned (.times ..) s r => r.PaysFrom s.index 0 ∧ r.Collects (input.maxRounds - 1)
  | returned (.sepBy ..) s r => r.PaysFrom s.index 1 ∧ r.Collects input.maxRounds
  | _ => True

theorem Reply.PaysFrom.collects {r : Reply Value} {i free : Nat} (h : r.PaysFrom i free)
    (within : input.Within i r.index) : r.Collects (input.maxRounds - 1 + free) := by
  cases r with
  | success v t =>
    obtain ⟨vs, rfl, paid⟩ := h
    have rounds : t.index - i < input.maxRounds := within.rounds_lt
    exact ⟨vs, rfl, by omega⟩
  | failure | stalled => exact trivial

namespace Plan

variable {Φ : Grammar ρ → State → Reply Value → List (Occurrence ρ) → Prop}
  {post : Reply Value → Prop} {s : State} {n : Nat} {done : List Value → State → Plan ρ}

theorem ensures_rounds {p : Grammar ρ} (hfail : ∀ t, post (.failure t))
    (hstall : ∀ i, post (.stalled i))
    (hd : ∀ vs t, vs.length + s.index ≤ t.index → (done vs t).Ensures Φ fun r _ => post r) :
    (rounds p n s done).Ensures Φ fun r _ => post r := by
  induction n generalizing s done with
  | zero =>
    apply hd
    simp
  | succ n ih =>
    refine ⟨fun v t _ _ => ?_, fun t _ _ => ?_, fun i _ _ => hstall i⟩
    · unfold Ensures
      split
      · rename_i moved
        refine ih fun vs u hu => hd (v :: vs) u ?_
        rw [List.length_cons]
        omega
      · exact hstall _
    · dsimp only
      split
      · rename_i stayed
        apply hd
        rw [List.length_nil, Nat.zero_add]
        exact Nat.le_of_eq stayed.symm
      · exact hfail t

theorem ensures_separatedRounds {p sep : Grammar ρ} (hfail : ∀ t, post (.failure t))
    (hstall : ∀ i, post (.stalled i))
    (hd : ∀ vs t, vs.length + s.index ≤ t.index → (done vs t).Ensures Φ fun r _ => post r) :
    (separatedRounds p sep n s done).Ensures Φ fun r _ => post r := by
  induction n generalizing s done with
  | zero =>
    apply hd
    simp
  | succ n ih =>
    have stop (failed : State) :
        (recover s failed (done []) (.fail failed)).Ensures Φ fun r _ => post r := by
      unfold recover
      split
      · apply hd
        simp
      · exact hfail failed
    refine ⟨fun _ t _ _ => ⟨fun v u _ _ => ?_, fun u _ _ => stop u, fun i _ _ => hstall i⟩,
      fun t _ _ => stop t, fun i _ _ => hstall i⟩
    unfold Ensures
    split
    · rename_i moved
      refine ih fun vs w hw => hd (v :: vs) w ?_
      rw [List.length_cons]
      omega
    · exact hstall _

end Plan

namespace Grammar

variable {g : Grammar ρ} {s : State}

/-- The parse ends, at an index where a parse from there may end. -/
def Settles (table : ρ → Grammar ρ) (input : Input) (g : Grammar ρ) (s : State) : Prop :=
  ∃ r, g.Replies table input s r ∧ input.Within s.index r.index

/-- A parse ends if every parse further on does and, where it starts, the rules that it refers left
to do. -/
theorem settles_of_leftRef {i : Nat}
    (later : ∀ (p : Grammar ρ) (u : State), input.Within i u.index → i < u.index →
      p.StaysOnCourse table input u → p.Settles table input u)
    (rules : ∀ rule, LeftRef table rule g → ∀ u, u.index = i →
      (table rule).StaysOnCourse table input u → (table rule).Settles table input u)
    (hs : s.index = i) (course : g.StaysOnCourse table input s) : g.Settles table input s := by
  induction g using wellFounded_part.induction generalizing s with
  | _ g ih =>
    subst hs
    have onCourse (p : Grammar ρ) (u : State)
        (hp : (g.plan table input s).Reaches table input p u) : p.StaysOnCourse table input u :=
      course.called (.part hp .self)
    obtain ⟨r, ends, within⟩ := Plan.ends_of_climbs (climbs_plan (course g s .self))
      (fun p u hp => (onCourse p u hp).keepsIndex) fun p u hp within left => by
        by_cases moved : s.index < u.index
        · exact later p u within moved (onCourse p u hp)
        · have stayed : u.index = s.index := Nat.le_antisymm (Nat.le_of_not_lt moved) within.le
          rcases left stayed with part | ⟨rule, rfl, rfl⟩
          · exact ih p part.part (fun rule h => rules rule (.part part h)) stayed (onCourse p u hp)
          · exact rules rule .here u stayed (onCourse _ u hp)
    exact ⟨r, ends.replies, within⟩

theorem LeftRecursionFree.settles (free : LeftRecursionFree table)
    (course : g.StaysOnCourse table input s) : g.Settles table input s := by
  obtain ⟨ι, order, rank, smaller⟩ := free
  -- the bytes that are left come first
  induction bytes : input.byteLength - s.index using Nat.strongRecOn generalizing g s with
  | ind n ih =>
    subst bytes
    have later (p : Grammar ρ) (u : State) (within : input.Within s.index u.index)
        (moved : s.index < u.index) (hp : p.StaysOnCourse table input u) :
        p.Settles table input u := ih _ (within.bytes_lt moved) hp rfl
    have rules (rule : ρ) : ∀ u : State, u.index = s.index →
        (table rule).StaysOnCourse table input u → (table rule).Settles table input u := by
      induction rule using (InvImage.wf rank order.wf).induction with
      | _ rule below =>
        intro u hu hrule
        exact settles_of_leftRef later (fun rule' h => below rule' (smaller rule rule' h)) hu hrule
    exact settles_of_leftRef later (fun rule _ => rules rule) rfl course

/-- What the plan of a grammar ensures from the replies of its parts holds of its reply. -/
theorem Replies.post {post : Reply Value → Prop} {r : Reply Value}
    (parse : g.Replies table input s r)
    (ensures : (g.plan table input s).Ensures (fun p u r _ => p.Replies table input u r)
      fun r _ => post r) : post r := by
  obtain ⟨h, n, hn⟩ := replies_iff_observed.1 parse
  cases n with
  | zero => cases hn
  | succ n =>
    obtain ⟨k, hk, -⟩ := observe_succ_eq_some.1 hn
    have called (p : Grammar ρ) (u : State) (r : Reply Value) (l : List (Occurrence ρ))
        (hc : observe table input n p u = some (r, l)) (_ : ∀ x ∈ l, True) :
        p.Replies table input u r := replies_iff_observed.2 ⟨l, n, hc⟩
    exact Plan.post_of_follow called ensures hk fun _ _ => trivial

theorem paysFrom_times {min : Nat} {max : Option Nat} {p : Grammar ρ} {r : Reply Value}
    (parse : (times min max p).Replies table input s r) : r.PaysFrom s.index 0 := by
  refine parse.post (Plan.ensures_rounds (fun _ => trivial) (fun _ => trivial) fun vs t ht => ?_)
  split
  · exact trivial
  · exact ⟨vs, rfl, ht⟩

theorem paysFrom_sepBy {nonEmpty : Bool} {p sep : Grammar ρ} {r : Reply Value}
    (settles : p.Settles table input s)
    (parse : (sepBy nonEmpty p sep).Replies table input s r) : r.PaysFrom s.index 1 := by
  obtain ⟨x, hx, within⟩ := settles
  refine parse.post ⟨fun v t _ ht => ?_, fun t _ _ => ?_, fun _ _ _ => trivial⟩
  · obtain rfl : x = .success v t := hx.unique ht
    have hle : s.index ≤ t.index := within.le
    refine Plan.ensures_separatedRounds (fun _ => trivial) (fun _ => trivial) fun vs u hu => ?_
    refine ⟨v :: vs, rfl, ?_⟩
    rw [List.length_cons]
    omega
  · dsimp only
    split
    · exact trivial
    · unfold Plan.recover
      split
      · refine ⟨[], rfl, ?_⟩
        simp
      · exact trivial

/-- Over a table without left recursion every parse ends, from every state of every input, as long
as no grammar that sets the state changes the index. It ends no further on than at the end of the
input, and every round of a repetition in it has taken a byte. -/
theorem parse_ends (free : LeftRecursionFree table) (course : g.StaysOnCourse table input s) :
    ∃ r h, g.Replies table input s r ∧ g.Observed table input s r h ∧
      input.Within s.index r.index ∧ ∀ x ∈ h, x.PaysForRounds input := by
  obtain ⟨r, parse, within⟩ := free.settles course
  obtain ⟨h, ho⟩ := replies_iff_observed.1 parse
  refine ⟨r, h, parse, ho, within, fun x hx => ?_⟩
  cases x with
  | returned p u r' =>
    obtain ⟨calls, replies⟩ := run_of_mem ho hx
    have onCourse : p.StaysOnCourse table input u := course.called calls
    obtain ⟨r'', replies', within'⟩ := free.settles onCourse
    obtain rfl := replies'.unique replies
    cases p with
    | times min max p =>
      have pays := paysFrom_times replies
      exact ⟨pays, pays.collects within'⟩
    | sepBy nonEmpty p sep =>
      have pays := paysFrom_sepBy (free.settles (onCourse.called (.part .here .self))) replies
      have collects := pays.collects within'
      rw [Nat.sub_add_cancel (Nat.lt_of_le_of_lt (Nat.zero_le _) within'.rounds_lt)] at collects
      exact ⟨pays, collects⟩
    | _ => exact trivial
  | _ => exact trivial

/-- Lists of items, and items: a list in brackets, after a look at the bracket that opens it. -/
def brackets : Bool → Grammar Bool
  | true => .many (.ref false)
  | false =>
    .seqRight (.lookahead (.literal "(")) (.between (.literal "(") (.ref true) (.literal ")"))

/-- A list refers left to an item, and an item to nothing: the look does not move on, but the
bracket does. -/
theorem brackets_leftRecursionFree : LeftRecursionFree brackets := by
  refine ⟨Nat, inferInstance, Bool.toNat, fun rule rule' h => ?_⟩
  have opens : ¬ (literal "(" : Grammar Bool).MayStay brackets :=
    not_mayStay_literal brackets (by decide)
  cases rule with
  | true =>
    rcases h.cases with e | ⟨p, ⟨-, rfl⟩, h⟩
    · cases e
    · rcases h.cases with e | ⟨_, left, -⟩
      · cases e
        show 0 < 1
        exact Nat.one_pos
      · exact left.elim
  | false =>
    rcases h.cases with e | ⟨p, rfl | ⟨-, rfl⟩, h⟩
    · cases e
    · rcases h.cases with e | ⟨q, rfl, h⟩
      · cases e
      · rcases h.cases with e | ⟨_, left, -⟩
        · cases e
        · exact left.elim
    · rcases h.cases with e | ⟨q, rfl | ⟨stays, -⟩, h⟩
      · cases e
      · rcases h.cases with e | ⟨_, left, -⟩
        · cases e
        · exact left.elim
      · exact absurd stays opens

theorem brackets_everywhere (rule : Bool) :
    (brackets rule).Everywhere fun p => ¬ p.FixesIndex := by
  have leaf (text : String) : (literal text : Grammar Bool).Everywhere fun p => ¬ p.FixesIndex :=
    .intro nofun nofun
  cases rule with
  | true =>
    refine .intro nofun fun p hp => ?_
    obtain rfl : p = .ref false := hp
    exact .intro nofun nofun
  | false =>
    refine .intro nofun fun p hp => ?_
    rcases hp with rfl | rfl
    · refine .intro nofun fun p hp => ?_
      obtain rfl : p = .literal "(" := hp
      exact leaf "("
    · refine .intro nofun fun p hp => ?_
      rcases hp with rfl | rfl | rfl
      · exact leaf "("
      · exact .intro nofun nofun
      · exact leaf ")"

/-- A repetition of items that may be left out ends the parse behind the last item. -/
theorem parse_ends_brackets :
    LeftRecursionFree brackets ∧
      ∃ h, (many (maybe (ref false))).Observed brackets (.ofChars ['(', '(', ')', ')']) .start
        (.stalled 4) h ∧ ∀ x ∈ h, x.PaysForRounds (.ofChars ['(', '(', ')', ')']) := by
  refine ⟨brackets_leftRecursionFree, ?_⟩
  have parse : (many (maybe (ref false))).Replies brackets (.ofChars ['(', '(', ')', ')']) .start
      (.stalled 4) := ⟨6, rfl⟩
  have body : (maybe (ref false) : Grammar Bool).Everywhere fun p => ¬ p.FixesIndex := by
    refine .intro nofun fun p hp => ?_
    obtain rfl : p = .ref false := hp
    exact .intro nofun nofun
  have loop : (many (maybe (ref false)) : Grammar Bool).Everywhere fun p => ¬ p.FixesIndex := by
    refine .intro nofun fun p hp => ?_
    obtain rfl : p = .maybe (.ref false) := hp
    exact body
  obtain ⟨r, h, ends, ho, -, pays⟩ := parse_ends brackets_leftRecursionFree
    (staysOnCourse_of_everywhere brackets_everywhere loop .start)
  obtain rfl := ends.unique parse
  exact ⟨h, ho, pays⟩

end Grammar

end Descent
