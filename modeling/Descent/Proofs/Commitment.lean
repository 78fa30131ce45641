import Descent.Proofs.Position

/-!
# A failure away from its start stands

As long as nothing takes failures back, a failure that leaves the index where it moved to is the
reply of the whole parse. No choice, repetition or negation around it goes on, because each of them
started no further on (`Plan.Commits`), so that the failure moved for all of them. `Committed` is
the invariant of the reply and the history of every run.
-/

namespace Descent

variable {ρ : Type}

namespace Grammar

/-- The grammar takes failures back to where it started. -/
def TakesBack : Grammar ρ → Prop
  | attempt .. | lookahead _ => True
  | _ => False

end Grammar

/-! ## Plans that commit -/

namespace Plan

/-- The plan fails with the state, whatever it notes before. -/
def Passes (t : State) : Plan ρ → Prop
  | .fail u => u = t
  | .note _ next => next.Passes t
  | _ => False

/-- The plan runs from `lo` on, and passes on the failure of an invocation that moved. -/
def Commits (lo : Nat) : Plan ρ → Prop
  | .succeed _ s | .fail s => lo ≤ s.index
  | .invoke _ s onSuccess onFailure => lo ≤ s.index ∧
    (∀ v t, s.index ≤ t.index → (onSuccess v t).Commits lo) ∧
    (∀ t, t.index = s.index → (onFailure t).Commits lo) ∧
    ∀ t, s.index < t.index → (onFailure t).Passes t
  | .round start _ next => lo ≤ start ∧ next.Commits lo
  | .note _ next => next.Commits lo

variable {lo : Nat} {s : State}

/-- An invocation whose failures are all passed on. -/
theorem commits_run {g : Grammar ρ} {onSuccess : Value → State → Plan ρ} (hs : lo ≤ s.index)
    (hsucceed : ∀ v t, lo ≤ t.index → (onSuccess v t).Commits lo) :
    (invoke g s onSuccess .fail).Commits lo := by
  refine ⟨hs, fun v t ht => hsucceed v t (Nat.le_trans hs ht), fun t ht => ?_, fun t _ => rfl⟩
  exact Nat.le_trans hs (Nat.le_of_eq ht.symm)

/-- An invocation after whose failure a plan goes on, but only where it started from or before. -/
theorem commits_choose {g : Grammar ρ} {start : State} {onSuccess : Value → State → Plan ρ}
    {soft committed : State → Plan ρ} (hs : lo ≤ s.index) (hstart : start.index ≤ s.index)
    (hsucceed : ∀ v t, s.index ≤ t.index → (onSuccess v t).Commits lo)
    (hsoft : ∀ t, t.index = start.index → (soft t).Commits lo)
    (hc : ∀ t, lo ≤ t.index → (committed t).Commits lo) (hp : ∀ t, (committed t).Passes t) :
    (invoke g s onSuccess fun t => if t.index = start.index then soft t else committed t).Commits
      lo := by
  refine ⟨hs, hsucceed, fun t ht => ?_, fun t ht => ?_⟩
  · dsimp only
    split
    · exact hsoft t (by assumption)
    · exact hc t (ht ▸ hs)
  · dsimp only
    rw [if_neg (by omega)]
    exact hp t

theorem commits_read (reader : Reader) (input : Input) (hs : lo ≤ s.index) :
    (reader.plan input s : Plan ρ).Commits lo := by
  unfold Reader.plan
  split
  · exact Nat.le_trans hs (Nat.le_add_right _ _)
  · exact hs

theorem commits_sequence {ps : List (Grammar ρ)} {done : List Value → State → Plan ρ}
    (hs : lo ≤ s.index) (hd : ∀ vs t, lo ≤ t.index → (done vs t).Commits lo) :
    (sequence ps s done).Commits lo := by
  induction ps generalizing s done with
  | nil => exact hd _ _ hs
  | cons p ps ih => exact commits_run hs fun v t ht => ih ht fun vs => hd (v :: vs)

theorem commits_alternatives {start : State} {i : Nat} {ps : List (Grammar ρ)}
    (hstart : lo ≤ start.index) (hs : s.index = start.index) :
    (alternatives start i ps s).Commits lo := by
  induction ps generalizing i s with
  | nil => exact Nat.le_trans hstart (Nat.le_of_eq hs.symm)
  | cons p ps ih =>
    have hlo : lo ≤ s.index := hs ▸ hstart
    refine commits_choose hlo (Nat.le_of_eq hs.symm) (fun _ _ ht => Nat.le_trans hlo ht) ?_
      (fun t ht => ht) fun t => rfl
    exact fun t _ => ih rfl

theorem commits_rounds {p : Grammar ρ} {n : Nat} {done : List Value → State → Plan ρ}
    (hs : lo ≤ s.index) (hd : ∀ vs t, lo ≤ t.index → (done vs t).Commits lo) :
    (rounds p n s done).Commits lo := by
  induction n generalizing s done with
  | zero => exact hd _ _ hs
  | succ n ih =>
    refine commits_choose hs (Nat.le_refl _) (fun v t ht => ⟨hs, ?_⟩) (fun t ht => ?_)
      (fun t ht => ht) fun t => rfl
    · exact ih (Nat.le_trans hs ht) fun vs => hd (v :: vs)
    · exact hd [] t (ht ▸ hs)

theorem commits_separatedRounds {p sep : Grammar ρ} {n : Nat} {done : List Value → State → Plan ρ}
    (hs : lo ≤ s.index) (hd : ∀ vs t, lo ≤ t.index → (done vs t).Commits lo) :
    (separatedRounds p sep n s done).Commits lo := by
  induction n generalizing s done with
  | zero => exact hd _ _ hs
  | succ n ih =>
    have stop : ∀ t : State, t.index = s.index →
        (done [] (s.withExpected t.expected)).Commits lo := fun t _ => hd _ _ hs
    refine commits_choose hs (Nat.le_refl _) (fun _ t ht => ?_) stop (fun t ht => ht) fun t => rfl
    -- the item starts where the separator ended, but its failure is measured from the round's start
    refine commits_choose (Nat.le_trans hs ht) ht (fun v u hu => ⟨hs, ?_⟩) stop (fun t ht => ht)
      fun t => rfl
    exact ih (Nat.le_trans hs (Nat.le_trans ht hu)) fun vs => hd (v :: vs)

end Plan

namespace Grammar

theorem commits_plan {table : ρ → Grammar ρ} {input : Input} {g : Grammar ρ} {s : State}
    (stands : ¬ g.TakesBack) (keeps : (Occurrence.called g s).KeepsIndex) :
    (g.plan table input s).Commits s.index := by
  have hs : s.index ≤ s.index := Nat.le_refl _
  cases g with
  | pure | fail | getState | lookup => exact hs
  | eof =>
    rw [plan]
    split <;> exact hs
  | literal | satisfy | takeWhile1 | pattern => exact Plan.commits_read _ _ hs
  | setState new =>
    have e : new.index = s.index := keeps
    exact Nat.le_of_eq e.symm
  | change c =>
    cases c with
    | put | drop => exact hs
    | seek n =>
      obtain rfl : n = s.index := keeps
      exact hs
  | restoring => exact Plan.commits_run hs fun _ _ _ => hs
  | map | traced | ref => exact Plan.commits_run hs fun _ _ ht => ht
  | chain | seqRight | seqLeft =>
    exact Plan.commits_run hs fun _ _ ht => Plan.commits_run ht fun _ _ hu => hu
  | between =>
    exact Plan.commits_run hs fun _ _ ht => Plan.commits_run ht fun _ _ hu =>
      Plan.commits_run hu fun _ _ hw => hw
  | seq => exact Plan.commits_sequence hs fun _ _ ht => ht
  | or p q =>
    have second : ∀ t : State, t.index = s.index → (Plan.note (.firstFailedSoftly s.index)
        (.invoke q (s.withExpected t.expected) .succeed .fail)).Commits s.index :=
      fun _ _ => Plan.commits_run (g := q) hs fun _ _ hu => hu
    exact Plan.commits_choose hs hs (fun _ _ ht => ht) second (fun _ ht => ht) fun _ => rfl
  | alt => exact Plan.commits_alternatives hs rfl
  | attempt | lookahead => exact absurd trivial stands
  | maybe =>
    exact Plan.commits_choose hs hs (fun _ _ ht => ht) (fun _ _ => hs) (fun _ ht => ht) fun _ => rfl
  | not =>
    exact Plan.commits_choose hs hs (fun _ _ _ => hs) (fun _ _ => hs) (fun _ ht => ht) fun _ => rfl
  | times =>
    refine Plan.commits_rounds hs fun vs t ht => ?_
    split <;> exact ht
  | sepBy nonEmpty p sep =>
    have first : ∀ v t, s.index ≤ t.index → (Plan.separatedRounds p sep input.maxRounds t
        fun vs u => .succeed (.arr (v :: vs)) u).Commits s.index :=
      fun v t ht => Plan.commits_separatedRounds ht fun _ _ hu => hu
    cases nonEmpty with
    | true => exact Plan.commits_run hs first
    | false => exact Plan.commits_choose hs hs first (fun _ _ => hs) (fun _ ht => ht) fun _ => rfl

end Grammar

/-! ## Histories in which a failure stands -/

namespace Occurrence

/-- A grammar fails away from where it started. -/
def Strays (t : State) : Occurrence ρ → Prop
  | returned _ s r => r = .failure t ∧ t.index ≠ s.index
  | _ => False

/-- A grammar under way hands a failure on, or the trace notes something about it. -/
def HandsOn (t : State) : Occurrence ρ → Prop
  | returned _ _ r => r = .failure t
  | noted _ => True
  | _ => False

/-- A grammar answers from where it started or from further on. -/
def GoesOn (lo : Nat) : Occurrence ρ → Prop
  | returned _ s r => lo ≤ s.index ∧ s.index ≤ r.index
  | _ => True

end Occurrence

/-- From `lo` on nothing goes back, and a failure that strays is the reply: once there is one,
nothing occurs any more but that it is handed on. -/
structure Committed (lo : Nat) (r : Reply Value) (h : List (Occurrence ρ)) : Prop where
  le_index : lo ≤ r.index
  goesOn : ∀ x ∈ h, x.GoesOn lo
  reply_eq : ∀ x ∈ h, ∀ t, x.Strays t → r = .failure t
  last : h.Pairwise fun x y => ∀ t, x.Strays t → y.HandsOn t

/-- No failure in the history strays. -/
def Steady (h : List (Occurrence ρ)) : Prop := ∀ x ∈ h, ∀ t, ¬ x.Strays t

namespace Committed

variable {lo : Nat} {r : Reply Value} {h k : List (Occurrence ρ)}

theorem nil (hr : lo ≤ r.index) : Committed lo r ([] : List (Occurrence ρ)) where
  le_index := hr
  goesOn x hx := by cases hx
  reply_eq x hx := by cases hx
  last := List.Pairwise.nil

theorem mono {lo' : Nat} (hc : Committed lo' r h) (hlo : lo ≤ lo') : Committed lo r h where
  le_index := Nat.le_trans hlo hc.le_index
  goesOn x hx := by
    have hx := hc.goesOn x hx
    cases x with
    | returned g s r' => exact ⟨Nat.le_trans hlo hx.1, hx.2⟩
    | _ => exact trivial
  reply_eq := hc.reply_eq
  last := hc.last

/-- Where a run does not fail away from its start, nothing in it has strayed. -/
theorem steady (hc : Committed lo r h) (hr : ∀ t, r = .failure t → t.index = lo) : Steady h := by
  intro x hx t ht
  have e := hc.reply_eq x hx t ht
  have hi := hr t e
  cases x with
  | returned g s r' =>
    obtain ⟨rfl, moved⟩ := ht
    obtain ⟨hlo, hle⟩ := hc.goesOn _ hx
    exact moved (by have : s.index ≤ t.index := hle; omega)
  | _ => exact ht

theorem prepend (hh : Steady h) (hgo : ∀ x ∈ h, x.GoesOn lo) (hc : Committed lo r k) :
    Committed lo r (h ++ k) where
  le_index := hc.le_index
  goesOn := List.forall_mem_append.2 ⟨hgo, hc.goesOn⟩
  reply_eq := List.forall_mem_append.2 ⟨fun x hx t ht => absurd ht (hh x hx t), hc.reply_eq⟩
  last := by
    refine List.pairwise_append.2 ⟨?_, hc.last, fun x hx y _ t ht => absurd ht (hh x hx t)⟩
    exact List.pairwise_of_forall_mem_list fun x hx y _ t ht => absurd ht (hh x hx t)

/-- A failure handed on is the reply as before. -/
theorem append {t : State} (hc : Committed lo (.failure t) h)
    (hk : ∀ x ∈ k, ∃ e, x = (.noted e : Occurrence ρ)) : Committed lo (.failure t) (h ++ k) where
  le_index := hc.le_index
  goesOn := by
    refine List.forall_mem_append.2 ⟨hc.goesOn, fun x hx => ?_⟩
    obtain ⟨e, rfl⟩ := hk x hx
    exact trivial
  reply_eq := by
    refine List.forall_mem_append.2 ⟨hc.reply_eq, fun x hx t ht => ?_⟩
    obtain ⟨e, rfl⟩ := hk x hx
    exact ht.elim
  last := by
    refine List.pairwise_append.2 ⟨hc.last, ?_, ?_⟩
    · refine List.pairwise_of_forall_mem_list fun x hx y _ t ht => ?_
      obtain ⟨e, rfl⟩ := hk x hx
      exact ht.elim
    · intro x _ y hy t _
      obtain ⟨e, rfl⟩ := hk y hy
      exact trivial

/-- The reply of a whole run comes at the end of its history. -/
theorem append_returned {g : Grammar ρ} {s : State} (hc : Committed s.index r h) :
    Committed s.index r (.called g s :: h ++ [.returned g s r]) where
  le_index := hc.le_index
  goesOn := by
    refine List.forall_mem_cons.2 ⟨trivial, List.forall_mem_append.2 ⟨hc.goesOn, ?_⟩⟩
    exact List.forall_mem_singleton.2 ⟨Nat.le_refl _, hc.le_index⟩
  reply_eq := by
    refine List.forall_mem_cons.2 ⟨fun t ht => ht.elim, List.forall_mem_append.2 ⟨hc.reply_eq, ?_⟩⟩
    exact List.forall_mem_singleton.2 fun t ht => ht.1
  last := by
    refine List.pairwise_cons.2 ⟨fun y _ t ht => ht.elim, List.pairwise_append.2 ⟨hc.last,
      List.pairwise_singleton _ _, fun x hx y hy t ht => ?_⟩⟩
    rw [List.mem_singleton] at hy
    subst hy
    exact hc.reply_eq x hx t ht

end Committed

namespace Plan

variable {Φ : Grammar ρ → State → Reply Value → List (Occurrence ρ) → Prop}
  {post : Reply Value → List (Occurrence ρ) → Prop}

theorem Passes.ensures {t : State} {p : Plan ρ} (hp : p.Passes t)
    (hpost : ∀ k, (∀ x ∈ k, ∃ e, x = (.noted e : Occurrence ρ)) → post (.failure t) k) :
    p.Ensures Φ post := by
  induction p generalizing post with
  | fail u =>
    obtain rfl : u = t := hp
    exact hpost [] nofun
  | note e next ih =>
    refine ih hp fun k hk => hpost _ (List.forall_mem_cons.2 ⟨⟨e, rfl⟩, hk⟩)
  | succeed | invoke | round => exact hp.elim

theorem Commits.ensures (hΦ : ∀ g s r h, Φ g s r h → Committed s.index r h) {lo : Nat} {p : Plan ρ}
    (hp : p.Commits lo) (hpost : ∀ r h, Committed lo r h → post r h) : p.Ensures Φ post := by
  induction p generalizing post with
  | succeed v s | fail s => exact hpost _ _ (.nil hp)
  | invoke g s onSuccess onFailure ihs ihf =>
    obtain ⟨hs, hsucceed, hsoft, hpass⟩ := hp
    refine ⟨fun v t l hl => ?_, fun t l hl => ?_, fun i l hl => hpost _ _ ((hΦ _ _ _ _ hl).mono hs)⟩
    · have hl := hΦ _ _ _ _ hl
      refine ihs v t (hsucceed v t hl.le_index) fun r k hk => hpost _ _ ?_
      exact hk.prepend (hl.steady nofun) (hl.mono hs).goesOn
    · have hl := hΦ _ _ _ _ hl
      rcases Nat.eq_or_lt_of_le hl.le_index with stayed | moved
      · refine ihf t (hsoft t stayed.symm) fun r k hk => hpost _ _ ?_
        refine hk.prepend (hl.steady fun u e => ?_) (hl.mono hs).goesOn
        cases e
        exact stayed.symm
      · exact (hpass t moved).ensures fun k hk => hpost _ _ ((hl.mono hs).append hk)
  | round start stop next ih =>
    have noted : Steady [(.round start stop : Occurrence ρ)] :=
      List.forall_mem_singleton.2 fun t ht => ht
    have goesOn : ∀ x ∈ [(.round start stop : Occurrence ρ)], x.GoesOn lo :=
      List.forall_mem_singleton.2 trivial
    rw [Ensures]
    split
    · exact ih hp.2 fun r k hk => hpost _ _ (hk.prepend noted goesOn)
    · exact hpost _ _ (Committed.prepend noted goesOn (.nil hp.1))
  | note e next ih =>
    refine ih hp fun r k hk => hpost _ _ ?_
    exact hk.prepend (h := [.noted e]) (List.forall_mem_singleton.2 fun t ht => ht)
      (List.forall_mem_singleton.2 trivial)

end Plan

/-! ## Whole parses -/

namespace Grammar

variable {table : ρ → Grammar ρ} {input : Input} {g : Grammar ρ} {s : State} {r : Reply Value}

/-- A run is committed if nothing in it takes a failure back or sets the index. -/
theorem Observed.committed (htable : ∀ rule, (table rule).Everywhere fun p => ¬ p.TakesBack)
    (hg : g.Everywhere fun p => ¬ p.TakesBack) {h : List (Occurrence ρ)}
    (ho : g.Observed table input s r h) (keeps : ∀ x ∈ h, x.KeepsIndex) :
    Committed s.index r h := by
  have stands := called_everywhere htable hg ho
  refine observed_ensures (A := fun x => (∀ p t, x = .called p t → ¬ p.TakesBack) ∧ x.KeepsIndex)
    (P := fun _ _ => True) (Q := fun _ s r h => Committed s.index r h) (fun p t ok _ => ?_) ho
    (fun x hx => ⟨fun p t e => stands p t (e ▸ hx), keeps x hx⟩) trivial
  exact (commits_plan (ok.1 p t rfl) ok.2).ensures (fun _ _ _ _ hc => hc trivial)
    fun _ _ hc => hc.append_returned

/-- Where nothing takes a failure back and setting the state keeps the index, a failure at any depth
that is away from where the failing grammar started is the reply of the whole parse, the very same
state. All that still occurs then is that the grammars under way hand it on. -/
theorem failure_stands (htable : ∀ rule, (table rule).Everywhere fun p => ¬ p.TakesBack)
    (hg : g.Everywhere fun p => ¬ p.TakesBack) (keeps : g.KeepsIndex table input s) {depth : Nat}
    (parse : (g.parserWith table depth input s).reply? = some r) :
    ∃ h, g.Observed table input s r h ∧
      (∀ p u t, .returned p u (.failure t) ∈ h → t.index ≠ u.index → r = .failure t) ∧
      h.Pairwise fun x y => ∀ t, x.Strays t → y.HandsOn t := by
  obtain ⟨h, ho⟩ := replies_iff_observed.1 ⟨depth, parse⟩
  have hc := ho.committed htable hg (keeps r h ho)
  exact ⟨h, ho, fun p u t hx moved => hc.reply_eq _ hx t ⟨rfl, moved⟩, hc.last⟩

/-- Letters `a`, and then a letter `b`. -/
def ladder : Unit → Grammar Unit := fun _ =>
  .seqRight (.literal "a") (.or (.literal "b") (.ref ()))

/-- Neither the negation nor the repetition or the choice goes on after a ladder that ends without
the letter `b`. -/
theorem failure_stands_ladder :
    let g : Grammar Unit := .or (.not (.many (.ref ()))) (.pure .null)
    let t : State := ⟨1, ["b", "a"], .empty⟩
    (g.parserWith ladder 2 (.ofChars ['a', 'c']) .start).reply? = some (.failure t) ∧
      ∃ h, g.Observed ladder (.ofChars ['a', 'c']) .start (.failure t) h ∧
        .returned (.ref ()) .start (.failure t) ∈ h ∧
        ∀ p u w, .returned p u (.failure w) ∈ h → w.index ≠ u.index → w = t := by
  intro g t
  have htable : ∀ rule, (ladder rule).Everywhere fun p => ¬ p.TakesBack ∧ ¬ p.FixesIndex := by
    intro rule
    refine .intro ⟨nofun, nofun⟩ fun p hp => ?_
    rcases hp with rfl | rfl
    · exact .intro ⟨nofun, nofun⟩ nofun
    · refine .intro ⟨nofun, nofun⟩ fun p hp => ?_
      rcases hp with rfl | rfl <;> exact .intro ⟨nofun, nofun⟩ nofun
  have hg : g.Everywhere fun p => ¬ p.TakesBack ∧ ¬ p.FixesIndex := by
    refine .intro ⟨nofun, nofun⟩ fun p hp => ?_
    rcases hp with rfl | rfl
    · refine .intro ⟨nofun, nofun⟩ fun p hp => ?_
      obtain rfl : p = _ := hp
      refine .intro ⟨nofun, nofun⟩ fun p hp => ?_
      obtain rfl : p = _ := hp
      exact .intro ⟨nofun, nofun⟩ nofun
    · exact .intro ⟨nofun, nofun⟩ nofun
  have keeps : g.KeepsIndex ladder (.ofChars ['a', 'c']) .start :=
    keepsIndex_of_everywhere (fun rule => (htable rule).imp fun _ hp => hp.2)
      (hg.imp fun _ hp => hp.2) .start
  have parse : (g.parserWith ladder 2 (.ofChars ['a', 'c']) .start).reply? =
    some (.failure t) := rfl
  obtain ⟨h, ho, stands, -⟩ := failure_stands (fun rule => (htable rule).imp fun _ hp => hp.1)
    (hg.imp fun _ hp => hp.1) keeps parse
  refine ⟨parse, h, ho, ?_, fun p u w hw moved => ?_⟩
  · obtain ⟨-, rfl⟩ := ho.unique ⟨9, rfl⟩
    exact List.mem_of_getElem? (i := 19) rfl
  · cases stands p u w hw moved
    rfl

end Grammar

end Descent
