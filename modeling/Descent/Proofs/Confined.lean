import Descent.Proofs.Forward

/-!
# Parses confined to a set of indices

What moves the index of a parse is reading, which adds to it, and setting the state, which installs
another one. All else takes up an index that the parse had before. So a parse stays in a set of
indices as long as what reads and what sets the state keeps to the set (`Observed.confined`).
`Plan.Confined` is the condition on one layer: it asks for nothing but that the set is closed under
what the invocations answer.
-/

namespace Descent

variable {ρ α : Type}

def Reply.index : Reply α → Nat
  | success _ s | failure s => s.index
  | stalled i => i

namespace Grammar

/-- The grammar sets the index to `i`. -/
def Installs (i : Nat) : Grammar ρ → Prop
  | setState new => new.index = i
  | change (.seek n) => n = i
  | _ => False

/-- What the grammar installs from the state is in the set, and so is where it reads to. -/
structure KeepsTo (G : Nat → Prop) (input : Input) (g : Grammar ρ) (s : State) : Prop where
  installs : ∀ i, g.Installs i → G i
  reads : ∀ reader, g.reader? = some reader → ∀ v n,
    (input.suffix? s.index).bind reader.step? = some (v, n) → G (s.index + n)

end Grammar

/-- The event is one that a choice notes, and every index that it shows is in the set. -/
def Event.Confined (G : Nat → Prop) : Event → Prop
  | firstFailedSoftly i | alternativeFailedSoftly i _ => G i
  | firstCommitted i j | alternativeCommitted i j _ | rewound i j => G i ∧ G j
  | _ => False

namespace Occurrence

/-- Every index that the occurrence shows is in the set. -/
def Confined (G : Nat → Prop) : Occurrence ρ → Prop
  | called _ s => G s.index
  | returned _ s r => G s.index ∧ G r.index
  | round start stop => G start ∧ G stop
  | noted e => e.Confined G

/-- The call of a grammar from a state in the set leads into the set. -/
def KeepsTo (G : Nat → Prop) (input : Input) : Occurrence ρ → Prop
  | called g s => G s.index → g.KeepsTo G input s
  | _ => True

end Occurrence

variable {G : Nat → Prop}

namespace Plan

/-- All that the plan starts from and ends at is in the set, if what it invokes ends there. -/
def Confined (G : Nat → Prop) : Plan ρ → Prop
  | .succeed _ s | .fail s => G s.index
  | .invoke _ s onSuccess onFailure => G s.index ∧
    (∀ v t, G t.index → (onSuccess v t).Confined G) ∧ ∀ t, G t.index → (onFailure t).Confined G
  | .round start stop next => G start ∧ G stop ∧ next.Confined G
  | .note e next => e.Confined G ∧ next.Confined G

variable {s : State}

/-- An invocation whose failures are all passed on. -/
theorem confined_run {g : Grammar ρ} {onSuccess : Value → State → Plan ρ} (hs : G s.index)
    (hsucceed : ∀ v t, G t.index → (onSuccess v t).Confined G) :
    (invoke g s onSuccess .fail).Confined G := ⟨hs, hsucceed, fun _ ht => ht⟩

theorem confined_recover {start failed : State} {next : State → Plan ρ} {committed : Plan ρ}
    (hn : ∀ t, t.index = start.index → (next t).Confined G) (hc : committed.Confined G) :
    (recover start failed next committed).Confined G := by
  unfold recover
  split
  · exact hn _ rfl
  · exact hc

theorem confined_sequence {ps : List (Grammar ρ)} {done : List Value → State → Plan ρ}
    (hs : G s.index) (hd : ∀ vs t, G t.index → (done vs t).Confined G) :
    (sequence ps s done).Confined G := by
  induction ps generalizing s done with
  | nil => exact hd _ _ hs
  | cons p ps ih => exact confined_run hs fun v t ht => ih ht fun vs => hd (v :: vs)

theorem confined_alternatives {start : State} {i : Nat} {ps : List (Grammar ρ)}
    (hstart : G start.index) (hs : G s.index) : (alternatives start i ps s).Confined G := by
  induction ps generalizing i s with
  | nil => exact hs
  | cons p ps ih =>
    refine ⟨hs, fun _ _ ht => ht, fun t ht => ?_⟩
    exact confined_recover (fun u hu => ⟨hstart, ih (hu ▸ hstart)⟩) ⟨⟨hstart, ht⟩, ht⟩

theorem confined_rounds {p : Grammar ρ} {n : Nat} {done : List Value → State → Plan ρ}
    (hs : G s.index) (hd : ∀ vs t, G t.index → (done vs t).Confined G) :
    (rounds p n s done).Confined G := by
  induction n generalizing s done with
  | zero => exact hd _ _ hs
  | succ n ih =>
    refine ⟨hs, fun v t ht => ⟨hs, ht, ih ht fun vs => hd (v :: vs)⟩, fun t ht => ?_⟩
    dsimp only
    split
    · exact hd _ _ ht
    · exact ht

theorem confined_separatedRounds {p sep : Grammar ρ} {n : Nat}
    {done : List Value → State → Plan ρ} (hs : G s.index)
    (hd : ∀ vs t, G t.index → (done vs t).Confined G) :
    (separatedRounds p sep n s done).Confined G := by
  induction n generalizing s done with
  | zero => exact hd _ _ hs
  | succ n ih =>
    have stop : ∀ t : State, G t.index → (recover s t (done []) (.fail t)).Confined G :=
      fun t ht => confined_recover (fun u hu => hd _ _ (hu ▸ hs)) ht
    have item : ∀ t : State, G t.index → (invoke p t
        (fun v u => .round s.index u.index
          (separatedRounds p sep n u fun vs w => done (v :: vs) w))
        fun u => recover s u (done []) (.fail u)).Confined G :=
      fun t ht => ⟨ht, fun v u hu => ⟨hs, hu, ih hu fun vs => hd (v :: vs)⟩, stop⟩
    exact ⟨hs, fun _ => item, stop⟩

/-- A confined plan ends in the set, and all that occurs until then is in the set, if it is so for
what the plan invokes. -/
theorem Confined.ensures {Φ : Grammar ρ → State → Reply Value → List (Occurrence ρ) → Prop}
    (hΦ : ∀ g s r h, Φ g s r h → G s.index → G r.index ∧ ∀ x ∈ h, x.Confined G) {p : Plan ρ}
    (hp : p.Confined G) {post : Reply Value → List (Occurrence ρ) → Prop}
    (hpost : ∀ r h, G r.index → (∀ x ∈ h, x.Confined G) → post r h) : p.Ensures Φ post := by
  induction p generalizing post with
  | succeed v s | fail s => exact hpost _ _ hp nofun
  | invoke g s onSuccess onFailure ihs ihf =>
    obtain ⟨hs, hsucceed, hfail⟩ := hp
    refine ⟨fun v t l hl => ?_, fun t l hl => ?_, fun i l hl => ?_⟩
    · obtain ⟨ht, hl⟩ := hΦ _ _ _ _ hl hs
      exact ihs v t (hsucceed v t ht) fun r h hr hh =>
        hpost _ _ hr (List.forall_mem_append.2 ⟨hl, hh⟩)
    · obtain ⟨ht, hl⟩ := hΦ _ _ _ _ hl hs
      exact ihf t (hfail t ht) fun r h hr hh => hpost _ _ hr (List.forall_mem_append.2 ⟨hl, hh⟩)
    · obtain ⟨hi, hl⟩ := hΦ _ _ _ _ hl hs
      exact hpost _ _ hi hl
  | round start stop next ih =>
    obtain ⟨hstart, hstop, hn⟩ := hp
    rw [Ensures]
    split
    · exact ih hn fun r h hr hh => hpost _ _ hr (List.forall_mem_cons.2 ⟨⟨hstart, hstop⟩, hh⟩)
    · exact hpost _ _ hstart (List.forall_mem_singleton.2 ⟨hstart, hstop⟩)
  | note e next ih =>
    obtain ⟨he, hn⟩ := hp
    exact ih hn fun r h hr hh => hpost _ _ hr (List.forall_mem_cons.2 ⟨he, hh⟩)

end Plan

namespace Grammar

variable {table : ρ → Grammar ρ} {input : Input} {g : Grammar ρ} {s : State} {r : Reply Value}
  {h : List (Occurrence ρ)}

theorem confined_plan (keeps : g.KeepsTo G input s) (hs : G s.index) :
    (g.plan table input s).Confined G := by
  have read : ∀ reader, g.reader? = some reader → (g.plan table input s).Confined G := by
    intro reader hg
    rw [plan_of_reader? hg, Reader.plan]
    split
    · rename_i v n hn
      exact keeps.reads reader hg v n hn
    · exact hs
  cases g with
  | pure | fail | getState | lookup => exact hs
  | eof =>
    rw [plan]
    split <;> exact hs
  | literal | satisfy | takeWhile1 | pattern => exact read _ rfl
  | setState new => exact keeps.installs _ rfl
  | change c =>
    cases c with
    | put | drop => exact hs
    | seek n => exact keeps.installs n rfl
  | restoring => exact Plan.confined_run hs fun _ _ _ => hs
  | map | traced | ref => exact Plan.confined_run hs fun _ _ ht => ht
  | chain | seqRight | seqLeft =>
    exact Plan.confined_run hs fun _ _ ht => Plan.confined_run ht fun _ _ hu => hu
  | between =>
    exact Plan.confined_run hs fun _ _ ht => Plan.confined_run ht fun _ _ hu =>
      Plan.confined_run hu fun _ _ hw => hw
  | seq => exact Plan.confined_sequence hs fun _ _ ht => ht
  | or p q =>
    refine ⟨hs, fun _ _ ht => ht, fun t ht => ?_⟩
    refine Plan.confined_recover (fun u hu => ⟨hs, ?_⟩) ⟨⟨hs, ht⟩, ht⟩
    exact Plan.confined_run (g := q) (hu ▸ hs) fun _ _ hw => hw
  | alt => exact Plan.confined_alternatives hs hs
  | attempt label? =>
    -- whatever the part did, a failure is taken back to where it started
    refine ⟨hs, fun _ _ ht => ht, fun t ht => ?_⟩
    cases label? <;> dsimp only <;> split <;> first | exact hs | exact ⟨⟨hs, ht⟩, hs⟩
  | maybe =>
    refine ⟨hs, fun _ _ ht => ht, fun t ht => Plan.confined_recover (fun u hu => ?_) ht⟩
    exact show G u.index from hu ▸ hs
  | lookahead =>
    refine ⟨hs, fun _ _ _ => hs, fun t _ => ?_⟩
    dsimp only
    split <;> exact hs
  | not =>
    refine ⟨hs, fun _ _ _ => hs, fun t ht => ?_⟩
    dsimp only
    split
    · exact hs
    · exact ht
  | times =>
    refine Plan.confined_rounds hs fun vs t ht => ?_
    split <;> exact ht
  | sepBy nonEmpty =>
    refine ⟨hs, fun v t ht => Plan.confined_separatedRounds ht fun _ _ hu => hu, fun t ht => ?_⟩
    cases nonEmpty with
    | true => exact ht
    | false => exact Plan.confined_recover (fun u hu => show G u.index from hu ▸ hs) ht

/-- A parse that starts in the set stays there, if all the calls in it keep to the set. -/
theorem Observed.confined (ho : g.Observed table input s r h) (keeps : ∀ x ∈ h, x.KeepsTo G input)
    (hs : G s.index) : G r.index ∧ ∀ x ∈ h, x.Confined G := by
  refine observed_ensures (A := fun x => x.KeepsTo G input) (P := fun _ s => G s.index)
    (Q := fun _ _ r h => G r.index ∧ ∀ x ∈ h, x.Confined G) (fun g s ok hs => ?_) ho keeps hs
  refine (confined_plan (ok hs) hs).ensures (fun _ _ _ _ hΦ => hΦ) fun r h hr hh => ⟨hr, ?_⟩
  refine List.forall_mem_cons.2 ⟨hs, List.forall_mem_append.2 ⟨hh, ?_⟩⟩
  exact List.forall_mem_singleton.2 ⟨hs, hr⟩

end Grammar

end Descent
