import Mathlib.Algebra.Ring.Nat
import Descent.Proofs.Position
import Descent.Proofs.Forward

/-!
# What a parse reports is the log of its probes at the input

A probe is the call of a primitive: it matched a text, it missed a label, or it did neither. Where a
grammar gives nothing back, the probes of a parse stand end to end: each starts where the one before
it stopped (`Probe.Chained`). The parse ends where the last of them stopped, and expects what is
left when every match empties the labels and every miss adds one.
-/

namespace Descent

variable {ρ α : Type}

/-- What the call of a primitive comes to. -/
inductive Probe where
  /-- It started at `start` and yielded the text. -/
  | matched (start : Nat) (text : List Char)
  /-- It did not find at `start` what the label stands for. -/
  | missed (start : Nat) (label : String)
  /-- It had nothing to read at `start`. -/
  | idle (start : Nat)
  deriving DecidableEq

namespace Probe

def start : Probe → Nat
  | matched i _ | missed i _ | idle i => i

def length : Probe → Nat
  | matched _ text => utf8Length text
  | _ => 0

def stop (x : Probe) : Nat := x.start + x.length

/-- The labels after a probe, from those before it. -/
def labels (ls : List String) : Probe → List String
  | matched .. => []
  | missed _ label => ls ++ [label]
  | idle _ => ls

/-- The probes lead from an index to another, each from where the one before it stopped. -/
def Chained : Nat → List Probe → Nat → Prop
  | i, [], j => i = j
  | i, x :: xs, j => x.start = i ∧ Chained x.stop xs j

variable {i j k : Nat} {l m : List Probe}

theorem Chained.append (hl : Chained i l j) (hm : Chained j m k) : Chained i (l ++ m) k := by
  induction l generalizing i with
  | nil =>
    obtain rfl : i = j := hl
    exact hm
  | cons x l ih => exact ⟨hl.1, ih hl.2⟩

theorem Chained.eq_add_sum (h : Chained i l j) : j = i + (l.map length).sum := by
  induction l generalizing i with
  | nil => exact h.symm
  | cons x l ih =>
    obtain ⟨rfl, h⟩ := h
    rw [ih h, List.map_cons, List.sum_cons, stop, Nat.add_assoc]

theorem Chained.le (h : Chained i l j) : i ≤ j := by
  rw [h.eq_add_sum]
  exact Nat.le_add_right _ _

theorem Chained.stop_le (h : Chained i l j) : ∀ x ∈ l, x.start ≤ x.stop ∧ x.stop ≤ j := by
  induction l generalizing i with
  | nil => exact nofun
  | cons x l ih => exact List.forall_mem_cons.2 ⟨⟨Nat.le_add_right _ _, h.2.le⟩, ih h.2⟩

end Probe

/-! ## The probes of a history -/

/-- The probe that a primitive has taken when it answers. -/
def Occurrence.probe? : Occurrence ρ → Option Probe
  | returned .eof s (.failure _) => some (.missed s.index "end of input")
  | returned .eof s _ | returned (.pure _) s _ | returned .fail s _ => some (.idle s.index)
  | returned g s (.success v _) => g.reader?.map fun _ => .matched s.index v.toChars
  | returned g s (.failure _) => g.reader?.map fun reader => .missed s.index reader.label
  | _ => none

def probes (h : List (Occurrence ρ)) : List Probe := h.filterMap Occurrence.probe?

theorem probes_append (h k : List (Occurrence ρ)) : probes (h ++ k) = probes h ++ probes k :=
  List.filterMap_append

/-- The state of a reply, if it is none of a stalled repetition. -/
def Reply.state? : Reply α → Option State
  | success _ s | failure s => some s
  | stalled _ => none

/-- The probes lead from one state to the other: to its index, and to its labels. -/
structure Leads (s : State) (l : List Probe) (t : State) : Prop where
  chained : Probe.Chained s.index l t.index
  expected : l.foldl Probe.labels s.expected = t.expected

namespace Leads

variable {s t u : State} {l m : List Probe}

theorem refl (h : t.SameSpot s) : Leads s [] t := ⟨h.index.symm, h.expected.symm⟩

theorem append (hl : Leads s l t) (hm : Leads t m u) : Leads s (l ++ m) u where
  chained := hl.chained.append hm.chained
  expected := by rw [List.foldl_append, hl.expected, hm.expected]

theorem of_sameSpot (hs : t.SameSpot s) (h : Leads t l u) : Leads s l u :=
  ⟨hs.index ▸ h.chained, hs.expected ▸ h.expected⟩

end Leads

/-- A run goes nowhere back, and its probes lead from where it starts to where it ends. -/
structure Logged (s : State) (r : Reply Value) (h : List (Occurrence ρ)) : Prop where
  le_index : s.index ≤ r.index
  leads : ∀ t, r.state? = some t → Leads s (probes h) t

namespace Logged

variable {s t : State} {r x : Reply Value} {h k : List (Occurrence ρ)}

theorem of_leads (ht : r.state? = some t) (hl : Leads s (probes h) t) : Logged s r h where
  le_index := by
    cases r with
    | success v u | failure u =>
      cases ht
      exact hl.chained.le
    | stalled i => cases ht
  leads u hu := by
    obtain rfl : t = u := Option.some.inj (ht.symm.trans hu)
    exact hl

theorem of_sameSpot (hs : t.SameSpot s) (hl : Logged t r h) : Logged s r h :=
  ⟨hs.index ▸ hl.le_index, fun u hu => (hl.leads u hu).of_sameSpot hs⟩

theorem append (hl : Logged s x h) (ht : x.state? = some t) (hk : Logged t r k) :
    Logged s r (h ++ k) where
  le_index := Nat.le_trans (hl.leads t ht).chained.le hk.le_index
  leads u hu := by
    rw [probes_append]
    exact (hl.leads t ht).append (hk.leads u hu)

theorem cons {y : Occurrence ρ} (hy : y.probe? = none) (hl : Logged s r h) :
    Logged s r (y :: h) := by
  refine ⟨hl.le_index, fun t ht => ?_⟩
  rw [probes, List.filterMap_cons_none hy]
  exact hl.leads t ht

theorem concat {y : Occurrence ρ} (hy : y.probe? = none) (hl : Logged s r h) :
    Logged s r (h ++ [y]) := by
  refine ⟨hl.le_index, fun t ht => ?_⟩
  rw [probes_append, probes, probes, List.filterMap_cons_none hy, List.filterMap_nil,
    List.append_nil]
  exact hl.leads t ht

end Logged

theorem Plan.Continues.ensures {Φ : Grammar ρ → State → Reply Value → List (Occurrence ρ) → Prop}
    (hΦ : ∀ g s r h, Φ g s r h → Logged s r h) {s : State} {p : Plan ρ} (hp : p.Continues s)
    {post : Reply Value → List (Occurrence ρ) → Prop} (hpost : ∀ r h, Logged s r h → post r h) :
    p.Ensures Φ post := by
  induction p generalizing s post with
  | succeed v t | fail t => exact hpost _ _ (.of_leads rfl ((Leads.refl (.refl t)).of_sameSpot hp))
  | invoke g t onSuccess onFailure ihs ihf =>
    obtain ⟨ht, hsucceed, hfail⟩ := hp
    refine ⟨fun v u l hl => ?_, fun u l hl => ?_, fun i l hl => ?_⟩
    · refine ihs v u (hsucceed v u) fun r k hk => hpost _ _ (.of_sameSpot ht ?_)
      exact (hΦ _ _ _ _ hl).append rfl hk
    · refine ihf u (hfail u) fun r k hk => hpost _ _ (.of_sameSpot ht ?_)
      exact (hΦ _ _ _ _ hl).append rfl hk
    · exact hpost _ _ (.of_sameSpot ht (hΦ _ _ _ _ hl))
  | round start stop next ih =>
    obtain ⟨hs, hn⟩ := hp
    rw [Ensures]
    split
    · exact ih hn fun r k hk => hpost _ _ (hk.cons rfl)
    · refine hpost _ _ ⟨?_, fun t ht => by cases ht⟩
      show s.index ≤ start
      omega
  | note e next ih => exact ih hp fun r k hk => hpost _ _ (hk.cons rfl)

/-! ## Whole parses -/

theorem Grammar.length_of_reader? {g : Grammar ρ} {reader : Reader} (hg : g.reader? = some reader)
    {rest : List Char} {v : Value} {n : Nat} (h : reader.step? rest = some (v, n)) :
    n = utf8Length v.toChars := by
  cases g with
  | literal text =>
    cases hg
    exact (Reader.literal_takesFrom _ _ v n h).choose_spec.2
  | satisfy accepts label =>
    cases hg
    exact (Reader.satisfy_takesFrom _ _ _ v n h).choose_spec.2
  | takeWhile1 accepts label =>
    cases hg
    exact (Reader.takeWhile1_takesFrom _ _ _ v n h).choose_spec.2
  | pattern program label =>
    -- also where the match lies further on, the index goes on by the length of what was found
    cases hg
    obtain ⟨found, -, e⟩ := Option.map_eq_some_iff.1 h
    cases e
    simp [Value.chars, Value.toChars]
  | _ => cases hg

namespace Grammar

variable {table : ρ → Grammar ρ} {input : Input} {g : Grammar ρ} {s : State} {r : Reply Value}

/-- A run that comes down to one probe. -/
theorem logged_probe {y : Probe} {t : State} (hy : (Occurrence.returned g s r).probe? = some y)
    (ht : r.state? = some t) (start : y.start = s.index) (stop : y.stop = t.index)
    (labels : y.labels s.expected = t.expected) : Logged s r [.called g s, .returned g s r] := by
  refine Logged.cons rfl (.of_leads ht ?_)
  rw [probes, List.filterMap_cons_some hy]
  exact ⟨⟨start, stop⟩, labels⟩

theorem ensures_read {Φ : Grammar ρ → State → Reply Value → List (Occurrence ρ) → Prop}
    {reader : Reader} (hg : g.reader? = some reader) :
    (g.plan table input s).Ensures Φ fun r h =>
      Logged s r (.called g s :: h ++ [.returned g s r]) := by
  have success : ∀ v t, (Occurrence.returned g s (.success v t)).probe? =
      some (.matched s.index v.toChars) := fun v t => by cases g <;> cases hg <;> rfl
  have failure : ∀ t, (Occurrence.returned g s (.failure t)).probe? =
      some (.missed s.index reader.label) := fun t => by cases g <;> cases hg <;> rfl
  rw [plan_of_reader? hg, Reader.plan]
  split
  · rename_i v n h
    obtain ⟨rest, -, hstep⟩ := Option.bind_eq_some_iff.1 h
    obtain rfl := length_of_reader? hg hstep
    exact logged_probe (success v _) rfl rfl rfl rfl
  · exact logged_probe (failure _) rfl rfl rfl rfl

/-- The plan of a grammar that gives nothing back is logged, if all that it invokes is. -/
theorem ensures_logged {Φ : Grammar ρ → State → Reply Value → List (Occurrence ρ) → Prop}
    (hΦ : ∀ g s r h, Φ g s r h → Logged s r h) (forward : ¬ g.GoesBack) :
    (g.plan table input s).Ensures Φ fun r h =>
      Logged s r (.called g s :: h ++ [.returned g s r]) := by
  have composed : g.reader? = none → g ≠ eof → (∀ r, (Occurrence.returned g s r).probe? = none) →
      (g.plan table input s).Ensures Φ
        fun r h => Logged s r (.called g s :: h ++ [.returned g s r]) := fun hg noEnd hp =>
    (continues_plan forward hg noEnd).ensures hΦ fun r h hl => (hl.cons rfl).concat (hp r)
  cases g with
  | literal | satisfy | takeWhile1 | pattern => exact ensures_read rfl
  | eof =>
    rw [plan]
    split
    · exact logged_probe rfl rfl rfl rfl rfl
    · exact logged_probe rfl rfl rfl rfl rfl
  | pure | fail => exact logged_probe rfl rfl rfl rfl rfl
  | _ => exact composed rfl (fun e => by cases e) fun r => by cases r <;> rfl

theorem Observed.logged (htable : ∀ rule, (table rule).Everywhere fun p => ¬ p.GoesBack)
    (hg : g.Everywhere fun p => ¬ p.GoesBack) {h : List (Occurrence ρ)}
    (ho : g.Observed table input s r h) : Logged s r h := by
  have forward := called_everywhere htable hg ho
  refine observed_ensures (A := fun x => ∀ p t, x = .called p t → ¬ p.GoesBack)
    (P := fun _ _ => True) (Q := fun _ s r h => Logged s r h) (fun p t ok _ => ?_) ho
    (fun x hx p t e => forward p t (e ▸ hx)) trivial
  exact ensures_logged (fun _ _ _ _ hl => hl trivial) (ok p t rfl)

/-- Where nothing goes back, a parse that succeeds or fails ends at the index where all that it has
matched ends, which no probe starts or stops beyond, and with the labels that its probes leave: a
match empties them, and a miss puts its own behind those before it. -/
theorem ends_at_probes (htable : ∀ rule, (table rule).Everywhere fun p => ¬ p.GoesBack)
    (hg : g.Everywhere fun p => ¬ p.GoesBack) {depth : Nat} {t : State}
    (parse : (g.parserWith table depth input s).reply? = some r) (ht : r.state? = some t) :
    ∃ h, g.Observed table input s r h ∧
      t.index = s.index + ((probes h).map Probe.length).sum ∧
      (∀ x ∈ probes h, x.start ≤ t.index ∧ x.stop ≤ t.index) ∧
      t.expected = (probes h).foldl Probe.labels s.expected := by
  obtain ⟨h, ho⟩ := replies_iff_observed.1 ⟨depth, parse⟩
  obtain ⟨chained, expected⟩ := (Observed.logged htable hg ho).leads t ht
  refine ⟨h, ho, chained.eq_add_sum, fun x hx => ?_, expected.symm⟩
  obtain ⟨within, stop⟩ := chained.stop_le x hx
  exact ⟨Nat.le_trans within stop, stop⟩

/-- A list whose separators may be missing, up to the end of the input. -/
def looseList : Grammar Empty :=
  .seqLeft (.sepBy false (.literal "a") (.maybe (.literal ","))) .eof

/-- The labels that the parse started with are gone, and the last three misses are left. -/
theorem ends_at_probes_looseList :
    let input := Input.ofChars ['a', ',', 'a', 'b']
    let t : State := ⟨3, [",", "a", "end of input"], .empty⟩
    (looseList.parserWith Empty.elim 0 input ⟨0, ["x"], .empty⟩).reply? = some (.failure t) ∧
      ∃ h, looseList.Observed Empty.elim input ⟨0, ["x"], .empty⟩ (.failure t) h ∧
        probes h = [.matched 0 ['a'], .matched 1 [','], .matched 2 ['a'], .missed 3 ",",
          .missed 3 "a", .missed 3 "end of input"] ∧
        t.index = 0 + ((probes h).map Probe.length).sum ∧
        t.expected = (probes h).foldl Probe.labels ["x"] := by
  intro input t
  have hg : looseList.Everywhere fun p => ¬ p.GoesBack := by
    refine .intro nofun fun p hp => ?_
    rcases hp with rfl | rfl
    · refine .intro nofun fun p hp => ?_
      rcases hp with rfl | rfl
      · exact .intro nofun nofun
      · refine .intro nofun fun p hp => ?_
        obtain rfl : p = _ := hp
        exact .intro nofun nofun
    · exact .intro nofun nofun
  have parse : (looseList.parserWith Empty.elim 0 input ⟨0, ["x"], .empty⟩).reply? =
      some (.failure t) := rfl
  obtain ⟨h, ho, index, -, expected⟩ := ends_at_probes nofun hg parse rfl
  refine ⟨parse, h, ho, ?_, index, expected⟩
  obtain ⟨-, rfl⟩ := ho.unique ⟨9, rfl⟩
  rfl

end Grammar

end Descent
