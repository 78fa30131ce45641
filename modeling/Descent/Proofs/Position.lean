import Descent.Proofs.Boundary
import Descent.Proofs.Confined

/-!
# Parses stay inside the input

A parse that starts at a boundary of the input ends at a boundary from there on, and a repetition
that stalls does so at such a boundary too, as long as no grammar that sets the state changes the
index and every pattern matches where it is searched from. For then the parse is confined to those
boundaries: what a reader takes leads from one of them to another.

Then the reports of a parse are not empty for want of a slice: what is consumed and what remains are
the pieces into which the two indices split the input.
-/

namespace Descent

variable {ρ α : Type}

/-- Setting the state leaves the index as it is. -/
def Occurrence.KeepsIndex : Occurrence ρ → Prop
  | called (.setState new) s => new.index = s.index
  | called (.change (.seek n)) s => n = s.index
  | _ => True

/-- A pattern matches at the start of what it searches, if at all. -/
def Occurrence.Anchored (input : Input) : Occurrence ρ → Prop
  | called (.pattern program _) s => ∀ rest, input.suffix? s.index = some rest →
    ∀ found, program.find? rest = some found → found.before = []
  | _ => True

/-- The index is a boundary of the input, from `lo` on. -/
def Input.BoundaryFrom (input : Input) (lo i : Nat) : Prop := input.Boundary i ∧ lo ≤ i

/-- A grammar that reads takes a first part of the text, if a pattern matches at its start. -/
theorem Grammar.takesFrom_of_reader? {g : Grammar ρ} {reader : Reader}
    (hg : g.reader? = some reader) {rest : List Char}
    (anchored : ∀ program label, g = .pattern program label →
      ∀ found, program.find? rest = some found → found.before = []) :
    reader.TakesFrom rest := by
  cases g with
  | literal => exact Option.some.inj hg ▸ Reader.literal_takesFrom _ _
  | satisfy => exact Option.some.inj hg ▸ Reader.satisfy_takesFrom _ _ _
  | takeWhile1 => exact Option.some.inj hg ▸ Reader.takeWhile1_takesFrom _ _ _
  | pattern => exact Option.some.inj hg ▸ Reader.pattern_takesFrom _ (anchored _ _ rfl)
  | _ => cases hg

namespace Occurrence

variable {input : Input} {g : Grammar ρ} {s : State}

theorem takesFrom (anchored : (called g s).Anchored input) {reader : Reader}
    (hg : g.reader? = some reader) {rest : List Char} (hr : input.suffix? s.index = some rest) :
    reader.TakesFrom rest := by
  refine Grammar.takesFrom_of_reader? hg fun program label e => ?_
  subst e
  exact anchored rest hr

/-- An index that a call installs, and leaves alone, is the one that it starts at. -/
theorem KeepsIndex.index_eq {i : Nat} (keeps : (called g s).KeepsIndex) (hi : g.Installs i) :
    s.index = i := by
  cases g with
  | setState new => exact Eq.trans (Eq.symm keeps) hi
  | change c =>
    cases c with
    | put | drop => exact hi.elim
    | seek => exact Eq.trans (Eq.symm keeps) hi
  | _ => exact hi.elim

/-- A call that leaves the index alone or reads where it stands goes on at the boundaries from an
index on. -/
theorem keepsTo_boundaryFrom {lo : Nat} {x : Occurrence ρ} (keeps : x.KeepsIndex)
    (anchored : x.Anchored input) : x.KeepsTo (input.BoundaryFrom lo) input := by
  cases x with
  | called g s =>
    intro hs
    refine ⟨fun i hi => keeps.index_eq hi ▸ hs, fun reader hg v n hn => ?_⟩
    obtain ⟨rest, hr, hstep⟩ := Option.bind_eq_some_iff.1 hn
    obtain ⟨back, rfl, rfl⟩ := takesFrom anchored hg hr v n hstep
    exact ⟨Input.boundary_add hr, Nat.le_trans hs.2 (Nat.le_add_right _ _)⟩
  | _ => exact trivial

end Occurrence

namespace Grammar

variable {table : ρ → Grammar ρ} {input : Input}

/-- Setting the state never changes the index in a parse of the grammar from the state. -/
def KeepsIndex (table : ρ → Grammar ρ) (input : Input) (g : Grammar ρ) (s : State) : Prop :=
  ∀ r h, g.Observed table input s r h → ∀ x ∈ h, x.KeepsIndex

/-- Patterns match where they search from in a parse of the grammar from the state. -/
def Anchored (table : ρ → Grammar ρ) (input : Input) (g : Grammar ρ) (s : State) : Prop :=
  ∀ r h, g.Observed table input s r h → ∀ x ∈ h, x.Anchored input

theorem keepsIndex_of_everywhere (htable : ∀ rule, (table rule).Everywhere fun p => ¬ p.FixesIndex)
    {g : Grammar ρ} (hg : g.Everywhere fun p => ¬ p.FixesIndex) (s : State) :
    g.KeepsIndex table input s := by
  intro r h ho x hx
  cases x with
  | called p t =>
    have hp : ¬ p.FixesIndex := called_everywhere htable hg ho p t hx
    cases p with
    | setState => exact absurd trivial hp
    | change c =>
      cases c with
      | put | drop => exact trivial
      | seek => exact absurd trivial hp
    | _ => exact trivial
  | _ => exact trivial

theorem Replies.boundaryFrom {g : Grammar ρ} {s : State} {r : Reply Value}
    (keeps : g.KeepsIndex table input s) (anchored : g.Anchored table input s)
    (hb : input.Boundary s.index) (hr : g.Replies table input s r) :
    input.BoundaryFrom s.index r.index := by
  obtain ⟨h, ho⟩ := replies_iff_observed.1 hr
  refine (ho.confined (fun x hx => ?_) ⟨hb, Nat.le_refl _⟩).1
  exact Occurrence.keepsTo_boundaryFrom (keeps r h ho x hx) (anchored r h ho x hx)

end Grammar

/-! ## Reports -/

/-- The report splits the input at `start` and where the parse ended: the pieces that it shows are
what the input holds there. -/
def Result.SplitsInput (input : Input) (start : Nat) : Result α → Prop
  | parsed p => ∃ front, utf8Length front = start ∧
    utf8Length (front ++ p.consumed) = p.state.index ∧
    front ++ p.consumed ++ p.remaining = input.chars
  | failed f => ∃ front, start ≤ utf8Length front ∧ utf8Length front = f.index ∧
    front ++ f.remaining = input.chars
  | stalled i => input.BoundaryFrom start i

theorem Parser.result?_runFrom_eq (p : Parser α) (input : Input) (s : State) :
    (p.runFrom input s).result? = (p input s).reply?.map (.ofReply input s.index) := by
  rw [runFrom]
  rcases (p input s).reply? with _ | r <;> rfl

theorem Result.splitsInput_ofReply {input : Input} {start : Nat} {r : Reply α}
    (hb : input.Boundary start) (hr : input.BoundaryFrom start r.index) :
    (Result.ofReply input start r).SplitsInput input start := by
  cases r with
  | success v s =>
    obtain ⟨front, middle, back, e, rfl, hm⟩ := hb.split hr.1 hr.2
    have hm : utf8Length (front ++ middle) = s.index := hm
    refine ⟨front, rfl, ?_, ?_⟩
    · simp only [← hm, Input.slice?_eq_some e, Option.getD_some]
    · simp only [← hm, Input.slice?_eq_some e, Input.suffixD_eq e, Option.getD_some, e]
  | failure s =>
    obtain ⟨⟨front, back, e, hf⟩, hle⟩ := hr
    have hf : utf8Length front = s.index := hf
    refine ⟨front, hf ▸ hle, hf, ?_⟩
    simp only [Failure.ofState, ← hf, Input.suffixD_eq e, e]
  | stalled i => exact hr

namespace Grammar

variable {table : ρ → Grammar ρ} {input : Input} {g : Grammar ρ} {s : State}

theorem result?_runFrom {depth : Nat} {r : Reply Value}
    (parse : (g.parserWith table depth input s).reply? = some r) :
    ((g.parserWith table depth).runFrom input s).result? = some (.ofReply input s.index r) := by
  rw [Parser.result?_runFrom_eq, parse]
  rfl

/-- A parse that starts at a boundary of the input ends at a boundary from there to the end of the
input, whatever its reply. What its report shows as consumed and as remaining are the pieces of the
input that the two indices cut out. -/
theorem runFrom_splitsInput {depth : Nat} {r : Reply Value} (keeps : g.KeepsIndex table input s)
    (anchored : g.Anchored table input s) (hb : input.Boundary s.index)
    (parse : (g.parserWith table depth input s).reply? = some r) :
    input.Boundary r.index ∧ s.index ≤ r.index ∧ r.index ≤ input.byteLength ∧
      ((g.parserWith table depth).runFrom input s).result? = some (.ofReply input s.index r) ∧
      (Result.ofReply input s.index r).SplitsInput input s.index := by
  have hr : input.BoundaryFrom s.index r.index :=
    Replies.boundaryFrom keeps anchored hb ⟨depth, parse⟩
  exact ⟨hr.1, hr.2, hr.1.le, result?_runFrom parse, Result.splitsInput_ofReply hb hr⟩

/-- Matches a pattern and then sets the state, at the index that the pattern leads to. -/
def relabelled : Grammar Empty :=
  .seqLeft (.pattern (.ofRegex (.seq (.look .textStart) (.text ['é']))) "é")
    (.setState ⟨3, ["b"], .empty⟩)

/-- A parse that starts behind the first of three characters takes the two bytes of the second. -/
theorem runFrom_splitsInput_relabelled :
    (relabelled.parserWith Empty.elim 0 (.ofChars ['a', 'é', 'b']) ⟨1, ["a"], .empty⟩).reply? =
        some (.success (.str "é") ⟨3, ["b"], .empty⟩) ∧
      (Input.ofChars ['a', 'é', 'b']).Boundary 3 ∧
      ((relabelled.parserWith Empty.elim 0).runFrom (.ofChars ['a', 'é', 'b'])
          ⟨1, ["a"], .empty⟩).result? =
        some (.parsed ⟨.str "é", ['é'], ['b'], ⟨3, ["b"], .empty⟩⟩) := by
  have allowed : ∀ r h, relabelled.Observed Empty.elim (.ofChars ['a', 'é', 'b'])
      ⟨1, ["a"], .empty⟩ r h → ∀ x ∈ h, x.KeepsIndex ∧ x.Anchored (.ofChars ['a', 'é', 'b']) := by
    intro r h ho x hx
    obtain ⟨-, rfl⟩ := ho.unique ⟨2, rfl⟩
    simp only [List.mem_cons, List.mem_append, List.not_mem_nil, or_false] at hx
    rcases hx with (rfl | (rfl | rfl) | rfl | rfl) | rfl <;> constructor <;> try exact trivial
    · intro rest hrest found hfound
      cases hrest
      obtain rfl : found = ⟨[], ['é']⟩ := Option.some.inj (hfound.symm.trans rfl)
      rfl
    · exact rfl
  have hb : (Input.ofChars ['a', 'é', 'b']).Boundary 1 := ⟨['a'], ['é', 'b'], rfl, rfl⟩
  have parse : (relabelled.parserWith Empty.elim 0 (.ofChars ['a', 'é', 'b'])
      ⟨1, ["a"], .empty⟩).reply? = some (.success (.str "é") ⟨3, ["b"], .empty⟩) := rfl
  obtain ⟨hr, -, -, result, -⟩ := runFrom_splitsInput (fun r h ho x hx => (allowed r h ho x hx).1)
    (fun r h ho x hx => (allowed r h ho x hx).2) hb parse
  exact ⟨parse, hr, result⟩

end Grammar

end Descent
