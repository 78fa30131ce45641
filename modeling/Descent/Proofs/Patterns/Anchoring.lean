import Descent.Proofs.Patterns.Groups
import Descent.Proofs.Verbatim

/-!
# Patterns that match at the offset only

A pattern is read between `^(?:` and `)`. Where it is well formed by itself, the expression begins
with the condition that holds at the start of a text (`Regex.alone?_anchored`), its program does not
float, and the match that a search finds begins where the search does (`Program.before_eq_nil`).
Thus the parser yields what the input holds between the two offsets (`pattern_yields_slice`). This
is so in every dialect: neither the sets that have names nor the limits on size matter.

A pattern that closes the pasted group itself can leave that condition to its first part. The parser
then finds a match further on, but moves by the length of the match alone
(`pattern_yields_no_slice`).
-/

namespace Descent

/-! ## Expressions that begin with a condition -/

namespace Regex

theorem beginsWith_sequence_look (l : Look) (rs : List Regex) :
    (sequence (look l :: rs)).beginsWith l = true := by
  show (seqAll (look l :: joinTexts (rs.flatMap parts))).beginsWith l = true
  cases joinTexts (rs.flatMap parts) <;> simp [seqAll, beginsWith]

end Regex

/-- The pattern is well formed by itself, however deep or large it is. -/
def Dialect.StandsAlone (d : Dialect) (cs : List Char) : Prop := (Regex.alone? d.named? cs).isSome

/-! ## Searches from the start -/

namespace Program

variable {insts : Array Inst} {p : Program} {attempts : List Attempt} {cs : List Char}

/-- None of the attempts has skipped anything. -/
def FromStart (attempts : List Attempt) : Prop := ∀ a ∈ attempts, a.skipped = 0

theorem FromStart.nil : FromStart [] := List.forall_mem_nil _

theorem FromStart.cons {a : Attempt} (ha : a.skipped = 0) (h : FromStart attempts) :
    FromStart (a :: attempts) := List.forall_mem_cons.2 ⟨ha, h⟩

theorem FromStart.follow {holds : Look → Bool} {fuel : Nat} {seen : IndexSet}
    {ready : List Attempt} (h : FromStart attempts) (hr : FromStart ready) :
    FromStart (follow insts holds fuel attempts seen ready) := by
  induction fuel generalizing attempts seen ready with
  | zero => exact fun a ha => hr a (List.mem_reverse.1 ha)
  | succ fuel ih =>
    cases attempts with
    | nil => exact fun a ha => hr a (List.mem_reverse.1 ha)
    | cons a stack =>
      obtain ⟨ha, hs⟩ := List.forall_mem_cons.1 h
      rw [Program.follow]
      split
      · exact ih hs hr
      · dsimp only
        split
        · exact ih hs (.cons ha hr)
        · exact ih hs (.cons ha hr)
        · split
          · exact ih (.cons ha hs) hr
          · exact ih hs hr
        · exact ih (.cons ha hs) hr
        · exact ih (.cons ha (.cons ha hs)) hr
        · exact ih hs hr

theorem FromStart.untilAccept (h : FromStart attempts) :
    FromStart (untilAccept insts attempts).1 ∧
      ∀ a, (untilAccept insts attempts).2 = some a → a.skipped = 0 := by
  induction attempts with
  | nil => exact ⟨h, nofun⟩
  | cons a rest ih =>
    obtain ⟨ha, hr⟩ := List.forall_mem_cons.1 h
    rw [Program.untilAccept]
    split
    · refine ⟨.nil, fun b e => ?_⟩
      cases e
      exact ha
    · exact ⟨.cons ha (ih hr).1, (ih hr).2⟩

theorem FromStart.read (h : FromStart attempts) (c : Char) :
    FromStart (read insts c attempts) := by
  intro a ha
  obtain ⟨b, hb, e⟩ := List.mem_filterMap.1 ha
  split at e
  · split at e
    · cases e
      exact h b hb
    · cases e
  · cases e

theorem FromStart.found (h : FromStart attempts) {found : Option (Nat × Nat)}
    (hf : ∀ m ∈ found, m.1 = 0) (pos : Nat) :
    ∀ m ∈ (match (Program.untilAccept insts attempts).2 with
      | some a => some (a.skipped, pos)
      | none => found), m.1 = 0 := by
  intro m hm
  split at hm
  · rename_i a ha
    cases hm
    exact h.untilAccept.2 a ha
  · exact hf m hm

/-- A program that does not float adds no attempts on the way. -/
theorem start_of_searchFrom (fixed : p.floating = false) {pos start stop : Nat}
    {ready : List Attempt} (hr : FromStart ready) {found : Option (Nat × Nat)}
    (hf : ∀ m ∈ found, m.1 = 0) (h : p.searchFrom pos ready found cs = some (start, stop)) :
    start = 0 := by
  induction cs generalizing pos ready found with
  | nil => exact hr.found hf pos (start, stop) h
  | cons c cs ih =>
    simp only [searchFrom, fixed, Bool.false_and, Bool.false_eq_true, if_false] at h
    split at h
    · exact hr.found hf pos (start, stop) h
    · exact ih ((hr.untilAccept.1.read c).follow .nil) (hr.found hf pos) h

theorem before_eq_nil {found : Found} (fixed : p.floating = false) (h : p.find? cs = some found) :
    found.before = [] := by
  obtain ⟨⟨start, stop⟩, hm, rfl⟩ := Option.map_eq_some_iff.1 h
  have first : FromStart [⟨0, 0⟩] := .cons rfl .nil
  obtain rfl : start = 0 := start_of_searchFrom fixed (first.follow .nil) (by simp) hm
  rfl

theorem floating_eq_false {d : Dialect} {text : String} (accepted : ofPattern? d text = some p)
    (alone : d.StandsAlone text.toList) : p.floating = false := by
  obtain ⟨r, hr, rfl⟩ := Option.map_eq_some_iff.1 accepted
  obtain ⟨part, hp⟩ := Option.isSome_iff_exists.1 alone
  obtain ⟨part', hp', h⟩ := Option.bind_eq_some_iff.1 hr
  split at h
  · cases h
    show (!part'.regex.beginsWith .textStart) = false
    rw [Regex.alone?_anchored hp hp', Regex.beginsWith_sequence_look]
    rfl
  · cases h

end Program

/-! ## The parser of a pattern -/

namespace Parser

variable {d : Dialect} {text label : String} {p : Program} {input : Input} {s t : State}
  {v : List Char}

/-- The parser of a pattern skips what stands in front of the match, but does not count it. -/
theorem pattern_skips (h : (pattern p label input s).reply? = some (.success v t)) :
    ∃ found rest back, input.suffix? s.index = some rest ∧ p.find? rest = some found ∧
      found.text = v ∧ rest = found.before ++ v ++ back ∧ t.index = s.index + utf8Length v := by
  unfold pattern reading at h
  split at h
  · rename_i taken
    cases h
    obtain ⟨rest, here, hr⟩ := Option.bind_eq_some_iff.1 taken
    obtain ⟨found, hf, e⟩ := Option.map_eq_some_iff.1 hr
    cases e
    obtain ⟨⟨start, stop⟩, hm, rfl⟩ := Option.map_eq_some_iff.1 hf
    refine ⟨_, rest, (rest.drop start).drop (stop - start), here, hf, rfl, ?_, rfl⟩
    dsimp only
    rw [List.append_assoc, List.take_append_drop, List.take_append_drop]
  · cases h

/-- A pattern that is well formed by itself yields what the input holds from the offset where the
parser starts to the one where it ends, whatever the names in it stand for. -/
theorem pattern_yields_slice (accepted : Program.ofPattern? d text = some p)
    (alone : d.StandsAlone text.toList)
    (h : (pattern p label input s).reply? = some (.success v t)) :
    input.slice? s.index t.index = some v ∧ input.Boundary t.index := by
  obtain ⟨found, rest, back, here, hf, rfl, e, index⟩ := pattern_skips h
  rw [Program.before_eq_nil (Program.floating_eq_false accepted alone) hf, List.nil_append] at e
  have holds : input.Holds s.index found.text t.index := ⟨back, e ▸ here, index⟩
  exact ⟨holds.slice?, holds.boundary⟩

/-- A choice is held at the offset as a whole, from the middle of an input too. -/
theorem pattern_yields_slice_choice :
    let input := Input.ofChars ['é', 'a', 'b', 'a']
    ∃ p, Program.ofPattern? .unicode "b|ab*" = some p ∧
      Dialect.unicode.StandsAlone "b|ab*".toList ∧
      (pattern p "ab" input ⟨2, ["x"], .empty⟩).reply? =
        some (.success ['a', 'b'] ⟨4, [], .empty⟩) ∧
      input.slice? 2 4 = some ['a', 'b'] ∧ input.Boundary 4 := by
  intro input
  obtain ⟨p, accepted, success⟩ : ∃ p, Program.ofPattern? .unicode "b|ab*" = some p ∧
      (pattern p "ab" input ⟨2, ["x"], .empty⟩).reply? =
        some (.success ['a', 'b'] ⟨4, [], .empty⟩) := ⟨_, rfl, rfl⟩
  have alone : Dialect.unicode.StandsAlone "b|ab*".toList := rfl
  exact ⟨p, accepted, alone, success, pattern_yields_slice accepted alone success⟩

/-- The pattern `a)|(?:b` closes the group that it is pasted into, so that only its first half is
held at the start: from the start of `éb` the parser yields `b` and ends inside the first letter. -/
theorem pattern_yields_no_slice :
    ¬ ∀ (text label : String) (p : Program) (input : Input) (s t : State) (v : List Char),
      Program.ofPattern? .unicode text = some p → input.Boundary s.index →
        (pattern p label input s).reply? = some (.success v t) →
          input.slice? s.index t.index = some v ∧ input.Boundary t.index := by
  intro yields
  obtain ⟨p, accepted, success⟩ : ∃ p, Program.ofPattern? .unicode "a)|(?:b" = some p ∧
      (pattern p "" (.ofChars ['é', 'b']) ⟨0, [], .empty⟩).reply? =
        some (.success ['b'] ⟨1, [], .empty⟩) := ⟨_, rfl, rfl⟩
  have start : (Input.ofChars ['é', 'b']).Boundary 0 := ⟨[], ['é', 'b'], rfl, rfl⟩
  have slice := (yields "a)|(?:b" "" p _ _ _ _ accepted start success).1
  have inside : (Input.ofChars ['é', 'b']).slice? 0 1 = none := rfl
  exact absurd (inside.symm.trans slice) nofun

end Parser

end Descent
