import Descent.Braces
import Descent.Proofs.CharacterLoops

/-!
# Commands and runs of text

What the two patterns for commands match is computed from their programs: a backslash with one
character that is not an ASCII letter, or with as many ASCII letters as follow, and never both. A
run of text takes all characters up to the next brace or backslash.
-/

namespace Descent.Braces

variable {input : Input} {i : Nat} {cs : List Char}

/-! ## The sets of characters -/

/-- The character stands for itself: it is no brace and no backslash. -/
def isPlain (c : Char) : Bool := c ∉ ['{', '}', '\\']

theorem isPlain_iff {c : Char} : isPlain c = true ↔ c ≠ '{' ∧ c ≠ '}' ∧ c ≠ '\\' := by
  simp [isPlain]

theorem isAlpha_iff (c : Char) :
    c.isAlpha = true ↔ 65 ≤ c.toNat ∧ c.toNat ≤ 90 ∨ 97 ≤ c.toNat ∧ c.toNat ≤ 122 := by
  show (decide ('A'.val ≤ c.val ∧ c.val ≤ 'Z'.val) ||
    decide ('a'.val ≤ c.val) && decide (c.val ≤ 'z'.val)) = true ↔ _
  simp only [Bool.or_eq_true, Bool.and_eq_true, decide_eq_true_eq, UInt32.le_iff_toNat_le]
  rfl

theorem isPlain_of_isAlpha {c : Char} (h : c.isAlpha = true) : isPlain c = true := by
  rw [isPlain_iff]
  refine ⟨?_, ?_, ?_⟩ <;> rintro rfl <;> exact absurd h (by decide)

/-- Membership is found by halving, over two ranges. -/
theorem contains_asciiLetters (c : Char) : asciiLetters.contains c = c.isAlpha := by
  rw [Bool.eq_iff_iff, isAlpha_iff]
  show (if c.toNat < 97 then
      if c.toNat < 65 then false else if 90 < c.toNat then false else true
    else if 122 < c.toNat then false else true) = true ↔ _
  grind

/-- The complement has four ranges, since the surrogates are left out. -/
theorem contains_compl_asciiLetters (c : Char) : asciiLetters.compl.contains c = !c.isAlpha := by
  have valid : c.toNat < 0xd800 ∨ 0xdfff < c.toNat ∧ c.toNat < 0x110000 := c.valid
  rw [Bool.eq_iff_iff, Bool.not_eq_true', ← Bool.not_eq_true, isAlpha_iff]
  show (if c.toNat < 123 then
      if c.toNat < 91 then
        if c.toNat < 0 then false else if 64 < c.toNat then false else true
      else if 96 < c.toNat then false else true
    else if 0xd7ff < c.toNat then
      if c.toNat < 0xe000 then false else if 0x10ffff < c.toNat then false else true
    else true) = true ↔ _
  grind

/-! ## The two patterns -/

/-- A search that no other attempt joins goes on with the only attempt that is under way. -/
theorem searchFrom_cons {p : Program} {ready : List Attempt} {a : Attempt}
    {accepted : Option Attempt} {accepts : Char → Bool} (anchored : p.floating = false)
    (ready_eq : Program.untilAccept p.insts ready = ([a], accepted))
    (inst : p.insts[a.target]? = some (.char accepts)) (pos : Nat) (found : Option (Nat × Nat))
    (c : Char) (cs : List Char) :
    p.searchFrom pos ready found (c :: cs) =
      if accepts c then p.searchFrom (pos + 1)
        (Program.followAll p.insts (·.holds (some c) cs.head?) [⟨a.target + 1, a.skipped⟩])
        ((accepted.map fun b => (b.skipped, pos)).or found) cs
      else (accepted.map fun b => (b.skipped, pos)).or found := by
  rw [Program.searchFrom, ready_eq]
  simp only [Program.read, List.filterMap_cons, List.filterMap_nil, inst, anchored]
  by_cases h : accepts c = true
  · rw [if_pos h, if_pos h]
    cases accepted <;> rfl
  · rw [if_neg h, if_neg h]
    cases accepted <;> rfl

/-- Without a backslash and a character behind it, a program that asks for both finds nothing. -/
theorem searchFrom_eq_none {p : Program} (anchored : p.floating = false)
    (first : Program.untilAccept p.insts [⟨1, 0⟩] = ([⟨1, 0⟩], none))
    (backslash : p.insts[1]? = some (.char (· == '\\')))
    (onward : ∀ holds, Program.followAll p.insts holds [⟨2, 0⟩] = [⟨2, 0⟩])
    (second : Program.untilAccept p.insts [⟨2, 0⟩] = ([⟨2, 0⟩], none))
    (other : ∀ c rest, cs ≠ '\\' :: c :: rest) : p.searchFrom 0 [⟨1, 0⟩] none cs = none := by
  rcases cs with _ | ⟨b, cs⟩
  · rw [Program.searchFrom, first]
  rw [searchFrom_cons anchored first backslash, onward]
  by_cases hb : (b == '\\') = true
  · rw [if_pos hb]
    rcases cs with _ | ⟨c, cs⟩
    · show p.searchFrom 1 [⟨2, 0⟩] none [] = none
      rw [Program.searchFrom, second]
    · rw [beq_iff_eq] at hb
      exact absurd (congrArg (· :: c :: cs) hb) (other c cs)
  · rw [if_neg hb]
    rfl

theorem find?_symbol (c : Char) (cs : List Char) :
    (Program.ofRegex symbolRegex).find? ('\\' :: c :: cs) =
      if c.isAlpha then none else some ⟨[], ['\\', c]⟩ := by
  show Option.map _ (Program.searchFrom _ 0 [⟨1, 0⟩] none ('\\' :: c :: cs)) = _
  rw [searchFrom_cons rfl rfl rfl, if_pos (beq_self_eq_true '\\')]
  show Option.map _ (Program.searchFrom _ 1 [⟨2, 0⟩] none (c :: cs)) = _
  rw [searchFrom_cons rfl rfl rfl, contains_compl_asciiLetters]
  by_cases letter : c.isAlpha = true
  · rw [letter]
    rfl
  · rw [Bool.eq_false_iff.2 letter]
    cases cs <;> rfl

theorem find?_symbol_eq_none (other : ∀ c rest, cs ≠ '\\' :: c :: rest) :
    (Program.ofRegex symbolRegex).find? cs = none := by
  show Option.map _ (Program.searchFrom _ 0 [⟨1, 0⟩] none cs) = _
  rw [searchFrom_eq_none rfl rfl rfl (fun _ => rfl) rfl other]
  rfl

theorem searchFrom_letters (pos : Nat) (found : Option (Nat × Nat)) (cs : List Char) :
    (Program.ofRegex wordRegex).searchFrom pos [⟨2, 0⟩, ⟨4, 0⟩] found cs =
      some (0, pos + (cs.takeWhile Char.isAlpha).length) := by
  induction cs generalizing pos found with
  | nil => rfl
  | cons c cs ih =>
    rw [searchFrom_cons rfl rfl rfl, contains_asciiLetters]
    by_cases letter : c.isAlpha = true
    · rw [if_pos letter, List.takeWhile_cons_of_pos letter, List.length_cons]
      show Program.searchFrom _ (pos + 1) [⟨2, 0⟩, ⟨4, 0⟩] _ cs = _
      rw [ih, Nat.add_assoc, Nat.add_comm 1]
    · rw [if_neg letter, List.takeWhile_cons_of_neg letter]
      rfl

theorem find?_word (c : Char) (cs : List Char) :
    (Program.ofRegex wordRegex).find? ('\\' :: c :: cs) =
      if c.isAlpha then some ⟨[], '\\' :: c :: cs.takeWhile Char.isAlpha⟩ else none := by
  show Option.map _ (Program.searchFrom _ 0 [⟨1, 0⟩] none ('\\' :: c :: cs)) = _
  rw [searchFrom_cons rfl rfl rfl, if_pos (beq_self_eq_true '\\')]
  show Option.map _ (Program.searchFrom _ 1 [⟨2, 0⟩] none (c :: cs)) = _
  rw [searchFrom_cons rfl rfl rfl, contains_asciiLetters]
  by_cases letter : c.isAlpha = true
  · rw [if_pos letter, if_pos letter]
    show Option.map _ (Program.searchFrom _ 2 [⟨2, 0⟩, ⟨4, 0⟩] none cs) = _
    rw [searchFrom_letters]
    have letters : cs.take (cs.takeWhile Char.isAlpha).length = cs.takeWhile Char.isAlpha :=
      (List.prefix_iff_eq_take.1 (List.takeWhile_prefix _)).symm
    show some (Program.Found.mk [] (('\\' :: c :: cs).take (2 + _ - 0))) = _
    rw [Nat.sub_zero, Nat.add_comm 2, List.take_succ_cons, List.take_succ_cons, letters]
  · rw [if_neg letter, if_neg letter]
    rfl

theorem find?_word_eq_none (other : ∀ c rest, cs ≠ '\\' :: c :: rest) :
    (Program.ofRegex wordRegex).find? cs = none := by
  show Option.map _ (Program.searchFrom _ 0 [⟨1, 0⟩] none cs) = _
  rw [searchFrom_eq_none rfl rfl rfl (fun _ => rfl) rfl other]
  rfl

/-! ## Commands and text -/

theorem command_lands_symbol {c : Char} (h : input.suffix? i = some ('\\' :: c :: cs))
    (symbol : ¬ c.isAlpha = true) :
    command.Lands input i (some ['\\', c]) (i + utf8Length ['\\', c]) := by
  refine Parser.Lands.alt_head (Parser.lands_reading h ?_) nofun _
  rw [find?_symbol, if_neg symbol]
  rfl

theorem command_lands_word {c : Char} (h : input.suffix? i = some ('\\' :: c :: cs))
    (letter : c.isAlpha = true) :
    command.Lands input i (some ('\\' :: c :: cs.takeWhile Char.isAlpha))
      (i + utf8Length ('\\' :: c :: cs.takeWhile Char.isAlpha)) := by
  refine Parser.Lands.alt_tail (Parser.lands_reading_none h ?_)
    (Parser.Lands.alt_head (Parser.lands_reading h ?_) nofun _)
  · rw [find?_symbol, if_pos letter]
    rfl
  · rw [find?_word, if_pos letter]
    rfl

theorem command_lands_none (h : input.suffix? i = some cs)
    (other : ∀ c rest, cs ≠ '\\' :: c :: rest) : command.Lands input i none i := by
  refine Parser.Lands.alt_tail (Parser.lands_reading_none h ?_)
    (Parser.Lands.alt_tail (Parser.lands_reading_none h ?_) Parser.lands_alt_nil)
  · rw [find?_symbol_eq_none other]
    rfl
  · rw [find?_word_eq_none other]
    rfl

theorem takeWhile_eq_nil {p : Char → Bool} (h : ∀ c ∈ cs.head?, ¬ p c = true) :
    cs.takeWhile p = [] := by
  cases cs with
  | nil => rfl
  | cons c cs => exact List.takeWhile_cons_of_neg (h c rfl)

theorem plain_lands (h : input.suffix? i = some cs) :
    (Parser.satisfy isPlain "text").many.Lands input i (some (cs.takeWhile isPlain))
      (i + utf8Length (cs.takeWhile isPlain)) := Parser.lands_many_satisfy h

theorem text_lands {c : Char} (h : input.suffix? i = some (c :: cs)) (plain : isPlain c = true) :
    text.Lands input i (some (c :: cs.takeWhile isPlain))
      (i + utf8Length (c :: cs.takeWhile isPlain)) := by
  have lands := (plain_lands h).atLeast 1
  rw [List.takeWhile_cons_of_pos plain, if_neg (by simp)] at lands
  exact lands

theorem text_lands_none (h : input.suffix? i = some cs)
    (special : ∀ c ∈ cs.head?, ¬ isPlain c = true) : text.Lands input i none i := by
  have lands := (plain_lands h).atLeast 1
  rw [takeWhile_eq_nil special, if_pos (by simp)] at lands
  exact lands

end Descent.Braces
