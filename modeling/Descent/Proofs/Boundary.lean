import Descent.Proofs.Plan
import Descent.Result

/-!
# Offsets that split an input

An offset is a boundary of an input if the input splits there, between two characters or at an end.
At a boundary an input has a suffix, and between two boundaries in order it has a slice
(`slice?_eq_some`). Slices that stand end to end join to the slice of the whole (`Holds.append`).
What the readers take is a first part of the rest of the input, so that a read leads from boundary
to boundary.
-/

namespace Descent

theorem eq_nil_of_utf8Length_eq_zero {cs : List Char} (h : utf8Length cs = 0) : cs = [] := by
  cases cs with
  | nil => rfl
  | cons c cs =>
    have := c.utf8Size_pos
    rw [utf8Length_cons] at h
    omega

theorem exists_append_of_utf8Length_le {a b c d : List Char} (h : a ++ b = c ++ d)
    (hle : utf8Length a ≤ utf8Length c) : ∃ m, c = a ++ m ∧ b = m ++ d := by
  rcases List.append_eq_append_iff.1 h with ⟨m, rfl, rfl⟩ | ⟨m, rfl, rfl⟩
  · exact ⟨m, rfl, rfl⟩
  · -- here `c` comes first, so that the two are the same
    rw [utf8Length_append] at hle
    obtain rfl : m = [] := eq_nil_of_utf8Length_eq_zero (by omega)
    exact ⟨[], by simp, by simp⟩

theorem bytePrefix?_append (cs ds : List Char) :
    bytePrefix? (cs ++ ds) (utf8Length cs) = some cs := by
  induction cs with
  | nil => cases ds <;> rfl
  | cons c cs ih =>
    obtain ⟨n, hn⟩ : ∃ n, c.utf8Size + utf8Length cs = n + 1 :=
      ⟨c.utf8Size + utf8Length cs - 1, by have := c.utf8Size_pos; omega⟩
    rw [List.cons_append, utf8Length_cons, hn, bytePrefix?, if_pos (by omega),
      show n + 1 - c.utf8Size = utf8Length cs by omega, ih]
    rfl

namespace Input

variable {input : Input}

/-- The input splits at the offset. -/
def Boundary (input : Input) (i : Nat) : Prop :=
  ∃ front back, input.chars = front ++ back ∧ utf8Length front = i

theorem suffix?_eq_some_iff {i : Nat} {rest : List Char} :
    input.suffix? i = some rest ↔ ∃ front, input.chars = front ++ rest ∧ utf8Length front = i := by
  rw [suffix?_eq, suffixAt_eq_some_iff]

theorem boundary_iff {i : Nat} : input.Boundary i ↔ ∃ rest, input.suffix? i = some rest := by
  simp only [suffix?_eq_some_iff]
  exact exists_comm

theorem Boundary.le {i : Nat} (h : input.Boundary i) : i ≤ input.byteLength := by
  obtain ⟨front, back, e, rfl⟩ := h
  rw [byteLength_eq, e, utf8Length_append]
  exact Nat.le_add_right _ _

theorem boundary_add {i : Nat} {taken back : List Char}
    (h : input.suffix? i = some (taken ++ back)) : input.Boundary (i + utf8Length taken) := by
  obtain ⟨front, e, rfl⟩ := suffix?_eq_some_iff.1 h
  exact ⟨front ++ taken, back, by rw [e, List.append_assoc], utf8Length_append _ _⟩

/-- What follows an offset reaches to the end of the input. -/
theorem add_utf8Length_of_suffix? {i : Nat} {rest : List Char} (h : input.suffix? i = some rest) :
    i + utf8Length rest = input.byteLength := by
  obtain ⟨front, e, rfl⟩ := suffix?_eq_some_iff.1 h
  rw [byteLength_eq, e, utf8Length_append]

theorem Boundary.split {i j : Nat} (hi : input.Boundary i) (hj : input.Boundary j) (hle : i ≤ j) :
    ∃ front middle back, input.chars = front ++ middle ++ back ∧ utf8Length front = i ∧
      utf8Length (front ++ middle) = j := by
  obtain ⟨front, rest, e, rfl⟩ := hi
  obtain ⟨front', back, e', rfl⟩ := hj
  obtain ⟨middle, rfl, rfl⟩ := exists_append_of_utf8Length_le (e.symm.trans e') hle
  exact ⟨front, middle, back, e', rfl, rfl⟩

theorem suffixD_eq {front back : List Char} (h : input.chars = front ++ back) :
    input.suffixD (utf8Length front) = back := by
  rw [suffixD, suffix?_eq_some_iff.2 ⟨front, h, rfl⟩]
  rfl

theorem slice?_eq_some {front middle back : List Char}
    (h : input.chars = front ++ middle ++ back) :
    input.slice? (utf8Length front) (utf8Length (front ++ middle)) = some middle := by
  rw [slice?, utf8Length_append, if_pos (Nat.le_add_right _ _),
    suffix?_eq_some_iff.2 ⟨front, h.trans (List.append_assoc ..), rfl⟩, Option.bind_some,
    Nat.add_sub_cancel_left, bytePrefix?_append]

end Input

/-! ## Texts between two indices -/

/-- The input holds the text between the two indices. -/
def Input.Holds (input : Input) (i : Nat) (cs : List Char) (j : Nat) : Prop :=
  ∃ back, input.suffix? i = some (cs ++ back) ∧ j = i + utf8Length cs

namespace Input.Holds

variable {input : Input} {i j k : Nat} {cs ds : List Char}

theorem nil (hi : input.Boundary i) (hj : j = i) : input.Holds i [] j := by
  obtain ⟨rest, hr⟩ := Input.boundary_iff.1 hi
  exact ⟨rest, hr, hj⟩

theorem boundary (h : input.Holds i cs j) : input.Boundary j := by
  obtain ⟨back, hb, rfl⟩ := h
  exact Input.boundary_add hb

theorem append (h : input.Holds i cs j) (h' : input.Holds j ds k) : input.Holds i (cs ++ ds) k := by
  obtain ⟨back, hb, rfl⟩ := h
  obtain ⟨back', hb', rfl⟩ := h'
  obtain ⟨front, e, rfl⟩ := Input.suffix?_eq_some_iff.1 hb
  -- behind the first text the input has only one rest
  have rest : input.suffix? (utf8Length front + utf8Length cs) = some back := by
    rw [Input.suffix?_eq_some_iff]
    exact ⟨front ++ cs, by rw [e, List.append_assoc], utf8Length_append _ _⟩
  obtain rfl : back = ds ++ back' := Option.some.inj (rest.symm.trans hb')
  exact ⟨back', by rw [hb, List.append_assoc], by rw [utf8Length_append, Nat.add_assoc]⟩

theorem slice? (h : input.Holds i cs j) : input.slice? i j = some cs := by
  obtain ⟨back, hb, rfl⟩ := h
  rw [Input.slice?, if_pos (Nat.le_add_right _ _), hb, Option.bind_some, Nat.add_sub_cancel_left,
    bytePrefix?_append]

end Input.Holds

theorem Input.Boundary.holds_slice {input : Input} {i j : Nat} (hi : input.Boundary i)
    (hj : input.Boundary j) (hle : i ≤ j) : input.Holds i ((input.slice? i j).getD []) j := by
  obtain ⟨front, middle, back, e, rfl, rfl⟩ := hi.split hj hle
  rw [slice?_eq_some e, Option.getD_some, utf8Length_append]
  exact ⟨back, suffix?_eq_some_iff.2 ⟨front, e.trans (List.append_assoc ..), rfl⟩, rfl⟩

/-! ## What readers take -/

namespace Reader

/-- What the reader takes of a text is a first part of it, and its value is the text of that. -/
def TakesFrom (reader : Reader) (rest : List Char) : Prop :=
  ∀ v n, reader.step? rest = some (v, n) →
    ∃ back, rest = v.toChars ++ back ∧ n = utf8Length v.toChars

theorem literal_takesFrom (text : String) (rest : List Char) :
    (literal text).TakesFrom rest := by
  intro v n h
  simp only [literal] at h
  split at h
  · rename_i hp
    cases h
    obtain ⟨back, rfl⟩ := List.isPrefixOf_iff_prefix.1 hp
    exact ⟨back, rfl, rfl⟩
  · cases h

theorem satisfy_takesFrom (accepts : Char → Bool) (label : String) (rest : List Char) :
    (satisfy accepts label).TakesFrom rest := by
  intro v n h
  rcases rest with _ | ⟨c, rest⟩
  · cases h
  · simp only [satisfy] at h
    split at h
    · cases h
      exact ⟨rest, by simp [Value.char, Value.toChars], by simp [Value.char, Value.toChars]⟩
    · cases h

theorem takeWhile1_takesFrom (accepts : Char → Bool) (label : String) (rest : List Char) :
    (takeWhile1 accepts label).TakesFrom rest := by
  intro v n h
  simp only [takeWhile1] at h
  split at h
  · cases h
  · cases h
    exact ⟨rest.dropWhile accepts, by simp [Value.chars, Value.toChars],
      by simp [Value.chars, Value.toChars]⟩

/-- A pattern takes a first part where its match begins at the start. -/
theorem pattern_takesFrom {program : Program} (label : String) {rest : List Char}
    (anchored : ∀ found, program.find? rest = some found → found.before = []) :
    (pattern program label).TakesFrom rest := by
  intro v n h
  obtain ⟨found, hf, e⟩ := Option.map_eq_some_iff.1 h
  cases e
  -- a match that begins at the start skips nothing, or there is nothing to skip
  have hb := anchored found hf
  obtain ⟨⟨start, stop⟩, _, rfl⟩ := Option.map_eq_some_iff.1 hf
  have hd : rest.drop start = rest := by
    rcases List.take_eq_nil_iff.1 hb with rfl | rfl <;> simp
  simp only [hd, Value.chars, Value.toChars, String.toList_ofList]
  exact ⟨rest.drop (stop - start), (List.take_append_drop ..).symm, trivial⟩

/-- The reader takes no more than there is. -/
def StaysWithin (reader : Reader) : Prop :=
  ∀ rest v n, reader.step? rest = some (v, n) → n ≤ utf8Length rest

theorem staysWithin_of_takesFrom {reader : Reader} (takes : ∀ rest, reader.TakesFrom rest) :
    reader.StaysWithin := by
  intro rest v n h
  obtain ⟨back, e, rfl⟩ := takes rest v n h
  rw [e, utf8Length_append]
  exact Nat.le_add_right _ _

theorem pattern_staysWithin (program : Program) (label : String) :
    (pattern program label).StaysWithin := by
  intro rest v n h
  obtain ⟨found, hf, e⟩ := Option.map_eq_some_iff.1 h
  cases e
  obtain ⟨⟨start, stop⟩, _, rfl⟩ := Option.map_eq_some_iff.1 hf
  have before := congrArg utf8Length (List.take_append_drop start rest)
  have text := congrArg utf8Length (List.take_append_drop (stop - start) (rest.drop start))
  rw [utf8Length_append] at before text
  show utf8Length ((rest.drop start).take (stop - start)) ≤ utf8Length rest
  omega

end Reader

end Descent
