import Mathlib.Order.Bounds.Defs
import Descent.Proofs.Literals
import Descent.Proofs.SeparatedLists

/-!
# Lists of a literal

A list of one literal, separated by another, reads the longest text of the form item, separator,
item, ..., item (`sepBy_literals`). The two may begin alike or one of them may be empty; only if
both are does a round stay where it started. A separator that no item follows has been read by the
time the item fails, and so the list fails behind it. An empty separator takes nothing, and there
the list ends.
-/

namespace Descent

def copies (w : List Char) (n : Nat) : List Char := (List.replicate n w).flatten

theorem copies_succ (w : List Char) (n : Nat) : copies w (n + 1) = w ++ copies w n := rfl

theorem copies_add (w : List Char) (m n : Nat) : copies w (m + n) = copies w m ++ copies w n := by
  rw [copies, ← List.replicate_append_replicate, List.flatten_append]
  rfl

/-- The text of a list of `n + 1` items. -/
def listText (item sep : List Char) (n : Nat) : List Char := item ++ copies (sep ++ item) n

theorem isGreatest_listText {item sep back : List Char} {m : Nat} (last : ¬ sep ++ item <+: back) :
    IsGreatest {n | listText item sep n <+: listText item sep m ++ back} m := by
  refine ⟨List.prefix_append _ _, fun n hn => Nat.le_of_not_lt fun more => ?_⟩
  obtain ⟨k, rfl⟩ := Nat.exists_eq_add_of_lt more
  have split : listText item sep (m + k + 1) =
      listText item sep m ++ ((sep ++ item) ++ copies (sep ++ item) k) := by
    rw [listText, listText, Nat.add_assoc, copies_add, copies_succ, List.append_assoc item]
  have longer : listText item sep (m + k + 1) <+: listText item sep m ++ back := hn
  rw [split, List.prefix_append_right_inj] at longer
  exact last ((List.prefix_append _ _).trans longer)

namespace Parser

variable {item sep : String} {input : Input} {s : State} {rest back : List Char} {n : Nat}

/-! ## Rounds -/

theorem utf8Length_round_pos (takes : ¬ (item = "" ∧ sep = "")) :
    0 < utf8Length (sep.toList ++ item.toList) := by
  refine Nat.pos_of_ne_zero fun e => takes ?_
  have empty := List.append_eq_nil_iff.1 (eq_nil_of_utf8Length_eq_zero e)
  exact ⟨String.toList_eq_nil_iff.1 empty.2, String.toList_eq_nil_iff.1 empty.1⟩

theorem reply?_round (here : input.suffix? s.index = some (sep.toList ++ item.toList ++ back)) :
    ((literal sep).seqRight (literal item) input s).reply? =
      some (.success item (s.advance (utf8Length (sep.toList ++ item.toList)))) := by
  rw [List.append_assoc] at here
  have behind : input.suffix? (s.advance (utf8Length sep.toList)).index =
      some (item.toList ++ back) := Input.suffix?_add here
  rw [seqRight, Run.reply?_resume, reply?_literal here, if_pos (List.prefix_append _ _)]
  dsimp only
  rw [reply?_literal behind, if_pos (List.prefix_append _ _), State.advance_advance,
    utf8Length_append]

/-- A round without a separator and an item fails where the first of them is missing. -/
theorem reply?_round_none (here : input.suffix? s.index = some rest)
    (last : ¬ sep.toList ++ item.toList <+: rest) :
    ((literal sep).seqRight (literal item) input s).reply? = some (.failure
      (if sep.toList <+: rest then (s.advance (utf8Length sep.toList)).expecting item
      else s.expecting sep)) := by
  rw [seqRight, Run.reply?_resume, reply?_literal here]
  by_cases separated : sep.toList <+: rest
  · obtain ⟨behind, rfl⟩ := separated
    have next : input.suffix? (s.advance (utf8Length sep.toList)).index = some behind :=
      Input.suffix?_add here
    have missing : ¬ item.toList <+: behind :=
      fun h => last ((List.prefix_append_right_inj _).2 h)
    simp only [if_pos (List.prefix_append _ _), reply?_literal next, if_neg missing]
  · simp only [if_neg separated]
    rfl

/-- How a list of the given values ends at index `j`, where no separator with an item follows. -/
def endOfList (item sep : String) (back : List Char) (c : Fields Value) (vs : List String)
    (j : Nat) : Reply (List String) :=
  if sep ≠ "" ∧ sep.toList <+: back then .failure ⟨j + utf8Length sep.toList, [item], c⟩
  else .success vs ⟨j, [if sep = "" then item else sep], c⟩

theorem map_endOfList (vs ws : List String) (c : Fields Value) (j : Nat) :
    (endOfList item sep back c ws j).map (vs ++ ·) = endOfList item sep back c (vs ++ ws) j := by
  unfold endOfList
  split <;> rfl

theorem utf8Length_eq_zero_iff {text : String} : utf8Length text.toList = 0 ↔ text = "" := by
  refine ⟨fun h => String.toList_eq_nil_iff.1 (eq_nil_of_utf8Length_eq_zero h), ?_⟩
  rintro rfl
  rfl

theorem reply?_separatedRounds_none (here : input.suffix? s.index = some rest)
    (fresh : s.expected = []) (last : ¬ sep.toList ++ item.toList <+: rest) :
    (separatedRounds (literal item) (literal sep) input (n + 1) [] .empty s).reply? =
      some (endOfList item sep rest s.context [] s.index) := by
  rw [reply?_separatedRounds_succ, reply?_round_none here last]
  by_cases separated : sep.toList <+: rest
  · by_cases empty : sep = ""
    · -- nothing has been read, and the label is that of the item
      subst empty
      simp [endOfList, State.withExpected]
    · have moved : utf8Length sep.toList ≠ 0 := mt utf8Length_eq_zero_iff.1 empty
      simp [endOfList, separated, empty, moved, State.advance, State.expecting]
  · have nonempty : sep ≠ "" := by
      rintro rfl
      exact separated List.nil_prefix
    simp [endOfList, separated, nonempty, fresh, State.withExpected]

/-- The rounds of a list read separators and items as long as both follow. -/
theorem reply?_separatedRounds_literals (takes : ¬ (item = "" ∧ sep = ""))
    (here : input.suffix? s.index = some rest) (fresh : s.expected = [])
    (room : rest.length < n) :
    ∃ m back, rest = copies (sep.toList ++ item.toList) m ++ back ∧
      ¬ sep.toList ++ item.toList <+: back ∧
      (separatedRounds (literal item) (literal sep) input n [] .empty s).reply? =
        some (endOfList item sep back s.context (List.replicate m item)
          (s.index + utf8Length (copies (sep.toList ++ item.toList) m))) := by
  induction n generalizing s rest with
  | zero => exact absurd room (Nat.not_lt_zero _)
  | succ n ih =>
    by_cases complete : sep.toList ++ item.toList <+: rest
    · obtain ⟨back, rfl⟩ := complete
      have paid : 0 < utf8Length (sep.toList ++ item.toList) := utf8Length_round_pos takes
      have moved : s.index < s.index + utf8Length (sep.toList ++ item.toList) :=
        Nat.lt_add_of_pos_right paid
      have shorter : back.length < n := by
        have some : 0 < (sep.toList ++ item.toList).length := by
          refine List.length_pos_iff.2 fun h => ?_
          rw [h] at paid
          exact absurd paid (Nat.lt_irrefl 0)
        rw [List.length_append] at room
        omega
      obtain ⟨m, back', rfl, last, e⟩ :=
        ih (s := s.advance (utf8Length (sep.toList ++ item.toList)))
          (Input.suffix?_add here) rfl shorter
      refine ⟨m + 1, back', by rw [copies_succ, List.append_assoc _ (copies ..)], last, ?_⟩
      rw [reply?_separatedRounds_succ, reply?_round here]
      dsimp only
      rw [State.index_advance, if_pos moved, e, Option.map_some]
      rw [copies_succ, utf8Length_append (sep.toList ++ item.toList), ← Nat.add_assoc]
      exact congrArg some (map_endOfList [item] _ _ _)
    · exact ⟨0, rest, rfl, complete, reply?_separatedRounds_none here fresh complete⟩

/-! ## Lists -/

/-- A list of one literal with another as separator, which are not both empty. Where no item
follows, the list is empty. Otherwise let there be as many rounds of a separator and an item as
there can: if a separator that is not empty follows them, the list fails behind it, and else it
yields as many items as it has read. -/
theorem sepBy_literals (takes : ¬ (item = "" ∧ sep = ""))
    (here : input.suffix? s.index = some rest) :
    (¬ item.toList <+: rest →
      ((literal item).sepBy false (literal sep) input s).reply? =
        some (.success [] (s.expecting item))) ∧
    (item.toList <+: rest → ∃ m back,
      IsGreatest {n | listText item.toList sep.toList n <+: rest} m ∧
      rest = listText item.toList sep.toList m ++ back ∧
      ((literal item).sepBy false (literal sep) input s).reply? =
        some (endOfList item sep back s.context (List.replicate (m + 1) item)
          (s.index + utf8Length (listText item.toList sep.toList m)))) := by
  rw [sepBy, Run.reply?_resume, reply?_literal here]
  refine ⟨fun none => ?_, ?_⟩
  · simp only [if_neg none, Bool.false_eq_true, if_false]
    exact congrArg Run.reply? (if_pos rfl)
  · rintro ⟨behind, rfl⟩
    obtain ⟨m, back, rfl, last, e⟩ := reply?_separatedRounds_literals takes
      (s := s.advance (utf8Length item.toList)) (Input.suffix?_add here) rfl
      (Input.length_lt_maxRounds (Input.suffix?_add here))
    refine ⟨m, back, ?_, by rw [listText, List.append_assoc], ?_⟩
    · rw [← List.append_assoc]
      exact isGreatest_listText last
    · rw [if_pos (List.prefix_append _ _)]
      dsimp only
      rw [reply?_separatedRounds, e, listText, utf8Length_append item.toList, ← Nat.add_assoc]
      exact congrArg some (map_endOfList [item] _ _ _)

/-- The separator begins like the item, and stands behind the last one too: the list reads two items
and fails where the third should be. -/
theorem sepBy_literals_overlapping :
    let input := Input.ofChars ['é', 'a', 'a', 'b', 'a', 'a', 'b']
    let s : State := ⟨2, ["x"], .empty⟩
    let rest := ['a', 'a', 'b', 'a', 'a', 'b']
    let list := (literal "a").sepBy false (literal "ab")
    ¬ ("a" = "" ∧ "ab" = "") ∧ input.suffix? s.index = some rest ∧ "a".toList <+: rest ∧
      (list input s).reply? = some (.failure ⟨8, ["a"], .empty⟩) ∧
      ∃ m back, IsGreatest {n | listText "a".toList "ab".toList n <+: rest} m ∧
        rest = listText "a".toList "ab".toList m ++ back ∧
        (list input s).reply? = some (endOfList "a" "ab" back s.context (List.replicate (m + 1) "a")
          (s.index + utf8Length (listText "a".toList "ab".toList m))) := by
  intro input s rest list
  have takes : ¬ ("a" = "" ∧ "ab" = "") := by decide
  have here : input.suffix? s.index = some rest := rfl
  have first : "a".toList <+: rest := by decide
  exact ⟨takes, here, first, rfl, (sepBy_literals takes here).2 first⟩

end Parser

end Descent
