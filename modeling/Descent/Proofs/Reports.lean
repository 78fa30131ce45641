import Descent.Failure
import Descent.Proofs.Alternatives
import Mathlib.Data.List.Induction

/-!
# The labels of a failure report

A report grows as labels come: one that it has already changes nothing, and another goes to its end
(`mention`). So a report lists exactly the labels of the state, each once, in the order of their
first occurrence (`Lists`), and labels that come later only ever stand behind those that it has
(`labels_listed_once`).
-/

namespace Descent.Failure

variable {labels report front back : List String} {l x : String}

/-- The report to which one more label comes. -/
def mention (report : List String) (label : String) : List String :=
  if label ∈ report then report else report ++ [label]

theorem mention_of_mem (h : l ∈ report) : mention report l = report := if_pos h

theorem mention_of_notMem (h : l ∉ report) : mention report l = report ++ [l] := if_neg h

theorem mention_append :
    mention (front ++ back) l = front ++ if l ∈ front then back else mention back l := by
  by_cases hf : l ∈ front
  · rw [if_pos hf, mention_of_mem (List.mem_append_left back hf)]
  · rw [if_neg hf]
    by_cases hb : l ∈ back
    · rw [mention_of_mem hb, mention_of_mem (List.mem_append_right front hb)]
    · have new : l ∉ front ++ back := fun h => (List.mem_append.1 h).elim hf hb
      rw [mention_of_notMem hb, mention_of_notMem new, List.append_assoc]

theorem filter_mention (p : String → Bool) :
    (mention report l).filter p =
      if p l then mention (report.filter p) l else report.filter p := by
  by_cases h : l ∈ report
  · rw [mention_of_mem h]
    split
    · rename_i keep
      rw [mention_of_mem (List.mem_filter.2 ⟨h, keep⟩)]
    · rfl
  · have gone : l ∉ report.filter p := fun hf => h (List.mem_filter.1 hf).1
    rw [mention_of_notMem h, mention_of_notMem gone, List.filter_append]
    split <;> simp [*]

/-! ## Labels that come one after the other -/

theorem expected_ofState_expecting (input : Input) (s : State) (l : String) :
    (ofState input (s.expecting l)).expected = mention (ofState input s).expected l := by
  show (s.expected ++ [l]).eraseDups = mention s.expected.eraseDups l
  rw [List.eraseDups_append]
  by_cases h : l ∈ s.expected
  · have nothing : [l].removeAll s.expected = [] := by simp [List.removeAll, h]
    rw [mention_of_mem (List.mem_eraseDups.2 h), nothing, List.eraseDups_nil, List.append_nil]
  · have itself : [l].removeAll s.expected = [l] := by simp [List.removeAll, h]
    rw [mention_of_notMem (mt List.mem_eraseDups.1 h), itself]
    rfl

theorem expected_ofState_expectingAll (input : Input) (s : State) (labels : List String) :
    (ofState input (s.expectingAll labels)).expected =
      labels.foldl mention (ofState input s).expected := by
  induction labels generalizing s with
  | nil => rw [State.expectingAll_nil, List.foldl_nil]
  | cons l labels ih =>
    have first : s.expectingAll (l :: labels) = (s.expecting l).expectingAll labels :=
      (State.expectingAll_expectingAll s [l] labels).symm
    rw [first, ih, expected_ofState_expecting, List.foldl_cons]

/-- A report starts empty, and the labels of the state come to it in turn. -/
theorem expected_ofState (input : Input) (s : State) :
    (ofState input s).expected = s.expected.foldl mention [] :=
  expected_ofState_expectingAll input (s.withExpected []) s.expected

theorem foldl_mention (labels report : List String) :
    labels.foldl mention report =
      report ++ (labels.foldl mention []).filter (· ∉ report) := by
  -- by induction from the last label on, so that both reports grow by the same label
  induction labels using List.reverseRecOn with
  | nil => simp
  | append_singleton labels l ih =>
    rw [List.foldl_append, List.foldl_append, ih]
    show mention _ l = report ++ (mention _ l).filter _
    rw [mention_append, filter_mention]
    by_cases h : l ∈ report <;> simp [h]

/-! ## What a report lists -/

/-- The report lists the labels, each once, in the order in which they first occur. -/
structure Lists (labels report : List String) : Prop where
  nodup : report.Nodup
  mem_iff : ∀ x, x ∈ report ↔ x ∈ labels
  sublist : report.Sublist labels
  /-- That label stands first whose first occurrence comes first. -/
  first_iff : ∀ x y, report.idxOf x < report.idxOf y ↔ labels.idxOf x < labels.idxOf y

/-- A last label is found there if it is not found before, and what is not found at all counts as
behind it. -/
theorem idxOf_concat (labels : List String) (l x : String) :
    (labels ++ [l]).idxOf x =
      if x ∈ labels then labels.idxOf x
      else if x = l then labels.length else labels.length + 1 := by
  rw [List.idxOf_append, List.idxOf_cons, List.idxOf_nil]
  grind

namespace Lists

theorem nil : Lists [] [] where
  nodup := .nil
  mem_iff _ := .rfl
  sublist := .slnil
  first_iff _ _ := .rfl

theorem again (h : Lists labels report) (old : l ∈ report) : Lists (labels ++ [l]) report where
  nodup := h.nodup
  mem_iff x := by
    have there : x = l → x ∈ labels := fun eq => (h.mem_iff x).1 (eq ▸ old)
    simpa [h.mem_iff] using there
  sublist := h.sublist.trans (List.sublist_append_left labels [l])
  first_iff x y := by
    have there : l ∈ labels := (h.mem_iff l).1 old
    rw [h.first_iff, idxOf_concat, idxOf_concat]
    -- what occurs stays where it is, and what does not stays behind all that does
    grind

theorem fresh (h : Lists labels report) (new : l ∉ report) :
    Lists (labels ++ [l]) (report ++ [l]) where
  nodup := by
    have apart : ∀ x ∈ report, x ≠ l := fun x old eq => new (eq ▸ old)
    simpa [List.nodup_append, h.nodup] using apart
  mem_iff x := by rw [List.mem_append, List.mem_append, h.mem_iff]
  sublist := h.sublist.append (.refl [l])
  first_iff x y := by
    have first := h.first_iff x y
    rw [idxOf_concat, idxOf_concat, idxOf_concat, idxOf_concat]
    simp only [h.mem_iff]
    -- the label comes behind all others on both sides, and before what does not occur at all
    grind

theorem mention (h : Lists labels report) (l : String) :
    Lists (labels ++ [l]) (mention report l) := by
  by_cases old : l ∈ report
  · rw [mention_of_mem old]
    exact h.again old
  · rw [mention_of_notMem old]
    exact h.fresh old

theorem foldl_mention (h : Lists labels report) (more : List String) :
    Lists (labels ++ more) (more.foldl Failure.mention report) := by
  induction more generalizing labels report with
  | nil => rwa [List.append_nil]
  | cons l more ih => simpa using ih (h.mention l)

end Lists

theorem lists_expected (input : Input) (s : State) :
    Lists s.expected (ofState input s).expected := by
  rw [expected_ofState]
  exact Lists.nil.foldl_mention s.expected

/-- The report of a state lists its labels, each once, in the order of their first occurrence. When
labels come behind them, the report stays as it is and goes on with the report of the new labels
alone, without those that have been there before. -/
theorem labels_listed_once (input : Input) (s : State) :
    Lists s.expected (ofState input s).expected ∧
      ∀ labels, (ofState input (s.expectingAll labels)).expected =
        (ofState input s).expected ++
          (ofState input (s.withExpected labels)).expected.filter (· ∉ s.expected) := by
  refine ⟨lists_expected input s, fun labels => ?_⟩
  rw [expected_ofState_expectingAll, foldl_mention, expected_ofState input (s.withExpected labels)]
  simp [(lists_expected input s).mem_iff]

example :
    (ofState (.ofChars []) (State.start.withExpected ["a", "b", "a"])).expected = ["a", "b"] := by
  decide

end Descent.Failure
