import Descent.State.Encoding

/-!
# Documents of states

A state is read back from its document, also when fields of other names stand among its own, in
whatever order, and from the array of its parts. What is read has a document in turn that reads as
the same state. And nothing else reads as a state than a document that has the three parts, each of
its own type (`documents_denote_states`).
-/

namespace Descent.State

/-! ## The parts of a document -/

/-- The names of the fields that are read. -/
def fieldNames : List String := ["index", "expected", "context"]

/-- The document has three parts: the values of the fields, or the elements of an array. -/
inductive HasParts : (document index expected context : Value) → Prop where
  | fields {fields : List (String × Value)} {i e c : Value}
      (index : findField? "index" fields = some i)
      (expected : findField? "expected" fields = some e)
      (context : findField? "context" fields = some c) : HasParts (.obj fields) i e c
  | elems (i e c : Value) : HasParts (.arr [i, e, c]) i e c

variable {v i e c : Value} {s : State}

theorem HasParts.ofValue?_eq (h : HasParts v i e c) : ofValue? v = ofParts? i e c := by
  cases h with
  | fields hi he hc => simp [ofValue?, hi, he, hc]
  | elems => rfl

theorem hasParts_of_ofValue? (h : ofValue? v = some s) : ∃ i e c, HasParts v i e c := by
  unfold ofValue? at h
  split at h
  · simp only [Option.bind_eq_bind, Option.bind_eq_some_iff] at h
    obtain ⟨i, hi, e, he, c, hc, -⟩ := h
    exact ⟨i, e, c, .fields hi he hc⟩
  · exact ⟨_, _, _, .elems ..⟩
  · cases h

/-- A document reads as a state if its parts are those of the state, whose offset is a word. -/
theorem ofValue?_eq_some_iff :
    ofValue? v = some s ↔
      s.index ≤ maxWord ∧ ∃ pairs, .ofList pairs = s.context ∧
        HasParts v (.nat s.index) (.arr (s.expected.map .str)) (.obj pairs) := by
  constructor
  · intro h
    obtain ⟨i, e, c, parts⟩ := hasParts_of_ofValue? h
    rw [parts.ofValue?_eq, ofParts?_eq_some_iff] at h
    obtain ⟨⟨rfl, word⟩, rfl, pairs, rfl, context⟩ := h
    exact ⟨word, pairs, context, parts⟩
  · rintro ⟨word, pairs, context, parts⟩
    rw [parts.ofValue?_eq, ofParts?_eq_some_iff]
    exact ⟨⟨rfl, word⟩, rfl, pairs, rfl, context⟩

/-! ## Fields of other names -/

def toFields (s : State) : List (String × Value) :=
  [("context", .obj s.context.entries), ("expected", .arr (s.expected.map .str)),
    ("index", .nat s.index)]

theorem toValue_eq (s : State) : s.toValue = .obj s.toFields := rfl

theorem mem_toFields {name : String} :
    (name, v) ∈ s.toFields ↔
      name = "context" ∧ v = .obj s.context.entries ∨
        name = "expected" ∧ v = .arr (s.expected.map .str) ∨ name = "index" ∧ v = .nat s.index := by
  simp [toFields]

theorem mem_fieldNames {name : String} (h : (name, v) ∈ s.toFields) : name ∈ fieldNames := by
  rcases mem_toFields.1 h with ⟨rfl, -⟩ | ⟨rfl, -⟩ | ⟨rfl, -⟩ <;> decide

theorem eq_of_mem_toFields {name : String} {w : Value} (hv : (name, v) ∈ s.toFields)
    (hw : (name, w) ∈ s.toFields) : w = v := by
  rcases mem_toFields.1 hv with ⟨rfl, rfl⟩ | ⟨rfl, rfl⟩ | ⟨rfl, rfl⟩ <;>
    simpa [mem_toFields] using hw

theorem hasParts_of_perm {extra fields : List (String × Value)}
    (unknown : ∀ f ∈ extra, f.1 ∉ fieldNames) (order : fields.Perm (s.toFields ++ extra)) :
    HasParts (.obj fields) (.nat s.index) (.arr (s.expected.map .str))
      (.obj s.context.entries) := by
  have find {name v} (hv : (name, v) ∈ s.toFields) : findField? name fields = some v := by
    refine findField?_eq_some (order.mem_iff.2 (List.mem_append_left extra hv)) fun w hw => ?_
    rcases List.mem_append.1 (order.mem_iff.1 hw) with own | other
    · exact eq_of_mem_toFields hv own
    · exact absurd (mem_fieldNames hv) (unknown _ other)
  exact .fields (find (by simp [mem_toFields])) (find (by simp [mem_toFields]))
    (find (by simp [mem_toFields]))

/-! ## Documents that are refused -/

/-- Parts that no state has. -/
inductive IllTyped : (index expected context : Value) → Prop where
  /-- The index is no integer that is a word. -/
  | index {i e c : Value} (h : ∀ n ≤ maxWord, i ≠ .nat n) : IllTyped i e c
  /-- What should be the labels is no array. -/
  | labels {i e c : Value} (h : ∀ vs, e ≠ .arr vs) : IllTyped i e c
  /-- One of the labels is no string. -/
  | label {i c l : Value} {vs : List Value} (mem : l ∈ vs) (h : ∀ t, l ≠ .str t) :
    IllTyped i (.arr vs) c
  /-- The context is no object. -/
  | context {i e c : Value} (h : ∀ pairs, c ≠ .obj pairs) : IllTyped i e c

theorem IllTyped.ofParts? (h : IllTyped i e c) : ofParts? i e c = none := by
  refine Option.eq_none_iff_forall_ne_some.2 fun s hs => ?_
  obtain ⟨⟨hi, word⟩, he, pairs, hc, -⟩ := ofParts?_eq_some_iff.1 hs
  cases h with
  | index h => exact h _ word hi
  | labels h => exact h _ he
  | label mem h =>
    rw [Value.arr.inj he] at mem
    obtain ⟨t, -, rfl⟩ := List.mem_map.1 mem
    exact h t rfl
  | context h => exact h _ hc

theorem exists_strings {vs : List Value} (h : ∀ l ∈ vs, ∃ t, l = .str t) :
    ∃ labels : List String, vs = labels.map .str := by
  induction vs with
  | nil => exact ⟨[], rfl⟩
  | cons l vs ih =>
    obtain ⟨t, rfl⟩ := h l List.mem_cons_self
    obtain ⟨labels, rfl⟩ := ih fun l hl => h l (List.mem_cons_of_mem _ hl)
    exact ⟨t :: labels, rfl⟩

theorem illTyped_of_ofParts? (h : ofParts? i e c = none) : IllTyped i e c := by
  refine Classical.byContradiction fun well => ?_
  obtain ⟨n, word, rfl⟩ : ∃ n ≤ maxWord, i = .nat n :=
    Classical.byContradiction fun no => well (.index fun n word eq => no ⟨n, word, eq⟩)
  obtain ⟨vs, rfl⟩ : ∃ vs, e = .arr vs :=
    Classical.byContradiction fun no => well (.labels (not_exists.1 no))
  obtain ⟨labels, rfl⟩ : ∃ labels : List String, vs = labels.map .str :=
    exists_strings fun l mem =>
      Classical.byContradiction fun no => well (.label mem (not_exists.1 no))
  obtain ⟨pairs, rfl⟩ : ∃ pairs, c = .obj pairs :=
    Classical.byContradiction fun no => well (.context (not_exists.1 no))
  have reads := ofParts?_eq_some_iff (s := ⟨n, labels, .ofList pairs⟩).2
    ⟨⟨rfl, word⟩, rfl, pairs, rfl, rfl⟩
  rw [reads] at h
  cases h

/-- Documents that denote no state. -/
inductive Refused : Value → Prop where
  /-- Neither an array nor an object. -/
  | scalar {v : Value} (array : ∀ vs, v ≠ .arr vs) (object : ∀ fields, v ≠ .obj fields) : Refused v
  /-- An array of another length. -/
  | length {vs : List Value} (h : vs.length ≠ 3) : Refused (.arr vs)
  /-- An object without one of the fields. -/
  | missing {name : String} {fields : List (String × Value)} (named : name ∈ fieldNames)
      (h : ∀ f ∈ fields, f.1 ≠ name) : Refused (.obj fields)
  /-- One of the parts is of the wrong type. -/
  | parts {v i e c : Value} (parts : HasParts v i e c) (h : IllTyped i e c) : Refused v

theorem HasParts.refused (parts : HasParts v i e c) (h : ofValue? v = none) : Refused v :=
  .parts parts (illTyped_of_ofParts? (parts.ofValue?_eq ▸ h))

theorem hasParts_or_missing (fields : List (String × Value)) :
    (∃ i e c, HasParts (.obj fields) i e c) ∨ ∃ name ∈ fieldNames, ∀ f ∈ fields, f.1 ≠ name := by
  rcases hi : findField? "index" fields with _ | i
  · exact .inr ⟨"index", by decide, findField?_eq_none_iff.1 hi⟩
  rcases he : findField? "expected" fields with _ | e
  · exact .inr ⟨"expected", by decide, findField?_eq_none_iff.1 he⟩
  rcases hc : findField? "context" fields with _ | c
  · exact .inr ⟨"context", by decide, findField?_eq_none_iff.1 hc⟩
  exact .inl ⟨i, e, c, .fields hi he hc⟩

theorem HasParts.not_missing {name : String} {fields : List (String × Value)}
    (parts : HasParts (.obj fields) i e c) (named : name ∈ fieldNames) :
    ¬ ∀ f ∈ fields, f.1 ≠ name := by
  intro missing
  have nothing := findField?_eq_none_iff.2 missing
  cases parts with
  | fields hi he hc =>
    simp only [fieldNames, List.mem_cons, List.not_mem_nil, or_false] at named
    rcases named with rfl | rfl | rfl
    · cases hi.symm.trans nothing
    · cases he.symm.trans nothing
    · cases hc.symm.trans nothing

theorem refused_of_ofValue? (h : ofValue? v = none) : Refused v := by
  cases v with
  | arr vs =>
    match vs with
    | [i, e, c] => exact (HasParts.elems i e c).refused h
    | [] | [_] | [_, _] | _ :: _ :: _ :: _ :: _ => exact .length (by simp)
  | obj fields =>
    rcases hasParts_or_missing fields with ⟨i, e, c, parts⟩ | ⟨name, named, missing⟩
    · exact parts.refused h
    · exact .missing named missing
  | _ => exact .scalar nofun nofun

theorem Refused.ofValue? (refused : Refused v) : ofValue? v = none := by
  refine Option.eq_none_iff_forall_ne_some.2 fun s h => ?_
  obtain ⟨i, e, c, parts⟩ := hasParts_of_ofValue? h
  cases refused with
  | scalar array object =>
    cases parts with
    | fields => exact object _ rfl
    | elems => exact array _ rfl
  | length ne =>
    cases parts
    exact ne rfl
  | missing named missing => exact parts.not_missing named missing
  | parts parts ill => cases h.symm.trans (parts.ofValue?_eq.trans ill.ofParts?)

/-! ## States and their documents -/

/-- A state whose offset is a word is read from its document, from its fields among any others in
any order, and from the array of its parts. What is read has a document that reads as the same
state. All other documents are refused: those that are neither an object with the three fields nor
an array of three elements, and those with a part of the wrong type. -/
theorem documents_denote_states :
    (∀ s : State, s.index ≤ maxWord →
      ofValue? s.toValue = some s ∧
        (∀ extra fields, (∀ f ∈ extra, f.1 ∉ fieldNames) → fields.Perm (s.toFields ++ extra) →
          ofValue? (.obj fields) = some s) ∧
        ofValue? (.arr [.nat s.index, .arr (s.expected.map .str), .obj s.context.entries]) =
          some s) ∧
      (∀ v s, ofValue? v = some s → ofValue? s.toValue = some s) ∧
      ∀ v, ofValue? v = none ↔ Refused v := by
  have reads (s : State) (word : s.index ≤ maxWord) {v : Value}
      (parts : HasParts v (.nat s.index) (.arr (s.expected.map .str)) (.obj s.context.entries)) :
      ofValue? v = some s :=
    ofValue?_eq_some_iff.2 ⟨word, _, s.context.ofList_entries, parts⟩
  have among (s : State) (word : s.index ≤ maxWord) (extra fields : List (String × Value))
      (unknown : ∀ f ∈ extra, f.1 ∉ fieldNames) (order : fields.Perm (s.toFields ++ extra)) :
      ofValue? (.obj fields) = some s := reads s word (hasParts_of_perm unknown order)
  have alone (s : State) (word : s.index ≤ maxWord) : ofValue? s.toValue = some s := by
    rw [toValue_eq]
    exact among s word [] s.toFields nofun (.of_eq (List.append_nil _).symm)
  refine ⟨fun s word => ⟨alone s word, among s word, reads s word (.elems ..)⟩, fun v s h => ?_,
    fun v => ⟨refused_of_ofValue?, Refused.ofValue?⟩⟩
  exact alone s (ofValue?_eq_some_iff.1 h).1

/-- The state at the last offset, with a label that stands twice, is read from an array and from
among fields that are called almost as its own; an offset behind the last is refused. -/
theorem documents_denote_states_last :
    let s : State := ⟨maxWord, ["digit", "digit"], .ofList [("index", .arr [.int (-1), .obj []])]⟩
    let extra := [("Index", Value.null), ("labels", .arr [.int 1])]
    s.index ≤ maxWord ∧ (∀ f ∈ extra, f.1 ∉ fieldNames) ∧
      ofValue? (.obj (extra ++ s.toFields)) = some s ∧
      ofValue? (.arr [.nat maxWord, .arr [.str "digit", .str "digit"],
        .obj [("index", .arr [.int (-1), .obj []])]]) = some s ∧
      ofValue? s.toValue = some s ∧
      ofValue? (.arr [.int (maxWord + 1), .arr [], .obj []]) = none := by
  intro s extra
  have word : s.index ≤ maxWord := Nat.le_refl maxWord
  have unknown : ∀ f ∈ extra, f.1 ∉ fieldNames := by decide
  obtain ⟨reads, again, refuses⟩ := documents_denote_states
  obtain ⟨-, among, array⟩ := reads s word
  refine ⟨word, unknown, among extra _ unknown List.perm_append_comm, array, again _ s array, ?_⟩
  refine (refuses _).2 (.parts (.elems ..) (.index fun n hn eq => ?_))
  have same : (maxWord : Int) + 1 = n := Value.int.inj eq
  omega

end Descent.State
