import Descent.Proofs.Patterns.Reading

/-!
# Reading a bracketed class inside of a group

A class reads alike with a parenthesis behind the pattern (`Bracket.read?_alike`). Its readers look
further ahead than others: for the end of a class name, and for what follows a hyphen behind white
space and comments. In both places the parenthesis is not what they look for.
-/

namespace Descent.Regex

namespace Bracket

variable (sets : List Char → Option CharSet) {n m : Nat}

/-- Reads the name of a class behind the sign of negation. -/
def asciiName? (negated : Bool) (cs : List Char) : Option (Bool × CharSet × List Char) :=
  match cs.dropWhile (· ≠ ':') with
  | ':' :: ']' :: rest => (ascii? (cs.takeWhile (· ≠ ':'))).map (negated, ·, rest)
  | _ => none

theorem asciiName?_colon {front : List Char} (h : ':' ∉ front) (negated : Bool)
    (back : List Char) : asciiName? negated (front ++ ':' :: back) =
      if back.head? = some ']' then (ascii? front).map (negated, ·, back.tail) else none := by
  have other : ∀ c ∈ front, decide (c ≠ ':') = true := fun c hc =>
    decide_eq_true fun e => h (e ▸ hc)
  have drop : (front ++ ':' :: back).dropWhile (fun c => decide (c ≠ ':')) = ':' :: back := by
    rw [List.dropWhile_append_of_pos other]
    rfl
  have take : (front ++ ':' :: back).takeWhile (fun c => decide (c ≠ ':')) = front := by
    rw [List.takeWhile_append_of_pos other]
    exact List.append_nil front
  rw [asciiName?, drop, take]
  rcases back with _ | ⟨c, back⟩
  · rfl
  · by_cases bracket : c = ']' <;> simp [bracket]

theorem asciiName?_eq_none {cs : List Char} (h : ':' ∉ cs) (negated : Bool) :
    asciiName? negated cs = none := by
  have other : ∀ c ∈ cs, decide (c ≠ ':') = true := fun c hc =>
    decide_eq_true fun e => h (e ▸ hc)
  rw [asciiName?, ← List.append_nil cs, List.dropWhile_append_of_pos other]
  rfl

/-- A parenthesis behind the name of a class is no part of it. -/
theorem asciiName?_append (negated : Bool) (cs : List Char) : asciiName? negated (cs ++ [')']) =
    (asciiName? negated cs).map fun (negated, set, rest) => (negated, set, rest ++ [')']) := by
  by_cases colon : ':' ∈ cs
  · obtain ⟨front, back, rfl, hf⟩ := List.eq_append_cons_of_mem colon
    rw [List.append_assoc, List.cons_append, asciiName?_colon hf, asciiName?_colon hf]
    rcases back with _ | ⟨c, back⟩
    · rfl
    · by_cases bracket : c = ']' <;> simp [bracket, Function.comp_def]
  · have colon' : ':' ∉ cs ++ [')'] := by simpa using colon
    rw [asciiName?_eq_none colon, asciiName?_eq_none colon']
    rfl

theorem readAscii?_append (cs : List Char) : readAscii? (cs ++ [')']) =
    (readAscii? cs).map fun (negated, set, rest) => (negated, set, rest ++ [')']) := by
  rcases cs with _ | ⟨c, cs⟩
  · rfl
  by_cases colon : c = ':'
  · subst colon
    rcases cs with _ | ⟨d, cs⟩
    · rfl
    by_cases negated : d = '^'
    · subst negated
      exact asciiName?_append true cs
    · have plain : ∀ es, readAscii? (':' :: d :: es) = asciiName? false (d :: es) := fun es => by
        simp only [readAscii?, List.cons.injEq, negated, false_and, imp_self, implies_true]
        rfl
      exact (plain _).trans ((asciiName?_append false (d :: cs)).trans (by rw [plain]))
  · simp [readAscii?, colon]

theorem readItem?_alike (flags : Flags) :
    ReadAlike (readItem? sets flags) (readItem? sets flags) := by
  refine .ofCons rfl fun c cs cs' a rest enclosed h => ?_
  by_cases escape : c = '\\'
  · subst escape
    exact Escape.read?_alike sets flags enclosed h
  · simp only [readItem?] at h ⊢
    cases h
    exact ⟨cs', rfl, enclosed⟩

theorem seek_append (comment : Bool) (cs : List Char) :
    Flags.peek?.seek comment (cs ++ [')']) = some ((Flags.peek?.seek comment cs).getD ')') := by
  induction cs generalizing comment with
  | nil => cases comment <;> rfl
  | cons c cs ih =>
    simp only [List.cons_append, Flags.peek?.seek]
    split
    · exact ih comment
    · split
      · exact ih true
      · rfl

theorem head?_of_seek_eq_none {cs : List Char} {c : Char} (h : Flags.peek?.seek false cs = none)
    (head : cs.head? = some c) : CharSet.whiteSpace.contains c = true ∨ c = '#' := by
  cases cs with
  | nil => cases head
  | cons d cs =>
    cases head
    simp only [Flags.peek?.seek] at h
    grind

/-- What is seen ahead does not change, unless it is the parenthesis. -/
theorem peek?_eq_some_iff {flags : Flags} {cs cs' : List Char} {c : Char}
    (enclosed : Enclosed cs cs') (hc : c ≠ ')') (space : CharSet.whiteSpace.contains c = false)
    (sign : c ≠ '#') : flags.peek? cs' = some c ↔ flags.peek? cs = some c := by
  cases enclosed with
  | closing =>
    unfold Flags.peek?
    split
    · rw [seek_append]
      cases hs : Flags.peek?.seek false cs with
      | some d => simp
      | none =>
        have other : cs.head? ≠ some c := fun head => by
          rcases head?_of_seek_eq_none hs head with h | h
          · rw [h] at space
            cases space
          · exact sign h
        simp [hc.symm, other]
    · exact (Enclosed.closing cs).head?_eq_some_iff hc
  | swallowed => rfl

/-- Whether a hyphen comes next that is no member of the class itself. -/
def isRange (flags : Flags) : List Char → Bool
  | '-' :: rest => flags.peek? rest != some ']' && flags.peek? rest != some '-'
  | _ => false

/-- Reads the last item of a range. -/
def rangeFrom? (flags : Flags) (first : Escape) (cs : List Char) : Option (Bracket × List Char) :=
  (readItem? sets flags cs).bind fun (last, rest) =>
    match first, last with
    | .literal a, .literal b =>
      if a ≤ b ∧ (flags.unicode || b.toNat < 128) then some (ofSet (.range a b), rest) else none
    | _, _ => none

def single? (flags : Flags) : Escape → Option Bracket
  | .literal c => literal? flags c
  | .oneOf set => some (ofSet set)
  | .condition _ => none

theorem readRange?_eq (flags : Flags) (cs : List Char) : readRange? sets flags cs =
    (readItem? sets flags cs).bind fun (first, cs) =>
      if isRange flags (flags.skip cs) then
        rangeFrom? sets flags first (flags.skip (flags.skip cs).tail)
      else (single? flags first).map (·, flags.skip cs) := by
  rw [readRange?]
  cases readItem? sets flags cs with
  | none => rfl
  | some item =>
    obtain ⟨first, cs⟩ := item
    cases first with
    | literal c =>
      refine congrArg (ite _ _) ?_
      cases h : literal? flags c <;> simp [single?, h]
    | oneOf | condition => rfl

theorem isRange_eq {flags : Flags} {cs cs' : List Char} (enclosed : Enclosed cs cs') :
    isRange flags cs' = isRange flags cs := by
  by_cases hyphen : ∃ ds, cs = '-' :: ds
  · obtain ⟨ds, rfl⟩ := hyphen
    obtain ⟨ds', rfl, behind⟩ := enclosed.cons
    have bracket : flags.peek? ds' = some ']' ↔ flags.peek? ds = some ']' :=
      peek?_eq_some_iff behind (by decide) rfl (by decide)
    have second : flags.peek? ds' = some '-' ↔ flags.peek? ds = some '-' :=
      peek?_eq_some_iff behind (by decide) rfl (by decide)
    rw [Bool.eq_iff_iff]
    simp only [isRange, Bool.and_eq_true, bne_iff_ne, ne_eq, bracket, second]
  · have none : ∀ ds, cs = '-' :: ds → False := fun ds e => hyphen ⟨ds, e⟩
    rw [isRange, isRange]
    · exact none
    · exact enclosed.ne_cons (by decide) none

theorem rangeFrom?_alike (flags : Flags) (first : Escape) :
    ReadAlike (rangeFrom? sets flags first) (rangeFrom? sets flags first) := by
  intro cs cs' a rest enclosed h
  obtain ⟨last, mid, mid', hl, behind, h⟩ := (readItem?_alike sets flags).bind_eq_some enclosed h
  rw [rangeFrom?, hl, Option.bind_some]
  dsimp only at h ⊢
  split at h
  · split at h
    · rename_i ok
      cases h
      exact ⟨mid', if_pos ok, behind⟩
    · cases h
  · cases h

theorem readRange?_alike (flags : Flags) :
    ReadAlike (readRange? sets flags) (readRange? sets flags) := by
  intro cs cs' a rest enclosed h
  rw [readRange?_eq] at h ⊢
  obtain ⟨first, mid, mid', hf, behind, h⟩ := (readItem?_alike sets flags).bind_eq_some enclosed h
  have skipped := behind.skip flags
  rw [hf, Option.bind_some]
  dsimp only at h ⊢
  rw [isRange_eq skipped]
  split at h
  · rename_i range
    rw [if_pos range]
    exact rangeFrom?_alike sets flags first (skipped.tail.skip flags) h
  · rename_i range
    rw [if_neg range]
    exact ReadAlike.map_some _ skipped h

theorem readHyphens?_alike (flags : Flags) (hnm : n ≤ m) (members : Members) :
    ReadAlike (readHyphens? flags n members) (readHyphens? flags m members) := by
  induction n generalizing m members with
  | zero => exact nofun
  | succ n ih =>
    obtain ⟨m, rfl⟩ := Nat.exists_eq_add_of_le' hnm
    intro cs cs' a rest enclosed h
    cases cs with
    | nil => cases h
    | cons c cs =>
      obtain ⟨ds, rfl, behind⟩ := enclosed.cons
      simp only [readHyphens?] at h ⊢
      split at h
      · rename_i hyphen
        rw [if_pos hyphen]
        exact ih (Nat.le_of_succ_le_succ hnm) _ (behind.skip flags) h
      · rename_i other
        rw [if_neg other]
        cases h
        exact ⟨_, rfl, enclosed⟩

/-- Reads the start of a class behind the sign of negation. -/
def openFrom? (flags : Flags) (negated : Bool) (cs : List Char) :
    Option (Bool × Members × List Char) :=
  (readHyphens? flags (cs.length + 1) .none cs).bind fun (hyphens, rest) =>
    match rest with
    | ']' :: after =>
      if hyphens.count ≠ 0 then some (negated, hyphens, rest)
      else if flags.skip after = [] then none
      else some (negated, hyphens.add (ofSet (.single ']')), flags.skip after)
    | _ => some (negated, hyphens, rest)

theorem readOpening?_eq (flags : Flags) (cs : List Char) : readOpening? flags cs =
    match flags.skip cs with
    | '^' :: rest => openFrom? flags true (flags.skip rest)
    | cs => openFrom? flags false cs := by
  rw [readOpening?]
  generalize flags.skip cs = ds
  rcases ds with _ | ⟨c, ds⟩
  · rfl
  · by_cases caret : c = '^'
    · subst caret
      rfl
    · simp only [List.cons.injEq, caret, false_and, imp_self, implies_true]
      rfl

theorem openFrom?_alike {flags : Flags} {negated sign : Bool} {members : Members}
    {cs cs' rest : List Char} (enclosed : Enclosed cs cs')
    (h : openFrom? flags negated cs = some (sign, members, rest)) :
    ∃ rest', openFrom? flags negated cs' = some (sign, members, rest') ∧ Enclosed rest rest' := by
  obtain ⟨hyphens, mid, mid', hm, behind, h⟩ := (readHyphens?_alike flags
    (Nat.succ_le_succ enclosed.length_le) .none).bind_eq_some enclosed h
  dsimp only at h
  split at h
  · rename_i after
    obtain ⟨after', rfl, inside⟩ := behind.cons
    split at h
    · rename_i hyphen
      cases h
      exact ⟨_, by simp only [openFrom?, hm, Option.bind_some, if_pos hyphen], behind⟩
    · rename_i first
      split at h
      · cases h
      · rename_i more
        cases h
        have more' : ¬ flags.skip after' = [] := fun e => more (e ▸ inside.skip flags).eq_nil
        exact ⟨_, by simp only [openFrom?, hm, Option.bind_some, if_neg first, if_neg more'],
          inside.skip flags⟩
  · rename_i other
    cases h
    refine ⟨mid', ?_, behind⟩
    rw [openFrom?, hm, Option.bind_some]
    dsimp only
    split
    · exact (behind.ne_cons (by decide) other _ rfl).elim
    · rfl

theorem readOpening?_alike {flags : Flags} {negated : Bool} {members : Members}
    {cs cs' rest : List Char} (enclosed : Enclosed cs cs')
    (h : readOpening? flags cs = some (negated, members, rest)) :
    ∃ rest', readOpening? flags cs' = some (negated, members, rest') ∧ Enclosed rest rest' := by
  rw [readOpening?_eq] at h ⊢
  split at h
  · rename_i ds hs
    obtain ⟨ds', hs', behind⟩ := enclosed.skip_cons hs
    rw [hs']
    exact openFrom?_alike (behind.skip flags) h
  · rename_i other
    split
    · rename_i ds' hs'
      exact ((enclosed.skip flags).ne_cons (by decide) other ds' hs').elim
    · exact openFrom?_alike (enclosed.skip flags) h

theorem readAscii?_eq_none {cs cs' : List Char} (enclosed : Enclosed cs cs')
    (h : readAscii? cs = none) : readAscii? cs' = none := by
  cases enclosed with
  | closing => rw [readAscii?_append, h, Option.map_none]
  | swallowed => exact h

theorem readAscii?_alike {negated : Bool} {set : CharSet} {cs cs' rest : List Char}
    (enclosed : Enclosed cs cs') (h : readAscii? cs = some (negated, set, rest)) :
    ∃ rest', readAscii? cs' = some (negated, set, rest') ∧ Enclosed rest rest' := by
  cases enclosed with
  | closing =>
    refine ⟨rest ++ [')'], ?_, .closing rest⟩
    rw [readAscii?_append, h, Option.map_some]
  | swallowed => cases h

theorem readMembers?_alike (flags : Flags) (hnm : n ≤ m) (f : Frame) (outer : List Frame) :
    ReadAlike (readMembers? sets flags n f outer) (readMembers? sets flags m f outer) := by
  induction n generalizing m f outer with
  | zero => exact nofun
  | succ n ih =>
    obtain ⟨m, rfl⟩ := Nat.exists_eq_add_one_of_ne_zero (Nat.ne_zero_of_lt hnm)
    replace ih := @ih m (Nat.le_of_succ_le_succ hnm)
    intro cs cs' a rest enclosed h
    unfold readMembers? at h
    split at h
    · cases h
    · -- a class inside of the class
      rename_i hs
      obtain ⟨ds', hs', behind⟩ := enclosed.skip_cons hs
      split at h
      · rename_i ascii
        obtain ⟨after', ascii', inside⟩ := readAscii?_alike behind ascii
        split at h
        · rename_i closes
          simp only [readMembers?, hs', ascii', closes]
          exact ih _ _ inside h
        · cases h
      · rename_i ascii
        split at h
        · rename_i opening
          obtain ⟨after', opening', inside⟩ := readOpening?_alike behind opening
          simp only [readMembers?, hs', readAscii?_eq_none behind ascii, opening']
          exact ih _ _ inside h
        · cases h
    · -- the end of a class
      rename_i hs
      obtain ⟨ds', hs', behind⟩ := enclosed.skip_cons hs
      split at h
      · rename_i closes
        cases h
        exact ⟨ds', by simp only [readMembers?, hs', closes], behind⟩
      · rename_i closes
        simp only [readMembers?, hs', closes]
        exact ih _ _ behind h
      · cases h
    -- an operation
    case h_4 | h_5 | h_6 =>
      rename_i hs
      obtain ⟨_, hs', sign⟩ := enclosed.skip_cons hs
      obtain ⟨ds', rfl, behind⟩ := sign.cons
      simp only [readMembers?, hs']
      exact ih _ _ behind h
    · -- a range or an item
      rename_i empty bracket closing and minus tilde
      have skipped := enclosed.skip flags
      split at h
      · rename_i range
        obtain ⟨after', range', inside⟩ := readRange?_alike sets flags skipped range
        unfold readMembers?
        split
        case h_1 hs' => exact (empty (hs' ▸ skipped).eq_nil).elim
        case h_2 hs' => exact (skipped.ne_cons (by decide) bracket _ hs').elim
        case h_3 hs' => exact (skipped.ne_cons (by decide) closing _ hs').elim
        case h_4 hs' => exact (skipped.ne_cons_cons (by decide) (by decide) and _ hs').elim
        case h_5 hs' => exact (skipped.ne_cons_cons (by decide) (by decide) minus _ hs').elim
        case h_6 hs' => exact (skipped.ne_cons_cons (by decide) (by decide) tilde _ hs').elim
        case h_7 =>
          rw [range']
          exact ih _ _ inside h
      · cases h

theorem read?_alike (flags : Flags) : ReadAlike (read? sets flags) (read? sets flags) := by
  intro cs cs' a rest enclosed h
  obtain ⟨⟨negated, members, mid⟩, ho, h⟩ := Option.bind_eq_some_iff.1 h
  obtain ⟨mid', ho', behind⟩ := readOpening?_alike enclosed ho
  rw [read?, ho', Option.bind_eq_bind, Option.bind_some]
  exact readMembers?_alike sets flags (Nat.succ_le_succ behind.length_le) _ [] behind h

end Bracket

end Descent.Regex
