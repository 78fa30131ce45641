import Descent.Regex.Pattern

/-!
# Reading a pattern inside of a group

A pattern may be read alone, or with a closing parenthesis behind it. Up to its end both readings
take the same steps (`ReadAlike`): no reader looks so far ahead that it minds the parenthesis, apart
from a comment, which may swallow it.
-/

namespace Descent.Regex

variable {α β : Type}

/-- What is left of a pattern that is read alone, and of the same with a closing parenthesis behind
it, which may have been swallowed by a comment. -/
inductive Enclosed : List Char → List Char → Prop where
  | closing (cs : List Char) : Enclosed cs (cs ++ [')'])
  | swallowed : Enclosed [] []

/-- Where the first reader reads a pattern that stands alone, the second reads the same of the
pattern with a parenthesis behind it. -/
def ReadAlike (read read' : List Char → Option (α × List Char)) : Prop :=
  ∀ ⦃cs cs' a rest⦄, Enclosed cs cs' → read cs = some (a, rest) →
    ∃ rest', read' cs' = some (a, rest') ∧ Enclosed rest rest'

namespace Enclosed

variable {cs cs' : List Char} {c : Char}

theorem length_le (h : Enclosed cs cs') : cs.length ≤ cs'.length := by
  cases h with
  | closing => simp
  | swallowed => exact Nat.le_refl 0

theorem eq_nil (h : Enclosed cs []) : cs = [] := by
  generalize e : [] = cs' at h
  cases h with
  | closing => simp at e
  | swallowed => rfl

theorem cons (h : Enclosed (c :: cs) cs') : ∃ ds, cs' = c :: ds ∧ Enclosed cs ds := by
  generalize e : c :: cs = ds at h
  cases h with
  | closing =>
    subst e
    exact ⟨_, rfl, .closing cs⟩
  | swallowed => cases e

theorem tail (h : Enclosed cs cs') : Enclosed cs.tail cs'.tail := by
  cases h with
  | closing =>
    cases cs with
    | nil => exact .swallowed
    | cons c cs => exact .closing cs
  | swallowed => exact .swallowed

theorem head?_eq_some_iff (h : Enclosed cs cs') (hc : c ≠ ')') :
    cs'.head? = some c ↔ cs.head? = some c := by
  cases h with
  | closing =>
    cases cs with
    | nil => simp [hc.symm]
    | cons => rfl
  | swallowed => rfl

theorem dropWhile (h : Enclosed cs cs') {p : Char → Bool} (hp : p ')' = false) :
    Enclosed (cs.dropWhile p) (cs'.dropWhile p) := by
  cases h with
  | closing =>
    induction cs with
    | nil =>
      rw [List.nil_append, List.dropWhile_cons_of_neg (by simp [hp])]
      exact .closing []
    | cons c cs ih =>
      by_cases drop : p c = true
      · rwa [List.cons_append, List.dropWhile_cons_of_pos drop, List.dropWhile_cons_of_pos drop]
      · rw [List.cons_append, List.dropWhile_cons_of_neg drop, List.dropWhile_cons_of_neg drop]
        exact .closing (c :: cs)
  | swallowed => exact .swallowed

theorem dropSpace (h : Enclosed cs cs') (comment : Bool) :
    Enclosed (Flags.dropSpace comment cs) (Flags.dropSpace comment cs') := by
  cases h with
  | closing =>
    induction cs generalizing comment with
    | nil =>
      cases comment with
      | true => exact .swallowed
      | false => exact .closing []
    | cons c cs ih =>
      simp only [List.cons_append, Flags.dropSpace]
      split
      · exact ih _
      · split
        · exact ih _
        · split
          · exact ih _
          · exact .closing (c :: cs)
  | swallowed => exact .swallowed

theorem skip (h : Enclosed cs cs') (flags : Flags) : Enclosed (flags.skip cs) (flags.skip cs') := by
  unfold Flags.skip
  split
  · exact h.dropSpace false
  · exact h

theorem skip_cons {flags : Flags} {ds : List Char} (h : Enclosed cs cs')
    (hs : flags.skip cs = c :: ds) : ∃ ds', flags.skip cs' = c :: ds' ∧ Enclosed ds ds' := by
  have behind := h.skip flags
  rw [hs] at behind
  exact behind.cons

theorem ne_cons (h : Enclosed cs cs') (hc : c ≠ ')') (other : ∀ ds, cs = c :: ds → False)
    (ds : List Char) : cs' = c :: ds → False := by
  rintro rfl
  obtain ⟨ds', e⟩ := List.head?_eq_some_iff.1 ((h.head?_eq_some_iff hc).1 rfl)
  exact other ds' e

theorem ne_cons_cons {d : Char} (h : Enclosed cs cs') (hc : c ≠ ')') (hd : d ≠ ')')
    (other : ∀ ds, cs = c :: d :: ds → False) (ds : List Char) : cs' = c :: d :: ds → False := by
  rintro rfl
  refine h.ne_cons hc (fun ds e => ?_) _ rfl
  subst e
  obtain ⟨_, e, behind⟩ := h.cons
  cases e
  exact behind.ne_cons hd (fun ds e => other ds (e ▸ rfl)) _ rfl

end Enclosed

namespace ReadAlike

variable {read read' : List Char → Option (α × List Char)}

/-- A reader that needs a character reads alike if it does so behind each first character. -/
theorem ofCons (empty : read [] = none)
    (h : ∀ c, ReadAlike (fun cs => read (c :: cs)) (fun cs => read' (c :: cs))) :
    ReadAlike read read' := by
  intro cs cs' a rest enclosed ha
  cases cs with
  | nil => cases empty.symm.trans ha
  | cons c cs =>
    obtain ⟨ds, rfl, behind⟩ := enclosed.cons
    exact h c behind ha

theorem map_some (a? : Option α) :
    ReadAlike (fun cs => a?.map (·, cs)) (fun cs => a?.map (·, cs)) := by
  intro cs cs' b rest enclosed hb
  obtain ⟨a, rfl, e⟩ := Option.map_eq_some_iff.1 hb
  cases e
  exact ⟨cs', rfl, enclosed⟩

theorem skip (h : ReadAlike read read') (flags : Flags) :
    ReadAlike (fun cs => read (flags.skip cs)) (fun cs => read' (flags.skip cs)) :=
  fun _ _ _ _ enclosed hb => h (enclosed.skip flags) hb

theorem bind_eq_some {cs cs' : List Char} {next : α × List Char → Option β} {b : β}
    (h : ReadAlike read read') (enclosed : Enclosed cs cs') (hb : (read cs).bind next = some b) :
    ∃ a mid mid', read' cs' = some (a, mid') ∧ Enclosed mid mid' ∧ next (a, mid) = some b := by
  obtain ⟨⟨a, mid⟩, ha, hb⟩ := Option.bind_eq_some_iff.1 hb
  obtain ⟨mid', ha', enclosed⟩ := h enclosed ha
  exact ⟨a, mid, mid', ha', enclosed, hb⟩

theorem map (h : ReadAlike read read') (f : α → β) :
    ReadAlike (fun cs => (read cs).map fun (a, cs) => (f a, cs))
      (fun cs => (read' cs).map fun (a, cs) => (f a, cs)) := by
  intro cs cs' b rest enclosed hb
  obtain ⟨⟨a, mid⟩, ha, e⟩ := Option.map_eq_some_iff.1 hb
  obtain ⟨mid', ha', enclosed⟩ := h enclosed ha
  cases e
  refine ⟨mid', ?_, enclosed⟩
  show (read' cs').map _ = _
  rw [ha']
  rfl

end ReadAlike

/-! ## Escapes -/

namespace Escape

variable {n m : Nat}

theorem readDigits?_alike (flags : Flags) (n value : Nat) :
    ReadAlike (readDigits? flags n value) (readDigits? flags n value) := by
  induction n generalizing value with
  | zero => exact .map_some _
  | succ n ih =>
    refine .ofCons rfl fun c cs cs' a rest enclosed h => ?_
    simp only [readDigits?] at h ⊢
    obtain ⟨d, hd, h⟩ := Option.bind_eq_some_iff.1 h
    by_cases none : n ≠ 0 ∧ flags.skip cs = []
    · rw [if_pos none] at h
      cases h
    · -- the digit is not the last, or more follows in both readings
      have none' : ¬ (n ≠ 0 ∧ flags.skip cs' = []) :=
        fun ⟨more, e⟩ => none ⟨more, (e ▸ enclosed.skip flags).eq_nil⟩
      rw [if_neg none] at h
      rw [hd, Option.bind_eq_bind, Option.bind_some, if_neg none']
      exact ih _ (enclosed.skip flags) h

theorem readBraced?_alike (flags : Flags) (hnm : n ≤ m) (value : Option Nat) :
    ReadAlike (readBraced? flags n value) (readBraced? flags m value) := by
  induction n generalizing m value with
  | zero => exact nofun
  | succ n ih =>
    obtain ⟨m, rfl⟩ := Nat.exists_eq_add_of_le' hnm
    intro cs cs' a rest enclosed h
    cases hs : flags.skip cs with
    | nil =>
      rw [readBraced?, hs] at h
      cases h
    | cons c ds =>
      obtain ⟨ds', hs', behind⟩ := enclosed.skip_cons hs
      simp only [readBraced?, hs, hs'] at h ⊢
      by_cases closes : c = '\x7d'
      · rw [if_pos closes] at h ⊢
        obtain ⟨k, hk, h⟩ := Option.bind_eq_some_iff.1 h
        obtain ⟨d, hd, h⟩ := Option.bind_eq_some_iff.1 h
        cases h
        exact ⟨flags.skip ds', by simp [hk, hd], behind.skip flags⟩
      · rw [if_neg closes] at h ⊢
        obtain ⟨d, hd, h⟩ := Option.bind_eq_some_iff.1 h
        rw [hd, Option.bind_eq_bind, Option.bind_some]
        exact ih (Nat.le_of_succ_le_succ hnm) _ behind h

theorem readHex?_alike (flags : Flags) (n : Nat) :
    ReadAlike (readHex? flags n) (readHex? flags n) := by
  intro cs cs' a rest enclosed h
  rw [readHex?] at h ⊢
  split at h
  · rename_i ds hs
    obtain ⟨ds', hs', behind⟩ := enclosed.skip_cons hs
    rw [hs']
    exact readBraced?_alike flags (Nat.succ_le_succ behind.length_le) none behind h
  · rename_i other
    split
    · rename_i ds' hs'
      exact ((enclosed.skip flags).ne_cons (by decide) other ds' hs').elim
    · exact readDigits?_alike flags n 0 (enclosed.skip flags) h

theorem readLookName?_alike (flags : Flags) (hnm : n ≤ m) (name : List Char) :
    ReadAlike (readLookName? flags n name) (readLookName? flags m name) := by
  induction n generalizing m name with
  | zero => exact nofun
  | succ n ih =>
    obtain ⟨m, rfl⟩ := Nat.exists_eq_add_of_le' hnm
    refine .ofCons rfl fun c cs cs' a rest enclosed h => ?_
    simp only [readLookName?] at h ⊢
    split at h
    · rename_i letter
      rw [if_pos letter]
      exact ih (Nat.le_of_succ_le_succ hnm) _ (enclosed.skip flags) h
    · rename_i other
      rw [if_neg other]
      split at h
      · rename_i closes
        cases h
        exact ⟨cs', if_pos closes, enclosed⟩
      · cases h

theorem readBraces?_alike (flags : Flags) (hnm : n ≤ m) (front : List Char) :
    ReadAlike (readBraces? flags n front) (readBraces? flags m front) := by
  induction n generalizing m front with
  | zero => exact nofun
  | succ n ih =>
    obtain ⟨m, rfl⟩ := Nat.exists_eq_add_of_le' hnm
    refine .ofCons rfl fun c cs cs' a rest enclosed h => ?_
    simp only [readBraces?] at h ⊢
    split at h
    · rename_i closes
      cases h
      exact ⟨cs', if_pos closes, enclosed⟩
    · rename_i other
      rw [if_neg other]
      exact ih (Nat.le_of_succ_le_succ hnm) _ (enclosed.skip flags) h

theorem readBoundary?_alike (flags : Flags) :
    ReadAlike (readBoundary? flags) (readBoundary? flags) := by
  intro cs cs' a rest enclosed h
  unfold readBoundary? at h
  split at h
  · obtain ⟨ds, rfl, behind⟩ := enclosed.cons
    split at h
    · cases h
    · rename_i c mid hs
      obtain ⟨mid', hs', inside⟩ := behind.skip_cons hs
      simp only [readBoundary?, hs']
      split at h
      · rename_i letter
        obtain ⟨⟨name, back⟩, hn, h⟩ := Option.bind_eq_some_iff.1 h
        obtain ⟨back', hn', after⟩ := readLookName?_alike flags
          (Nat.add_le_add_right inside.length_le 2) [] (hs' ▸ hs ▸ behind.skip flags) hn
        rw [if_pos letter, hn']
        dsimp only [Option.bind_eq_bind, Option.bind_some] at h ⊢
        generalize String.ofList name = key at h ⊢
        split at h
        · cases h
          exact ⟨back', rfl, after⟩
        · cases h
          exact ⟨back', rfl, after⟩
        · cases h
          exact ⟨back', rfl, after⟩
        · cases h
          exact ⟨back', rfl, after⟩
        · cases h
      · rename_i other
        rw [if_neg other]
        cases h
        exact ⟨_, rfl, enclosed⟩
  · rename_i other
    cases h
    unfold readBoundary?
    split
    · exact (enclosed.ne_cons (by decide) other _ rfl).elim
    · exact ⟨cs', rfl, enclosed⟩

theorem readName?_alike (flags : Flags) : ReadAlike (readName? flags) (readName? flags) := by
  intro cs cs' a rest enclosed h
  rw [readName?] at h ⊢
  split at h
  · cases h
  · cases h
  · rename_i ds hs
    obtain ⟨ds', hs', behind⟩ := enclosed.skip_cons hs
    rw [hs']
    have inside := behind.skip flags
    exact readBraces?_alike flags (Nat.succ_le_succ inside.length_le) [] inside h
  · rename_i c ds backslash brace hs
    obtain ⟨ds', hs', behind⟩ := enclosed.skip_cons hs
    cases h
    refine ⟨flags.skip ds', ?_, behind.skip flags⟩
    rw [hs']
    split
    · rename_i e
      cases e
    · rename_i e
      exact (backslash (List.cons.inj e).1).elim
    · rename_i e
      exact (brace (List.cons.inj e).1).elim
    · rename_i e
      cases e
      rfl

theorem readSet?_alike (sets : List Char → Option CharSet) (flags : Flags) :
    ReadAlike (readSet? sets flags) (readSet? sets flags) := by
  intro cs cs' a rest enclosed h
  obtain ⟨name, mid, mid', hn', behind, h⟩ := (readName?_alike flags).bind_eq_some enclosed h
  obtain ⟨set, hset, h⟩ := Option.bind_eq_some_iff.1 h
  split at h
  · rename_i unicode
    cases h
    exact ⟨mid', by simp [readSet?, hn', hset, unicode], behind⟩
  · cases h

theorem readByte?_alike (flags : Flags) : ReadAlike (readByte? flags) (readByte? flags) := by
  intro cs cs' a rest enclosed h
  obtain ⟨c, mid, mid', hc', behind, h⟩ := (readHex?_alike flags 2).bind_eq_some enclosed h
  have brace : (flags.skip cs').head? = some '\x7b' ↔ (flags.skip cs).head? = some '\x7b' :=
    (enclosed.skip flags).head?_eq_some_iff (by decide)
  simp only [← brace] at h
  split at h
  · rename_i ok
    cases h
    refine ⟨mid', ?_, behind⟩
    rw [readByte?, hc', Option.bind_eq_bind, Option.bind_some]
    exact if_pos ok
  · cases h

/-- An escape reads alike: none of them looks at what follows it, but for names in braces. -/
theorem read?_alike (sets : List Char → Option CharSet) (flags : Flags) :
    ReadAlike (read? sets flags) (read? sets flags) := by
  refine .ofCons rfl fun c cs cs' a rest enclosed h => ?_
  dsimp only [read?] at h
  split at h
  case h_25 other =>
    -- a character that stands for itself
    cases other
    split at h
    · cases h
      refine ⟨cs', ?_, enclosed⟩
      simp_all [read?]
    · cases h
  all_goals
    rename_i first
    cases first
  case h_2 => exact (readByte?_alike flags).map _ enclosed h
  case h_3 => exact (readHex?_alike flags 4).map _ enclosed h
  case h_4 => exact (readHex?_alike flags 8).map _ enclosed h
  case h_5 => exact (readSet?_alike sets flags).map _ enclosed h
  case h_6 => exact (readSet?_alike sets flags).map (fun set => oneOf set.compl) enclosed h
  case h_21 => exact (readBoundary?_alike flags).map _ enclosed h
  case h_10 | h_11 | h_12 =>
    obtain ⟨set, hset, e⟩ := Option.map_eq_some_iff.1 h
    cases e
    exact ⟨cs', Option.map_eq_some_iff.2 ⟨set, hset, rfl⟩, enclosed⟩
  all_goals
    cases h
    exact ⟨cs', rfl, enclosed⟩

end Escape

end Descent.Regex
