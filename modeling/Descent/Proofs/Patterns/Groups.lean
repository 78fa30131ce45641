import Descent.Proofs.Patterns.Brackets

/-!
# Reading a pattern as a group

A pattern is read in steps, with the groups that are open on a stack (`Reading.step?`). One that is
well formed by itself closes no group that it has not opened, so that the same steps can be taken
with another group below those on the stack (`Reading.step?_within`). Read to its end, it is one
part of that group (`Reading.run?_within`): between `^(?:` and `)` it stands behind the condition
that holds at the start of a text (`alone?_anchored`).
-/

namespace Descent.Regex

variable {n m : Nat}

/-! ## Openings of groups and bounds of repetitions -/

theorem Flags.read?_alike {flags inner : Flags} {seen : List Char} {on : Bool} {close : Char}
    {cs cs' rest : List Char} (enclosed : Enclosed cs cs')
    (h : flags.read? seen on cs = some (inner, close, rest)) :
    ∃ rest', flags.read? seen on cs' = some (inner, close, rest') ∧ Enclosed rest rest' := by
  induction cs generalizing flags seen on cs' with
  | nil => cases h
  | cons c cs ih =>
    obtain ⟨ds, rfl, behind⟩ := enclosed.cons
    simp only [Flags.read?] at h ⊢
    split at h
    · rename_i ends
      split at h
      · cases h
      · rename_i sign
        cases h
        exact ⟨ds, by rw [if_pos ends, if_neg sign], behind⟩
    · rename_i goes
      rw [if_neg goes]
      split at h
      · cases h
      · rename_i new
        rw [if_neg new]
        split at h
        · rename_i sign
          rw [if_pos sign]
          exact ih behind h
        · rename_i letter
          rw [if_neg letter]
          split at h
          · exact ih behind h
          · cases h

theorem readGroupName?_alike (name : List Char) :
    ReadAlike (readGroupName? name) (readGroupName? name) := by
  intro cs cs' a rest enclosed h
  induction cs generalizing cs' name with
  | nil => cases h
  | cons c cs ih =>
    obtain ⟨ds, rfl, behind⟩ := enclosed.cons
    simp only [readGroupName?] at h ⊢
    split at h
    · rename_i closes
      split at h
      · cases h
      · rename_i named
        cases h
        exact ⟨ds, by rw [if_pos closes, if_neg named], behind⟩
    · rename_i goes
      rw [if_neg goes]
      split at h
      · rename_i letter
        rw [if_pos letter]
        exact ih _ behind h
      · cases h

theorem readOpening?_alike (flags : Flags) :
    ReadAlike (readOpening? flags) (readOpening? flags) := by
  intro cs cs' a rest enclosed h
  have skipped := enclosed.skip flags
  unfold readOpening? at h
  split at h
  · rename_i hs
    obtain ⟨_, hs', sign⟩ := enclosed.skip_cons hs
    obtain ⟨_, rfl, letter⟩ := sign.cons
    obtain ⟨_, rfl, behind⟩ := letter.cons
    simp only [readOpening?, hs']
    exact (readGroupName?_alike []).map _ behind h
  · rename_i hs
    obtain ⟨_, hs', sign⟩ := enclosed.skip_cons hs
    obtain ⟨_, rfl, behind⟩ := sign.cons
    simp only [readOpening?, hs']
    exact (readGroupName?_alike []).map _ behind h
  · cases h
  · -- flags, of which there is at least the sign that ends them
    rename_i ds name angle closing hs
    obtain ⟨ds', hs', behind⟩ := enclosed.skip_cons hs
    obtain ⟨⟨inner, close, rest⟩, hf, h⟩ := Option.bind_eq_some_iff.1 h
    obtain ⟨rest', hf', after⟩ := Flags.read?_alike behind hf
    cases h
    refine ⟨rest', ?_, after⟩
    unfold readOpening?
    rw [hs']
    split
    case h_1 e =>
      exact (behind.ne_cons_cons (by decide) (by decide) name _ (List.cons.inj e).2).elim
    case h_2 e => exact (behind.ne_cons (by decide) angle _ (List.cons.inj e).2).elim
    case h_3 e =>
      cases ds with
      | nil => cases hf
      | cons c ds =>
        obtain ⟨_, rfl, _⟩ := behind.cons
        cases e
        exact (closing ds rfl).elim
    case h_4 e =>
      cases e
      rw [hf']
      rfl
    case h_5 other => exact (other ds' rfl).elim
  · rename_i sign
    cases h
    refine ⟨flags.skip cs', ?_, skipped⟩
    unfold readOpening?
    split
    case h_5 => rfl
    all_goals
      rename_i e
      exact (skipped.ne_cons (by decide) sign _ e).elim

theorem readGreed_alike {cs cs' : List Char} (enclosed : Enclosed cs cs') :
    (readGreed cs').1 = (readGreed cs).1 ∧ Enclosed (readGreed cs).2 (readGreed cs').2 := by
  by_cases lazy : ∃ ds, cs = '?' :: ds
  · obtain ⟨ds, rfl⟩ := lazy
    obtain ⟨ds', rfl, behind⟩ := enclosed.cons
    exact ⟨rfl, behind⟩
  · have greedy : ∀ ds, cs = '?' :: ds → False := fun ds e => lazy ⟨ds, e⟩
    have greedy' := enclosed.ne_cons (by decide) greedy
    rw [readGreed.eq_2 _ greedy, readGreed.eq_2 _ greedy']
    exact ⟨rfl, enclosed⟩

@[simp]
theorem Flags.skip_nil (flags : Flags) : flags.skip [] = [] := by
  unfold Flags.skip
  split <;> rfl

theorem Flags.length_dropSpace_le (comment : Bool) (cs : List Char) :
    (Flags.dropSpace comment cs).length ≤ cs.length := by
  induction cs generalizing comment with
  | nil => exact Nat.le_refl _
  | cons c cs ih =>
    have shorter := fun comment => Nat.le_succ_of_le (ih comment)
    simp only [Flags.dropSpace]
    split
    · exact shorter _
    · split
      · exact shorter _
      · split
        · exact shorter _
        · exact Nat.le_refl _

theorem Flags.length_skip_le (flags : Flags) (cs : List Char) :
    (flags.skip cs).length ≤ cs.length := by
  unfold Flags.skip
  split
  · exact Flags.length_dropSpace_le false cs
  · exact Nat.le_refl _

/-- The digits of a number end at a parenthesis as they end with the text. -/
theorem digits_alike (flags : Flags) {cs cs' : List Char} (enclosed : Enclosed cs cs')
    (hn : cs.length < n) (hm : cs'.length < m) (value : Option Nat) :
    (readNumber?.digits flags m value cs').1 = (readNumber?.digits flags n value cs).1 ∧
      Enclosed (readNumber?.digits flags n value cs).2
        (readNumber?.digits flags m value cs').2 := by
  induction n generalizing m value cs cs' with
  | zero => exact absurd hn (Nat.not_lt_zero _)
  | succ n ih =>
    obtain ⟨m, rfl⟩ := Nat.exists_eq_add_one_of_ne_zero (Nat.ne_zero_of_lt hm)
    cases cs with
    | nil =>
      cases enclosed with
      | closing => exact ⟨rfl, .closing []⟩
      | swallowed => exact ⟨rfl, .swallowed⟩
    | cons c cs =>
      obtain ⟨ds, rfl, behind⟩ := enclosed.cons
      simp only [readNumber?.digits]
      split
      · exact ih (behind.skip flags)
          (Nat.lt_of_le_of_lt (flags.length_skip_le cs) (Nat.lt_of_succ_lt_succ hn))
          (Nat.lt_of_le_of_lt (flags.length_skip_le ds) (Nat.lt_of_succ_lt_succ hm)) _
      · exact ⟨rfl, enclosed⟩

theorem readNumber?_alike (flags : Flags) : ReadAlike (readNumber? flags) (readNumber? flags) := by
  intro cs cs' a rest enclosed h
  have space : CharSet.whiteSpace.contains ')' = false := rfl
  have short : ∀ cs : List Char,
      (cs.dropWhile CharSet.whiteSpace.contains).length < cs.length + 1 := fun cs =>
    Nat.lt_succ_of_le (List.dropWhile_sublist _).length_le
  obtain ⟨value, behind⟩ :=
    digits_alike flags (enclosed.dropWhile space) (short cs) (short cs') none
  have after := (behind.dropWhile space).skip flags
  unfold readNumber? at h ⊢
  dsimp only at h ⊢
  rw [value]
  split at h
  · split at h
    · rename_i small
      cases h
      exact ⟨_, if_pos small, after⟩
    · cases h
  · cases h

/-- Reads the upper bound of a repetition behind the lower one. -/
def readMax? (flags : Flags) (min : Nat) : List Char → Option (Option Nat × List Char)
  | ',' :: cs => match flags.skip cs with
    | '\x7d' :: cs => some (none, '\x7d' :: cs)
    | cs => (readNumber? flags cs).map fun (n, cs) => (some n, cs)
  | cs => some (some min, cs)

theorem readMax?_alike (flags : Flags) (min : Nat) :
    ReadAlike (readMax? flags min) (readMax? flags min) := by
  intro cs cs' a rest enclosed h
  unfold readMax? at h
  split at h
  · obtain ⟨ds, rfl, behind⟩ := enclosed.cons
    split at h
    · rename_i hs
      obtain ⟨mid, hs', inside⟩ := behind.skip_cons hs
      cases h
      exact ⟨_, by simp only [readMax?, hs'], hs' ▸ hs ▸ behind.skip flags⟩
    · rename_i bound
      obtain ⟨rest', hm, after⟩ := ((readNumber?_alike flags).skip flags).map some behind h
      refine ⟨rest', ?_, after⟩
      rw [readMax?]
      split
      · rename_i hs'
        exact ((behind.skip flags).ne_cons (by decide) bound _ hs').elim
      · exact hm
  · rename_i other
    cases h
    rw [readMax?.eq_2 _ _ _ (enclosed.ne_cons (by decide) other)]
    exact ⟨cs', rfl, enclosed⟩

theorem readBounds?_eq (flags : Flags) (cs : List Char) : readBounds? flags cs =
    (readNumber? flags (flags.skip cs)).bind fun (min, cs) =>
      (readMax? flags min cs).bind fun (max, cs) =>
        match cs with
        | '\x7d' :: cs => if max.all (min ≤ ·) then some ((min, max), flags.skip cs) else none
        | _ => none := by
  rw [readBounds?]
  refine congrArg (Option.bind _) (funext fun (min, cs) => ?_)
  dsimp only
  rcases cs with _ | ⟨c, cs⟩
  · rfl
  by_cases comma : c = ','
  · subst comma
    simp only [readMax?]
    generalize flags.skip cs = ds
    rcases ds with _ | ⟨d, ds⟩
    · rfl
    by_cases brace : d = '\x7d'
    · subst brace
      rfl
    · simp only [List.cons.injEq, brace, false_and, imp_self, implies_true]
      rfl
  · simp only [readMax?, List.cons.injEq, comma, false_and, imp_self, implies_true]
    rfl

theorem readBounds?_alike (flags : Flags) :
    ReadAlike (readBounds? flags) (readBounds? flags) := by
  intro cs cs' a rest enclosed h
  rw [readBounds?_eq] at h ⊢
  obtain ⟨min, mid, mid', hmin, behind, h⟩ :=
    ((readNumber?_alike flags).skip flags).bind_eq_some enclosed h
  obtain ⟨max, back, back', hmax, after, h⟩ := (readMax?_alike flags min).bind_eq_some behind h
  dsimp only at h
  split at h
  · obtain ⟨ds, rfl, inside⟩ := after.cons
    split at h
    · rename_i order
      cases h
      exact ⟨flags.skip ds, by simp [hmin, hmax, order], inside.skip flags⟩
    · cases h
  · cases h

/-! ## Steps of reading -/

/-- A reading under way: the innermost open group, those around it, the next number of a group, and
the names in use. -/
structure Reading where
  group : Group
  outer : List Group
  next : Nat
  names : List (List Char)

namespace Reading

variable {sets : List Char → Option CharSet} {s s' : Reading} {c : Char} {cs cs' rest : List Char}

def run? (sets : List Char → Option CharSet) (fuel : Nat) (s : Reading) (cs : List Char) :
    Option Part :=
  readFrom? sets fuel s.group s.outer s.next s.names cs

def start : Reading := ⟨.opened .initial none, [], 1, []⟩

def push (s : Reading) (r : Regex) (depth : Nat) : Reading :=
  { s with group := s.group.push r depth }

/-- Opens a group or sets flags. -/
def open? (s : Reading) : Opening → Option Reading
  | .plain inner => some { s with group := .opened inner none, outer := s.group :: s.outer }
  | .numbered => some
      { s with
        group := .opened s.group.flags (some s.next)
        outer := s.group :: s.outer
        next := s.next + 1 }
  | .named name =>
    if s.names.contains name then none
    else some ⟨.opened s.group.flags (some s.next), s.group :: s.outer, s.next + 1, name :: s.names⟩
  | .setting flags =>
    some { s with group := { s.group with flags, parts := none :: s.group.parts } }

/-- Closes the innermost group, which must not be the pattern itself. -/
def close? (s : Reading) : Option Reading :=
  match s.outer with
  | [] => none
  | around :: outer =>
    some { s with group := around.push s.group.closed.regex s.group.closed.depth, outer }

/-- Counts the last part, as often as was asked for and as greedy as the text says. -/
def repeat? (s : Reading) (min : Nat) (max : Option Nat) (cs : List Char) :
    Option (Reading × List Char) :=
  (s.group.repeatLast? min max (readGreed cs).1).map fun g =>
    ({ s with group := g }, (readGreed cs).2)

/-- Adds what an escape stands for. -/
def pushEscape (s : Reading) : Escape → Reading
  | .literal c => s.push (s.group.flags.literal c) 0
  | .oneOf set => s.push (ofSet set) 0
  | .condition l => s.push (look l) 0

/-- The step that a character asks for, with the text behind it. -/
def step? (sets : List Char → Option CharSet) (s : Reading) (c : Char) (cs : List Char) :
    Option (Reading × List Char) :=
  let flags := s.group.flags
  match c with
  | '(' => (readOpening? flags cs).bind fun (opening, cs) => (s.open? opening).map (·, cs)
  | ')' => s.close?.map (·, cs)
  | '|' => some ({ s with group := s.group.alternate }, cs)
  | '[' => (Bracket.read? sets flags cs).map fun (a, cs) => (s.push (ofSet a.set) a.depth, cs)
  | '?' => s.repeat? 0 (some 1) cs
  | '*' => s.repeat? 0 none cs
  | '+' => s.repeat? 1 none cs
  | '\x7b' => (readBounds? flags cs).bind fun ((min, max), cs) => s.repeat? min max cs
  | '\\' => (Escape.read? sets flags cs).map fun (e, cs) => (s.pushEscape e, cs)
  | '.' => if flags.unicode then some (s.push (ofSet flags.dot) 0, cs) else none
  | '^' => some (s.push (look flags.caret) 0, cs)
  | '$' => some (s.push (look flags.dollar) 0, cs)
  | c => some (s.push (flags.literal c) 0, cs)

theorem repeat?_bind (s : Reading) (min : Nat) (max : Option Nat) (cs : List Char) :
    (s.repeat? min max cs).bind (fun (s, cs) => s.run? sets n cs) =
      match readGreed cs with
      | (greedy, cs) =>
        match s.group.repeatLast? min max greedy with
        | some g => readFrom? sets n g s.outer s.next s.names cs
        | none => none := by
  unfold repeat?
  obtain ⟨greedy, cs⟩ := readGreed cs
  dsimp only
  cases s.group.repeatLast? min max greedy <;> rfl

/-- Reading is stepping up to the end of the pattern, where no group but its own may be open. -/
theorem run?_succ (s : Reading) (cs : List Char) : s.run? sets (n + 1) cs =
    match s.group.flags.skip cs with
    | [] => if s.outer.isEmpty then some s.group.whole else none
    | c :: cs => (s.step? sets c cs).bind fun (s, cs) => s.run? sets n cs := by
  rw [run?, readFrom?]
  generalize s.group.flags.skip cs = ds
  split
  case h_1 => rfl
  case h_2 cs =>
    show _ = ((readOpening? s.group.flags cs).bind _).bind _
    cases readOpening? s.group.flags cs with
    | none => rfl
    | some opening =>
      obtain ⟨opening, cs⟩ := opening
      cases opening with
      | named name =>
        by_cases used : name ∈ s.names
        · simp [open?, used]
        · simp [open?, used, run?]
      | plain | numbered | setting => rfl
  case h_3 cs =>
    show _ = (s.close?.map _).bind _
    unfold close?
    cases s.outer <;> rfl
  case h_4 => rfl
  case h_5 cs =>
    show _ = ((Bracket.read? sets s.group.flags cs).map _).bind _
    cases Bracket.read? sets s.group.flags cs <;> rfl
  case h_6 cs => exact (repeat?_bind s 0 (some 1) cs).symm
  case h_7 cs => exact (repeat?_bind s 0 none cs).symm
  case h_8 cs => exact (repeat?_bind s 1 none cs).symm
  case h_9 cs =>
    show _ = ((readBounds? s.group.flags cs).bind _).bind _
    cases readBounds? s.group.flags cs with
    | none => rfl
    | some bounds =>
      obtain ⟨⟨min, max⟩, cs⟩ := bounds
      exact (repeat?_bind s min max cs).symm
  case h_10 cs =>
    show _ = ((Escape.read? sets s.group.flags cs).map _).bind _
    cases Escape.read? sets s.group.flags cs with
    | none => rfl
    | some e =>
      obtain ⟨e, cs⟩ := e
      cases e <;> rfl
  case h_11 cs =>
    show _ = (ite _ _ _ : Option (Reading × List Char)).bind _
    split <;> rfl
  case h_12 => rfl
  case h_13 => rfl
  case h_14 =>
    simp_all [step?]
    rfl

/-! ## Reading between parentheses -/

/-- The same reading inside of a group. -/
def within (s : Reading) (around : Group) : Reading := { s with outer := s.outer ++ [around] }

variable {around : Group}

theorem open?_within (s : Reading) (around : Group) (o : Opening) :
    (s.within around).open? o = (s.open? o).map (·.within around) := by
  cases o with
  | named name =>
    by_cases used : name ∈ s.names <;> simp [open?, within, used]
  | plain | numbered | setting => rfl

theorem close?_within (h : s.close? = some s') :
    (s.within around).close? = some (s'.within around) := by
  obtain ⟨g, outer, next, names⟩ := s
  cases outer with
  | nil => cases h
  | cons =>
    cases h
    rfl

theorem repeat?_within {min : Nat} {max : Option Nat} (enclosed : Enclosed cs cs')
    (h : s.repeat? min max cs = some (s', rest)) :
    ∃ rest', (s.within around).repeat? min max cs' = some (s'.within around, rest') ∧
      Enclosed rest rest' := by
  obtain ⟨g, hg, e⟩ := Option.map_eq_some_iff.1 h
  obtain ⟨greed, behind⟩ := readGreed_alike enclosed
  cases e
  refine ⟨(readGreed cs').2, ?_, behind⟩
  show (s.group.repeatLast? min max _).map _ = _
  rw [greed, hg]
  rfl

theorem step?_within (around : Group) (enclosed : Enclosed cs cs')
    (h : s.step? sets c cs = some (s', rest)) :
    ∃ rest', (s.within around).step? sets c cs' = some (s'.within around, rest') ∧
      Enclosed rest rest' := by
  unfold step? at h
  dsimp only at h
  split at h
  case h_1 =>
    obtain ⟨opening, mid, mid', ho, behind, h⟩ :=
      (readOpening?_alike s.group.flags).bind_eq_some enclosed h
    obtain ⟨t, ht, e⟩ := Option.map_eq_some_iff.1 h
    have ht' := (open?_within s around opening).trans (congrArg _ ht)
    cases e
    refine ⟨mid', ?_, behind⟩
    show (readOpening? s.group.flags cs').bind _ = _
    rw [ho]
    show ((s.within around).open? opening).map _ = _
    rw [ht']
    rfl
  case h_2 =>
    obtain ⟨t, ht, e⟩ := Option.map_eq_some_iff.1 h
    cases e
    refine ⟨cs', ?_, enclosed⟩
    show (s.within around).close?.map _ = _
    rw [close?_within ht]
    rfl
  case h_4 =>
    obtain ⟨⟨a, mid⟩, ha, e⟩ := Option.map_eq_some_iff.1 h
    obtain ⟨mid', ha', behind⟩ := Bracket.read?_alike sets s.group.flags enclosed ha
    cases e
    refine ⟨mid', ?_, behind⟩
    show (Bracket.read? sets s.group.flags cs').map _ = _
    rw [ha']
    rfl
  case h_5 => exact repeat?_within enclosed h
  case h_6 => exact repeat?_within enclosed h
  case h_7 => exact repeat?_within enclosed h
  case h_8 =>
    obtain ⟨⟨min, max⟩, mid, mid', hb, behind, h⟩ :=
      (readBounds?_alike s.group.flags).bind_eq_some enclosed h
    obtain ⟨rest', hr, after⟩ := repeat?_within behind h
    refine ⟨rest', ?_, after⟩
    show (readBounds? s.group.flags cs').bind _ = _
    rw [hb]
    exact hr
  case h_9 =>
    obtain ⟨⟨e, mid⟩, he, h⟩ := Option.map_eq_some_iff.1 h
    obtain ⟨mid', he', behind⟩ := Escape.read?_alike sets s.group.flags enclosed he
    cases h
    refine ⟨mid', ?_, behind⟩
    show (Escape.read? sets s.group.flags cs').map _ = _
    rw [he']
    cases e <;> rfl
  case h_10 =>
    split at h
    · rename_i unicode
      cases h
      exact ⟨cs', if_pos unicode, enclosed⟩
    · cases h
  case h_13 =>
    cases h
    refine ⟨cs', ?_, enclosed⟩
    simp_all [step?]
    rfl
  case h_3 | h_11 | h_12 =>
    cases h
    exact ⟨cs', rfl, enclosed⟩

/-- The group that stands for the pattern itself. -/
def root (s : Reading) : Group := s.outer.getLast?.getD s.group

theorem root_number_eq (outer : s'.outer = s.outer) (number : s'.group.number = s.group.number) :
    s'.root.number = s.root.number := by
  unfold root
  rw [outer]
  cases s.outer.getLast? with
  | none => exact number
  | some => rfl

theorem open?_root_number {o : Opening} (h : s.open? o = some s') :
    s'.root.number = s.root.number := by
  cases o with
  | setting =>
    cases h
    exact root_number_eq rfl rfl
  | named name =>
    simp only [open?] at h
    split at h
    · cases h
    · cases h
      simp [root, List.getLast?_cons]
  | plain | numbered =>
    cases h
    simp [root, List.getLast?_cons]

theorem close?_root_number (h : s.close? = some s') : s'.root.number = s.root.number := by
  obtain ⟨g, outer, next, names⟩ := s
  cases outer with
  | nil => cases h
  | cons around outer =>
    cases h
    unfold root
    rw [List.getLast?_cons]
    cases outer.getLast? <;> rfl

theorem repeat?_root_number {min : Nat} {max : Option Nat}
    (h : s.repeat? min max cs = some (s', rest)) : s'.root.number = s.root.number := by
  obtain ⟨g, hg, e⟩ := Option.map_eq_some_iff.1 h
  cases e
  refine root_number_eq rfl ?_
  unfold Group.repeatLast? at hg
  split at hg
  · cases hg
    rfl
  · cases hg

theorem step?_root_number (h : s.step? sets c cs = some (s', rest)) :
    s'.root.number = s.root.number := by
  unfold step? at h
  dsimp only at h
  split at h
  case h_1 =>
    obtain ⟨⟨opening, mid⟩, ho, h⟩ := Option.bind_eq_some_iff.1 h
    obtain ⟨t, ht, e⟩ := Option.map_eq_some_iff.1 h
    cases e
    exact open?_root_number ht
  case h_2 =>
    obtain ⟨t, ht, e⟩ := Option.map_eq_some_iff.1 h
    cases e
    exact close?_root_number ht
  case h_4 =>
    obtain ⟨⟨a, mid⟩, ha, e⟩ := Option.map_eq_some_iff.1 h
    cases e
    exact root_number_eq rfl rfl
  case h_5 => exact repeat?_root_number h
  case h_6 => exact repeat?_root_number h
  case h_7 => exact repeat?_root_number h
  case h_8 =>
    obtain ⟨⟨⟨min, max⟩, mid⟩, hb, h⟩ := Option.bind_eq_some_iff.1 h
    exact repeat?_root_number h
  case h_9 =>
    obtain ⟨⟨e, mid⟩, he, h⟩ := Option.map_eq_some_iff.1 h
    cases h
    cases e <;> exact root_number_eq rfl rfl
  case h_10 =>
    split at h
    · cases h
      exact root_number_eq rfl rfl
    · cases h
  case h_3 | h_11 | h_12 | h_13 =>
    cases h
    exact root_number_eq rfl rfl

/-- Behind the end of the pattern stands the parenthesis that ends the group around it. -/
theorem step?_closing {g : Group} {next : Nat} {names : List (List Char)}
    (number : g.number = none) : step? sets ⟨g, [around], next, names⟩ ')' [] =
      some (⟨around.push g.whole.regex (g.whole.depth + 1), [], next, names⟩, []) := by
  have closed : g.closed = ⟨g.whole.regex, g.whole.depth + 1⟩ := by rw [Group.closed, number]
  show some (_, _) = _
  rw [closed]

/-- A pattern that is read to its end is, between parentheses, one part of the group around it. -/
theorem run?_within (hnm : n < m) (enclosed : Enclosed cs cs') (number : s.root.number = none)
    {part part' : Part} (h : s.run? sets n cs = some part)
    (h' : (s.within around).run? sets m cs' = some part') :
    part' = (around.push part.regex (part.depth + 1)).whole := by
  induction n generalizing m s cs cs' with
  | zero => cases h
  | succ n ih =>
    obtain ⟨m, rfl⟩ := Nat.exists_eq_add_one_of_ne_zero (Nat.ne_zero_of_lt hnm)
    have later := Nat.lt_of_succ_lt_succ hnm
    have skipped := enclosed.skip s.group.flags
    rw [run?_succ] at h h'
    change (match s.group.flags.skip cs' with
      | [] => _
      | c :: cs => _) = _ at h'
    generalize s.group.flags.skip cs = ds at h skipped
    generalize s.group.flags.skip cs' = ds' at h' skipped
    cases ds with
    | nil =>
      obtain ⟨g, outer, next, names⟩ := s
      obtain ⟨m, rfl⟩ := Nat.exists_eq_add_one_of_ne_zero (Nat.ne_zero_of_lt later)
      cases outer with
      | nil =>
        cases h
        change g.number = none at number
        cases skipped with
        | closing =>
          have ended : (step? sets ⟨g, [around], next, names⟩ ')' []).bind
            (fun (s, cs) => s.run? sets (m + 1) cs) = some part' := h'
          rw [step?_closing number, Option.bind_some] at ended
          dsimp only at ended
          rw [run?_succ, Flags.skip_nil] at ended
          cases ended
          rfl
        | swallowed => cases h'
      | cons => cases h
    | cons d ds =>
      obtain ⟨ds', rfl, behind⟩ := skipped.cons
      obtain ⟨⟨t, mid⟩, ht, h⟩ := Option.bind_eq_some_iff.1 h
      obtain ⟨mid', ht', after⟩ := step?_within around behind ht
      dsimp only at h'
      rw [ht'] at h'
      exact ih later after ((step?_root_number ht).trans number) h h'

end Reading

/-! ## Patterns that are held at the start -/

/-- What a pattern says when it is read by itself. -/
def alone? (sets : List Char → Option CharSet) (cs : List Char) : Option Part :=
  Reading.start.run? sets (cs.length + 1) cs

/-- A pattern that is well formed by itself, put between `^(?:` and `)`, is the same expression
behind the condition that holds at the start of the text. -/
theorem alone?_anchored {sets : List Char → Option CharSet} {cs : List Char} {part part' : Part}
    (h : alone? sets cs = some part)
    (h' : alone? sets ("^(?:".toList ++ cs ++ [')']) = some part') :
    part'.regex = sequence [look .textStart, part.regex] := by
  -- the first four characters open a group behind the condition
  have inside : (Reading.start.within ((Group.opened .initial none).push (look .textStart) 0)).run?
      sets ((cs ++ [')']).length + 3) (cs ++ [')']) = some part' := h'
  have longer : cs.length + 1 < (cs ++ [')']).length + 3 := by
    rw [List.length_append]
    omega
  rw [Reading.run?_within longer (.closing cs) rfl h inside]
  rfl

end Descent.Regex
