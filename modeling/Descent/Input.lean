import Descent.Word

/-!
Texts addressed by byte offsets.

An offset counts the bytes of a text in UTF-8. `suffixAt` and `sliceAt` say what a text holds from
an offset on and between two offsets: nothing past the end, and nothing inside a character. `Input`
keeps the suffixes in a table, so that `Input.suffix?` answers in constant time; `suffix?_eq` says
that the table holds what `suffixAt` says.
-/

namespace Descent

/-- The number of bytes of a text in UTF-8. -/
def utf8Length : List Char → Nat
  | [] => 0
  | c :: cs => c.utf8Size + utf8Length cs

@[simp] theorem utf8Length_nil : utf8Length [] = 0 := rfl

@[simp] theorem utf8Length_cons (c : Char) (cs : List Char) :
    utf8Length (c :: cs) = c.utf8Size + utf8Length cs := rfl

@[simp] theorem utf8Length_append (cs ds : List Char) :
    utf8Length (cs ++ ds) = utf8Length cs + utf8Length ds := by
  induction cs with
  | nil => simp
  | cons c cs ih => simp [ih, Nat.add_assoc]

/-- What a text holds from a byte offset on; nothing past its end or inside a character. -/
def suffixAt : List Char → Nat → Option (List Char)
  | cs, 0 => some cs
  | [], _ + 1 => none
  | c :: cs, n + 1 => if c.utf8Size ≤ n + 1 then suffixAt cs (n + 1 - c.utf8Size) else none

/-- The characters of a text that fill its first `n` bytes, if `n` ends a character. -/
def bytePrefix? : List Char → Nat → Option (List Char)
  | _, 0 => some []
  | [], _ + 1 => none
  | c :: cs, n + 1 =>
    if c.utf8Size ≤ n + 1 then (bytePrefix? cs (n + 1 - c.utf8Size)).map (c :: ·) else none

/-- What a text holds between two byte offsets, if both end a character and are in order. -/
def sliceAt (cs : List Char) (start stop : Nat) : Option (List Char) :=
  if start ≤ stop then (suffixAt cs start).bind (bytePrefix? · (stop - start)) else none

theorem suffixAt_zero (cs : List Char) : suffixAt cs 0 = some cs := by cases cs <;> rfl

/-- Skipping a first part that fills `n` bytes leads to what follows it. -/
theorem suffixAt_append (cs ds : List Char) : suffixAt (cs ++ ds) (utf8Length cs) = some ds := by
  induction cs with
  | nil => exact suffixAt_zero ds
  | cons c cs ih =>
    obtain ⟨n, hn⟩ : ∃ n, c.utf8Size + utf8Length cs = n + 1 :=
      ⟨c.utf8Size + utf8Length cs - 1, by have := c.utf8Size_pos; omega⟩
    rw [List.cons_append, utf8Length_cons, hn, suffixAt, if_pos (by omega), ← ih]
    congr 1
    omega

/-- An offset with a suffix splits the text in front of that suffix. -/
theorem eq_append_of_suffixAt {cs rest : List Char} {n : Nat} (h : suffixAt cs n = some rest) :
    ∃ front, cs = front ++ rest ∧ utf8Length front = n := by
  fun_induction suffixAt cs n with
  | case1 => exact ⟨[], by simpa using h, rfl⟩
  | case2 => simp at h
  | case3 c cs n le ih =>
    obtain ⟨front, rfl, hn⟩ := ih h
    exact ⟨c :: front, rfl, by rw [utf8Length_cons]; omega⟩
  | case4 => simp at h

/-- An offset has a suffix exactly when the text splits there. -/
theorem suffixAt_eq_some_iff {cs rest : List Char} {n : Nat} :
    suffixAt cs n = some rest ↔ ∃ front, cs = front ++ rest ∧ utf8Length front = n :=
  ⟨eq_append_of_suffixAt, fun ⟨front, hcs, hn⟩ => hcs ▸ hn ▸ suffixAt_append front rest⟩

/-! ## The table of suffixes -/

/-- The suffixes at every offset of a text, in order, with `none` inside a character. -/
def suffixList : List Char → List (Option (List Char))
  | [] => [some []]
  | c :: cs => some (c :: cs) :: (List.replicate (c.utf8Size - 1) none ++ suffixList cs)

/-- The table followed by the suffixes at every offset of a text. -/
def pushSuffixes : List Char → Array (Option (List Char)) → Array (Option (List Char))
  | [], table => table.push (some [])
  | c :: cs, table =>
    pushSuffixes cs (table.push (some (c :: cs)) ++ Array.replicate (c.utf8Size - 1) none)

theorem toList_pushSuffixes (cs : List Char) (table : Array (Option (List Char))) :
    (pushSuffixes cs table).toList = table.toList ++ suffixList cs := by
  induction cs generalizing table with
  | nil => simp [pushSuffixes, suffixList]
  | cons c cs ih => simp [pushSuffixes, suffixList, ih]

theorem getElem?_suffixList (cs : List Char) (n : Nat) :
    (suffixList cs)[n]?.join = suffixAt cs n := by
  fun_induction suffixAt cs n with
  | case1 cs => cases cs <;> rfl
  | case2 => rfl
  | case3 c cs n le ih =>
    rw [suffixList, List.getElem?_cons_succ, List.getElem?_append_right (by simp; omega), ← ih]
    have := c.utf8Size_pos
    rw [List.length_replicate, show n - (c.utf8Size - 1) = n + 1 - c.utf8Size by omega]
  | case4 c cs n gt =>
    rw [suffixList, List.getElem?_cons_succ, List.getElem?_append_left (by simp; omega),
      List.getElem?_replicate, if_pos (by omega)]
    rfl

theorem length_suffixList (cs : List Char) : (suffixList cs).length = utf8Length cs + 1 := by
  induction cs with
  | nil => rfl
  | cons c cs ih =>
    have := c.utf8Size_pos
    simp [suffixList, ih]
    omega

/-! ## Inputs -/

/-- A text with a table of what follows each byte offset. -/
@[ext]
structure Input where
  chars : List Char
  table : Array (Option (List Char))
  table_eq : table = pushSuffixes chars #[]

namespace Input

def ofChars (cs : List Char) : Input := ⟨cs, pushSuffixes cs #[], rfl⟩

def ofString (s : String) : Input := ofChars s.toList

def byteLength (input : Input) : Nat := input.table.size - 1

/-- How many rounds a repetition without a limit may take: as many as a word counts, and more than
the input has bytes. -/
def maxRounds (input : Input) : Nat := max maxWord (input.byteLength + 1)

def suffix? (input : Input) (start : Nat) : Option (List Char) := input.table[start]?.join

/-- What the input holds from an offset on, or nothing at an offset that splits no text. -/
def suffixD (input : Input) (start : Nat) : List Char := (input.suffix? start).getD []

def slice? (input : Input) (start stop : Nat) : Option (List Char) :=
  if start ≤ stop then (input.suffix? start).bind (bytePrefix? · (stop - start)) else none

@[simp] theorem chars_ofChars (cs : List Char) : (ofChars cs).chars = cs := rfl

theorem byteLength_eq (input : Input) : input.byteLength = utf8Length input.chars := by
  rw [byteLength, input.table_eq, ← Array.length_toList, toList_pushSuffixes]
  simp [length_suffixList]

theorem suffix?_eq (input : Input) (start : Nat) :
    input.suffix? start = suffixAt input.chars start := by
  rw [suffix?, input.table_eq, ← Array.getElem?_toList, toList_pushSuffixes]
  simp [getElem?_suffixList]

theorem slice?_eq (input : Input) (start stop : Nat) :
    input.slice? start stop = sliceAt input.chars start stop := by
  rw [slice?, sliceAt, suffix?_eq]

end Input

end Descent
