/-!
Sets of numbers below a bound.

A set has a bit for each number, in words of `wordSize` bits. `IndexSet.contains_insert` says what
adding a number does, and `IndexSet.contains_none` that a new set has no members.
-/

namespace Descent

/-- A set of numbers, for which there is room up to a bound. -/
structure IndexSet where
  words : Array Nat

namespace IndexSet

/-- How many numbers a word has bits for. -/
def wordSize : Nat := 32

/-- The set without members, with room for the numbers below the bound. -/
def none (bound : Nat) : IndexSet := ⟨.replicate (bound / wordSize + 1) 0⟩

/-- Whether a number is in the set. -/
def contains (s : IndexSet) (n : Nat) : Bool :=
  ((s.words[n / wordSize]?).getD 0).testBit (n % wordSize)

/-- Adds a number; one without room is left out. -/
def insert (s : IndexSet) (n : Nat) : IndexSet :=
  ⟨s.words.modify (n / wordSize) (· ||| 1 <<< (n % wordSize))⟩

@[simp] theorem contains_none (bound n : Nat) : (none bound).contains n = false := by
  rw [contains, none, Array.getElem?_replicate]
  split <;> simp

/-- After a number with room is added, just that number has come in. -/
theorem contains_insert {s : IndexSet} {m : Nat} (room : m / wordSize < s.words.size) (n : Nat) :
    (s.insert m).contains n = (m = n || s.contains n) := by
  have hn := Nat.div_add_mod n wordSize
  have hm := Nat.div_add_mod m wordSize
  rw [contains, insert, contains, Array.getElem?_modify]
  by_cases h : m / wordSize = n / wordSize
  · have get : s.words[n / wordSize]? = some s.words[n / wordSize] :=
      Array.getElem?_eq_getElem (h ▸ room)
    by_cases e : m % wordSize = n % wordSize
    · have : m = n := by rw [← hm, ← hn, h, e]
      simp [this, get]
    · have : m ≠ n := fun h => e (h ▸ rfl)
      rw [if_pos h, get]
      simp only [Option.map_some, Option.getD_some, Nat.testBit_or, Nat.one_shiftLeft,
        Nat.testBit_two_pow_of_ne e, this, decide_false, Bool.false_or, Bool.or_false]
  · have : m ≠ n := fun e => h (e ▸ rfl)
    simp [h, this]

end IndexSet

end Descent
