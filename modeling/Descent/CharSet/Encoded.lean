import Descent.CharSet

/-!
The encoded forms of the characters of a set.

In UTF-8 a character is one to four bytes. `CharSet.encoded` cuts a set into pieces that are encoded
alike: a piece is a list of ranges of bytes, and its characters are all those whose first byte is in
the first range, whose second byte is in the second range, and so on.
-/

namespace Descent

/-- Ranges of bytes, one for each byte of a character. -/
abbrev Encoded := List (Nat × Nat)

namespace Encoded

/-- The numbers from `lo` to `hi`, written with `k` digits of six bits behind a first digit. -/
def ofDigits : (k : Nat) → (lo hi : Nat) → List Encoded
  | 0, lo, hi => [[(lo, hi)]]
  | k + 1, lo, hi =>
    let unit := Nat.pow 64 (k + 1)
    let first := lo / unit
    let last := hi / unit
    let low := lo % unit
    let high := hi % unit
    if first = last ∧ (low ≠ 0 ∨ high ≠ unit - 1) then
      (ofDigits k low high).map ((first, first) :: ·)
    else
      let head := if low = 0 then [] else (ofDigits k low (unit - 1)).map ((first, first) :: ·)
      let tail := if high = unit - 1 then [] else (ofDigits k 0 high).map ((last, last) :: ·)
      let begin := if low = 0 then first else first + 1
      let stop := if high = unit - 1 then last + 1 else last
      let middle :=
        if begin < stop then [(begin, stop - 1) :: List.replicate (k + 1) (0, 63)] else []
      head ++ middle ++ tail

/-- The characters from `lo` to `hi`, of which those with `k + 1` bytes are the ones from `least` to
`greatest`; their first byte is `mark` and the first digit. -/
def ofLength (k least greatest mark lo hi : Nat) : List Encoded :=
  let lo := max lo least
  let hi := min hi greatest
  if lo ≤ hi then (ofDigits k lo hi).map fun
    | [] => []
    | (a, b) :: rest => (mark + a, mark + b) :: rest.map fun (a, b) => (0x80 + a, 0x80 + b)
  else []

/-- The characters from `lo` to `hi`. -/
def ofRange (lo hi : Nat) : List Encoded :=
  ofLength 0 0 0x7f 0 lo hi ++ ofLength 1 0x80 0x7ff 0xc0 lo hi ++
    ofLength 2 0x800 0xffff 0xe0 lo hi ++ ofLength 3 0x10000 0x10ffff 0xf0 lo hi

end Encoded

/-- The pieces of a set that are encoded alike. -/
def CharSet.encoded (set : CharSet) : List Encoded :=
  set.ranges.toList.flatMap fun (lo, hi) => Encoded.ofRange lo hi

end Descent
