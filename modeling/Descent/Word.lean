/-!
Offsets and counts are 64-bit words.
-/

namespace Descent

/-- The greatest offset and the greatest count. -/
def maxWord : Nat := 0xFFFFFFFFFFFFFFFF

end Descent
